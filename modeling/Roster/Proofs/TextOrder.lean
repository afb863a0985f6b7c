import Mathlib.Data.List.Basic
import Roster.Proofs.FirstOccurrences

/-! # The order of a text

Where something stands in a nested text is told by numbers: its place among the outermost items, then
its place inside that item, and so on. Of two positions the one with the smaller number comes first,
where they first differ; whatever holds other things comes before them.

* `Lists`: a list is what stands at some positions, in their order.
* `Lists.flatMap`: the items of a list, one after another.
* `Lists.of_snoc`: what is left of a list when an item counts or not for those before it.
* `Lists.eraseDups`: so a list without its repetitions is what stands somewhere for the first time.
-/

namespace Roster

/-! ## Positions -/

/-- Where something stands in a nested text. -/
abbrev Position := List Nat

namespace Position

/-- One position comes before another. -/
def Before (p q : Position) : Prop := List.Lex (· < ·) p q

variable {p q r : Position}

theorem Before.irrefl (p : Position) : ¬ Before p p := List.lex_irrefl Nat.lt_irrefl p

theorem Before.trans (h : Before p q) (h' : Before q r) : Before p r :=
  List.lex_trans Nat.lt_trans h h'

theorem Before.asymm (h : Before p q) : ¬ Before q p := fun h' => Before.irrefl p (h.trans h')

/-- What does not come before a position comes after all that comes before it. -/
theorem Before.trans_not (h : Before p q) (h' : ¬ Before r q) : Before p r := by
  by_cases hqr : Before q r
  · exact h.trans hqr
  · obtain rfl : q = r :=
      List.lex_trichotomous (fun _ _ hxy hyx => Nat.le_antisymm (Nat.le_of_not_lt hyx)
        (Nat.le_of_not_lt hxy)) h' hqr
    exact h

end Position

/-! ## What stands where -/

/-- A list is what stands at some positions, in their order; `At` tells what stands where. -/
def Lists {α : Type} (At : Position → α → Prop) (items : List α) : Prop :=
  ∃ entries : List (Position × α), entries.Pairwise (fun x y => x.1.Before y.1) ∧
    (∀ p a, (p, a) ∈ entries ↔ At p a) ∧ entries.map (·.2) = items

/-- Something stands at a position among items: the place of an item, and a position in it. -/
inductive Among {α β : Type} (At : β → Position → α → Prop) (xs : List β) : Position → α → Prop
  | inside {i : Nat} {x : β} {p : Position} {a : α} (item : xs[i]? = some x) (here : At x p a) :
      Among At xs (i :: p) a

section Lists

variable {α β : Type} {At At' : Position → α → Prop} {items : List α}

theorem Lists.congr (h : Lists At items) (hiff : ∀ p a, At p a ↔ At' p a) : Lists At' items := by
  obtain ⟨entries, hsorted, hmem, hitems⟩ := h
  exact ⟨entries, hsorted, fun p a => (hmem p a).trans (hiff p a), hitems⟩

theorem Lists.mem_iff (h : Lists At items) {a : α} : a ∈ items ↔ ∃ p, At p a := by
  obtain ⟨entries, -, hmem, rfl⟩ := h
  simp [← hmem]

theorem Lists.nil (h : ∀ p a, ¬ At p a) : Lists At [] :=
  ⟨[], .nil, fun p a => by simp [h p a], rfl⟩

theorem Lists.single (b : α) : Lists (fun p a => p = [] ∧ a = b) [b] :=
  ⟨[([], b)], List.pairwise_singleton _ _, fun p a => by simp, rfl⟩

/-- What holds a list comes before it. -/
theorem Lists.cons (h : Lists At items) (hinner : ∀ a, ¬ At [] a) (b : α) :
    Lists (fun p a => p = [] ∧ a = b ∨ At p a) (b :: items) := by
  obtain ⟨entries, hsorted, hmem, rfl⟩ := h
  refine ⟨([], b) :: entries, List.pairwise_cons.mpr ⟨?_, hsorted⟩, fun p a => ?_, rfl⟩
  · rintro ⟨p, a⟩ hentry
    cases p with
    | nil => exact absurd ((hmem _ _).mp hentry) (hinner a)
    | cons => exact .nil
  · simp [hmem]

theorem among_nil {At : β → Position → α → Prop} {p : Position} {a : α} : ¬ Among At [] p a := by
  rintro ⟨item, -⟩
  cases item

theorem among_cons_zero {At : β → Position → α → Prop} {x : β} {xs : List β} {p : Position} {a : α} :
    Among At (x :: xs) (0 :: p) a ↔ At x p a := by
  constructor
  · rintro ⟨item, here⟩
    obtain rfl := Option.some.inj item
    exact here
  · exact .inside rfl

theorem among_cons_succ {At : β → Position → α → Prop} {x : β} {xs : List β} {i : Nat} {p : Position}
    {a : α} : Among At (x :: xs) ((i + 1) :: p) a ↔ Among At xs (i :: p) a := by
  constructor
  · rintro ⟨item, here⟩
    exact .inside item here
  · rintro ⟨item, here⟩
    exact .inside item here

/-- The items of a list, one after another, their places counted from any number on. -/
theorem Lists.flatMap_from {At : β → Position → α → Prop} {f : β → List α} {xs : List β}
    (h : ∀ x ∈ xs, Lists (At x) (f x)) (start : Nat) :
    Lists (fun p a => ∃ i q, p = (start + i) :: q ∧ Among At xs (i :: q) a) (xs.flatMap f) := by
  -- the rest of the items is counted from one more on
  induction xs generalizing start with
  | nil =>
    refine .nil ?_
    rintro p a ⟨i, q, -, hin⟩
    exact among_nil hin
  | cons x xs ih =>
    obtain ⟨hx, hxs⟩ := List.forall_mem_cons.mp h
    obtain ⟨first, hfirst, hmemFirst, hitemsFirst⟩ := hx
    obtain ⟨more, hmore, hmemMore, hitemsMore⟩ := ih hxs (start + 1)
    refine ⟨first.map (fun e => (start :: e.1, e.2)) ++ more, ?_, fun p a => ?_, ?_⟩
    · rw [List.pairwise_append, List.pairwise_map]
      refine ⟨hfirst.imp fun hbefore => .cons hbefore, hmore, ?_⟩
      rintro e he ⟨p, a⟩ hp
      obtain ⟨e, -, rfl⟩ := List.mem_map.mp he
      obtain ⟨i, q, rfl, -⟩ := (hmemMore p a).mp hp
      exact .rel (by omega)
    · rw [List.mem_append, List.mem_map, hmemMore]
      constructor
      · rintro (⟨e, he, heq⟩ | ⟨i, q, rfl, hin⟩)
        · obtain ⟨rfl, rfl⟩ := Prod.mk.inj heq
          exact ⟨0, e.1, rfl, among_cons_zero.mpr ((hmemFirst _ _).mp he)⟩
        · exact ⟨i + 1, q, by rw [Nat.add_assoc, Nat.add_comm 1], among_cons_succ.mpr hin⟩
      · rintro ⟨i, q, rfl, hin⟩
        cases i with
        | zero => exact .inl ⟨(q, a), (hmemFirst _ _).mpr (among_cons_zero.mp hin), rfl⟩
        | succ i =>
          exact .inr ⟨i, q, by rw [Nat.add_assoc, Nat.add_comm 1], among_cons_succ.mp hin⟩
    · rw [List.map_append, List.map_map, List.flatMap_cons, ← hitemsFirst, ← hitemsMore]
      rfl

/-- The items of a list, one after another. -/
theorem Lists.flatMap {At : β → Position → α → Prop} {f : β → List α} {xs : List β}
    (h : ∀ x ∈ xs, Lists (At x) (f x)) : Lists (Among At xs) (xs.flatMap f) := by
  refine (Lists.flatMap_from h 0).congr fun p a => ?_
  constructor
  · rintro ⟨i, q, rfl, hin⟩
    rwa [Nat.zero_add]
  · rintro ⟨item, here⟩
    exact ⟨_, _, by rw [Nat.zero_add], .inside item here⟩

/-- Some items of a list. -/
theorem Lists.filter (h : Lists At items) (test : α → Bool) :
    Lists (fun p a => At p a ∧ test a = true) (items.filter test) := by
  obtain ⟨entries, hsorted, hmem, rfl⟩ := h
  refine ⟨entries.filter fun e => test e.2, hsorted.filter _, fun p a => ?_, ?_⟩
  · rw [List.mem_filter, hmem]
  · rw [List.filter_map]
    rfl

/-- One more item after all others. -/
theorem Lists.snoc (h : Lists At items) {last : Position}
    (hearlier : ∀ p a, At p a → p.Before last) (z : α) :
    Lists (fun p a => At p a ∨ p = last ∧ a = z) (items ++ [z]) := by
  obtain ⟨entries, hsorted, hmem, rfl⟩ := h
  refine ⟨entries ++ [(last, z)], ?_, fun p a => by simp [hmem], by simp⟩
  rw [List.pairwise_append]
  refine ⟨hsorted, List.pairwise_singleton _ _, ?_⟩
  rintro ⟨p, a⟩ ha e he
  obtain rfl := List.mem_singleton.mp he
  exact hearlier p a ((hmem p a).mp ha)

/-! ## What has been there before -/

/-- Something related to `a` stands before a position. -/
def Known (R : α → α → Prop) (At : Position → α → Prop) (p : Position) (a : α) : Prop :=
  ∃ q b, q.Before p ∧ At q b ∧ R b a

/-- Something stands at a position, and whether something related to it stands before that is as
wanted. -/
def Counts (R : α → α → Prop) (wanted : Prop) (At : Position → α → Prop) (p : Position) (a : α) :
    Prop :=
  At p a ∧ (Known R At p a ↔ wanted)

section Last

variable {R : α → α → Prop} {wanted : Prop} {entries : List (Position × α)} {last : Position} {z : α}
  (hat : ∀ p a, At p a ↔ (p, a) ∈ entries ∨ p = last ∧ a = z)
  (hearlier : ∀ e ∈ entries, e.1.Before last)

include hat hearlier

/-- An item that comes last makes no difference to those before it. -/
theorem known_before_last {p : Position} {a : α} (ha : (p, a) ∈ entries) :
    Known R At p a ↔ Known R (fun q b => (q, b) ∈ entries) p a := by
  constructor
  · rintro ⟨q, b, hbefore, hb, hr⟩
    rcases (hat q b).mp hb with hb | ⟨rfl, rfl⟩
    · exact ⟨q, b, hbefore, hb, hr⟩
    · exact absurd hbefore (hearlier _ ha).asymm
  · rintro ⟨q, b, hbefore, hb, hr⟩
    exact ⟨q, b, hbefore, (hat q b).mpr (.inl hb), hr⟩

/-- Before an item that comes last stand all others. -/
theorem known_last : Known R At last z ↔ ∃ b ∈ entries.map (·.2), R b z := by
  constructor
  · rintro ⟨q, b, hbefore, hb, hr⟩
    rcases (hat q b).mp hb with hb | ⟨rfl, rfl⟩
    · exact ⟨b, List.mem_map_of_mem hb, hr⟩
    · exact absurd hbefore (Position.Before.irrefl _)
  · rintro ⟨b, hb, hr⟩
    obtain ⟨⟨q, b⟩, hentry, rfl⟩ := List.mem_map.mp hb
    exact ⟨q, b, hearlier _ hentry, (hat q b).mpr (.inl hentry), hr⟩

/-- What counts is what counted before, and perhaps the last item. -/
theorem counts_iff (p : Position) (a : α) :
    Counts R wanted At p a ↔ Counts R wanted (fun q b => (q, b) ∈ entries) p a ∨
      (p = last ∧ a = z) ∧ ((∃ b ∈ entries.map (·.2), R b z) ↔ wanted) := by
  rw [Counts, Counts, hat, or_and_right]
  refine or_congr (and_congr_right fun ha => ?_) (and_congr_right ?_)
  · rw [known_before_last hat hearlier ha]
  · rintro ⟨rfl, rfl⟩
    rw [known_last hat hearlier]

end Last

/-- Suppose that an item at the end of a list is added to a result or not, according to whether
something related to it stands in the list. Then the result is what counts, in order. -/
theorem Lists.of_snoc {R : α → α → Prop} {wanted : Prop} {F : List α → List α} (hnil : F [] = [])
    (hkeep : ∀ l a, ((∃ b ∈ l, R b a) ↔ wanted) → F (l ++ [a]) = F l ++ [a])
    (hdrop : ∀ l a, ¬ ((∃ b ∈ l, R b a) ↔ wanted) → F (l ++ [a]) = F l) (h : Lists At items) :
    Lists (Counts R wanted At) (F items) := by
  obtain ⟨entries, hsorted, hmem, rfl⟩ := h
  -- without its last item a listing is one of fewer positions, so the claim is about all of them
  induction entries using List.reverseRecOn generalizing At with
  | nil =>
    rw [List.map_nil, hnil]
    refine .nil ?_
    rintro p a ⟨ha, -⟩
    simpa using (hmem p a).mpr ha
  | append_singleton entries e ih =>
    obtain ⟨last, z⟩ := e
    obtain ⟨hsorted, -, hlast⟩ := List.pairwise_append.mp hsorted
    have hearlier : ∀ e ∈ entries, e.1.Before last := fun e he => hlast e he (last, z) (by simp)
    have hat : ∀ p a, At p a ↔ (p, a) ∈ entries ∨ p = last ∧ a = z := fun p a => by simp [← hmem]
    have hothers := ih hsorted fun _ _ => Iff.rfl
    rw [List.map_append, List.map_singleton]
    by_cases hcounts : (∃ b ∈ entries.map (·.2), R b z) ↔ wanted
    · rw [hkeep _ _ hcounts]
      refine (hothers.snoc (fun p a ha => hearlier _ ha.1) z).congr fun p a => ?_
      rw [counts_iff hat hearlier, and_iff_left hcounts]
    · rw [hdrop _ _ hcounts]
      refine hothers.congr fun p a => ?_
      rw [counts_iff hat hearlier, or_iff_left fun hlater => hcounts hlater.2]

/-- Something stands at a position, and nothing related to it before that. -/
def FirstAt (R : α → α → Prop) (At : Position → α → Prop) (p : Position) (a : α) : Prop :=
  At p a ∧ ¬ Known R At p a

theorem firstAt_iff {R : α → α → Prop} (p : Position) (a : α) :
    Counts R False At p a ↔ FirstAt R At p a := by
  rw [Counts, iff_false, FirstAt]

/-- A list without its repetitions is what stands somewhere for the first time. -/
theorem Lists.eraseDups [BEq α] [LawfulBEq α] (h : Lists At items) :
    Lists (FirstAt (· = ·) At) items.eraseDups := by
  have hknown : ∀ (l : List α) (a : α), ((∃ b ∈ l, b = a) ↔ False) ↔ a ∉ l := by simp
  have hfirst : Lists (Counts (· = ·) False At) items.eraseDups := by
    refine h.of_snoc rfl ?_ ?_
    · intro l a hnew
      exact eraseDups_append_of_notMem ((hknown l a).mp hnew)
    · intro l a hold
      exact eraseDups_append_of_mem (not_not.mp (mt (hknown l a).mpr hold))
  exact hfirst.congr firstAt_iff

/-- Where things come in the order in which they first stand somewhere, each stands somewhere before
all places where a later one does. -/
theorem Lists.pairwise_first (h : Lists (FirstAt (· = ·) At) items) :
    items.Pairwise fun a b => ∃ p, At p a ∧ ∀ q, At q b → p.Before q := by
  obtain ⟨entries, hsorted, hmem, rfl⟩ := h
  rw [List.pairwise_map]
  refine hsorted.imp_of_mem ?_
  rintro ⟨p, a⟩ ⟨q, b⟩ ha hb hbefore
  obtain ⟨ha, -⟩ := (hmem p a).mp ha
  obtain ⟨-, hfirst⟩ := (hmem q b).mp hb
  exact ⟨p, ha, fun r hr => hbefore.trans_not fun hrq => hfirst ⟨r, b, hrq, hr, rfl⟩⟩

end Lists
end Roster
