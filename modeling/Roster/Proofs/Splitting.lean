import Mathlib.Data.List.Basic
import Roster.Path

/-! # Texts split at a separator

A text is its pieces with the separator between them, and no piece holds the separator; so different
texts have different pieces.

* `splitChars_eq_splitOn`: the pieces are the library's.
* `splitText_injective`, `intercalate_splitText`: nothing is lost.
* `splitText_append`: texts joined by the separator are split one after the other.
* `splitChars_append`: a text after another goes on with its last piece.
* `intercalate_insert_ne`: one more piece makes another text.
* `size_le_of_mem_splitText`: a piece is no longer than the text.
* `joined_inj`, `joined_prefix_iff`: paths of proper names are compared name by name.
* `normalise_of_notMem`: a path without a way up is followed name by name.
-/

namespace Roster

/-- What is found to hold of one character of a text after the other holds of all of them. A search
through all characters there are would find it too, but not soon. -/
theorem forall_of_all {p : Char → Prop} [DecidablePred p] {cs : List Char}
    (h : cs.all (fun c => decide (p c)) = true) : ∀ c ∈ cs, p c :=
  fun c hc => of_decide_eq_true (List.all_eq_true.mp h c hc)

theorem splitChars_eq_splitOn (sep : Char) (cs : List Char) : splitChars sep cs = cs.splitOn sep := by
  induction cs with
  | nil => rfl
  | cons c rest ih =>
    rw [splitChars, List.splitOn_cons_eq_if_modifyHead, ih]
    cases hpieces : rest.splitOn sep with
    | nil => exact absurd hpieces (List.splitOn_ne_nil sep rest)
    | cons piece pieces =>
      by_cases hc : c = sep
      · simp [hc]
      · simp [hc]

theorem intercalate_splitChars (sep : Char) (cs : List Char) :
    List.intercalate [sep] (splitChars sep cs) = cs := by
  rw [splitChars_eq_splitOn]
  exact List.intercalate_splitOn sep

/-- Texts of the same pieces are the same. -/
theorem splitText_injective (sep : Char) : Function.Injective (splitText sep) := by
  intro s t h
  have hpieces : splitChars sep s.toList = splitChars sep t.toList :=
    (List.map_injective_iff.mpr fun _ _ => String.ofList_injective) h
  have hjoined := congrArg (List.intercalate [sep]) hpieces
  rw [intercalate_splitChars, intercalate_splitChars] at hjoined
  exact String.toList_injective hjoined

/-- The pieces with the separator between them are the text again. -/
theorem intercalate_splitText (sep : Char) (s : String) :
    String.intercalate (String.singleton sep) (splitText sep s) = s := by
  apply String.toList_injective
  have hpieces : (splitText sep s).map String.toList = splitChars sep s.toList := by
    rw [splitText, List.map_map]
    simp [Function.comp_def]
  rw [String.toList_intercalate, hpieces, String.toList_singleton, intercalate_splitChars]

/-- Two texts with the separator between them. -/
theorem splitText_append (sep : Char) (s u : String) :
    splitText sep (s ++ String.singleton sep ++ u) = splitText sep s ++ splitText sep u := by
  rw [splitText, splitText, splitText, ← List.map_append]
  simp only [splitChars_eq_splitOn, String.toList_append, String.toList_singleton,
    List.append_assoc, List.singleton_append, List.splitOn_append_cons_self]

theorem splitText_ne_nil (sep : Char) (s : String) : splitText sep s ≠ [] := by
  rw [splitText, splitChars_eq_splitOn]
  simp [List.splitOn_ne_nil]

/-- A text without the separator is one piece. -/
theorem splitText_of_notMem {sep : Char} {s : String} (h : sep ∉ s.toList) :
    splitText sep s = [s] := by
  rw [splitText, splitChars_eq_splitOn, List.splitOn_eq_singleton h, List.map_singleton,
    String.ofList_toList]

/-- A piece is made of characters of the text, the separator not among them. -/
theorem mem_of_mem_splitChars {sep c : Char} {cs piece : List Char}
    (hpiece : piece ∈ splitChars sep cs) (hc : c ∈ piece) : c ∈ cs ∧ c ≠ sep := by
  induction cs generalizing piece with
  | nil =>
    obtain rfl : piece = [] := by simpa [splitChars] using hpiece
    contradiction
  | cons first rest ih =>
    rw [splitChars] at hpiece
    split at hpiece
    · obtain rfl : piece = [] := by simpa using hpiece
      contradiction
    · rename_i front others hrest
      rw [hrest] at ih
      -- a separator begins a new piece, and any other character joins the first one
      split at hpiece
      · rcases List.mem_cons.mp hpiece with rfl | hmem
        · contradiction
        · obtain ⟨hin, hne⟩ := ih hmem hc
          exact ⟨List.mem_cons_of_mem first hin, hne⟩
      · rename_i hfirst
        rcases List.mem_cons.mp hpiece with rfl | hmem
        · rcases List.mem_cons.mp hc with rfl | hfront
          · exact ⟨List.mem_cons_self, hfirst⟩
          · obtain ⟨hin, hne⟩ := ih List.mem_cons_self hfront
            exact ⟨List.mem_cons_of_mem first hin, hne⟩
        · obtain ⟨hin, hne⟩ := ih (List.mem_cons_of_mem front hmem) hc
          exact ⟨List.mem_cons_of_mem first hin, hne⟩

theorem mem_of_mem_splitText {sep c : Char} {s piece : String} (hpiece : piece ∈ splitText sep s)
    (hc : c ∈ piece.toList) : c ∈ s.toList ∧ c ≠ sep := by
  obtain ⟨cs, hcs, rfl⟩ := List.mem_map.mp hpiece
  rw [String.toList_ofList] at hc
  exact mem_of_mem_splitChars hcs hc

/-- Pieces with the separator between them are split into the pieces again. -/
theorem splitText_intercalate {sep : Char} {pieces : List String} (hne : pieces ≠ [])
    (h : ∀ piece ∈ pieces, sep ∉ piece.toList) :
    splitText sep (String.intercalate (String.singleton sep) pieces) = pieces := by
  have hpieces : ∀ cs ∈ pieces.map String.toList, sep ∉ cs := by
    intro cs hcs
    obtain ⟨piece, hpiece, rfl⟩ := List.mem_map.mp hcs
    exact h piece hpiece
  rw [splitText, splitChars_eq_splitOn, String.toList_intercalate, String.toList_singleton,
    List.splitOn_intercalate _ hpieces (by simpa using hne), List.map_map]
  simp [Function.comp_def]

/-- A text after another goes on with the last piece of the first. -/
theorem splitChars_append {sep : Char} {ds tail : List Char} {rest : List (List Char)}
    (h : splitChars sep ds = tail :: rest) (cs : List Char) :
    ∃ front last, splitChars sep cs = front ++ [last] ∧
      splitChars sep (cs ++ ds) = front ++ (last ++ tail) :: rest := by
  induction cs with
  | nil => exact ⟨[], [], rfl, h⟩
  | cons c cs ih =>
    obtain ⟨front, last, hsplit, hlonger⟩ := ih
    rw [List.cons_append, splitChars, splitChars, hsplit, hlonger]
    -- the first character opens a piece, or joins the first one there is
    cases front with
    | nil =>
      by_cases hc : c = sep
      · exact ⟨[[]], last, by simp [hc], by simp [hc]⟩
      · exact ⟨[], c :: last, by simp [hc], by simp [hc]⟩
    | cons first front =>
      by_cases hc : c = sep
      · exact ⟨[] :: first :: front, last, by simp [hc], by simp [hc]⟩
      · exact ⟨(c :: first) :: front, last, by simp [hc], by simp [hc]⟩

/-- A piece of a list of pieces with the separator between them is a piece of one of these. -/
theorem mem_splitText_intercalate {sep : Char} {piece : String} {pieces : List String}
    (h : piece ∈ splitText sep (String.intercalate (String.singleton sep) pieces)) :
    piece = "" ∨ ∃ part ∈ pieces, piece ∈ splitText sep part := by
  induction pieces with
  | nil => exact .inl (by simpa [splitText, splitChars] using h)
  | cons first rest ih =>
    cases rest with
    | nil => exact .inr ⟨first, List.mem_cons_self, by simpa using h⟩
    | cons second rest =>
      rw [String.intercalate_cons_cons, splitText_append, List.mem_append] at h
      rcases h with hfirst | hrest
      · exact .inr ⟨first, List.mem_cons_self, hfirst⟩
      · rcases ih hrest with hempty | ⟨part, hpart, hpiece⟩
        · exact .inl hempty
        · exact .inr ⟨part, List.mem_cons_of_mem first hpart, hpiece⟩

theorem notMem_intercalate {c : Char} {sep : String} {pieces : List String} (hsep : c ∉ sep.toList)
    (h : ∀ piece ∈ pieces, c ∉ piece.toList) : c ∉ (String.intercalate sep pieces).toList := by
  induction pieces with
  | nil => simp
  | cons first rest ih =>
    obtain ⟨hfirst, hrest⟩ := List.forall_mem_cons.mp h
    cases rest with
    | nil => simpa using hfirst
    | cons second rest =>
      rw [String.intercalate_cons_cons]
      simp only [String.toList_append, List.mem_append, not_or]
      exact ⟨⟨hfirst, hsep⟩, ih hrest⟩

theorem intercalate_ne_empty {sep : String} {pieces : List String} (hne : pieces ≠ [])
    (h : "" ∉ pieces) : String.intercalate sep pieces ≠ "" := by
  cases pieces with
  | nil => contradiction
  | cons first rest =>
    rw [List.mem_cons, not_or] at h
    by_cases hrest : rest = []
    · rw [hrest, String.intercalate_singleton]
      exact Ne.symm h.1
    · rw [String.intercalate_cons_of_ne_nil hrest]
      simp [String.append_eq_empty_iff, Ne.symm h.1]

/-- One more piece makes another text. -/
theorem intercalate_insert_ne {sep : String} (hsep : sep ≠ "") (front : List String) (piece : String)
    {back : List String} (hback : back ≠ []) :
    String.intercalate sep (front ++ piece :: back) ≠ String.intercalate sep (front ++ back) := by
  induction front with
  | nil =>
    rw [List.nil_append, List.nil_append, String.intercalate_cons_of_ne_nil hback]
    intro hsame
    have hlength := congrArg String.length hsame
    have hpos : 0 < sep.length := by
      rw [Nat.pos_iff_ne_zero, ne_eq, String.length_eq_zero_iff]
      exact hsep
    simp only [String.length_append] at hlength
    omega
  | cons first front ih =>
    rw [List.cons_append, List.cons_append, String.intercalate_cons_of_ne_nil (by simp),
      String.intercalate_cons_of_ne_nil (by simp [hback])]
    intro hsame
    apply ih
    have hlists := congrArg String.toList hsame
    simp only [String.toList_append] at hlists
    exact String.toList_injective (List.append_cancel_left hlists)

/-- What stands after the last piece stands after the whole. -/
theorem intercalate_last_append (sep : String) (front : List String) (last ending : String) :
    String.intercalate sep (front ++ [last ++ ending])
      = String.intercalate sep (front ++ [last]) ++ ending := by
  by_cases hfront : front = []
  · simp [hfront]
  · rw [String.intercalate_append_of_ne_nil hfront (by simp),
      String.intercalate_append_of_ne_nil hfront (by simp), String.intercalate_singleton,
      String.intercalate_singleton, String.append_assoc, String.append_assoc, String.append_assoc]

/-- What holds no separator ends a text if it ends the last piece. -/
theorem suffix_append_cons_iff {sep : Char} {ending : List Char} (h : sep ∉ ending)
    (front last : List Char) : ending <:+ front ++ sep :: last ↔ ending <:+ last := by
  constructor
  · intro hends
    rcases List.suffix_or_suffix_of_suffix hends (List.suffix_append front (sep :: last)) with hin | hout
    · rcases List.suffix_cons_iff.mp hin with rfl | hlast
      · exact absurd List.mem_cons_self h
      · exact hlast
    · exact absurd (hout.subset List.mem_cons_self) h
  · intro hends
    exact (hends.trans (List.suffix_cons sep last)).trans (List.suffix_append _ _)

/-! ## Sizes -/

theorem size_le_of_sublist {cs ds : List Char} (h : cs.Sublist ds) :
    (String.ofList cs).utf8ByteSize ≤ (String.ofList ds).utf8ByteSize := by
  induction h with
  | slnil => exact Nat.le_refl _
  | cons c _ ih =>
    rw [String.ofList_cons, String.utf8ByteSize_append]
    omega
  | cons_cons c _ ih =>
    rw [String.ofList_cons, String.ofList_cons, String.utf8ByteSize_append, String.utf8ByteSize_append]
    omega

theorem flatten_splitChars_sublist (sep : Char) (cs : List Char) :
    (splitChars sep cs).flatten.Sublist cs := by
  induction cs with
  | nil => exact List.Sublist.slnil
  | cons c cs ih =>
    rw [splitChars]
    split
    · exact List.nil_sublist _
    · rename_i piece pieces hpieces
      rw [hpieces] at ih
      split
      · exact ih.cons c
      · exact ih.cons_cons c

/-- A piece is no longer than the text. -/
theorem size_le_of_mem_splitText {sep : Char} {s piece : String} (h : piece ∈ splitText sep s) :
    piece.utf8ByteSize ≤ s.utf8ByteSize := by
  obtain ⟨cs, hcs, rfl⟩ := List.mem_map.mp h
  have hsublist := (List.sublist_flatten_of_mem hcs).trans (flatten_splitChars_sublist sep s.toList)
  simpa using size_le_of_sublist hsublist

namespace Path

/-! ## Names with slashes between them -/

/-- A name that may stand in a path: not empty, not a single dot, and without slashes. -/
structure IsName (name : String) : Prop where
  isPart : isPart name = true
  noSlash : '/' ∉ name.toList

instance : DecidablePred IsName := fun name =>
  decidable_of_iff (isPart name = true ∧ '/' ∉ name.toList)
    ⟨fun h => ⟨h.1, h.2⟩, fun h => ⟨h.isPart, h.noSlash⟩⟩

theorem IsName.ne_empty {name : String} (h : IsName name) : name ≠ "" := by
  rintro rfl
  exact absurd h.isPart (by decide)

theorem isName_of_mem_parse {s name : String} (h : name ∈ (parse s).parts) : IsName name := by
  obtain ⟨hpiece, hpart⟩ := List.mem_filter.mp h
  exact ⟨hpart, fun hslash => (mem_of_mem_splitText hpiece hslash).2 rfl⟩

theorem isName_of_mem_join {p : Path} {s name : String} (hp : ∀ part ∈ p.parts, IsName part)
    (h : name ∈ (p.join (parse s)).parts) : IsName name := by
  unfold join at h
  split at h
  · exact isName_of_mem_parse h
  · rcases List.mem_append.mp h with hold | hnew
    · exact hp name hold
    · exact isName_of_mem_parse hnew

/-- Names with slashes between them. -/
def joined (names : List String) : String := String.intercalate "/" names

theorem splitText_joined {names : List String} (hne : names ≠ [])
    (h : ∀ name ∈ names, IsName name) : splitText '/' (joined names) = names :=
  splitText_intercalate hne fun name hname => (h name hname).noSlash

theorem joined_ne_empty {names : List String} (hne : names ≠ [])
    (h : ∀ name ∈ names, IsName name) : joined names ≠ "" :=
  intercalate_ne_empty hne fun hempty => (h "" hempty).ne_empty rfl

theorem joined_inj {xs ys : List String} (hxs : xs ≠ []) (hys : ys ≠ [])
    (hx : ∀ name ∈ xs, IsName name) (hy : ∀ name ∈ ys, IsName name) :
    joined xs = joined ys ↔ xs = ys := by
  constructor
  · intro h
    rw [← splitText_joined hxs hx, h, splitText_joined hys hy]
  · rintro rfl
    rfl

theorem joined_append {xs ys : List String} (hxs : xs ≠ []) (hys : ys ≠ [])
    (hx : ∀ name ∈ xs, IsName name) (hy : ∀ name ∈ ys, IsName name) :
    joined (xs ++ ys) = joined xs ++ "/" ++ joined ys := by
  apply splitText_injective '/'
  have hboth : ∀ name ∈ xs ++ ys, IsName name := by
    intro name hname
    exact (List.mem_append.mp hname).elim (hx name) (hy name)
  have hsplit := splitText_append '/' (joined xs) (joined ys)
  rw [splitText_joined hxs hx, splitText_joined hys hy] at hsplit
  rw [splitText_joined (by simp [hxs]) hboth]
  exact hsplit.symm

/-- One path starts with another and a slash when its names start with the other's and go on. -/
theorem joined_prefix_iff {xs ys : List String} (hxs : xs ≠ []) (hys : ys ≠ [])
    (hx : ∀ name ∈ xs, IsName name) (hy : ∀ name ∈ ys, IsName name) :
    (joined xs ++ "/").toList <+: (joined ys).toList ↔ xs <+: ys ∧ xs ≠ ys := by
  constructor
  · rintro ⟨rest, hrest⟩
    have htext : joined ys = joined xs ++ "/" ++ String.ofList rest := by
      apply String.toList_injective
      rw [String.toList_append, String.toList_ofList, hrest]
    have hsplit := splitText_append '/' (joined xs) (String.ofList rest)
    rw [show String.singleton '/' = "/" from rfl, ← htext, splitText_joined hxs hx,
      splitText_joined hys hy] at hsplit
    refine ⟨⟨_, hsplit.symm⟩, ?_⟩
    rintro rfl
    exact splitText_ne_nil '/' _ (List.self_eq_append_right.mp hsplit)
  · rintro ⟨⟨rest, rfl⟩, hlonger⟩
    have hrest : rest ≠ [] := by
      rintro rfl
      exact hlonger (List.append_nil xs).symm
    have hnames : ∀ name ∈ rest, IsName name := fun name hname =>
      hy name (List.mem_append_right xs hname)
    rw [joined_append hxs hrest hx hnames]
    simp only [String.toList_append]
    exact List.prefix_append _ _

/-! ## Ways up -/

theorem normalise_append (start xs ys : List String) :
    normalise start (xs ++ ys) = normalise (normalise start xs) ys :=
  List.foldl_append

/-- Without a way up, each name goes one directory down. -/
theorem normalise_of_notMem {start parts : List String} (h : ".." ∉ parts) :
    normalise start parts = start ++ parts := by
  induction parts generalizing start with
  | nil => simp [normalise]
  | cons part rest ih =>
    rw [List.mem_cons, not_or] at h
    obtain ⟨hpart, hrest⟩ := h
    have hdown : ¬ part = ".." := fun heq => hpart heq.symm
    rw [normalise, List.foldl_cons, if_neg hdown]
    change normalise (start ++ [part]) rest = _
    rw [ih hrest, List.append_assoc, List.singleton_append]

end Path
end Roster
