import Roster.Proofs.SharedModules

/-! # Names that imports pass on

A dotted name that is no class may be passed on: the imports of a module in front of it bind the part
after the module, and what they bind it to takes the place of both. A name is looked up by following
such imports, whatever they are: they may lead round in a circle or to longer and longer names.

* `PassesOn`: one name is passed on to another.
* `Follows`: a name leads to another one in so many steps, and to no class before that.
* `redirect?_eq_some_iff`: each step of the search passes the name on.
* `LeadsWithin`: a name leads to a class in fewer steps than a bound; one lemma for a name that is a
  class and one for a name that is none.
* `lookup?_eq_some_iff`: the search finds the class that a name leads to within its bound, and nothing
  else.
* `lookup?_through_reexports`: where a chain of modules that import a class from each other leads.
-/

namespace Roster
namespace ClassIndex

open Source

variable {index : ClassIndex}

/-! ## Passing a name on -/

/-- The imports of a module bind a part of a dotted name: the module is the one that the parts in
front of it name. -/
structure BindsPart (index : ClassIndex) (parts : List String) (i : Nat) (target : String) :
    Prop where
  inside : 0 < i
  bound : ∃ name, parts[i]? = some name ∧
    (index.importsOf (String.intercalate "." (parts.take i))).get? name = some target
  target_ne : target ≠ ""

/-- A dotted name is passed on: the imports of a module in front of it bind the part after the module,
those of no longer module do, and what the part is bound to takes the place of both. -/
inductive PassesOn (index : ClassIndex) (dotted : String) : String → Prop
  | through {i : Nat} {target : String} (binds : index.BindsPart (splitText '.' dotted) i target)
      (longest : ∀ j, i < j → ∀ other, ¬ index.BindsPart (splitText '.' dotted) j other) :
      PassesOn index dotted (String.intercalate "." (target :: (splitText '.' dotted).drop (i + 1)))

theorem redirectAt?_eq_some_iff {parts : List String} {i : Nat} (hi : 0 < i) {next : String} :
    index.redirectAt? parts i = some next ↔
      ∃ target, index.BindsPart parts i target ∧
        next = String.intercalate "." (target :: parts.drop (i + 1)) := by
  unfold redirectAt?
  simp only [Option.bind_eq_bind, Option.bind_eq_some_iff, Option.ite_none_left_eq_some,
    Option.some.injEq]
  constructor
  · rintro ⟨name, hname, target, htarget, hne, rfl⟩
    exact ⟨target, ⟨hi, ⟨name, hname, htarget⟩, hne⟩, rfl⟩
  · rintro ⟨target, ⟨-, ⟨name, hname, htarget⟩, hne⟩, rfl⟩
    exact ⟨name, hname, target, htarget, hne, rfl⟩

/-- Searching downwards from `n` gives the answer at the highest place that has one. -/
theorem findSome?_downwards_eq_some_iff {α : Type} {f : Nat → Option α} {n : Nat} {a : α} :
    ((List.range n).drop 1).reverse.findSome? f = some a ↔
      ∃ m, 0 < m ∧ m < n ∧ f m = some a ∧ ∀ i, m < i → i < n → f i = none := by
  constructor
  · intro h
    induction n with
    | zero => contradiction
    | succ n ih =>
      by_cases hn : n = 0
      · rw [hn] at h
        contradiction
      rw [downwards_succ (by omega), List.findSome?_cons] at h
      cases hat : f n with
      | some b =>
        rw [hat] at h
        exact ⟨n, by omega, by omega, hat.trans h, fun i hi hin => by omega⟩
      | none =>
        rw [hat] at h
        obtain ⟨m, hpos, hlt, hm, habove⟩ := ih h
        refine ⟨m, hpos, by omega, hm, fun i hi hin => ?_⟩
        by_cases heq : i = n
        · rw [heq, hat]
        · exact habove i hi (by omega)
  · rintro ⟨m, hpos, hlt, hat, habove⟩
    exact findSome?_downwards hpos hlt hat habove

/-- Each step of the search passes the name on. -/
theorem redirect?_eq_some_iff {dotted next : String} :
    index.redirect? dotted = some next ↔ index.PassesOn dotted next := by
  unfold redirect?
  rw [findSome?_downwards_eq_some_iff]
  constructor
  · rintro ⟨i, hpos, -, hat, habove⟩
    obtain ⟨target, hbinds, rfl⟩ := (redirectAt?_eq_some_iff hpos).mp hat
    refine .through hbinds fun j hj other hother => ?_
    obtain ⟨name, hname, -⟩ := hother.bound
    have hnone := habove j hj (List.getElem?_eq_some_iff.mp hname).1
    rw [(redirectAt?_eq_some_iff hother.inside).mpr ⟨other, hother, rfl⟩] at hnone
    contradiction
  · rintro ⟨hbinds, hlongest⟩
    rename_i i target
    obtain ⟨name, hname, -⟩ := hbinds.bound
    refine ⟨i, hbinds.inside, (List.getElem?_eq_some_iff.mp hname).1,
      (redirectAt?_eq_some_iff hbinds.inside).mpr ⟨target, hbinds, rfl⟩, fun j hj _ => ?_⟩
    rw [Option.eq_none_iff_forall_ne_some]
    intro other hother
    obtain ⟨bound, hbound, -⟩ := (redirectAt?_eq_some_iff (Nat.zero_lt_of_lt hj)).mp hother
    exact hlongest j hj bound hbound

/-- A name is passed on to one other name at most. -/
theorem PassesOn.unique {dotted next other : String} (h : index.PassesOn dotted next)
    (hother : index.PassesOn dotted other) : next = other := by
  rw [← redirect?_eq_some_iff] at h hother
  exact Option.some.inj (h.symm.trans hother)

/-! ## Following imports -/

/-- A dotted name leads to another one in so many steps, and none of the names before that is a
class. -/
inductive Follows (index : ClassIndex) : (steps : Nat) → String → String → Prop
  | here {dotted : String} : Follows index 0 dotted dotted
  | on {steps : Nat} {dotted next last : String} (unknown : index.classes.get? dotted = none)
      (first : index.PassesOn dotted next) (rest : Follows index steps next last) :
      Follows index (steps + 1) dotted last

/-- A name that is passed on to itself leads to no class. -/
theorem Follows.of_self {steps : Nat} {dotted last : String} (h : index.Follows steps dotted last)
    (hunknown : index.classes.get? dotted = none) (hself : index.PassesOn dotted dotted) :
    index.classes.get? last = none := by
  induction h with
  | here => exact hunknown
  | on _ first _ ih =>
    obtain rfl := hself.unique first
    exact ih hunknown hself

/-- A name leads to one class at most, and in one number of steps. -/
theorem Follows.unique {steps steps' : Nat} {dotted last last' : String} {c c' : ClassDeclaration}
    (h : index.Follows steps dotted last) (hclass : index.classes.get? last = some c)
    (h' : index.Follows steps' dotted last') (hclass' : index.classes.get? last' = some c') :
    steps = steps' ∧ last = last' := by
  induction h generalizing steps' with
  | here =>
    cases h' with
    | here => exact ⟨rfl, rfl⟩
    | on unknown =>
      rw [hclass] at unknown
      contradiction
  | on unknown first rest ih =>
    cases h' with
    | here =>
      rw [hclass'] at unknown
      contradiction
    | on unknown' first' rest' =>
      obtain rfl := first.unique first'
      obtain ⟨rfl, rfl⟩ := ih hclass rest'
      exact ⟨rfl, rfl⟩

/-- A dotted name leads to a class in fewer steps than a bound. -/
def LeadsWithin (index : ClassIndex) (hops : Nat) (dotted : String) (c : ClassDeclaration) : Prop :=
  ∃ steps < hops, ∃ key, index.Follows steps dotted key ∧ index.classes.get? key = some c

/-- The key of a class leads to that class alone. -/
theorem leadsWithin_of_class {hops : Nat} {dotted : String} {found c : ClassDeclaration}
    (hclass : index.classes.get? dotted = some found) :
    index.LeadsWithin (hops + 1) dotted c ↔ found = c := by
  constructor
  · rintro ⟨steps, -, key, hfollows, hkey⟩
    obtain ⟨-, rfl⟩ := Follows.unique .here hclass hfollows hkey
    exact Option.some.inj (hclass.symm.trans hkey)
  · rintro rfl
    exact ⟨0, Nat.succ_pos _, dotted, .here, hclass⟩

/-- A name that is no class leads where the name leads that it is passed on to, which is one step
nearer. -/
theorem leadsWithin_of_unknown {hops : Nat} {dotted : String} {c : ClassDeclaration}
    (hunknown : index.classes.get? dotted = none) :
    index.LeadsWithin (hops + 1) dotted c ↔
      ∃ next, index.PassesOn dotted next ∧ index.LeadsWithin hops next c := by
  constructor
  · rintro ⟨steps, hsteps, key, hfollows, hkey⟩
    cases hfollows with
    | here =>
      rw [hunknown] at hkey
      contradiction
    | @on fewer _ next _ _ first rest =>
      exact ⟨next, first, fewer, Nat.lt_of_succ_lt_succ hsteps, key, rest, hkey⟩
  · rintro ⟨next, hpasses, steps, hsteps, key, hfollows, hkey⟩
    exact ⟨steps + 1, Nat.succ_lt_succ hsteps, key, .on hunknown hpasses hfollows, hkey⟩

/-- A name that is passed on to itself leads to no class, however far it is followed. -/
theorem not_leadsWithin_of_self {hops : Nat} {dotted : String} {c : ClassDeclaration}
    (hunknown : index.classes.get? dotted = none) (hself : index.PassesOn dotted dotted) :
    ¬ index.LeadsWithin hops dotted c := by
  rintro ⟨steps, -, key, hfollows, hkey⟩
  rw [hfollows.of_self hunknown hself] at hkey
  contradiction

/-- The search finds the class at the end of fewer steps than its bound, and nothing else. -/
theorem lookup?_eq_some_iff {hops : Nat} {dotted : String} {c : ClassDeclaration} :
    index.lookup? hops dotted = some c ↔ index.LeadsWithin hops dotted c := by
  induction hops generalizing dotted with
  | zero => simp [lookup?, LeadsWithin]
  | succ hops ih =>
    rw [lookup?]
    cases hclass : index.classes.get? dotted with
    | some found => rw [leadsWithin_of_class hclass, Option.some.injEq]
    | none =>
      rw [leadsWithin_of_unknown hclass]
      cases hredirect : index.redirect? dotted with
      | none =>
        constructor
        · intro h
          contradiction
        · rintro ⟨next, hpasses, -⟩
          rw [redirect?_eq_some_iff.mpr hpasses] at hredirect
          contradiction
      | some next =>
        have hpasses := redirect?_eq_some_iff.mp hredirect
        have honly : (∃ other, index.PassesOn dotted other ∧ index.LeadsWithin hops other c) ↔
            index.LeadsWithin hops next c := by
          constructor
          · rintro ⟨other, hother, hleads⟩
            exact hpasses.unique hother ▸ hleads
          · intro hleads
            exact ⟨next, hpasses, hleads⟩
        simp only [honly]
        split
        · -- the search gives up where a name is passed on to itself, and rightly so
          rename_i hself
          rw [hself] at hpasses ⊢
          simp [not_leadsWithin_of_self hclass hpasses]
        · exact ih

/-- A class that a name leads to is found if it is less far than the bound, and nothing is found
otherwise. -/
theorem Follows.lookup?_eq {steps : Nat} {dotted key : String} {c : ClassDeclaration}
    (h : index.Follows steps dotted key) (hclass : index.classes.get? key = some c) (hops : Nat) :
    index.lookup? hops dotted = if steps < hops then some c else none := by
  split
  · rename_i hnear
    exact lookup?_eq_some_iff.mpr ⟨steps, hnear, key, h, hclass⟩
  · rename_i hfar
    rw [Option.eq_none_iff_forall_ne_some]
    intro found hfound
    obtain ⟨steps', hnear, key', hfollows, hkey⟩ := lookup?_eq_some_iff.mp hfound
    obtain ⟨rfl, -⟩ := h.unique hclass hfollows hkey
    exact hfar hnear

/-! ## Modules that import a class from each other -/

/-- The imports of a module bind one of its names to something else, and it has no class of that
name. -/
structure Reexports (index : ClassIndex) (module name target : String) : Prop where
  module_ne : module ≠ ""
  simple : '.' ∉ name.toList
  bound : (index.importsOf module).get? name = some target
  unknown : index.classes.get? (qualify module name) = none

theorem Reexports.passesOn {module name target : String} (h : index.Reexports module name target)
    (htarget : target ≠ "") : index.PassesOn (qualify module name) target :=
  redirect?_eq_some_iff.mp (redirect?_simple h.module_ne h.simple h.bound htarget)

theorem qualify_ne_empty {module name : String} (h : module ≠ "") : qualify module name ≠ "" := by
  rw [qualify, if_neg h]
  exact fun hempty => h (String.append_eq_empty_iff.mp (String.append_eq_empty_iff.mp hempty).1).1

/-- Names of which each is bound to the next lead from the first to the last, one step each. -/
theorem follows_of_reexports {module name : Nat → String} {r : Nat}
    (hlast : qualify (module r) (name r) ≠ "")
    (h : ∀ i < r, index.Reexports (module i) (name i) (qualify (module (i + 1)) (name (i + 1)))) :
    index.Follows r (qualify (module 0) (name 0)) (qualify (module r) (name r)) := by
  -- on the length, with the front of the chain taken off
  induction r generalizing module name with
  | zero => exact .here
  | succ r ih =>
    have hfirst := h 0 (Nat.succ_pos r)
    have hnext : qualify (module 1) (name 1) ≠ "" := by
      cases r with
      | zero => exact hlast
      | succ r => exact qualify_ne_empty (h 1 (by omega)).module_ne
    refine .on hfirst.unknown (hfirst.passesOn hnext) ?_
    exact @ih (fun i => module (i + 1)) (fun i => name (i + 1)) hlast fun i hi =>
      h (i + 1) (Nat.succ_lt_succ hi)

/-- Looking a dotted name up gives a class exactly if imports lead from the name to the key of the
class, by way of no other class and in fewer steps than the bound. So take a chain of modules, each
of which imports a name from the next and has no class of that name, and in the last of which it is a
class: the name in the first one leads to that class if there are fewer steps than the bound, and
nowhere if there are as many or more. -/
theorem lookup?_through_reexports (index : ClassIndex) :
    (∀ dotted c, index.lookup? hopBound dotted = some c ↔
      ∃ steps < hopBound, ∃ key,
        index.Follows steps dotted key ∧ index.classes.get? key = some c) ∧
    ∀ (module name : Nat → String) (r : Nat) (c : ClassDeclaration),
      (∀ i < r, index.Reexports (module i) (name i) (qualify (module (i + 1)) (name (i + 1)))) →
      qualify (module r) (name r) ≠ "" →
      index.classes.get? (qualify (module r) (name r)) = some c →
      index.lookup? hopBound (qualify (module 0) (name 0)) = if r < hopBound then some c else none :=
  ⟨fun _ _ => lookup?_eq_some_iff, fun _ _ _ _ hchain hlast hclass =>
    (follows_of_reexports hlast hchain).lookup?_eq hclass hopBound⟩

/-- The names of some modules. -/
def relayName (i : Nat) : String := ["a", "b", "c", "d", "e", "f", "g", "h", "i"].getD i ""

/-- The class in the last of some modules. -/
def relayedBox (r : Nat) : ClassDeclaration :=
  ⟨relayName r, "Box", "Box", [], ["b"], false, false, relayName r ++ ".py:1"⟩

/-- Modules that import a class each from the next, and the module after them that has the class. -/
def relays (r : Nat) : ClassIndex where
  classes := .ofList [((relayedBox r).key, relayedBox r)]
  imports := .ofList ((List.range r).map fun i =>
    (relayName i, .ofList [("Box", qualify (relayName (i + 1)) "Box")]))

theorem relays_reexports : ∀ r ≤ 8, ∀ i < r,
    (relays r).Reexports (relayName i) "Box" (qualify (relayName (i + 1)) "Box") := by
  have hall : ∀ r ≤ 8, ∀ i < r, relayName i ≠ "" ∧
      ((relays r).importsOf (relayName i)).get? "Box" = some (qualify (relayName (i + 1)) "Box") ∧
      (relays r).classes.get? (qualify (relayName i) "Box") = none := by decide +kernel
  intro r hr i hi
  obtain ⟨hmodule, hbound, hunknown⟩ := hall r hr i hi
  exact ⟨hmodule, by decide, hbound, hunknown⟩

/-- Through seven modules the class is found. -/
theorem lookup?_through_seven :
    (∀ i < 7, (relays 7).Reexports (relayName i) "Box" (qualify (relayName (i + 1)) "Box")) ∧
      (relays 7).lookup? hopBound (qualify (relayName 0) "Box") = some (relayedBox 7) := by
  have hchain := relays_reexports 7 (by decide)
  exact ⟨hchain, (lookup?_through_reexports (relays 7)).2 relayName (fun _ => "Box") 7 (relayedBox 7)
    hchain (by decide) (by decide)⟩

/-- Through eight modules, no more than the bound says, it is not. -/
theorem lookup?_through_eight :
    hopBound = 8 ∧
      (∀ i < 8, (relays 8).Reexports (relayName i) "Box" (qualify (relayName (i + 1)) "Box")) ∧
      (relays 8).classes.get? (qualify (relayName 8) "Box") = some (relayedBox 8) ∧
      (relays 8).lookup? hopBound (qualify (relayName 0) "Box") = none :=
  ⟨rfl, relays_reexports 8 (by decide), by decide, by decide⟩

end ClassIndex
end Roster
