import Roster.Proofs.NamedTrees
import Roster.Proofs.TextOrder

/-! # The fields of a class body

A class declares fields by what stands directly in its body, and by what its initializer assigns to
attributes of its first parameter. Here it is told where in the body a name is declared, one rule for
each way to declare one. The fields are the names that are declared somewhere, without those that are
kept for the language, each where it is declared first.

* `PartAt`: the parts of a target, inside tuples, lists and stars.
* `AssignsAt`: where a statement assigns to an attribute, inside its blocks but not in definitions.
* `DeclaresAt`: where a statement of a class body declares a name.
* `lists_parts`, `lists_assigned`, `lists_declaredNames`: what is read from the tree, in the order of
  the text.
* `fieldsOf_in_text_order`: the fields of a class body.
-/

namespace Roster.Source

/-! ## Where names are declared -/

/-- A target has a part at a position: itself, or a part of what it takes apart. -/
inductive PartAt : Expr → Position → Expr → Prop
  | whole {e : Expr} : PartAt e [] e
  | tuple {items : List Expr} {i : Nat} {e part : Expr} {p : Position} (item : items[i]? = some e)
      (inside : PartAt e p part) : PartAt (.tuple items) (i :: p) part
  | list {items : List Expr} {i : Nat} {e part : Expr} {p : Position} (item : items[i]? = some e)
      (inside : PartAt e p part) : PartAt (.list items) (i :: p) part
  | starred {e part : Expr} {p : Position} (inside : PartAt e p part) : PartAt (.starred e) p part

/-- A statement assigns to an attribute of `self`: in an assignment of any kind, which may stand at
any depth of blocks but not in a definition. -/
inductive AssignsAt (self : String) : Stmt → Position → String → Prop
  | assign {targets : List Expr} {i : Nat} {e : Expr} {p : Position} {name : String}
      (target : targets[i]? = some e) (part : PartAt e p (.attribute (.name self) name)) :
      AssignsAt self (.assign targets) (i :: p) name
  | annotated {e : Expr} {p : Position} {name : String}
      (part : PartAt e p (.attribute (.name self) name)) : AssignsAt self (.annotated e) p name
  | augmented {e : Expr} {p : Position} {name : String}
      (part : PartAt e p (.attribute (.name self) name)) : AssignsAt self (.augmented e) p name
  | block {body : List Stmt} {i : Nat} {s : Stmt} {p : Position} {name : String}
      (item : body[i]? = some s) (inside : AssignsAt self s p name) :
      AssignsAt self (.block body) (i :: p) name

/-- A statement of a class body declares a name: it annotates the name, it assigns to it, or it is an
initializer that assigns to an attribute of its first parameter. -/
inductive DeclaresAt : Stmt → Position → String → Prop
  | annotated {name : String} : DeclaresAt (.annotated (.name name)) [] name
  | assign {targets : List Expr} {i : Nat} {e : Expr} {p : Position} {name : String}
      (target : targets[i]? = some e) (part : PartAt e p (.name name)) :
      DeclaresAt (.assign targets) (i :: p) name
  | initializer {self name : String} {others : List String} {body : List Stmt} {i : Nat} {s : Stmt}
      {p : Position} (item : body[i]? = some s) (assigns : AssignsAt self s p name) :
      DeclaresAt (.functionDef initializer (self :: others) body) (i :: p) name

/-- A class body declares a name: one of its statements does. -/
def DeclaredAt (body : List Stmt) : Position → String → Prop := Among DeclaresAt body

/-! ## What is read from a target -/

/-- Whether an expression takes apart what is assigned to it. -/
def Expr.takesApart : Expr → Bool
  | .tuple _ | .list _ | .starred _ => true
  | _ => false

/-- A reading of targets: through all that takes apart, down to the leaves; `leaf` tells what a leaf
gives. -/
structure ReadsLeaves (read : Expr → List String) (leaf : Expr → Option String) : Prop where
  tuple : ∀ items, read (.tuple items) = items.flatMap read
  list : ∀ items, read (.list items) = items.flatMap read
  starred : ∀ inner, read (.starred inner) = read inner
  leaves : ∀ e, e.takesApart = false → read e = (leaf e).toList
  inside : ∀ e, e.takesApart = true → leaf e = none

/-- A target gives a name at a position: its part there does. -/
def GivesAt (leaf : Expr → Option String) (e : Expr) (p : Position) (name : String) : Prop :=
  ∃ part, PartAt e p part ∧ leaf part = some name

theorem partAt_leaf {e part : Expr} {p : Position} (h : e.takesApart = false) :
    PartAt e p part ↔ p = [] ∧ part = e := by
  constructor
  · rintro (_ | _ | _ | _)
    · exact ⟨rfl, rfl⟩
    all_goals contradiction
  · rintro ⟨rfl, rfl⟩
    exact .whole

theorem partAt_tuple {items : List Expr} {part : Expr} {p : Position} :
    PartAt (.tuple items) p part ↔ p = [] ∧ part = .tuple items ∨ Among PartAt items p part := by
  constructor
  · rintro (_ | ⟨item, hpart⟩)
    · exact .inl ⟨rfl, rfl⟩
    · exact .inr ⟨item, hpart⟩
  · rintro (⟨rfl, rfl⟩ | ⟨item, hpart⟩)
    · exact .whole
    · exact .tuple item hpart

theorem partAt_list {items : List Expr} {part : Expr} {p : Position} :
    PartAt (.list items) p part ↔ p = [] ∧ part = .list items ∨ Among PartAt items p part := by
  constructor
  · rintro (_ | _ | ⟨item, hpart⟩)
    · exact .inl ⟨rfl, rfl⟩
    · exact .inr ⟨item, hpart⟩
  · rintro (⟨rfl, rfl⟩ | ⟨item, hpart⟩)
    · exact .whole
    · exact .list item hpart

theorem partAt_starred {inner part : Expr} {p : Position} :
    PartAt (.starred inner) p part ↔ p = [] ∧ part = .starred inner ∨ PartAt inner p part := by
  constructor
  · rintro (_ | _ | _ | hpart)
    · exact .inl ⟨rfl, rfl⟩
    · exact .inr hpart
  · rintro (⟨rfl, rfl⟩ | hpart)
    · exact .whole
    · exact .starred hpart

namespace ReadsLeaves

variable {read : Expr → List String} {leaf : Expr → Option String} {items : List Expr} {e : Expr}

/-- What takes apart gives nothing itself. -/
theorem givesAt_iff (h : ReadsLeaves read leaf) (hopen : e.takesApart = true)
    {Inner : Position → Expr → Prop}
    (hparts : ∀ p part, PartAt e p part ↔ p = [] ∧ part = e ∨ Inner p part) (p : Position)
    (name : String) : GivesAt leaf e p name ↔ ∃ part, Inner p part ∧ leaf part = some name := by
  refine exists_congr fun part => ?_
  rw [hparts, or_and_right, or_iff_right]
  rintro ⟨⟨rfl, rfl⟩, hname⟩
  rw [h.inside _ hopen] at hname
  contradiction

/-- What is read of items, where it is known for each item. -/
theorem lists_items (h : ReadsLeaves read leaf) (hopen : e.takesApart = true)
    (hread : read e = items.flatMap read)
    (hparts : ∀ p part, PartAt e p part ↔ p = [] ∧ part = e ∨ Among PartAt items p part)
    (hitems : ∀ x ∈ items, Lists (GivesAt leaf x) (read x)) : Lists (GivesAt leaf e) (read e) := by
  rw [hread]
  refine (Lists.flatMap hitems).congr fun p name => ?_
  rw [h.givesAt_iff hopen hparts]
  constructor
  · rintro ⟨item, part, hpart, hname⟩
    exact ⟨part, ⟨item, hpart⟩, hname⟩
  · rintro ⟨part, ⟨item, hpart⟩, hname⟩
    exact ⟨item, part, hpart, hname⟩

/-- What is read of a leaf is what it gives. -/
theorem lists_leaf (h : ReadsLeaves read leaf) (hleaf : e.takesApart = false) :
    Lists (GivesAt leaf e) (read e) := by
  have hgives : ∀ p name, GivesAt leaf e p name ↔ p = [] ∧ leaf e = some name := by
    intro p name
    constructor
    · rintro ⟨part, hpart, hname⟩
      obtain ⟨rfl, rfl⟩ := (partAt_leaf hleaf).mp hpart
      exact ⟨rfl, hname⟩
    · rintro ⟨rfl, hname⟩
      exact ⟨e, .whole, hname⟩
  rw [h.leaves e hleaf]
  cases hname : leaf e with
  | none => exact .nil fun p name hgiven => by simp [hgives, hname] at hgiven
  | some name => exact (Lists.single name).congr fun p other => by simp [hgives, hname, eq_comm]

/-- What is read of a target is what its parts give, in order. -/
theorem lists (h : ReadsLeaves read leaf) (e : Expr) : Lists (GivesAt leaf e) (read e) := by
  match e with
  | .tuple items =>
    exact h.lists_items rfl (h.tuple items) (fun _ _ => partAt_tuple) fun x _ => h.lists x
  | .list items =>
    exact h.lists_items rfl (h.list items) (fun _ _ => partAt_list) fun x _ => h.lists x
  | .starred inner =>
    rw [h.starred]
    refine (h.lists inner).congr fun p name => ?_
    exact (h.givesAt_iff rfl (fun _ _ => partAt_starred) p name).symm
  | .name _ | .attribute _ _ | .item _ | .call _ | .other => exact h.lists_leaf rfl

end ReadsLeaves

/-! ## Names and attributes -/

/-- A name that stands alone. -/
def Expr.plainName? : Expr → Option String
  | .name id => some id
  | _ => none

/-- The attribute of a name. -/
def Expr.attributeOf? (owner : String) : Expr → Option String
  | .attribute (.name id) last => if id = owner then some last else none
  | _ => none

theorem readsLeaves_targetNames : ReadsLeaves Expr.targetNames Expr.plainName? where
  tuple items := by rw [Expr.targetNames, targetNamesAll_eq]
  list items := by rw [Expr.targetNames, targetNamesAll_eq]
  starred inner := by rw [Expr.targetNames]
  leaves e hleaf := by cases e <;> simp_all [Expr.takesApart, Expr.targetNames, Expr.plainName?]
  inside e hopen := by cases e <;> simp_all [Expr.takesApart, Expr.plainName?]

theorem readsLeaves_attributesOf (owner : String) :
    ReadsLeaves (Expr.attributesOf owner) (Expr.attributeOf? owner) where
  tuple items := by rw [Expr.attributesOf, attributesOfAll_eq]
  list items := by rw [Expr.attributesOf, attributesOfAll_eq]
  starred inner := by rw [Expr.attributesOf]
  leaves e hleaf := by
    fun_cases Expr.attributesOf owner e with
    | case1 => simp [Expr.attributeOf?]
    | case2 id last hother => simp [Expr.attributeOf?, hother]
    | case3 | case4 | case5 => contradiction
    | case6 => simp_all [Expr.attributeOf?]
  inside e hopen := by cases e <;> simp_all [Expr.takesApart, Expr.attributeOf?]

theorem lists_targetNames (e : Expr) :
    Lists (fun p name => PartAt e p (.name name)) e.targetNames := by
  refine (readsLeaves_targetNames.lists e).congr fun p name => ?_
  constructor
  · rintro ⟨part, hpart, hname⟩
    cases part with
    | name id =>
      obtain rfl := Option.some.inj hname
      exact hpart
    | _ => contradiction
  · intro hpart
    exact ⟨_, hpart, rfl⟩

theorem lists_attributesOf (owner : String) (e : Expr) :
    Lists (fun p name => PartAt e p (.attribute (.name owner) name)) (e.attributesOf owner) := by
  refine ((readsLeaves_attributesOf owner).lists e).congr fun p name => ?_
  constructor
  · rintro ⟨part, hpart, hname⟩
    unfold Expr.attributeOf? at hname
    split at hname
    · split at hname
      · rename_i howner
        obtain rfl := howner
        obtain rfl := Option.some.inj hname
        exact hpart
      · contradiction
    · contradiction
  · intro hpart
    exact ⟨_, hpart, by rw [Expr.attributeOf?, if_pos rfl]⟩

/-! ## What is read from a statement -/

/-- What is assigned to attributes in a statement, in order. -/
theorem lists_assigned (self : String) (s : Stmt) :
    Lists (AssignsAt self s) (s.targets.flatMap (Expr.attributesOf self)) := by
  -- only blocks are entered: whatever a definition assigns is assigned when it is called
  match s with
  | .assign targets =>
    rw [Stmt.targets]
    refine (Lists.flatMap fun e _ => lists_attributesOf self e).congr fun p name => ?_
    constructor
    · rintro ⟨target, hpart⟩
      exact .assign target hpart
    · intro h
      cases h with
      | assign target hpart => exact .inside target hpart
  | .annotated e =>
    rw [Stmt.targets, List.flatMap_singleton]
    refine (lists_attributesOf self e).congr fun p name => ⟨.annotated, fun h => ?_⟩
    cases h with
    | annotated hpart => exact hpart
  | .augmented e =>
    rw [Stmt.targets, List.flatMap_singleton]
    refine (lists_attributesOf self e).congr fun p name => ⟨.augmented, fun h => ?_⟩
    cases h with
    | augmented hpart => exact hpart
  | .block body =>
    rw [Stmt.targets, targetsAll_eq, List.flatMap_assoc]
    refine (Lists.flatMap fun s _ => lists_assigned self s).congr fun p name => ?_
    constructor
    · rintro ⟨item, hinside⟩
      exact .block item hinside
    · intro h
      cases h with
      | block item hinside => exact .inside item hinside
  | .classDef .. | .functionDef .. | .importNames _ | .importFrom .. | .other =>
    refine .nil fun p name h => ?_
    cases h

/-- What an initializer declares, in order. -/
theorem lists_initializer (self : String) (others : List String) (body : List Stmt) :
    Lists (DeclaresAt (.functionDef initializer (self :: others) body))
      ((targetsAll body).flatMap (Expr.attributesOf self)) := by
  rw [targetsAll_eq, List.flatMap_assoc]
  refine (Lists.flatMap fun s _ => lists_assigned self s).congr fun p name => ?_
  constructor
  · rintro ⟨item, hassigns⟩
    exact .initializer item hassigns
  · intro h
    cases h with
    | initializer item hassigns => exact .inside item hassigns

/-- What a statement of a class body declares, in order. -/
theorem lists_declaredNames (s : Stmt) : Lists (DeclaresAt s) (declaredNames s) := by
  -- one case for each kind of statement that declares fields, and one for all others
  fun_cases declaredNames s with
  | case1 id =>
    refine (Lists.single id).congr fun p name => ?_
    constructor
    · rintro ⟨rfl, rfl⟩
      exact .annotated
    · intro h
      cases h with
      | annotated => exact ⟨rfl, rfl⟩
  | case2 targets =>
    rw [targetNamesAll_eq]
    refine (Lists.flatMap fun e _ => lists_targetNames e).congr fun p name => ?_
    constructor
    · rintro ⟨target, hpart⟩
      exact .assign target hpart
    · intro h
      cases h with
      | assign target hpart => exact .inside target hpart
  | case3 self others body => exact lists_initializer self others body
  | case4 name self others body hother =>
    refine .nil fun p n h => ?_
    cases h
    exact hother rfl
  | case5 s hannotated hassign hinitializer =>
    refine .nil fun p n h => ?_
    cases h with
    | annotated => exact hannotated _ rfl
    | assign => exact hassign _ rfl
    | initializer => exact hinitializer _ _ _ _ rfl

/-! ## The fields -/

theorem lists_fieldsOf (body : List Stmt) :
    Lists (FirstAt (· = ·) fun p n => DeclaredAt body p n ∧ (!isReservedName n) = true)
      (fieldsOf body) :=
  ((Lists.flatMap fun s _ => lists_declaredNames s).filter fun n => !isReservedName n).eraseDups

theorem mem_fieldsOf {body : List Stmt} {n : String} :
    n ∈ fieldsOf body ↔ isReservedName n = false ∧ ∃ p, DeclaredAt body p n := by
  have hdeclared : n ∈ body.flatMap declaredNames ↔ ∃ p, DeclaredAt body p n :=
    (Lists.flatMap fun s _ => lists_declaredNames s).mem_iff
  rw [fieldsOf, List.mem_eraseDups, List.mem_filter, hdeclared, Bool.not_eq_true', and_comm]

/-- The fields of a class body are the names that it declares somewhere and that are not kept for the
language, each once, in the order of the places where they are declared first. -/
theorem fieldsOf_in_text_order (body : List Stmt) :
    (fieldsOf body).Nodup ∧
      (∀ n, n ∈ fieldsOf body ↔ isReservedName n = false ∧ ∃ p, DeclaredAt body p n) ∧
      (fieldsOf body).Pairwise fun a b =>
        ∃ p, DeclaredAt body p a ∧ ∀ q, DeclaredAt body q b → p.Before q := by
  refine ⟨nodup_eraseDups _, fun n => mem_fieldsOf, ?_⟩
  refine (lists_fieldsOf body).pairwise_first.imp_of_mem ?_
  rintro a b - hb ⟨p, ⟨ha, -⟩, hbefore⟩
  have hfree : isReservedName b = false := (mem_fieldsOf.mp hb).1
  exact ⟨p, ha, fun q hq => hbefore q ⟨hq, by rw [hfree, Bool.not_false]⟩⟩

/-- A nested target and an initializer declare; a definition inside it and a kept name do not. -/
example : fieldsOf [.assign [.tuple [.name "b", .starred (.list [.name "a"])]],
    .functionDef initializer ["self"]
      [.block [.augmented (.attribute (.name "self") "c"), .assign [.attribute (.name "self") "a"]],
        .functionDef "reset" [] [.assign [.attribute (.name "self") "d"]]],
    .annotated (.name "__slots__")] = ["b", "a", "c"] := by
  decide +kernel

end Roster.Source
