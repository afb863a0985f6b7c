import Roster.OrderedMap
import Roster.Text.Quoted

/-! # Field names

An insertion-ordered set of names that can be frozen once it is complete. A frozen set takes no
more names; a copy starts unfrozen.

* `toList_push`: a new name goes to the end, a known one changes nothing.
* `Session`: any number of named sets and the answers to operations on them.
-/

namespace Roster

/-- An ordered set of field names. -/
structure FieldNames where
  toList : List String
  frozen : Bool
  nodup : toList.Nodup

/-- Why a name is refused: the set is frozen. -/
inductive NameRefusal where
  | frozenSet
  deriving DecidableEq, Repr

/-- The wording of the refusal. -/
def NameRefusal.message : NameRefusal → String
  | .frozenSet => "FieldNameSet is frozen"

namespace FieldNames

/-- The set without names. -/
def empty : FieldNames := ⟨[], false, List.nodup_nil⟩

instance : Inhabited FieldNames := ⟨empty⟩

/-- Whether a name is in the set. -/
def contains (s : FieldNames) (name : String) : Bool := decide (name ∈ s.toList)

/-- How many names there are. -/
def size (s : FieldNames) : Nat := s.toList.length

/-- Puts a name at the end unless it is there, whether the set is frozen or not. -/
def push (s : FieldNames) (name : String) : FieldNames :=
  if h : name ∈ s.toList then s
  else
    { s with
      toList := s.toList ++ [name]
      nodup := nodup_snoc s.nodup h }

/-- Adds a name; the answer tells whether it was new. -/
def add (s : FieldNames) (name : String) : Except NameRefusal (FieldNames × Bool) :=
  if s.frozen then .error .frozenSet else .ok (s.push name, !s.contains name)

/-- The unfrozen set of the first occurrences in a list. -/
def ofList (names : List String) : FieldNames := names.foldl push empty

/-- The set with no more names to come. -/
def freeze (s : FieldNames) : FieldNames := { s with frozen := true }

/-- An unfrozen set of the same names. -/
def copy (s : FieldNames) : FieldNames := { s with frozen := false }

/-- Two sets are the same when their names are, in order; being frozen does not count. -/
def same (s t : FieldNames) : Bool := s.toList == t.toList

/-- The hash of a set is that of its names in their order, under the way in which lists of names are
hashed into words at the time. -/
def hashBy (hash : List String → UInt64) (s : FieldNames) : UInt64 := hash s.toList

/-- The set as a text. -/
def text (s : FieldNames) : String :=
  "FieldNameSet([" ++ String.intercalate ", " (s.toList.map Text.quoted) ++ "])"

theorem toList_push (s : FieldNames) (name : String) :
    (s.push name).toList = if name ∈ s.toList then s.toList else s.toList ++ [name] := by
  unfold push
  split <;> simp_all

@[simp] theorem toList_freeze (s : FieldNames) : s.freeze.toList = s.toList := rfl

/-- An operation on the named sets. -/
inductive Step where
  | new (set : String) (names : List String)
  | add (set name : String)
  | freeze (set : String)
  | frozen (set : String)
  | list (set : String)
  | length (set : String)
  /-- Asks for a name, or for something that is no text. -/
  | contains (set : String) (name : Option String)
  | equals (set other : String)
  | equalsList (set : String)
  | copy (set target : String)
  | text (set : String)
  deriving Repr

/-- The answer to a step. -/
inductive Answer where
  | truth (b : Bool)
  | names (ns : List String)
  | count (n : Nat)
  /-- Whether two sets are equal, differ, and have equal hash values. -/
  | comparison (equal differ sameHash : Bool)
  | shown (text : String)
  | refused (cause : NameRefusal)
  deriving Repr

/-- The named sets. -/
abbrev Session := OrderedMap String FieldNames

/-- The set of a name; a name that was never used stands for the empty set. -/
def Session.find (s : Session) (set : String) : FieldNames := (s.get? set).getD empty

section

variable (hash : List String → UInt64)

/-- Runs one step; `hash` is the way in which lists of names are hashed. -/
def Session.step (s : Session) : Step → Session × Answer
  | .new set names =>
    let made := ofList names
    (s.insert set made, .names made.toList)
  | .add set name =>
    match (s.find set).add name with
    | .ok (t, new) => (s.insert set t, .truth new)
    | .error e => (s, .refused e)
  | .freeze set => (s.insert set (s.find set).freeze, .truth true)
  | .frozen set => (s, .truth (s.find set).frozen)
  | .list set => (s, .names (s.find set).toList)
  | .length set => (s, .count (s.find set).size)
  | .contains set name => (s, .truth ((name.map (s.find set).contains).getD false))
  | .equals set other =>
    let (a, b) := (s.find set, s.find other)
    (s, .comparison (a.same b) (!a.same b) (a.hashBy hash == b.hashBy hash))
  | .equalsList _ => (s, .truth false)
  | .copy set target =>
    let made := (s.find set).copy
    (s.insert target made, .names made.toList)
  | .text set => (s, .shown (s.find set).text)

/-- Runs steps from the session without sets. -/
def Session.run (steps : List Step) : Session × List Answer :=
  steps.foldl (fun (s, answers) step => let (s, a) := s.step hash step; (s, answers ++ [a]))
    (OrderedMap.empty, [])

end

end FieldNames
end Roster
