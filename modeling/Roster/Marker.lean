/-! # The class marker

A class can be marked at run time; nothing else can. A subclass is not marked by its base.
-/

namespace Roster

/-- What the marker is put on. -/
inductive MarkerTarget where
  | class (marked : Bool)
  | other
  deriving DecidableEq, Repr

/-- Why the marker is refused. -/
inductive MarkerRefusal where
  | notClass
  deriving DecidableEq, Repr

/-- The wording of the refusal. -/
def MarkerRefusal.message : MarkerRefusal → String
  | .notClass => "@fieldable can only decorate classes"

namespace MarkerTarget

/-- Marks a class. -/
def mark : MarkerTarget → Except MarkerRefusal MarkerTarget
  | .class _ => .ok (.class true)
  | .other => .error .notClass

/-- Whether a class is marked itself. -/
def isMarked : MarkerTarget → Bool
  | .class marked => marked
  | .other => false

/-- A new subclass. -/
def subclass : MarkerTarget → MarkerTarget
  | .class _ => .class false
  | .other => .other

end MarkerTarget
end Roster
