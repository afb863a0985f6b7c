/-! # Paths

A path is relative or starts at a root, and has parts that are neither empty nor a single dot.
Two slashes at the front are a root of their own. A part `..` is kept until the path is resolved.

* `Path.parse` reads a text, `Path.text` writes it.
* `Path.join` restarts at an absolute second path.
-/

namespace Roster

/-- Where a path starts. -/
inductive PathRoot where
  | relative
  | slash
  | doubleSlash
  deriving DecidableEq, Repr, Inhabited

/-- A path. -/
structure Path where
  root : PathRoot
  parts : List String
  deriving DecidableEq, Repr, Inhabited

/-- Splits characters at a separator; there is always one more piece than separators. -/
def splitChars (sep : Char) : List Char → List (List Char)
  | [] => [[]]
  | c :: rest =>
    match splitChars sep rest with
    | [] => [[]]
    | piece :: pieces => if c = sep then [] :: piece :: pieces else (c :: piece) :: pieces

/-- Splits a text at a separator. -/
def splitText (sep : Char) (s : String) : List String :=
  (splitChars sep s.toList).map String.ofList

namespace Path

/-- The root that a text starts with. -/
def rootOf (cs : List Char) : PathRoot :=
  match (cs.takeWhile (· = '/')).length with
  | 0 => .relative
  | 2 => .doubleSlash
  | _ => .slash

/-- Whether a piece between slashes is a part of a path. -/
def isPart (piece : String) : Bool := piece ≠ "" && piece ≠ "."

/-- Reads a path. -/
def parse (s : String) : Path := ⟨rootOf s.toList, (splitText '/' s).filter isPart⟩

/-- The relative path without parts. -/
def here : Path := ⟨.relative, []⟩

/-- Whether the path starts at a root. -/
def isAbsolute (p : Path) : Bool := p.root ≠ .relative

/-- The text of a root. -/
def rootText : PathRoot → String
  | .relative => ""
  | .slash => "/"
  | .doubleSlash => "//"

/-- Writes a path. -/
def text (p : Path) : String :=
  if p.root = .relative && p.parts.isEmpty then "."
  else rootText p.root ++ String.intercalate "/" p.parts

/-- The second path seen from the first. -/
def join (p q : Path) : Path := if q.isAbsolute then q else ⟨p.root, p.parts ++ q.parts⟩

instance : Div Path := ⟨join⟩

/-- The path of several texts, each seen from the ones before it. -/
def ofTexts (pieces : List String) : Path := pieces.foldl (fun p s => p / parse s) here

/-- The path without its last part. -/
def parent (p : Path) : Path := ⟨p.root, p.parts.dropLast⟩

/-- The last part, or nothing. -/
def name (p : Path) : String := p.parts.getLastD ""

/-- The ending of the last part from its last dot on; a dot at either end does not count. -/
def suffix (p : Path) : String :=
  let cs := p.name.toList.reverse
  let ending := cs.takeWhile (· ≠ '.')
  let before := (cs.dropWhile (· ≠ '.')).drop 1
  if ending.isEmpty || before.isEmpty || ending.length = cs.length then ""
  else String.ofList ('.' :: ending.reverse)

/-- The parts below `base`, if the path lies below it. -/
def relativeTo? (p base : Path) : Option (List String) :=
  if p.root = base.root && base.parts.isPrefixOf p.parts then
    some (p.parts.drop base.parts.length)
  else none

/-- Follows parts from a list of names, `..` going up. -/
def normalise (start parts : List String) : List String :=
  parts.foldl (fun names part => if part = ".." then names.dropLast else names ++ [part]) start

/-- The absolute path without `..`, seen from the directory with the given names. -/
def resolved (current : List String) (p : Path) : Path :=
  ⟨.slash, normalise (if p.isAbsolute then [] else current) p.parts⟩

end Path
end Roster
