import Roster.Path
import Roster.Text.Blank
import Roster.Wildcard

/-! # Ignore rules

A rule is a wildcard that ignores paths, or brings them back when it is negated. A slash at its end
confines it to directories, a slash at its front ties it to the root. Of several rules that match, the
last one decides.

* `ignored_append_match`: a later rule that matches decides.
-/

namespace Roster

/-- A rule on paths below a root. -/
structure IgnoreRule where
  pattern : String
  directoryOnly : Bool
  anchored : Bool
  negated : Bool
  hasSlash : Bool
  deriving DecidableEq, Repr

namespace IgnoreRule

/-- Takes a slash off the end. -/
def withoutFinalSlash (s : String) : String × Bool :=
  match s.toList.reverse with
  | '/' :: rest => (String.ofList rest.reverse, true)
  | _ => (s, false)

/-- Takes a slash off the front. -/
def withoutFirstSlash (s : String) : String × Bool :=
  match s.toList with
  | '/' :: rest => (String.ofList rest, true)
  | _ => (s, false)

/-- The rule of a pattern; blanks around it do not count, and a blank pattern is none. -/
def ofPattern? (text : String) (negated : Bool) : Option IgnoreRule :=
  let text := Text.trimmed text
  if text = "" then none
  else
    let (text, directoryOnly) := withoutFinalSlash text
    let (text, anchored) := withoutFirstSlash text
    some ⟨text, directoryOnly, anchored, negated, text.contains '/'⟩

/-- Whether the rule matches a relative path. -/
def matchesPath (rule : IgnoreRule) (path : String) (isDirectory : Bool) : Bool :=
  if rule.pattern = "" || (rule.directoryOnly && !isDirectory) then false
  else if rule.anchored || rule.hasSlash then
    Wildcard.matchesText rule.pattern path
      || (rule.directoryOnly && (rule.pattern ++ "/").toList.isPrefixOf path.toList)
  else (splitText '/' path).any (Wildcard.matchesText rule.pattern)

/-- The rule of one line of an ignore file; a line that starts with a number sign is a comment. -/
def ofLine? (line : String) : Option IgnoreRule :=
  let line := Text.trimmed line
  match line.toList with
  | [] => none
  | '#' :: _ => none
  | '!' :: rest => ofPattern? (String.ofList rest) true
  | _ => ofPattern? line false

/-- The rules of an ignore file. -/
def ofText (text : String) : List IgnoreRule := (Text.lines text).filterMap ofLine?

end IgnoreRule

/-- Whether the last rule that matches a path ignores it. -/
def ignored (rules : List IgnoreRule) (path : String) (isDirectory : Bool) : Bool :=
  rules.foldl
    (fun sofar rule => if rule.matchesPath path isDirectory then !rule.negated else sofar) false

theorem ignored_append_match (rules : List IgnoreRule) (rule : IgnoreRule) (path : String)
    (isDirectory : Bool) (h : rule.matchesPath path isDirectory = true) :
    ignored (rules ++ [rule]) path isDirectory = !rule.negated := by
  simp [ignored, h]

theorem ignored_append_other (rules : List IgnoreRule) (rule : IgnoreRule) (path : String)
    (isDirectory : Bool) (h : rule.matchesPath path isDirectory = false) :
    ignored (rules ++ [rule]) path isDirectory = ignored rules path isDirectory := by
  simp [ignored, h]

end Roster
