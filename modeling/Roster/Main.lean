import Roster.CommandLine
import Std.Time

/-! # The program

A call works on a tree of files in memory. The tree holds what lies below the working directory and
below the paths among the arguments; what the call changed in it is written back.
-/

namespace Roster.Disk

/-- The text of a place. -/
def pathText (place : Place) : String := "/" ++ String.intercalate "/" place

/-- Reads what lies at a place and below it. Links to directories are not followed, and what cannot
be read is left out. -/
partial def readBelow (place : Place) (found : List (Place × FileEntry)) :
    IO (List (Place × FileEntry)) := do
  let path := (← IO.currentDir) / pathText place
  if ← path.isDir then
    let entries ← try path.readDir catch _ => pure #[]
    let mut found := (place, .directory) :: found
    for entry in entries do
      let isLink := (← entry.path.symlinkMetadata).type == .symlink
      unless isLink && (← entry.path.isDir) do
        found ← readBelow (place ++ [entry.fileName]) found
    return found
  else
    try return (place, .file (← IO.FS.readBinFile path)) :: found catch _ => return found

/-- The places above a place. -/
def above (place : Place) : List Place := (List.range place.length).map fun n => place.take n

/-- The places that arguments may name, alone or after an equal sign. -/
def namedPlaces (t : FileTree) (args : List String) : List Place :=
  let texts := args.flatMap fun arg => [arg, (splitPair arg).2.getD ""]
  texts.filterMap fun text =>
    ((Path.parse text).expandHome t.home).map fun path => (path.resolved t.current).parts

/-- The tree that a call works on. -/
def load (args : List String) : IO FileTree := do
  let current := (Path.parse (← IO.currentDir).toString).parts
  let home := (Path.parse ((← IO.getEnv "HOME").getD "/")).parts
  let limits := { Limits.ample with modules := Source.signExhaustion? }
  let empty : FileTree := ⟨[], current, home, limits⟩
  let mut found := []
  for place in (current :: namedPlaces empty args).eraseDups do
    for directory in (above place).drop 1 do
      if ← ((← IO.currentDir) / pathText directory).isDir then
        found := (directory, .directory) :: found
    unless place.isEmpty || (found.any fun e => e.1 == place) do
      found ← readBelow place found
  return { empty with entries := found.reverse }

/-- Writes back what differs from the tree before. -/
def save (before after : FileTree) : IO Unit := do
  for (place, entry) in after.entries do
    unless before.get? place = some entry do
      match entry with
      | .directory => IO.FS.createDirAll (pathText place)
      | .file content => IO.FS.writeBinFile (pathText place) content

end Roster.Disk

open Roster in
/-- One call of the program. -/
def main (args : List String) : IO UInt32 := do
  let before ← Disk.load args
  let time := (← Std.Time.PlainDateTime.now).format "uuuu-MM-dd HH:mm:ss,SSS"
  let takes := fun c => !Text.isLone c
  let (after, ending) := CommandLine.run takes time [] before args
  Disk.save before after
  match ending with
  | .ok e =>
    IO.print e.output
    IO.eprint e.complaints
    return UInt32.ofNat e.status
  | .error breakdown =>
    if let .unprintable output complaints _ := breakdown then
      IO.print output
      IO.eprint complaints
    IO.eprintln breakdown.message
    return 1
