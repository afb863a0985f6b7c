/-! # Log records

What a component reports while it works: a level, the topic that it reports on, and a message.
-/

namespace Roster

/-- How weighty a record is. A host's records may have a rank of their own. -/
inductive LogLevel where
  | debug
  | info
  | warning
  | error
  | critical
  | other (rank : Int)
  deriving DecidableEq, Repr, Inhabited

/-- The rank of a level. -/
def LogLevel.rank : LogLevel → Int
  | .debug => 10
  | .info => 20
  | .warning => 30
  | .error => 40
  | .critical => 50
  | .other rank => rank

/-- The ranks that have names. -/
def namedRanks : List (Int × String) :=
  [(0, "NOTSET"), (10, "DEBUG"), (20, "INFO"), (30, "WARNING"), (40, "ERROR"), (50, "CRITICAL")]

/-- The name of a level. -/
def LogLevel.name (level : LogLevel) : String :=
  (namedRanks.lookup level.rank).getD ("Level " ++ toString level.rank)

/-- Whether a level is at least another one. -/
def LogLevel.atLeast (level bound : LogLevel) : Bool := bound.rank ≤ level.rank

/-- The component that reports; a host's own components are named below the library. -/
inductive LogTopic where
  | collection
  | round
  | manifest
  | sourceCode
  | other (names : List String)
  deriving DecidableEq, Repr, Inhabited

/-- The name that a topic is logged under. -/
def LogTopic.name : LogTopic → String
  | .collection => "fielder.collector"
  | .round => "fielder.processor"
  | .manifest => "fielder.discovery.manifest"
  | .sourceCode => "fielder.discovery.python"
  | .other names => String.intercalate "." ("fielder" :: names)

/-- One report. -/
structure LogRecord where
  level : LogLevel
  topic : LogTopic
  message : String
  deriving DecidableEq, Repr, Inhabited

/-- The records of one run, in order. -/
abbrev Log := List LogRecord

/-- A record with its level, topic and message. -/
def LogRecord.text (r : LogRecord) : String :=
  r.level.name ++ " " ++ r.topic.name ++ ": " ++ r.message

end Roster
