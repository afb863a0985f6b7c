import Roster.Document.Fault
import Roster.Text.Utf8

/-! # Document tokens

The tokens of a document in block or flow style: indentation opens and closes collections, a scalar
or a flow collection followed by a colon on the same line is a key. Tokens are found by reading the
text once; `Token.ofText` always ends with the end of the document or with the fault that stopped it.
-/

namespace Roster.Document

/-- A line of instructions in front of a document. -/
inductive Directive where
  | version (major minor : Nat)
  | tagHandle (handle start : String)
  | other
  deriving DecidableEq, Repr

/-- A token. -/
inductive Token where
  | directive (d : Directive)
  | documentStart
  | documentEnd
  | streamEnd
  | blockSequenceStart
  | blockMappingStart
  | blockEnd
  | flowSequenceStart
  | flowSequenceEnd
  | flowMappingStart
  | flowMappingEnd
  | flowEntry
  | blockEntry
  | key
  | value
  | anchorUse (name : String)
  | anchor (name : String)
  | tag (handle : Option String) (suffix : String)
  | scalar (plain : Bool) (text : String)
  | fault (f : Fault)
  deriving DecidableEq, Repr

/-! ## Characters -/

/-- The characters that end a line. -/
def isBreak (c : Char) : Bool :=
  c = '\n' || c = '\r' || c.toNat = 0x85 || c.toNat = 0x2028 || c.toNat = 0x2029

/-- Whether a place is at a line's end or at the text's. -/
def breakOrEnd : Option Char → Bool
  | none => true
  | some c => isBreak c

/-- Whether a place is at a space, at a line's end or at the text's. -/
def spaceOrEnd : Option Char → Bool
  | none => true
  | some c => c = ' ' || isBreak c

/-- Whether a place is at a space or a tab, at a line's end or at the text's. -/
def blankOrEnd : Option Char → Bool
  | none => true
  | some c => c = ' ' || c = '\t' || isBreak c

/-- Whether a character may stand in a document at all. -/
def isPermitted (c : Char) : Bool :=
  let n := c.toNat
  n = 9 || n = 10 || n = 13 || (0x20 ≤ n && n ≤ 0x7E) || n = 0x85 || (0xA0 ≤ n && n ≤ 0xD7FF)
    || (0xE000 ≤ n && n ≤ 0xFFFD) || 0x10000 ≤ n

/-- The characters of anchors and handles. -/
def isWordChar (c : Char) : Bool := c.isAlphanum || c = '-' || c = '_'

/-- The characters of the address of a tag. -/
def isAddressChar (c : Char) : Bool :=
  c.isAlphanum || "-;/?:@&=+$,_.!~*'()[]%".toList.contains c

/-- The value of a hexadecimal digit. -/
def hexValue? (c : Char) : Option Nat :=
  if c.isDigit then some (c.toNat - 48)
  else if 'a' ≤ c && c ≤ 'f' then some (c.toNat - 87)
  else if 'A' ≤ c && c ≤ 'F' then some (c.toNat - 55)
  else none

/-- The number that exactly `count` hexadecimal digits write. -/
def hexNumber? : Nat → Nat → List Char → Option Nat
  | 0, acc, _ => some acc
  | _ + 1, _, [] => none
  | count + 1, acc, c :: rest => (hexValue? c).bind fun d => hexNumber? count (16 * acc + d) rest

/-! ## Places in the text -/

/-- A place in the text: what is left, the line and the column, and how many characters are behind. -/
structure Cursor where
  rest : List Char
  line : Nat
  column : Nat
  index : Nat
  deriving Inhabited

namespace Cursor

/-- The next character. -/
def peek (c : Cursor) : Option Char := c.rest.head?

/-- The character `n` places ahead. -/
def peekAt (c : Cursor) (n : Nat) : Option Char := c.rest[n]?

/-- One character on. -/
def next (c : Cursor) : Cursor :=
  match c.rest with
  | [] => c
  | ch :: rest =>
    if isBreak ch && !(ch = '\r' && rest.head? = some '\n') then
      ⟨rest, c.line + 1, 0, c.index + 1⟩
    else if ch.toNat = 0xFEFF then ⟨rest, c.line, c.column, c.index + 1⟩
    else ⟨rest, c.line, c.column + 1, c.index + 1⟩

/-- Several characters on. -/
def skip : Nat → Cursor → Cursor
  | 0, c => c
  | n + 1, c => skip n c.next

/-- The characters that satisfy a test, and the place after them. -/
def takeWhile (p : Char → Bool) (c : Cursor) : List Char × Cursor :=
  let taken := c.rest.takeWhile p
  (taken, c.skip taken.length)

/-- The place after the characters that satisfy a test. -/
def dropWhile (p : Char → Bool) (c : Cursor) : Cursor := (c.takeWhile p).2

/-- The place after spaces. -/
def dropSpaces (c : Cursor) : Cursor := c.dropWhile (· = ' ')

/-- A line's end as a text, and the place after it; nothing if there is none. -/
def takeBreak (c : Cursor) : List Char × Cursor :=
  match c.rest with
  | '\r' :: '\n' :: _ => (['\n'], c.skip 2)
  | ch :: _ =>
    if ch.toNat = 0x2028 || ch.toNat = 0x2029 then ([ch], c.next)
    else if isBreak ch then (['\n'], c.next)
    else ([], c)
  | [] => ([], c)

/-- The place after a comment. -/
def dropComment (c : Cursor) : Cursor :=
  if c.peek = some '#' then c.dropWhile (!isBreak ·) else c

/-- Whether three equal characters stand here with a blank or an end behind them. -/
def atMarker (c : Cursor) (ch : Char) : Bool :=
  c.peekAt 0 = some ch && c.peekAt 1 = some ch && c.peekAt 2 = some ch && blankOrEnd (c.peekAt 3)

/-- Whether a document's start or end is marked here. -/
def atSeparator (c : Cursor) : Bool := c.atMarker '-' || c.atMarker '.'

/-- Goes to the end of the line, past spaces and a comment; anything else is a fault. -/
def endLine (c : Cursor) : Except Fault Cursor :=
  let c := c.dropSpaces.dropComment
  if breakOrEnd c.peek then .ok c.takeBreak.2 else .error .malformed

end Cursor

/-! ## Anchors, tags and directives -/

/-- A name after its sign. -/
def scanAnchor (c : Cursor) : Except Fault (String × Cursor) :=
  let (name, c) := c.next.takeWhile isWordChar
  if name.isEmpty then .error .malformed
  else if blankOrEnd c.peek || (c.peek.any "?:,]\x7d%@`".toList.contains) then
    .ok (String.ofList name, c)
  else .error .malformed

/-- The bytes of escapes with percent signs. -/
def scanEscapedBytes : Nat → Cursor → Except Fault (List UInt8 × Cursor)
  | 0, c => .ok ([], c)
  | fuel + 1, c =>
    if c.peek = some '%' then
      match hexNumber? 2 0 c.next.rest with
      | none => .error .malformed
      | some n => do
        let (more, c) ← scanEscapedBytes fuel (c.skip 3)
        .ok (n.toUInt8 :: more, c)
    else .ok ([], c)

/-- The pieces of an address. -/
def scanAddressPieces : Nat → Cursor → Except Fault (List Char × Cursor)
  | 0, c => .ok ([], c)
  | fuel + 1, c =>
    match c.peek with
    | some '%' => do
      let (bytes, c) ← scanEscapedBytes c.rest.length c
      match Text.decodeUtf8 ⟨bytes.toArray⟩ with
      | .error _ => .error .malformed
      | .ok text =>
        let (more, c) ← scanAddressPieces fuel c
        .ok (text.toList ++ more, c)
    | some ch =>
      if isAddressChar ch then do
        let (more, c) ← scanAddressPieces fuel c.next
        .ok (ch :: more, c)
      else .ok ([], c)
    | none => .ok ([], c)

/-- The address of a tag; it has at least one character. -/
def scanAddress (c : Cursor) : Except Fault (String × Cursor) := do
  if c.peek.any isAddressChar then
    let (cs, c) ← scanAddressPieces c.rest.length c
    .ok (String.ofList cs, c)
  else .error .malformed

/-- A handle: an exclamation mark, or a word between two. -/
def scanHandle (c : Cursor) : Except Fault (String × Cursor) :=
  if c.peek ≠ some '!' then .error .malformed
  else if c.peekAt 1 = some ' ' then .ok ("!", c.next)
  else
    let (word, after) := c.next.takeWhile isWordChar
    if after.peek = some '!' then .ok (String.ofList ('!' :: word ++ ['!']), after.next)
    else .error .malformed

/-- A tag: its handle, if it has one, and the rest of it. -/
def scanTag (c : Cursor) : Except Fault ((Option String × String) × Cursor) := do
  let (found, c) ←
    if c.peekAt 1 = some '<' then do
      let (address, c) ← scanAddress (c.skip 2)
      if c.peek = some '>' then .ok ((none, address), c.next) else .error .malformed
    else if blankOrEnd (c.peekAt 1) then .ok ((none, "!"), c.next)
    else do
      let word := (c.next.rest.takeWhile fun ch => !spaceOrEnd (some ch))
      let (handle, c) ← if word.contains '!' then scanHandle c else .ok ("!", c.next)
      let (suffix, c) ← scanAddress c
      .ok ((some handle, suffix), c)
  if spaceOrEnd c.peek then .ok (found, c) else .error .malformed

/-- A run of decimal digits as a number. -/
def scanDigits (c : Cursor) : Except Fault (Nat × Cursor) :=
  let (digits, c) := c.takeWhile Char.isDigit
  if digits.isEmpty then .error .malformed
  else .ok (digits.foldl (fun n d => 10 * n + (d.toNat - 48)) 0, c)

/-- A directive, up to the end of its line. -/
def scanDirective (c : Cursor) : Except Fault (Directive × Cursor) := do
  let (name, c) := c.next.takeWhile isWordChar
  if name.isEmpty || !spaceOrEnd c.peek then .error .malformed
  else
    let (directive, c) ←
      if name = "YAML".toList then do
        let (major, c) ← scanDigits c.dropSpaces
        if c.peek ≠ some '.' then .error .malformed
        else
          let (minor, c) ← scanDigits c.next
          if spaceOrEnd c.peek then .ok (Directive.version major minor, c) else .error .malformed
      else if name = "TAG".toList then do
        let (handle, c) ← scanHandle c.dropSpaces
        if c.peek ≠ some ' ' then .error .malformed
        else
          let (start, c) ← scanAddress c.dropSpaces
          if spaceOrEnd c.peek then .ok (Directive.tagHandle handle start, c)
          else .error .malformed
      else .ok (Directive.other, c.dropWhile (!isBreak ·))
    let c ← c.endLine
    .ok (directive, c)

/-! ## Scalars in quotes -/

/-- Empty lines inside quotes: the line ends after the first one, and the place after them. -/
def scanQuotedBreaks : Nat → Cursor → Except Fault (List Char × Cursor)
  | 0, c => .ok ([], c)
  | fuel + 1, c =>
    if c.atSeparator then .error .malformed
    else
      let c := c.dropWhile fun ch => ch = ' ' || ch = '\t'
      if c.peek.any isBreak then do
        let (first, c) := c.takeBreak
        let (more, c) ← scanQuotedBreaks fuel c
        .ok (first ++ more, c)
      else .ok ([], c)

/-- Blanks inside quotes: they stand for themselves within a line, and a line's end is a space
unless empty lines follow it. -/
def scanQuotedSpaces (c : Cursor) : Except Fault (List Char × Cursor) := do
  let (blanks, c) := c.takeWhile fun ch => ch = ' ' || ch = '\t'
  match c.peek with
  | none => .error .malformed
  | some ch =>
    if isBreak ch then
      let (first, c) := c.takeBreak
      let (breaks, c) ← scanQuotedBreaks c.rest.length c
      let lead := if first ≠ ['\n'] then first else if breaks.isEmpty then [' '] else []
      .ok (lead ++ breaks, c)
    else .ok (blanks, c)

/-- The character of a one-letter escape. -/
def escapeChar? (c : Char) : Option Char :=
  match c with
  | '0' => some '\x00'
  | 'a' => some '\x07'
  | 'b' => some '\x08'
  | 't' => some '\t'
  | '\t' => some '\t'
  | 'n' => some '\n'
  | 'v' => some '\x0b'
  | 'f' => some '\x0c'
  | 'r' => some '\r'
  | 'e' => some '\x1b'
  | ' ' => some ' '
  | '\x22' => some '\x22'
  | '\\' => some '\\'
  | '/' => some '/'
  | 'N' => some (Char.ofNat 0x85)
  | '_' => some (Char.ofNat 0xA0)
  | 'L' => some (Char.ofNat 0x2028)
  | 'P' => some (Char.ofNat 0x2029)
  | _ => none

/-- How many digits follow the letter of a numeric escape. -/
def escapeWidth? : Char → Option Nat
  | 'x' => some 2
  | 'u' => some 4
  | 'U' => some 8
  | _ => none

/-- An escape after its backslash. -/
def scanEscape (c : Cursor) : Except Fault (List Char × Cursor) :=
  match c.peek with
  | none => .error .malformed
  | some ch =>
    match escapeChar? ch with
    | some d => .ok ([d], c.next)
    | none =>
      match escapeWidth? ch with
      | some width =>
        match hexNumber? width 0 c.next.rest with
        | none => .error .malformed
        | some n =>
          if n ≥ Nat.pow 2 31 then .error .hugeCharacter
          else if n ≥ 0x110000 then .error .noCharacter
          else .ok ([Text.ofCodePoint n], c.skip (1 + width))
      | none =>
        if isBreak ch then do
          let (_, c) := c.takeBreak
          scanQuotedBreaks c.rest.length c
        else .error .malformed

/-- Whether a character ends a run of plain characters inside quotes. -/
def stopsQuotedRun (ch : Char) : Bool :=
  ch = '\x27' || ch = '\x22' || ch = '\\' || ch = ' ' || ch = '\t' || isBreak ch

/-- The rest of a scalar in quotes, up to and past the closing one. -/
def scanQuoted (double : Bool) : Nat → Cursor → Except Fault (List Char × Cursor)
  | 0, _ => .error .malformed
  | fuel + 1, c =>
    match c.peek with
    | none => .error .malformed
    | some ch =>
      if !stopsQuotedRun ch then do
        let (run, c) := c.takeWhile (!stopsQuotedRun ·)
        let (more, c) ← scanQuoted double fuel c
        .ok (run ++ more, c)
      else if ch = '\x27' && !double then
        if c.peekAt 1 = some '\x27' then do
          let (more, c) ← scanQuoted double fuel (c.skip 2)
          .ok ('\x27' :: more, c)
        else .ok ([], c.next)
      else if ch = '\x22' && double then .ok ([], c.next)
      else if ch = '\\' && double then do
        let (escaped, c) ← scanEscape c.next
        let (more, c) ← scanQuoted double fuel c
        .ok (escaped ++ more, c)
      else if ch = '\x27' || ch = '\x22' || ch = '\\' then do
        let (more, c) ← scanQuoted double fuel c.next
        .ok (ch :: more, c)
      else do
        let (blanks, c) ← scanQuotedSpaces c
        let (more, c) ← scanQuoted double fuel c
        .ok (blanks ++ more, c)

/-! ## Block scalars -/

/-- What becomes of the line ends at the end of a block scalar. -/
inductive Chomping where
  | strip
  | clip
  | keep
  deriving DecidableEq

/-- The sign for the line ends. -/
def chompingOf? : Option Char → Option Chomping
  | some '+' => some .keep
  | some '-' => some .strip
  | _ => none

/-- The digit for the indentation; zero is none. -/
def indentDigit? (ch : Option Char) : Except Fault (Option Nat) :=
  match ch with
  | some d =>
    if d.isDigit then if d = '0' then .error .malformed else .ok (some (d.toNat - 48)) else .ok none
  | none => .ok none

/-- The signs after the mark of a block scalar, in either order. -/
def scanBlockHeader (c : Cursor) : Except Fault ((Chomping × Option Nat) × Cursor) := do
  let (chomping, increment, c) ← match chompingOf? c.peek with
    | some chomping => do
      match ← indentDigit? c.next.peek with
      | some n => .ok (chomping, some n, c.skip 2)
      | none => .ok (chomping, none, c.next)
    | none => do
      match ← indentDigit? c.peek with
      | some n =>
        match chompingOf? c.next.peek with
        | some chomping => .ok (chomping, some n, c.skip 2)
        | none => .ok (.clip, some n, c.next)
      | none => .ok (.clip, none, c)
  if spaceOrEnd c.peek then .ok ((chomping, increment), c) else .error .malformed

/-- Leading empty lines: their ends, the widest indentation met, and the place after them. -/
def scanLeadingLines : Nat → Nat → Cursor → List Char × Nat × Cursor
  | 0, widest, c => ([], widest, c)
  | fuel + 1, widest, c =>
    match c.peek with
    | some ch =>
      if ch = ' ' then
        let c := c.next
        scanLeadingLines fuel (max widest c.column) c
      else if isBreak ch then
        let (first, c) := c.takeBreak
        let (more, widest, c) := scanLeadingLines fuel widest c
        (first ++ more, widest, c)
      else ([], widest, c)
    | none => ([], widest, c)

/-- The place after at most the indentation's spaces. -/
def dropIndent (indent : Nat) (c : Cursor) : Cursor :=
  c.skip (min (c.rest.takeWhile (· = ' ')).length (indent - c.column))

/-- Empty lines inside a block scalar. -/
def scanBlockBreaks (indent : Nat) : Nat → Cursor → List Char × Cursor
  | 0, c => ([], c)
  | fuel + 1, c =>
    let c := dropIndent indent c
    if c.peek.any isBreak then
      let (first, c) := c.takeBreak
      let (more, c) := scanBlockBreaks indent fuel c
      (first ++ more, c)
    else ([], c)

/-- Whether a place holds neither a space nor a tab. -/
def notBlank : Option Char → Bool
  | some ch => !(ch = ' ' || ch = '\t')
  | none => true

/-- The lines of a block scalar from its first one on, `breaks` being the empty lines before it. The
answer holds the text, the last line's end and the empty lines after it. -/
def scanBlockLines (folded : Bool) (indent : Nat) :
    Nat → List Char → Cursor → List Char × List Char × List Char × Cursor
  | 0, breaks, c => ([], [], breaks, c)
  | fuel + 1, breaks, c =>
    if c.column = indent && c.peek.isSome then
      let leading := notBlank c.peek
      let (line, c) := c.takeWhile (!isBreak ·)
      let (lineEnd, c) := c.takeBreak
      let (after, c) := scanBlockBreaks indent (c.rest.length + 1) c
      if c.column = indent && c.peek.isSome then
        let joint :=
          if folded && lineEnd = ['\n'] && leading && notBlank c.peek then
            if after.isEmpty then [' '] else []
          else lineEnd
        let (more, lineEnd, tail, c) := scanBlockLines folded indent fuel after c
        (breaks ++ line ++ joint ++ more, lineEnd, tail, c)
      else (breaks ++ line, lineEnd, after, c)
    else ([], [], breaks, c)

/-- A block scalar below the indentation `outer`. -/
def scanBlockScalar (folded : Bool) (outer : Int) (c : Cursor) : Except Fault (String × Cursor) := do
  let ((chomping, increment), c) ← scanBlockHeader c.next
  let c ← c.endLine
  let least := (max (outer + 1) 1).toNat
  let (breaks, indent, c) := match increment with
    | none =>
      let (breaks, widest, c) := scanLeadingLines (c.rest.length + 1) 0 c
      (breaks, max least widest, c)
    | some n =>
      let indent := least + n - 1
      let (breaks, c) := scanBlockBreaks indent (c.rest.length + 1) c
      (breaks, indent, c)
  let (text, lineEnd, tail, c) := scanBlockLines folded indent (c.rest.length + 1) breaks c
  let text := match chomping with
    | .strip => text
    | .clip => text ++ lineEnd
    | .keep => text ++ lineEnd ++ tail
  .ok (String.ofList text, c)

/-! ## Plain scalars -/

/-- Whether a plain scalar ends in front of a character and the one after it. -/
def stopsPlain (flow : Bool) (ch : Char) (after : Option Char) : Bool :=
  ch = ' ' || ch = '\t' || isBreak ch
    || (ch = ':' && (blankOrEnd after || (flow && after.any ",[]\x7b\x7d".toList.contains)))
    || (flow && ",?[]\x7b\x7d".toList.contains ch)

/-- How many characters of a plain scalar stand in a row. -/
def plainRun (flow : Bool) : List Char → Nat
  | [] => 0
  | ch :: rest => if stopsPlain flow ch rest.head? then 0 else plainRun flow rest + 1

/-- Empty lines inside a plain scalar: their ends, unless a document ends there. -/
def scanPlainBreaks : Nat → Cursor → Option (List Char) × Cursor
  | 0, c => (some [], c)
  | fuel + 1, c =>
    match c.peek with
    | some ch =>
      if ch = ' ' then scanPlainBreaks fuel c.next
      else if isBreak ch then
        let (first, c) := c.takeBreak
        if c.atSeparator then (none, c)
        else
          let (more, c) := scanPlainBreaks fuel c
          (more.map (first ++ ·), c)
      else (some [], c)
    | none => (some [], c)

/-- The blanks between two runs of a plain scalar, the place after them, and whether a line ended. No
blanks end the scalar. -/
def scanPlainSpaces (c : Cursor) : List Char × Cursor × Bool :=
  let (spaces, c) := c.takeWhile (· = ' ')
  if c.peek.any isBreak then
    let (first, c) := c.takeBreak
    if c.atSeparator then ([], c, true)
    else
      match scanPlainBreaks (c.rest.length + 1) c with
      | (none, c) => ([], c, true)
      | (some breaks, c) =>
        let lead := if first ≠ ['\n'] then first else if breaks.isEmpty then [' '] else []
        (lead ++ breaks, c, true)
  else (spaces, c, false)

/-- The runs of a plain scalar after the blanks `spaces`. The answer also tells whether a line ended
after the last run. -/
def scanPlainRuns (flow : Bool) (indent : Int) :
    Nat → List Char → Bool → Cursor → List Char × Cursor × Bool
  | 0, _, broken, c => ([], c, broken)
  | fuel + 1, spaces, broken, c =>
    if c.peek = some '#' then ([], c, broken)
    else
      match plainRun flow c.rest with
      | 0 => ([], c, broken)
      | n + 1 =>
        let run := c.rest.take (n + 1)
        let (blanks, c, ended) := scanPlainSpaces (c.skip (n + 1))
        if blanks.isEmpty || c.peek = some '#' || (!flow && (c.column : Int) < indent) then
          (spaces ++ run, c, ended)
        else
          let (more, c, broken) := scanPlainRuns flow indent fuel blanks ended c
          (spaces ++ run ++ more, c, broken)

/-! ## The token sequence -/

/-- A place where a key may have started. -/
structure KeyPlace where
  level : Int
  number : Nat
  required : Bool
  index : Nat
  line : Nat
  column : Nat

/-- What reading has come to: the tokens so far, the flow depth, the indentations, whether a key may
start here, and the places where one may have started. -/
structure Scan where
  cursor : Cursor
  tokens : Array Token
  flow : Int
  indent : Int
  indents : List Int
  allowKey : Bool
  keys : List KeyPlace

namespace Scan

/-- Whether the place is inside a flow collection. -/
def inFlow (s : Scan) : Bool := s.flow ≠ 0

/-- Adds a token. -/
def push (s : Scan) (t : Token) : Scan := { s with tokens := s.tokens.push t }

/-- Puts a token before the one with a number. -/
def putAt (s : Scan) (number : Nat) (t : Token) : Scan :=
  { s with tokens := (s.tokens.extract 0 number).push t ++ s.tokens.extract number s.tokens.size }

/-- Closes block collections that are deeper than a column. -/
def unwindTo (column : Int) : List Int → Scan → Scan
  | [], s => s
  | outer :: rest, s =>
    if s.indent > column then
      unwindTo column rest { s.push .blockEnd with indent := outer, indents := rest }
    else s

/-- Closes block collections that are deeper than a column, unless the place is in flow style. -/
def unwind (s : Scan) (column : Int) : Scan := if s.inFlow then s else unwindTo column s.indents s

/-- Opens an indentation if the column is deeper than the current one. -/
def addIndent (s : Scan) (column : Nat) : Scan × Bool :=
  if s.indent < column then
    ({ s with indent := column, indents := s.indent :: s.indents }, true)
  else (s, false)

/-- Forgets key places on other lines or too far behind; one that has to be a key is a fault. -/
def dropStaleKeys (s : Scan) : Except Fault Scan :=
  let stale (k : KeyPlace) : Bool := k.line ≠ s.cursor.line || s.cursor.index - k.index > 1024
  if s.keys.any fun k => stale k && k.required then .error .malformed
  else .ok { s with keys := s.keys.filter fun k => !stale k }

/-- Forgets the key place of the current depth; one that has to be a key is a fault. -/
def dropKey (s : Scan) : Except Fault Scan :=
  if s.keys.any fun k => k.level = s.flow && k.required then .error .malformed
  else .ok { s with keys := s.keys.filter fun k => k.level ≠ s.flow }

/-- Notes that the next token may be a key. -/
def saveKey (s : Scan) : Except Fault Scan :=
  if s.allowKey then do
    let required := !s.inFlow && s.indent = s.cursor.column
    let s ← s.dropKey
    let place : KeyPlace :=
      ⟨s.flow, s.tokens.size, required, s.cursor.index, s.cursor.line, s.cursor.column⟩
    .ok { s with keys := s.keys ++ [place] }
  else .ok s

/-- Past spaces, comments and line ends to the next token. -/
def toNextToken : Nat → Scan → Scan
  | 0, s => s
  | fuel + 1, s =>
    let c := s.cursor.dropSpaces.dropComment
    if c.peek.any isBreak then
      toNextToken fuel
        { s with cursor := c.takeBreak.2, allowKey := if s.inFlow then s.allowKey else true }
    else { s with cursor := c }

/-- A token of one or more signs. -/
def sign (s : Scan) (width : Nat) (t : Token) : Scan :=
  { s with cursor := s.cursor.skip width }.push t

/-- A token with a text. -/
def taken (s : Scan) (t : Token) (c : Cursor) : Scan := { s with cursor := c }.push t

/-- A document's start or end. -/
def separator (s : Scan) (t : Token) : Except Fault Scan := do
  let s ← (s.unwind (-1)).dropKey
  .ok ({ s with allowKey := false }.sign 3 t)

/-- A flow collection's start. -/
def openFlow (s : Scan) (t : Token) : Except Fault Scan := do
  let s ← s.saveKey
  .ok ({ s with flow := s.flow + 1, allowKey := true }.sign 1 t)

/-- A flow collection's end. -/
def closeFlow (s : Scan) (t : Token) : Except Fault Scan := do
  let s ← s.dropKey
  .ok ({ s with flow := s.flow - 1, allowKey := false }.sign 1 t)

/-- Opens a block collection where an entry or a key is met outside flow collections. -/
def openBlock (s : Scan) (t : Token) : Except Fault Scan :=
  if s.inFlow then .ok s
  else if !s.allowKey then .error .malformed
  else
    let (s, opened) := s.addIndent s.cursor.column
    .ok (if opened then s.push t else s)

/-- The dash of an entry. -/
def blockEntry (s : Scan) : Except Fault Scan := do
  let s ← s.openBlock .blockSequenceStart
  let s ← { s with allowKey := true }.dropKey
  .ok (s.sign 1 .blockEntry)

/-- The question mark of a key. -/
def explicitKey (s : Scan) : Except Fault Scan := do
  let s ← s.openBlock .blockMappingStart
  let s ← { s with allowKey := !s.inFlow }.dropKey
  .ok (s.sign 1 .key)

/-- The colon of a value: what stands at the current depth's key place becomes a key. -/
def valueSign (s : Scan) : Except Fault Scan :=
  match s.keys.find? fun k => k.level = s.flow with
  | some place =>
    let s := { s with keys := s.keys.filter fun k => k.level ≠ s.flow }
    let s := s.putAt place.number .key
    let s :=
      if s.inFlow then s
      else
        let (s, opened) := s.addIndent place.column
        if opened then s.putAt place.number .blockMappingStart else s
    .ok ({ s with allowKey := false }.sign 1 .value)
  | none => do
    let s ← s.openBlock .blockMappingStart
    let s ← { s with allowKey := !s.inFlow }.dropKey
    .ok (s.sign 1 .value)

/-- A token that may be a key, read by `scan`. -/
def keyable {α : Type} (s : Scan) (scan : Cursor → Except Fault (α × Cursor)) (t : α → Token) :
    Except Fault Scan := do
  let s ← s.saveKey
  let (a, c) ← scan s.cursor
  .ok ({ s with allowKey := false }.taken (t a) c)

/-- A block scalar. -/
def blockScalar (s : Scan) (folded : Bool) : Except Fault Scan := do
  let s ← { s with allowKey := true }.dropKey
  let (text, c) ← scanBlockScalar folded s.indent s.cursor
  .ok (s.taken (.scalar false text) c)

/-- Whether a plain scalar starts here. -/
def atPlain (s : Scan) (ch : Char) : Bool :=
  !("\t-?:,[]\x7b\x7d#&*!|>\x27\x22%@` ".toList.contains ch || isBreak ch)
    || (!blankOrEnd (s.cursor.peekAt 1) && (ch = '-' || (!s.inFlow && (ch = '?' || ch = ':'))))

/-- A plain scalar. -/
def plainScalar (s : Scan) : Except Fault Scan := do
  let s ← s.saveKey
  let (text, c, broken) :=
    scanPlainRuns s.inFlow (s.indent + 1) (s.cursor.rest.length + 1) [] false s.cursor
  .ok ({ s with allowKey := broken }.taken (.scalar true (String.ofList text)) c)

/-- The next token at a character. -/
def tokenAt (s : Scan) (ch : Char) : Except Fault Scan :=
  let c := s.cursor
  let after := blankOrEnd (c.peekAt 1)
  if ch = '%' && c.column = 0 then do
    let s ← (s.unwind (-1)).dropKey
    let (d, c) ← scanDirective s.cursor
    .ok ({ s with allowKey := false }.taken (.directive d) c)
  else if ch = '-' && c.column = 0 && c.atMarker '-' then s.separator .documentStart
  else if ch = '.' && c.column = 0 && c.atMarker '.' then s.separator .documentEnd
  else if ch = '[' then s.openFlow .flowSequenceStart
  else if ch = '\x7b' then s.openFlow .flowMappingStart
  else if ch = ']' then s.closeFlow .flowSequenceEnd
  else if ch = '\x7d' then s.closeFlow .flowMappingEnd
  else if ch = ',' then do
    let s ← { s with allowKey := true }.dropKey
    .ok (s.sign 1 .flowEntry)
  else if ch = '-' && after then s.blockEntry
  else if ch = '?' && (s.inFlow || after) then s.explicitKey
  else if ch = ':' && (s.inFlow || after) then s.valueSign
  else if ch = '*' then s.keyable scanAnchor .anchorUse
  else if ch = '&' then s.keyable scanAnchor .anchor
  else if ch = '!' then s.keyable scanTag fun t => .tag t.1 t.2
  else if ch = '|' && !s.inFlow then s.blockScalar false
  else if ch = '>' && !s.inFlow then s.blockScalar true
  else if ch = '\x27' then
    s.keyable (fun c => scanQuoted false (c.rest.length + 1) c.next)
      fun cs => .scalar false (String.ofList cs)
  else if ch = '\x22' then
    s.keyable (fun c => scanQuoted true (c.rest.length + 1) c.next)
      fun cs => .scalar false (String.ofList cs)
  else if s.atPlain ch then s.plainScalar
  else .error .malformed

/-- Reads tokens up to the end of the text; `fuel` bounds their number. -/
def run : Nat → Scan → Array Token
  | 0, s => s.tokens.push (.fault .malformed)
  | fuel + 1, s =>
    let s := toNextToken (s.cursor.rest.length + 1) s
    match s.dropStaleKeys with
    | .error f => s.tokens.push (.fault f)
    | .ok s =>
      let s := s.unwind s.cursor.column
      match s.cursor.peek with
      | none =>
        match (s.unwind (-1)).dropKey with
        | .error f => s.tokens.push (.fault f)
        | .ok s => s.tokens.push .streamEnd
      | some ch =>
        match s.tokenAt ch with
        | .error f => s.tokens.push (.fault f)
        | .ok s => run fuel s

end Scan

/-- The tokens of a text; a mark of the byte order at its front does not count. -/
def Token.ofText (text : String) : List Token :=
  let cs := text.toList
  if !cs.all isPermitted then [.fault .malformed]
  else
    let start : Cursor := ⟨cs, 0, 0, 0⟩
    let start := if start.peek = some (Char.ofNat 0xFEFF) then start.next else start
    (Scan.run (cs.length + 1) ⟨start, #[], 0, -1, [], true, []⟩).toList

end Roster.Document
