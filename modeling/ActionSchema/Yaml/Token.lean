import ActionSchema.Yaml.Scalar

/-! The tokens of a YAML text. What a text delivers is the list of its tokens up to its end or up to
the first place where it goes wrong; only a text that is right to the end ends in `streamEnd`.

Indentation is made explicit by tokens that open and close block collections. A key without a mark
of its own is found only at the colon behind it, so a token that may start such a key waits in a
queue, and its `key` token is put in front of it later. -/

namespace ActionSchema.Yaml

structure TagName where
  handle : String
  suffix : String

inductive Token
  | streamStart
  | streamEnd
  | versionDirective (major minor : Nat)
  | tagDirective (handle pre : String)
  | documentStart
  | documentEnd
  | blockSequenceStart
  | blockMappingStart
  | blockEnd
  | flowSequenceStart
  | flowSequenceEnd
  | flowMappingStart
  | flowMappingEnd
  | blockEntry
  | flowEntry
  | key
  | value
  | aliasOf (name : String)
  | anchor (name : String)
  | tag (name : TagName)
  | scalar (value : String) (plain : Bool)

namespace Token

/-! ### Words with a mark -/

def readAnchor (c : Cursor) : Option (String × Cursor) :=
  let name := c.rest.takeWhile isWordChar
  let c := c.skip name.length
  let ends := atGap c.rest || c.rest.head?.any fun ch =>
    ch == '?' || ch == ':' || ch == ',' || ch == ']' || ch == '}' || ch == '%' || ch == '@'
      || ch == '\x60'
  if name.isEmpty || !ends then none else some (String.ofList name, c)

def readHandle (c : Cursor) : Option (String × Bool × Cursor) :=
  match c.rest with
  | '!' :: rest =>
    let word := rest.takeWhile isWordChar
    let c := c.skip (word.length + 1)
    match c.rest with
    | '!' :: _ => some (String.ofList ('!' :: word ++ ['!']), true, c.skip 1)
    | _ => some (String.ofList ('!' :: word), false, c)
  | _ => none

def isUriChar (verbatim : Bool) (c : Char) : Bool :=
  isWordChar c || ";/?:@&=+$.%!~*'()".toList.contains c
    || (verbatim && (c == ',' || c == '[' || c == ']'))

def octetCount? (first : Nat) : Option Nat :=
  if first < 0x80 then some 1
  else if 0xC0 ≤ first ∧ first < 0xE0 then some 2
  else if 0xE0 ≤ first ∧ first < 0xF0 then some 3
  else if 0xF0 ≤ first ∧ first < 0xF8 then some 4
  else none

def readOctet : List Char → Option Nat
  | '%' :: a :: b :: _ => hexNumber? [a, b]
  | _ => none

def readOctets (cs : List Char) : Option (List Char × Nat) := do
  let first ← readOctet cs
  let count ← octetCount? first
  let rest ← (List.range (count - 1)).mapM fun i => do
    let octet ← readOctet (cs.drop (3 * (i + 1)))
    if 0x80 ≤ octet ∧ octet < 0xC0 then some octet else none
  return ((first :: rest).map Char.ofNat, 3 * count)

def readUri (verbatim : Bool) (fuel : Nat) (c : Cursor) (text : List Char) :
    Option (List Char × Cursor) :=
  match fuel with
  | 0 => none
  | fuel + 1 =>
    match c.rest with
    | ch :: _ =>
      if ch == '%' then do
        let (octets, n) ← readOctets c.rest
        readUri verbatim fuel (c.skip n) (octets.reverse ++ text)
      else if isUriChar verbatim ch then readUri verbatim fuel (c.skip 1) (ch :: text)
      else some (text, c)
    | [] => some (text, c)

def readSuffix (verbatim : Bool) (c : Cursor) (start : String) : Option (String × Cursor) := do
  let (text, c) ← readUri verbatim (c.rest.length + 1) c start.toList.reverse
  return (String.ofList text.reverse, c)

/-- A text up to its first NUL, which ends what a tag says. -/
def upToNul (text : String) : String := String.ofList (text.toList.takeWhile (· != '\x00'))

def readTagName (c : Cursor) : Option (TagName × Cursor) :=
  if c.rest.drop 1 |>.head? |>.any (· == '<') then do
    let (suffix, c) ← readSuffix true (c.skip 2) ""
    if suffix.isEmpty || c.rest.head? != some '>' then none
    else return (⟨"", upToNul suffix⟩, c.skip 1)
  else do
    let (handle, closed, c) ← readHandle c
    if closed && handle.length != 1 then
      let (suffix, c) ← readSuffix false c ""
      if suffix.isEmpty then none else return (⟨handle, upToNul suffix⟩, c)
    else
      let (suffix, c) ← readSuffix false c (String.ofList (handle.toList.drop 1))
      let suffix := upToNul suffix
      return (if suffix.isEmpty then ⟨"", "!"⟩ else ⟨"!", suffix⟩, c)

def readTag (flow : Bool) (c : Cursor) : Option (TagName × Cursor) := do
  let (name, c) ← readTagName c
  if (flow && c.rest.head? == some ',') || atGap c.rest then return (name, c) else none

/-! ### Directives -/

def readVersionNumber (c : Cursor) : Option (Nat × Cursor) :=
  let digits := c.rest.takeWhile Char.isDigit
  if digits.isEmpty || 9 < digits.length then none
  else some (digits.foldl (fun n ch => n * 10 + (ch.toNat - '0'.toNat)) 0, c.skip digits.length)

def readDirective (c : Cursor) : Option (Token × Cursor) := do
  let name := c.rest.takeWhile isWordChar
  let c := c.skip name.length
  if name.isEmpty || !atGap c.rest then none
  let (token, c) ←
    if name == "YAML".toList then do
      let (major, c) ← readVersionNumber (c.skipWhile isBlank)
      if c.rest.head? != some '.' then none
      let (minor, c) ← readVersionNumber (c.skip 1)
      pure (versionDirective major minor, c)
    else if name == "TAG".toList then do
      let (handle, closed, c) ← readHandle (c.skipWhile isBlank)
      if !closed && handle != "!" then none
      if !c.rest.head?.any isBlank then none
      let (pre, c) ← readSuffix true (c.skipWhile isBlank) ""
      if pre.isEmpty || !atGap c.rest then none
      pure (tagDirective handle (upToNul pre), c)
    else none
  return (token, ← c.nextLine?)

end Token

/-! ### The queue of tokens -/

/-- A place where a key without a mark may start. -/
structure KeyPlace where
  required : Bool
  number : Nat
  index : Nat
  line : Nat
  column : Nat

/-- The state of reading tokens. The last place for a key belongs to the innermost flow collection,
or to the block context if there is none. -/
structure Scanner where
  cursor : Cursor
  /-- Whether nothing follows the text. If something does, it cannot be read. -/
  whole : Bool
  started : Bool := false
  /-- Tokens that wait, and how many have been delivered before them. -/
  queue : List Token := []
  delivered : Nat := 0
  /-- The column of the innermost block collection, and those of the others inside out. -/
  indent : Int := -1
  indents : List Int := []
  flowLevel : Nat := 0
  keyAllowed : Bool := false
  keys : List (Option KeyPlace) := []

namespace Scanner

open Token

def inFlow (s : Scanner) : Bool := s.flowLevel != 0

def enqueue (s : Scanner) (token : Token) : Scanner := { s with queue := s.queue ++ [token] }

def insertAt (s : Scanner) (number : Nat) (token : Token) : Scanner :=
  { s with queue := s.queue.insertIdx (number - s.delivered) token }

/-- A key is one line and not long. Gives up the places that have become too old, unless a key is
required there. -/
def dropStaleKeys (s : Scanner) : Option Scanner := do
  let stale (k : KeyPlace) : Bool := k.line < s.cursor.line || k.index + 1024 < s.cursor.index
  let keys ← s.keys.mapM fun
    | some k => if stale k then (if k.required then none else some none) else some (some k)
    | none => some none
  return { s with keys }

def dropKey (s : Scanner) : Option Scanner :=
  match s.keys with
  | some k :: keys => if k.required then none else some { s with keys := none :: keys }
  | _ => some s

def noteKey (s : Scanner) : Option Scanner :=
  if s.keyAllowed then do
    let s ← s.dropKey
    let c := s.cursor
    let required := !s.inFlow && s.indent == (c.column : Int)
    let place : KeyPlace := ⟨required, s.delivered + s.queue.length, c.index, c.line, c.column⟩
    return { s with keys := some place :: s.keys.drop 1 }
  else some s

def indentTo (s : Scanner) (column : Nat) (number : Option Nat) (token : Token) : Scanner :=
  if s.inFlow then s
  else if s.indent < column then
    let s := { s with indent := column, indents := s.indent :: s.indents }
    match number with
    | some number => s.insertAt number token
    | none => s.enqueue token
  else s

def closeBlocks (column : Int) (s : Scanner) : List Int → Scanner
  | [] => s
  | outer :: rest =>
    if s.indent > column then
      closeBlocks column ({ s with indent := outer, indents := rest }.enqueue blockEnd) rest
    else s

def dedentTo (s : Scanner) (column : Int) : Scanner :=
  if s.inFlow then s else closeBlocks column s s.indents

/-- Passes blanks, comments and line breaks, and a byte order mark at the start of a line. A new
line may start a key in the block context; a tab counts as a blank only where no key may start. -/
def toNextToken (fuel : Nat) (s : Scanner) : Scanner :=
  match fuel with
  | 0 => s
  | fuel + 1 =>
    let c := s.cursor
    let c := if c.column == 0 && c.rest.head? == some byteOrderMark then c.skip 1 else c
    let c := c.skipWhile fun ch => ch == ' ' || (ch == '\t' && (s.inFlow || !s.keyAllowed))
    let c := if c.rest.head? == some '#' then c.skipWhile (!isBreak ·) else c
    match c.skipBreak? with
    | some (_, c) =>
      toNextToken fuel { s with cursor := c, keyAllowed := s.keyAllowed || !s.inFlow }
    | none => { s with cursor := c }

def take (s : Scanner) (n : Nat) (token : Token) : Scanner :=
  { s with cursor := s.cursor.skip n }.enqueue token

def queueStreamEnd (s : Scanner) : Option Scanner := do
  let c := s.cursor
  let c := if c.column != 0 then { c with column := 0, line := c.line + 1 } else c
  let s ← ({ s with cursor := c }.dedentTo (-1)).dropKey
  return { s with keyAllowed := false }.enqueue streamEnd

def queueDirective (s : Scanner) : Option Scanner := do
  let s ← (s.dedentTo (-1)).dropKey
  let (token, cursor) ← readDirective (s.cursor.skip 1)
  return { s with cursor, keyAllowed := false }.enqueue token

def queueDocumentMark (s : Scanner) (token : Token) : Option Scanner := do
  let s ← (s.dedentTo (-1)).dropKey
  return { s with keyAllowed := false }.take 3 token

def queueFlowStart (s : Scanner) (token : Token) : Option Scanner := do
  let s ← s.noteKey
  return { s with keys := none :: s.keys, flowLevel := s.flowLevel + 1, keyAllowed := true }.take 1
    token

def queueFlowEnd (s : Scanner) (token : Token) : Option Scanner := do
  let s ← s.dropKey
  let s := if s.inFlow then { s with keys := s.keys.drop 1, flowLevel := s.flowLevel - 1 } else s
  return { s with keyAllowed := false }.take 1 token

def queueFlowEntry (s : Scanner) : Option Scanner := do
  let s ← s.dropKey
  return { s with keyAllowed := true }.take 1 flowEntry

def queueBlockEntry (s : Scanner) : Option Scanner := do
  if !s.inFlow && !s.keyAllowed then none
  let s ← (s.indentTo s.cursor.column none blockSequenceStart).dropKey
  return { s with keyAllowed := true }.take 1 blockEntry

def queueKey (s : Scanner) : Option Scanner := do
  if !s.inFlow && !s.keyAllowed then none
  let s ← (s.indentTo s.cursor.column none blockMappingStart).dropKey
  return { s with keyAllowed := !s.inFlow }.take 1 key

def queueValue (s : Scanner) : Option Scanner :=
  match s.keys with
  | some k :: keys =>
    let s := (s.insertAt k.number key).indentTo k.column (some k.number) blockMappingStart
    some ({ s with keys := none :: keys, keyAllowed := false }.take 1 value)
  | _ =>
    if !s.inFlow && !s.keyAllowed then none
    else
      let s := s.indentTo s.cursor.column none blockMappingStart
      some ({ s with keyAllowed := !s.inFlow }.take 1 value)

def queueKeyStart (s : Scanner) (read : Option (Token × Cursor)) : Option Scanner := do
  let s ← s.noteKey
  let (token, cursor) ← read
  return { s with cursor, keyAllowed := false }.enqueue token

def queueAnchor (s : Scanner) (token : String → Token) : Option Scanner :=
  s.queueKeyStart ((readAnchor (s.cursor.skip 1)).map fun (name, c) => (token name, c))

def queueTag (s : Scanner) : Option Scanner :=
  s.queueKeyStart ((readTag s.inFlow s.cursor).map fun (name, c) => (tag name, c))

def queueQuoted (s : Scanner) (single : Bool) : Option Scanner :=
  s.queueKeyStart ((quotedScalar single (s.cursor.skip 1)).map fun (text, c) =>
    (scalar text false, c))

def queueBlockScalar (s : Scanner) (literal : Bool) : Option Scanner := do
  let s ← s.dropKey
  let (text, cursor) ← blockScalar literal s.indent (s.cursor.skip 1)
  return { s with cursor, keyAllowed := true }.enqueue (scalar text false)

def queuePlain (s : Scanner) : Option Scanner := do
  let s ← s.noteKey
  let (text, crossed, cursor) ← plainScalar s.inFlow (s.indent + 1) s.cursor
  return { s with cursor, keyAllowed := crossed }.enqueue (scalar text true)

def startsPlain (inFlow : Bool) (c : Char) (rest : List Char) : Bool :=
  if c == '-' then !rest.head?.any isBlank
  else if c == '?' || c == ':' then !inFlow && !atGap rest
  else !isBlank c && !(",[]\x7b\x7d#&*!|>'\"%@\x60".toList.contains c)

def queueNext (s : Scanner) : Option Scanner := do
  if !s.started then
    return { s with started := true, keyAllowed := true, keys := [none] }.enqueue streamStart
  let s ← (s.toNextToken (s.cursor.rest.length + 1)).dropStaleKeys
  let s := s.dedentTo s.cursor.column
  -- to tell a token takes up to four characters
  if !s.whole && (s.cursor.rest.drop 3).isEmpty then none
  match s.cursor.rest with
  | [] => s.queueStreamEnd
  | c :: rest =>
    if c == '%' && s.cursor.column == 0 then s.queueDirective
    else if s.cursor.atDocumentMark '-' then s.queueDocumentMark documentStart
    else if s.cursor.atDocumentMark '.' then s.queueDocumentMark documentEnd
    else if c == '[' then s.queueFlowStart flowSequenceStart
    else if c == '{' then s.queueFlowStart flowMappingStart
    else if c == ']' then s.queueFlowEnd flowSequenceEnd
    else if c == '}' then s.queueFlowEnd flowMappingEnd
    else if c == ',' then s.queueFlowEntry
    else if c == '-' && atGap rest then s.queueBlockEntry
    else if c == '?' && (s.inFlow || atGap rest) then s.queueKey
    else if c == ':' && (s.inFlow || atGap rest) then s.queueValue
    else if c == '*' then s.queueAnchor aliasOf
    else if c == '&' then s.queueAnchor anchor
    else if c == '!' then s.queueTag
    else if c == '|' && !s.inFlow then s.queueBlockScalar true
    else if c == '>' && !s.inFlow then s.queueBlockScalar false
    else if c == '\'' then s.queueQuoted true
    else if c == '"' then s.queueQuoted false
    else if startsPlain s.inFlow c rest then s.queuePlain
    else none

def headMayBeKey (s : Scanner) : Bool :=
  s.keys.any fun k => k.any (·.number == s.delivered)

def run (fuel : Nat) (s : Scanner) : List Token :=
  match fuel with
  | 0 => []
  | fuel + 1 =>
    -- of a text that is cut off here not even the waiting tokens are delivered
    let more := fun (s : Scanner) => match s.queueNext with
      | some s => if s.whole || !s.cursor.rest.isEmpty then s.run fuel else []
      | none => []
    match s.queue with
    | [] => more s
    | token :: queue =>
      match s.dropStaleKeys with
      | none => []
      | some s =>
        -- a later token may still put a key in front of this one
        if s.headMayBeKey then more s
        else match token with
          | streamEnd => [streamEnd]
          | token => token :: { s with queue, delivered := s.delivered + 1 }.run fuel

end Scanner

def blockSize : Nat := 16384

/-- What can be taken in of a text, and whether that is all of it. It is taken in by blocks of whole
characters, and not on from the first block with a character that YAML does not allow. Given are the
room in the current block and, in reverse, the text before this block and all the text so far. -/
def takeBlocks (room : Nat) (before soFar : List Char) : List Char → List Char × Bool
  | [] => (soFar.reverse, true)
  | c :: rest =>
    let (room, before) := if c.utf8Size ≤ room then (room, before) else (blockSize, soFar)
    if isAllowed c then takeBlocks (room - c.utf8Size) before (c :: soFar) rest
    else (before.reverse, false)

def Token.ofText (text : List Char) : List Token :=
  let (text, whole) := takeBlocks blockSize [] [] text
  { cursor := { rest := text }, whole : Scanner }.run (8 * text.length + 32)

end ActionSchema.Yaml
