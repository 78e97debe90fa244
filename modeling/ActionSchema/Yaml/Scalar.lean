import ActionSchema.Yaml.Cursor

/-! Scalars in their written forms: plain, in quotes, and as indented blocks. Each reader returns
the text meant and the place behind the scalar. -/

namespace ActionSchema.Yaml

/-- White space inside a scalar that may turn out to be part of it. Blanks count only before the
first break. -/
structure Gap where
  blanks : List Char := []
  broken : Bool := false
  /-- The first break, unless it was escaped. -/
  first : Option Char := none
  more : List Char := []

namespace Gap

def addBlank (g : Gap) (c : Char) : Gap :=
  if g.broken then g else { g with blanks := c :: g.blanks }

def addBreak (g : Gap) (c : Char) : Gap :=
  if g.broken then { g with more := c :: g.more } else { broken := true, first := some c }

def folded (g : Gap) : List Char :=
  if !g.broken then g.blanks
  else match g.first with
    | none => g.more
    | some '\n' => if g.more.isEmpty then [' '] else g.more
    | some c => g.more ++ [c]

end Gap

/-! ### Plain scalars -/

def strayColon : List Char → Bool
  | ':' :: c :: _ => c == ',' || c == '?' || c == '[' || c == ']' || c == '{' || c == '}'
  | _ => false

def plainEnds (flow : Bool) : List Char → Bool
  | ':' :: rest => atGap rest
  | c :: _ => flow && (c == ',' || c == '[' || c == ']' || c == '{' || c == '}')
  | [] => true

mutual

/-- A plain scalar from the start of a word. Also says whether the scalar was left on another line
than its last word. -/
def plainWord (flow : Bool) (indent : Int) (fuel : Nat) (c : Cursor) (text : List Char)
    (gap : Gap) : Option (List Char × Bool × Cursor) :=
  match fuel with
  | 0 => none
  | fuel + 1 =>
    if c.atAnyDocumentMark || c.rest.head? == some '#' then some (text, gap.broken, c)
    else plainChars flow indent fuel c text gap

def plainChars (flow : Bool) (indent : Int) (fuel : Nat) (c : Cursor) (text : List Char)
    (gap : Gap) : Option (List Char × Bool × Cursor) :=
  match fuel with
  | 0 => none
  | fuel + 1 =>
    match c.rest with
    | [] => some (text, gap.broken, c)
    | ch :: _ =>
      if isBlank ch || isBreak ch then plainGap flow indent fuel c text gap
      else if flow && strayColon c.rest then none
      else if plainEnds flow c.rest then some (text, gap.broken, c)
      else plainChars flow indent fuel (c.skip 1) (ch :: (gap.folded ++ text)) {}

def plainGap (flow : Bool) (indent : Int) (fuel : Nat) (c : Cursor) (text : List Char)
    (gap : Gap) : Option (List Char × Bool × Cursor) :=
  match fuel with
  | 0 => none
  | fuel + 1 =>
    match c.skipBreak?, c.rest with
    | some (ch, next), _ => plainGap flow indent fuel next text (gap.addBreak ch)
    | none, ch :: _ =>
      if isBlank ch then
        -- a tab is no indentation
        if gap.broken && c.column < indent && ch == '\t' then none
        else plainGap flow indent fuel (c.skip 1) text (gap.addBlank ch)
      else if !flow && c.column < indent then some (text, gap.broken, c)
      else plainWord flow indent fuel c text gap
    | none, [] =>
      if !flow && c.column < indent then some (text, gap.broken, c)
      else plainWord flow indent fuel c text gap

end

def plainScalar (flow : Bool) (indent : Int) (c : Cursor) : Option (String × Bool × Cursor) :=
  (plainWord flow indent (3 * c.rest.length + 3) c [] {}).map fun (text, crossed, c) =>
    (String.ofList text.reverse, crossed, c)

/-! ### Quoted scalars -/

def hexDigit? (c : Char) : Option Nat :=
  if '0' ≤ c ∧ c ≤ '9' then some (c.toNat - '0'.toNat)
  else if 'a' ≤ c ∧ c ≤ 'f' then some (c.toNat - 'a'.toNat + 10)
  else if 'A' ≤ c ∧ c ≤ 'F' then some (c.toNat - 'A'.toNat + 10)
  else none

def hexNumber? (digits : List Char) : Option Nat :=
  digits.foldlM (fun n c => (hexDigit? c).map (n * 16 + ·)) 0

def namedEscape? : Char → Option Char
  | '0' => some '\x00'
  | 'a' => some '\x07'
  | 'b' => some '\x08'
  | 't' => some '\t'
  | '\t' => some '\t'
  | 'n' => some '\n'
  | 'v' => some '\x0b'
  | 'f' => some '\x0c'
  | 'r' => some '\r'
  | 'e' => some '\x1b'
  | ' ' => some ' '
  | '"' => some '"'
  | '/' => some '/'
  | '\\' => some '\\'
  | 'N' => some '\u0085'
  | '_' => some '\u00a0'
  | 'L' => some '\u2028'
  | 'P' => some '\u2029'
  | _ => none

def escapeLength? : Char → Option Nat
  | 'x' => some 2
  | 'u' => some 4
  | 'U' => some 8
  | _ => none

def escape? : List Char → Option (Char × Nat)
  | [] => none
  | c :: rest =>
    match namedEscape? c, escapeLength? c with
    | some ch, _ => some (ch, 1)
    | none, some n =>
      if rest.length < n then none
      else match hexNumber? (rest.take n) with
        | some value =>
          if h : value.isValidChar then some (Char.ofNatAux value h, n + 1) else none
        | none => none
    | none, none => none

mutual

def quotedLine (single : Bool) (fuel : Nat) (c : Cursor) (text : List Char) :
    Option (List Char × Cursor) :=
  match fuel with
  | 0 => none
  | fuel + 1 => if c.atAnyDocumentMark then none else quotedChars single fuel c text

def quotedChars (single : Bool) (fuel : Nat) (c : Cursor) (text : List Char) :
    Option (List Char × Cursor) :=
  match fuel with
  | 0 => none
  | fuel + 1 =>
    match c.rest with
    | [] => none
    | ch :: rest =>
      if isBlank ch || isBreak ch then quotedGap single fuel c text {}
      else if single then
        if ch == '\'' then
          if rest.head? == some '\'' then quotedChars single fuel (c.skip 2) ('\'' :: text)
          else some (text, c.skip 1)
        else quotedChars single fuel (c.skip 1) (ch :: text)
      else if ch == '"' then some (text, c.skip 1)
      else if ch == '\\' then
        match (c.skip 1).skipBreak?, escape? rest with
        | some (_, next), _ => quotedGap single fuel next text { broken := true }
        | none, some (e, n) => quotedChars single fuel (c.skip (n + 1)) (e :: text)
        | none, none => none
      else quotedChars single fuel (c.skip 1) (ch :: text)

def quotedGap (single : Bool) (fuel : Nat) (c : Cursor) (text : List Char) (gap : Gap) :
    Option (List Char × Cursor) :=
  match fuel with
  | 0 => none
  | fuel + 1 =>
    match c.skipBreak?, c.rest with
    | some (ch, next), _ => quotedGap single fuel next text (gap.addBreak ch)
    | none, ch :: _ =>
      if isBlank ch then quotedGap single fuel (c.skip 1) text (gap.addBlank ch)
      else quotedLine single fuel c (gap.folded ++ text)
    | none, [] => none

end

def quotedScalar (single : Bool) (c : Cursor) : Option (String × Cursor) :=
  (quotedLine single (3 * c.rest.length + 3) c []).map fun (text, c) =>
    (String.ofList text.reverse, c)

/-! ### Block scalars -/

inductive Chomp
  | strip
  | clip
  | keep

structure BlockHeader where
  chomp : Chomp := .clip
  increment : Option Nat := none

def readChomp (c : Cursor) : Option (Chomp × Cursor) :=
  match c.rest with
  | '+' :: _ => some (.keep, c.skip 1)
  | '-' :: _ => some (.strip, c.skip 1)
  | _ => none

def readIncrement (c : Cursor) : Option (Option Nat × Cursor) :=
  match c.rest with
  | ch :: _ =>
    if ch == '0' then none
    else if ch.isDigit then some (some (ch.toNat - '0'.toNat), c.skip 1)
    else some (none, c)
  | [] => some (none, c)

def readHeader (c : Cursor) : Option (BlockHeader × Cursor) := do
  let (header, c) ← match readChomp c with
    | some (chomp, c) => do
      let (increment, c) ← readIncrement c
      pure ({ chomp, increment : BlockHeader }, c)
    | none => do
      let (increment, c) ← readIncrement c
      match increment, readChomp c with
      | some _, some (chomp, c) => pure ({ chomp, increment : BlockHeader }, c)
      | _, _ => pure ({ increment : BlockHeader }, c)
  return (header, ← c.nextLine?)

/-- The empty lines at the start or after a line of a block, as breaks in reverse, and the greatest
column among them. Without an indentation any number of spaces is taken. -/
def blockBreaks (indent : Option Nat) (fuel : Nat) (c : Cursor) (breaks : List Char)
    (greatest : Nat) : Option (List Char × Nat × Cursor) :=
  match fuel with
  | 0 => none
  | fuel + 1 =>
    let spaces := (c.rest.takeWhile (· == ' ')).length
    let c := c.skip <| match indent with
      | some indent => min spaces (indent - c.column)
      | none => spaces
    let greatest := max greatest c.column
    let inside := match indent with
      | some indent => decide (c.column < indent)
      | none => true
    if inside && c.rest.head? == some '\t' then none
    else match c.skipBreak? with
      | some (ch, next) => blockBreaks indent fuel next (ch :: breaks) greatest
      | none => some (breaks, greatest, c)

/-- What has been read of a block. Texts are in reverse. -/
structure BlockState where
  text : List Char := []
  leadingBreak : List Char := []
  trailingBreaks : List Char := []
  leadingBlank : Bool := false

def BlockState.join (s : BlockState) (literal blank : Bool) : List Char :=
  if !literal && s.leadingBreak == ['\n'] && !s.leadingBlank && !blank then
    if s.trailingBreaks.isEmpty then ' ' :: s.text else s.trailingBreaks ++ s.text
  else s.trailingBreaks ++ s.leadingBreak ++ s.text

def blockLines (literal : Bool) (indent : Nat) (fuel : Nat) (c : Cursor) (s : BlockState) :
    Option (BlockState × Cursor) :=
  match fuel with
  | 0 => none
  | fuel + 1 =>
    match c.rest with
    | [] => some (s, c)
    | ch :: _ =>
      if c.column != indent then some (s, c)
      else do
        let line := c.rest.takeWhile (!isBreak ·)
        let text := line.reverse ++ s.join literal (isBlank ch)
        let next := c.skip line.length
        let (leadingBreak, next) := match next.skipBreak? with
          | some (ch, next) => ([ch], next)
          | none => ([], next)
        let (trailingBreaks, _, next) ← blockBreaks (some indent) (next.rest.length + 1) next [] 0
        blockLines literal indent fuel next
          { text, leadingBreak, trailingBreaks, leadingBlank := isBlank ch }

def blockScalar (literal : Bool) (parent : Int) (c : Cursor) : Option (String × Cursor) := do
  let (header, c) ← readHeader c
  let fixed := header.increment.map fun n => if 0 ≤ parent then parent.toNat + n else n
  let (trailingBreaks, greatest, c) ← blockBreaks fixed (c.rest.length + 1) c [] 0
  let indent := fixed.getD (max (max greatest (parent + 1).toNat) 1)
  let (s, c) ← blockLines literal indent (c.rest.length + 1) c { trailingBreaks }
  let text := match header.chomp with
    | .strip => s.text
    | .clip => s.leadingBreak ++ s.text
    | .keep => s.trailingBreaks ++ s.leadingBreak ++ s.text
  return (String.ofList text.reverse, c)

end ActionSchema.Yaml
