/-! Places in a YAML text, and the classes of characters that YAML tells apart. -/

namespace ActionSchema.Yaml

def isAllowed (c : Char) : Bool :=
  let n := c.toNat
  n == 9 || n == 10 || n == 13 || (0x20 ≤ n && n ≤ 0x7E) || n == 0x85 || (0xA0 ≤ n && n ≤ 0xFFFD)
    || 0x10000 ≤ n

def isBreak (c : Char) : Bool :=
  c == '\n' || c == '\r' || c == '\u0085' || c == '\u2028' || c == '\u2029'

def isBlank (c : Char) : Bool := c == ' ' || c == '\t'

def isWordChar (c : Char) : Bool := c.isAlphanum || c == '_' || c == '-'

def byteOrderMark : Char := '\uFEFF'

def atGap : List Char → Bool
  | [] => true
  | c :: _ => isBlank c || isBreak c

def atLineEnd : List Char → Bool
  | [] => true
  | c :: _ => isBreak c

def octetSize (text : List Char) : Nat := text.foldl (fun size c => size + c.utf8Size) 0

/-- A place in a text, with the text after it. A line is counted in characters, the whole text in
octets. -/
structure Cursor where
  rest : List Char
  index : Nat := 0
  line : Nat := 0
  column : Nat := 0

namespace Cursor

def skip (c : Cursor) (n : Nat) : Cursor :=
  { c with
    rest := c.rest.drop n
    index := c.index + octetSize (c.rest.take n)
    column := c.column + n }

/-- The place after a line break, if one stands here, and the character that the break counts as. -/
def skipBreak? (c : Cursor) : Option (Char × Cursor) :=
  match c.rest with
  | '\r' :: '\n' :: rest => some ('\n', ⟨rest, c.index + 2, c.line + 1, 0⟩)
  | ch :: rest =>
    if isBreak ch then
      let counted := if ch == '\u2028' || ch == '\u2029' then ch else '\n'
      some (counted, ⟨rest, c.index + ch.utf8Size, c.line + 1, 0⟩)
    else none
  | [] => none

/-- The place after the characters of a class, none of which breaks a line. -/
def skipWhile (c : Cursor) (p : Char → Bool) : Cursor := c.skip (c.rest.takeWhile p).length

def skipComment? (c : Cursor) : Option Cursor :=
  let c := c.skipWhile isBlank
  let c := if c.rest.head? == some '#' then c.skipWhile (!isBreak ·) else c
  if atLineEnd c.rest then some c else none

def nextLine? (c : Cursor) : Option Cursor :=
  c.skipComment?.map fun c => match c.skipBreak? with
    | some (_, c) => c
    | none => c

def atDocumentMark (c : Cursor) (mark : Char) : Bool :=
  c.column == 0 && c.rest.take 3 == [mark, mark, mark] && atGap (c.rest.drop 3)

def atAnyDocumentMark (c : Cursor) : Bool := c.atDocumentMark '-' || c.atDocumentMark '.'

end Cursor

end ActionSchema.Yaml
