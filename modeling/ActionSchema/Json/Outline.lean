import ActionSchema.Json.Basic
import ActionSchema.Text.Blank

/-! The outline of a JSON text: what the text says as far as it is well formed, in the order in
which it says it. A reader that wants only part of a value finds every earlier part intact, and
meets the break where the text has it: an array or object that is not closed properly ends in a
broken item. Nothing is held for a number out of range, and nothing for a string or key with half a
surrogate pair. -/

namespace ActionSchema.Json

mutual

inductive Outline
  | broken
  | null
  | bool (value : Bool)
  | num (value : Option Number)
  | str (value : Option String)
  | arr (items : List Outline)
  | obj (entries : List Entry)

inductive Entry
  | mk (key : Option String) (value : Outline)

end

namespace Outline

def isBlank (c : Char) : Bool := c == ' ' || c == '\t' || c == '\n' || c == '\r'

def skipBlanks (cs : List Char) : List Char := cs.dropWhile isBlank

/-! ### Numbers -/

/-- The largest significand kept; digits that would exceed it are dropped. -/
def maxDigits : Nat := 0xFFFFFFFFFFFFFFFF

def takeDigits (significand taken : Nat) : List Char → Nat × Nat × Nat
  | [] => (significand, taken, 0)
  | c :: cs =>
    let next := significand * 10 + (c.toNat - '0'.toNat)
    if next ≤ maxDigits then takeDigits next (taken + 1) cs
    else (significand, taken, cs.length + 1)

def readExponent : List Char → Option (Option Int × List Char)
  | c :: cs =>
    if c = 'e' ∨ c = 'E' then
      let (negative, cs) := match cs with
        | '+' :: cs => (false, cs)
        | '-' :: cs => (true, cs)
        | cs => (false, cs)
      let digits := cs.takeWhile Char.isDigit
      if digits.isEmpty then none
      else
        let n : Int := digits.foldl (fun n c => n * 10 + (c.toNat - '0'.toNat)) 0
        some (some (if negative then -n else n), cs.dropWhile Char.isDigit)
    else some (none, c :: cs)
  | [] => some (none, [])

def readFraction : List Char → Option (Option (List Char) × List Char)
  | '.' :: cs =>
    let digits := cs.takeWhile Char.isDigit
    if digits.isEmpty then none else some (some digits, cs.dropWhile Char.isDigit)
  | cs => some (none, cs)

/-- The value of a number without fraction and exponent. One that fits no integer, and minus zero,
is a double. -/
def wholeNumber (negative : Bool) (digits : List Char) : Option Number :=
  let (significand, _, left) := takeDigits 0 0 digits
  let asFloat := (Double.ofDecimal? significand left).map fun d =>
    Number.float (if negative then d.neg else d)
  if left ≠ 0 then asFloat
  else if !negative then Number.ofInt? significand
  else if significand = 0 then asFloat
  else (Number.ofInt? (-significand)).or asFloat

def scaledNumber (negative : Bool) (digits fraction : List Char) (exponent : Int) :
    Option Number :=
  let (whole, _, left) := takeDigits 0 0 digits
  let (significand, places, _) := takeDigits whole 0 fraction
  (Double.ofDecimal? significand (left - places + exponent)).map fun d =>
    .float (if negative then d.neg else d)

def readNumber (negative : Bool) (cs : List Char) : Option (Option Number × List Char) := do
  let digits := cs.takeWhile Char.isDigit
  let rest := cs.dropWhile Char.isDigit
  if digits.isEmpty || (digits.head? == some '0' && digits.length != 1) then none
  let (fraction, rest) ← readFraction rest
  let (exponent, rest) ← readExponent rest
  if fraction.isNone && exponent.isNone then return (wholeNumber negative digits, rest)
  else return (scaledNumber negative digits (fraction.getD []) (exponent.getD 0), rest)

/-! ### Strings -/

def hexValue? (c : Char) : Option Nat :=
  if '0' ≤ c ∧ c ≤ '9' then some (c.toNat - '0'.toNat)
  else if 'a' ≤ c ∧ c ≤ 'f' then some (c.toNat - 'a'.toNat + 10)
  else if 'A' ≤ c ∧ c ≤ 'F' then some (c.toNat - 'A'.toNat + 10)
  else none

def hexUnit? (a b c d : Char) : Option Nat := do
  return (((← hexValue? a) * 16 + (← hexValue? b)) * 16 + (← hexValue? c)) * 16 + (← hexValue? d)

/-- What has been read of a string: its characters in reverse, the first half of a surrogate pair
that waits for its second, and whether all halves so far had their partner. -/
structure Chars where
  reversed : List Char := []
  high : Option Nat := none
  paired : Bool := true

namespace Chars

def push (s : Chars) (c : Char) : Chars :=
  ⟨c :: s.reversed, none, s.paired && s.high.isNone⟩

def pushUnit (s : Chars) (n : Nat) : Chars :=
  if 0xDC00 ≤ n ∧ n < 0xE000 then
    match s.high with
    | some high =>
      ⟨Char.ofNat (0x10000 + (high - 0xD800) * 0x400 + (n - 0xDC00)) :: s.reversed, none, s.paired⟩
    | none => { s with paired := false }
  else if 0xD800 ≤ n ∧ n < 0xDC00 then ⟨s.reversed, some n, s.paired && s.high.isNone⟩
  else s.push (Char.ofNat n)

def text? (s : Chars) : Option String :=
  if s.paired && s.high.isNone then some (String.ofList s.reversed.reverse) else none

end Chars

def simpleEscape? : Char → Option Char
  | '"' => some '"'
  | '\\' => some '\\'
  | '/' => some '/'
  | 'b' => some '\x08'
  | 'f' => some '\x0c'
  | 'n' => some '\n'
  | 'r' => some '\r'
  | 't' => some '\t'
  | _ => none

def readString (s : Chars) : List Char → Option (Option String × List Char)
  | [] => none
  | '"' :: cs => some (s.text?, cs)
  | '\\' :: 'u' :: a :: b :: c :: d :: cs =>
    match hexUnit? a b c d with
    | some n => readString (s.pushUnit n) cs
    | none => none
  | '\\' :: c :: cs =>
    match simpleEscape? c with
    | some e => readString (s.push e) cs
    | none => none
  | c :: cs => if c.toNat < 0x20 ∨ c = '\\' then none else readString (s.push c) cs

/-! ### Values -/

def dropWord? (word cs : List Char) : Option (List Char) :=
  if word.isPrefixOf cs then some (cs.drop word.length) else none

def readScalar : List Char → Outline × Option (List Char)
  | [] => (broken, none)
  | '"' :: cs => close (.str ·) (readString {} cs)
  | '-' :: cs => close (.num ·) (readNumber true cs)
  | c :: cs =>
    if c.isDigit then close (.num ·) (readNumber false (c :: cs))
    else if c = 'n' then close (fun _ => .null) ((dropWord? "ull".toList cs).map (((), ·)))
    else if c = 't' then close (fun _ => .bool true) ((dropWord? "rue".toList cs).map (((), ·)))
    else if c = 'f' then close (fun _ => .bool false) ((dropWord? "alse".toList cs).map (((), ·)))
    else (broken, none)
where
  close {α : Type} (f : α → Outline) : Option (α × List Char) → Outline × Option (List Char)
    | some (value, rest) => (f value, some rest)
    | none => (broken, none)

mutual

def readValue (fuel : Nat) (cs : List Char) : Outline × Option (List Char) :=
  match fuel with
  | 0 => (broken, none)
  | fuel + 1 =>
    match skipBlanks cs with
    | '[' :: cs =>
      let (items, rest) := match skipBlanks cs with
        | ']' :: cs => ([], some cs)
        | cs => readItems fuel cs
      (.arr items, rest)
    | '\x7b' :: cs =>
      let (entries, rest) := match skipBlanks cs with
        | '\x7d' :: cs => ([], some cs)
        | cs => readEntries fuel cs
      (.obj entries, rest)
    | cs => readScalar cs

def readItems (fuel : Nat) (cs : List Char) : List Outline × Option (List Char) :=
  match fuel with
  | 0 => ([broken], none)
  | fuel + 1 =>
    match readValue fuel cs with
    | (item, none) => ([item], none)
    | (item, some rest) =>
      match skipBlanks rest with
      | ',' :: rest =>
        let (items, rest) := readItems fuel rest
        (item :: items, rest)
      | ']' :: rest => ([item], some rest)
      | _ => ([item, broken], none)

def readEntries (fuel : Nat) (cs : List Char) : List Entry × Option (List Char) :=
  match fuel with
  | 0 => ([.mk none broken], none)
  | fuel + 1 =>
    match skipBlanks cs with
    | '"' :: cs =>
      match readString {} cs with
      | none => ([.mk none broken], none)
      | some (key, rest) =>
        match skipBlanks rest with
        | ':' :: rest =>
          match readValue fuel rest with
          | (value, none) => ([.mk key value], none)
          | (value, some rest) =>
            match skipBlanks rest with
            | ',' :: rest =>
              let (entries, rest) := readEntries fuel rest
              (.mk key value :: entries, rest)
            | '\x7d' :: rest => ([.mk key value], some rest)
            | _ => ([.mk key value, .mk none broken], none)
        | _ => ([.mk key broken], none)
    | _ => ([.mk none broken], none)

end

/-- The outline of a text, and whether the text ends after its value. -/
def ofText (cs : List Char) : Outline × Bool :=
  let (outline, rest) := readValue (2 * cs.length + 2) cs
  (outline, match rest with
    | some rest => (skipBlanks rest).isEmpty
    | none => false)

/-! ### From outlines to values -/

mutual

/-- The value of an outline without a break, of at most `depth` nested arrays and objects. Of
repeated keys the last one counts. -/
def toJson? (depth : Nat) : Outline → Option Json
  | broken => none
  | null => some .null
  | bool value => some (.bool value)
  | num value => value.map .num
  | str value => value.map .str
  | arr items =>
    match depth with
    | 0 => none
    | depth + 1 => (itemsToJson? depth items).map .arr
  | obj entries =>
    match depth with
    | 0 => none
    | depth + 1 => (entriesToJson? depth Table.empty entries).map .obj

def itemsToJson? (depth : Nat) : List Outline → Option (List Json)
  | [] => some []
  | item :: rest => do return (← item.toJson? depth) :: (← itemsToJson? depth rest)

def entriesToJson? (depth : Nat) (fields : Table Json) : List Entry → Option (Table Json)
  | [] => some fields
  | .mk key value :: rest => do
    entriesToJson? depth (fields.insert (← key) (← value.toJson? depth)) rest

end

mutual

/-- Whether the text behind an outline is whole, with its numbers and strings left unchecked. -/
def isWhole : Outline → Bool
  | broken => false
  | arr items => allWhole items
  | obj entries => entriesWhole entries
  | _ => true

def allWhole : List Outline → Bool
  | [] => true
  | item :: rest => item.isWhole && allWhole rest

def entriesWhole : List Entry → Bool
  | [] => true
  | .mk _ value :: rest => value.isWhole && entriesWhole rest

end

end Outline

def maxDepth : Nat := 127

def trimEnd (cs : List Char) : List Char := (cs.reverse.dropWhile Outline.isBlank).reverse

def parse? (cs : List Char) : Option Json :=
  match Outline.ofText (trimEnd cs) with
  | (outline, true) => outline.toJson? maxDepth
  | (_, false) => none

theorem trimEnd_append_of_isBlank (cs : List Char) {c : Char} (h : Outline.isBlank c) :
    trimEnd (cs ++ [c]) = trimEnd cs := by
  simp [trimEnd, h]

end ActionSchema.Json
