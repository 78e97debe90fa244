/-! A stream of bytes as a list of lines. A line ends at a line feed; a carriage return right
before the line feed belongs to the line end. -/

namespace ActionSchema.Text

def lineFeed : UInt8 := 10

def carriageReturn : UInt8 := 13

def consByte (b : UInt8) (lines : List (List UInt8)) : List (List UInt8) :=
  if b = lineFeed then [b] :: lines
  else match lines with
    | [] => [[b]]
    | line :: rest => (b :: line) :: rest

/-- The lines with their ends. The last one may have none. -/
def rawLines (bytes : List UInt8) : List (List UInt8) := bytes.foldr consByte []

/-- A line without its end. A carriage return that no line feed follows is kept. -/
def chomp (line : List UInt8) : List UInt8 :=
  if line.getLast? = some lineFeed then
    let body := line.dropLast
    if body.getLast? = some carriageReturn then body.dropLast else body
  else line

def lineText? (line : List UInt8) : Option String := String.fromUTF8? ⟨(chomp line).toArray⟩

def lines (bytes : List UInt8) : List (Option String) := (rawLines bytes).map lineText?

@[simp] theorem rawLines_nil : rawLines [] = [] := rfl

@[simp] theorem rawLines_cons (b : UInt8) (bytes : List UInt8) :
    rawLines (b :: bytes) = consByte b (rawLines bytes) := rfl

end ActionSchema.Text
