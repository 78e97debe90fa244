import ActionSchema.Decimal.Double

/-! The shortest decimal that reads back as a given double: among the decimals that round to the
number, one on the coarsest grid, and of two on that grid the nearer. -/

namespace ActionSchema.Double

/-- Whether `n * up / down` rounds to the number. The ends of the interval belong to it when the
significand is even, and below a power of two the interval is half as wide. -/
def readsBack (d : Double) (up down n : Nat) : Bool :=
  let unit := 1 <<< d.exponent.toNat
  let below := if d.significand = Decimal.octave ∧ -1074 < d.exponent then unit else 2 * unit
  let least := (4 * d.num - below) * down
  let greatest := (4 * d.num + 2 * unit) * down
  let point := 4 * n * up * d.den
  if d.significand % 2 = 0 then least ≤ point && point ≤ greatest
  else least < point && point < greatest

/-- The multiple of `10 ^ place` that reads back, if there is one. Only the two neighbours of the
number can be it, and the nearer one comes first. -/
def digitsAt? (d : Double) (place : Int) : Option Nat :=
  let up := Nat.pow 10 place.toNat
  let down := Nat.pow 10 (-place).toNat
  let step := up * d.den
  let lower := d.num * down / step
  let rest := 2 * (d.num * down % step)
  let neighbours :=
    if rest < step ∨ (rest = step ∧ lower % 2 = 0) then [lower, lower + 1] else [lower + 1, lower]
  neighbours.find? fun n => n != 0 && d.readsBack up down n

/-- The decimal places to try, from beyond the greatest double down to below the least. -/
def places : List Int := (List.range 700).map fun (n : Nat) => (310 - n : Int)

def shortest (d : Double) : Nat × Int :=
  (places.findSome? fun place => (d.digitsAt? place).map fun digits => (digits, place)).getD
    (d.significand, 0)

/-- How a decimal is laid out. Exponents of the leading digit from `least` to `greatest` are
written positionally, all others after an `e` and with their sign. -/
structure Layout where
  least : Int
  greatest : Int

def Layout.write (layout : Layout) (digits : Nat) (exponent : Int) : String :=
  let text := Nat.toDigits 10 digits
  let lead := exponent + text.length - 1
  if lead < layout.least ∨ layout.greatest < lead then
    let tail := if text.length = 1 then [] else '.' :: text.drop 1
    let sign := if lead < 0 then '-' else '+'
    String.ofList (text.take 1 ++ tail ++ ['e', sign]) ++ toString lead.natAbs
  else String.ofList <|
    if 0 ≤ exponent then text ++ List.replicate exponent.toNat '0' ++ ['.', '0']
    else if 0 ≤ lead then text.take (lead.toNat + 1) ++ '.' :: text.drop (lead.toNat + 1)
    else '0' :: '.' :: List.replicate (-lead - 1).toNat '0' ++ text

def layout : Layout := ⟨-5, 15⟩

def toText (d : Double) : String :=
  let sign := if d.negative then "-" else ""
  if d.isZero then sign ++ "0.0" else sign ++ layout.write d.shortest.1 d.shortest.2

end ActionSchema.Double
