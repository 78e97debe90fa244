/-! Finite double-precision numbers and their arithmetic, exact in `Nat`. A magnitude is a code; the
codes count the representable magnitudes upwards from zero. -/

namespace ActionSchema

/-- How many codes lie between a power of two and the next one. -/
def Decimal.octave : Nat := 0x10000000000000

structure Double where
  negative : Bool
  code : Nat
  finite : code < 2047 * Decimal.octave := by decide
deriving DecidableEq, Repr

namespace Decimal

/-- The integer nearest to `num / den`; of two equally near ones, the even one. -/
def roundDiv (num den : Nat) : Nat :=
  let down := num / den
  let rest := 2 * (num % den)
  if den < rest ∨ (rest = den ∧ down % 2 = 1) then down + 1 else down

def binaryOrder (num den : Nat) : Int :=
  let guess : Int := num.log2 - den.log2
  if num <<< (-guess).toNat < den <<< guess.toNat then guess - 1 else guess

/-- The code of the magnitude nearest to `num / den`. It may lie past the greatest finite one. -/
def nearestCode (num den : Nat) : Nat :=
  if num = 0 then 0
  else
    let scale := max (binaryOrder num den - 52) (-1074)
    (scale + 1074).toNat * octave + roundDiv (num <<< (-scale).toNat) (den <<< scale.toNat)

end Decimal

namespace Double

open Decimal

def ofRatio? (negative : Bool) (num den : Nat) : Option Double :=
  if h : nearestCode num den < 2047 * octave then some ⟨negative, nearestCode num den, h⟩ else none

def zero (negative : Bool) : Double := ⟨negative, 0, by decide⟩

/-- The magnitude is `significand * 2 ^ exponent`. -/
def significand (d : Double) : Nat :=
  if d.code < octave then d.code else d.code % octave + octave

def exponent (d : Double) : Int := (max (d.code / octave) 1 : Nat) - 1075

def num (d : Double) : Nat := d.significand <<< d.exponent.toNat

def den (d : Double) : Nat := 1 <<< (-d.exponent).toNat

def isZero (d : Double) : Bool := d.code == 0

def numEq (a b : Double) : Bool := a == b || (a.isZero && b.isZero)

def neg (d : Double) : Double := { d with negative := !d.negative }

def tenPower (n : Nat) : Double := (ofRatio? false (Nat.pow 10 n) 1).getD (zero false)

def mul? (a b : Double) : Option Double :=
  ofRatio? (a.negative != b.negative) (a.num * b.num) (a.den * b.den)

def divTenPower (a : Double) (n : Nat) : Double :=
  let b := tenPower n
  (ofRatio? a.negative (a.num * b.den) (a.den * b.num)).getD (zero a.negative)

def maxTenPower : Nat := 308

def scaleDown (a : Double) (n : Nat) : Double :=
  if n ≤ maxTenPower then a.divTenPower n
  else if a.isZero then a
  else (a.divTenPower maxTenPower).scaleDown (n - maxTenPower)
termination_by n
decreasing_by simp only [maxTenPower] at *; omega

/-- The number written `digits * 10 ^ exponent`. The digits are rounded once and the power of ten
is applied once more, so the result may be one step beside the nearest number. Nothing is returned
for a number out of range. -/
def ofDecimal? (digits : Nat) (exponent : Int) : Option Double := do
  let value ← ofRatio? false digits 1
  if exponent < 0 then return value.scaleDown (-exponent).toNat
  else if value.isZero then return value
  else if exponent.toNat ≤ maxTenPower then value.mul? (tenPower exponent.toNat)
  else none

end Double

end ActionSchema
