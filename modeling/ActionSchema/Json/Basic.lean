import ActionSchema.Decimal.Double
import ActionSchema.Table

/-! JSON values. An object is a table, so it has every key once and in order; a number is an
integer of 64 bits or a double, and the two kinds are never equal. -/

namespace ActionSchema

inductive Number
  | int (value : Int) (fits : -0x8000000000000000 ≤ value ∧ value < 0x10000000000000000)
  | float (value : Double)
deriving DecidableEq

namespace Number

def ofInt? (value : Int) : Option Number :=
  if h : -0x8000000000000000 ≤ value ∧ value < 0x10000000000000000 then some (int value h) else none

def isInt : Number → Bool
  | int .. => true
  | float _ => false

def numEq : Number → Number → Bool
  | int a _, int b _ => a == b
  | float a, float b => a.numEq b
  | _, _ => false

end Number

inductive Json
  | null
  | bool (value : Bool)
  | num (value : Number)
  | str (value : String)
  | arr (items : List Json)
  | obj (fields : Table.Entries Json none)

namespace Json

def get? : Json → String → Option Json
  | obj fields, key => fields.get? key
  | _, _ => none

def str? : Json → Option String
  | str value => some value
  | _ => none

def ofFields (fields : List (String × Json)) : Json := obj (Table.ofList fields)

mutual

/-- Equality of the values meant: as structural equality, but the two zeros of a double are
equal. -/
def numEq : Json → Json → Bool
  | null, null => true
  | bool a, bool b => a == b
  | num a, num b => a.numEq b
  | str a, str b => a == b
  | arr as, arr bs => numEqItems as bs
  | obj as, obj bs => numEqFields as bs
  | _, _ => false

def numEqItems : List Json → List Json → Bool
  | [], [] => true
  | a :: as, b :: bs => a.numEq b && numEqItems as bs
  | _, _ => false

def numEqFields {floor floor' : Option String} :
    Table.Entries Json floor → Table.Entries Json floor' → Bool
  | .nil, .nil => true
  | .cons k a _ as, .cons l b _ bs => k == l && a.numEq b && numEqFields as bs
  | _, _ => false

end

end Json

end ActionSchema
