import ActionSchema.Json.Basic

/-! Predicates on payloads and their fields, and the names under which manifests know them. A
question mark after a name makes the predicate optional. -/

namespace ActionSchema

abbrev Predicate := Option Json → Bool

namespace Predicate

def any : Predicate := fun _ => true

def array : Predicate
  | some (.arr _) => true
  | _ => false

def boolean : Predicate
  | some (.bool _) => true
  | _ => false

/-- Accepts the numbers written without fraction and exponent that fit 64 bits. -/
def integer : Predicate
  | some (.num n) => n.isInt
  | _ => false

def number : Predicate
  | some (.num _) => true
  | _ => false

def object : Predicate
  | some (.obj _) => true
  | some (.arr _) => true
  | _ => false

def string : Predicate
  | some (.str _) => true
  | _ => false

def optional (test : Predicate) : Predicate
  | none => true
  | some .null => true
  | value => test value

def builtins : List (String × Predicate) :=
  [("any", any), ("array", array), ("boolean", boolean), ("integer", integer), ("number", number),
   ("object", object), ("string", string)]

def builtinNames : List String :=
  ["any", "array", "boolean", "integer", "number", "object", "string"]

def ofReversed : List Char → Except String Predicate
  | '?' :: rest => (ofReversed rest).map optional
  | cs =>
    let name := String.ofList cs.reverse
    match builtins.lookup name with
    | some test => .ok test
    | none => .error name

/-- The predicate with a name. An unknown name is returned without its question marks. -/
def byName (name : String) : Except String Predicate := ofReversed name.toList.reverse

def unknown (name : String) : String := "unknown predicate '" ++ name ++ "'"

end Predicate

end ActionSchema
