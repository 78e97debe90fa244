import ActionSchema.Json.Outline
import ActionSchema.Json.Printer
import ActionSchema.Namespace
import ActionSchema.Text.Quoted

/-! Reading records from trees of values. A record stands as named entries or, in some sources, as
its fields in order. Reading follows the order of the source and stops at the first fault. -/

namespace ActionSchema

namespace Record

inductive Found
  | null
  | bool (value : Bool)
  | num (value : Number)
  | str (value : String)
  | sequence
  | map

inductive Wanted
  | string
  | boolean
  | sequence
  | record (name : String)

inductive Fault
  | malformed
  | wrongType (found : Found) (wanted : Wanted)
  | missingField (field : String)
  | duplicateField (field : String)
  | unknownField (field : String) (known : List String)
  | tooShort (index : Nat) (record : String) (size : Nat)
  | tooLong (count : Nat)
  | invalidNamespace (name : String) (disallowed : Char)

def Found.text : Found → String
  | null => "null"
  | bool value => "boolean `" ++ (if value then "true" else "false") ++ "`"
  | num (.int value _) => "integer `" ++ toString value ++ "`"
  | num (.float value) => "floating point `" ++ value.toText ++ "`"
  | str value => "string " ++ Text.quoted value
  | sequence => "sequence"
  | map => "map"

def Wanted.text : Wanted → String
  | string => "a string"
  | boolean => "a boolean"
  | sequence => "a sequence"
  | record name => "struct " ++ name

def quote (field : String) : String := "`" ++ field ++ "`"

def knownText : List String → String
  | [] => "there are no fields"
  | [a] => "expected " ++ quote a
  | [a, b] => "expected " ++ quote a ++ " or " ++ quote b
  | known => "expected one of " ++ ", ".intercalate (known.map quote)

def Fault.message? : Fault → Option String
  | malformed => none
  | wrongType found wanted => some ("invalid type: " ++ found.text ++ ", expected " ++ wanted.text)
  | missingField field => some ("missing field " ++ quote field)
  | duplicateField field => some ("duplicate field " ++ quote field)
  | unknownField field known => some ("unknown field " ++ quote field ++ ", " ++ knownText known)
  | tooShort index record size =>
    some ("invalid length " ++ toString index ++ ", expected struct " ++ record ++ " with "
      ++ toString size ++ " elements")
  | tooLong count =>
    some ("invalid length " ++ toString count ++ ", expected fewer elements in array")
  | invalidNamespace name c => some (Namespace.refusal name c)

inductive Fields (ν : Type)
  /-- Entries in the order of the source. Nothing is held for a key that cannot be read. -/
  | named (entries : List (Option String × ν))
  | inOrder (items : List ν)

/-- The questions that reading a record asks of a value. -/
structure Source (ν : Type) where
  string : ν → Except Fault String
  bool : ν → Except Fault Bool
  /-- The value, unless it says that an optional field is left out. -/
  present? : ν → Except Fault (Option ν)
  items : ν → Except Fault (List ν)
  fields : (record : String) → ν → Except Fault (Fields ν)
  json : ν → Except Fault Json
  skip : ν → Except Fault Unit
  surplus : Nat → Fault

/-- A record under construction. `take` gives a value to a field and fails if the field has one. -/
structure Draft (ν δ : Type) where
  name : String
  fields : List String
  /-- Whether entries with other keys are a fault. -/
  closed : Bool
  empty : δ
  take : δ → String → ν → Except Fault δ

variable {ν δ : Type}

def once {α : Type} (field : String) (slot : Option α) (value : Except Fault α) :
    Except Fault (Option α) :=
  match slot with
  | some _ => .error (.duplicateField field)
  | none => value.map some

namespace Draft

def takeEntry (d : Draft ν δ) (src : Source ν) (draft : δ) :
    Option String × ν → Except Fault δ
  | (none, _) => .error .malformed
  | (some key, value) =>
    if d.fields.contains key then d.take draft key value
    else if d.closed then .error (.unknownField key d.fields)
    else do
      src.skip value
      return draft

def takeItem (d : Draft ν δ) (draft : δ) : String × ν → Except Fault δ
  | (field, value) => d.take draft field value

/-- The draft with every field the source has, and the fault of a field that it lacks. -/
def fill (d : Draft ν δ) (src : Source ν) (value : ν) :
    Except Fault (δ × (String → Fault)) := do
  match ← src.fields d.name value with
  | .named entries => return (← entries.foldlM (d.takeEntry src) d.empty, .missingField)
  | .inOrder items =>
    let draft ← (d.fields.zip items).foldlM d.takeItem d.empty
    if d.fields.length < items.length then throw (src.surplus items.length)
    return (draft, fun field => .tooShort (d.fields.idxOf field) d.name d.fields.length)

end Draft

def require {α : Type} (missing : String → Fault) (field : String) : Option α → Except Fault α
  | some value => .ok value
  | none => .error (missing field)

def readList {α : Type} (src : Source ν) (read : ν → Except Fault α) (value : ν) :
    Except Fault (List α) := do
  (← src.items value).mapM read

def readNamespace (src : Source ν) (value : ν) : Except Fault Namespace := do
  let name ← src.string value
  (Namespace.ofString name).mapError (.invalidNamespace name)

def readOptional (src : Source ν) (value : ν) : Except Fault (Option String) := do
  match ← src.present? value with
  | some value => return some (← src.string value)
  | none => return none

end Record

namespace Json

open Record

def found : Json → Found
  | null => .null
  | bool value => .bool value
  | num value => .num value
  | str value => .str value
  | arr _ => .sequence
  | obj _ => .map

def source : Source Json where
  string
    | str value => .ok value
    | other => .error (.wrongType other.found .string)
  bool
    | bool value => .ok value
    | other => .error (.wrongType other.found .boolean)
  present?
    | null => .ok none
    | other => .ok (some other)
  items
    | arr items => .ok items
    | other => .error (.wrongType other.found .sequence)
  fields record
    | arr items => .ok (.inOrder items)
    | obj fields => .ok (.named (fields.toList.map fun (key, value) => (some key, value)))
    | other => .error (.wrongType other.found (.record record))
  json := .ok
  skip _ := .ok ()
  surplus := .tooLong

namespace Outline

def wrongType (wanted : Wanted) : Outline → Fault
  | broken | num none | str none => .malformed
  | null => .wrongType .null wanted
  | bool value => .wrongType (.bool value) wanted
  | num (some value) => .wrongType (.num value) wanted
  | str (some value) => .wrongType (.str value) wanted
  | arr _ => .wrongType .sequence wanted
  | obj _ => .wrongType .map wanted

/-- Texts. A value inside a record is one level deep, and an array longer than its record is a
fault of the text. -/
def source : Source Outline where
  string
    | str (some value) => .ok value
    | other => .error (other.wrongType .string)
  bool
    | bool value => .ok value
    | other => .error (other.wrongType .boolean)
  present?
    | null => .ok none
    | other => .ok (some other)
  items
    | arr items => .ok items
    | other => .error (other.wrongType .sequence)
  fields record
    | arr items => .ok (.inOrder items)
    | obj entries => .ok (.named (entries.map fun (.mk key value) => (key, value)))
    | other => .error (other.wrongType (.record record))
  json outline :=
    match outline.toJson? (maxDepth - 1) with
    | some value => .ok value
    | none => .error .malformed
  skip outline := if outline.isWhole then .ok () else .error .malformed
  surplus _ := .malformed

end Outline

def readText {α : Type} (read : Outline → Except Fault α) (text : String) : Except Fault α := do
  let (outline, ends) := Outline.ofText text.toList
  let value ← read outline
  if ends then return value else throw .malformed

end Json

end ActionSchema
