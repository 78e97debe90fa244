import ActionSchema.Declaration

/-! Declarations in normal form. Parsing accepts a declaration whose type is not empty, whose
documentation comes first and whose arguments are one whole payload or named apart. -/

namespace ActionSchema

/-- A declared argument in normal form. Parsed arguments have an id unless they are whole. -/
structure ArgumentSpec where
  id : Option String
  doc : String
  test : Predicate
  whole : Bool

structure ParsedAction where
  type : String
  doc : String
  args : List ArgumentSpec

namespace ParsedAction

def isWholePayload (action : ParsedAction) : Bool :=
  match action.args with
  | [arg] => arg.whole
  | _ => false

def argIds (action : ParsedAction) : List String := action.args.filterMap (·.id)

end ParsedAction

def ArgumentDecl.parse (type : String) (position count : Nat) :
    ArgumentDecl → Except SchemaError ArgumentSpec
  | whole test =>
    if position = 0 ∧ count = 1 then .ok ⟨none, "", test, true⟩
    else .error (.misplacedWholePayload type position count)
  | named id test =>
    if id.isEmpty then .error (.emptyArgumentId type position)
    else .ok ⟨some id, "", test, false⟩
  | documented id doc test =>
    if id.isEmpty then .error (.emptyArgumentId type position)
    else .ok ⟨some id, doc, test, false⟩

namespace Declaration

/-- The documentation in front, the parts after it, and the place of the first of these. -/
def split (d : Declaration) : String × List Part × Nat :=
  match d.parts with
  | .doc text :: rest => (text, rest, 1)
  | parts => ("", parts, 0)

def arguments (type : String) (place : Nat) : List Part → Except SchemaError (List ArgumentDecl)
  | [] => .ok []
  | .doc _ :: _ => .error (.misplacedDoc type place)
  | .arg decl :: rest => do return decl :: (← arguments type (place + 1) rest)

def parseArguments (type : String) (count position : Nat) (seen : List String) :
    List ArgumentDecl → Except SchemaError (List ArgumentSpec)
  | [] => .ok []
  | decl :: rest => do
    let spec ← decl.parse type position count
    match spec.id with
    | some id =>
      if seen.contains id then throw (.duplicateArgument type id)
      return spec :: (← parseArguments type count (position + 1) (id :: seen) rest)
    | none => return spec :: (← parseArguments type count (position + 1) seen rest)

def parse (d : Declaration) : Except SchemaError ParsedAction := do
  if d.type.isEmpty then throw .emptyActionType
  let (doc, parts, place) := d.split
  let decls ← arguments d.type place parts
  return ⟨d.type, doc, ← parseArguments d.type decls.length 0 [] decls⟩

end Declaration

end ActionSchema
