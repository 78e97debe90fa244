import ActionSchema.ParsedAction

/-! Payload testers. The tester of an action accepts exactly the shape that the declared arguments
describe: nothing, one value, or an object with one field for every argument and no other. -/

namespace ActionSchema

inductive Shape
  | absent
  | whole (test : Predicate)
  | object (fields : List (String × Predicate))

def ArgumentSpec.field? (arg : ArgumentSpec) : Option (String × Predicate) :=
  arg.id.map fun id => (id, arg.test)

def ParsedAction.shape (action : ParsedAction) : Shape :=
  match action.args with
  | [] => .absent
  | [arg] => if arg.whole then .whole arg.test else .object arg.field?.toList
  | args => .object (args.filterMap (·.field?))

namespace Shape

def matchesFields (fields : List (String × Predicate)) (value : Table Json) : Bool :=
  value.size == fields.length
    && value.keys.all (fun key => fields.any fun field => field.1 == key)
    && fields.all fun field => field.2 (value.get? field.1)

def accepts : Shape → Predicate
  | absent, payload => payload.isNone
  | whole test, payload => test payload
  | object fields, some (.obj value) => matchesFields fields value
  | object _, _ => false

end Shape

def ParsedAction.tester (action : ParsedAction) : Predicate := action.shape.accepts

/-- Testers by namespaced type. -/
structure Testers where
  table : Table Predicate := Table.empty

namespace Testers

def insert (t : Testers) (namespaced : String) (tester : Predicate) : Testers :=
  ⟨t.table.insert namespaced tester⟩

def get? (t : Testers) (namespaced : String) : Option Predicate := t.table.get? namespaced

def contains (t : Testers) (namespaced : String) : Bool := t.table.contains namespaced

def test (t : Testers) (namespaced : String) (payload : Option Json) : Option Bool :=
  (t.get? namespaced).map (· payload)

end Testers

end ActionSchema
