import ActionSchema.ParsedAction
import ActionSchema.Table

/-! The two maps of a schema with internal types as keys. Both know just the declared types and
refuse any other. -/

namespace ActionSchema

/-- Namespaced types by internal type. -/
structure ActionTypeMap where
  table : Table String := Table.empty

namespace ActionTypeMap

def insert (m : ActionTypeMap) (type namespaced : String) : ActionTypeMap :=
  ⟨m.table.insert type namespaced⟩

def get (m : ActionTypeMap) (type : String) : Except SchemaError String :=
  match m.table.get? type with
  | some namespaced => .ok namespaced
  | none => .error (.unknownActionType type)

def contains (m : ActionTypeMap) (type : String) : Bool := m.table.contains type

def toList (m : ActionTypeMap) : List (String × String) := m.table.toList

def namespacedTypes (m : ActionTypeMap) : List String := m.table.values

def size (m : ActionTypeMap) : Nat := m.table.size

def isEmpty (m : ActionTypeMap) : Bool := m.table.isEmpty

end ActionTypeMap

structure SchemaMap where
  actions : Array ParsedAction := #[]
  index : Table Nat := Table.empty

namespace SchemaMap

def insert (m : SchemaMap) (action : ParsedAction) : Except SchemaError SchemaMap :=
  if m.index.contains action.type then .error (.duplicateActionType action.type)
  else .ok ⟨m.actions.push action, m.index.insert action.type m.actions.size⟩

def get (m : SchemaMap) (type : String) : Except SchemaError ParsedAction :=
  match (m.index.get? type).bind (m.actions[·]?) with
  | some action => .ok action
  | none => .error (.unknownActionType type)

def toList (m : SchemaMap) : List ParsedAction := m.actions.toList

def size (m : SchemaMap) : Nat := m.actions.size

def isEmpty (m : SchemaMap) : Bool := m.actions.isEmpty

end SchemaMap

end ActionSchema
