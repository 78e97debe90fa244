import ActionSchema.Action
import ActionSchema.ParsedAction

/-! Creators of actions, from a ready payload or from values in the order of the arguments. -/

namespace ActionSchema

def maxPositional : Nat := 3

def assign (fields : Table Json) : List String → List Json → Table Json
  | [], _ => fields
  | id :: ids, [] => assign (fields.insert id .null) ids []
  | id :: ids, value :: values => assign (fields.insert id value) ids values

/-- The payload for values in the order of the arguments: none for an action without arguments, the
first value for a whole payload, else an object of the first arguments. -/
def ParsedAction.positional (action : ParsedAction) (values : List Json) : Option Json :=
  if action.args.isEmpty then none
  else if action.isWholePayload then values.head?
  else some (.obj (assign Table.empty ((action.args.take maxPositional).filterMap (·.id)) values))

structure ActionCreator (A : Type) where
  namespaced : String
  action : ParsedAction
  format : Format A

namespace ActionCreator

variable {A : Type}

def create (c : ActionCreator A) (payload : Option Json) : A :=
  c.format.format ⟨c.namespaced, payload⟩

def byPosition (c : ActionCreator A) (values : List Json) : A :=
  c.create (c.action.positional values)

end ActionCreator

/-- Creators by internal type. -/
structure ActionCreators (A : Type) where
  table : Table (ActionCreator A) := Table.empty

namespace ActionCreators

variable {A : Type}

def insert (cs : ActionCreators A) (type : String) (creator : ActionCreator A) :
    ActionCreators A :=
  ⟨cs.table.insert type creator⟩

def get (cs : ActionCreators A) (type : String) : Except SchemaError (ActionCreator A) :=
  match cs.table.get? type with
  | some creator => .ok creator
  | none => .error (.unknownActionType type)

def toList (cs : ActionCreators A) : List (String × ActionCreator A) := cs.table.toList

def size (cs : ActionCreators A) : Nat := cs.table.size

def isEmpty (cs : ActionCreators A) : Bool := cs.table.isEmpty

end ActionCreators

end ActionSchema
