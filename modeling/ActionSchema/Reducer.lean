import ActionSchema.Schema.Compile

/-! Reducers. A table of handlers by internal type becomes a reducer by namespaced type, if every
type is declared. A reducer leaves the state alone for any action it has no handler for. -/

namespace ActionSchema

abbrev Handler (S A : Type) := S → Option Json → A → S

/-- Handlers by internal type. -/
structure HandlerTable (S A : Type) where
  table : Table (Handler S A) := Table.empty

namespace HandlerTable

variable {S A : Type}

def on (t : HandlerTable S A) (type : String) (handler : Handler S A) : HandlerTable S A :=
  ⟨t.table.insert type handler⟩

def size (t : HandlerTable S A) : Nat := t.table.size

def isEmpty (t : HandlerTable S A) : Bool := t.table.isEmpty

def types (t : HandlerTable S A) : List String := t.table.keys

end HandlerTable

/-- Handlers by namespaced type, with an initial state. -/
structure Reducer (S A : Type) where
  handlers : Table (Handler S A)
  format : Format A
  initState : S

namespace CompiledSchema

variable {S A : Type}

def namespaceHandler (s : CompiledSchema A) (entry : String × Handler S A) :
    Except SchemaError (String × Handler S A) :=
  match s.actions.get entry.1 with
  | .ok namespaced => .ok (namespaced, entry.2)
  | .error _ => .error (.unknownHandler entry.1)

def createReducer (s : CompiledSchema A) (handlers : HandlerTable S A) (initState : S) :
    Except SchemaError (Reducer S A) := do
  let entries ← handlers.table.toList.mapM s.namespaceHandler
  return ⟨Table.ofList entries, s.format, initState⟩

end CompiledSchema

namespace Reducer

variable {S A : Type}

def reduce (r : Reducer S A) (state : S) (action : A) : S :=
  let parts := r.format.unformat action
  match r.handlers.get? parts.type with
  | some handler => handler state parts.payload action
  | none => state

def reduceOrInit (r : Reducer S A) (state : Option S) (action : A) : S :=
  r.reduce (state.getD r.initState) action

def handles (r : Reducer S A) (namespaced : String) : Bool := r.handlers.contains namespaced

end Reducer

end ActionSchema
