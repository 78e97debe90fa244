import ActionSchema.Verdict

/-! The log as data, and values that leave a trace of events. -/

namespace ActionSchema

inductive LogEntry
  | compiledSchema (ns : String) (actions : Nat)
  | builtReducer (ns : String) (handlers : Nat)
  | failedValidation (type : String) (verdict : Verdict)
  | unknownAction
  | checkedStream
deriving DecidableEq

inductive LogLevel
  | debug
  | warn

namespace LogEntry

def level : LogEntry → LogLevel
  | unknownAction => .warn
  | _ => .debug

def message : LogEntry → String
  | compiledSchema .. => "compiled action schema"
  | builtReducer .. => "built reducer"
  | failedValidation .. => "action failed schema validation"
  | unknownAction => "unknown action"
  | checkedStream => "checked action stream"

end LogEntry

/-- A value and the events on the way to it, oldest first. -/
structure Traced (ε α : Type) where
  value : α
  events : List ε := []

namespace Traced

variable {ε : Type}

instance : Monad (Traced ε) where
  pure value := { value }
  bind x f := ⟨(f x.value).value, x.events ++ (f x.value).events⟩

def emit (events : List ε) : Traced ε Unit := ⟨(), events⟩

@[simp] theorem value_bind {α β : Type} (x : Traced ε α) (f : α → Traced ε β) :
    (x >>= f).value = (f x.value).value := rfl

@[simp] theorem events_bind {α β : Type} (x : Traced ε α) (f : α → Traced ε β) :
    (x >>= f).events = x.events ++ (f x.value).events := rfl

end Traced

end ActionSchema
