import ActionSchema.Json.Printer
import ActionSchema.Middleware
import ActionSchema.Reducer
import ActionSchema.Text.Quoted

/-! Texts for debugging. A text names the parts of a value; parts that have no text, such as
functions, are left out and two dots stand in their place. -/

namespace ActionSchema

namespace DebugText

def commas (items : List String) : String := ", ".intercalate items

def braces (text : String) : String := "\x7b" ++ text ++ "\x7d"

def list (items : List String) : String := "[" ++ commas items ++ "]"

def set (keys : List String) : String := braces (commas (keys.map Text.quoted))

def entries {α : Type} (value : α → String) (t : Table α) : String :=
  braces (commas (t.toList.map fun (key, a) => Text.quoted key ++ ": " ++ value a))

def field (name text : String) : String := name ++ ": " ++ text

def record (name : String) (fields : List String) : String :=
  name ++ " " ++ braces (" " ++ commas fields ++ " ")

def others : String := ".."

def bool (value : Bool) : String := if value then "true" else "false"

end DebugText

open DebugText

namespace Json

mutual

def debugText : Json → String
  | null => "Null"
  | bool value => "Bool(" ++ DebugText.bool value ++ ")"
  | num value => "Number(" ++ value.toText ++ ")"
  | str value => "String(" ++ Text.quoted value ++ ")"
  | arr items => "Array " ++ list (itemDebugTexts items)
  | obj fields => "Object " ++ braces (commas (fieldDebugTexts fields))

def itemDebugTexts : List Json → List String
  | [] => []
  | item :: items => item.debugText :: itemDebugTexts items

def fieldDebugTexts {floor : Option String} : Table.Entries Json floor → List String
  | .nil => []
  | .cons key value _ rest => field (Text.quoted key) value.debugText :: fieldDebugTexts rest

end

end Json

def Namespace.debugText (ns : Namespace) : String := "Namespace(" ++ Text.quoted ns.name ++ ")"

def ActionTypeMap.debugText (m : ActionTypeMap) : String :=
  record "ActionTypeMap" [field "types" (entries Text.quoted m.table)]

def Testers.debugText (t : Testers) : String :=
  record "Testers" [field "testers" (entries (fun _ => "Predicate(..)") t.table)]

variable {A : Type}

def ActionCreator.debugText (c : ActionCreator A) : String :=
  record "ActionCreator" [field "action_type" (Text.quoted c.namespaced)]

def ActionCreators.debugText (cs : ActionCreators A) : String :=
  entries ActionCreator.debugText cs.table

def CompiledSchema.debugText (s : CompiledSchema A) : String :=
  record "CompiledSchema"
    [field "namespace" s.ns.debugText, field "actions" s.actions.debugText, others]

def MiddlewareOptions.debugFields {ρ : Type} (o : MiddlewareOptions ρ) : List String :=
  [field "ignore_actions" (set o.ignored.keys),
    field "check_payloads" (bool o.checkPayloads), others]

def MiddlewareOptions.debugText {ρ : Type} (o : MiddlewareOptions ρ) : String :=
  record "MiddlewareOptions" o.debugFields

def ValidationMiddleware.debugText {ρ : Type} (m : ValidationMiddleware A ρ) : String :=
  record "ValidationMiddleware" m.options.debugFields

variable {S : Type}

def HandlerTable.debugText (t : HandlerTable S A) : String := set t.types

def Reducer.debugText (state : S → String) (r : Reducer S A) : String :=
  record "Reducer" [field "handlers" (list (r.handlers.keys.map Text.quoted)),
    field "init_state" (state r.initState)]

end ActionSchema
