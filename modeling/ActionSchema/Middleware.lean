import ActionSchema.Log
import ActionSchema.Schema.Compile

/-! Validating middleware. Every action that passes is classified and, if it cannot be vouched for,
reported; whatever the verdict, the action goes on unchanged. -/

namespace ActionSchema

/-- The part of the configuration that can be stored. -/
structure MiddlewareSettings where
  ignoreActions : List String :=
    ["EFFECT_TRIGGERED", "EFFECT_RESOLVED", "@@router/UPDATE_LOCATION"]
  checkPayloads : Bool := false

namespace MiddlewareSettings

def toJson (settings : MiddlewareSettings) : Json :=
  .ofFields [("ignore_actions", .arr (settings.ignoreActions.map .str)),
    ("check_payloads", .bool settings.checkPayloads)]

structure Draft where
  ignoreActions : Option (List String) := none
  checkPayloads : Option Bool := none

variable {ν : Type}

def draft (src : Record.Source ν) : Record.Draft ν Draft where
  name := "MiddlewareSettings"
  fields := ["ignore_actions", "check_payloads"]
  closed := false
  empty := {}
  take d field value := do
    if field == "ignore_actions" then
      return { d with
        ignoreActions := ←
          Record.once field d.ignoreActions (Record.readList src src.string value) }
    else
      return { d with checkPayloads := ← Record.once field d.checkPayloads (src.bool value) }

def read (src : Record.Source ν) (value : ν) : Except Record.Fault MiddlewareSettings := do
  let (d, _) ← (draft src).fill src value
  let default : MiddlewareSettings := {}
  return ⟨d.ignoreActions.getD default.ignoreActions, d.checkPayloads.getD default.checkPayloads⟩

def ofJson (value : Json) : Except Record.Fault MiddlewareSettings := read Json.source value

def ofText (text : String) : Except Record.Fault MiddlewareSettings :=
  Json.readText (read Json.Outline.source) text

end MiddlewareSettings

inductive Reporter (ρ : Type)
  | log
  | listener (name : ρ)

structure MiddlewareOptions (ρ : Type) where
  ignored : Table Unit
  checkPayloads : Bool
  reporter : Reporter ρ

namespace MiddlewareOptions

variable {ρ : Type}

def ignoreSet (types : List String) : Table Unit := Table.ofList (types.map (·, ()))

def ofSettings (settings : MiddlewareSettings) (reporter : Reporter ρ) : MiddlewareOptions ρ :=
  ⟨ignoreSet settings.ignoreActions, settings.checkPayloads, reporter⟩

def new (reporter : Reporter ρ) : MiddlewareOptions ρ := ofSettings {} reporter

def default : MiddlewareOptions ρ := new .log

inductive Change (ρ : Type)
  | ignore (type : String)
  /-- Exempts these types and no others. -/
  | ignoreActions (types : List String)
  | checkPayloads (check : Bool)
  | withReporter (reporter : Reporter ρ)

def change (o : MiddlewareOptions ρ) : Change ρ → MiddlewareOptions ρ
  | .ignore type => { o with ignored := o.ignored.insert type () }
  | .ignoreActions types => { o with ignored := ignoreSet types }
  | .checkPayloads check => { o with checkPayloads := check }
  | .withReporter reporter => { o with reporter }

def changeAll (o : MiddlewareOptions ρ) (history : List (Change ρ)) : MiddlewareOptions ρ :=
  history.foldl change o

end MiddlewareOptions

inductive Event (A ρ : Type)
  | logged (entry : LogEntry)
  | reported (listener : ρ) (action : A)

structure ValidationMiddleware (A ρ : Type) where
  testers : Testers
  format : Format A
  options : MiddlewareOptions ρ

def CompiledSchema.createMiddleware {A ρ : Type} (s : CompiledSchema A)
    (options : MiddlewareOptions ρ) : ValidationMiddleware A ρ :=
  ⟨s.testers, s.format, options⟩

namespace ValidationMiddleware

variable {A ρ R : Type}

def inspect (m : ValidationMiddleware A ρ) (action : A) : Verdict :=
  let parts := m.format.unformat action
  if m.options.ignored.contains parts.type then .ignored
  else match m.testers.get? parts.type with
    | none => .unknown
    | some tester =>
      if !m.options.checkPayloads || tester parts.payload then .accepted else .rejected

def report (m : ValidationMiddleware A ρ) (action : A) : Event A ρ :=
  match m.options.reporter with
  | .log => .logged .unknownAction
  | .listener name => .reported name action

def observe (m : ValidationMiddleware A ρ) (action : A) : Traced (Event A ρ) Verdict := do
  let verdict := m.inspect action
  if verdict.isReported then
    Traced.emit
      [.logged (.failedValidation (m.format.unformat action).type verdict), m.report action]
  return verdict

def handle (m : ValidationMiddleware A ρ) (action : A) (next : A → Traced (Event A ρ) R) :
    Traced (Event A ρ) R := do
  let _ ← m.observe action
  next action

def chain (stages : List (ValidationMiddleware A ρ)) (last : A → Traced (Event A ρ) R) :
    A → Traced (Event A ρ) R :=
  stages.foldr (fun stage next action => stage.handle action next) last

end ValidationMiddleware

end ActionSchema
