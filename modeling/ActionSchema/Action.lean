import ActionSchema.Record

/-! Actions and the forms a host may give them. A form is lawful if an action can be taken out of it
again unchanged; the plain form and the JSON form are. -/

namespace ActionSchema

/-- A type and a payload. No payload differs from the payload `null`. -/
structure Action where
  type : String
  payload : Option Json

namespace Action

def toJson (action : Action) : Json :=
  let payload := match action.payload with
    | some value => [("payload", value)]
    | none => []
  .ofFields (("type", .str action.type) :: payload)

structure Draft where
  type : Option String := none
  payload : Option Json := none

variable {ν : Type}

def draft (src : Record.Source ν) : Record.Draft ν Draft where
  name := "Action"
  fields := ["type", "payload"]
  closed := false
  empty := {}
  take d field value := do
    if field == "type" then
      return { d with type := ← Record.once field d.type (src.string value) }
    else
      return { d with payload := ← Record.once field d.payload (src.json value) }

def read (src : Record.Source ν) (value : ν) : Except Record.Fault Action := do
  let (d, missing) ← (draft src).fill src value
  return ⟨← Record.require missing "type" d.type, d.payload⟩

def ofJson (value : Json) : Except Record.Fault Action := read Json.source value

def ofText (text : String) : Except Record.Fault Action :=
  Json.readText (read Json.Outline.source) text

end Action

structure Format (A : Type) where
  format : Action → A
  unformat : A → Action

namespace Format

variable {A : Type}

def Lawful (F : Format A) : Prop := ∀ action, F.unformat (F.format action) = action

def standard : Format Action := ⟨id, id⟩

/-- Actions as JSON objects. Any value can be taken apart; one without a string as its type has the
empty type, which no schema declares. -/
def json : Format Json where
  format action :=
    let typed := Table.empty.insert "type" (.str action.type)
    .obj <| match action.payload with
      | some value => typed.insert "payload" value
      | none => typed
  unformat value := ⟨((value.get? "type").bind Json.str?).getD "", value.get? "payload"⟩

theorem standard_lawful : standard.Lawful := fun _ => rfl

theorem json_lawful : json.Lawful := fun ⟨type, payload⟩ => by
  cases payload <;> simp [json, Json.get?, Json.str?]

end Format

end ActionSchema
