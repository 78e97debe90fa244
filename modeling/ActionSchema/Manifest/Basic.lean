import ActionSchema.Record

/-! Manifests: schemas written down in configuration, with predicates by name. A manifest is written
to JSON without the optional fields it does not have, and read from any source of records. -/

namespace ActionSchema

structure ArgEntry where
  id : String
  doc : Option String
  predicate : String
deriving DecidableEq

structure ActionEntry where
  type : String
  doc : Option String
  payload : Option String
  args : List ArgEntry
deriving DecidableEq

structure Manifest where
  ns : Namespace
  actions : List ActionEntry
deriving DecidableEq

def optionalField (name : String) : Option String → List (String × Json)
  | some value => [(name, .str value)]
  | none => []

variable {ν : Type}

namespace ArgEntry

def toJson (entry : ArgEntry) : Json :=
  .ofFields ([("id", .str entry.id), ("type", .str entry.predicate)]
    ++ optionalField "doc" entry.doc)

structure Draft where
  id : Option String := none
  doc : Option (Option String) := none
  predicate : Option String := none

def draft (src : Record.Source ν) : Record.Draft ν Draft where
  name := "ArgEntry"
  fields := ["id", "doc", "type"]
  closed := true
  empty := {}
  take d field value := do
    if field == "id" then
      return { d with id := ← Record.once field d.id (src.string value) }
    else if field == "doc" then
      return { d with doc := ← Record.once field d.doc (Record.readOptional src value) }
    else
      return { d with predicate := ← Record.once field d.predicate (src.string value) }

def read (src : Record.Source ν) (value : ν) : Except Record.Fault ArgEntry := do
  let (d, missing) ← (draft src).fill src value
  return ⟨← Record.require missing "id" d.id, d.doc.getD none,
    ← Record.require missing "type" d.predicate⟩

end ArgEntry

namespace ActionEntry

def toJson (entry : ActionEntry) : Json :=
  let args :=
    if entry.args.isEmpty then [] else [("args", Json.arr (entry.args.map ArgEntry.toJson))]
  .ofFields ([("type", .str entry.type)] ++ optionalField "doc" entry.doc
    ++ optionalField "payload" entry.payload ++ args)

structure Draft where
  type : Option String := none
  doc : Option (Option String) := none
  payload : Option (Option String) := none
  args : Option (List ArgEntry) := none

def draft (src : Record.Source ν) : Record.Draft ν Draft where
  name := "ActionEntry"
  fields := ["type", "doc", "payload", "args"]
  closed := true
  empty := {}
  take d field value := do
    if field == "type" then
      return { d with type := ← Record.once field d.type (src.string value) }
    else if field == "doc" then
      return { d with doc := ← Record.once field d.doc (Record.readOptional src value) }
    else if field == "payload" then
      return { d with payload := ← Record.once field d.payload (Record.readOptional src value) }
    else
      return { d with
        args := ← Record.once field d.args (Record.readList src (ArgEntry.read src) value) }

def read (src : Record.Source ν) (value : ν) : Except Record.Fault ActionEntry := do
  let (d, missing) ← (draft src).fill src value
  return ⟨← Record.require missing "type" d.type, d.doc.getD none, d.payload.getD none,
    d.args.getD []⟩

end ActionEntry

namespace Manifest

def toJson (m : Manifest) : Json :=
  .ofFields [("namespace", .str m.ns.name), ("actions", .arr (m.actions.map ActionEntry.toJson))]

structure Draft where
  ns : Option Namespace := none
  actions : Option (List ActionEntry) := none

def draft (src : Record.Source ν) : Record.Draft ν Draft where
  name := "Manifest"
  fields := ["namespace", "actions"]
  closed := true
  empty := {}
  take d field value := do
    if field == "namespace" then
      return { d with ns := ← Record.once field d.ns (Record.readNamespace src value) }
    else
      return { d with
        actions := ←
          Record.once field d.actions (Record.readList src (ActionEntry.read src) value) }

def read (src : Record.Source ν) (value : ν) : Except Record.Fault Manifest := do
  let (d, _) ← (draft src).fill src value
  return ⟨d.ns.getD Namespace.none, d.actions.getD []⟩

def ofJson (value : Json) : Except Record.Fault Manifest := read Json.source value

def ofJsonText (text : String) : Except Record.Fault Manifest :=
  Json.readText (read Json.Outline.source) text

end Manifest

end ActionSchema
