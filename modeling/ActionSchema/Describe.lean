import ActionSchema.Failure

/-! Descriptions of manifests: every declared action with its namespaced type, its documentation and
the shape of its payload, in the order of declaration. They are written action by action, and what
was written before a failure stays. -/

namespace ActionSchema.Describe

def argumentText (arg : ArgumentSpec) : String :=
  let doc := if arg.doc.isEmpty then "" else ": " ++ arg.doc
  "    - " ++ arg.id.getD "" ++ doc ++ "\n"

def payloadText (action : ParsedAction) : String :=
  if action.args.isEmpty then "    payload: none\n"
  else if action.isWholePayload then "    payload: whole value\n"
  else String.join (action.args.map argumentText)

def actionText (namespaced : String) (action : ParsedAction) : String :=
  let doc := if action.doc.isEmpty then "" else "    " ++ action.doc ++ "\n"
  action.type ++ " (" ++ namespaced ++ ")\n" ++ doc ++ payloadText action

def header (ns : Namespace) : String :=
  if ns.isEmpty then "" else "namespace: " ++ ns.name ++ "\n"

structure Halt where
  failure : Failure
  written : String

instance : Coe Halt Failure := ⟨Halt.failure⟩

def writeAction {A : Type} (s : CompiledSchema A) (written : String) (action : ParsedAction) :
    Except Halt String :=
  match s.actions.get action.type with
  | .ok namespaced => .ok (written ++ actionText namespaced action)
  | .error cause => .error ⟨.compiling (.schema cause), written⟩

def writeSchema {A : Type} (s : CompiledSchema A) : Except Halt String :=
  s.toList.foldlM (writeAction s) (header s.ns)

def run (path : String) (file : File) : Except Halt String := do
  let manifest ← (Manifest.load path file).mapError fun cause => ⟨.loading path cause, ""⟩
  let schema ← manifest.compile.mapError fun cause => ⟨.compiling cause, ""⟩
  writeSchema schema

end ActionSchema.Describe
