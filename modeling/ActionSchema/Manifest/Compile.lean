import ActionSchema.Manifest.Basic
import ActionSchema.Schema.Compile

/-! Compiling manifests. All entries become declarations first, so a fault of the manifest itself
comes before any fault of the schema it describes. -/

namespace ActionSchema

inductive ManifestError
  | predicate (type name : String)
  | conflictingPayload (type : String)
  | schema (error : SchemaError)
deriving DecidableEq

def ManifestError.message : ManifestError → String
  | predicate type name => "action '" ++ type ++ "': " ++ Predicate.unknown name
  | conflictingPayload type => "action '" ++ type ++ "' declares both 'payload' and 'args'"
  | schema error => error.message

namespace ActionEntry

def resolve (entry : ActionEntry) (name : String) : Except ManifestError Predicate :=
  (Predicate.byName name).mapError (.predicate entry.type)

def argument (entry : ActionEntry) (arg : ArgEntry) : Except ManifestError ArgumentDecl := do
  let test ← entry.resolve arg.predicate
  match arg.doc with
  | some doc => return .documented arg.id doc test
  | none => return .named arg.id test

def arguments (entry : ActionEntry) : Except ManifestError (List ArgumentDecl) :=
  match entry.payload, entry.args with
  | some _, _ :: _ => .error (.conflictingPayload entry.type)
  | some name, [] => do return [.whole (← entry.resolve name)]
  | none, args => args.mapM entry.argument

def declaration (entry : ActionEntry) : Except ManifestError Declaration := do
  return ⟨entry.type, (entry.doc.map .doc).toList ++ (← entry.arguments).map .arg⟩

end ActionEntry

namespace Manifest

def declarations (m : Manifest) : Except ManifestError (List Declaration) :=
  m.actions.mapM ActionEntry.declaration

def compileWith {A : Type} (m : Manifest) (format : Format A) :
    Except ManifestError (CompiledSchema A) := do
  (compile format m.ns (← m.declarations)).mapError .schema

def compile (m : Manifest) : Except ManifestError (CompiledSchema Action) :=
  m.compileWith .standard

end Manifest

end ActionSchema
