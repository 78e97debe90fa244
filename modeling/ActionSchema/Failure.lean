import ActionSchema.Manifest.Compile
import ActionSchema.Manifest.Load

/-! The ways in which a command may fail. A line that is not UTF-8 stops the reading, one that is not
JSON the parsing. -/

namespace ActionSchema

inductive Failure
  | opening (path : String) (cause : ReadError)
  | loading (path : String) (cause : LoadError)
  | compiling (cause : ManifestError)
  | reading (line : Nat)
  | parsing (line : Nat)

def Failure.message : Failure → String
  | opening path _ => "opening actions file " ++ path
  | loading path _ => "loading " ++ path
  | compiling cause => cause.message
  | reading line => "reading line " ++ toString line
  | parsing line => "line " ++ toString line ++ ": invalid JSON"

end ActionSchema
