import ActionSchema.Manifest.Basic
import ActionSchema.Yaml.Document

/-! Loading manifests from files: JSON if the name of the file says so, YAML otherwise. -/

namespace ActionSchema

inductive ReadError
  | missing
  | directory
  | notUtf8
  | other (reason : String)

def ReadError.message : ReadError → String
  | missing => "No such file or directory (os error 2)"
  | directory => "Is a directory (os error 21)"
  | notUtf8 => "stream did not contain valid UTF-8"
  | other reason => reason

inductive LoadError
  | unreadable (path : String) (cause : ReadError)
  | yaml (fault : Record.Fault)
  | json (fault : Record.Fault)

/-- What to say about a failure, without the place in the text. -/
def LoadError.message? : LoadError → Option String
  | unreadable path cause => some ("cannot read manifest '" ++ path ++ "': " ++ cause.message)
  | yaml fault => fault.message?
  | json fault => fault.message?

abbrev File := Except ReadError (List UInt8)

def File.text (file : File) : Except ReadError String := do
  match String.fromUTF8? ⟨(← file).toArray⟩ with
  | some text => return text
  | none => throw .notUtf8

/-- The part of a path after its last separator, in reverse. A path may end in separators. -/
def lastComponent (path : List Char) : List Char :=
  (path.reverse.dropWhile (· == '/')).takeWhile (· != '/')

/-- The part of a file name after its last dot, unless nothing is before the dot. -/
def extension? (path : String) : Option String :=
  let name := lastComponent path.toList
  let ext := name.takeWhile (· != '.')
  match name.drop ext.length with
  | '.' :: stem =>
    if stem.isEmpty || name == ['.', '.'] then none else some (String.ofList ext.reverse)
  | _ => none

namespace Manifest

def ofYamlText (text : String) : Except Record.Fault Manifest := Yaml.readText read text

def load (path : String) (file : File) : Except LoadError Manifest := do
  let text ← file.text.mapError (.unreadable path)
  if extension? path == some "json" then (ofJsonText text).mapError .json
  else (ofYamlText text).mapError .yaml

end Manifest

end ActionSchema
