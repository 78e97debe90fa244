import ActionSchema.Check
import ActionSchema.Describe

/-! The command line. Arguments are read from left to right, and the first one that asks for help or
makes no sense decides. -/

namespace ActionSchema.CommandLine

inductive Command
  | help
  | version
  | describe (manifest : String)
  | check (args : Check.Arguments)

def programName : String := "actspec"

def versionText : String := programName ++ " 0.1.0\n"

def helpText : String :=
  "Usage: " ++ programName ++ " <COMMAND>\n\nCommands:\n"
    ++ "  describe <MANIFEST>  List the actions declared by a manifest\n"
    ++ "  check <MANIFEST> [--actions <FILE>] [--check-payloads] [--ignore <TYPE>]...\n"
    ++ "                       Validate a stream of JSON actions against a manifest\n"
    ++ "  help                 Print this message\n"

inductive Word
  /-- Everything after this one is a value. -/
  | escape
  | long (name : String) (value : Option String)
  | short (first : Char) (rest : List Char)
  | value (text : String)

def Word.ofString (arg : String) : Word :=
  match arg.toList with
  | ['-', '-'] => escape
  | '-' :: '-' :: cs =>
    let name := String.ofList (cs.takeWhile (· != '='))
    match cs.dropWhile (· != '=') with
    | _ :: text => long name (some (String.ofList text))
    | [] => long name none
  | '-' :: c :: cs => short c cs
  | _ => value arg

inductive Stop
  | help
  | misuse

inductive Setting
  | actions
  | ignore

structure Draft where
  manifest : Option String := none
  actions : Option String := none
  checkPayloads : Bool := false
  ignore : List String := []
  awaiting : Option Setting := none
  escaped : Bool := false

namespace Draft

/-- Fills the place of a path. It is filled once, and not with an empty path. -/
def path (place : Option String) (text : String) : Except Stop (Option String) :=
  if place.isNone && !text.isEmpty then .ok (some text) else .error .misuse

def value (d : Draft) (text : String) : Except Stop Draft := do
  return { d with manifest := ← path d.manifest text }

def set (d : Draft) (text : String) : Setting → Except Stop Draft
  | .actions => do return { d with actions := ← path d.actions text }
  | .ignore => return { d with ignore := d.ignore ++ [text] }

def setting (d : Draft) (which : Setting) : Option String → Except Stop Draft
  | some text => d.set text which
  | none => return { d with awaiting := some which }

abbrev LongOptions := Draft → String → Option String → Except Stop Draft

def describeOptions : LongOptions := fun _ _ _ => .error .misuse

def checkOptions : LongOptions
  | d, "check-payloads", none =>
    if d.checkPayloads then .error .misuse else .ok { d with checkPayloads := true }
  | d, "actions", attached => d.setting .actions attached
  | d, "ignore", attached => d.setting .ignore attached
  | _, _, _ => .error .misuse

def word (options : LongOptions) (d : Draft) : Word → Except Stop Draft
  | .escape => .ok { d with escaped := true }
  | .long "help" none => .error .help
  | .long name attached => options d name attached
  | .short c _ => .error (if c == 'h' then .help else .misuse)
  | .value text => d.value text

/-- Reads one argument. The value of an option must not look like an option. -/
def step (options : LongOptions) (d : Draft) (arg : String) : Except Stop Draft :=
  if d.escaped then d.value arg
  else match d.awaiting, Word.ofString arg with
    | none, word => d.word options word
    | some which, .value text => { d with awaiting := none }.set text which
    | some _, _ => .error .misuse

def read (options : LongOptions) (args : List String) : Except Stop (Draft × String) := do
  let d ← args.foldlM (step options) {}
  match d.awaiting, d.manifest with
  | none, some manifest => return (d, manifest)
  | _, _ => throw .misuse

end Draft

def parseDescribe (args : List String) : Except Stop Command := do
  let (_, manifest) ← Draft.read Draft.describeOptions args
  return .describe manifest

def parseCheck (args : List String) : Except Stop Command := do
  let (d, manifest) ← Draft.read Draft.checkOptions args
  return .check ⟨manifest, d.actions, d.checkPayloads, d.ignore⟩

def commandNames : List String := ["describe", "check", "help"]

def parse (args : List String) : Option Command :=
  match args with
  | [] => none
  | arg :: rest =>
    match Word.ofString arg with
    | .long "help" none => some .help
    | .long "version" none => some .version
    | .short c _ => if c == 'h' then some .help else if c == 'V' then some .version else none
    | .value "help" =>
      match rest with
      | [] => some .help
      | [name] => if commandNames.contains name then some .help else none
      | _ => none
    | .value "describe" => finish (parseDescribe rest)
    | .value "check" => finish (parseCheck rest)
    | _ => none
where
  finish : Except Stop Command → Option Command
    | .ok command => some command
    | .error .help => some .help
    | .error .misuse => none

structure Outcome where
  exitCode : UInt8 := 0
  stdout : String := ""
  stderr : String := ""

def failed (output : String) (failure : Failure) : Outcome :=
  ⟨1, output, "Error: " ++ failure.message ++ "\n"⟩

def run (files : String → File) (stdin : List UInt8) : Command → Outcome
  | .help => { stdout := helpText }
  | .version => { stdout := versionText }
  | .describe manifest =>
    match Describe.run manifest (files manifest) with
    | .ok text => { stdout := text }
    | .error halt => failed halt.written halt
  | .check args =>
    let outcome := Check.command args files stdin
    match outcome.result with
    | .ok summary => { exitCode := if summary.isClean then 0 else 1, stdout := outcome.output }
    | .error failure => failed outcome.output failure

def misuse : Outcome := { exitCode := 2, stderr := helpText }

end ActionSchema.CommandLine
