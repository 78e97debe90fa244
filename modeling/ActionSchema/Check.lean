import ActionSchema.Failure
import ActionSchema.Middleware
import ActionSchema.Text.Lines

/-! Checking a stream of actions, one JSON value a line, against a manifest. Every action that
validation reports is listed with its line, and a summary counts the verdicts. A line that cannot
be read ends the run; what was listed before it stays. -/

namespace ActionSchema.Check

structure Arguments where
  manifest : String
  /-- The file with the actions. Without one, or for a dash, they come from the standard input. -/
  actions : Option String := none
  checkPayloads : Bool := false
  ignore : List String := []

structure Summary where
  total : Nat := 0
  accepted : Nat := 0
  ignored : Nat := 0
  rejected : Nat := 0
  unknown : Nat := 0
deriving DecidableEq

namespace Summary

def record (s : Summary) (verdict : Verdict) : Summary :=
  let s := { s with total := s.total + 1 }
  match verdict with
  | .accepted => { s with accepted := s.accepted + 1 }
  | .ignored => { s with ignored := s.ignored + 1 }
  | .rejected => { s with rejected := s.rejected + 1 }
  | .unknown => { s with unknown := s.unknown + 1 }

def isClean (s : Summary) : Bool := s.rejected == 0 && s.unknown == 0

def text (s : Summary) : String :=
  toString s.total ++ " actions: " ++ toString s.accepted ++ " accepted, " ++ toString s.ignored
    ++ " ignored, " ++ toString s.rejected ++ " rejected, " ++ toString s.unknown ++ " unknown\n"

end Summary

structure Entry where
  line : Nat
  verdict : Verdict
  type : String
deriving DecidableEq

namespace Entry

def text (e : Entry) : String :=
  "line " ++ toString e.line ++ ": " ++ e.verdict.name ++ " " ++ e.type ++ "\n"

def log (e : Entry) : List LogEntry := [.failedValidation e.type e.verdict, .unknownAction]

end Entry

inductive Line
  | garbled
  | blank
  | malformed
  | action (value : Json)

def Line.ofText : Option String → Line
  | none => garbled
  | some text =>
    if Text.allBlank text then blank
    else match Json.parse? text.toList with
      | some value => action value
      | none => malformed

def lines (stream : List UInt8) : List Line := (Text.lines stream).map Line.ofText

structure Progress where
  line : Nat := 0
  summary : Summary := {}
  entries : Array Entry := #[]

/-- A run that had to stop, and its progress before the line that stopped it. -/
structure Halt where
  failure : Failure
  progress : Progress

def step {ρ : Type} (m : ValidationMiddleware Json ρ) (p : Progress) :
    Line → Except Halt Progress
  | .garbled => .error ⟨.reading (p.line + 1), p⟩
  | .malformed => .error ⟨.parsing (p.line + 1), p⟩
  | .blank => .ok { p with line := p.line + 1 }
  | .action value =>
    let verdict := m.inspect value
    let entries :=
      if verdict.isReported then
        p.entries.push ⟨p.line + 1, verdict, (Format.json.unformat value).type⟩
      else p.entries
    .ok ⟨p.line + 1, p.summary.record verdict, entries⟩

def scan {ρ : Type} (m : ValidationMiddleware Json ρ) (lines : List Line) :
    Except Halt Progress :=
  lines.foldlM (step m) {}

structure Outcome where
  output : String
  log : List LogEntry
  result : Except Failure Summary

namespace Progress

def output (p : Progress) : String := String.join (p.entries.toList.map Entry.text)

def log (p : Progress) : List LogEntry := p.entries.toList.flatMap Entry.log

end Progress

def options (args : Arguments) : MiddlewareOptions Empty :=
  MiddlewareOptions.default.changeAll
    (.checkPayloads args.checkPayloads :: args.ignore.map .ignore)

def runSchema (args : Arguments) (s : CompiledSchema Json) (lines : List Line) : Outcome :=
  let compiled := LogEntry.compiledSchema s.ns.name s.size
  match scan (s.createMiddleware (options args)) lines with
  | .ok p =>
    ⟨p.output ++ p.summary.text, compiled :: p.log ++ [.checkedStream], .ok p.summary⟩
  | .error halt => ⟨halt.progress.output, compiled :: halt.progress.log, .error halt.failure⟩

def load (args : Arguments) (file : File) : Except Failure (CompiledSchema Json) := do
  let manifest ← (Manifest.load args.manifest file).mapError (.loading args.manifest)
  (manifest.compileWith .json).mapError .compiling

def run (args : Arguments) (file : File) (stream : List Line) : Outcome :=
  match load args file with
  | .ok schema => runSchema args schema stream
  | .error failure => ⟨"", [], .error failure⟩

/-- The stream in a file. A directory can be opened too, and fails when its first line is read. -/
def openFile (path : String) : File → Except Failure (List Line)
  | .ok bytes => .ok (lines bytes)
  | .error .directory => .ok [.garbled]
  | .error cause => .error (.opening path cause)

def openInput (args : Arguments) (files : String → File) (stdin : List UInt8) :
    Except Failure (List Line) :=
  match args.actions with
  | some path => if path == "-" then .ok (lines stdin) else openFile path (files path)
  | none => .ok (lines stdin)

def command (args : Arguments) (files : String → File) (stdin : List UInt8) : Outcome :=
  match openInput args files stdin with
  | .ok stream => run args (files args.manifest) stream
  | .error failure => ⟨"", [], .error failure⟩

end ActionSchema.Check
