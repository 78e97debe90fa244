import ActionSchema.CommandLine

/-! The program: reads the files that a command names and the standard input, and writes what the
command leaves behind. -/

namespace ActionSchema

def readFile (path : String) : IO File := do
  try
    return .ok (← IO.FS.readBinFile path).toList
  catch error =>
    match error with
    | .noFileOrDirectory .. => return .error .missing
    | .inappropriateType .. => return .error .directory
    | error => return .error (.other (toString error))

def CommandLine.Command.paths : CommandLine.Command → List String
  | .help | .version => []
  | .describe manifest => [manifest]
  | .check args => args.manifest :: args.actions.toList

def CommandLine.Command.readsStdin : CommandLine.Command → Bool
  | .check args => args.actions.all (· == "-")
  | _ => false

partial def readAll (stream : IO.FS.Stream) (bytes : ByteArray) : IO ByteArray := do
  let chunk ← stream.read 65536
  if chunk.isEmpty then return bytes else readAll stream (bytes ++ chunk)

def runProgram (args : List String) : IO UInt32 := do
  let outcome ← match CommandLine.parse args with
    | none => pure CommandLine.misuse
    | some command =>
      let files ← command.paths.mapM fun path => return (path, ← readFile path)
      let stdin ← if command.readsStdin then readAll (← IO.getStdin) .empty else pure .empty
      pure (CommandLine.run (fun path => (files.lookup path).getD (.error .missing)) stdin.toList
        command)
  (← IO.getStdout).putStr outcome.stdout
  (← IO.getStderr).putStr outcome.stderr
  return outcome.exitCode.toUInt32

end ActionSchema

def main (args : List String) : IO UInt32 := ActionSchema.runProgram args
