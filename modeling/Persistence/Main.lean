import Persistence.CommandLine.Run

/-!
# The program

Compiles a schema file to SQL: prints statements, or says what is wrong.
-/

set_option autoImplicit false

namespace Persistence.CommandLine

def helpText : String :=
  "Compiles a schema into SQL.\n\n" ++
  "Options:\n" ++
  "  -s, --schema PATH          the schema, in JSON\n" ++
  "      --primary-key-name NAME  name of an implicit primary key (id)\n" ++
  "      --case-sensitive-keys    match that name case-sensitively\n" ++
  "  -h, --help                 print this text\n" ++
  "  -V, --version              print the version\n\n" ++
  "Commands:\n" ++
  "  create [ENTITY...]\n" ++
  "  drop [ENTITY...]\n" ++
  "  select ENTITY [-w F=V]... [--limit N] [--offset N]\n" ++
  "  count ENTITY [-w F=V]...\n"

def readFaultOf (failure : IO.Error) : ReadFault :=
  match failure with
  | .noFileOrDirectory _ number _ => .system "No such file or directory" number.toNat
  | .permissionDenied _ number _ => .system "Permission denied" number.toNat
  | .inappropriateType _ number _ => .system "Is a directory" number.toNat
  | other => .system (toString other) 5

def readBytes (path : String) : IO (Except ReadFault (List UInt8)) := do
  try
    let bytes ← IO.FS.readBinFile path
    return .ok bytes.toList
  catch failure =>
    return .error (readFaultOf failure)

def runProgram (words : List String) : IO UInt32 := do
  let file ← match readArguments words with
    | .ok arguments => readBytes arguments.schemaPath
    | .error _ => pure (.ok [])
  let outcome := run (fun _ => file) words
  let out ← IO.getStdout
  out.putStr (output outcome)
  match outcome with
  | .ok _ => pure ()
  | .error (.refused .help) => out.putStr helpText
  | .error (.refused .version) => out.putStr "0.1.0\n"
  | .error failure => IO.eprintln ("Error: " ++ failure.message)
  return UInt32.ofNat (exitCode outcome)

end Persistence.CommandLine

def main (words : List String) : IO UInt32 := Persistence.CommandLine.runProgram words
