import OciCompose.CommandLine.Run
import OciCompose.Gzip

/-
  The program: command line, environment and working directory in, artifact out.
  Files count as 0644 and symlinks are left out, as neither permissions nor targets can be read here.
  Registries are out of reach, so only dry runs end well.
-/

namespace OciCompose.Program

open CommandLine

/-- The regular files and directories of a directory, by the names in them. -/
partial def readTree (entries : Array IO.FS.DirEntry) : IO Tree := do
  let mut children := []
  for e in entries do
    match (← e.path.metadata).type with
    | .file =>
      let content ← IO.FS.readBinFile e.path
      children := (e.fileName, Tree.file content.toList Tree.newMode) :: children
    | .dir => children := (e.fileName, ← readTree (← e.path.readDir)) :: children
    | _ => pure ()
  return .dir children

def usage : String :=
  "Options: --config FILE, --base REF, --tag REF, --platform OS/ARCH, --layer PATH:CONTAINER, " ++
    "--env KEY=VALUE, --insecure, --dry-run, --output FILE, --json-logs"

/-- The environment variables that count. -/
def settings : IO (List (String × String)) := do
  let names := [baseVariable, tagVariable, Credentials.tokenVariable, Credentials.userVariable,
    Credentials.passwordVariable]
  let values ← names.mapM fun n => do return (← IO.getEnv n).map fun v => (n, v)
  return values.filterMap id

def main (arguments : List String) : IO UInt32 := do
  let env ← settings
  let environment (n : String) : Option String := env.lookup n
  match Options.ofArguments environment arguments with
  | .error .help => IO.println usage; return 0
  | .error .misuse => IO.eprintln usage; return 2
  | .ok o =>
    let top ← readTree (← (← IO.currentDir).readDir)
    match o.artifact Http.Transport.unreachable () environment top Gzip.stored with
    | .error f => IO.eprint f.report; return 1
    | .ok a =>
      let text := Options.deliverable a
      match o.output with
      | some path => IO.FS.writeFile path text
      | none => IO.print text
      return 0

end OciCompose.Program

def main (arguments : List String) : IO UInt32 := OciCompose.Program.main arguments
