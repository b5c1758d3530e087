import OciCompose.Build
import OciCompose.CommandLine.Options
import OciCompose.Registry.Memory
import OciCompose.Registry.Remote

/-
  What the program does for a command line: it makes a configuration, builds, and delivers the
  artifact to a file or to its output.
-/

namespace OciCompose.CommandLine

/-- Why no artifact is delivered. -/
inductive Failure where
  | badVariable (text : String)
  | dryRunBase
  | error (e : Error)
  | loading (path : String) (e : Error)
  | writing (path : String) (fault : IoFault)
deriving DecidableEq

namespace Failure

def message : Failure → String
  | badVariable s => "--env expects KEY=VALUE, got " ++ s
  | dryRunBase => "--dry-run only works with an empty base"
  | error e => e.message
  | loading p _ => "loading " ++ p
  | writing p _ => "writing " ++ p

/-- What is behind the message. -/
def cause? : Failure → Option String
  | badVariable _ | dryRunBase => none
  | error e => e.cause?
  | loading _ e => some e.message
  | writing _ f => some f.message

/-- A text whose lines are all indented. -/
def indented (s : String) : String :=
  String.ofList (s.toList.flatMap fun c => if c = '\n' then "\n    ".toList else [c])

/-- What the program says about a failure. -/
def report (f : Failure) : String :=
  "Error: " ++ f.message ++
    (match f.cause? with
      | some c => "\n\nCaused by:\n    " ++ indented c
      | none => "") ++ "\n"

end Failure

namespace Options

/-- The layer of a directory, with the path it has in the container behind a colon. -/
def layerOf (s : String) : LayerConfig :=
  let (path, containerPath) :=
    match Text.cut ':' s.toList with
    | some (p, c) => (String.ofList p, some (String.ofList c))
    | none => (s, none)
  { localDir := some { path, containerPath } }

/-- A variable of a text such as `KEY=VALUE`. -/
def variableOf (s : String) : Except Failure EnvVar :=
  match Text.cut '=' s.toList with
  | some (n, v) => .ok { name := String.ofList n, value := String.ofList v }
  | none => .error (.badVariable s)

/-- The configuration file, if there is one. -/
def loaded (o : Options) (top : Tree) : Except Failure BuildConfig :=
  match o.config with
  | none => .ok {}
  | some path =>
    match BuildConfig.ofFile top path with
    | .ok c => .ok c
    | .error e => .error (.loading path e)

/-- The configuration of a build: that of a file, to which options add. -/
def buildConfig (o : Options) (top : Tree) : Except Failure BuildConfig := do
  let c ← o.loaded top
  let added ← o.envs.mapM variableOf
  let c := {
    base := o.base.getD c.base
    tag := o.tag.getD c.tag
    platforms := c.platforms ++ o.platforms
    layers := c.layers ++ o.layers.map layerOf
    env := c.env ++ added : BuildConfig }
  match c.validate with
  | .ok () => .ok c
  | .error e => .error (.error e)

/-- Runs a build against a registry. -/
def build {σ : Type} (r : Registry σ) (start : σ) (top : Tree) (c : BuildConfig)
    (gzip : Bytes → Bytes) : Except Failure Artifact :=
  match (Build.run r top c gzip { registry := start }).1 with
  | .ok a => .ok a
  | .error e => .error (.error e)

/-- Builds and pushes: over a transport, or to a registry in memory for a dry run. -/
def artifact {τ : Type} (o : Options) (t : Http.Transport τ) (connection : τ)
    (environment : String → Option String) (top : Tree) (gzip : Bytes → Bytes) :
    Except Failure Artifact := do
  let c ← o.buildConfig top
  if o.dryRun then
    if Text.trimChars c.base.toList ≠ [] then throw .dryRunBase
    build MemoryRegistry.registry .empty top c gzip
  else
    let remote : RemoteRegistry τ :=
      { transport := t, credentials := .ofVariables environment, insecure := o.insecure }
    build remote.registry { connection } top c gzip

/-- The text of an artifact as it is delivered. -/
def deliverable (a : Artifact) : String := a.toJson.pretty ++ "\n"

/-- Delivers a text: to the output file, or as what the program prints. -/
def deliver (o : Options) (text : String) (top : Tree) : Except Failure (String × Tree) :=
  match o.output with
  | none => .ok (text, top)
  | some path =>
    match top.write path (Utf8.encode text) with
    | .ok top => .ok ("", top)
    | .error f => .error (.writing path f)

end Options

/-- How a run ends: what was printed, and the files afterwards. -/
inductive Outcome where
  | stopped (s : Stop)
  | failed (f : Failure)
  | done (printed : String) (files : Tree)

/-- Runs the program for arguments and an environment on a file tree. -/
def run {τ : Type} (t : Http.Transport τ) (connection : τ) (environment : String → Option String)
    (arguments : List String) (top : Tree) (gzip : Bytes → Bytes := id) : Outcome :=
  match Options.ofArguments environment arguments with
  | .error s => .stopped s
  | .ok o =>
    let delivered := do
      let a ← o.artifact t connection environment top gzip
      o.deliver (Options.deliverable a) top
    match delivered with
    | .ok (printed, files) => .done printed files
    | .error f => .failed f

/-- The status that the program exits with. -/
def Outcome.code : Outcome → UInt8
  | stopped .help | done .. => 0
  | stopped .misuse => 2
  | failed _ => 1

end OciCompose.CommandLine
