import OciCompose.Config
import OciCompose.Text

/-
  Command lines: options with a value, given behind the option or as the next argument, and switches.
  There are no other arguments. The first thing wrong, or the request for help, ends the reading.
-/

namespace OciCompose.CommandLine

/-- What a command line asks for. -/
structure Options where
  config : Option String := none
  base : Option String := none
  tag : Option String := none
  platforms : List String := []
  layers : List String := []
  envs : List String := []
  insecure : Bool := false
  dryRun : Bool := false
  output : Option String := none
  jsonLogs : Bool := false
deriving DecidableEq

/-- Why reading a command line ends early. -/
inductive Stop where
  | help
  | misuse
deriving DecidableEq

/-- Options with a value. -/
inductive Setting where
  | config
  | base
  | tag
  | platform
  | layer
  | env
  | output
deriving DecidableEq

/-- Options without a value. -/
inductive Switch where
  | insecure
  | dryRun
  | jsonLogs
  | help
deriving DecidableEq

inductive Flag where
  | setting (s : Setting)
  | switch (s : Switch)
deriving DecidableEq

/-- The option of a name behind two dashes. -/
def Flag.ofName? : String → Option Flag
  | "config" => some (.setting .config)
  | "base" => some (.setting .base)
  | "tag" => some (.setting .tag)
  | "platform" => some (.setting .platform)
  | "layer" => some (.setting .layer)
  | "env" => some (.setting .env)
  | "output" => some (.setting .output)
  | "insecure" => some (.switch .insecure)
  | "dry-run" => some (.switch .dryRun)
  | "json-logs" => some (.switch .jsonLogs)
  | "help" => some (.switch .help)
  | _ => none

/-- The option of a letter behind one dash. -/
def Flag.ofLetter? : Char → Option Flag
  | 'c' => some (.setting .config)
  | 't' => some (.setting .tag)
  | 'p' => some (.setting .platform)
  | 'l' => some (.setting .layer)
  | 'e' => some (.setting .env)
  | 'o' => some (.setting .output)
  | 'h' => some (.switch .help)
  | _ => none

/-- An option that has at most one value, with another one. -/
def once (old : Option String) (new : String) : Except Stop (Option String) :=
  match old with
  | none => .ok (some new)
  | some _ => .error .misuse

/-- Such an option whose value is the name of a file. -/
def onceFile (old : Option String) (new : String) : Except Stop (Option String) :=
  if new.isEmpty then .error .misuse else once old new

def Options.set (o : Options) (s : Setting) (value : String) : Except Stop Options :=
  match s with
  | .config => (onceFile o.config value).map fun v => { o with config := v }
  | .base => (once o.base value).map fun v => { o with base := v }
  | .tag => (once o.tag value).map fun v => { o with tag := v }
  | .platform => .ok { o with platforms := o.platforms ++ [value] }
  | .layer => .ok { o with layers := o.layers ++ [value] }
  | .env => .ok { o with envs := o.envs ++ [value] }
  | .output => (onceFile o.output value).map fun v => { o with output := v }

/-- Switches may be turned on once. -/
def Options.turnOn (o : Options) (s : Switch) : Except Stop Options :=
  match s with
  | .insecure => if o.insecure then .error .misuse else .ok { o with insecure := true }
  | .dryRun => if o.dryRun then .error .misuse else .ok { o with dryRun := true }
  | .jsonLogs => if o.jsonLogs then .error .misuse else .ok { o with jsonLogs := true }
  | .help => .error .help

/-- An argument that is an option, with the value that stands behind it. -/
inductive Argument where
  | setting (s : Setting) (value : Option String)
  | switch (s : Switch)
  /-- The end of all options. -/
  | dashes
  | other

/-- A value behind an equals sign may be left out of an option, but not be put behind a switch. -/
def Argument.ofLong (s : List Char) : Argument :=
  let (name, value) :=
    match Text.cut '=' s with
    | some (n, v) => (n, some (String.ofList v))
    | none => (s, none)
  match Flag.ofName? (String.ofList name), value with
  | some (.setting x), value => .setting x value
  | some (.switch x), none => .switch x
  | _, _ => .other

/-- A letter with what stands behind it. -/
def Argument.ofShort (letter : Char) (rest : List Char) : Argument :=
  match Flag.ofLetter? letter, rest with
  | some (.setting x), [] => .setting x none
  | some (.setting x), '=' :: v => .setting x (some (String.ofList v))
  | some (.setting x), v => .setting x (some (String.ofList v))
  | some (.switch x), _ => .switch x
  | none, _ => .other

def Argument.ofText (s : String) : Argument :=
  match s.toList with
  | ['-', '-'] => .dashes
  | '-' :: '-' :: name => .ofLong name
  | '-' :: letter :: rest => .ofShort letter rest
  | _ => .other

/-- A text that is no value of the option before it. -/
def isDashed (s : String) : Bool :=
  match s.toList with
  | '-' :: _ :: _ => true
  | _ => false

/-- Reads arguments behind those read already. -/
def Options.read (o : Options) : List String → Except Stop Options
  | [] => .ok o
  | a :: rest =>
    match Argument.ofText a with
    | .dashes => if rest.isEmpty then .ok o else .error .misuse
    | .other => .error .misuse
    | .switch s =>
      match o.turnOn s with
      | .ok o => read o rest
      | .error e => .error e
    | .setting s (some v) =>
      match o.set s v with
      | .ok o => read o rest
      | .error e => .error e
    | .setting s none =>
      match rest with
      | [] => .error .misuse
      | v :: rest =>
        if isDashed v then .error .misuse
        else
          match o.set s v with
          | .ok o => read o rest
          | .error e => .error e

def baseVariable : String := "LAYERSTACK_BASE"

def tagVariable : String := "LAYERSTACK_TAG"

/-- Reads a command line. Base and tag may come from the environment. -/
def Options.ofArguments (environment : String → Option String) (arguments : List String) :
    Except Stop Options :=
  (Options.read {} arguments).map fun o =>
    { o with base := o.base.or (environment baseVariable), tag := o.tag.or (environment tagVariable) }

end OciCompose.CommandLine
