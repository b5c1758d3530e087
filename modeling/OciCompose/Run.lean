import OciCompose.Event
import OciCompose.Registry.Basic

/-
  Running builds: a registry, what was reported so far, and a clock.
-/

namespace OciCompose

/-- The state of a run. `clock n` is the `n`th reading of a clock in milliseconds, `readings` how many
    were taken. -/
structure Run (σ : Type) where
  registry : σ
  events : List Event := []
  clock : Nat → Nat := fun _ => 0
  readings : Nat := 0

/-- A step of a build, which may fail but keeps what was done and reported. -/
abbrev Build (σ : Type) (α : Type) := ExceptT Error (StateM (Run σ)) α

namespace Build

variable {σ : Type}

/-- A call to the registry. -/
def call (c : Call σ α) : Build σ α := fun w =>
  let (r, s) := c w.registry
  (r, { w with registry := s })

def report (e : Event) : Build σ Unit := fun w => (.ok (), { w with events := w.events ++ [e] })

def reportAll (es : List Event) : Build σ Unit := fun w =>
  (.ok (), { w with events := w.events ++ es })

def ofExcept (r : Except Error α) : Build σ α := fun w => (r, w)

/-- Reports something about an error that passes. -/
def reporting (b : Build σ α) (event : Error → Event) : Build σ α := fun w =>
  match b w with
  | (.error e, w) => (.error e, { w with events := w.events ++ [event e] })
  | (.ok a, w) => (.ok a, w)

end Build

end OciCompose
