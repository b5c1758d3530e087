import OciCompose.Run

/-
  Writing an image to a registry: blobs first, the manifest last, with progress.
  Progress counts bytes in 64 bits. Unfinished progress is shown at most once a second, finished
  progress always.
-/

namespace OciCompose

/-- What a push writes. -/
structure PushPlan where
  /-- Blobs with their sizes that have to be in the target repository, and where they are now. -/
  baseLayers : List (Digest × UInt64)
  baseRepository : Option Reference
  blobs : List (Digest × Bytes)
  manifest : RawManifest
  target : Reference

/-- Where a push stands. An error ends it. -/
structure Update where
  complete : UInt64
  total : UInt64
  error : Option String
deriving DecidableEq

namespace PushPlan

variable {σ : Type}

def total (p : PushPlan) : UInt64 :=
  let base := p.baseLayers.foldl (fun n l => n + l.2) 0
  let blobs := p.blobs.foldl (fun n b => n + UInt64.ofNat b.2.length) 0
  base + blobs + p.manifest.size

/-- The calls of a push in order, with the bytes that each completes. -/
def steps (p : PushPlan) (r : Registry σ) : List (Call σ Unit × UInt64) :=
  (match p.baseRepository with
    | some source => p.baseLayers.map fun (d, size) => (r.copyBlob source p.target d, size)
    | none => []) ++
  (p.blobs.map fun (d, data) => (r.putBlob p.target d data, UInt64.ofNat data.length)) ++
  [(r.putManifest p.target p.manifest, p.manifest.size)]

/-- The outcome of a push, with the updates it sent. -/
structure Outcome where
  result : Except Error Unit
  updates : List Update

/-- Makes the calls in order, up to the first that fails. -/
def runSteps (total : UInt64) : UInt64 → List (Call σ Unit × UInt64) → σ → Outcome × σ
  | _, [], s => (⟨.ok (), []⟩, s)
  | complete, (c, n) :: rest, s =>
    match c s with
    | (.error e, s) => (⟨.error e, [⟨complete, total, some e.message⟩]⟩, s)
    | (.ok (), s) =>
      let (o, s) := runSteps total (complete + n) rest s
      (⟨o.result, ⟨complete + n, total, none⟩ :: o.updates⟩, s)

/-- How long unfinished progress is held back, in milliseconds. -/
def reportInterval : Nat := 1000

/-- What is reported of updates, the next unfinished progress not before a time; and how many
    readings of the clock were taken. -/
def shown (clock : Nat → Nat) : Nat → Nat → List Update → List Event × Nat
  | readings, _, [] => ([], readings)
  | readings, next, u :: us =>
    match u.error with
    | some reason => ([.failed "push" reason], readings)
    | none =>
      let progress := Event.pushProgress u.complete.toNat u.total.toNat
      if u.complete = u.total then
        let (es, n) := shown clock readings next us
        (progress :: es, n)
      else if next ≤ clock readings then
        let (es, n) := shown clock (readings + 2) (clock (readings + 1) + reportInterval) us
        (progress :: es, n)
      else shown clock (readings + 1) next us

/-- Carries out a plan and reports its progress. -/
def push (p : PushPlan) (r : Registry σ) : Build σ Unit := fun w =>
  let (o, s) := runSteps p.total 0 (p.steps r) w.registry
  let (events, readings) :=
    shown w.clock (w.readings + 1) (w.clock w.readings + reportInterval) o.updates
  (o.result, { w with registry := s, events := w.events ++ events, readings })

end PushPlan

end OciCompose
