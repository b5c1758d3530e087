import Mathlib.Data.List.Forall2
import OciCompose.Build
import OciCompose.Proofs.Outcome

/-
  Builds see a registry through its operations only.
  If the operations of one registry are those of another, seen through a projection of its state
  (`Registry.Projects`), then so are all builds (`append_projects`). `recorded` is such a registry:
  it writes down which manifests are read and written, so the record of a build is a matter of what the
  build does and not of the registry.
-/

namespace OciCompose

variable {σ σ' α β : Type} {π : σ' → σ}

/-! ## Calls -/

/-- Through a projection of the state, one call does what another does. -/
def Call.Projects (π : σ' → σ) (c' : Call σ' α) (c : Call σ α) : Prop :=
  ∀ s, c (π s) = ((c' s).1, π (c' s).2)

namespace Call.Projects

theorem pure (a : α) : Projects π (Pure.pure a) (Pure.pure a) := fun _ => rfl

theorem throw (e : Error) :
    Projects π (MonadExcept.throw e : Call σ' α) (MonadExcept.throw e) := fun _ => rfl

theorem ofExcept (r : Except Error α) : Projects π (Call.ofExcept r) (Call.ofExcept r) := fun _ => rfl

theorem bind {c' : Call σ' α} {c : Call σ α} {f' : α → Call σ' β} {f : α → Call σ β}
    (h : Projects π c' c) (hf : ∀ a, Projects π (f' a) (f a)) :
    Projects π (c' >>= f') (c >>= f) := by
  intro s
  rw [bind_apply, bind_apply, h s]
  rcases c' s with ⟨e | a, s'⟩
  · rfl
  · exact hf a s'

/-- What would follow an error does not count. -/
theorem throw_bind (e : Error) (f' : α → Call σ' β) (f : α → Call σ β) :
    Projects π (MonadExcept.throw e >>= f') (MonadExcept.throw e >>= f) := fun _ => rfl

theorem ite {p : Prop} [Decidable p] {c' d' : Call σ' α} {c d : Call σ α}
    (hc : Projects π c' c) (hd : Projects π d' d) :
    Projects π (if p then c' else d') (if p then c else d) := by
  split
  · exact hc
  · exact hd

end Call.Projects

/-- Through a projection of its state, one registry is another. -/
structure Registry.Projects (π : σ' → σ) (r' : Registry σ') (r : Registry σ) : Prop where
  getManifest : ∀ ref, Call.Projects π (r'.getManifest ref) (r.getManifest ref)
  getBlob : ∀ repo d, Call.Projects π (r'.getBlob repo d) (r.getBlob repo d)
  blobExists : ∀ repo d, Call.Projects π (r'.blobExists repo d) (r.blobExists repo d)
  putBlob : ∀ repo d data, Call.Projects π (r'.putBlob repo d data) (r.putBlob repo d data)
  mountBlob : ∀ source target d,
    Call.Projects π (r'.mountBlob source target d) (r.mountBlob source target d)
  putManifest : ∀ target raw,
    Call.Projects π (r'.putManifest target raw) (r.putManifest target raw)

/-- A run whose registry is seen through a projection. -/
def Run.project (π : σ' → σ) (w : Run σ') : Run σ where
  registry := π w.registry
  events := w.events
  clock := w.clock
  readings := w.readings

/-- Through a projection of the registry, one build does what another does. -/
def Build.Projects (π : σ' → σ) (b' : Build σ' α) (b : Build σ α) : Prop :=
  Call.Projects (Run.project π) b' b

namespace Build.Projects

theorem pure (a : α) : Projects π (Pure.pure a) (Pure.pure a) := Call.Projects.pure a

theorem throw (e : Error) :
    Projects π (MonadExcept.throw e : Build σ' α) (MonadExcept.throw e) := Call.Projects.throw e

theorem bind {b' : Build σ' α} {b : Build σ α} {f' : α → Build σ' β} {f : α → Build σ β}
    (h : Projects π b' b) (hf : ∀ a, Projects π (f' a) (f a)) :
    Projects π (b' >>= f') (b >>= f) := Call.Projects.bind h hf

theorem throw_bind (e : Error) (f' : α → Build σ' β) (f : α → Build σ β) :
    Projects π (MonadExcept.throw e >>= f') (MonadExcept.throw e >>= f) :=
  Call.Projects.throw_bind e f' f

theorem ite {p : Prop} [Decidable p] {b' d' : Build σ' α} {b d : Build σ α}
    (hb : Projects π b' b) (hd : Projects π d' d) :
    Projects π (if p then b' else d') (if p then b else d) := Call.Projects.ite hb hd

theorem call {c' : Call σ' α} {c : Call σ α} (h : Call.Projects π c' c) :
    Projects π (Build.call c') (Build.call c) := by
  intro w
  have hc : c (Run.project π w).registry = _ := h w.registry
  unfold Build.call
  rw [hc]
  rfl

theorem report (e : Event) : Projects π (Build.report e) (Build.report e) := fun _ => rfl

theorem reportAll (es : List Event) : Projects π (Build.reportAll es) (Build.reportAll es) :=
  fun _ => rfl

theorem ofExcept (r : Except Error α) : Projects π (Build.ofExcept r) (Build.ofExcept r) :=
  fun _ => rfl

theorem reporting {b' : Build σ' α} {b : Build σ α} (h : Projects π b' b) (event : Error → Event) :
    Projects π (Build.reporting b' event) (Build.reporting b event) := by
  intro w
  unfold Build.reporting
  rw [h w]
  rcases b' w with ⟨e | a, w'⟩ <;> rfl

end Build.Projects

/-! ## What builds do -/

section

variable {r' : Registry σ'} {r : Registry σ} (h : r'.Projects π r)
include h

theorem Registry.copyBlob_projects (source target : Reference) (d : Digest) :
    Call.Projects π (r'.copyBlob source target d) (r.copyBlob source target d) := by
  unfold copyBlob
  refine .bind (h.blobExists target d) fun there => .ite (.pure ()) ?_
  refine .bind (h.mountBlob source target d) fun mounted => .ite (.pure ()) ?_
  exact .bind (h.getBlob source d) fun data => h.putBlob target d data

theorem ResolvedBase.fetch_projects (base : Reference) :
    Call.Projects π (fetch r' base) (fetch r base) := by
  unfold fetch
  refine .bind (h.getManifest base) fun raw => .ite (.throw_bind _ _ _) ?_
  dsimp only
  rcases Json.Decode.ofBytes? ImageManifest.ofJson raw.bytes with _ | manifest
  · exact .throw _
  refine .bind (h.getBlob base manifest.config.digest) fun content => ?_
  rcases Json.Decode.ofBytes? ImageConfig.ofJson content with _ | config
  · exact .throw _
  · exact .pure _

namespace PushPlan

/-- The calls of two plans, one by one, with the same bytes. -/
theorem steps_project (p : PushPlan) : List.Forall₂
    (fun s' s => Call.Projects π s'.1 s.1 ∧ s'.2 = s.2) (p.steps r') (p.steps r) := by
  unfold steps
  refine List.rel_append (List.rel_append ?_ ?_) ?_
  · cases p.baseRepository with
    | none => exact .nil
    | some source =>
      rw [List.forall₂_map_left_iff, List.forall₂_map_right_iff, List.forall₂_same]
      exact fun l _ => ⟨Registry.copyBlob_projects h source p.target l.1, rfl⟩
  · rw [List.forall₂_map_left_iff, List.forall₂_map_right_iff, List.forall₂_same]
    exact fun b _ => ⟨h.putBlob p.target b.1 b.2, rfl⟩
  · exact .cons ⟨h.putManifest p.target p.manifest, rfl⟩ .nil

omit h in
theorem runSteps_project {total complete : UInt64} {steps' : List (Call σ' Unit × UInt64)}
    {steps : List (Call σ Unit × UInt64)}
    (hsteps : List.Forall₂ (fun s' s => Call.Projects π s'.1 s.1 ∧ s'.2 = s.2) steps' steps) (s : σ') :
    runSteps total complete steps (π s) =
      ((runSteps total complete steps' s).1, π (runSteps total complete steps' s).2) := by
  induction hsteps generalizing complete s with
  | nil => rfl
  | @cons step' step _ _ hstep _ ih =>
    obtain ⟨hcall, hsize⟩ := hstep
    unfold runSteps
    rw [hcall s, ← hsize]
    rcases step'.1 s with ⟨e | _, s'⟩
    · rfl
    · dsimp only
      rw [ih]

theorem push_projects (p : PushPlan) : Build.Projects π (p.push r') (p.push r) := by
  intro w
  have hrun : runSteps p.total 0 (p.steps r) (Run.project π w).registry = _ :=
    runSteps_project (p.steps_project h) w.registry
  unfold push
  rw [hrun]
  rfl

end PushPlan

namespace Appender

theorem compose_projects (a : Appender) (base : ResolvedBase) (layers : List Layer) :
    Build.Projects π (a.compose r' base layers) (a.compose r base layers) := by
  unfold compose
  refine .bind ((a.planOf base layers _ _).push_projects h) fun _ => ?_
  refine .bind (.report _) fun _ => ?_
  exact .bind (.ofExcept _) fun _ => .pure _

theorem resolveBase_projects (a : Appender) :
    Build.Projects π (a.resolveBase r') (a.resolveBase r) := by
  unfold resolveBase
  refine .ite (.throw_bind _ _ _) ?_
  dsimp only
  rcases a.base with _ | b
  · exact .bind (.pure _) fun _ => .bind (.report _) fun _ => .pure _
  · exact .bind (.call (ResolvedBase.fetch_projects h b)) fun _ => .bind (.report _) fun _ => .pure _

theorem append_project (a : Appender) (layers : List Layer) (w : Run σ') :
    a.append r layers (Run.project π w) =
      ((a.append r' layers w).1, (a.append r' layers w).2.1,
        Run.project π (a.append r' layers w).2.2) := by
  unfold append
  rcases a.state with _ | base
  · dsimp only
    rw [a.resolveBase_projects h w]
    rcases a.resolveBase r' w with ⟨e | ⟨base, b⟩, w1⟩
    · rfl
    · dsimp only
      rw [b.compose_projects h base layers w1]
      rfl
  · dsimp only
    rw [a.compose_projects h base layers w]
    rfl

end Appender

namespace IndexAssembler

theorem selectFrom_projects (base : Reference) (m : PlatformMatcher) (position : Nat)
    (entries : List Descriptor) :
    Build.Projects π (selectFrom r' base m position entries) (selectFrom r base m position entries) := by
  induction entries generalizing position with
  | nil => exact .pure _
  | cons child rest ih =>
    unfold selectFrom
    rcases child.skipReason? m with _ | reason
    · refine .bind (.call (h.getManifest _)) fun raw => .ite (.throw_bind _ _ _) ?_
      exact .bind (.report _) fun _ => .bind (ih _) fun _ => .pure _
    · exact .bind (.report _) fun _ => ih _

theorem select_projects (base : Reference) (raw : RawManifest) (m : PlatformMatcher) :
    Build.Projects π (select r' base raw m) (select r base raw m) := by
  unfold select
  refine .bind (.ofExcept _) fun _ => .ite (.throw_bind _ _ _) ?_
  dsimp only
  rcases Json.Decode.ofBytes? ImageIndex.ofJson raw.bytes with _ | index
  · exact .throw _
  refine .bind (selectFrom_projects h base m 0 index.manifests) fun children => ?_
  rcases selectionError? base raw m children with _ | e
  · exact .pure _
  · exact .throw _

theorem LayerAppend.append_projects (each : LayerAppend) (tag : Reference) (child : SelectedChild) :
    Build.Projects π (each.append r' tag child) (each.append r tag child) := by
  intro w
  unfold LayerAppend.append
  rw [(each.appender child tag).append_project h each.layers w]

omit h in
theorem composeChildren_projects {append' : SelectedChild → Build σ' AppendResult}
    {append : SelectedChild → Build σ AppendResult}
    (happend : ∀ child, Build.Projects π (append' child) (append child))
    (children : List SelectedChild) :
    Build.Projects π (composeChildren append' children) (composeChildren append children) := by
  induction children with
  | nil => exact .pure _
  | cons child rest ih =>
    unfold composeChildren
    rcases child.composed with _ | d
    · exact .bind (.reporting (happend child) _) fun _ => .bind ih fun _ => .pure _
    · exact .throw _

theorem push_projects (a : IndexAssembler) (each : LayerAppend) (tag : Reference)
    (baseRef : String) :
    Build.Projects π (a.push r' (each.append r' tag) tag baseRef)
      (a.push r (each.append r tag) tag baseRef) := by
  unfold push
  refine .bind (composeChildren_projects (each.append_projects h tag) a.children) fun composed => ?_
  refine .bind (.call (h.putManifest _ _)) fun _ => ?_
  exact .bind (.report _) fun _ => .pure _

end IndexAssembler

namespace Build

theorem appendSingle_projects (a : Appender) (layers : List Layer) (baseRef : String) :
    Projects π (appendSingle r' a layers baseRef) (appendSingle r a layers baseRef) := by
  unfold appendSingle
  refine .bind (a.resolveBase_projects h) fun resolved => ?_
  refine .bind (fun w => ?_) fun _ => .pure _
  rw [resolved.2.append_project h layers w]

/-- A build goes the same way on two registries of which one is the other, seen through a projection
    of its state: it ends alike, reports the same, and leaves states that correspond. -/
theorem append_projects (c : BuildConfig) (layers : List Layer) :
    Projects π (append r' c layers) (append r c layers) := by
  unfold append
  refine .bind (.ofExcept _) fun tag => .bind (.ofExcept _) fun matcher => ?_
  refine .ite (.bind (.reportAll _) fun _ => appendSingle_projects h _ layers _) ?_
  refine .bind (.ofExcept _) fun base => .bind (.call (h.getManifest base)) fun raw => ?_
  refine .ite (.ite (.throw_bind _ _ _) ?_) ?_
  · refine .bind (IndexAssembler.select_projects h base raw matcher) fun assembler => ?_
    exact .bind (assembler.push_projects h _ tag _) fun _ => .pure _
  · exact .bind (.reportAll _) fun _ => appendSingle_projects h _ layers _

end Build

end

/-! ## Records -/

/-- What a build asks of a registry, as far as manifests go: those that it got, and those that it
    tried to write. -/
inductive Access where
  | read (r : Reference) (raw : RawManifest)
  | put (target : Reference) (raw : RawManifest)

/-- An entry of a record that got one more is the new one, or was there already. -/
theorem record_cases {ρ : Type} {log before after : List ρ} {x y : ρ}
    (h : log ++ [x] = before ++ y :: after) :
    (log = before ∧ x = y) ∨ ∃ rest, log = before ++ y :: rest := by
  rcases List.eq_nil_or_concat after with rfl | ⟨rest, z, rfl⟩
  · obtain ⟨hlog, hx⟩ := List.append_inj' h rfl
    exact .inl ⟨hlog, List.singleton_inj.1 hx⟩
  · rw [List.concat_eq_append, ← List.cons_append, ← List.append_assoc] at h
    exact .inr ⟨rest, (List.append_inj' h rfl).1⟩

/-- Each entry of a record is as it should be, given those before it. -/
inductive EachAfter {ρ : Type} (P : List ρ → ρ → Prop) : List ρ → Prop
  | nil : EachAfter P []
  | snoc {log : List ρ} {x : ρ} (h : EachAfter P log) (hx : P log x) : EachAfter P (log ++ [x])

theorem EachAfter.of_split {ρ : Type} {P : List ρ → ρ → Prop} {log before after : List ρ} {x : ρ}
    (h : EachAfter P log) (hlog : log = before ++ x :: after) : P before x := by
  induction h generalizing after with
  | nil => cases before <;> cases hlog
  | @snoc log last _ hlast ih =>
    rcases record_cases hlog with ⟨rfl, rfl⟩ | ⟨rest, hrest⟩
    · exact hlast
    · exact ih hrest

/-- A manifest that a registry gave, or no access. -/
def Access.ofRead (r : Reference) : Except Error RawManifest → List Access
  | .ok raw => [.read r raw]
  | .error _ => []

/-- A call that leaves a record beside the state as it is. -/
def Call.beside {ρ : Type} (c : Call σ α) : Call (σ × ρ) α := fun s =>
  ((c s.1).1, (c s.1).2, s.2)

/-- The registry with a record of accesses beside its state. -/
def Registry.recorded (r : Registry σ) : Registry (σ × List Access) where
  getManifest ref := fun s =>
    let (got, s') := r.getManifest ref s.1
    (got, s', s.2 ++ Access.ofRead ref got)
  getBlob repo d := (r.getBlob repo d).beside
  blobExists repo d := (r.blobExists repo d).beside
  putBlob repo d data := (r.putBlob repo d data).beside
  mountBlob source target d := (r.mountBlob source target d).beside
  putManifest target raw := fun s =>
    let (done, s') := r.putManifest target raw s.1
    (done, s', s.2 ++ [.put target raw])

theorem Registry.recorded_projects (r : Registry σ) : r.recorded.Projects Prod.fst r where
  getManifest _ _ := rfl
  getBlob _ _ _ := rfl
  blobExists _ _ _ := rfl
  putBlob _ _ _ _ := rfl
  mountBlob _ _ _ _ := rfl
  putManifest _ _ _ := rfl

/-- A run with a record beside its registry. -/
def Run.withRecord (w : Run σ) (log : List Access) : Run (σ × List Access) where
  registry := (w.registry, log)
  events := w.events
  clock := w.clock
  readings := w.readings

namespace Build

/-- The accesses of a build, in order. -/
def accesses (r : Registry σ) (c : BuildConfig) (layers : List Layer) (w : Run σ) : List Access :=
  (append r.recorded c layers (w.withRecord [])).2.registry.2

/-- A build on a registry that keeps a record is the build, with its accesses in the record. -/
theorem append_recorded (r : Registry σ) (c : BuildConfig) (layers : List Layer) (w : Run σ) :
    append r.recorded c layers (w.withRecord []) =
      ((append r c layers w).1, (append r c layers w).2.withRecord (accesses r c layers w)) := by
  have h : append r c layers w = _ :=
    append_projects r.recorded_projects c layers (w.withRecord [])
  rw [h]
  rfl

end Build

end OciCompose
