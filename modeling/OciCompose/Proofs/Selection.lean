import Mathlib.Data.List.Forall2
import OciCompose.Proofs.MultiPlatform
import OciCompose.Proofs.Platform
import OciCompose.Proofs.PlatformMatcher

/-
  What a selection of the children of an index comes to.
  A child is eligible if there is no reason to skip it (`skipReason?_eq_none_iff`), else it is skipped
  for the first reason that applies (`skipReason?_eq_some_iff`). Let a registry serve the manifests of
  the eligible children. Then a selection notes one child after the other, up to the first eligible one
  that is an index itself; if there is none, it notes all of them (`selectFrom_passes`), and gives the
  eligible ones if there are any and no listed platform is missing among them (`select_exact`).
-/

namespace OciCompose

open MemoryRegistry

variable {m : PlatformMatcher} {child : Descriptor}

/-! ## Attestations -/

/-- A child that is no image but attests one: its platform is unknown, and it is annotated so. -/
structure Descriptor.Attests (child : Descriptor) : Prop where
  platform : ∃ p, child.platform = some p ∧ p.IsUnknown
  annotated : ∃ annotations, child.annotations = some annotations ∧
    annotations.get? "vnd.docker.reference.type" = some "attestation-manifest"

theorem Descriptor.isAttestation_iff : child.isAttestation = true ↔ child.Attests := by
  unfold isAttestation annotation? referenceTypeKey
  rw [Bool.and_eq_true, Option.any_eq_true, beq_iff_eq, Option.bind_eq_some_iff]
  simp only [beq_iff_eq, Platform.toText_eq_unknown_iff]
  exact ⟨fun h => ⟨h.1, h.2⟩, fun h => ⟨h.platform, h.annotated⟩⟩

/-! ## Reasons -/

namespace SkipReason

/-- There is this reason to skip a child. -/
inductive Applies (m : PlatformMatcher) (child : Descriptor) : SkipReason → Prop
  | noPlatform (h : child.platform = none) : Applies m child .noPlatform
  | mediaType (h : ManifestKind.ofMediaType child.mediaType ≠ .ociManifest) :
    Applies m child (.mediaType child.mediaType)
  | attestation (h : child.Attests) :
    Applies m child (.attestation (child.annotation? referenceDigestKey))
  | platform {p : Platform} (h : child.platform = some p) (hm : ¬ m.Chooses p) :
    Applies m child (.platform p.toText)

/-- Reasons of a lower rank count first. -/
def rank : SkipReason → Nat
  | .noPlatform => 0
  | .mediaType _ => 1
  | .attestation _ => 2
  | .platform _ => 3

/-- The first reason to skip a child. -/
def First (m : PlatformMatcher) (child : Descriptor) (reason : SkipReason) : Prop :=
  reason.Applies m child ∧ ∀ other : SkipReason, other.Applies m child → reason.rank ≤ other.rank

theorem Applies.eq_of_rank {reason other : SkipReason} (h : reason.Applies m child)
    (ho : other.Applies m child) (hrank : reason.rank = other.rank) : reason = other := by
  cases h <;> cases ho <;> try cases hrank
  case noPlatform => rfl
  case mediaType => rfl
  case attestation => rfl
  case platform p hp hm q hq hmq => rw [Option.some.inj (hp.symm.trans hq)]

theorem First.unique {reason other : SkipReason} (h : reason.First m child)
    (ho : other.First m child) : reason = other :=
  h.1.eq_of_rank ho.1 (Nat.le_antisymm (h.2 other ho.1) (ho.2 reason h.1))

end SkipReason

namespace Descriptor

open SkipReason

/-- A child that a selection takes. -/
structure Eligible (child : Descriptor) (m : PlatformMatcher) : Prop where
  kind : ManifestKind.ofMediaType child.mediaType = .ociManifest
  runnable : ¬ child.Attests
  chosen : ∃ p, child.platform = some p ∧ m.Chooses p

/-- There is no reason to skip an eligible child, and only such a child. -/
theorem eligible_iff : child.Eligible m ↔ ∀ reason : SkipReason, ¬ reason.Applies m child := by
  constructor
  · rintro ⟨hkind, hrunnable, p, hp, hm⟩ reason h
    cases h with
    | noPlatform hnone => cases hp.symm.trans hnone
    | mediaType h => exact h hkind
    | attestation h => exact hrunnable h
    | platform hq hmq => exact hmq (Option.some.inj (hp.symm.trans hq) ▸ hm)
  · intro h
    refine ⟨?_, ?_, ?_⟩
    · exact Classical.not_not.1 fun hkind => h _ (.mediaType hkind)
    · exact fun hattestation => h _ (.attestation hattestation)
    · cases hp : child.platform with
      | none => exact (h _ (.noPlatform hp)).elim
      | some p => exact ⟨p, rfl, Classical.not_not.1 fun hm => h _ (.platform hp hm)⟩

theorem eligible_or_first (m : PlatformMatcher) (child : Descriptor) :
    child.skipReason? m = none ∧ child.Eligible m ∨
      ∃ reason : SkipReason, child.skipReason? m = some reason ∧ reason.First m child := by
  unfold skipReason?
  cases hp : child.platform with
  | none => exact .inr ⟨_, rfl, .noPlatform hp, fun _ _ => Nat.zero_le _⟩
  | some p =>
    have hplatform : child.platform ≠ none := by rw [hp]; exact nofun
    dsimp only
    split
    · next hkind =>
      refine .inr ⟨_, rfl, .mediaType hkind, fun other h => ?_⟩
      cases h with
      | noPlatform h => exact (hplatform h).elim
      | _ => exact Nat.le_of_ble_eq_true rfl
    next hkind =>
    split
    · next hattestation =>
      refine .inr ⟨_, rfl, .attestation (isAttestation_iff.1 hattestation), fun other h => ?_⟩
      cases h with
      | noPlatform h => exact (hplatform h).elim
      | mediaType h => exact (hkind h).elim
      | _ => exact Nat.le_of_ble_eq_true rfl
    next hattestation =>
    rw [isAttestation_iff] at hattestation
    split
    · next hm =>
      have hchoose : ¬ m.Chooses p := by
        rw [← PlatformMatcher.accepts_iff]
        simpa using hm
      refine .inr ⟨_, rfl, .platform hp hchoose, fun other h => ?_⟩
      cases h with
      | noPlatform h => exact (hplatform h).elim
      | mediaType h => exact (hkind h).elim
      | attestation h => exact (hattestation h).elim
      | platform => exact Nat.le_refl _
    next hm =>
    refine .inl ⟨rfl, Classical.not_not.1 hkind, hattestation, p, hp, ?_⟩
    rw [← PlatformMatcher.accepts_iff]
    simpa using hm

theorem skipReason?_eq_none_iff : child.skipReason? m = none ↔ child.Eligible m := by
  rcases eligible_or_first m child with ⟨hnone, heligible⟩ | ⟨reason, hsome, hfirst⟩
  · exact iff_of_true hnone heligible
  · rw [hsome]
    exact iff_of_false nofun fun h => eligible_iff.1 h reason hfirst.1

theorem skipReason?_eq_some_iff {reason : SkipReason} :
    child.skipReason? m = some reason ↔ reason.First m child := by
  rcases eligible_or_first m child with ⟨hnone, heligible⟩ | ⟨other, hsome, hfirst⟩
  · rw [hnone]
    exact iff_of_false nofun fun h => eligible_iff.1 heligible reason h.1
  · rw [hsome, Option.some.injEq]
    exact ⟨fun h => h ▸ hfirst, fun h => hfirst.unique h⟩

instance (child : Descriptor) (m : PlatformMatcher) : Decidable (child.Eligible m) :=
  decidable_of_iff _ skipReason?_eq_none_iff

end Descriptor

namespace IndexAssembler

variable {σ : Type} {r : Registry σ} {base : Reference}

/-! ## Entries -/

/-- The eligible ones of entries, which are children with their positions. -/
def eligible (m : PlatformMatcher) (entries : List (Descriptor × Nat)) : List (Descriptor × Nat) :=
  entries.filter fun e => e.1.Eligible m

/-- The eligible children of an index, each with its position. -/
def chosen (m : PlatformMatcher) (index : ImageIndex) : List (Descriptor × Nat) :=
  eligible m index.manifests.zipIdx

theorem eligible_cons_of_eligible {e : Descriptor × Nat} (es : List (Descriptor × Nat))
    (h : e.1.Eligible m) : eligible m (e :: es) = e :: eligible m es :=
  List.filter_cons_of_pos (by simpa using h)

theorem eligible_cons_of_not_eligible {e : Descriptor × Nat} (es : List (Descriptor × Nat))
    (h : ¬ e.1.Eligible m) : eligible m (e :: es) = eligible m es :=
  List.filter_cons_of_neg (by simpa using h)

/-- The platforms of a choice that no entry satisfies, in the order of the choice. -/
def missing (m : PlatformMatcher) (entries : List (Descriptor × Nat)) : List Platform :=
  m.wanted.filter fun p => ∀ e ∈ entries, ¬ ∃ q ∈ e.1.platform, p.sameTuple q = true

theorem unmatched_eq_missing (m : PlatformMatcher) (entries : List (Descriptor × Nat)) :
    m.unmatched ((entries.map (childOf base)).filterMap SelectedChild.platform) =
      missing m entries := by
  unfold PlatformMatcher.unmatched missing
  refine List.filter_congr fun p _ => ?_
  rw [Bool.eq_iff_iff, decide_eq_true_iff, Bool.not_eq_true', Bool.eq_false_iff, ne_eq,
    List.any_eq_true]
  simp only [List.filterMap_map, List.mem_filterMap, Function.comp_apply, childOf]
  constructor
  · rintro h e he ⟨q, hq, hsame⟩
    exact h ⟨q, ⟨e, he, hq⟩, hsame⟩
  · rintro h ⟨q, ⟨e, he, hq⟩, hsame⟩
    exact h e he ⟨q, hq, hsame⟩

/-- The registry serves the manifests of entries one after the other. -/
inductive Served (r : Registry σ) (base : Reference) :
    σ → List (Descriptor × Nat) → List RawManifest → σ → Prop
  | nil (s : σ) : Served r base s [] [] s
  | cons {s s' s'' : σ} {e : Descriptor × Nat} {raw : RawManifest} {es : List (Descriptor × Nat)}
      {raws : List RawManifest} (got : r.getManifest (base.withDigest e.1.digest) s = (.ok raw, s'))
      (rest : Served r base s' es raws s'') : Served r base s (e :: es) (raw :: raws) s''

/-- The first entry whose manifest is an index. -/
def firstIndex? (entries : List (Descriptor × Nat)) (raws : List RawManifest) :
    Option ((Descriptor × Nat) × RawManifest) :=
  (entries.zip raws).find? fun e => e.2.kind.isIndex

theorem firstIndex?_cons (e : Descriptor × Nat) (es : List (Descriptor × Nat)) (raw : RawManifest)
    (raws : List RawManifest) :
    firstIndex? (e :: es) (raw :: raws) =
      if raw.kind.isIndex = true then some (e, raw) else firstIndex? es raws := by
  unfold firstIndex?
  rw [List.zip_cons_cons, List.find?_cons]
  cases raw.kind.isIndex <;> rfl

/-! ## Reports -/

/-- What is reported of an entry: the first reason to skip it, or that it is selected. -/
inductive Noted (m : PlatformMatcher) : Descriptor × Nat → Event → Prop
  | skipped {d : Descriptor} {position : Nat} {reason : SkipReason} (first : reason.First m d) :
    Noted m (d, position) (.indexEntrySkipped position d.digest.toText reason)
  | selected {d : Descriptor} {position : Nat} {p : Platform} (eligible : d.Eligible m)
    (platform : d.platform = some p) :
    Noted m (d, position) (.indexEntrySelected position d.digest.toText p.toText)

/-- There is one thing to report of an entry. -/
theorem Noted.rightUnique : Relator.RightUnique (Noted m) := by
  intro e event other h ho
  cases h with
  | skipped first =>
    cases ho with
    | skipped first' => rw [first.unique first']
    | selected eligible => exact (Descriptor.eligible_iff.1 eligible _ first.1).elim
  | selected eligible platform =>
    cases ho with
    | skipped first => exact (Descriptor.eligible_iff.1 eligible _ first.1).elim
    | selected _ platform' => rw [Option.some.inj (platform.symm.trans platform')]

/-- A run goes on by one report for each entry, in order. Nothing else of it changes but the registry. -/
def Noting (m : PlatformMatcher) (entries : List (Descriptor × Nat)) (w : Run σ) (s : σ)
    (w' : Run σ) : Prop :=
  ∃ events, List.Forall₂ (Noted m) entries events ∧
    w' = { w with registry := s, events := w.events ++ events }

theorem Noting.nil (w : Run σ) (s : σ) : Noting m [] w s { w with registry := s } :=
  ⟨[], .nil, by rw [List.append_nil]⟩

theorem Noting.cons {e : Descriptor × Nat} {es : List (Descriptor × Nat)} {event : Event}
    {w w' : Run σ} {s s' : σ} (h : Noted m e event)
    (hes : Noting m es { w with registry := s, events := w.events ++ [event] } s' w') :
    Noting m (e :: es) w s' w' := by
  obtain ⟨events, hall, rfl⟩ := hes
  exact ⟨event :: events, .cons h hall, by rw [List.append_assoc]; rfl⟩

/-! ## One entry -/

section Step

variable {d : Descriptor} {ds : List Descriptor} {position : Nat} {w : Run σ}

theorem selectFrom_of_first {reason : SkipReason} (h : reason.First m d) :
    selectFrom r base m position (d :: ds) w =
      selectFrom r base m (position + 1) ds
        { w with events := w.events ++ [.indexEntrySkipped position d.digest.toText reason] } := by
  rw [selectFrom, Descriptor.skipReason?_eq_some_iff.2 h]
  rfl

variable {s : σ} {raw : RawManifest}

theorem selectFrom_of_isIndex (h : d.Eligible m)
    (got : r.getManifest (base.withDigest d.digest) w.registry = (.ok raw, s))
    (hraw : raw.kind.isIndex = true) :
    selectFrom r base m position (d :: ds) w =
      (.error (.nestedIndex (base.withDigest d.digest).toText raw.mediaType),
        { w with registry := s }) := by
  rw [selectFrom, Descriptor.skipReason?_eq_none_iff.2 h]
  dsimp only
  rw [Call.bind_apply, Build.call_eq got]
  dsimp only
  rw [if_pos hraw]
  rfl

theorem selectFrom_of_not_isIndex {p : Platform} {result : Except Error (List SelectedChild)}
    {w' : Run σ} (h : d.Eligible m) (hp : d.platform = some p)
    (got : r.getManifest (base.withDigest d.digest) w.registry = (.ok raw, s))
    (hraw : raw.kind.isIndex = false)
    (hrest : selectFrom r base m (position + 1) ds
      { w with
        registry := s
        events := w.events ++ [.indexEntrySelected position d.digest.toText p.toText] } =
      (result, w')) :
    selectFrom r base m position (d :: ds) w =
      (result.map (childOf base (d, position) :: ·), w') := by
  rw [selectFrom, Descriptor.skipReason?_eq_none_iff.2 h, hp]
  dsimp only
  rw [Call.bind_apply, Build.call_eq got]
  dsimp only
  rw [hraw, if_neg Bool.false_ne_true]
  show ((do
    let selected ← selectFrom r base m (position + 1) ds
    return { base := base.withDigest d.digest, position, platform := some p } :: selected) :
      Build σ (List SelectedChild)) _ = _
  simp only [Call.bind_apply, Option.map_some, Option.getD_some, hrest]
  cases result with
  | error e => rfl
  | ok children => rw [Except.map, childOf, hp]; rfl

end Step

/-! ## All entries -/

/-- What going through entries comes to, by the manifests `reads` of the eligible ones: the first of
    these that is an index ends it, and if there is none, the eligible entries become children. -/
inductive Passes (base : Reference) (m : PlatformMatcher) (entries : List (Descriptor × Nat))
    (reads : List RawManifest) (s : σ) (w : Run σ) :
    Except Error (List SelectedChild) → Run σ → Prop
  | stopped {d : Descriptor} {i : Nat} {nested : RawManifest} {before after : List (Descriptor × Nat)}
    {s' : σ} {w' : Run σ} (first : firstIndex? (eligible m entries) reads = some ((d, i), nested))
    (split : entries = before ++ (d, i) :: after) (noting : Noting m before w s' w') :
    Passes base m entries reads s w
      (.error (.nestedIndex (base.withDigest d.digest).toText nested.mediaType)) w'
  | all {w' : Run σ} (images : firstIndex? (eligible m entries) reads = none)
    (noting : Noting m entries w s w') :
    Passes base m entries reads s w (.ok ((eligible m entries).map (childOf base))) w'

section Run

variable {e : Descriptor × Nat} {es : List (Descriptor × Nat)} {event : Event} {raw : RawManifest}
  {reads : List RawManifest} {s s' : σ} {w w' : Run σ} {result : Except Error (List SelectedChild)}

theorem Passes.skipped (he : ¬ e.1.Eligible m) (hnoted : Noted m e event)
    (h : Passes base m es reads s { w with events := w.events ++ [event] } result w') :
    Passes base m (e :: es) reads s w result w' := by
  have heq := eligible_cons_of_not_eligible es he
  cases h with
  | stopped first split noting =>
    exact .stopped (heq ▸ first) (congrArg (e :: ·) split) (.cons hnoted noting)
  | all images noting =>
    rw [← heq]
    exact .all (heq ▸ images) (.cons hnoted noting)

theorem Passes.taken (he : e.1.Eligible m) (hraw : raw.kind.isIndex = false)
    (hnoted : Noted m e event)
    (h : Passes base m es reads s { w with registry := s', events := w.events ++ [event] }
      result w') :
    Passes base m (e :: es) (raw :: reads) s w (result.map (childOf base e :: ·)) w' := by
  have heq := eligible_cons_of_eligible es he
  have hfirst : firstIndex? (eligible m (e :: es)) (raw :: reads) =
      firstIndex? (eligible m es) reads := by
    rw [heq, firstIndex?_cons, hraw, if_neg Bool.false_ne_true]
  cases h with
  | stopped first split noting =>
    exact .stopped (hfirst.trans first) (congrArg (e :: ·) split) (.cons hnoted noting)
  | all images noting =>
    rw [Except.map, ← List.map_cons (f := childOf base), ← heq]
    exact .all (hfirst.trans images) (.cons hnoted noting)

theorem selectFrom_passes (ds : List Descriptor) (position : Nat) (w : Run σ)
    (reads : List RawManifest)
    (hserved : Served r base w.registry (eligible m (ds.zipIdx position)) reads s) :
    ∃ result w', selectFrom r base m position ds w = (result, w') ∧
      Passes base m (ds.zipIdx position) reads s w result w' := by
  induction ds generalizing position w reads with
  | nil =>
    cases hserved
    exact ⟨_, w, rfl, .all rfl (.nil w _)⟩
  | cons d ds ih =>
    rw [List.zipIdx_cons] at hserved ⊢
    rcases d.eligible_or_first m with ⟨-, hd⟩ | ⟨reason, -, hfirst⟩
    · rw [eligible_cons_of_eligible _ hd] at hserved
      obtain ⟨p, hp, -⟩ := hd.chosen
      cases hserved with
      | @cons _ s' _ _ raw _ raws got rest =>
      cases hraw : raw.kind.isIndex with
      | true =>
        refine ⟨_, _, selectFrom_of_isIndex hd got hraw, .stopped ?_ rfl (.nil w s')⟩
        rw [eligible_cons_of_eligible _ hd, firstIndex?_cons, if_pos hraw]
      | false =>
        obtain ⟨result, w', hselect, hpasses⟩ := ih (position + 1)
          { w with
            registry := s'
            events := w.events ++ [.indexEntrySelected position d.digest.toText p.toText] } raws rest
        exact ⟨_, w', selectFrom_of_not_isIndex hd hp got hraw hselect,
          .taken hd hraw (.selected hd hp) hpasses⟩
    · have hd : ¬ d.Eligible m := fun h => Descriptor.eligible_iff.1 h reason hfirst.1
      rw [eligible_cons_of_not_eligible _ hd] at hserved
      obtain ⟨result, w', hselect, hpasses⟩ := ih (position + 1)
        { w with events := w.events ++ [.indexEntrySkipped position d.digest.toText reason] }
        reads hserved
      exact ⟨result, w', (selectFrom_of_first hfirst).trans hselect,
        .skipped hd (.skipped hfirst) hpasses⟩

end Run

/-! ## Selection -/

/-- What a selection comes to if no eligible child of an index is an index: `result` is what it gives,
    `w'` the run after it. Each error and each value is given just then, and in no other case. -/
structure Completes (base : Reference) (raw : RawManifest) (m : PlatformMatcher) (index : ImageIndex)
    (w : Run σ) (s : σ) (result : Except Error IndexAssembler) (w' : Run σ) : Prop where
  noted : Noting m index.manifests.zipIdx w s w'
  noneSelected : ∀ text content, result = .error (.noPlatformSelected text content) ↔
    chosen m index = [] ∧ text = base.toText ∧ content = raw.text
  unmatched : ∀ text selected configured platforms content,
    result = .error (.unmatchedPlatforms text selected configured platforms content) ↔
      (chosen m index ≠ [] ∧ missing m (chosen m index) ≠ []) ∧
      text = base.toText ∧ selected = (chosen m index).length ∧ configured = m.wanted.length ∧
      platforms = (missing m (chosen m index)).map Platform.toText ∧ content = raw.text
  selected : ∀ a, result = .ok a ↔
    (chosen m index ≠ [] ∧ missing m (chosen m index) = []) ∧
    a = { base, raw, canvas := { index with manifests := [] },
          children := (chosen m index).map (childOf base) }

section Select

variable {raw : RawManifest} {index : ImageIndex} {reads : List RawManifest} {s : σ} {w : Run σ}

theorem select_eq (hpinned : base.digest.isSome = true) (hkind : raw.kind = .ociIndex)
    (hdecode : Json.Decode.ofBytes? ImageIndex.ofJson raw.bytes = some index) :
    select r base raw m w =
      match selectFrom r base m 0 index.manifests w with
      | (.error e, w') => (.error e, w')
      | (.ok children, w') =>
        match selectionError? base raw m children with
        | some e => (.error e, w')
        | none => (.ok { base, raw, canvas := index.withoutManifests, children }, w') := by
  have hrequire : requirePinned base = .ok () := if_pos hpinned
  unfold select
  rw [hrequire, hdecode, Call.bind_apply]
  simp only [Build.ofExcept, hkind, ne_eq, not_true_eq_false, if_false]
  rw [Call.bind_apply]
  rcases selectFrom r base m 0 index.manifests w with ⟨e | children, w'⟩
  · rfl
  · dsimp only
    cases selectionError? base raw m children <;> rfl

theorem selectionError?_chosen (base : Reference) (raw : RawManifest) (m : PlatformMatcher)
    (entries : List (Descriptor × Nat)) :
    selectionError? base raw m (entries.map (childOf base)) =
      if entries = [] then some (.noPlatformSelected base.toText raw.text)
      else if missing m entries = [] then none
      else some (.unmatchedPlatforms base.toText entries.length m.wanted.length
        ((missing m entries).map Platform.toText) raw.text) := by
  unfold selectionError?
  rw [unmatched_eq_missing]
  simp only [List.isEmpty_iff, List.map_eq_nil_iff, List.length_map]

theorem Completes.of_noting {w' : Run σ} (h : Noting m index.manifests.zipIdx w s w') :
    Completes base raw m index w s
      (match selectionError? base raw m ((chosen m index).map (childOf base)) with
      | some e => .error e
      | none => .ok { base, raw, canvas := index.withoutManifests,
                      children := (chosen m index).map (childOf base) }) w' := by
  rw [selectionError?_chosen]
  by_cases hempty : chosen m index = []
  · rw [if_pos hempty]
    refine ⟨h, ?_, ?_, ?_⟩
    · simp [hempty, eq_comm]
    · simp [hempty]
    · simp [hempty]
  rw [if_neg hempty]
  by_cases hmissing : missing m (chosen m index) = []
  · rw [if_pos hmissing]
    refine ⟨h, ?_, ?_, ?_⟩
    · simp [hempty]
    · simp [hmissing]
    · simp [hempty, hmissing, eq_comm, ImageIndex.withoutManifests]
  · rw [if_neg hmissing]
    refine ⟨h, ?_, ?_, ?_⟩
    · simp [hempty]
    · simp [hempty, hmissing, eq_comm]
    · simp [hmissing]

/-- Let a registry serve the eligible children of a pinned index. A selection notes one child after the
    other and stops at the first eligible one that is an index. If there is none, it fails just if no
    child is eligible or a listed platform is missing, and else gives the eligible children. -/
theorem select_exact (hpinned : base.digest.isSome = true) (hkind : raw.kind = .ociIndex)
    (hdecode : Json.Decode.ofBytes? ImageIndex.ofJson raw.bytes = some index)
    (hserved : Served r base w.registry (chosen m index) reads s) :
    (∀ d i child, firstIndex? (chosen m index) reads = some ((d, i), child) →
      ∃ before after s' w', index.manifests.zipIdx = before ++ (d, i) :: after ∧
        Noting m before w s' w' ∧
        select r base raw m w =
          (.error (.nestedIndex (base.withDigest d.digest).toText child.mediaType), w')) ∧
    (firstIndex? (chosen m index) reads = none →
      ∃ result w', select r base raw m w = (result, w') ∧
        Completes base raw m index w s result w') := by
  obtain ⟨result, w', hselect, hpasses⟩ := selectFrom_passes index.manifests 0 w reads hserved
  rw [select_eq hpinned hkind hdecode, hselect]
  constructor
  · intro d i child hfirst
    cases hpasses with
    | stopped first split noting =>
      cases first.symm.trans hfirst
      exact ⟨_, _, _, w', split, noting, rfl⟩
    | all images noting => cases images.symm.trans hfirst
  · intro hnone
    cases hpasses with
    | stopped first split noting => cases first.symm.trans hnone
    | all images noting =>
      refine ⟨_, w', ?_, Completes.of_noting noting⟩
      change (match selectionError? base raw m ((chosen m index).map (childOf base)) with
        | some e => _
        | none => _) = _
      cases selectionError? base raw m ((chosen m index).map (childOf base)) <;> rfl

end Select

end IndexAssembler

namespace TwoChildren

open IndexAssembler

theorem chosen_wanted : chosen wanted index = [(entry (digit '1' rfl) "l", 0)] := by decide +kernel

theorem served_wanted : Served registry base stored (chosen wanted index) [rawImage] stored := by
  rw [chosen_wanted]
  exact .cons rfl (.nil stored)

/-- One child is selected, one has another platform, and one attests. -/
theorem noted_wanted : List.Forall₂ (Noted wanted) index.manifests.zipIdx
    [.indexEntrySelected 0 "x:1" "l", .indexEntrySkipped 1 "x:2" (.platform "w"),
      .indexEntrySkipped 2 "x:5" (.attestation (some "x:1"))] := by
  have h1 : (digit '1' rfl).toText = "x:1" := by rfl
  have h2 : (digit '2' rfl).toText = "x:2" := by rfl
  have h5 : (digit '5' rfl).toText = "x:5" := by rfl
  have hl : ({ os := "l" } : Platform).toText = "l" := by rfl
  rw [← h1, ← h2, ← h5, ← hl]
  refine .cons (.selected ?_ rfl) (.cons (.skipped ?_) (.cons (.skipped ?_) .nil))
  · exact Descriptor.skipReason?_eq_none_iff.1 (by decide +kernel)
  · exact Descriptor.skipReason?_eq_some_iff.1 (by decide +kernel)
  · exact Descriptor.skipReason?_eq_some_iff.1 (by decide +kernel)

/-- One child is selected and two are skipped, all of which is reported. -/
theorem select_exact_wanted : Served registry base stored (chosen wanted index) [rawImage] stored ∧
    ∃ w', select registry base rawIndex wanted start = (.ok (assembler [first]), w') ∧
      w'.registry = stored ∧
      w'.events = [.indexEntrySelected 0 "x:1" "l", .indexEntrySkipped 1 "x:2" (.platform "w"),
        .indexEntrySkipped 2 "x:5" (.attestation (some "x:1"))] := by
  obtain ⟨-, hcompletes⟩ := select_exact (w := start) rfl rfl decode_index served_wanted
  have hnone : firstIndex? (chosen wanted index) [rawImage] = none := by
    rw [chosen_wanted]
    rfl
  obtain ⟨result, w', hselect, h⟩ := hcompletes hnone
  have hresult : result = .ok (assembler [first]) := by
    rw [h.selected, chosen_wanted]
    refine ⟨⟨nofun, ?_⟩, rfl⟩
    decide +kernel
  obtain ⟨events, hall, hw'⟩ := h.noted
  obtain rfl := List.right_unique_forall₂' Noted.rightUnique hall noted_wanted
  exact ⟨served_wanted, w', hresult ▸ hselect, by rw [hw'], by rw [hw']; rfl⟩

end TwoChildren

end OciCompose
