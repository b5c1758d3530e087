import OciCompose.Proofs.Appending
import OciCompose.Proofs.Build
import OciCompose.Proofs.Manifest
import OciCompose.Proofs.Origin
import OciCompose.Proofs.Projection

/-
  The media types that manifests are stored under, and those that they declare.
  Every manifest that a build writes is accounted for by what it read before (`Accounted`): an index is
  stored as what it declares, and an image as its base was stored, with the type that its base
  declares and layers in the dialect of the stored type. So an image is stored as what it declares if
  and only if its base is (`dialects_of_append`); nothing compares the two.
-/

namespace OciCompose

open Json

namespace RawManifest

/-- The media type that a manifest declares in its text. -/
def declared? (raw : RawManifest) : Option String :=
  (Raw.ofBytes? raw.bytes).bind fun r => (r.member? "mediaType").bind (Decode.text 0)

/-- The manifest is stored as what it declares, if it declares anything. -/
def Honest (raw : RawManifest) : Prop := ∀ t, raw.declared? = some t → raw.mediaType = t

end RawManifest

/-! ## Declared media types -/

/-- A media type that was read is the one that is declared. Null is as good as none. -/
theorem declared_of_optional {known : List String} {room room' : Nat} {r : Raw}
    {ms : List (String × Raw)} {o : Option String}
    (hms : Decode.members known room r = some (room', ms))
    (h : Decode.defaulted ms room' "mediaType" (Decode.optional Decode.text) none = some o) :
    (r.member? "mediaType").bind (Decode.text 0) = o := by
  unfold Decode.defaulted at h
  rw [Decode.lookup_members hms] at h
  cases hr : r.member? "mediaType" with
  | none =>
    rw [hr] at h
    exact Option.some.inj h
  | some x =>
    rw [hr] at h
    cases x with
    | null =>
      cases h
      rfl
    | string s =>
      obtain ⟨t, ht, rfl⟩ := Option.map_eq_some_iff.1 h
      exact ht
    | bool _ | number _ | array _ | object _ => cases h

theorem lookup_others {known : List String} {ms : List (String × Raw)} {room : Nat}
    {extra : SortedMap Value} (h : Decode.others known ms room = some extra) {k : String}
    (hk : k ∈ known) : extra.toList.lookup k = none := by
  rw [List.lookup_eq_none_iff]
  intro m hm
  rw [bne_iff_ne]
  rintro rfl
  exact (mem_others h hm).1 hk

/-- A text declares the media type that is written into it. -/
theorem declared?_object {before after : List (String × Value)} {o : Option String}
    (hbefore : before.lookup "mediaType" = none) (hafter : after.lookup "mediaType" = none)
    (t : String) :
    (RawManifest.mk t
      (Value.object (before ++ given "mediaType" (o.map .string) ++ after)).bytes).declared? = o := by
  unfold RawManifest.declared?
  rw [ofBytes?_bytes, Option.bind_some, member?_reading, List.lookup_append, List.lookup_append,
    hbefore, hafter]
  cases o <;> rfl

/-- An image that was read has the media type that its text declares, and passes on no other. -/
theorem ImageManifest.declared_of_ofBytes? {raw : RawManifest} {i : ImageManifest}
    (h : Decode.ofBytes? ofJson raw.bytes = some i) :
    raw.declared? = i.mediaType ∧ i.extra.toList.lookup "mediaType" = none := by
  obtain ⟨r, hr, h⟩ := Option.bind_eq_some_iff.1 h
  simp only [ofJson, bind, Option.bind_eq_some_iff, Option.some.injEq] at h
  obtain ⟨⟨room', ms⟩, hms, schemaVersion, -, mediaType, hmediaType, config, -, layers, -,
    annotations, -, extra, hextra, rfl⟩ := h
  refine ⟨?_, lookup_others hextra (by decide)⟩
  unfold RawManifest.declared?
  rw [hr]
  exact declared_of_optional hms hmediaType

theorem ImageManifest.declared?_bytes {i : ImageManifest}
    (h : i.extra.toList.lookup "mediaType" = none) (t : String) :
    (RawManifest.mk t i.bytes).declared? = i.mediaType := by
  unfold bytes toJson
  rw [List.append_assoc, List.append_assoc]
  refine declared?_object rfl ?_ t
  cases i.annotations <;> exact h

theorem ImageIndex.lookup_of_ofBytes? {bytes : Bytes} {i : ImageIndex}
    (h : Decode.ofBytes? ofJson bytes = some i) : i.extra.toList.lookup "mediaType" = none := by
  obtain ⟨r, -, h⟩ := Option.bind_eq_some_iff.1 h
  simp only [ofJson, bind, Option.bind_eq_some_iff, Option.some.injEq] at h
  obtain ⟨⟨room', ms⟩, -, schemaVersion, -, mediaType, -, manifests, -, annotations, -, extra,
    hextra, rfl⟩ := h
  exact lookup_others hextra (by decide)

/-- An index is pushed as what it declares. -/
theorem ImageIndex.honest_snapshot {i : ImageIndex}
    (h : i.extra.toList.lookup "mediaType" = none) : i.snapshot.Honest := by
  have hdeclared : i.snapshot.declared? = i.mediaType := by
    unfold snapshot bytes toJson
    rw [List.append_assoc, List.append_assoc]
    refine declared?_object rfl ?_ _
    cases i.annotations <;> exact h
  intro t ht
  rw [hdeclared] at ht
  unfold snapshot
  rw [ht]
  rfl

/-! ## What is composed -/

/-- An image that layers were appended to: it is stored as its base was, declares what its base
    declares, and its new layers are in the dialect of the stored type. -/
structure ComposedFrom (layers : List Layer) (base raw : RawManifest) : Prop where
  mediaType : raw.mediaType = base.mediaType
  declared : raw.declared? = base.declared?
  appended : ∃ i j : ImageManifest, Decode.ofBytes? ImageManifest.ofJson base.bytes = some i ∧
    raw.bytes = j.bytes ∧
    j.layers = i.layers ++ layers.map fun l => l.descriptor raw.kind.layerMediaType

theorem ComposedFrom.honest_iff {layers : List Layer} {base raw : RawManifest}
    (h : ComposedFrom layers base raw) : raw.Honest ↔ base.Honest := by
  unfold RawManifest.Honest
  rw [h.mediaType, h.declared]

/-- A base as it was read: its manifest is what its text says, its dialect that of its type. -/
structure ResolvedBase.IsRead (base : ResolvedBase) : Prop where
  manifest : Decode.ofBytes? ImageManifest.ofJson base.raw.bytes = some base.manifest
  kind : base.kind = base.raw.kind

theorem ResolvedBase.isRead_empty : empty.IsRead where
  manifest := by
    rw [bytes_empty]
    exact keeps_empty.ofBytes?
  kind := rfl

theorem ResolvedBase.honest_empty : empty.raw.Honest := by
  intro t ht
  rw [(ImageManifest.declared_of_ofBytes? isRead_empty.manifest).1] at ht
  exact Option.some.inj ht

theorem Appender.composedFrom_rawOf (a : Appender) {base : ResolvedBase} (h : base.IsRead)
    (layers : List Layer) : ComposedFrom layers base.raw (a.rawOf base layers) where
  mediaType := a.mediaType_rawOf base layers
  declared := by
    obtain ⟨hdeclared, hextra⟩ := ImageManifest.declared_of_ofBytes? h.manifest
    have hpassed : (a.imageOf base layers).extra.toList.lookup "mediaType" = none := hextra
    have hmediaType : (a.imageOf base layers).mediaType = base.manifest.mediaType := rfl
    rw [hdeclared, ← hmediaType]
    unfold rawOf
    exact ImageManifest.declared?_bytes hpassed base.mediaType
  appended := by
    have hkind : (a.rawOf base layers).kind = base.kind := by
      rw [h.kind]
      unfold RawManifest.kind
      rw [mediaType_rawOf]
    refine ⟨base.manifest, a.imageOf base layers, h.manifest, a.bytes_rawOf base layers, ?_⟩
    rw [hkind]
    exact a.layers_imageOf base layers

/-! ## Accounts -/

/-- A configuration that names a base. -/
def BuildConfig.NamesBase (c : BuildConfig) : Prop := Text.trimChars c.base.toList ≠ []

/-- A base that a build had: one that it read before, or the empty one if it names none. -/
def HadBase (named : Prop) (log : List Access) (base : RawManifest) : Prop :=
  (∃ r, .read r base ∈ log) ∨ ¬ named ∧ base = ResolvedBase.empty.raw

/-- What accounts for an access after others, if layers are appended: a manifest that is written is
    composed from a base that the build had, or is an index that is stored as what it declares. -/
def AccountsFor (named : Prop) (layers : List Layer) (before : List Access) : Access → Prop
  | .read _ _ => True
  | .put _ raw =>
    (∃ base, HadBase named before base ∧ ComposedFrom layers base raw) ∨
      (∃ i : ImageIndex, raw = i.snapshot) ∧ raw.Honest

/-- The accesses of a build that appends layers, so far. -/
abbrev Accounted (named : Prop) (layers : List Layer) : List Access → Prop :=
  EachAfter (AccountsFor named layers)

namespace Accounted

variable {named : Prop} {layers : List Layer} {log : List Access}

theorem read (h : Accounted named layers log) (r : Reference) (raw : RawManifest) :
    Accounted named layers (log ++ [.read r raw]) := h.snoc trivial

theorem image (h : Accounted named layers log) {target : Reference} {base raw : RawManifest}
    (had : HadBase named log base) (composed : ComposedFrom layers base raw) :
    Accounted named layers (log ++ [.put target raw]) := h.snoc (.inl ⟨base, had, composed⟩)

theorem index (h : Accounted named layers log) {target : Reference} {i : ImageIndex}
    (honest : i.snapshot.Honest) : Accounted named layers (log ++ [.put target i.snapshot]) :=
  h.snoc (.inr ⟨⟨i, rfl⟩, honest⟩)

end Accounted

/-! ## The accounts of a build -/

section Builds

variable {σ : Type} {r : Registry σ} {named : Prop} {layers : List Layer}

theorem recorded_getManifest (ref : Reference) (s : σ × List Access) :
    (r.recorded.getManifest ref).Ends s (fun raw s' => s'.2 = s.2 ++ [.read ref raw])
      fun _ s' => s'.2 = s.2 := by
  have hcall : r.recorded.getManifest ref s = ((r.getManifest ref s.1).1, (r.getManifest ref s.1).2,
      s.2 ++ Access.ofRead ref (r.getManifest ref s.1).1) := rfl
  unfold Call.Ends
  rw [hcall]
  rcases r.getManifest ref s.1 with ⟨e | raw, s'⟩
  · exact List.append_nil s.2
  · rfl

theorem beside_ends {α : Type} (c : Call σ α) (s : σ × List Access) :
    c.beside.Ends s (fun _ s' => s'.2 = s.2) fun _ s' => s'.2 = s.2 := by
  unfold Call.Ends Call.beside
  rcases c s.1 with ⟨e | a, s'⟩ <;> rfl

theorem recorded_putManifest (target : Reference) (raw : RawManifest) (s : σ × List Access) :
    (r.recorded.putManifest target raw).Ends s (fun _ s' => s'.2 = s.2 ++ [.put target raw])
      fun _ s' => s'.2 = s.2 ++ [.put target raw] := by
  have hcall : r.recorded.putManifest target raw s = ((r.putManifest target raw s.1).1,
      (r.putManifest target raw s.1).2, s.2 ++ [.put target raw]) := rfl
  unfold Call.Ends
  rw [hcall]
  rcases r.putManifest target raw s.1 with ⟨e | _, s'⟩ <;> rfl

/-- Making a blob available is no access to a manifest. -/
theorem recorded_copyBlob (source target : Reference) (d : Digest) (s : σ × List Access) :
    (r.recorded.copyBlob source target d).Ends s (fun _ s' => s'.2 = s.2) fun _ s' => s'.2 = s.2 := by
  unfold Registry.copyBlob
  refine (beside_ends (r.blobExists target d) s).bind fun there s1 h1 => ?_
  split
  · exact Call.Ends.pure h1
  refine Call.Ends.bind (Q := fun _ s' => s'.2 = s.2) ?_ fun mounted s2 h2 => ?_
  · rw [← h1]
    exact beside_ends (r.mountBlob source target d) s1
  split
  · exact Call.Ends.pure h2
  refine Call.Ends.bind (Q := fun _ s' => s'.2 = s.2) ?_ fun data s3 h3 => ?_
  · rw [← h2]
    exact beside_ends (r.getBlob source d) s2
  · rw [← h3]
    exact beside_ends (r.putBlob target d data) s3

theorem sequence_recorded {calls : List (Call (σ × List Access) Unit)}
    (h : ∀ c ∈ calls, ∀ s, c.Ends s (fun _ s' => s'.2 = s.2) fun _ s' => s'.2 = s.2)
    (s : σ × List Access) :
    (Call.sequence calls).Ends s (fun _ s' => s'.2 = s.2) fun _ s' => s'.2 = s.2 := by
  induction calls generalizing s with
  | nil => exact Call.Ends.pure rfl
  | cons c cs ih =>
    refine Call.Ends.bind (h c List.mem_cons_self s) fun _ s1 h1 => ?_
    rw [← h1]
    exact ih (fun d hd => h d (List.mem_cons_of_mem c hd)) s1

/-- A push that succeeds has written its manifest; one that fails has at most tried to. -/
theorem recorded_push (p : PushPlan) (w : Run (σ × List Access)) :
    (p.push r.recorded).Ends w
      (fun _ s' => s'.2 = w.registry.2 ++ [.put p.target p.manifest])
      fun _ s' => s'.2 = w.registry.2 ∨ s'.2 = w.registry.2 ++ [.put p.target p.manifest] := by
  have hkeep : ∀ c ∈ p.blobCalls r.recorded,
      ∀ s, c.Ends s (fun _ s' => s'.2 = s.2) fun _ s' => s'.2 = s.2 := by
    intro c hc s
    rcases List.mem_append.1 hc with hc | hc
    · obtain ⟨source, -, l, -, rfl⟩ := PushPlan.mem_copies hc
      exact recorded_copyBlob source p.target l.1 s
    · obtain ⟨b, -, rfl⟩ := List.mem_map.1 hc
      exact beside_ends _ s
  rw [PushPlan.ends_push_iff, PushPlan.calls]
  unfold Call.Ends
  rw [Call.sequence_append]
  refine Call.Ends.bind ((sequence_recorded hkeep w.registry).mono (fun _ _ h => h)
    fun _ _ h => .inl h) ?_
  intro _ s1 h1
  rw [← h1]
  refine Call.Ends.bind ((recorded_putManifest p.target p.manifest s1).mono (fun _ _ h => h)
    fun _ _ h => .inr h) fun _ _ h => ?_
  exact Call.Ends.pure h

theorem recorded_fetch (b : Reference) {s : σ × List Access} (hs : Accounted named layers s.2) :
    (ResolvedBase.fetch r.recorded b).Ends s
      (fun base s' => Accounted named layers s'.2 ∧ HadBase named s'.2 base.raw ∧ base.IsRead)
      fun _ s' => Accounted named layers s'.2 := by
  refine Appender.fetch_of_reads
    (R := fun raw s' => Accounted named layers s'.2 ∧ HadBase named s'.2 raw)
    ((recorded_getManifest b s).mono (fun raw s' h => ?_) fun _ _ h => h ▸ hs) (fun _ _ h => h.1) ?_
  · rw [h]
    exact ⟨hs.read b raw, .inl ⟨b, List.mem_append_right _ List.mem_cons_self⟩⟩
  · rintro raw manifest s1 ⟨hlog, hhad⟩ hmanifest
    refine (beside_ends _ s1).mono (fun content s2 h2 => ?_) fun _ _ h2 => h2 ▸ hlog
    rw [h2]
    refine ⟨hlog, ?_⟩
    rintro base rfl hkind rfl -
    exact ⟨hlog, hhad, hmanifest, hkind⟩

theorem recorded_resolveBase (a : Appender) (ha : a.base = none → ¬ named)
    {w : Run (σ × List Access)} (hw : Accounted named layers w.registry.2) :
    (a.resolveBase r.recorded).Ends w
      (fun b s' => Accounted named layers s'.2 ∧ HadBase named s'.2 b.1.raw ∧ b.1.IsRead ∧
        b.2.state = some b.1)
      fun _ s' => Accounted named layers s'.2 := by
  refine (a.resolveBase_of_base
    (P := fun base s' => Accounted named layers s'.2 ∧ HadBase named s'.2 base.raw ∧ base.IsRead)
    (F := fun _ s' => Accounted named layers s'.2) (fun _ => hw) ?_ fun b _ => recorded_fetch b hw).mono
    ?_ fun _ _ h => h
  · exact fun hbase => ⟨hw, .inr ⟨ha hbase, rfl⟩, ResolvedBase.isRead_empty⟩
  · rintro b s' ⟨⟨hlog, hhad, hread⟩, hb⟩
    exact ⟨hlog, hhad, hread, by rw [hb]⟩

/-- The last access wrote the manifest of a digest and a media type. -/
def EndsIn (log : List Access) (d : Digest) (mediaType : String) : Prop :=
  ∃ before target raw, log = before ++ [.put target raw] ∧ raw.digest = d ∧
    raw.mediaType = mediaType

theorem recorded_compose (a : Appender) {base : ResolvedBase} (hbase : base.IsRead)
    {w : Run (σ × List Access)} (hw : Accounted named layers w.registry.2)
    (hhad : HadBase named w.registry.2 base.raw) :
    (a.compose r.recorded base layers).Ends w
      (fun result s' => result = a.resultOf base layers ∧ Accounted named layers s'.2 ∧
        EndsIn s'.2 result.hash base.mediaType)
      fun _ s' => Accounted named layers s'.2 := by
  have hput : Accounted named layers
      (w.registry.2 ++ [.put (a.plan base layers).target (a.plan base layers).manifest]) := by
    rw [a.manifest_plan]
    exact hw.image hhad (a.composedFrom_rawOf hbase layers)
  refine (a.compose_ends_of_push base layers ((recorded_push (a.plan base layers) w).mono
    (fun _ _ h => h) ?_)).mono ?_ fun _ _ h => h
  · rintro _ s' (h | h)
    · exact h ▸ hw
    · exact h ▸ hput
  · rintro result s' ⟨rfl, h⟩
    refine ⟨rfl, h ▸ hput, _, _, _, h, ?_, ?_⟩
    · rw [a.manifest_plan, a.hash_resultOf]
    · rw [a.manifest_plan, a.mediaType_rawOf]
      rfl

/-- An appender that does not know its base. -/
theorem recorded_run (a : Appender) (ha : a.state = none) (hbase : a.base = none → ¬ named)
    {w : Run (σ × List Access)} (hw : Accounted named layers w.registry.2) :
    (a.run r.recorded layers).Ends w (fun _ s' => Accounted named layers s'.2)
      fun _ s' => Accounted named layers s'.2 := by
  rw [a.run_of_unresolved r.recorded layers ha]
  refine Build.Ends.bind (recorded_resolveBase a hbase hw) ?_
  rintro ⟨base, b⟩ w1 ⟨hacc, hhad, hread, -⟩
  exact (recorded_compose b hread hacc hhad).mono (fun _ _ h => h.2.1) fun _ _ h => h

namespace IndexAssembler

theorem recorded_select (base : Reference) (raw : RawManifest) (m : PlatformMatcher)
    {w : Run (σ × List Access)} (hw : Accounted named layers w.registry.2) :
    (select r.recorded base raw m).Ends w
      (fun a s' => Accounted named layers s'.2 ∧ a.canvas.extra.toList.lookup "mediaType" = none)
      fun _ s' => Accounted named layers s'.2 := by
  refine (select_of_reads (I := fun s' => Accounted named layers s'.2) (C := fun _ => True)
    (fun _ h => h) (fun ref s hs => ?_) base raw m hw).mono ?_ fun _ _ h => h
  · exact (recorded_getManifest ref s).mono
      (fun raw _ h => ⟨h ▸ hs.read ref raw, fun _ => trivial⟩) fun _ _ h => h ▸ hs
  · rintro _ s' ⟨hs', -, -, ⟨index, hread, rfl⟩, -⟩
    have hextra := ImageIndex.lookup_of_ofBytes? hread
    exact ⟨hs', hextra⟩

theorem recorded_composeChildren (each : LayerAppend) (heach : each.layers = layers)
    (tag : Reference) (children : List SelectedChild) {w : Run (σ × List Access)}
    (hw : Accounted named layers w.registry.2) :
    (composeChildren (each.append r.recorded tag) children).Ends w
      (fun _ s' => Accounted named layers s'.2) fun _ s' => Accounted named layers s'.2 := by
  induction children generalizing w with
  | nil => exact Build.Ends.pure hw
  | cons child rest ih =>
    unfold composeChildren
    split
    · exact Build.Ends.throw hw
    have hchild : Build.Ends (each.append r.recorded tag child) w
        (fun _ s' => Accounted named layers s'.2) fun _ s' => Accounted named layers s'.2 := by
      rw [← heach] at hw ⊢
      exact recorded_run (each.appender child tag) rfl nofun hw
    refine Build.Ends.bind (Build.Ends.reporting hchild) ?_
    intro result w1 h1
    exact Build.Ends.bind (ih h1) fun _ _ h => Build.Ends.pure h

theorem recorded_push (a : IndexAssembler)
    (hcanvas : a.canvas.extra.toList.lookup "mediaType" = none) (each : LayerAppend)
    (heach : each.layers = layers) (tag : Reference) (baseRef : String)
    {w : Run (σ × List Access)} (hw : Accounted named layers w.registry.2) :
    (a.push r.recorded (each.append r.recorded tag) tag baseRef).Ends w
      (fun out s' => Accounted named layers s'.2 ∧
        ∃ d, out.artifact.hash = some d ∧ EndsIn s'.2 d out.artifact.mediaType)
      fun _ s' => Accounted named layers s'.2 := by
  unfold push
  refine Build.Ends.bind (recorded_composeChildren each heach tag a.children hw) ?_
  intro composed w1 h1
  dsimp only
  have hindex : ∀ entries, (ImageIndex.snapshot { a.canvas with manifests := entries }).Honest :=
    fun entries => ImageIndex.honest_snapshot hcanvas
  refine Build.Ends.bind (Build.Ends.call ((recorded_putManifest tag _ w1.registry).mono
    (fun _ _ h => h) fun _ _ h => h ▸ h1.index (hindex _))) ?_
  intro _ w2 h2
  refine Build.Ends.bind (Q := fun _ s' => s' = w2.registry) (Build.Ends.report rfl) ?_
  intro _ w3 h3
  rw [← h3] at h2
  exact Build.Ends.pure ⟨h2 ▸ h1.index (hindex _), _, rfl, _, _, _, h2, rfl, rfl⟩

end IndexAssembler

namespace Build

theorem recorded_appendSingle (a : Appender) (hbase : a.base = none → ¬ named) (baseRef : String)
    {w : Run (σ × List Access)} (hw : Accounted named layers w.registry.2) :
    (appendSingle r.recorded a layers baseRef).Ends w
      (fun artifact s' => Accounted named layers s'.2 ∧
        ∃ d, artifact.hash = some d ∧ EndsIn s'.2 d artifact.mediaType)
      fun _ s' => Accounted named layers s'.2 := by
  unfold appendSingle
  refine Build.Ends.bind (recorded_resolveBase a hbase hw) ?_
  rintro ⟨base, b⟩ w1 ⟨hacc, hhad, hread, hb⟩
  have hrun := Appender.run_of_state b r.recorded layers hb
  refine Build.Ends.bind (b := Appender.run b r.recorded layers)
    (hrun ▸ recorded_compose b hread hacc hhad) ?_
  rintro result w2 ⟨-, hacc', hlast⟩
  exact Build.Ends.pure ⟨hacc', _, rfl, hlast⟩

theorem recorded_append (c : BuildConfig) (layers : List Layer) {w : Run (σ × List Access)}
    (hw : Accounted c.NamesBase layers w.registry.2) :
    (append r.recorded c layers).Ends w
      (fun artifact s' => Accounted c.NamesBase layers s'.2 ∧
        ∃ d, artifact.hash = some d ∧ EndsIn s'.2 d artifact.mediaType)
      fun _ s' => Accounted c.NamesBase layers s'.2 := by
  have hkeep : ∀ {α : Type} (x : Except Error α) {w : Run (σ × List Access)},
      Accounted c.NamesBase layers w.registry.2 → Build.Ends (ofExcept x) w
        (fun _ s' => Accounted c.NamesBase layers s'.2)
        fun _ s' => Accounted c.NamesBase layers s'.2 :=
    fun _ _ h => Build.Ends.ofExcept (fun _ _ => h) fun _ _ => h
  unfold append
  refine Build.Ends.bind (hkeep _ hw) fun tag w1 h1 => ?_
  refine Build.Ends.bind (hkeep _ h1) fun matcher w2 h2 => ?_
  dsimp only
  split
  · next hempty =>
    refine Build.Ends.bind (Q := fun _ s' => Accounted c.NamesBase layers s'.2)
      (Build.Ends.reportAll h2) ?_
    exact fun _ w3 h3 => recorded_appendSingle _ (fun _ hnamed => hnamed hempty) _ h3
  refine Build.Ends.bind (hkeep _ h2) fun base w3 h3 => ?_
  refine Build.Ends.bind (Build.Ends.call ((recorded_getManifest base w3.registry).mono
    (fun _ _ h => h) fun _ _ h => h ▸ h3)) fun raw w4 h4 => ?_
  have hread : Accounted c.NamesBase layers w4.registry.2 := h4 ▸ h3.read base raw
  split
  · split
    · exact Build.Ends.bind (Q := fun _ _ => False) (Build.Ends.throw hread) fun _ _ h => h.elim
    refine Build.Ends.bind (IndexAssembler.recorded_select base raw matcher hread) ?_
    rintro a w5 ⟨h5, hcanvas⟩
    refine Build.Ends.bind (a.recorded_push hcanvas _ rfl tag c.base h5) ?_
    exact fun out w6 h6 => Build.Ends.pure h6
  · refine Build.Ends.bind (Q := fun _ s' => Accounted c.NamesBase layers s'.2)
      (Build.Ends.reportAll hread) ?_
    exact fun _ w5 h5 => recorded_appendSingle _ nofun _ h5

/-- Whatever the registry, a manifest that a build writes is composed from a base that it had, and
    then it is stored as what it declares if and only if that base is; or it is an index, and is
    stored as what it declares. So there is a manifest stored as something else than it declares only
    if one was read that is. The artifact of a success names the manifest that is written last. -/
theorem dialects_of_append (r : Registry σ) (c : BuildConfig) (layers : List Layer) (w : Run σ) :
    (∀ before target raw after,
      accesses r c layers w = before ++ .put target raw :: after →
      (∃ base, HadBase c.NamesBase before base ∧ ComposedFrom layers base raw ∧
          (raw.Honest ↔ base.Honest)) ∨
        (∃ i : ImageIndex, raw = i.snapshot) ∧ raw.Honest) ∧
    ((∀ ref base, .read ref base ∈ accesses r c layers w → base.Honest) →
      ∀ target raw, .put target raw ∈ accesses r c layers w → raw.Honest) ∧
    ∀ artifact w', append r c layers w = (.ok artifact, w') →
      ∃ d, artifact.hash = some d ∧ EndsIn (accesses r c layers w) d artifact.mediaType := by
  have hends := recorded_append (r := r) c layers (w := w.withRecord []) .nil
  have hrecorded := append_recorded r c layers w
  have haccounted : Accounted c.NamesBase layers (accesses r c layers w) := by
    rcases hrun : append r c layers w with ⟨e | artifact, w'⟩ <;> rw [hrun] at hrecorded <;>
      dsimp only at hrecorded
    · have hfail := hends.error hrecorded
      exact hfail
    · have hdone := hends.ok hrecorded
      exact hdone.1
  refine ⟨fun before target raw after hlog => ?_, fun hreads target raw hput => ?_, ?_⟩
  · rcases haccounted.of_split hlog with ⟨base, had, composed⟩ | hindex
    · exact .inl ⟨base, had, composed, composed.honest_iff⟩
    · exact .inr hindex
  · obtain ⟨before, after, hlog⟩ := List.append_of_mem hput
    rcases haccounted.of_split hlog with ⟨base, had, composed⟩ | ⟨-, honest⟩
    · rw [composed.honest_iff]
      rcases had with ⟨ref, hread⟩ | ⟨-, rfl⟩
      · refine hreads ref base ?_
        rw [hlog]
        exact List.mem_append_left _ hread
      · exact ResolvedBase.honest_empty
    · exact honest
  · intro artifact w' happend
    rw [happend] at hrecorded
    dsimp only at hrecorded
    have hdone := hends.ok hrecorded
    exact hdone.2

end Build

end Builds

/-! ## A manifest with two media types -/

namespace TwoChildren

open Build MemoryRegistry

/-- An image of the other dialect than the one it is stored as. -/
def hybrid : ImageManifest := { image with mediaType := some MediaType.dockerManifest }

def rawHybrid : RawManifest := ⟨MediaType.ociManifest, hybrid.bytes⟩

/-- It stands in for the first child. -/
def storedHybrid : MemoryRegistry :=
  { stored with
    manifests := stored.manifests.insert (first.base.context, .ofReference first.base) rawHybrid }

theorem decode_hybrid :
    Decode.ofBytes? ImageManifest.ofJson rawHybrid.bytes = some hybrid := by
  unfold rawHybrid ImageManifest.bytes
  rw [Decode.ofBytes?_bytes]
  decide +kernel

def resolvedHybrid : ResolvedBase := { resolved with raw := rawHybrid, manifest := hybrid }

theorem serves_hybrid : storedHybrid.Serves first.base resolvedHybrid where
  reference := rfl
  stored := rfl
  kind := rfl
  isImage := rfl
  manifest := decode_hybrid
  config := ⟨_, rfl, decode_config⟩

theorem append_hybrid : ∃ artifact w',
    append registry ontoFirst appended.layers { registry := storedHybrid } = (.ok artifact, w') := by
  have htag : Reference.parse ontoFirst.tag = .ok result := by rfl
  have hbase : Base? ontoFirst (some first.base) := parse_first
  refine append_ok_of_not_blocked htag rfl hbase serves_hybrid ?_
  refine Appender.not_blocked _ appended.layers rfl rfl fun r hr l hl => ?_
  cases hr
  rw [List.mem_singleton.1 hl]
  rfl

/-- The appender of the build. -/
def ontoHybrid : Appender := ontoFirst.appender result (some first.base)

theorem pushed_hybrid {artifact : Artifact} {w' : Run MemoryRegistry}
    (h : append registry ontoFirst appended.layers { registry := storedHybrid } = (.ok artifact, w')) :
    w'.registry.pushed = [(result.toText, ontoHybrid.rawOf resolvedHybrid appended.layers)] := by
  have hpublished := (append_ends _ _ _).ok h
  have htag : Reference.parse ontoFirst.tag = .ok result := by rfl
  generalize w'.registry = m' at hpublished
  cases hpublished with
  | @image tag base? b _ _ parsedTag named resolves pushed _ _ _ =>
    obtain rfl := Except.ok.inj (htag.symm.trans parsedTag)
    cases base? with
    | none => exact (Base?.named (show Base? ontoFirst (some first.base) from parse_first) named).elim
    | some r =>
      obtain rfl : first.base = r := Except.ok.inj (parse_first.symm.trans named)
      obtain rfl := MemoryRegistry.Serves.unique resolves serves_hybrid
      obtain ⟨n, added, rfl⟩ := pushed.published
      rw [MemoryRegistry.pushed_publish, added.pushed]
      rfl
  | index composes _ _ _ _ =>
    obtain rfl := Except.ok.inj (composes.parsedBase.symm.trans parse_first)
    have hindex := composes.isIndex
    rw [serves_hybrid.not_isIndex composes.stored] at hindex
    cases hindex

/-- A base stored as an OCI manifest that declares a Docker one makes another such manifest, with its
    new layer in the dialect that it does not declare. -/
theorem dialects_of_append_hybrid : ∃ artifact w' raw,
    append registry ontoFirst appended.layers { registry := storedHybrid } = (.ok artifact, w') ∧
    w'.registry.pushed = [(result.toText, raw)] ∧
    raw.mediaType = MediaType.ociManifest ∧ raw.declared? = some MediaType.dockerManifest ∧
    ¬ raw.Honest ∧
    (∃ i : ImageManifest, raw.bytes = i.bytes ∧
      i.layers.map Descriptor.mediaType = ["l", MediaType.ociLayer]) ∧
    ∃ d, artifact.hash = some d ∧
      EndsIn (accesses registry ontoFirst appended.layers { registry := storedHybrid }) d
        artifact.mediaType := by
  obtain ⟨artifact, w', happend⟩ := append_hybrid
  obtain ⟨-, -, hlast⟩ :=
    dialects_of_append registry ontoFirst appended.layers { registry := storedHybrid }
  have hread : resolvedHybrid.IsRead := ⟨decode_hybrid, rfl⟩
  have hcomposed := ontoHybrid.composedFrom_rawOf hread appended.layers
  have hdeclared : (ontoHybrid.rawOf resolvedHybrid appended.layers).declared? =
      some MediaType.dockerManifest :=
    hcomposed.declared.trans (ImageManifest.declared_of_ofBytes? decode_hybrid).1
  refine ⟨artifact, w', _, happend, pushed_hybrid happend, hcomposed.mediaType, hdeclared, ?_,
    ⟨_, ontoHybrid.bytes_rawOf resolvedHybrid appended.layers, rfl⟩, hlast artifact w' happend⟩
  intro honest
  exact absurd (hcomposed.mediaType.symm.trans (honest _ hdeclared)) (by decide)

end TwoChildren

end OciCompose
