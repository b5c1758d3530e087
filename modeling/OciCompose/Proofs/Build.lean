import OciCompose.Build
import OciCompose.Proofs.MultiPlatform

/-
  What a build writes to a registry in memory.
  `append_ends` follows a build from the configured texts to its last upload: a success is one image
  or a composed index, a failure comes before any child is composed, at a child, or at the index. Hence
  a tag is moved by a success only (`append_publishes`), and an error that arises before a push leaves
  the registry as it was unless children were composed already (`registry_of_prePush`).
-/

namespace OciCompose

open MemoryRegistry IndexAssembler

namespace BuildConfig

/-- The appender of a build on a single image, or on none. -/
def appender (c : BuildConfig) (tag : Reference) (base : Option Reference) : Appender where
  base := base
  tag := tag
  envs := c.envPairs
  provenance := base.map fun b => Provenance.ofBase? (some b)

/-- What a build on an index appends to each child. -/
def each (c : BuildConfig) (layers : List Layer) (base : Reference) : LayerAppend where
  layers := layers
  envs := c.envPairs
  provenance := Provenance.ofBase? (some base)

end BuildConfig

namespace Build

/-! ## Steps -/

theorem ofExcept_ends {σ α : Type} (r : Except Error α) (w : Run σ) :
    Call.Ends (ofExcept r) w (fun a w' => w' = w ∧ r = .ok a) fun e w' => w' = w ∧ r = .error e := by
  cases r with
  | error e => exact ⟨rfl, rfl⟩
  | ok a => exact ⟨rfl, rfl⟩

theorem ofExcept_ok {σ α : Type} {r : Except Error α} {a : α} (h : r = .ok a) (w : Run σ) :
    Call.Ends (ofExcept r) w (fun a' w' => w' = w ∧ a' = a) fun _ _ => False := by
  subst h
  exact ⟨rfl, rfl⟩

theorem call_getManifest_ends (r : Reference) (w : Run MemoryRegistry) :
    Call.Ends (call (registry.getManifest r)) w
      (fun raw w' => w' = w ∧ w.registry.manifest? r = some raw)
      fun e w' => w' = w ∧ e.isPrePush = false ∧ w.registry.manifest? r = none := by
  have h := getManifest_ends r w.registry
  unfold Call.Ends at h
  unfold Call.Ends call
  rcases hc : registry.getManifest r w.registry with ⟨e | raw, m⟩
  · rw [hc] at h
    obtain ⟨rfl, h⟩ := h
    exact ⟨rfl, h⟩
  · rw [hc] at h
    obtain ⟨rfl, h⟩ := h
    exact ⟨rfl, h⟩

theorem appendSingle_ends (a : Appender) (ha : a.state = none) (layers : List Layer)
    (baseRef : String) (w : Run MemoryRegistry) :
    (appendSingle registry a layers baseRef).Ends w
      (fun artifact m' => ∃ base, a.Resolves w.registry base ∧
        artifact = Artifact.singleImage a.tag (a.rawOf base layers).digest base.mediaType
          (a.configOf base layers).platform? (a.resultOf base layers).configDigest baseRef ∧
        (a.plan base layers).Pushed w.registry m')
      fun e m' => BlobsAdded a.tag.context w.registry m' ∧
        (e.isPrePush = true → m' = w.registry) ∧ a.Fails layers w.registry e := by
  unfold appendSingle
  refine Build.Ends.bind ((Appender.resolveBase_ends a ha layers w).mono (fun _ _ h => h) ?_) ?_
  · intro e m' h
    obtain ⟨rfl, hfails⟩ := h
    exact ⟨BlobsAdded.refl _ _, fun _ => rfl, hfails⟩
  intro resolved w1 h
  obtain ⟨base, a'⟩ := resolved
  obtain ⟨hw1, hbase, ha'⟩ := h
  dsimp only at hbase ha' ⊢
  subst ha'
  have hrun := Appender.run_of_state { a with state := some base } registry layers rfl
  have hcompose := Appender.compose_ends { a with state := some base } base layers w1
  rw [← hrun, hw1] at hcompose
  refine Build.Ends.bind (b := Appender.run _ registry layers)
    (hcompose.mono (fun _ _ h => h) ?_) ?_
  · intro e m' h
    obtain ⟨hadd, he, hblocked⟩ := h
    refine ⟨hadd, fun hp => ?_, .of_blocked hbase hblocked he⟩
    rw [he] at hp
    cases hp
  intro result w2 h
  obtain ⟨rfl, hpushed⟩ := h
  exact Build.Ends.pure ⟨base, hbase, rfl, hpushed⟩

/-! ## Outcomes -/

/-- The configuration leads to an index whose children are selected. -/
structure Composes (c : BuildConfig) (w : Run MemoryRegistry) (tag base : Reference)
    (raw : RawManifest) (matcher : PlatformMatcher) (a : IndexAssembler) : Prop where
  parsedTag : Reference.parse c.tag = .ok tag
  platforms : PlatformMatcher.ofTexts c.platforms = .ok matcher
  named : Text.trimChars c.base.toList ≠ []
  parsedBase : Reference.parse c.base = .ok base
  stored : w.registry.manifest? base = some raw
  isIndex : raw.kind.isIndex = true
  selected : (select registry base raw matcher w).1 = .ok a

/-- All ways to an index start from the same base and the same platforms. -/
theorem Composes.same_start {c : BuildConfig} {w : Run MemoryRegistry} {tag base base' : Reference}
    {raw raw' : RawManifest} {matcher matcher' : PlatformMatcher} {a : IndexAssembler}
    (h : Composes c w tag base' raw' matcher' a)
    (hmatcher : PlatformMatcher.ofTexts c.platforms = .ok matcher)
    (hbase : Reference.parse c.base = .ok base) (hraw : w.registry.manifest? base = some raw) :
    base' = base ∧ raw' = raw ∧ matcher' = matcher := by
  rw [h.platforms] at hmatcher
  rw [h.parsedBase] at hbase
  cases hmatcher
  cases hbase
  rw [h.stored] at hraw
  exact ⟨rfl, Option.some.inj hraw, rfl⟩

theorem Composes.unique {c : BuildConfig} {w : Run MemoryRegistry} {tag tag' base base' : Reference}
    {raw raw' : RawManifest} {matcher matcher' : PlatformMatcher} {a a' : IndexAssembler}
    (h : Composes c w tag base raw matcher a) (h' : Composes c w tag' base' raw' matcher' a') :
    tag = tag' ∧ base = base' ∧ a = a' := by
  obtain ⟨rfl, rfl, rfl⟩ := h.same_start h'.platforms h'.parsedBase h'.stored
  have htag := h.parsedTag
  have hselected := h.selected
  rw [h'.parsedTag] at htag
  rw [h'.selected] at hselected
  cases htag
  cases hselected
  exact ⟨rfl, rfl, rfl⟩

/-- What an image is built on: nothing, or the configured base. -/
def Base? (c : BuildConfig) (base : Option Reference) : Prop :=
  match base with
  | none => Text.trimChars c.base.toList = []
  | some r => Reference.parse c.base = .ok r

theorem Base?.named {c : BuildConfig} {r : Reference} (h : Base? c (some r)) :
    Text.trimChars c.base.toList ≠ [] := by
  intro hnil
  have hparse : Reference.parse c.base = .ok r := h
  unfold Reference.parse at hparse
  dsimp only at hparse
  rw [if_pos hnil] at hparse
  cases hparse

/-- What a build that succeeds has written. -/
inductive Published (c : BuildConfig) (layers : List Layer) (w : Run MemoryRegistry) :
    Artifact → MemoryRegistry → Prop
  | image {tag : Reference} {base? : Option Reference} {base : ResolvedBase} {artifact : Artifact}
      {m' : MemoryRegistry} (parsedTag : Reference.parse c.tag = .ok tag) (named : Base? c base?)
      (resolves : (c.appender tag base?).Resolves w.registry base)
      (pushed : ((c.appender tag base?).plan base layers).Pushed w.registry m')
      (hash : artifact.hash = some ((c.appender tag base?).rawOf base layers).digest)
      (tagRef : artifact.tagRef =
        tag.written ++ "@" ++ ((c.appender tag base?).rawOf base layers).digest.toText)
      (platforms : artifact.platforms = base.config.platform?.toList) :
      Published c layers w artifact m'
  | index {tag base : Reference} {raw : RawManifest} {matcher : PlatformMatcher}
      {a : IndexAssembler} {bases : List ResolvedBase} {artifact : Artifact} {n : MemoryRegistry}
      (composes : Composes c w tag base raw matcher a)
      (composed : Composed (c.each layers base) tag w.registry a.children bases n)
      (hash : artifact.hash = some (a.indexOf (c.each layers base) tag bases).snapshot.digest)
      (tagRef : artifact.tagRef =
        tag.written ++ "@" ++ (a.indexOf (c.each layers base) tag bases).snapshot.digest.toText)
      (platforms : artifact.platforms = (a.indexOf (c.each layers base) tag bases).imagePlatforms) :
      Published c layers w artifact
        (n.publish tag (a.indexOf (c.each layers base) tag bases).snapshot)

/-- How far a build that fails came. -/
inductive Failed (c : BuildConfig) (layers : List Layer) (w : Run MemoryRegistry) (e : Error) :
    MemoryRegistry → Prop
  | before {m' : MemoryRegistry}
      (unselected : ∀ tag base raw matcher a, ¬ Composes c w tag base raw matcher a)
      (added : m' = w.registry ∨
        ∃ tag, Reference.parse c.tag = .ok tag ∧ BlobsAdded tag.context w.registry m')
      (prePush : e.isPrePush = true → m' = w.registry) : Failed c layers w e m'
  | child {tag base : Reference} {raw : RawManifest} {matcher : PlatformMatcher}
      {a : IndexAssembler} {m' : MemoryRegistry} (composes : Composes c w tag base raw matcher a)
      (stopped : Stopped (c.each layers base) tag w.registry a.children e m') :
      Failed c layers w e m'
  | index {tag base : Reference} {raw : RawManifest} {matcher : PlatformMatcher}
      {a : IndexAssembler} {bases : List ResolvedBase} {m' : MemoryRegistry}
      (composes : Composes c w tag base raw matcher a)
      (composed : Composed (c.each layers base) tag w.registry a.children bases m')
      (prePush : e.isPrePush = false) (refused : m'.manifestFailure ≠ none) : Failed c layers w e m'

/-! ## The course of a build -/

/-- The part of a build on a single image, or on none. -/
def appendImage (c : BuildConfig) (layers : List Layer) (tag : Reference) (base? : Option Reference)
    (baseRef : String) : Build MemoryRegistry Artifact := do
  reportAll (platformWarning c)
  appendSingle registry (c.appender tag base?) layers baseRef

/-- The part of a build on an index. -/
def appendIndex (c : BuildConfig) (layers : List Layer) (tag base : Reference) (raw : RawManifest)
    (matcher : PlatformMatcher) : Build MemoryRegistry Artifact := do
  if base.digest.isNone then throw (.invalidReference c.base .indexNotPinned)
  let assembler ← select registry base raw matcher
  let assembled ← assembler.push registry ((c.each layers base).append registry tag) tag c.base
  return assembled.artifact

theorem append_eq (c : BuildConfig) (layers : List Layer) : append registry c layers = (do
    let tag ← ofExcept (Reference.parse c.tag)
    let matcher ← ofExcept (PlatformMatcher.ofTexts c.platforms)
    if Text.trimChars c.base.toList = [] then
      appendImage c layers tag none ""
    else
      let base ← ofExcept (Reference.parse c.base)
      let raw ← call (registry.getManifest base)
      if raw.kind.isIndex then
        appendIndex c layers tag base raw matcher
      else
        appendImage c layers tag (some base) c.base) := rfl

section

variable {c : BuildConfig} {layers : List Layer} {tag base : Reference} {w : Run MemoryRegistry}

/-- A build on no index fails before any child is composed. -/
theorem appendImage_ends {base? : Option Reference} (htag : Reference.parse c.tag = .ok tag)
    (hbase : Base? c base?) (baseRef : String)
    (hno : ∀ tag base raw matcher a, ¬ Composes c w tag base raw matcher a) :
    (appendImage c layers tag base? baseRef).Ends w (Published c layers w) (Failed c layers w) := by
  refine Build.Ends.bind (Q := fun _ m' => m' = w.registry) (Build.Ends.reportAll rfl) ?_
  intro _ w1 hw1
  have hsingle := appendSingle_ends (c.appender tag base?) rfl layers baseRef w1
  rw [hw1] at hsingle
  refine hsingle.mono ?_ ?_
  · intro artifact m' h
    obtain ⟨resolved, hresolved, rfl, hpushed⟩ := h
    exact .image htag hbase hresolved hpushed rfl rfl
      (congrArg Option.toList (Appender.platform?_configOf _ _ _))
  · intro e m' h
    exact .before hno (Or.inr ⟨tag, htag, h.1⟩) h.2.1

/-- A selection for an index that is not pinned fails. -/
theorem select_unpinned {raw : RawManifest} {matcher : PlatformMatcher} {a : IndexAssembler}
    (hpin : base.digest.isNone = true) : (select registry base raw matcher w).1 ≠ .ok a := by
  intro h
  obtain ⟨w1, hs⟩ := Call.eq_of_fst h
  have hpinned := ((select_ends base raw matcher w).ok hs).2.pinned
  rw [Option.isNone_iff_eq_none] at hpin
  rw [hpin] at hpinned
  cases hpinned

theorem appendIndex_ends {raw : RawManifest} {matcher : PlatformMatcher}
    (htag : Reference.parse c.tag = .ok tag)
    (hmatcher : PlatformMatcher.ofTexts c.platforms = .ok matcher)
    (hnamed : Text.trimChars c.base.toList ≠ []) (hbase : Reference.parse c.base = .ok base)
    (hraw : w.registry.manifest? base = some raw) (hindex : raw.kind.isIndex = true) :
    (appendIndex c layers tag base raw matcher).Ends w
      (Published c layers w) (Failed c layers w) := by
  -- without a selection there is nothing to compose
  have hno : (∀ a, (select registry base raw matcher w).1 ≠ .ok a) →
      ∀ tag base raw matcher a, ¬ Composes c w tag base raw matcher a := by
    intro h tag' base' raw' matcher' a hc
    obtain ⟨rfl, rfl, rfl⟩ := hc.same_start hmatcher hbase hraw
    exact h a hc.selected
  unfold appendIndex
  split
  · next hpin =>
    refine Build.Ends.bind (Q := fun _ _ => False) (Build.Ends.throw ?_) fun _ _ h => h.elim
    exact .before (hno fun _ => select_unpinned hpin) (Or.inl rfl) fun _ => rfl
  rcases hs : select registry base raw matcher w with ⟨e | a, w1⟩
  · refine Build.Ends.bind (Q := fun _ _ => False)
      ((Call.Ends.of_eq_error hs).2 ?_) fun _ _ h => h.elim
    rw [(select_ends base raw matcher w).error hs]
    refine .before (hno fun a h => ?_) (Or.inl rfl) fun _ => rfl
    rw [hs] at h
    cases h
  obtain ⟨hw1, hselected⟩ := (select_ends base raw matcher w).ok hs
  have hc : Composes c w tag base raw matcher a :=
    ⟨htag, hmatcher, hnamed, hbase, hraw, hindex, congrArg Prod.fst hs⟩
  refine Call.Ends.bind (Q := fun a' w' => a' = a ∧ w' = w1)
    ((Call.Ends.of_eq_ok hs).2 ⟨rfl, rfl⟩) ?_
  intro a' w' h
  obtain ⟨rfl, rfl⟩ := h
  have hpush := push_ends (c.each layers base) tag a' hselected.fresh c.base w'
  rw [hw1] at hpush
  refine Build.Ends.bind (hpush.mono (fun _ _ h => h) ?_) ?_
  · intro e m' h
    rcases h with h | ⟨he, hrefused, bases, hcomposed⟩
    · exact .child hc h
    · exact .index hc hcomposed he hrefused
  intro out w2 h
  obtain ⟨bases, n, hcomposed, hindexOf, hm', hartifact⟩ := h
  rw [hindexOf] at hm' hartifact
  refine Build.Ends.pure ?_
  rw [hm']
  exact .index hc hcomposed (congrArg Artifact.hash hartifact)
    (congrArg Artifact.tagRef hartifact) (congrArg Artifact.platforms hartifact)

end

theorem append_ends (c : BuildConfig) (layers : List Layer) (w : Run MemoryRegistry) :
    (append registry c layers).Ends w (Published c layers w) (Failed c layers w) := by
  have early : ∀ (e : Error) (w' : Run MemoryRegistry), w' = w →
      (∀ tag base raw matcher a, ¬ Composes c w tag base raw matcher a) →
      Failed c layers w e w'.registry := by
    intro e w' hw h
    rw [hw]
    exact .before h (Or.inl rfl) fun _ => rfl
  rw [append_eq]
  refine Call.Ends.bind ((ofExcept_ends _ w).mono (fun _ _ h => h) ?_) ?_
  · intro e w' h
    refine early e w' h.1 fun tag base raw matcher a hc => ?_
    rw [hc.parsedTag] at h
    cases h.2
  intro tag w1 h
  obtain ⟨rfl, htag⟩ := h
  refine Call.Ends.bind ((ofExcept_ends _ w1).mono (fun _ _ h => h) ?_) ?_
  · intro e w' h
    refine early e w' h.1 fun tag base raw matcher a hc => ?_
    rw [hc.platforms] at h
    cases h.2
  intro matcher w2 h
  obtain ⟨rfl, hmatcher⟩ := h
  split
  · next hempty =>
    exact appendImage_ends htag (show Base? c none from hempty) "" fun _ _ _ _ _ hc =>
      hc.named hempty
  next hnamed =>
  refine Call.Ends.bind ((ofExcept_ends _ w2).mono (fun _ _ h => h) ?_) ?_
  · intro e w' h
    refine early e w' h.1 fun tag base raw matcher a hc => ?_
    rw [hc.parsedBase] at h
    cases h.2
  intro base w3 h
  obtain ⟨rfl, hbase⟩ := h
  refine Call.Ends.bind ((call_getManifest_ends base w3).mono (fun _ _ h => h) ?_) ?_
  · intro e w' h
    refine early e w' h.1 fun tag' base' raw matcher' a hc => ?_
    have hstored := hc.stored
    rw [← Except.ok.inj (hbase.symm.trans hc.parsedBase), h.2.2] at hstored
    cases hstored
  intro raw w4 h
  obtain ⟨rfl, hraw⟩ := h
  split
  · next hindex => exact appendIndex_ends htag hmatcher hnamed hbase hraw hindex
  · next hindex =>
    refine appendImage_ends htag (show Base? c (some base) from hbase) c.base ?_
    intro tag' base' raw' matcher' a hc
    obtain ⟨rfl, rfl, rfl⟩ := hc.same_start hmatcher hbase hraw
    exact hindex hc.isIndex

/-- A build on an image succeeds if nothing blocks what it pushes. -/
theorem append_ok_of_not_blocked {c : BuildConfig} {layers : List Layer} {w : Run MemoryRegistry}
    {tag : Reference} {matcher : PlatformMatcher} {base? : Option Reference} {base : ResolvedBase}
    (htag : Reference.parse c.tag = .ok tag)
    (hmatcher : PlatformMatcher.ofTexts c.platforms = .ok matcher) (hbase : Base? c base?)
    (hresolves : (c.appender tag base?).Resolves w.registry base)
    (hfree : ¬ ((c.appender tag base?).plan base layers).Blocked w.registry) :
    ∃ artifact w', append registry c layers w = (.ok artifact, w') := by
  have himage : ∀ baseRef, (appendImage c layers tag base? baseRef).Ends w (fun _ _ => True)
      fun _ _ => False := by
    intro baseRef
    refine Build.Ends.bind (Q := fun _ m' => m' = w.registry) (Build.Ends.reportAll rfl) ?_
    intro _ w1 hw1
    refine (appendSingle_ends (c.appender tag base?) rfl layers baseRef w1).mono
      (fun _ _ _ => trivial) fun e _ h => ?_
    rw [hw1] at h
    exact hfree (h.2.2.blocked base hresolves)
  have hends : (append registry c layers).Ends w (fun _ _ => True) fun _ _ => False := by
    rw [append_eq]
    refine Call.Ends.bind (ofExcept_ok htag w) ?_
    rintro _ _ ⟨rfl, rfl⟩
    refine Call.Ends.bind (ofExcept_ok hmatcher _) ?_
    rintro _ _ ⟨rfl, rfl⟩
    cases base? with
    | none =>
      rw [if_pos (show Text.trimChars c.base.toList = [] from hbase)]
      exact himage ""
    | some r =>
      have hserves : MemoryRegistry.Serves _ r base := hresolves
      rw [if_neg hbase.named]
      refine Call.Ends.bind (ofExcept_ok (show Reference.parse c.base = .ok r from hbase) _) ?_
      rintro _ _ ⟨rfl, rfl⟩
      refine Call.Ends.bind ((call_getManifest_ends _ _).mono (fun _ _ h => h) fun _ _ h => ?_) ?_
      · rw [hserves.stored] at h
        cases h.2.2
      rintro raw _ ⟨rfl, hraw⟩
      rw [if_neg (by simp [hserves.not_isIndex hraw])]
      exact himage c.base
  obtain ⟨artifact, w', h, -⟩ := hends.exists_ok
  exact ⟨artifact, w', h⟩

/-- A build on what is stored as an index has composed all children if it succeeds. -/
theorem Published.of_isIndex {c : BuildConfig} {layers : List Layer} {w : Run MemoryRegistry}
    {base : Reference} {raw : RawManifest} {artifact : Artifact} {m' : MemoryRegistry}
    (h : Published c layers w artifact m') (hbase : Reference.parse c.base = .ok base)
    (hraw : w.registry.manifest? base = some raw) (hindex : raw.kind.isIndex = true) :
    ∃ tag matcher a bases n, Composes c w tag base raw matcher a ∧
      Composed (c.each layers base) tag w.registry a.children bases n ∧
      m' = n.publish tag (a.indexOf (c.each layers base) tag bases).snapshot ∧
      artifact.platforms = (a.indexOf (c.each layers base) tag bases).imagePlatforms := by
  cases h with
  | index composes composed _ _ platforms =>
    obtain ⟨rfl, rfl, -⟩ := composes.same_start composes.platforms hbase hraw
    exact ⟨_, _, _, _, _, composes, composed, rfl, platforms⟩
  | @image _ base? b _ _ _ named resolves =>
    cases base? with
    | none => exact (Base?.named (show Base? c (some base) from hbase) named).elim
    | some r =>
      obtain rfl : r = base := Except.ok.inj (Eq.trans (Eq.symm named) hbase)
      have hserves : w.registry.Serves r b := resolves
      rw [hserves.not_isIndex hraw] at hindex
      cases hindex

/-- A build on an index that succeeds has composed all children. -/
theorem Composes.composed_of_ok {c : BuildConfig} {layers : List Layer} {w w' : Run MemoryRegistry}
    {tag base : Reference} {raw : RawManifest} {matcher : PlatformMatcher} {a : IndexAssembler}
    {artifact : Artifact} (hc : Composes c w tag base raw matcher a)
    (h : append registry c layers w = (.ok artifact, w')) :
    ∃ bases n, Composed (c.each layers base) tag w.registry a.children bases n := by
  obtain ⟨_, _, _, bases, n, composes, composed, -⟩ :=
    ((append_ends c layers w).ok h).of_isIndex hc.parsedBase hc.stored hc.isIndex
  obtain ⟨rfl, -, rfl⟩ := hc.unique composes
  exact ⟨bases, n, composed⟩

/-- A build on an index that fails has stopped at a child, or composed them all. -/
theorem Composes.stopped_of_error {c : BuildConfig} {layers : List Layer}
    {w w' : Run MemoryRegistry} {tag base : Reference} {raw : RawManifest}
    {matcher : PlatformMatcher} {a : IndexAssembler} {e : Error}
    (hc : Composes c w tag base raw matcher a)
    (h : append registry c layers w = (.error e, w')) :
    Stopped (c.each layers base) tag w.registry a.children e w'.registry ∨
      ∃ bases, Composed (c.each layers base) tag w.registry a.children bases w'.registry := by
  cases (append_ends c layers w).error h with
  | before unselected _ _ => exact (unselected _ _ _ _ _ hc).elim
  | child composes stopped =>
    obtain ⟨rfl, rfl, rfl⟩ := hc.unique composes
    exact Or.inl stopped
  | index composes composed _ =>
    obtain ⟨rfl, rfl, rfl⟩ := hc.unique composes
    exact Or.inr ⟨_, composed⟩

/-! ## What a build changes -/

/-- A build that fails before or at a child, or at the index, has moved no tag. -/
theorem Failed.extended {c : BuildConfig} {layers : List Layer} {w : Run MemoryRegistry} {e : Error}
    {m' : MemoryRegistry} (h : Failed c layers w e m') :
    m' = w.registry ∨
      ∃ tag, Reference.parse c.tag = .ok tag ∧ Extended tag.context w.registry m' := by
  cases h with
  | before _ added _ =>
    rcases added with h | ⟨tag, htag, h⟩
    · exact Or.inl h
    · exact Or.inr ⟨tag, htag, h.extended⟩
  | child composes stopped =>
    obtain ⟨_, composed, added, _, _⟩ := stopped
    exact Or.inr ⟨_, composes.parsedTag, composed.extended.trans added.extended⟩
  | index composes composed _ => exact Or.inr ⟨_, composes.parsedTag, composed.extended⟩

/-- Publication is atomic. A build that succeeds moves the configured tag to the manifest that the
    artifact names, and no other tag; one that fails moves none. Either way only the configured
    repository is written to. -/
theorem append_publishes (c : BuildConfig) (layers : List Layer) (w : Run MemoryRegistry) :
    (append registry c layers).Ends w
      (fun artifact m' => ∃ tag, Reference.parse c.tag = .ok tag ∧
        Confined tag.context w.registry m' ∧
        (∀ repo t, ¬ (repo = tag.context ∧ tag.tag = some t) →
          m'.tagged? repo t = w.registry.tagged? repo t) ∧
        ∀ t, tag.tag = some t → ∃ raw,
          m'.tagged? tag.context t = some raw ∧ artifact.hash = some raw.digest)
      fun _ m' => (∀ repo t, m'.tagged? repo t = w.registry.tagged? repo t) ∧
        (m' = w.registry ∨
          ∃ tag, Reference.parse c.tag = .ok tag ∧ Confined tag.context w.registry m') := by
  refine (append_ends c layers w).mono ?_ ?_
  · intro artifact m' h
    cases h with
    | image parsedTag _ _ pushed hash =>
      cases pushed with
      | intro added _ _ =>
        obtain ⟨hconfined, hothers, htag⟩ := added.extended.publish_to _
        exact ⟨_, parsedTag, hconfined, hothers, fun t ht => ⟨_, htag t ht, hash⟩⟩
    | index composes composed hash =>
      obtain ⟨hconfined, hothers, htag⟩ := composed.extended.publish_to _
      exact ⟨_, composes.parsedTag, hconfined, hothers, fun t ht => ⟨_, htag t ht, hash⟩⟩
  · intro e m' h
    rcases h.extended with rfl | ⟨tag, htag, hext⟩
    · exact ⟨fun _ _ => rfl, Or.inl rfl⟩
    · exact ⟨hext.tags, Or.inr ⟨tag, htag, hext.toConfined⟩⟩

/-! ## Errors that arise before a push -/

/-- The first child that is composed is stored as an image. -/
def StartsPushing (c : BuildConfig) (w : Run MemoryRegistry) : Prop :=
  ∃ tag base raw matcher a first rest stored, Composes c w tag base raw matcher a ∧
    a.children = first :: rest ∧ w.registry.manifest? first.base = some stored ∧
    stored.kind.isImage = true

/-- An error of the kinds that arise before a push leaves the registry as it was if and only if no
    image was composed before it. If one was, the error is that of a later child which is stored as
    neither an image nor an index. -/
theorem registry_of_prePush {c : BuildConfig} {layers : List Layer} {w w' : Run MemoryRegistry}
    {e : Error} (h : append registry c layers w = (.error e, w')) (he : e.isPrePush = true) :
    (w'.registry = w.registry ↔ ¬ StartsPushing c w) ∧
      (StartsPushing c w → w.registry.pushed.length < w'.registry.pushed.length ∧
        ∃ mediaType reference, e = .unsupportedMediaType mediaType reference) := by
  have hfailed := (append_ends c layers w).error h
  cases hfailed with
  | before unselected _ prePush =>
    have hno : ¬ StartsPushing c w := fun ⟨_, _, _, _, _, _, _, _, hc, _⟩ =>
      unselected _ _ _ _ _ hc
    exact ⟨⟨fun _ => hno, fun _ => prePush he⟩, fun hs => (hno hs).elim⟩
  | index composes composed prePush =>
    rw [prePush] at he
    cases he
  | @child tag base raw matcher a m' composes stopped =>
    obtain ⟨split, composed, added, prePush, fails⟩ := stopped
    obtain ⟨r, hr, hrefuses⟩ := fails.prePush he
    rw [prePush he]
    cases composed with
    | nil =>
      -- the first child itself is refused
      have hno : ¬ StartsPushing c w := by
        intro hs
        obtain ⟨_, _, _, _, a', first, rest, stored, hc, hfirst, hstored, himage⟩ := hs
        obtain ⟨-, -, rfl⟩ := hc.unique composes
        rw [hfirst] at split
        cases split
        cases hr
        rw [(hrefuses.of_stored hstored).1] at himage
        cases himage
      exact ⟨⟨fun _ => hno, fun _ => rfl⟩, fun hs => (hno hs).elim⟩
    | cons serves pushed rest =>
      have hlog := (Composed.cons serves pushed rest).pushed_eq
      have hlonger := congrArg List.length hlog
      rw [List.length_append, List.length_map, List.zipWith_cons_cons, List.length_cons] at hlonger
      have hs : StartsPushing c w :=
        ⟨_, _, _, _, _, _, _, _, composes, split, serves.stored, (serves.of_stored serves.stored).1⟩
      refine ⟨⟨fun heq => ?_, fun hno => (hno hs).elim⟩, fun _ => ⟨by omega, ?_⟩⟩
      · rw [heq] at hlonger
        omega
      · obtain ⟨raw', -, -, rfl⟩ := hrefuses
        exact ⟨_, _, rfl⟩

end Build

namespace TwoChildren

open Build

def elsewhere : BuildConfig := { base := "r.io/b@x:3", tag := "r.io/c:v" }

theorem parse_base : Reference.parse "r.io/b@x:3" = .ok base := by rfl

theorem composes_elsewhere :
    Composes elsewhere start result base rawIndex .any (assembler [first, second]) where
  parsedTag := by rfl
  platforms := by rfl
  named := by decide
  parsedBase := parse_base
  stored := by rfl
  isIndex := by rfl
  selected := select_both

theorem startsPushing_elsewhere : StartsPushing elsewhere start :=
  ⟨_, _, _, _, _, first, [second], rawImage, composes_elsewhere, rfl, rfl, rfl⟩

section Elsewhere

variable {each : LayerAppend} {child : SelectedChild} {children : List SelectedChild}
  {b : ResolvedBase} {bases : List ResolvedBase} {n : MemoryRegistry}

theorem second_of_composed (h : Composed each result stored [child] [b] n) :
    n.manifest? second.base = some rawText :=
  h.manifest?_eq (r := second.base) (by decide)

theorem not_composed_second :
    ¬ Composed each result stored (first :: second :: children) bases n := by
  intro h
  cases h with
  | cons serves pushed rest =>
    cases rest with
    | cons serves' _ _ =>
      have hraw := second_of_composed (.cons serves pushed (.nil _))
      cases (serves'.of_stored hraw).1

/-- The second child is refused as a base when the first is pushed. -/
theorem isPrePush_of_stopped {e : Error}
    (h : Stopped each result stored [first, second] e n) : e.isPrePush = true := by
  obtain ⟨split, composed, _, _, fails⟩ := h
  cases composed with
  | nil =>
    cases split
    exact (not_fails_first fails).elim
  | cons serves pushed rest =>
    cases rest with
    | nil =>
      cases split
      have hraw := second_of_composed (.cons serves pushed (.nil _))
      rw [fails.refused second.base _ rfl ⟨rawText, hraw, rfl, rfl⟩]
      rfl
    | cons _ _ _ =>
      have hlength := congrArg List.length split
      simp at hlength

end Elsewhere

/-- An error of a kind that arises before a push may come after one. -/
theorem registry_of_prePush_second : ∃ e w', append registry elsewhere [] start = (.error e, w') ∧
    e.isPrePush = true ∧ w'.registry ≠ start.registry := by
  obtain ⟨⟨r, w'⟩, hout⟩ : ∃ out, append registry elsewhere [] start = out := ⟨_, rfl⟩
  rcases r with e | artifact
  · rcases composes_elsewhere.stopped_of_error hout with hstopped | ⟨bases, hcomposed⟩
    · have he := isPrePush_of_stopped hstopped
      refine ⟨e, w', hout, he, fun heq => ?_⟩
      exact (registry_of_prePush hout he).1.1 heq startsPushing_elsewhere
    · exact (not_composed_second hcomposed).elim
  · obtain ⟨bases, n, hcomposed⟩ := composes_elsewhere.composed_of_ok hout
    exact (not_composed_second hcomposed).elim

end TwoChildren

end OciCompose
