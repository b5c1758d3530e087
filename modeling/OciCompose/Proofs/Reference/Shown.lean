import OciCompose.Proofs.Reference.Grammar

/-
  References as they are written and as they are shown.
  The text in full of a reference has other parts than the text that it was read from: the registry and
  the repository are spelled out, the default tag too, and digits are in lower case. Both are read as
  references with the same registry, repository, tag and digest (`texts_read_back`). The registry has no
  slash, so two repositories are the same if their contexts are (`sameRepository_iff`).
-/

namespace OciCompose.Reference

/-! ## Registries -/

namespace StandsFor

variable {name registry repository : List Char}

theorem slash_not_mem (h : StandsFor name registry repository) : '/' ∉ registry := by
  cases h with
  | located slash_not_mem _ => exact slash_not_mem
  | nested | official => decide

/-- The default registry would be taken for one, too. -/
theorem namesRegistry (h : StandsFor name registry repository) : NamesRegistry registry := by
  cases h with
  | located _ namesRegistry => exact namesRegistry
  | nested | official => exact .inl (by decide)

/-- What a name stands for is taken from it but for the defaults. -/
theorem mem {c : Char} (h : StandsFor name registry repository)
    (hc : c ∈ registry ++ repository) :
    c ∈ name ∨ c ∈ "docker.io".toList ∨ c ∈ "library/".toList := by
  cases h with
  | located =>
    refine .inl ?_
    rcases List.mem_append.1 hc with hc | hc
    · exact List.mem_append_left _ hc
    · exact List.mem_append_right _ (List.mem_cons_of_mem _ hc)
  | nested =>
    rcases List.mem_append.1 hc with hc | hc
    · exact .inr (.inl hc)
    · exact .inl hc
  | official =>
    rcases List.mem_append.1 hc with hc | hc
    · exact .inr (.inl hc)
    rcases List.mem_append.1 hc with hc | hc
    · exact .inr (.inr hc)
    · exact .inl hc

/-- A registry begins like the name that it is in. -/
theorem head?_registry (h : StandsFor name registry repository) :
    registry.head? = name.head? ∨ registry = "docker.io".toList := by
  cases h with
  | nested | official => exact .inr rfl
  | @located first rest _ namesRegistry =>
    refine .inl (Text.head?_of_isPrefix (List.prefix_append _ _) ?_)
    rintro rfl
    rcases namesRegistry with h | h | h <;> cases h

/-- Spelled out, a name stands for the same. -/
theorem full (h : StandsFor name registry repository) :
    StandsFor (registry ++ '/' :: repository) registry repository :=
  .located h.slash_not_mem h.namesRegistry

theorem unique {registry' repository' : List Char} (h : StandsFor name registry repository)
    (h' : StandsFor name registry' repository') :
    registry = registry' ∧ repository = repository' :=
  Prod.mk.inj ((standsFor_iff.1 h).symm.trans (standsFor_iff.1 h'))

end StandsFor

/-! ## Parts of references -/

/-- A reference that was obtained has the parts of a trimmed text. -/
theorem IsObtained.exists_parts {r : Reference} (h : r.IsObtained) :
    ∃ p : Parts, p.IsWellFormed ∧ Text.Trimmed p.text ∧ p.Gives r := by
  have hread := h.parse_written
  obtain ⟨p, hp, hs⟩ := Parts.exists_of_parse hread
  have htrimmed : Text.Trimmed p.text := by
    rw [hs]
    exact Text.trimmed_trimChars _
  exact ⟨p, hp, htrimmed, hp.gives_of_parse hs hread⟩

theorem Parts.Gives.tag_or_digest {p : Parts} {r : Reference} (h : p.Gives r) :
    r.tag ≠ none ∨ r.digest ≠ none := by
  by_cases hmissing : p.tag = none ∧ p.digest = none
  · refine .inl fun htag => ?_
    have := h.tag
    rw [htag, if_pos hmissing] at this
    cases this
  · have htag := h.tag
    have hdigest := h.digest
    rw [if_neg hmissing] at htag
    by_cases hnone : p.tag = none
    · refine .inr fun hr => hmissing ⟨hnone, ?_⟩
      rw [hr, Option.map_none] at hdigest
      exact Option.map_eq_none_iff.1 hdigest.symm
    · refine .inl fun hr => hnone ?_
      rw [hr] at htag
      exact htag.symm

/-- The parts of the text in full. -/
def shownParts (r : Reference) : Parts where
  name := r.registry.toList ++ '/' :: r.repository.toList
  tag := r.tag.map String.toList
  digest := r.digest.map fun d => d.toText.toList

theorem text_shownParts (r : Reference) : r.shownParts.text = r.toText.toList := by
  unfold Parts.text Parts.nameTag shownParts toText context
  cases r.tag <;> cases r.digest <;> simp

theorem IsObtained.isWellFormed_shownParts {r : Reference} (h : r.IsObtained) :
    r.shownParts.IsWellFormed := by
  obtain ⟨p, hp, -, hgives⟩ := h.exists_parts
  have hstands := hgives.standsFor
  have hat : '@' ∉ r.registry.toList ++ r.repository.toList := by
    intro hmem
    rcases hstands.mem hmem with hmem | hmem | hmem
    · exact hp.at_not_mem hmem
    · exact absurd hmem (by decide)
    · exact absurd hmem (by decide)
  rw [List.mem_append, not_or] at hat
  refine ⟨?_, fun t ht => ?_, fun d hd => ?_, _, _, hstands.full, ?_⟩
  · exact List.not_mem_append hat.1 (List.not_mem_cons_of_ne_of_not_mem (by decide) hat.2)
  · obtain ⟨tag, htag, rfl⟩ := Option.map_eq_some_iff.1 ht
    exact isTag_iff.1 (h.isTag tag htag)
  · obtain ⟨digest, -, rfl⟩ := Option.map_eq_some_iff.1 hd
    exact ⟨digest, digest.parse_ofList_toText⟩
  · obtain ⟨registry, repository, hname, hrepository⟩ := hp.isRepository
    rwa [(hstands.unique hname).2]

theorem isSpace_of_isTagChar {c : Char} (h : (isTagStart c || c == '.' || c == '-') = true) :
    Text.isSpace c = false := by
  refine Text.isSpace_of_visible ?_
  rcases isTagChar_iff.1 h with h | h | h | rfl | rfl | rfl
  · exact ⟨Char.le_trans (by decide) h.1, Char.le_trans h.2 (by decide)⟩
  · exact ⟨Char.le_trans (by decide) h.1, Char.le_trans h.2 (by decide)⟩
  · exact ⟨Char.le_trans (by decide) h.1, Char.le_trans h.2 (by decide)⟩
  all_goals decide

theorem toList_context (r : Reference) :
    r.context.toList = r.registry.toList ++ '/' :: r.repository.toList := by
  simp [context, String.toList_append]

/-- A registry begins as the text does that it was read from. -/
theorem IsObtained.head_context {r : Reference} (h : r.IsObtained) :
    ∀ c, r.context.toList.head? = some c → Text.isSpace c = false := by
  intro c hc
  obtain ⟨p, -, -, hgives⟩ := h.exists_parts
  have hne : r.registry.toList ≠ [] := fun hnil => by
    have := hgives.standsFor.namesRegistry
    rw [hnil] at this
    rcases this with h | h | h <;> cases h
  rw [toList_context, ← Text.head?_of_isPrefix (List.prefix_append _ _) hne] at hc
  rcases hgives.standsFor.head?_registry with heq | heq
  · rw [heq, ← hgives.name] at hc
    exact h.standsAlone.head c hc
  · rw [heq] at hc
    cases hc
    decide

/-- The text in full has no white space around it. -/
theorem IsObtained.trimmed_toText {r : Reference} (h : r.IsObtained) :
    Text.Trimmed r.toText.toList := by
  obtain ⟨p, -, -, hgives⟩ := h.exists_parts
  have hcontext : r.context.toList ≠ [] := by
    rw [toList_context]
    simp
  have hhead : ∀ s, ∀ c, (r.context.toList ++ s).head? = some c → Text.isSpace c = false := by
    intro s c hc
    rw [← Text.head?_of_isPrefix (List.prefix_append _ s) hcontext] at hc
    exact h.head_context c hc
  unfold toText
  cases hdigest : r.digest with
  | some d =>
    dsimp only
    rw [← String.append_assoc, toList_append_digest, String.toList_append]
    exact trimmed_append_digest (List.append_ne_nil_of_left_ne_nil hcontext _) (hhead _) d
  | none =>
    cases htag : r.tag with
    | none => exact absurd hgives.tag_or_digest (by simp [htag, hdigest])
    | some t =>
      have ht := isTag_iff.1 (h.isTag t htag)
      have htext : (r.context ++ (":" ++ t) ++ "").toList =
          (r.context.toList ++ [':']) ++ t.toList := by simp
      dsimp only
      rw [htext]
      refine Text.Trimmed.append (by simp) ?_ (hhead _) fun c hc => ?_
      · exact List.ne_nil_of_length_pos ht.length_pos
      · exact isSpace_of_isTagChar (isTagChar_iff.2 (ht.range c (List.mem_of_getLast? hc)))

/-- The text in full is read as a reference that is shown alike. -/
theorem IsObtained.parse_toText {r : Reference} (h : r.IsObtained) :
    ∃ shown, parse r.toText = .ok shown ∧ shown.registry = r.registry ∧
      shown.repository = r.repository ∧ shown.tag = r.tag ∧ shown.digest = r.digest := by
  have htext : r.shownParts.text = Text.trimChars r.toText.toList := by
    rw [h.trimmed_toText.trimChars_eq, text_shownParts]
  obtain ⟨shown, hshown, hgives⟩ := h.isWellFormed_shownParts.exists_parse htext
  obtain ⟨p, -, -, hr⟩ := h.exists_parts
  obtain ⟨hregistry, hrepository⟩ := hgives.standsFor.unique hr.standsFor.full
  refine ⟨shown, hshown, String.toList_inj.1 hregistry, String.toList_inj.1 hrepository, ?_, ?_⟩
  · have hmissing : ¬ (r.shownParts.tag = none ∧ r.shownParts.digest = none) := by
      rintro ⟨htag, hdigest⟩
      rcases hr.tag_or_digest with h | h
      · exact h (Option.map_eq_none_iff.1 htag)
      · exact h (Option.map_eq_none_iff.1 hdigest)
    have htag := hgives.tag
    rw [if_neg hmissing] at htag
    exact Option.map_injective (fun _ _ => String.toList_inj.1) htag
  · have hdigest := hgives.digest
    unfold shownParts at hdigest
    simp only [Option.map_map, Function.comp_def, Digest.parse_ofList_toText] at hdigest
    exact Option.map_injective (fun _ _ => Except.ok.inj) hdigest

/-! ## Contexts -/

/-- The first slash of a context ends the registry. -/
theorem sameRepository_iff {r s : Reference} (hr : r.IsObtained) (hs : s.IsObtained) :
    r.sameRepository s = true ↔ r.context = s.context := by
  constructor
  · exact context_of_sameRepository
  · intro h
    have hcut : ∀ {x : Reference}, x.IsObtained →
        Text.cut '/' x.context.toList = some (x.registry.toList, x.repository.toList) := by
      intro x hx
      obtain ⟨p, -, -, hgives⟩ := hx.exists_parts
      exact Text.cut_eq_some_iff.2 ⟨toList_context x, hgives.standsFor.slash_not_mem⟩
    have hsame := (hcut hr).symm.trans ((congrArg _ (congrArg _ h)).trans (hcut hs))
    rw [Option.some.injEq, Prod.mk.injEq] at hsame
    rw [sameRepository, Bool.and_eq_true, beq_iff_eq, beq_iff_eq]
    exact ⟨String.toList_inj.1 hsame.1, String.toList_inj.1 hsame.2⟩

/-- A reference is read back from the text that it keeps, in every field, and from its text in full up to
    that text; and two references have the same repository if and only if their contexts are equal. -/
theorem texts_read_back {r s : Reference} (hr : r.IsObtained) (hs : s.IsObtained) :
    parse r.written = .ok r ∧
    (∃ shown, parse r.toText = .ok shown ∧ shown.registry = r.registry ∧
      shown.repository = r.repository ∧ shown.tag = r.tag ∧ shown.digest = r.digest ∧
      shown.toText = r.toText) ∧
    (r.sameRepository s = true ↔ r.context = s.context) := by
  obtain ⟨shown, hshown, hregistry, hrepository, htag, hdigest⟩ := hr.parse_toText
  refine ⟨hr.parse_written, ⟨shown, hshown, hregistry, hrepository, htag, hdigest, ?_⟩,
    sameRepository_iff hr hs⟩
  unfold toText context
  rw [hregistry, hrepository, htag, hdigest]

/-- A name that leaves out all that it can. -/
def official : Reference where
  written := "b"
  name := "b"
  registry := "docker.io"
  repository := "library/b"
  tag := some "latest"
  digest := none

/-- A name of the same repository that leaves out nothing. -/
def spelled : Reference where
  written := "docker.io/library/b:2"
  name := "docker.io/library/b"
  registry := "docker.io"
  repository := "library/b"
  tag := some "2"
  digest := none

/-- A digest of one byte. -/
def tiny : Digest where
  algorithm := "x"
  hex := "0a"
  wellFormed :=
    { algorithm_ne_nil := by decide
      colon_not_mem := by decide
      hex_ne_nil := by decide
      isLower := List.all_eq_true.1 (by decide)
      length_sha256 := fun h => absurd h (by decide) }

/-- With a digest, the short name is written without its defaults and shown with them. -/
theorem texts_read_back_official : parse "b" = .ok official ∧
    parse "docker.io/library/b:2" = .ok spelled ∧
    parse "b@x:0a" = .ok (official.withDigest tiny) ∧
    (∃ shown, parse "docker.io/library/b@x:0a" = .ok shown ∧ shown.registry = "docker.io" ∧
      shown.repository = "library/b" ∧ shown.tag = none ∧ shown.digest = some tiny ∧
      shown.toText = "docker.io/library/b@x:0a") ∧
    (official.withDigest tiny).sameRepository spelled = true := by
  have hofficial : parse "b" = .ok official := by rfl
  have hspelled : parse "docker.io/library/b:2" = .ok spelled := by rfl
  have hkept : (official.withDigest tiny).written = "b@x:0a" := by decide
  have hfull : (official.withDigest tiny).toText = "docker.io/library/b@x:0a" := by decide
  obtain ⟨hwritten, hshown, hsame⟩ :=
    texts_read_back (.withDigest (.parsed hofficial) tiny) (.parsed hspelled)
  rw [hkept] at hwritten
  rw [hfull] at hshown
  exact ⟨hofficial, hspelled, hwritten, hshown, hsame.2 rfl⟩

end OciCompose.Reference
