import Mathlib.Data.List.Basic
import OciCompose.Platform
import OciCompose.Proofs.Text

/-
  Platforms in texts of up to three segments.
  `Named` says which texts are read as which platforms (`parse_eq_ok_iff`). `parse_exact`: a platform
  is written as the text that it was read from, and both parsers read that as the platform.
  `parseLenient_toText_iff`: the text of a platform is read back as that platform if it is plain, and as
  another one if it is not. A text has room for neither a version nor features of the system, and a
  variant behind no architecture takes its place. `toText_eq_unknown_iff`: which platforms are written
  like that of an attestation.
-/

namespace OciCompose

namespace Platform

/-! ## Texts that are read -/

/-- A segment of a text: there is something in it, and no slash. -/
structure IsSegment (cs : List Char) : Prop where
  ne_nil : cs ≠ []
  slash_not_mem : '/' ∉ cs

/-- One to three segments stand for a platform. -/
inductive StandFor : List (List Char) → Platform → Prop
  | os (os : List Char) : StandFor [os] (ofSegments os [] none)
  | arch (os arch : List Char) : StandFor [os, arch] (ofSegments os arch none)
  | variant (os arch variant : List Char) :
      StandFor [os, arch, variant] (ofSegments os arch (some variant))

/-- The texts that name platforms, without the white space around them. -/
inductive Named : List Char → Platform → Prop
  | intro {segments : List (List Char)} {p : Platform} (isSegment : ∀ s ∈ segments, IsSegment s)
      (standFor : StandFor segments p) : Named (['/'].intercalate segments) p

theorem StandFor.ne_nil {segments : List (List Char)} {p : Platform} (h : StandFor segments p) :
    segments ≠ [] := by
  cases h <;> exact List.cons_ne_nil _ _

/-- A text that names a platform falls apart into the segments that it was joined from. -/
theorem named_iff {cs : List Char} {p : Platform} :
    Named cs p ↔ (∀ s ∈ cs.splitOn '/', IsSegment s) ∧ StandFor (cs.splitOn '/') p := by
  constructor
  · rintro ⟨hsegments, hstand⟩
    rw [List.splitOn_intercalate '/' (fun s hs => (hsegments s hs).slash_not_mem) hstand.ne_nil]
    exact ⟨hsegments, hstand⟩
  · rintro ⟨hsegments, hstand⟩
    have h := Named.intro hsegments hstand
    rwa [List.intercalate_splitOn] at h

theorem Named.ne_nil {cs : List Char} {p : Platform} (h : Named cs p) : cs ≠ [] := by
  rintro rfl
  exact ((named_iff.1 h).1 [] (by simp)).ne_nil rfl

/-- Just the texts that name a platform are read, as the platform that they name. -/
theorem parse_eq_ok_iff {text : String} {p : Platform} :
    parse text = .ok p ↔ Named (Text.trimChars text.toList) p := by
  unfold parse
  dsimp only
  generalize Text.trimChars text.toList = cs
  constructor
  · intro h
    split at h
    · cases h
    split at h
    · cases h
    next hlength =>
    split at h
    · cases h
    next hempty =>
    refine named_iff.2 ⟨fun s hs => ⟨fun hnil => hempty ?_, not_mem_of_mem_splitOn hs⟩, ?_⟩
    · exact List.any_eq_true.2 ⟨s, hs, List.isEmpty_iff.2 hnil⟩
    generalize cs.splitOn '/' = segments at h hlength
    rcases segments with _ | ⟨os, _ | ⟨arch, _ | ⟨variant, _ | ⟨_, _⟩⟩⟩⟩ <;> cases h
    · exact .os os
    · exact .arch os arch
    · exact .variant os arch variant
    · exact (hlength (by simp)).elim
  · intro h
    obtain ⟨hsegments, hstand⟩ := named_iff.1 h
    have hfull : (cs.splitOn '/').any List.isEmpty = false := by
      rw [List.any_eq_false]
      exact fun s hs hs' => (hsegments s hs).ne_nil (List.isEmpty_iff.1 hs')
    rw [if_neg h.ne_nil, hfull]
    generalize cs.splitOn '/' = segments at hstand
    cases hstand <;> rfl

/-! ## Texts that are written -/

/-- There is nothing beside the segments, and each of them is one. -/
structure IsSegmented (p : Platform) : Prop where
  osVersion : p.osVersion = none
  osFeatures : p.osFeatures = []
  os : '/' ∉ p.os.toList
  architecture : '/' ∉ p.architecture.toList
  variant : ∀ v, p.variant = some v → '/' ∉ v.toList

/-- A platform whose text says all of it. -/
structure IsPlain (p : Platform) : Prop extends IsSegmented p where
  architecture_ne : p.variant ≠ none → p.architecture ≠ ""

instance (p : Platform) : Decidable p.IsSegmented :=
  decidable_of_iff (p.osVersion = none ∧ p.osFeatures = [] ∧ '/' ∉ p.os.toList ∧
      '/' ∉ p.architecture.toList ∧ ∀ v ∈ p.variant, '/' ∉ v.toList)
    ⟨fun h => ⟨h.1, h.2.1, h.2.2.1, h.2.2.2.1, h.2.2.2.2⟩, fun h => ⟨h.1, h.2, h.3, h.4, h.5⟩⟩

instance (p : Platform) : Decidable p.IsPlain :=
  decidable_of_iff (p.IsSegmented ∧ (p.variant ≠ none → p.architecture ≠ ""))
    ⟨fun h => ⟨h.1, h.2⟩, fun h => ⟨h.1, h.2⟩⟩

theorem isSegmented_ofSegments {os arch : List Char} {variant : Option (List Char)}
    (hos : '/' ∉ os) (harch : '/' ∉ arch) (hvariant : ∀ v, variant = some v → '/' ∉ v) :
    (ofSegments os arch variant).IsSegmented where
  osVersion := rfl
  osFeatures := rfl
  os := by rwa [ofSegments, String.toList_ofList]
  architecture := by rwa [ofSegments, String.toList_ofList]
  variant := by
    intro v hv
    obtain ⟨cs, hcs, rfl⟩ := Option.map_eq_some_iff.1 hv
    rw [String.toList_ofList]
    exact hvariant cs hcs

theorem isSegmented_parseLenient (text : String) : (parseLenient text).IsSegmented := by
  unfold parseLenient
  have hall : ∀ segment ∈ text.toList.splitOn '/', '/' ∉ segment :=
    fun _ h => not_mem_of_mem_splitOn h
  generalize text.toList.splitOn '/' = segments at hall
  split
  · next os arch rest =>
    refine isSegmented_ofSegments (hall os (by simp)) (hall arch (by simp)) fun v hv => ?_
    exact hall v (List.mem_cons_of_mem _ (List.mem_cons_of_mem _ (List.mem_of_mem_head? hv)))
  · next os => exact isSegmented_ofSegments (hall os (by simp)) List.not_mem_nil nofun
  · exact isSegmented_ofSegments List.not_mem_nil List.not_mem_nil nofun

/-- What stands between the slashes that are written. -/
def segments (p : Platform) : List (List Char) :=
  p.os.toList :: ((if p.architecture.isEmpty then [] else [p.architecture.toList]) ++
    (p.variant.map String.toList).toList)

theorem toList_toText (p : Platform) : p.toText.toList = ['/'].intercalate p.segments := by
  unfold toText segments
  cases p.variant <;> cases p.architecture.isEmpty <;> simp [List.intercalate_cons_cons]

theorem IsSegmented.splitOn_toText {p : Platform} (h : p.IsSegmented) :
    p.toText.toList.splitOn '/' = p.segments := by
  rw [toList_toText]
  refine List.splitOn_intercalate '/' (fun segment hmem => ?_) (List.cons_ne_nil _ _)
  unfold segments at hmem
  rcases List.mem_cons.1 hmem with rfl | hmem
  · exact h.os
  rcases List.mem_append.1 hmem with hmem | hmem
  · split at hmem
    · cases hmem
    · rw [List.mem_singleton.1 hmem]
      exact h.architecture
  · obtain ⟨v, hv, rfl⟩ := Option.map_eq_some_iff.1 (Option.mem_toList.1 hmem)
    exact h.variant v hv

/-- Just the plain platforms are read back from their texts. -/
theorem parseLenient_toText_iff (p : Platform) : parseLenient p.toText = p ↔ p.IsPlain := by
  constructor
  · intro h
    have hsegmented : p.IsSegmented := h ▸ isSegmented_parseLenient p.toText
    refine ⟨hsegmented, fun hvariant harch => ?_⟩
    obtain ⟨v, hv⟩ := Option.ne_none_iff_exists'.1 hvariant
    -- the variant is the second segment, so it is read as the architecture
    have hsegments : p.segments = [p.os.toList, v.toList] := by
      simp [segments, harch, hv]
    rw [parseLenient, hsegmented.splitOn_toText, hsegments] at h
    exact hvariant (congrArg Platform.variant h).symm
  · intro h
    rw [parseLenient, h.splitOn_toText]
    obtain ⟨⟨osVersion, osFeatures, -, -, -⟩, hvariant⟩ := h
    obtain ⟨architecture, os, _, _, variant⟩ := p
    cases osVersion
    cases osFeatures
    by_cases harch : architecture = ""
    · subst harch
      cases variant with
      | none => simp [segments, ofSegments]
      | some v => exact (hvariant nofun rfl).elim
    · cases variant <;> simp [segments, ofSegments, harch]

/-! ## Texts that are read and written again -/

/-- The segments that a platform was read from are the ones that it is written with. -/
theorem StandFor.segments_eq {segments : List (List Char)} {p : Platform}
    (hstand : StandFor segments p) (hsegments : ∀ s ∈ segments, IsSegment s) :
    p.segments = segments := by
  cases hstand with
  | os os => simp [Platform.segments, ofSegments]
  | arch os arch =>
    have harch : arch ≠ [] := (hsegments arch (by simp)).ne_nil
    simp [Platform.segments, ofSegments, harch]
  | variant os arch variant =>
    have harch : arch ≠ [] := (hsegments arch (by simp)).ne_nil
    simp [Platform.segments, ofSegments, harch]

theorem StandFor.length_le {segments : List (List Char)} {p : Platform}
    (hstand : StandFor segments p) : 1 ≤ segments.length ∧ segments.length ≤ 3 := by
  cases hstand <;> simp

theorem exists_standFor {segments : List (List Char)} (h1 : 1 ≤ segments.length)
    (h3 : segments.length ≤ 3) : ∃ p, StandFor segments p := by
  rcases segments with _ | ⟨os, _ | ⟨arch, _ | ⟨variant, _ | ⟨_, _⟩⟩⟩⟩
  · exact absurd h1 (by simp)
  · exact ⟨_, .os os⟩
  · exact ⟨_, .arch os arch⟩
  · exact ⟨_, .variant os arch variant⟩
  · exact absurd h3 (by simp)

theorem Named.toList_toText {cs : List Char} {p : Platform} (h : Named cs p) :
    p.toText.toList = cs := by
  obtain ⟨hsegments, hstand⟩ := h
  rw [Platform.toList_toText, hstand.segments_eq hsegments]

/-- The reading that drops nothing and refuses nothing finds the same platform. -/
theorem Named.parseLenient_eq {cs : List Char} {p : Platform} (h : Named cs p) :
    parseLenient (String.ofList cs) = p := by
  obtain ⟨-, hstand⟩ := named_iff.1 h
  rw [parseLenient, String.toList_ofList]
  generalize cs.splitOn '/' = segments at hstand
  cases hstand <;> rfl

theorem exists_named_iff {cs : List Char} :
    (∃ p, Named cs p) ↔ ∃ segments : List (List Char), 1 ≤ segments.length ∧ segments.length ≤ 3 ∧
      (∀ s ∈ segments, IsSegment s) ∧ cs = ['/'].intercalate segments := by
  constructor
  · rintro ⟨p, ⟨hsegments, hstand⟩⟩
    exact ⟨_, hstand.length_le.1, hstand.length_le.2, hsegments, rfl⟩
  · rintro ⟨segments, h1, h3, hsegments, rfl⟩
    obtain ⟨p, hstand⟩ := exists_standFor h1 h3
    exact ⟨p, hsegments, hstand⟩

/-- Texts of one to three segments are read, and no others. A platform that is read from a text is
    written as this text without the white space around it, and both parsers read that as the platform
    again. -/
theorem parse_exact (text : String) :
    ((∃ p, parse text = .ok p) ↔
      ∃ segments : List (List Char), 1 ≤ segments.length ∧ segments.length ≤ 3 ∧
        (∀ s ∈ segments, IsSegment s) ∧
        Text.trimChars text.toList = ['/'].intercalate segments) ∧
    ∀ p, parse text = .ok p →
      p.toText = Text.trim text ∧ parse p.toText = .ok p ∧ parseLenient p.toText = p := by
  constructor
  · rw [← exists_named_iff]
    exact exists_congr fun p => parse_eq_ok_iff
  intro p hp
  have hnamed := parse_eq_ok_iff.1 hp
  have htext : p.toText = Text.trim text := by
    rw [← String.toList_inj, hnamed.toList_toText, Text.trim, String.toList_ofList]
  refine ⟨htext, ?_, ?_⟩
  · -- what is written is trimmed already
    rw [parse_eq_ok_iff, hnamed.toList_toText, (Text.trimmed_trimChars _).trimChars_eq]
    exact hnamed
  · rw [htext]
    exact hnamed.parseLenient_eq

/-- White space around a text is dropped, and white space in it is kept. -/
theorem parse_exact_spaced :
    parse "\tgnu linux/é v8 \n" = .ok { os := "gnu linux", architecture := "é v8" } ∧
      parse "gnu linux/é v8" = .ok { os := "gnu linux", architecture := "é v8" } ∧
      parseLenient "gnu linux/é v8" = { os := "gnu linux", architecture := "é v8" } := by
  have hread : parse "\tgnu linux/é v8 \n" =
      .ok { os := "gnu linux", architecture := "é v8" } := by rfl
  exact ⟨hread, ((parse_exact _).2 _ hread).2⟩

example : IsPlain { os := "linux", architecture := "arm64", variant := some "v8" } ∧
    ¬ IsPlain { os := "linux", variant := some "v8" } ∧
    ¬ IsPlain { os := "windows", architecture := "amd64", osVersion := some "10.0" } := by decide

/-! ## Unknown platforms -/

/-- Texts around one slash are equal if the whole is. -/
theorem eq_of_append_slash {a b s t : String} (hs : '/' ∉ s.toList) (ht : '/' ∉ t.toList)
    (h : a ++ ("/" ++ b) = s ++ ("/" ++ t)) : a = s ∧ b = t := by
  have hlist := congrArg String.toList h
  simp only [String.toList_append] at hlist
  obtain ⟨ha, -, hb⟩ := (List.append_cons_inj_of_notMem hs ht).1 hlist.symm
  exact ⟨(String.toList_inj.1 ha).symm, (String.toList_inj.1 hb).symm⟩

/-- A platform of which nothing is known, whichever fields say so. -/
def IsUnknown (p : Platform) : Prop :=
  p.os = "unknown" ∧ p.architecture = "unknown" ∧ p.variant = none ∨
    p.os = "unknown" ∧ p.architecture = "" ∧ p.variant = some "unknown" ∨
    p.os = "unknown/unknown" ∧ p.architecture = "" ∧ p.variant = none

/-- Just these are written `unknown/unknown`. -/
theorem toText_eq_unknown_iff {p : Platform} : p.toText = "unknown/unknown" ↔ p.IsUnknown := by
  have hcut : ∀ {a b : String}, a ++ ("/" ++ b) = "unknown/unknown" → a = "unknown" ∧ b = "unknown" :=
    fun h => eq_of_append_slash (s := "unknown") (t := "unknown") (by decide) (by decide) h
  obtain ⟨architecture, os, _, _, variant⟩ := p
  unfold IsUnknown toText
  constructor
  · intro h
    by_cases harch : architecture = ""
    · subst harch
      cases variant with
      | none => exact .inr (.inr ⟨by simpa using h, rfl, rfl⟩)
      | some v =>
        obtain ⟨rfl, rfl⟩ := hcut (a := os) (b := v) (by simpa using h)
        exact .inr (.inl ⟨rfl, rfl, rfl⟩)
    · cases variant with
      | none =>
        obtain ⟨rfl, rfl⟩ := hcut (a := os) (b := architecture) (by simpa [harch] using h)
        exact .inl ⟨rfl, rfl, rfl⟩
      | some v =>
        -- two slashes are one too many
        obtain ⟨-, hrest⟩ := hcut (a := os) (b := architecture ++ ("/" ++ v))
          (by simpa [harch, String.append_assoc] using h)
        have hslash : '/' ∈ (architecture ++ ("/" ++ v)).toList := by simp
        rw [hrest] at hslash
        exact absurd hslash (by decide)
  · rintro (⟨rfl, rfl, rfl⟩ | ⟨rfl, rfl, rfl⟩ | ⟨rfl, rfl, rfl⟩) <;> rfl

end Platform

end OciCompose
