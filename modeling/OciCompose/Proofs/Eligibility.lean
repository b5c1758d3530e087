import OciCompose.Proofs.Selection

/-
  Which entries of an index count, for its platforms and for a selection.
  The platforms of an index are found by filters of their own, a selection by the reasons to skip a
  child. `filters_agree`: both let the same entries through if every platform is chosen, and a choice
  of platforms takes those of them whose platform it accepts.
-/

namespace OciCompose

/-- What a choice of platforms adds to the conditions for a child is that it accepts the platform. -/
theorem Descriptor.eligible_iff_accepts {child : Descriptor} {m : PlatformMatcher} :
    child.Eligible m ↔ child.Eligible .any ∧ m.accepts child.platform = true := by
  constructor
  · rintro ⟨hkind, hrunnable, p, hp, hm⟩
    rw [hp, PlatformMatcher.accepts_iff]
    exact ⟨⟨hkind, hrunnable, p, hp, .inl rfl⟩, hm⟩
  · rintro ⟨⟨hkind, hrunnable, p, hp, -⟩, hm⟩
    rw [hp, PlatformMatcher.accepts_iff] at hm
    exact ⟨hkind, hrunnable, p, hp, hm⟩

/-- Where every platform is chosen, the reasons to skip a child are what the platforms of an index are
    filtered by. -/
theorem Descriptor.eligible_any_iff {child : Descriptor} :
    child.Eligible .any ↔ (ManifestKind.ofMediaType child.mediaType = .ociManifest ∧
      child.isAttestation = false) ∧ child.platform.isSome = true := by
  rw [Bool.eq_false_iff, ne_eq, isAttestation_iff]
  constructor
  · rintro ⟨hkind, hrunnable, p, hp, -⟩
    exact ⟨⟨hkind, hrunnable⟩, Option.isSome_iff_exists.2 ⟨p, hp⟩⟩
  · rintro ⟨⟨hkind, hrunnable⟩, hplatform⟩
    obtain ⟨p, hp⟩ := Option.isSome_iff_exists.1 hplatform
    exact ⟨hkind, hrunnable, p, hp, .inl rfl⟩

theorem Descriptor.isNone_skipReason? (child : Descriptor) (m : PlatformMatcher) :
    (child.skipReason? m).isNone =
      (m.accepts child.platform && (child.skipReason? .any).isNone) := by
  rw [Bool.eq_iff_iff, Bool.and_eq_true, Option.isNone_iff_eq_none, Option.isNone_iff_eq_none,
    skipReason?_eq_none_iff, skipReason?_eq_none_iff, eligible_iff_accepts, and_comm]

namespace ImageIndex

theorem platforms_eligible_any (i : ImageIndex) :
    (i.eligible .any).map Descriptor.platform = i.imagePlatforms.map some := by
  unfold eligible imagePlatforms
  rw [List.map_filterMap_some_eq_filter_map_isSome, List.filter_map, List.filter_filter,
    List.filter_filter]
  refine congrArg (List.map _) (List.filter_congr fun child _ => ?_)
  rw [Bool.eq_iff_iff, Option.isNone_iff_eq_none, Descriptor.skipReason?_eq_none_iff,
    Descriptor.eligible_any_iff]
  simp [and_assoc, and_comm]

theorem eligible_eq_filter (i : ImageIndex) (m : PlatformMatcher) :
    i.eligible m = (i.eligible .any).filter fun child => m.accepts child.platform := by
  unfold eligible
  rw [List.filter_filter]
  exact List.filter_congr fun child _ => child.isNone_skipReason? m

/-- The platforms of what a choice takes are those of the platforms of the index that it accepts. -/
theorem platforms_eligible (i : ImageIndex) (m : PlatformMatcher) :
    (i.eligible m).map Descriptor.platform =
      (i.imagePlatforms.filter fun p => m.accepts (some p)).map some := calc
  _ = ((i.eligible .any).map Descriptor.platform).filter m.accepts := by
    rw [eligible_eq_filter, List.filter_map]
    rfl
  _ = (i.imagePlatforms.map some).filter m.accepts := by rw [platforms_eligible_any]
  _ = _ := List.filter_map

end ImageIndex

namespace IndexAssembler

theorem childrenOf_eq_filter (base : Reference) (m : PlatformMatcher) (position : Nat)
    (entries : List Descriptor) :
    childrenOf base m position entries =
      (childrenOf base .any position entries).filter fun child => m.accepts child.platform := by
  unfold childrenOf
  rw [List.filter_map, List.filter_filter]
  exact congrArg (List.map _) (List.filter_congr fun e _ => e.1.isNone_skipReason? m)

/-- The platforms of an index are those of its entries that are not skipped where every platform is
    chosen, in order. Any choice takes those of these entries, in order, whose platform it accepts, and
    so does a selection of it that succeeds, whatever the registry. -/
theorem filters_agree (i : ImageIndex) :
    (i.eligible .any).map Descriptor.platform = i.imagePlatforms.map some ∧
    ∀ m : PlatformMatcher, (i.eligible m).Sublist (i.eligible .any) ∧
      i.eligible m = (i.eligible .any).filter (fun entry => m.accepts entry.platform) ∧
      ∀ (σ : Type) (r : Registry σ) (base : Reference) (raw : RawManifest) (w w' : Run σ)
        (a : IndexAssembler),
        Json.Decode.ofBytes? ImageIndex.ofJson raw.bytes = some i →
        select r base raw m w = (.ok a, w') →
        a.children =
          (childrenOf base .any 0 i.manifests).filter (fun child => m.accepts child.platform) ∧
        a.children.map SelectedChild.platform =
          (i.imagePlatforms.filter fun p => m.accepts (some p)).map some := by
  refine ⟨i.platforms_eligible_any, fun m => ⟨?_, i.eligible_eq_filter m, ?_⟩⟩
  · rw [i.eligible_eq_filter m]
    exact List.filter_sublist
  intro σ r base raw w w' a hdecode hselect
  obtain ⟨index, hindex, rfl⟩ := (select_gives r base raw m w).ok hselect
  cases hindex.symm.trans hdecode
  refine ⟨childrenOf_eq_filter base m 0 i.manifests, ?_⟩
  rw [← i.platforms_eligible m]
  exact map_childrenOf (fun _ _ => rfl) i m

end IndexAssembler

namespace TwoChildren

open MemoryRegistry IndexAssembler

/-- Of the platforms of two children one is chosen, and its child is selected. -/
theorem filters_agree_wanted :
    Json.Decode.ofBytes? ImageIndex.ofJson rawIndex.bytes = some index ∧
    (index.eligible .any).map Descriptor.platform = [some { os := "l" }, some { os := "w" }] ∧
    ∃ w', select registry base rawIndex wanted start = (.ok (assembler [first]), w') ∧
      [first] = [first, second].filter fun child => wanted.accepts child.platform := by
  have hlisted : index.imagePlatforms = [{ os := "l" }, { os := "w" }] := by decide +kernel
  have hall : childrenOf base .any 0 index.manifests = [first, second] := by decide +kernel
  obtain ⟨w', hselect⟩ := Call.eq_of_fst select_first
  obtain ⟨hplatforms, hagree⟩ := filters_agree index
  obtain ⟨-, -, hchildren⟩ := hagree wanted
  rw [hlisted] at hplatforms
  refine ⟨decode_index, hplatforms, w', hselect, ?_⟩
  exact hall ▸ (hchildren _ _ _ _ _ _ _ decode_index hselect).1

end TwoChildren

end OciCompose
