import OciCompose.Proofs.MultiPlatform
import OciCompose.Proofs.Reference

/-
  Annotations that record a base.
  Writing them sets the digest, sets the name if there is one, and leaves every other annotation as it
  is. A name is never taken away, so an image that has the name of its own base keeps it behind a base
  that has none: the two annotations describe the configured base if and only if this does not happen
  (`describes_annotate_iff`).
-/

namespace OciCompose

namespace Provenance

/-! ## Single annotations -/

theorem get?_annotate_digestKey (p : Provenance) (a : Annotations) (d : Digest) :
    (p.annotate a d).get? digestKey = some (p.digest.getD d).toText := by
  have hne : digestKey ≠ nameKey := by decide
  unfold annotate
  cases p.name with
  | none => rw [SortedMap.get?_insert, if_pos rfl]
  | some n => rw [SortedMap.get?_insert, if_neg hne, SortedMap.get?_insert, if_pos rfl]

/-- A name that is not written is the one that was there. -/
theorem get?_annotate_nameKey (p : Provenance) (a : Annotations) (d : Digest) :
    (p.annotate a d).get? nameKey = p.name.or (a.get? nameKey) := by
  have hne : nameKey ≠ digestKey := by decide
  unfold annotate
  cases p.name with
  | none => rw [SortedMap.get?_insert, if_neg hne, Option.none_or]
  | some n => rw [SortedMap.get?_insert, if_pos rfl, Option.some_or]

/-- Only the two annotations of a base are written. -/
theorem get?_annotate (p : Provenance) (a : Annotations) (d : Digest) {k : String}
    (hname : k ≠ nameKey) (hdigest : k ≠ digestKey) : (p.annotate a d).get? k = a.get? k := by
  unfold annotate
  cases p.name with
  | none => rw [SortedMap.get?_insert, if_neg hdigest]
  | some n => rw [SortedMap.get?_insert, if_neg hname, SortedMap.get?_insert, if_neg hdigest]

/-! ## Both of them -/

/-- The annotations describe a base: its digest, or the one that it was resolved to, and its name with
    its tag if it has a tag. -/
structure Describes (base : Reference) (resolved : Digest) (a : Annotations) : Prop where
  digest : a.get? digestKey = some (base.digest.getD resolved).toText
  name : a.get? nameKey = base.tag.map fun t => base.name ++ ":" ++ t

theorem describes_iff (base : Reference) (a : Annotations) (appendedTo : Digest) :
    Describes base appendedTo ((ofBase? (some base)).annotate a appendedTo) ↔
      (base.tag = none → a.get? nameKey = none) := by
  have hname := get?_annotate_nameKey (ofBase? (some base)) a appendedTo
  have hdigest := get?_annotate_digestKey (ofBase? (some base)) a appendedTo
  unfold ofBase? at hname hdigest ⊢
  dsimp only at hname hdigest ⊢
  constructor
  · intro h htag
    have := h.name
    rwa [hname, htag] at this
  · intro h
    refine ⟨hdigest, hname.trans ?_⟩
    cases htag : base.tag with
    | none => exact h htag
    | some t => rfl

/-- What the annotations of an image are after those of a base that was read from a text are written:
    the digest is that of the base, or of the image if the base is not pinned; the name is that of a
    base with a tag, and stays as it was under a base that has a digest only; all others stay too. So
    they describe the base unless it has no tag and the image was given a name before. -/
theorem describes_annotate_iff {text : String} {base : Reference}
    (h : Reference.parse text = .ok base) (a : Annotations) (appendedTo : Digest) :
    let b := (ofBase? (some base)).annotate a appendedTo
    b.get? digestKey = some (base.digest.getD appendedTo).toText ∧
    (∀ t, base.tag = some t → b.get? nameKey = some (base.name ++ ":" ++ t)) ∧
    (base.tag = none → base.digest ≠ none ∧ b.get? nameKey = a.get? nameKey) ∧
    (∀ k, k ≠ nameKey → k ≠ digestKey → b.get? k = a.get? k) ∧
    (Describes base appendedTo b ↔ (base.tag = none → a.get? nameKey = none)) := by
  dsimp only
  have hname := get?_annotate_nameKey (ofBase? (some base)) a appendedTo
  refine ⟨get?_annotate_digestKey _ a appendedTo, fun t ht => ?_, fun ht => ?_,
    fun k hk hk' => get?_annotate _ a appendedTo hk hk', describes_iff base a appendedTo⟩
  · rw [hname, ofBase?, ht]
    rfl
  · refine ⟨(Reference.parse_eq_ok_iff.1 h).digest_ne_none ht, ?_⟩
    rw [hname, ofBase?, ht]
    rfl

/-! ## A base without a tag -/

def bareText : String := "a/b@x:1"

/-- A base that is named by its digest only. -/
def bare : Reference where
  written := bareText
  name := "a/b"
  registry := "docker.io"
  repository := "a/b"
  tag := none
  digest := TwoChildren.first.base.digest

/-- The name of the base of a base. -/
def inherited : Annotations := .ofList [(nameKey, "other:1")]

/-- The digest is that of the base, and the name that of another one. -/
theorem describes_annotate_iff_bare : Reference.parse bareText = .ok bare ∧
    ((ofBase? (some bare)).annotate inherited (TwoChildren.digit '2' rfl)).get? digestKey =
      some "x:1" ∧
    ((ofBase? (some bare)).annotate inherited (TwoChildren.digit '2' rfl)).get? nameKey =
      some "other:1" ∧
    ¬ Describes bare (TwoChildren.digit '2' rfl)
      ((ofBase? (some bare)).annotate inherited (TwoChildren.digit '2' rfl)) := by
  have hparse : Reference.parse bareText = .ok bare := by rfl
  obtain ⟨hdigest, -, hname, -, hdescribes⟩ :=
    describes_annotate_iff hparse inherited (TwoChildren.digit '2' rfl)
  refine ⟨hparse, hdigest, (hname rfl).2, fun h => ?_⟩
  exact absurd (hdescribes.1 h rfl) (by decide)

end Provenance

end OciCompose
