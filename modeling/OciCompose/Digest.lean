import OciCompose.Text
import OciCompose.Sha256
import OciCompose.Error

/-
  Content digests, written `algorithm:hex`.
  A digest carries the proof that it is well formed, so `parse_toText`: its text reads back as
  itself; `ofBytes` is the SHA-256 digest of some content.
-/

namespace OciCompose

/-- The texts before and after the colon of a digest. -/
structure Digest.WellFormed (algorithm hex : List Char) : Prop where
  algorithm_ne_nil : algorithm ≠ []
  colon_not_mem : ':' ∉ algorithm
  hex_ne_nil : hex ≠ []
  isLower : ∀ c ∈ hex, Hex.isLower c = true
  length_sha256 : algorithm = "sha256".toList → hex.length = 64

structure Digest where
  algorithm : String
  hex : String
  wellFormed : Digest.WellFormed algorithm.toList hex.toList

namespace Digest

theorem ext {d e : Digest} (ha : d.algorithm = e.algorithm) (hh : d.hex = e.hex) : d = e := by
  cases d; cases e; cases ha; cases hh; rfl

instance : DecidableEq Digest := fun d e =>
  if h : d.algorithm = e.algorithm ∧ d.hex = e.hex then .isTrue (ext h.1 h.2)
  else .isFalse fun he => h (he ▸ ⟨rfl, rfl⟩)

def toText (d : Digest) : String := d.algorithm ++ ":" ++ d.hex

/-- The first twelve digits. -/
def short (d : Digest) : String := String.ofList (d.hex.toList.take 12)

/-- The SHA-256 digest of some content. -/
def ofBytes (content : Bytes) : Digest where
  algorithm := "sha256"
  hex := String.ofList (Sha256.hex content)
  wellFormed := by
    have h := Sha256.length_hex content
    constructor
    · decide
    · decide
    · intro h0
      simp only [String.toList_ofList] at h0
      simp [h0] at h
    · intro c hc
      simp only [String.toList_ofList] at hc
      exact Sha256.isLower_of_mem_hex hc
    · intro _
      simp only [String.toList_ofList, h]

/-- Reads `algorithm:hex`. Digits are folded to lower case; a SHA-256 digest has 64 of them. -/
def parse (value : String) : Except Error Digest :=
  match h : Text.cut ':' value.toList with
  | none => .error (.invalidReference value .badDigest)
  | some (algorithm, hex) =>
    if ha : algorithm = [] then .error (.invalidReference value .badDigest)
    else if hx : hex = [] ∨ ¬ hex.all Hex.isDigit then .error (.invalidReference value .badDigest)
    else if hl : algorithm = "sha256".toList ∧ hex.length ≠ 64 then
      .error (.invalidReference value (.digestLength hex.length))
    else .ok {
      algorithm := String.ofList algorithm
      hex := String.ofList (hex.map Char.toLower)
      wellFormed := by
        simp only [not_or, List.all_eq_true, Classical.not_not] at hx
        constructor
        · simpa using ha
        · simpa using (Text.cut_eq_some_iff.1 h).2
        · simpa using hx.1
        · intro c hc
          simp only [String.toList_ofList, List.mem_map] at hc
          obtain ⟨x, hxm, rfl⟩ := hc
          exact Hex.isLower_toLower (hx.2 x hxm)
        · intro hs
          simp only [String.toList_ofList] at hs
          simpa [hs] using hl }

theorem isDigit_of_isLower {c : Char} (h : Hex.isLower c = true) : Hex.isDigit c = true := by
  simp [Hex.isDigit, h]

theorem parse_toText (d : Digest) : parse d.toText = .ok d := by
  obtain ⟨a, x, w⟩ := d
  have hl : (toText ⟨a, x, w⟩).toList = a.toList ++ ':' :: x.toList := by
    simp [toText, String.toList_append]
  have hc : Text.cut ':' (toText ⟨a, x, w⟩).toList = some (a.toList, x.toList) :=
    Text.cut_eq_some_iff.2 ⟨hl, w.colon_not_mem⟩
  have hm : x.toList.map Char.toLower = x.toList := by
    conv => rhs; rw [← List.map_id x.toList]
    exact List.map_congr_left fun c hc => Hex.toLower_of_isLower (w.isLower c hc)
  have hd : x.toList.all Hex.isDigit = true := by
    rw [List.all_eq_true]
    exact fun c hc => isDigit_of_isLower (w.isLower c hc)
  unfold parse
  split
  · next h => rw [hc] at h; cases h
  · next algorithm hex h =>
    rw [hc] at h
    cases h
    rw [dif_neg w.algorithm_ne_nil, dif_neg (by simp [w.hex_ne_nil, hd]),
      dif_neg (by rintro ⟨h1, h2⟩; exact h2 (w.length_sha256 h1))]
    congr 1
    apply ext <;> simp [hm]

end Digest

end OciCompose
