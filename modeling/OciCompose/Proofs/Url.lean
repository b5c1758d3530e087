import Mathlib.Data.List.TakeWhile
import OciCompose.Url

/-
  Where URLs lead.
  A text says where its URL leads before the slash that ends its authority, so texts that differ only
  behind that slash lead to one site (`site_parse`). The rest may well say whether a URL can be
  requested, but never of whom.
-/

namespace OciCompose.Url

/-- The host and the port that a URL leads to. -/
def site (u : Url) : Host × Nat := (u.host, u.portNumber.getD u.scheme.defaultPort)

/-! ## Texts that are cleaned -/

/-- A character that no part of a text loses when the text is cleaned. -/
def IsSolid (c : Char) : Prop := 0x20 < c.toNat

theorem IsSolid.kept {c : Char} (h : IsSolid c) : (c != '\t' && c != '\n' && c != '\r') = true := by
  have hne : ∀ d : Char, d.toNat ≤ 0x20 → (c != d) = true := by
    intro d hd
    rw [bne_iff_ne]
    rintro rfl
    exact absurd h (by unfold IsSolid; omega)
  rw [hne '\t' (by decide), hne '\n' (by decide), hne '\r' (by decide)]
  rfl

/-- A text up to a slash, without the tabs and line breaks in it. -/
def unbroken (s : List Char) : List Char := s.filter fun c => c != '\t' && c != '\n' && c != '\r'

/-- What is cleaned before a slash does not depend on what is behind it. -/
theorem clean_append_slash {c : Char} (hc : IsSolid c) (a b : List Char) :
    ∃ b', clean (c :: a ++ '/' :: b) = unbroken (c :: a) ++ '/' :: b' := by
  have hfirst (s : List Char) : (c :: s).dropWhile (fun x => decide (x.toNat ≤ 0x20)) = c :: s := by
    refine List.dropWhile_cons_of_neg ?_
    unfold IsSolid at hc
    rw [decide_eq_true_eq]
    omega
  unfold clean
  dsimp only
  rw [List.cons_append, hfirst, ← List.cons_append, List.reverse_append, List.reverse_cons,
    List.append_assoc, List.dropWhile_append]
  split
  · refine ⟨[], ?_⟩
    rw [List.singleton_append, List.dropWhile_cons_of_neg (by decide), List.reverse_cons,
      List.reverse_reverse, List.filter_append]
    rfl
  · refine ⟨unbroken (b.reverse.dropWhile fun x => decide (x.toNat ≤ 0x20)).reverse, ?_⟩
    rw [List.reverse_append, List.reverse_append, List.reverse_reverse, List.filter_append,
      List.filter_append, List.append_assoc]
    rfl

/-! ## Authorities -/

theorem takeWhile_append_slash (x b : List Char) :
    (x ++ '/' :: b).takeWhile (!endsAuthority ·) = x.takeWhile (!endsAuthority ·) := by
  rw [List.takeWhile_append]
  split
  · next h =>
    rw [List.takeWhile_cons_of_neg (by decide), List.append_nil]
    exact ((List.takeWhile_prefix _).eq_of_length h).symm
  · rfl

theorem site_ofAuthority (scheme : Scheme) (x b b' : List Char) :
    (ofAuthority scheme (x ++ '/' :: b)).map site =
      (ofAuthority scheme (x ++ '/' :: b')).map site := by
  unfold ofAuthority
  rw [takeWhile_append_slash, takeWhile_append_slash]
  dsimp only
  -- the same with user information and without
  rcases Text.cutLast '@' (x.takeWhile (!endsAuthority ·)) with _ | ⟨user, hostPort⟩
  all_goals
    dsimp only
    split
    · rfl
    rcases Host.parse _ with e | host
    · rfl
    rcases portNumber? scheme _ with e | n <;> rfl

theorem dropWhile_append_of_solid {x : List Char} (hx : ∃ c ∈ x, isSlash c = false ∧ IsSolid c)
    (b : List Char) :
    (unbroken x ++ b).dropWhile isSlash = (unbroken x).dropWhile isSlash ++ b := by
  rw [List.dropWhile_append, if_neg]
  obtain ⟨c, hc, hslash, hsolid⟩ := hx
  have hmem : c ∈ unbroken x := List.mem_filter.2 ⟨hc, hsolid.kept⟩
  rw [List.isEmpty_iff, List.dropWhile_eq_nil_iff]
  intro hall
  rw [hall c hmem] at hslash
  cases hslash

/-! ## Texts with a scheme -/

theorem splitScheme_name (scheme : Scheme) (rest : List Char) :
    splitScheme (scheme.name.toList ++ ':' :: rest) = some (scheme.name, rest) := by
  have hcut : Text.cut ':' (scheme.name.toList ++ ':' :: rest) = some (scheme.name.toList, rest) :=
    Text.cut_eq_some_iff.2 ⟨rfl, by cases scheme <;> decide⟩
  unfold splitScheme
  rw [hcut]
  cases scheme <;> rfl

theorem schemeOf?_name (scheme : Scheme) : schemeOf? scheme.name = some scheme := by
  cases scheme <;> decide

/-- What a text has behind the slash that ends its authority does not say where its URL leads. -/
theorem site_parse (scheme : Scheme) {x : List Char} (hx : ∃ c ∈ x, isSlash c = false ∧ IsSolid c)
    (b b' : List Char) :
    (parse (scheme.name.toList ++ "://".toList ++ x ++ '/' :: b)).map site =
      (parse (scheme.name.toList ++ "://".toList ++ x ++ '/' :: b')).map site := by
  have hread (b : List Char) : ∃ b',
      parse (scheme.name.toList ++ "://".toList ++ x ++ '/' :: b) =
        ofAuthority scheme ((unbroken x).dropWhile isSlash ++ '/' :: b') := by
    have hclean : ∃ b', clean (scheme.name.toList ++ "://".toList ++ x ++ '/' :: b) =
        unbroken (scheme.name.toList ++ "://".toList ++ x) ++ '/' :: b' := by
      cases scheme <;> exact clean_append_slash (by unfold IsSolid; decide) _ b
    obtain ⟨b', hclean⟩ := hclean
    have hfront : unbroken (scheme.name.toList ++ "://".toList ++ x) =
        scheme.name.toList ++ ':' :: ("//".toList ++ unbroken x) := by
      unfold unbroken
      rw [List.filter_append]
      cases scheme <;> rfl
    refine ⟨b', ?_⟩
    unfold parse
    rw [hclean, hfront, List.append_assoc, List.cons_append, splitScheme_name]
    dsimp only
    rw [schemeOf?_name]
    dsimp only
    rw [← dropWhile_append_of_solid hx, List.append_assoc]
    rfl
  obtain ⟨c, hc⟩ := hread b
  obtain ⟨c', hc'⟩ := hread b'
  rw [hc, hc', site_ofAuthority]

end OciCompose.Url
