import OciCompose.SortedMap
import OciCompose.Text

/-
  Challenges by which a registry asks for a token: `Bearer key="value",key=value`.
-/

namespace OciCompose.Challenge

/-- What every challenge begins with. -/
def scheme : String := "Bearer "

/-- Drops a text as often as it stands in front. -/
def dropRepeated (front : List Char) (s : List Char) : List Char :=
  if _h : front ≠ [] ∧ front.isPrefixOf s then dropRepeated front (s.drop front.length) else s
termination_by s.length
decreasing_by
  obtain ⟨h1, h2⟩ := _h
  have hle : front.length ≤ s.length := (List.isPrefixOf_iff_prefix.1 h2).length_le
  have hpos : 0 < front.length := List.length_pos_iff.2 h1
  simp only [List.length_drop]
  omega

def dropCommas (s : List Char) : List Char := s.dropWhile (· == ',')

/-- The value at the front of a text, and what follows it: up to the next quote if it begins with one,
    else up to the next comma. -/
def splitValue : List Char → List Char × List Char
  | '"' :: quoted =>
    match Text.cut '"' quoted with
    | some (v, rest) => (v, rest)
    | none => (quoted, [])
  | bare => (bare.takeWhile (· != ','), bare.dropWhile (· != ','))

theorem length_dropCommas_le (s : List Char) : (dropCommas s).length ≤ s.length :=
  (List.dropWhile_sublist _).length_le

theorem length_trimChars_le (s : List Char) : (Text.trimChars s).length ≤ s.length := by
  have h1 : (Text.trimStart s).length ≤ s.length := (List.dropWhile_sublist _).length_le
  have h2 (t : List Char) : (Text.trimEnd t).length ≤ t.length := by
    have := (List.dropWhile_sublist (l := t.reverse) Text.isSpace).length_le
    simpa [Text.trimEnd] using this
  exact Nat.le_trans (h2 _) h1

theorem length_splitValue_le (s : List Char) : (splitValue s).2.length ≤ s.length := by
  unfold splitValue
  split
  · next quoted =>
    split
    · next v rest h =>
      have := (Text.cut_eq_some_iff.1 h).1
      simp [this]
      omega
    · simp
  · exact (List.dropWhile_sublist _).length_le

/-- The keys and values in order, up to where no `=` follows. -/
def pairs (s : List Char) : List (String × String) :=
  match _h : Text.cut '=' s with
  | none => []
  | some (key, after) =>
    (String.ofList (Text.trimChars (dropCommas (Text.trimChars key))),
        String.ofList (splitValue after).1) ::
      pairs (Text.trimChars (dropCommas (splitValue after).2))
termination_by s.length
decreasing_by
  have h1 := (Text.cut_eq_some_iff.1 _h).1
  have h2 := length_trimChars_le (dropCommas (splitValue after).2)
  have h3 := length_dropCommas_le (splitValue after).2
  have h4 := length_splitValue_le after
  have h5 : s.length = key.length + (after.length + 1) := by simp [h1]
  omega

/-- The parameters of a challenge. The last of several with one key counts. -/
def parse (header : String) : SortedMap String :=
  .ofList (pairs (Text.trimChars (dropRepeated scheme.toList header.toList)))

end OciCompose.Challenge
