import Mathlib.Data.List.Forall2
import OciCompose.Proofs.Environment

/-
  Expansion of placeholders.
  A value is read once, from the left, into placeholders and single characters (`Scans`); how, does not
  depend on the environment. Its expansion is what the pieces are replaced by, one after the other
  (`expand_scanned`), so what is put in for one piece is never part of another.
-/

namespace OciCompose.Environment

/-! ## Names -/

/-- A letter or an underscore. -/
def IsNameStart (c : Char) : Prop := ('A' ≤ c ∧ c ≤ 'Z') ∨ ('a' ≤ c ∧ c ≤ 'z') ∨ c = '_'

/-- A letter, an underscore or a digit. -/
def IsNameChar (c : Char) : Prop := IsNameStart c ∨ ('0' ≤ c ∧ c ≤ '9')

/-- Name characters, the first of which is no digit. -/
structure IsName (n : List Char) : Prop where
  ne_nil : n ≠ []
  start : ∀ c, n.head? = some c → IsNameStart c
  range : ∀ c ∈ n, IsNameChar c

/-- No name goes on in a text. -/
def EndsName (rest : List Char) : Prop := ∀ c, rest.head? = some c → ¬ IsNameChar c

theorem isNameStart_iff {c : Char} : isNameStart c = true ↔ IsNameStart c := by
  simp [isNameStart, IsNameStart, or_assoc]

theorem isNameChar_iff {c : Char} : isNameChar c = true ↔ IsNameChar c := by
  simp [isNameChar, IsNameChar, isNameStart_iff]

/-- The longest name that a text begins with is the one with no name character behind it. -/
theorem leadingName_append {n rest : List Char} (h : IsName n) (hrest : EndsName rest) :
    leadingName (n ++ rest) = n := by
  obtain ⟨c, cs, rfl⟩ := List.exists_cons_of_ne_nil h.ne_nil
  have hcs : ∀ x ∈ cs, isNameChar x = true :=
    fun x hx => isNameChar_iff.2 (h.range x (List.mem_cons_of_mem _ hx))
  have hstop : rest.takeWhile isNameChar = [] := by
    cases rest with
    | nil => rfl
    | cons x xs => exact List.takeWhile_cons_of_neg (mt isNameChar_iff.1 (hrest x rfl))
  rw [List.cons_append, leadingName, if_pos (isNameStart_iff.2 (h.start c rfl)),
    List.takeWhile_append_of_pos hcs, hstop, List.append_nil]

theorem exists_append_leadingName {cs : List Char} (h : leadingName cs ≠ []) :
    ∃ rest, cs = leadingName cs ++ rest ∧ IsName (leadingName cs) ∧ EndsName rest := by
  cases cs with
  | nil => exact (h rfl).elim
  | cons c cs =>
    rw [leadingName] at h ⊢
    split at h
    · next hc =>
      have hstart := isNameStart_iff.1 hc
      rw [if_pos hc]
      refine ⟨cs.dropWhile isNameChar, ?_, ⟨List.cons_ne_nil _ _, ?_, ?_⟩, ?_⟩
      · rw [List.cons_append, List.takeWhile_append_dropWhile]
      · rintro x ⟨⟩
        exact hstart
      · intro x hx
        rcases List.mem_cons.1 hx with rfl | hx
        · exact .inl hstart
        · exact isNameChar_iff.1 (List.all_eq_true.1 List.all_takeWhile x hx)
      · intro x hx hname
        have hnot := List.head?_dropWhile_not isNameChar cs
        rw [hx] at hnot
        exact absurd (isNameChar_iff.2 hname) (by simpa using hnot)
    · exact (h rfl).elim

/-! ## Placeholders -/

/-- A placeholder that a text begins with, and what stands behind it: a name in braces, or else one that
    ends where no name goes on. -/
inductive Placeholder.Starts : Placeholder → List Char → List Char → Prop
  | braced {n rest : List Char} (isName : IsName n) :
      Starts ⟨n, true⟩ ('$' :: '\x7b' :: (n ++ '\x7d' :: rest)) rest
  | plain {n rest : List Char} (isName : IsName n) (ends : EndsName rest) :
      Starts ⟨n, false⟩ ('$' :: (n ++ rest)) rest

namespace Placeholder

theorem Starts.text_eq {p : Placeholder} {text rest : List Char} (h : p.Starts text rest) :
    text = '$' :: (p.tail ++ rest) := by
  cases h <;> simp [tail]

theorem endsName_brace (rest : List Char) : EndsName ('\x7d' :: rest) := by
  rintro c ⟨⟩
  rw [← isNameChar_iff]
  decide

theorem Starts.after? {p : Placeholder} {cs rest : List Char} (h : p.Starts ('$' :: cs) rest) :
    after? cs = some p := by
  cases h with
  | @braced n _ isName =>
    have hname := leadingName_append isName (endsName_brace rest)
    simp [Placeholder.after?, hname, isName.ne_nil]
  | @plain n _ isName ends =>
    have hname := leadingName_append isName ends
    unfold Placeholder.after?
    split
    · -- a name does not begin with a brace
      next cs heq =>
      obtain ⟨c, t, rfl⟩ := List.exists_cons_of_ne_nil isName.ne_nil
      cases heq
      exact absurd (isNameStart_iff.2 (isName.start _ rfl)) (by decide)
    · rw [hname]
      exact if_pos isName.ne_nil

theorem exists_starts {p : Placeholder} {cs : List Char} (h : after? cs = some p) :
    ∃ rest, p.Starts ('$' :: cs) rest := by
  unfold after? at h
  split at h
  · next cs =>
    dsimp only at h
    split at h
    · next hname =>
      cases h
      obtain ⟨rest, hcs, hisName, -⟩ := exists_append_leadingName hname.1
      generalize leadingName cs = n at hcs hisName hname
      subst hcs
      rw [List.drop_left] at hname
      cases rest with
      | nil => cases hname.2
      | cons c rest =>
        cases hname.2
        exact ⟨rest, .braced hisName⟩
    · cases h
  · next _ _ =>
    dsimp only at h
    split at h
    · next hname =>
      cases h
      obtain ⟨rest, hcs, hisName, hends⟩ := exists_append_leadingName hname
      generalize leadingName cs = n at hcs hisName hname
      subst hcs
      exact ⟨rest, .plain hisName hends⟩
    · cases h

/-- At most one placeholder begins a text, and it ends at one place. -/
theorem Starts.unique {p q : Placeholder} {text rest rest' : List Char} (h : p.Starts text rest)
    (h' : q.Starts text rest') : p = q ∧ rest = rest' := by
  have htext := h.text_eq
  subst htext
  have hpq := h.after?.symm.trans h'.after?
  cases hpq
  have heq := h'.text_eq
  rw [List.cons.injEq, List.append_right_inj] at heq
  exact ⟨rfl, heq.2⟩

end Placeholder

/-! ## Values -/

/-- What a value is made of. -/
inductive Piece where
  | char (c : Char)
  | placeholder (p : Placeholder)

/-- A value read from the left: a placeholder wherever one begins, and a character elsewhere. -/
inductive Scans : List Char → List Piece → Prop
  | nil : Scans [] []
  | placeholder {p : Placeholder} {text rest : List Char} {pieces : List Piece}
      (starts : p.Starts text rest) (scans : Scans rest pieces) :
      Scans text (.placeholder p :: pieces)
  | char {c : Char} {cs : List Char} {pieces : List Piece}
      (not_starts : ∀ p rest, ¬ Placeholder.Starts p (c :: cs) rest) (scans : Scans cs pieces) :
      Scans (c :: cs) (.char c :: pieces)

/-- What a piece is replaced by: a variable by its last value, a braced `PATH` that no entry defines by
    `/usr/bin`, all else by itself. -/
inductive Replaces (base : List String) : Piece → List Char → Prop
  | char (c : Char) : Replaces base (.char c) [c]
  | value {p : Placeholder} {v : String} (last : LastValue (String.ofList p.name) v base) :
      Replaces base (.placeholder p) v.toList
  | path (undefined : ∀ e ∈ base, ∀ v, ¬ Defines e "PATH" v) :
      Replaces base (.placeholder ⟨"PATH".toList, true⟩) "/usr/bin".toList
  | itself {p : Placeholder} (undefined : ∀ e ∈ base, ∀ v, ¬ Defines e (String.ofList p.name) v)
      (other : p ≠ ⟨"PATH".toList, true⟩) : Replaces base (.placeholder p) ('$' :: p.tail)

theorem Scans.unique {text : List Char} {pieces other : List Piece} (h : Scans text pieces)
    (h' : Scans text other) : other = pieces := by
  induction h generalizing other with
  | nil =>
    cases h' with
    | nil => rfl
    | placeholder starts _ => cases starts
  | placeholder starts _ ih =>
    cases h' with
    | nil => cases starts
    | placeholder starts' scans =>
      obtain ⟨rfl, rfl⟩ := starts.unique starts'
      rw [ih scans]
    | char not_starts _ => exact (not_starts _ _ starts).elim
  | char not_starts _ ih =>
    cases h' with
    | placeholder starts _ => exact (not_starts _ _ starts).elim
    | char _ scans => rw [ih scans]

theorem exists_scans (text : List Char) : ∃ pieces, Scans text pieces := by
  induction hn : text.length using Nat.strongRecOn generalizing text with
  | ind n ih =>
  cases text with
  | nil => exact ⟨[], .nil⟩
  | cons c cs =>
    by_cases h : ∃ p rest, Placeholder.Starts p (c :: cs) rest
    · obtain ⟨p, rest, hstarts⟩ := h
      have hshorter : rest.length < n := by
        rw [← hn, hstarts.text_eq, List.length_cons, List.length_append]
        omega
      obtain ⟨pieces, hpieces⟩ := ih _ hshorter rest rfl
      exact ⟨_, .placeholder hstarts hpieces⟩
    · obtain ⟨pieces, hpieces⟩ := ih _ (by rw [← hn]; simp) cs rfl
      exact ⟨_, .char (fun p rest hstarts => h ⟨p, rest, hstarts⟩) hpieces⟩

variable {look : String → Option String}

/-- The characters of a placeholder are passed over. -/
theorem expandFrom_append (a b : List Char) :
    expandFrom look a.length (a ++ b) = expandFrom look 0 b := by
  induction a with
  | nil => rfl
  | cons c a ih => exact ih

theorem expandFrom_of_starts {p : Placeholder} {text rest : List Char} (h : p.Starts text rest) :
    expandFrom look 0 text = p.value look ++ expandFrom look 0 rest := by
  have htext := h.text_eq
  subst htext
  rw [expandFrom, if_pos rfl, h.after?]
  dsimp only
  rw [expandFrom_append]

theorem expandFrom_of_not_starts {c : Char} {cs : List Char}
    (h : ∀ p rest, ¬ Placeholder.Starts p (c :: cs) rest) :
    expandFrom look 0 (c :: cs) = c :: expandFrom look 0 cs := by
  rw [expandFrom]
  split
  · next hc =>
    subst hc
    split
    · next p hp =>
      obtain ⟨rest, hstarts⟩ := Placeholder.exists_starts hp
      exact (h p rest hstarts).elim
    · rfl
  · rfl

theorem replaces_value (base : List String) (p : Placeholder) :
    Replaces base (.placeholder p) (p.value (lookup base)) := by
  unfold Placeholder.value
  cases hlookup : lookup base (String.ofList p.name) with
  | some v => exact .value (lookup_eq_some_iff.1 hlookup)
  | none =>
    have hundefined := lookup_eq_none_iff.1 hlookup
    dsimp only
    split
    · next hpath =>
      obtain ⟨name, braced⟩ := p
      obtain ⟨rfl, rfl⟩ := hpath
      exact .path hundefined
    · next hpath =>
      refine .itself hundefined ?_
      rintro rfl
      exact hpath ⟨rfl, rfl⟩

theorem Scans.expandFrom {text : List Char} {pieces : List Piece} (h : Scans text pieces)
    (base : List String) : ∃ texts, List.Forall₂ (Replaces base) pieces texts ∧
      expandFrom (lookup base) 0 text = texts.flatten := by
  induction h with
  | nil => exact ⟨[], .nil, rfl⟩
  | placeholder starts _ ih =>
    obtain ⟨texts, htexts, hexpand⟩ := ih
    refine ⟨_, .cons (replaces_value base _) htexts, ?_⟩
    rw [expandFrom_of_starts starts, hexpand, List.flatten_cons]
  | char not_starts _ ih =>
    obtain ⟨texts, htexts, hexpand⟩ := ih
    refine ⟨_, .cons (.char _) htexts, ?_⟩
    rw [expandFrom_of_not_starts not_starts, hexpand]
    rfl

/-- A value falls into pieces in one way, which does not depend on an environment, and its expansion by
    any environment is what these pieces are replaced by. -/
theorem expand_scanned (value : String) : ∃ pieces, Scans value.toList pieces ∧
    (∀ other, Scans value.toList other → other = pieces) ∧
    ∀ base, ∃ texts, List.Forall₂ (Replaces base) pieces texts ∧
      (expand (lookup base) value).toList = texts.flatten := by
  obtain ⟨pieces, hpieces⟩ := exists_scans value.toList
  refine ⟨pieces, hpieces, fun other => hpieces.unique, fun base => ?_⟩
  obtain ⟨texts, htexts, hexpand⟩ := hpieces.expandFrom base
  exact ⟨texts, htexts, String.toList_ofList.trans hexpand⟩

/-- What is put in is not read again, and a name ends before a letter that is none of ASCII. -/
example : expand (lookup ["A=$B", "B=x"]) "$A-$\x7bA\x7d$$B$Bé$1$\x7bB$\x7bPATH\x7d$PATH" =
    "$B-$B$xxé$1$\x7bB/usr/bin$PATH" := by decide

end OciCompose.Environment
