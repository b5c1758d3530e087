import OciCompose.Text

/-
  Parts of texts, and texts without white space around them.
  Trimming leaves such a text (`trimmed_trimChars`), and leaves such a text as it is
  (`Trimmed.trimChars_eq`).
-/

namespace OciCompose

/-- Texts between separators have no separator in them. -/
theorem not_mem_of_mem_splitOn {x : Char} {cs segment : List Char}
    (h : segment ∈ cs.splitOn x) : x ∉ segment := by
  induction cs generalizing segment with
  | nil =>
    rw [List.splitOn_nil, List.mem_singleton] at h
    rw [h]
    exact List.not_mem_nil
  | cons c cs ih =>
    rw [List.splitOn_cons_eq_if_modifyHead] at h
    split at h
    · rcases List.mem_cons.1 h with rfl | h
      · exact List.not_mem_nil
      · exact ih h
    next hc =>
    cases hrest : cs.splitOn x with
    | nil => exact (List.splitOn_ne_nil x cs hrest).elim
    | cons first rest =>
      rw [hrest] at h ih
      rcases List.mem_cons.1 h with rfl | h
      · refine List.not_mem_cons_of_ne_of_not_mem (fun heq => hc ?_) (ih List.mem_cons_self)
        rw [heq]
        exact beq_self_eq_true c
      · exact ih (List.mem_cons_of_mem _ h)

namespace Text

/-- Neither the first nor the last character is white space. -/
structure Trimmed (cs : List Char) : Prop where
  head : ∀ c, cs.head? = some c → isSpace c = false
  last : ∀ c, cs.getLast? = some c → isSpace c = false

/-- The characters of ASCII that are seen are no white space. -/
theorem isSpace_of_visible {c : Char} (h : '!' ≤ c ∧ c ≤ '~') : isSpace c = false := by
  have hrange : 33 ≤ c.toNat ∧ c.toNat ≤ 126 := h
  unfold isSpace
  simp only [Bool.or_eq_false_iff, Bool.and_eq_false_iff, decide_eq_false_iff_not,
    beq_eq_false_iff_ne]
  omega

theorem head?_dropWhile {p : Char → Bool} {cs : List Char} {c : Char}
    (h : (cs.dropWhile p).head? = some c) : p c = false := by
  have hnot := List.head?_dropWhile_not p cs
  rw [h] at hnot
  exact hnot

theorem dropWhile_eq_self {p : Char → Bool} {cs : List Char}
    (h : ∀ c, cs.head? = some c → p c = false) : cs.dropWhile p = cs := by
  cases cs with
  | nil => rfl
  | cons c cs => exact List.dropWhile_cons_of_neg (by simp [h c rfl])

theorem trimEnd_isPrefix (cs : List Char) : trimEnd cs <+: cs := by
  have h := (List.dropWhile_suffix isSpace (l := cs.reverse)).reverse
  rwa [List.reverse_reverse] at h

theorem head?_of_isPrefix {a b : List Char} (h : a <+: b) (ha : a ≠ []) : a.head? = b.head? := by
  obtain ⟨rest, rfl⟩ := h
  cases a with
  | nil => exact (ha rfl).elim
  | cons c cs => rfl

theorem trimChars_sublist (cs : List Char) : (trimChars cs).Sublist cs :=
  (trimEnd_isPrefix _).sublist.trans (List.dropWhile_sublist _)

theorem trimmed_trimChars (cs : List Char) : Trimmed (trimChars cs) where
  head := by
    intro c hc
    have hne : trimChars cs ≠ [] := by
      intro hnil
      rw [hnil] at hc
      cases hc
    rw [trimChars, head?_of_isPrefix (trimEnd_isPrefix _) hne] at hc
    exact head?_dropWhile hc
  last := by
    intro c hc
    rw [trimChars, trimEnd, List.getLast?_reverse] at hc
    exact head?_dropWhile hc

theorem Trimmed.trimChars_eq {cs : List Char} (h : Trimmed cs) : trimChars cs = cs := by
  have hstart : trimStart cs = cs := dropWhile_eq_self h.head
  rw [trimChars, hstart, trimEnd, dropWhile_eq_self, List.reverse_reverse]
  intro c hc
  rw [List.head?_reverse] at hc
  exact h.last c hc

/-- A text that begins and ends with other characters than white space. -/
theorem Trimmed.append {a b : List Char} (ha : a ≠ []) (hb : b ≠ [])
    (head : ∀ c, a.head? = some c → isSpace c = false)
    (last : ∀ c, b.getLast? = some c → isSpace c = false) : Trimmed (a ++ b) where
  head := by
    intro c hc
    rw [← head?_of_isPrefix (List.prefix_append a b) ha] at hc
    exact head c hc
  last := by
    intro c hc
    rw [List.getLast?_append, List.getLast?_eq_some_getLast hb, Option.some_or] at hc
    exact last c ((List.getLast?_eq_some_getLast hb).trans hc)

end Text

end OciCompose
