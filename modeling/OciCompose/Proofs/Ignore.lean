import OciCompose.Ignore.Glob.Meaning
import OciCompose.Ignore.Rules
import OciCompose.Proofs.Path

/-
  What ignore rules decide.
  A rule covers a path if its pattern matches the path or one of its ancestors, by what the tokens of the
  pattern mean and not by how it is scanned for, and the last rule that covers a path decides
  (`Decides`). Rules that could not change the verdict are not asked, and that changes nothing
  (`ignores_iff_decides`). A rule that covers a path covers all that is below it, so what is ignored is
  ignored further down too, unless an exclusion begins there (`ignores_below`).
-/

namespace OciCompose

/-! ## Rules that cover a path -/

/-- The pattern of a rule matches a path, or one of its ancestors: its first components, but not all of
    them. -/
inductive IgnoreRule.Covers (rule : IgnoreRule) (path : List Char) : Prop
  | itself (isMatch : Glob.matchesTokens rule.pattern.tokens path = true)
  | ancestor {first rest : List (List Char)} (split : path.splitOn '/' = first ++ rest)
      (first_ne_nil : first ≠ []) (rest_ne_nil : rest ≠ [])
      (isMatch : Glob.matchesTokens rule.pattern.tokens (Path.join first) = true)

namespace IgnoreRules

/-- Of some rules, this one is the last that covers a path. -/
def Decides (rules : List IgnoreRule) (path : List Char) (rule : IgnoreRule) : Prop :=
  ∃ before after, rules = before ++ rule :: after ∧ rule.Covers path ∧
    ∀ later ∈ after, ¬ later.Covers path

/-- The ancestors of a path are what stands before its slashes. -/
theorem mem_ancestors {path above : List Char} :
    above ∈ ancestors path ↔ ∃ rest, path = above ++ '/' :: rest := by
  induction path generalizing above with
  | nil => simp [ancestors]
  | cons c cs ih =>
    have hcons : above ∈ ancestors (c :: cs) ↔
        (c = '/' ∧ above = []) ∨ above ∈ (ancestors cs).map (c :: ·) := by
      rw [ancestors]
      by_cases hc : c = '/' <;> simp [hc]
    rw [hcons, List.mem_map]
    cases above with
    | nil => simp
    | cons d ds =>
      simp only [ih, reduceCtorEq, and_false, false_or, List.cons.injEq, List.cons_append]
      constructor
      · rintro ⟨_, ⟨rest, rfl⟩, rfl, rfl⟩
        exact ⟨rest, rfl, rfl⟩
      · rintro ⟨rest, rfl, rfl⟩
        exact ⟨ds, ⟨rest, rfl⟩, rfl, rfl⟩

/-- They are its first components, joined again. -/
theorem mem_ancestors_iff_join {path above : List Char} :
    above ∈ ancestors path ↔ ∃ first rest, path.splitOn '/' = first ++ rest ∧ first ≠ [] ∧
      rest ≠ [] ∧ above = Path.join first := by
  rw [mem_ancestors]
  constructor
  · rintro ⟨rest, rfl⟩
    exact ⟨above.splitOn '/', rest.splitOn '/', List.splitOn_append_cons_self above rest,
      List.splitOn_ne_nil _ _, List.splitOn_ne_nil _ _, (List.intercalate_splitOn '/').symm⟩
  · rintro ⟨first, rest, hsplit, hfirst, hrest, rfl⟩
    refine ⟨Path.join rest, ?_⟩
    rw [← Path.join_append hfirst hrest, ← hsplit]
    exact (List.intercalate_splitOn '/').symm

end IgnoreRules

namespace IgnoreRule

open IgnoreRules

theorem hits_iff {rule : IgnoreRule} {path : List Char} :
    rule.hits path = true ↔ rule.Covers path := by
  rw [hits_eq, Bool.or_eq_true, List.any_eq_true]
  simp only [Glob.isMatch_eq_matchesTokens]
  constructor
  · rintro (hmatch | ⟨above, habove, hmatch⟩)
    · exact .itself hmatch
    · obtain ⟨first, rest, hsplit, hfirst, hrest, rfl⟩ := mem_ancestors_iff_join.1 habove
      exact .ancestor hsplit hfirst hrest hmatch
  · rintro (hmatch | ⟨hsplit, hfirst, hrest, hmatch⟩)
    · exact .inl hmatch
    · exact .inr ⟨_, mem_ancestors_iff_join.2 ⟨_, _, hsplit, hfirst, hrest, rfl⟩, hmatch⟩

/-- A rule that covers a path covers all that is below it. -/
theorem Covers.below {rule : IgnoreRule} {path : List Char} (h : rule.Covers path)
    (rest : List Char) : rule.Covers (path ++ '/' :: rest) := by
  have hsplit := List.splitOn_append_cons_self (a := '/') path rest
  cases h with
  | itself isMatch =>
    refine .ancestor hsplit (List.splitOn_ne_nil _ _) (List.splitOn_ne_nil _ _) ?_
    rwa [Path.join, List.intercalate_splitOn]
  | @ancestor first more split first_ne_nil rest_ne_nil isMatch =>
    rw [split, List.append_assoc] at hsplit
    exact .ancestor hsplit first_ne_nil (List.append_ne_nil_of_left_ne_nil rest_ne_nil _) isMatch

end IgnoreRule

namespace IgnoreRules

/-! ## The verdict -/

/-- A rule that is not asked would not change the verdict. -/
theorem verdict_cons (path : List Char) (ignored : Bool) (rule : IgnoreRule)
    (rest : List IgnoreRule) :
    verdict path ignored (rule :: rest) =
      verdict path (if rule.hits path then !rule.exclusion else ignored) rest := by
  rw [verdict]
  obtain ⟨pattern, exclusion⟩ := rule
  by_cases hskip : exclusion = ignored
  · rw [if_neg (by simpa using hskip)]
    split <;> rfl
  · rw [if_pos (by simpa using hskip)]
    split
    · rw [Bool.eq_not_of_ne hskip, Bool.not_not]
    · rfl

/-- Looked for from the end, the first rule that hits is the one that decides. -/
theorem find?_hits_eq_some {rules : List IgnoreRule} {path : List Char} {rule : IgnoreRule} :
    rules.reverse.find? (·.hits path) = some rule ↔ Decides rules path rule := by
  rw [List.find?_eq_some_iff_append]
  constructor
  · rintro ⟨hhits, after, before, hsplit, hmiss⟩
    refine ⟨before.reverse, after.reverse, ?_, IgnoreRule.hits_iff.1 hhits,
      fun later hmem hcovers => ?_⟩
    · rw [← List.reverse_reverse rules, hsplit]
      simp
    · have hlater := hmiss later (List.mem_reverse.1 hmem)
      rw [IgnoreRule.hits_iff.2 hcovers] at hlater
      exact nomatch hlater
  · rintro ⟨before, after, rfl, hcovers, hlater⟩
    refine ⟨IgnoreRule.hits_iff.2 hcovers, after.reverse, before.reverse, by simp, fun later hmem => ?_⟩
    rw [Bool.not_eq_true', Bool.eq_false_iff, ne_eq, IgnoreRule.hits_iff]
    exact hlater later (List.mem_reverse.1 hmem)

theorem find?_hits_eq_none {rules : List IgnoreRule} {path : List Char} :
    rules.reverse.find? (·.hits path) = Option.none ↔ ∀ rule ∈ rules, ¬ rule.Covers path := by
  simp [List.find?_eq_none, ← IgnoreRule.hits_iff]

theorem verdict_eq (path : List Char) (ignored : Bool) (rules : List IgnoreRule) :
    verdict path ignored rules =
      match rules.reverse.find? (·.hits path) with
      | some rule => !rule.exclusion
      | Option.none => ignored := by
  induction rules generalizing ignored with
  | nil => rfl
  | cons first rest ih =>
    rw [verdict_cons, ih, List.reverse_cons, List.find?_append]
    cases rest.reverse.find? (·.hits path) with
    | some rule => rfl
    | none =>
      by_cases hhits : first.hits path <;> simp [hhits]

/-- The verdict of rules after a verdict: the last that covers the path decides, and if none does the
    verdict stands. -/
theorem verdict_eq_true_iff {path : List Char} {ignored : Bool} {rules : List IgnoreRule} :
    verdict path ignored rules = true ↔
      (∃ rule, Decides rules path rule ∧ rule.exclusion = false) ∨
        ignored = true ∧ ∀ rule ∈ rules, ¬ rule.Covers path := by
  simp only [verdict_eq, ← find?_hits_eq_some, ← find?_hits_eq_none]
  cases rules.reverse.find? (·.hits path) <;> simp

theorem ignores_eq_true_iff_verdict {r : IgnoreRules} {path : String} :
    r.ignores path = true ↔ normalize path.toList ≠ [] ∧ normalize path.toList ≠ ['.'] ∧
      verdict (normalize path.toList) false r.rules = true := by
  unfold ignores
  dsimp only
  split
  · next hself => exact iff_of_false nofun fun h => hself.elim h.1 h.2.1
  · next hself => simp [not_or.1 hself]

/-- A path is ignored exactly if some rule covers it and the last one that does is not an exclusion.
    What is nothing but the source itself is not ignored. -/
theorem ignores_iff_decides (r : IgnoreRules) (path : String) :
    r.ignores path = true ↔ normalize path.toList ≠ [] ∧ normalize path.toList ≠ ['.'] ∧
      ∃ rule, Decides r.rules (normalize path.toList) rule ∧ rule.exclusion = false := by
  rw [ignores_eq_true_iff_verdict, verdict_eq_true_iff]
  -- Without a verdict before the rules, only a rule can make one.
  simp only [Bool.false_eq_true, false_and, or_false]

/-! ## Below what is ignored -/

theorem Decides.mem {rules : List IgnoreRule} {path : List Char} {rule : IgnoreRule}
    (h : Decides rules path rule) : rule ∈ rules := by
  obtain ⟨before, after, rfl, -, -⟩ := h
  exact List.mem_append_right _ List.mem_cons_self

theorem Decides.covers {rules : List IgnoreRule} {path : List Char} {rule : IgnoreRule}
    (h : Decides rules path rule) : rule.Covers path := by
  obtain ⟨before, after, -, hcovers, -⟩ := h
  exact hcovers

theorem Decides.append_left {rules : List IgnoreRule} {path : List Char} {rule : IgnoreRule}
    (h : Decides rules path rule) (more : List IgnoreRule) : Decides (more ++ rules) path rule := by
  obtain ⟨before, after, rfl, hcovers, hlater⟩ := h
  exact ⟨more ++ before, after, (List.append_assoc ..).symm, hcovers, hlater⟩

theorem exists_decides {rules : List IgnoreRule} {path : List Char}
    (h : ∃ rule ∈ rules, rule.Covers path) : ∃ rule, Decides rules path rule := by
  cases hfind : rules.reverse.find? (·.hits path) with
  | some rule => exact ⟨rule, find?_hits_eq_some.1 hfind⟩
  | none =>
    obtain ⟨rule, hmem, hcovers⟩ := h
    exact absurd hcovers (find?_hits_eq_none.1 hfind rule hmem)

/-- What decides further down is no exclusion either, if no exclusion begins there: such a rule would be
    after the one that decides above, and would not cover that path. -/
theorem Decides.below {rules : List IgnoreRule} {path : List Char} {rule : IgnoreRule}
    (h : Decides rules path rule) (hinclude : rule.exclusion = false) {rest : List Char}
    (hexclusions : ∀ other ∈ rules, other.exclusion = true →
      other.Covers (path ++ '/' :: rest) → other.Covers path) :
    ∃ lower, Decides rules (path ++ '/' :: rest) lower ∧ lower.exclusion = false := by
  obtain ⟨before, after, rfl, hcovers, hlater⟩ := h
  by_cases hafter : ∃ later ∈ after, later.Covers (path ++ '/' :: rest)
  · obtain ⟨lower, hlower⟩ := exists_decides hafter
    refine ⟨lower, by simpa using hlower.append_left (before ++ [rule]), ?_⟩
    have hmem : lower ∈ before ++ rule :: after :=
      List.mem_append_right _ (List.mem_cons_of_mem _ hlower.mem)
    exact Bool.eq_false_iff.2 fun hexclusion =>
      hlater lower hlower.mem (hexclusions lower hmem hexclusion hlower.covers)
  · exact ⟨rule, ⟨before, after, rfl, hcovers.below rest,
      fun later hmem hc => hafter ⟨later, hmem, hc⟩⟩, hinclude⟩

theorem dropDots_append_slash {path : List Char} (hdot : dropDots path ≠ ['.'])
    (rest : List Char) : dropDots (path ++ '/' :: rest) = dropDots path ++ '/' :: rest := by
  fun_induction dropDots path with
  | case1 cs ih => exact ih hdot
  | case2 cs hcs =>
    have hkept : ∀ ds, cs ++ '/' :: rest ≠ '.' :: '/' :: ds := by
      intro ds h
      match cs, hcs, hdot with
      | [], _, _ => exact absurd (List.cons.inj h).1 (by decide)
      | [c], _, hdot =>
        obtain ⟨rfl, -⟩ := List.cons.inj h
        exact hdot rfl
      | c :: d :: more, hcs, _ =>
        simp only [List.cons_append, List.cons.injEq] at h
        obtain ⟨rfl, rfl, -⟩ := h
        exact hcs more rfl
    rw [dropDots]
    exact hkept

/-- What is below a path that is not the source itself is below it as the rules see it, too. -/
theorem normalize_append_slash {path : List Char} (hne : normalize path ≠ [])
    (hdot : normalize path ≠ ['.']) (rest : List Char) :
    normalize (path ++ '/' :: rest) = normalize path ++ '/' :: rest := by
  have hdots : dropDots path ≠ ['.'] := fun h => hdot (by rw [normalize, h]; rfl)
  rw [normalize, dropDots_append_slash hdots, dropSlashes, List.dropWhile_append,
    if_neg (by simpa [normalize, dropSlashes] using hne)]
  rfl

/-- What is below an ignored path is ignored, if every exclusion that covers it covers the ignored path,
    too; without exclusions, always. -/
theorem ignores_below (r : IgnoreRules) (path below : String) (h : r.ignores path = true) :
    ((∀ rule ∈ r.rules, rule.exclusion = true →
        rule.Covers (normalize (path ++ "/" ++ below).toList) →
        rule.Covers (normalize path.toList)) →
      r.ignores (path ++ "/" ++ below) = true) ∧
    ((∀ rule ∈ r.rules, rule.exclusion = false) → r.ignores (path ++ "/" ++ below) = true) := by
  obtain ⟨hne, hdot, hverdict⟩ := ignores_eq_true_iff_verdict.1 h
  obtain ⟨rule, hdecides, hinclude⟩ : ∃ rule, Decides r.rules (normalize path.toList) rule ∧
      rule.exclusion = false := by
    simpa using verdict_eq_true_iff.1 hverdict
  have hnormalize : normalize (path ++ "/" ++ below).toList =
      normalize path.toList ++ '/' :: below.toList := by
    rw [← normalize_append_slash hne hdot]
    simp
  have hclosed : (∀ rule ∈ r.rules, rule.exclusion = true →
        rule.Covers (normalize (path ++ "/" ++ below).toList) →
        rule.Covers (normalize path.toList)) → r.ignores (path ++ "/" ++ below) = true := by
    intro hexclusions
    rw [hnormalize] at hexclusions
    refine ignores_eq_true_iff_verdict.2 ?_
    rw [hnormalize]
    refine ⟨by simp, fun hself => hne ?_,
      verdict_eq_true_iff.2 (.inl (hdecides.below hinclude hexclusions))⟩
    have hlength := congrArg List.length hself
    rw [List.length_append, List.length_cons, List.length_singleton] at hlength
    exact List.length_eq_zero_iff.1 (by omega)
  refine ⟨hclosed, fun hinclusions => hclosed fun rule hmem hexclusion => ?_⟩
  exact absurd hexclusion (Bool.eq_false_iff.1 (hinclusions rule hmem))

/-- An exclusion that covers both paths, before the rule that decides. -/
theorem ignores_below_excluded :
    ∃ rules, ofPatterns ["!/a/", "*"] = .ok rules ∧ rules.ignores "./a" = true ∧
      rules.ignores ("./a" ++ "/" ++ "b") = true := by
  refine ⟨⟨[⟨⟨[.char 'a']⟩, true⟩, ⟨⟨[.star]⟩, false⟩]⟩, by rfl, by decide +kernel,
    (ignores_below _ "./a" "b" (by decide +kernel)).1 fun rule hmem hexclusion _ => ?_⟩
  obtain rfl | rfl : rule = _ ∨ rule = _ := by simpa using hmem
  · exact IgnoreRule.hits_iff.1 (by decide +kernel)
  · exact nomatch hexclusion

end IgnoreRules

end OciCompose
