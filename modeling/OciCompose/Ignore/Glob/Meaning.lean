import OciCompose.Ignore.Glob

/-
  What a pattern means, without places: each token says which rests of a text are left for the tokens
  behind it. Main statement: `isMatch_eq_matchesTokens`, scanning a text comes to the same.
-/

namespace OciCompose.Glob

/-- The rests of a text before each character of its first component, and after it. -/
def restsWithin : List Char → List (List Char)
  | [] => [[]]
  | c :: cs => (c :: cs) :: if c = '/' then [] else restsWithin cs

/-- The rests of a text behind each slash. -/
def restsBehindSlashes : List Char → List (List Char)
  | [] => []
  | c :: cs => if c = '/' then cs :: restsBehindSlashes cs else restsBehindSlashes cs

/-- Whether the tokens match the whole text. -/
def matchesTokens : List Token → List Char → Bool
  | [], cs => cs.isEmpty
  | .star :: ts, cs => (restsWithin cs).any fun r => matchesTokens ts r
  | .components :: ts, cs =>
    matchesTokens ts cs || (restsBehindSlashes cs).any (fun r => matchesTokens ts r) ||
      matchesTokens ts []
  | t :: ts, cs =>
    match cs with
    | [] => false
    | c :: cs => t.takes c && matchesTokens ts cs

/-- Whether `**` with the tokens behind it matches a text if it is in the midst of a component. -/
def matchesAmid (ts : List Token) (cs : List Char) : Bool :=
  (restsBehindSlashes cs).any (fun r => matchesTokens ts r) || matchesTokens ts []

/-- Whether a token at a place, with the tokens behind it, matches a text of which it takes something,
    or at whose end it is cut short. -/
def matchesFrom (t : Token) (ts : List Token) : Stage → List Char → Bool
  | .off, _ => false
  | .amid, [] => t.isFree && matchesTokens ts []
  | .ready, [] => false
  | x, c :: cs =>
    match t with
    | .star => x == .ready && c != '/' && matchesTokens (.star :: ts) cs
    | .components =>
      if c = '/' then matchesTokens (.components :: ts) cs else matchesAmid ts cs
    | t => x == .ready && t.takes c && matchesTokens ts cs

/-- Whether one of some places matches a text in that way. -/
def placesMatch : List (Token × Stage) → List Char → Bool
  | [], _ => false
  | (t, x) :: ps, cs => matchesFrom t (ps.map Prod.fst) x cs || placesMatch ps cs

/-- Whether a scan accepts a text that follows. -/
def Scan.matches (s : Scan) (cs : List Char) : Bool := (s.done && cs.isEmpty) || placesMatch s.places cs

theorem matchesTokens_components (ts : List Token) (cs : List Char) :
    matchesTokens (.components :: ts) cs = (matchesTokens ts cs || matchesAmid ts cs) := by
  simp [matchesTokens, matchesAmid, Bool.or_assoc]

/-- A token that may match takes something of the text, or it is free and takes nothing. -/
theorem matchesTokens_cons (t : Token) (ts : List Token) (cs : List Char) :
    matchesTokens (t :: ts) cs =
      (matchesFrom t ts .ready cs || (t.isFree && matchesTokens ts cs)) := by
  cases t with
  | star =>
    cases cs with
    | nil => simp [matchesTokens, matchesFrom, restsWithin, Token.isFree]
    | cons c cs =>
      by_cases h : c = '/'
      · simp [matchesTokens, matchesFrom, restsWithin, Token.isFree, h]
      · simp [matchesTokens, matchesFrom, restsWithin, Token.isFree, h, bne_iff_ne.2 h, Bool.or_comm]
  | components =>
    cases cs with
    | nil =>
      simp [matchesTokens, matchesFrom, restsBehindSlashes, Token.isFree]
    | cons c cs =>
      by_cases h : c = '/' <;>
        simp [matchesTokens, matchesFrom, matchesAmid, restsBehindSlashes, Token.isFree, h,
          Bool.or_comm, Bool.or_left_comm]
  | char x => cases cs <;> simp [matchesTokens, matchesFrom, Token.isFree]
  | anyChar => cases cs <;> simp [matchesTokens, matchesFrom, Token.isFree]
  | within rs => cases cs <;> simp [matchesTokens, matchesFrom, Token.isFree]
  | except rs => cases cs <;> simp [matchesTokens, matchesFrom, Token.isFree]

theorem map_fst_startFrom (ready : Bool) (ts : List Token) :
    (Scan.startFrom ready ts).places.map Prod.fst = ts := by
  induction ts generalizing ready with
  | nil => rfl
  | cons t ts ih => simp [Scan.startFrom, ih]

theorem map_fst_advanceFrom (c : Char) (ready : Bool) (ps : List (Token × Stage)) :
    (Scan.advanceFrom c ready ps).places.map Prod.fst = ps.map Prod.fst := by
  induction ps generalizing ready with
  | nil => rfl
  | cons p ps ih => simp [Scan.advanceFrom, ih]

theorem matches_startFrom (ready : Bool) (ts : List Token) (cs : List Char) :
    (Scan.startFrom ready ts).matches cs = (ready && matchesTokens ts cs) := by
  induction ts generalizing ready with
  | nil => simp [Scan.startFrom, Scan.matches, placesMatch, matchesTokens]
  | cons t ts ih =>
    have := ih (ready && t.isFree)
    rw [Scan.matches] at this
    rw [Scan.matches, Scan.startFrom, placesMatch, map_fst_startFrom, matchesTokens_cons,
      Bool.or_left_comm, this]
    cases ready <;> simp [matchesFrom]

theorem matchesFrom_star (ts : List Token) (x : Stage) (c : Char) (cs : List Char) :
    matchesFrom .star ts x (c :: cs) =
      (x == .ready && c != '/' && matchesTokens (.star :: ts) cs) := by
  cases x <;> simp only [matchesFrom] <;> rfl

theorem matchesFrom_components (ts : List Token) {x : Stage} (h : x ≠ .off) (c : Char)
    (cs : List Char) :
    matchesFrom .components ts x (c :: cs) =
      if c = '/' then matchesTokens (.components :: ts) cs else matchesAmid ts cs := by
  cases x <;> simp_all only [matchesFrom, ne_eq, not_true_eq_false]

theorem matchesFrom_amid (ts : List Token) (cs : List Char) :
    matchesFrom .components ts .amid cs = matchesAmid ts cs := by
  cases cs with
  | nil => simp [matchesFrom, matchesAmid, restsBehindSlashes, Token.isFree]
  | cons c cs =>
    rw [matchesFrom_components ts (by decide)]
    by_cases h : c = '/'
    · simp [h, matchesTokens_components, matchesAmid, restsBehindSlashes, Bool.or_assoc]
    · simp [h, matchesAmid, restsBehindSlashes]

/-- Behind a character a token stands at its next place, or it is done. -/
theorem matchesFrom_cons (t : Token) (ts : List Token) (x : Stage) (c : Char) (cs : List Char) :
    matchesFrom t ts x (c :: cs) =
      (matchesFrom t ts (t.keep c x) cs ||
        (((x == .ready && t.takes c) || (t.keep c x == .ready && t.isFree)) &&
          matchesTokens ts cs)) := by
  have off (u : Token) : matchesFrom u ts .off cs = false := by cases cs <;> rfl
  cases t with
  | star =>
    have hc := matchesTokens_cons .star ts cs
    rw [matchesFrom_star, hc]
    cases x with
    | ready => by_cases h : c = '/' <;> simp [Token.keep, Token.takes, Token.isFree, off, h]
    | off => simp [Token.keep, off, show (Stage.off == Stage.ready) = false from rfl]
    | amid => simp [Token.keep, off, show (Stage.off == Stage.ready) = false from rfl,
        show (Stage.amid == Stage.ready) = false from rfl]
  | components =>
    have hc := matchesTokens_cons .components ts cs
    cases x with
    | off => simp [Token.keep, matchesFrom]
    | amid =>
      rw [matchesFrom_components ts (by decide), hc]
      by_cases h : c = '/' <;> simp [Token.keep, Token.isFree, matchesFrom_amid, h]
    | ready =>
      rw [matchesFrom_components ts (by decide), hc]
      by_cases h : c = '/' <;>
        simp [Token.keep, Token.takes, Token.isFree, matchesFrom_amid, h]
  | char _ => cases x <;> simp [matchesFrom, Token.keep, Token.isFree]
  | anyChar => cases x <;> simp [matchesFrom, Token.keep, Token.isFree]
  | within _ => cases x <;> simp [matchesFrom, Token.keep, Token.isFree]
  | except _ => cases x <;> simp [matchesFrom, Token.keep, Token.isFree]

/-- What a token matches at the place that it keeps, it matches from there on. -/
theorem matchesTokens_or_keep (t : Token) (ts : List Token) (x : Stage) (c : Char)
    (cs : List Char) :
    (matchesTokens (t :: ts) cs || matchesFrom t ts (t.keep c x) cs) =
      matchesTokens (t :: ts) cs := by
  cases h : t.keep c x with
  | off => cases cs <;> simp [matchesFrom]
  | ready => rw [matchesTokens_cons]; simp [Bool.or_right_comm]
  | amid =>
    have ht : t = .components := by
      revert h
      cases t <;> cases x <;> simp [Token.keep] <;> split <;> simp
    rw [ht, matchesFrom_amid, matchesTokens_components]
    simp

theorem matches_advanceFrom (c : Char) (ready : Bool) (ps : List (Token × Stage)) (cs : List Char) :
    (Scan.advanceFrom c ready ps).matches cs =
      ((ready && matchesTokens (ps.map Prod.fst) cs) || placesMatch ps (c :: cs)) := by
  induction ps generalizing ready with
  | nil => simp [Scan.advanceFrom, Scan.matches, placesMatch, matchesTokens]
  | cons p ps ih =>
    obtain ⟨t, x⟩ := p
    have ih' : ∀ r : Bool,
        ((Scan.advanceFrom c r ps).done && cs.isEmpty ||
          placesMatch (Scan.advanceFrom c r ps).places cs) =
        (r && matchesTokens (ps.map Prod.fst) cs || placesMatch ps (c :: cs)) := ih
    rw [Scan.matches, Scan.advanceFrom, placesMatch, placesMatch, map_fst_advanceFrom,
      Bool.or_left_comm, ih', matchesFrom_cons, List.map_cons]
    cases ready with
    | false => simp [Bool.or_assoc]
    | true =>
      have hk := matchesTokens_or_keep t (ps.map Prod.fst) x c cs
      rw [matchesTokens_cons] at hk ⊢
      simp only [if_true]
      generalize matchesFrom t (ps.map Prod.fst) (t.keep c x) cs = k at hk ⊢
      generalize matchesFrom t (ps.map Prod.fst) .ready cs = a at hk ⊢
      generalize matchesTokens (ps.map Prod.fst) cs = m at hk ⊢
      generalize placesMatch ps (c :: cs) = q
      generalize t.takes c = u
      generalize t.isFree = f at hk ⊢
      generalize (t.keep c x == .ready) = r
      generalize (x == .ready) = y
      have hr : (Stage.ready == Stage.ready) = true := rfl
      rw [hr]
      clear ih ih'
      revert a k m q u f r y
      decide

theorem matches_advance (s : Scan) (c : Char) (cs : List Char) :
    (s.advance c).matches cs = s.matches (c :: cs) := by
  rw [Scan.advance, matches_advanceFrom]
  simp [Scan.matches]

theorem matches_foldl_advance (s : Scan) (front cs : List Char) :
    (front.foldl Scan.advance s).matches cs = s.matches (front ++ cs) := by
  induction front generalizing s with
  | nil => rfl
  | cons c front ih => simp [ih, matches_advance]

theorem endsFrom_eq (ready : Bool) (ps : List (Token × Stage)) :
    Scan.endsFrom ready ps =
      ((ready && matchesTokens (ps.map Prod.fst) []) || placesMatch ps []) := by
  induction ps generalizing ready with
  | nil => simp [Scan.endsFrom, placesMatch, matchesTokens]
  | cons p ps ih =>
    obtain ⟨t, x⟩ := p
    rw [Scan.endsFrom, ih, placesMatch, List.map_cons, matchesTokens_cons]
    cases ready <;> cases x <;> cases t <;> simp [matchesFrom, Token.isFree]

theorem accepts_eq (s : Scan) : s.accepts = s.matches [] := by
  simp [Scan.accepts, Scan.matches, endsFrom_eq]

/-- Scanning a text tells whether the tokens match it. -/
theorem isMatch_eq_matchesTokens (g : Glob) (path : List Char) :
    g.isMatch path = matchesTokens g.tokens path := by
  rw [isMatch, accepts_eq, matches_foldl_advance, start, matches_startFrom]
  simp

end OciCompose.Glob
