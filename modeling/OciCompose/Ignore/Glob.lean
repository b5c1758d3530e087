import OciCompose.Error

/-
  Glob patterns over paths whose components are joined by `/`.
  `?`, `*` and classes stay within a component; `**` stands for any number of whole components.
-/

namespace OciCompose

/-- A member of a class; `one c` is `c` alone. -/
inductive Glob.Range where
  | one (c : Char)
  | between (low high : Char)
deriving DecidableEq

inductive Glob.Token where
  | char (c : Char)
  | anyChar
  | within (rs : List Range)
  | except (rs : List Range)
  /-- `*` -/
  | star
  /-- `**` with the slash behind it. -/
  | components
deriving DecidableEq

structure Glob where
  tokens : List Glob.Token
deriving DecidableEq

namespace Glob

def Range.contains (c : Char) : Range → Bool
  | one x => c == x
  | between low high => low ≤ c && c ≤ high

/-! ## Reading -/

/-- The members of a class: `a-b` is a range, all else stands for itself. -/
def ranges : List Char → List Range
  | a :: '-' :: b :: cs => .between a b :: ranges cs
  | c :: cs => .one c :: ranges cs
  | [] => []

/-- The inside of a class that has at least one character before its `]`, which may be `]`. -/
def classBody : List Char → Option (List Char)
  | [] => none
  | c :: cs => if ']' ∈ cs then some (c :: cs.takeWhile (· != ']')) else none

/-- A class after its `[`, with the number of characters it takes. -/
def readClass? : List Char → Option (Token × Nat)
  | '!' :: cs => (classBody cs).map fun b => (.except (ranges b), b.length + 2)
  | cs => (classBody cs).map fun b => (.within (ranges b), b.length + 1)

/-- A run of exactly two stars at a position: it has to be a whole component, and takes the slash
    behind it. -/
def readComponents (position : Nat) (before : Option Char) (after : List Char) :
    Except (Nat × GlobFault) Nat :=
  if before = none ∨ before = some '/' then
    match after with
    | '/' :: _ => .ok 2
    | [] => .ok 1
    | _ => .error (position + 2, .recursive)
  else .error (position - 1, .recursive)

/-- Reads the tokens from a position on. `before` is the character there was before it; `skip`
    characters belong to the token before. -/
def readTokens : Nat → Nat → Option Char → List Char → Except (Nat × GlobFault) (List Token)
  | _, _, _, [] => .ok []
  | skip + 1, position, _, c :: cs => readTokens skip (position + 1) (some c) cs
  | 0, position, before, c :: cs =>
    if c = '?' then (readTokens 0 (position + 1) (some c) cs).map (.anyChar :: ·)
    else if c = '*' then
      let more := (cs.takeWhile (· == '*')).length
      if more = 0 then (readTokens 0 (position + 1) (some c) cs).map (.star :: ·)
      else if more = 1 then
        match readComponents position before (cs.drop 1) with
        | .ok skip => (readTokens skip (position + 1) (some c) cs).map (.components :: ·)
        | .error e => .error e
      else .error (position + 2, .wildcards)
    else if c = '[' then
      match readClass? cs with
      | some (t, skip) => (readTokens skip (position + 1) (some c) cs).map (t :: ·)
      | none => .error (position, .range)
    else (readTokens 0 (position + 1) (some c) cs).map (.char c :: ·)

def ofText? (s : List Char) : Except (Nat × GlobFault) Glob := (readTokens 0 0 none s).map Glob.mk

/-! ## Matching -/

def Token.takes (c : Char) : Token → Bool
  | .char x => c == x
  | .anyChar => c != '/'
  | .within rs => c != '/' && rs.any (·.contains c)
  | .except rs => c != '/' && !rs.any (·.contains c)
  | .star | .components => false

/-- A token that may match nothing. -/
def Token.isFree : Token → Bool
  | .star | .components => true
  | _ => false

/-- Where a token stands when some of a text is read. -/
inductive Stage where
  /-- The tokens before it do not match what is read. -/
  | off
  /-- It is `**` and has taken a part of a component. -/
  | amid
  /-- It may match from here on, and if it is free, it may end here. -/
  | ready
deriving DecidableEq

/-- Where a token stands behind a character that it takes without being done. -/
def Token.keep (c : Char) : Token → Stage → Stage
  | .star, .ready => if c = '/' then .off else .ready
  | .components, .off => .off
  | .components, _ => if c = '/' then .ready else .amid
  | _, _ => .off

/-- The tokens of a pattern where they stand, and whether all of them match what is read. -/
structure Scan where
  places : List (Token × Stage)
  done : Bool

namespace Scan

/-- The places of tokens before anything is read. `ready` says whether the first one may match. -/
def startFrom (ready : Bool) : List Token → Scan
  | [] => ⟨[], ready⟩
  | t :: ts =>
    let rest := startFrom (ready && t.isFree) ts
    ⟨(t, if ready then .ready else .off) :: rest.places, rest.done⟩

/-- The places behind a character. `ready` says whether the tokens before the first place match. -/
def advanceFrom (c : Char) (ready : Bool) : List (Token × Stage) → Scan
  | [] => ⟨[], ready⟩
  | (t, x) :: ps =>
    let y := if ready then .ready else t.keep c x
    let rest := advanceFrom c ((x == .ready && t.takes c) || (y == .ready && t.isFree)) ps
    ⟨(t, y) :: rest.places, rest.done⟩

def advance (s : Scan) (c : Char) : Scan := advanceFrom c false s.places

/-- Whether the tokens match if nothing follows: `**` may end in a component then. -/
def endsFrom (ready : Bool) : List (Token × Stage) → Bool
  | [] => ready
  | (t, x) :: ps => endsFrom (t.isFree && (ready || x == .amid)) ps

def accepts (s : Scan) : Bool := s.done || endsFrom false s.places

/-- Whether what is read so far is accepted behind a text, or before a slash in it. -/
def acceptsWithin (s : Scan) : List Char → Bool
  | [] => s.accepts
  | c :: cs => (c == '/' && s.accepts) || acceptsWithin (s.advance c) cs

end Scan

def start (g : Glob) : Scan := .startFrom true g.tokens

/-- Whether the pattern matches a whole text. -/
def isMatch (g : Glob) (path : List Char) : Bool := (path.foldl Scan.advance g.start).accepts

/-- Whether the pattern matches a path or what stands before one of its slashes. -/
def matchesPath (g : Glob) (path : List Char) : Bool := g.start.acceptsWithin path

end Glob

end OciCompose
