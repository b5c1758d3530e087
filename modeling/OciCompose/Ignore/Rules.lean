import OciCompose.Text
import OciCompose.Text.Quoted
import OciCompose.Ignore.Glob

/-
  Ignore rules: glob patterns in order, of which the last one that matches a path or one of its
  parents decides; a pattern behind `!` takes paths back in.
  `ignores` asks only rules that could change the verdict.
-/

namespace OciCompose

structure IgnoreRule where
  pattern : Glob
  /-- Takes paths back in. -/
  exclusion : Bool
deriving DecidableEq

structure IgnoreRules where
  rules : List IgnoreRule
deriving DecidableEq

namespace IgnoreRules

def none : IgnoreRules := ⟨[]⟩

/-- Drops every `./` that a text begins with. -/
def dropDots : List Char → List Char
  | '.' :: '/' :: cs => dropDots cs
  | cs => cs

def dropSlashes (cs : List Char) : List Char := cs.dropWhile (· == '/')

/-- A pattern is relative to the source, and one for a directory is one for its path. -/
def cleanPattern (cs : List Char) : List Char :=
  let p := dropSlashes (dropSlashes (dropDots cs)).reverse
  if p = [] then ['.'] else p.reverse

/-- The rule of a line, if it has one: blank lines and comments do not. -/
def ruleOf (line : String) : Except Error (Option IgnoreRule) :=
  let rule (exclusion : Bool) (cs : List Char) : Except Error (Option IgnoreRule) :=
    match Glob.ofText? (cleanPattern cs) with
    | .ok g => .ok (some ⟨g, exclusion⟩)
    | .error (n, f) => .error (.invalidConfig (.badPattern (Text.quoted line) n f))
  match Text.trimChars line.toList with
  | [] => .ok Option.none
  | '#' :: _ => .ok Option.none
  | '!' :: cs =>
    let cs := Text.trimChars cs
    if cs = [] then .error (.invalidConfig (.bareExclusion (Text.quoted line))) else rule true cs
  | cs => rule false cs

def ofPatterns (lines : List String) : Except Error IgnoreRules :=
  match lines.mapM ruleOf with
  | .ok rules => .ok ⟨rules.filterMap id⟩
  | .error e => .error e

/-- A line without the carriage return at its end. -/
def dropReturn (line : List Char) : List Char :=
  if line.getLast? = some '\r' then line.dropLast else line

/-- The lines of a text. A carriage return before a line feed does not count, and a text that ends
    with a line feed has no line behind it. -/
def linesOf (cs : List Char) : List (List Char) :=
  let lines := cs.splitOn '\n'
  let last := lines.getLastD []
  lines.dropLast.map dropReturn ++ if last = [] then [] else [last]

/-- Reads rules, one a line. -/
def ofText (content : String) : Except Error IgnoreRules :=
  ofPatterns ((linesOf content.toList).map String.ofList)

def isEmpty (r : IgnoreRules) : Bool := r.rules.isEmpty

/-- The path as the rules see it, relative to the source. -/
def normalize (path : List Char) : List Char := dropSlashes (dropDots path)

/-- The proper ancestors of a path, outermost first: what stands before each slash. -/
def ancestors : List Char → List (List Char)
  | [] => []
  | c :: cs =>
    let inner := (ancestors cs).map (c :: ·)
    if c = '/' then [] :: inner else inner

end IgnoreRules

/-- Whether the rule matches a normalised path or one of its ancestors. -/
def IgnoreRule.hits (r : IgnoreRule) (path : List Char) : Bool := r.pattern.matchesPath path

theorem IgnoreRule.hits_eq (r : IgnoreRule) (path : List Char) :
    r.hits path =
      (r.pattern.isMatch path || (IgnoreRules.ancestors path).any r.pattern.isMatch) := by
  have h : ∀ s : Glob.Scan, s.acceptsWithin path =
      ((path.foldl Glob.Scan.advance s).accepts ||
        (IgnoreRules.ancestors path).any fun a => (a.foldl Glob.Scan.advance s).accepts) := by
    induction path with
    | nil => intro s; simp [Glob.Scan.acceptsWithin, IgnoreRules.ancestors]
    | cons c cs ih =>
      intro s
      rw [Glob.Scan.acceptsWithin, ih, IgnoreRules.ancestors]
      by_cases hc : c = '/' <;>
        simp [hc, List.any_map, Function.comp_def, Bool.or_left_comm]
  exact h r.pattern.start

namespace IgnoreRules

/-- The verdict of rules after a verdict. A rule that could not change it is not asked. -/
def verdict (path : List Char) : Bool → List IgnoreRule → Bool
  | ignored, [] => ignored
  | ignored, r :: rs =>
    if r.exclusion != ignored then verdict path ignored rs
    else if r.hits path then verdict path (!r.exclusion) rs
    else verdict path ignored rs

/-- Whether a path, relative to the source, is ignored. The source itself never is. -/
def ignores (r : IgnoreRules) (path : String) : Bool :=
  let p := normalize path.toList
  if p = [] ∨ p = ['.'] then false else verdict p false r.rules

end IgnoreRules

end OciCompose
