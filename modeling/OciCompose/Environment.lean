import OciCompose.Text

/-
  Environments of images: lists of `KEY=VALUE` entries, and overrides of them.
  Values of overrides may name variables of the environment they are applied to, as `$NAME` or
  `${NAME}`; what is put in is not read again.
-/

namespace OciCompose.Environment

/-- The key and value of an entry with a `=` after a key. -/
def splitEntry (entry : String) : Option (String × String) :=
  match Text.cut '=' entry.toList with
  | some (k, v) => if k = [] then none else some (String.ofList k, String.ofList v)
  | none => none

def joinEntry (k v : String) : String := k ++ "=" ++ v

def isNameStart (c : Char) : Bool := ('A' ≤ c && c ≤ 'Z') || ('a' ≤ c && c ≤ 'z') || c == '_'

def isNameChar (c : Char) : Bool := isNameStart c || ('0' ≤ c && c ≤ '9')

/-- The longest name that a text begins with; empty if it begins with none. -/
def leadingName : List Char → List Char
  | [] => []
  | c :: cs => if isNameStart c then c :: cs.takeWhile isNameChar else []

/-- `$NAME` or `${NAME}`. -/
structure Placeholder where
  name : List Char
  braced : Bool
deriving DecidableEq

namespace Placeholder

/-- The characters after the dollar. -/
def tail (p : Placeholder) : List Char :=
  if p.braced then '\x7b' :: p.name ++ ['\x7d'] else p.name

/-- The placeholder whose dollar stands before a text. -/
def after? : List Char → Option Placeholder
  | '\x7b' :: cs =>
    let n := leadingName cs
    if n ≠ [] ∧ (cs.drop n.length).head? = some '\x7d' then some ⟨n, true⟩ else none
  | cs =>
    let n := leadingName cs
    if n ≠ [] then some ⟨n, false⟩ else none

/-- What stands for a placeholder: the variable, `/usr/bin` for a braced PATH that is not set, and
    else the placeholder itself. -/
def value (lookup : String → Option String) (p : Placeholder) : List Char :=
  match lookup (String.ofList p.name) with
  | some v => v.toList
  | none => if p.braced ∧ p.name = "PATH".toList then "/usr/bin".toList else '$' :: p.tail

end Placeholder

/-- Replaces the placeholders of a text; `skip` characters belong to one that is replaced. -/
def expandFrom (lookup : String → Option String) : Nat → List Char → List Char
  | _, [] => []
  | skip + 1, _ :: cs => expandFrom lookup skip cs
  | 0, c :: cs =>
    if c = '$' then
      match Placeholder.after? cs with
      | some p => p.value lookup ++ expandFrom lookup p.tail.length cs
      | none => c :: expandFrom lookup 0 cs
    else c :: expandFrom lookup 0 cs

def expand (lookup : String → Option String) (value : String) : String :=
  String.ofList (expandFrom lookup 0 value.toList)

/-- The variables that entries define, the last one first. -/
def definitions (entries : List String) : List (String × String) :=
  (entries.filterMap splitEntry).reverse

/-- The value of a variable, by the last entry that defines it. -/
def lookup (entries : List String) (name : String) : Option String :=
  (definitions entries).lookup name

/-- Sets the value of a key, which keeps its place if it has one. -/
def put : List (String × String) → String × String → List (String × String)
  | [], kv => [kv]
  | e :: es, kv => if e.1 = kv.1 then kv :: es else e :: put es kv

/-- The well-formed overrides, each key once, in the order of first mention with the last value. -/
def wanted (desired : List String) : List (String × String) :=
  (desired.filterMap splitEntry).foldl put []

/-- Applies overrides: entries of the same key are replaced in place, new keys come last. -/
def override (existing desired : List String) : List String :=
  let ws := wanted desired
  let defined := definitions existing
  let entry (kv : String × String) := joinEntry kv.1 (expand (fun n => defined.lookup n) kv.2)
  let keys := (existing.filterMap splitEntry).map Prod.fst
  existing.map (fun e =>
    match (splitEntry e).bind fun kv => (ws.lookup kv.1).map fun v => (kv.1, v) with
    | some kv => entry kv
    | none => e) ++
  (ws.filter fun kv => !keys.contains kv.1).map entry

end OciCompose.Environment
