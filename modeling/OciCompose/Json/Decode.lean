import OciCompose.Json.Reader
import OciCompose.Text

/-
  From JSON syntax to values of a type.
  A decoder is told how many levels of nesting are left. Members that a type does not know are
  either passed over, whatever they are, or collected in a sorted map of values.
-/

namespace OciCompose.Json

/-- Reads a type from JSON syntax with so many levels of arrays and objects left. -/
abbrev Decoder (α : Type) := Nat → Raw → Option α

/-- The levels of nesting that a text may have. -/
def maxNesting : Nat := 127

/-- The members, all keys of which have to be texts. -/
def textKeys (ms : List (Option String × α)) : Option (List (String × α)) :=
  ms.mapM fun (k, v) => k.map (·, v)

mutual

/-- Any value. Members are sorted by key, the last of a key counting. -/
def valueOf : Decoder Value
  | _, .null => some .null
  | _, .bool b => some (.bool b)
  | _, .number n => n.map .number
  | _, .string s => s.map .string
  | 0, .array _ => none
  | room + 1, .array vs => (itemsOf room vs).map .array
  | 0, .object _ => none
  | room + 1, .object ms =>
    (membersOf room ms).map fun ms => .object (SortedMap.ofList ms).toList

def itemsOf : Nat → List Raw → Option (List Value)
  | _, [] => some []
  | room, v :: vs =>
    match valueOf room v, itemsOf room vs with
    | some v, some vs => some (v :: vs)
    | _, _ => none

def membersOf : Nat → List (Option String × Raw) → Option (List (String × Value))
  | _, [] => some []
  | room, (k, v) :: ms =>
    match k, valueOf room v, membersOf room ms with
    | some k, some v, some ms => some ((k, v) :: ms)
    | _, _, _ => none

end

namespace Decode

def text : Decoder String
  | _, .string s => s
  | _, _ => none

/-- An integer from zero up to below `2 ^ bits`. -/
def natural (bits : Nat) : Decoder Nat
  | _, .number (some (.integer (.ofNat n))) => if n < Nat.pow 2 bits then some n else none
  | _, _ => none

def word32 : Decoder UInt32 := fun room r => (natural 32 room r).map UInt32.ofNat

def word64 : Decoder UInt64 := fun room r => (natural 64 room r).map UInt64.ofNat

/-- `null` or a value. -/
def optional (d : Decoder α) : Decoder (Option α)
  | _, .null => some none
  | room, r => (d room r).map some

def listItems (d : Decoder α) (room : Nat) : List Raw → Option (List α)
  | [] => some []
  | v :: vs =>
    match d room v, listItems d room vs with
    | some v, some vs => some (v :: vs)
    | _, _ => none

def list (d : Decoder α) : Decoder (List α)
  | room + 1, .array vs => listItems d room vs
  | _, _ => none

/-- An object with values of one type, the last of a key counting. -/
def map (d : Decoder α) : Decoder (SortedMap α)
  | room + 1, .object ms =>
    match textKeys ms with
    | none => none
    | some ms => (listItems d room (ms.map Prod.snd)).map fun vs =>
        SortedMap.ofList ((ms.map Prod.fst).zip vs)
  | _, _ => none

/-- The members of an object, none of the known names occurring twice, with the levels left. -/
def members (known : List String) : Decoder (Nat × List (String × Raw))
  | room + 1, .object ms =>
    match textKeys ms with
    | none => none
    | some ms =>
      if known.any fun k => 1 < (ms.map Prod.fst).count k then none else some (room, ms)
  | _, _ => none

/-- The members of an object, or the values of an array as the members of the known names in their
    order. -/
def record (known : List String) : Decoder (Nat × List (String × Raw))
  | room + 1, .array vs => if known.length < vs.length then none else some (room, known.zip vs)
  | room, r => members known room r

variable {α : Type}

/-- A member that has to be there. -/
def required (ms : List (String × Raw)) (room : Nat) (k : String) (d : Decoder α) : Option α :=
  (ms.lookup k).bind (d room)

/-- A member that has a default. -/
def defaulted (ms : List (String × Raw)) (room : Nat) (k : String) (d : Decoder α) (default : α) :
    Option α :=
  match ms.lookup k with
  | some r => d room r
  | none => some default

/-- The members with other names than the known ones. -/
def others (known : List String) (ms : List (String × Raw)) (room : Nat) :
    Option (SortedMap Value) :=
  let rest := ms.filter fun m => !known.contains m.1
  (listItems valueOf room (rest.map Prod.snd)).map fun vs =>
    SortedMap.ofList ((rest.map Prod.fst).zip vs)

/-- Reads a text. -/
def ofText? (d : Decoder α) (s : String) : Option α := (Raw.ofText? s).bind (d maxNesting)

/-- Reads bytes. -/
def ofBytes? (d : Decoder α) (bs : Bytes) : Option α := (Raw.ofBytes? bs).bind (d maxNesting)

end Decode

/-- Members that are written only if they are there. -/
def given (k : String) (v : Option Value) : List (String × Value) :=
  match v with
  | some v => [(k, v)]
  | none => []

/-- The bytes of a value's text. -/
def Value.bytes (v : Value) : Bytes := Utf8.encode v.compact

end OciCompose.Json
