import OciCompose.SortedMap
import OciCompose.Decimal

/-
  JSON values and their text.
  Objects keep the order of their members; `Value.compact` writes without white space and
  `Value.pretty` one member a line. Equality of values is decidable.
-/

namespace OciCompose.Json

/-- A number: an integer of at most 64 bits, signed or unsigned, or a double by its bits. -/
inductive Number where
  | integer (n : Int)
  | double (bits : UInt64)
deriving DecidableEq

inductive Value where
  | null
  | bool (b : Bool)
  | number (n : Number)
  | string (s : String)
  | array (items : List Value)
  | object (members : List (String × Value))

namespace Value

def natural (n : Nat) : Value := .number (.integer n)

/-- The value of the first member of a name. -/
def member? : Value → String → Option Value
  | .object ms, k => ms.lookup k
  | _, _ => none

def string? : Value → Option String
  | .string s => some s
  | _ => none

mutual

def same : Value → Value → Bool
  | .null, .null => true
  | .bool a, .bool b => a == b
  | .number a, .number b => a = b
  | .string a, .string b => a == b
  | .array a, .array b => sameItems a b
  | .object a, .object b => sameMembers a b
  | _, _ => false

def sameItems : List Value → List Value → Bool
  | [], [] => true
  | a :: as, b :: bs => same a b && sameItems as bs
  | _, _ => false

def sameMembers : List (String × Value) → List (String × Value) → Bool
  | [], [] => true
  | (k, a) :: as, (l, b) :: bs => k == l && same a b && sameMembers as bs
  | _, _ => false

end

mutual

theorem eq_of_same : ∀ {a b : Value}, same a b = true → a = b
  | .null, b, h => by cases b <;> simp_all [same]
  | .bool _, b, h => by cases b <;> simp_all [same]
  | .number _, b, h => by cases b <;> simp_all [same]
  | .string _, b, h => by cases b <;> simp_all [same]
  | .array as, b, h => by
    cases b <;> simp only [same, Bool.false_eq_true] at h
    rw [eq_of_sameItems h]
  | .object as, b, h => by
    cases b <;> simp only [same, Bool.false_eq_true] at h
    rw [eq_of_sameMembers h]

theorem eq_of_sameItems : ∀ {a b : List Value}, sameItems a b = true → a = b
  | [], b, h => by cases b <;> simp_all [sameItems]
  | a :: as, b, h => by
    cases b with
    | nil => simp [sameItems] at h
    | cons b bs =>
      simp only [sameItems, Bool.and_eq_true] at h
      rw [eq_of_same h.1, eq_of_sameItems h.2]

theorem eq_of_sameMembers :
    ∀ {a b : List (String × Value)}, sameMembers a b = true → a = b
  | [], b, h => by cases b <;> simp_all [sameMembers]
  | (k, a) :: as, b, h => by
    cases b with
    | nil => simp [sameMembers] at h
    | cons b bs =>
      obtain ⟨l, b⟩ := b
      simp only [sameMembers, Bool.and_eq_true, beq_iff_eq] at h
      rw [h.1.1, eq_of_same h.1.2, eq_of_sameMembers h.2]

end

mutual

theorem same_self : ∀ a : Value, same a a = true
  | .null => rfl
  | .bool _ => by simp [same]
  | .number _ => by simp [same]
  | .string _ => by simp [same]
  | .array as => by simp only [same]; exact sameItems_self as
  | .object as => by simp only [same]; exact sameMembers_self as

theorem sameItems_self : ∀ a : List Value, sameItems a a = true
  | [] => rfl
  | a :: as => by simp only [sameItems, same_self a, sameItems_self as, Bool.and_self]

theorem sameMembers_self : ∀ a : List (String × Value), sameMembers a a = true
  | [] => rfl
  | (_, a) :: as => by
    simp only [sameMembers, same_self a, sameMembers_self as, beq_self_eq_true, Bool.and_self]

end

instance : DecidableEq Value := fun a b =>
  if h : same a b = true then .isTrue (eq_of_same h)
  else .isFalse fun hab => h (hab ▸ same_self a)

end Value

/-! ## Text -/

/-- Doubles are written positionally from ten to -5 up to below ten to 16. -/
def doubleLayout : Decimal.Layout := ⟨-5, 15⟩

def signOf (bits : UInt64) : List Char := if bits.toNat / Nat.pow 2 63 % 2 = 1 then ['-'] else []

/-- A number. Integers have neither point nor exponent; doubles, which are finite, have one. -/
def Number.text : Number → List Char
  | .integer n => n.repr.toList
  | .double bits =>
    let b := Decimal.Binary.ofBits bits
    signOf bits ++
      if b.significand = 0 then "0.0".toList else b.shortest.text doubleLayout

/-- A character inside a string. -/
def escaped (c : Char) : List Char :=
  if c = '"' then ['\\', '"']
  else if c = '\\' then ['\\', '\\']
  else if c = '\x08' then ['\\', 'b']
  else if c = '\x0c' then ['\\', 'f']
  else if c = '\n' then ['\\', 'n']
  else if c = '\r' then ['\\', 'r']
  else if c = '\t' then ['\\', 't']
  else if c.toNat < 0x20 then
    ['\\', 'u', '0', '0', Nat.digitChar (c.toNat / 16), Nat.digitChar (c.toNat % 16)]
  else [c]

def quoted (s : String) : List Char := '"' :: s.toList.flatMap escaped ++ ['"']

mutual

/-- The text of a value without white space. -/
def Value.chars : Value → List Char
  | .null => "null".toList
  | .bool true => "true".toList
  | .bool false => "false".toList
  | .number n => n.text
  | .string s => quoted s
  | .array [] => ['[', ']']
  | .array (v :: vs) => '[' :: Value.chars v ++ itemsChars vs
  | .object [] => ['\x7b', '\x7d']
  | .object ((k, v) :: ms) => '\x7b' :: quoted k ++ ':' :: Value.chars v ++ membersChars ms

/-- The items after the first one, and the end of the array. -/
def itemsChars : List Value → List Char
  | [] => [']']
  | v :: vs => ',' :: Value.chars v ++ itemsChars vs

/-- The members after the first one, and the end of the object. -/
def membersChars : List (String × Value) → List Char
  | [] => ['\x7d']
  | (k, v) :: ms => ',' :: quoted k ++ ':' :: Value.chars v ++ membersChars ms

end

def Value.compact (v : Value) : String := String.ofList v.chars

/-- A new line with the indent of a nesting depth. -/
def newLine (depth : Nat) : List Char := '\n' :: List.replicate (2 * depth) ' '

mutual

/-- The text of a value at a nesting depth, with each item and member on a line of its own. -/
def Value.prettyChars (depth : Nat) : Value → List Char
  | .array (v :: vs) =>
    '[' :: newLine (depth + 1) ++ Value.prettyChars (depth + 1) v ++ itemsPretty depth vs
  | .object ((k, v) :: ms) =>
    '\x7b' :: newLine (depth + 1) ++ quoted k ++ ':' :: ' ' :: Value.prettyChars (depth + 1) v ++
      membersPretty depth ms
  | .array [] => ['[', ']']
  | .object [] => ['\x7b', '\x7d']
  | .null => "null".toList
  | .bool true => "true".toList
  | .bool false => "false".toList
  | .number n => n.text
  | .string s => quoted s

def itemsPretty (depth : Nat) : List Value → List Char
  | [] => newLine depth ++ [']']
  | v :: vs => ',' :: newLine (depth + 1) ++ Value.prettyChars (depth + 1) v ++ itemsPretty depth vs

def membersPretty (depth : Nat) : List (String × Value) → List Char
  | [] => newLine depth ++ ['\x7d']
  | (k, v) :: ms =>
    ',' :: newLine (depth + 1) ++ quoted k ++ ':' :: ' ' :: Value.prettyChars (depth + 1) v ++
      membersPretty depth ms

end

def Value.pretty (v : Value) : String := String.ofList (v.prettyChars 0)

end OciCompose.Json
