/-
  Finite maps as lists of pairs, for keys that are only compared.
  `get?_insert` and `get?_empty` say all there is to know about them.
-/

namespace OciCompose

universe u v
variable {κ : Type u} {α : Type v} [DecidableEq κ]

structure Assoc (κ : Type u) (α : Type v) where
  entries : List (κ × α)
deriving DecidableEq

namespace Assoc

def empty : Assoc κ α := ⟨[]⟩

def get? (m : Assoc κ α) (k : κ) : Option α := (m.entries.find? fun e => e.1 = k).map Prod.snd

def contains (m : Assoc κ α) (k : κ) : Bool := (m.get? k).isSome

def insert (m : Assoc κ α) (k : κ) (a : α) : Assoc κ α :=
  ⟨(k, a) :: m.entries.filter fun e => e.1 ≠ k⟩

omit [DecidableEq κ] in
@[simp] theorem get?_empty [DecidableEq κ] (k : κ) : (empty : Assoc κ α).get? k = none := rfl

theorem get?_insert (m : Assoc κ α) (k : κ) (a : α) (x : κ) :
    (m.insert k a).get? x = if x = k then some a else m.get? x := by
  by_cases h : x = k
  · subst h; simp [get?, insert]
  · have hk : ¬ k = x := fun e => h e.symm
    simp only [get?, insert, h, if_false, List.find?_cons, hk, decide_false]
    congr 1
    rw [List.find?_filter]
    congr 1
    funext e
    by_cases he : e.1 = x
    · subst he; simp [h]
    · simp [he]

end Assoc

end OciCompose
