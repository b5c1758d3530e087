import OciCompose.Run

/-
  Outcomes of calls and builds.
  `Call.Ends c s P F` says what holds of the result and of the state after a call from `s`, by
  whether it succeeds; `Build.Ends` says it of the registry behind a build, whatever is reported.
  A sequence is opened by `Ends.bind`, so each operation needs one statement about its outcomes.
-/

namespace OciCompose

variable {σ α β : Type}

namespace Call

/-- `P` holds of the result and the state after a call that succeeds, `F` of the error and the state
    after one that fails. -/
def Ends (c : Call σ α) (s : σ) (P : α → σ → Prop) (F : Error → σ → Prop) : Prop :=
  match c s with
  | (.ok a, s) => P a s
  | (.error e, s) => F e s

theorem bind_apply (c : Call σ α) (f : α → Call σ β) (s : σ) :
    (c >>= f) s =
      match c s with
      | (.ok a, s) => f a s
      | (.error e, s) => (.error e, s) := by
  show (ExceptT.bind c f) s = _
  simp only [ExceptT.bind, ExceptT.mk, bind, StateT.bind, Id]
  rcases c s with ⟨_ | _, _⟩ <;> rfl

theorem eq_of_fst {c : Call σ α} {s : σ} {r : Except Error α} (h : (c s).1 = r) :
    ∃ s', c s = (r, s') := ⟨(c s).2, Prod.ext h rfl⟩

namespace Ends

variable {c : Call σ α} {s : σ} {P : α → σ → Prop} {F : Error → σ → Prop}

theorem of_eq_ok {a : α} {s' : σ} (h : c s = (.ok a, s')) : c.Ends s P F ↔ P a s' := by
  simp only [Ends, h]

theorem of_eq_error {e : Error} {s' : σ} (h : c s = (.error e, s')) :
    c.Ends s P F ↔ F e s' := by
  simp only [Ends, h]

theorem mono {P' : α → σ → Prop} {F' : Error → σ → Prop} (h : c.Ends s P F)
    (hd : ∀ a s, P a s → P' a s) (hf : ∀ e s, F e s → F' e s) :
    c.Ends s P' F' := by
  unfold Ends at h ⊢
  rcases hc : c s with ⟨e | a, s'⟩
  · rw [hc] at h; exact hf e s' h
  · rw [hc] at h; exact hd a s' h

theorem and {P' : α → σ → Prop} {F' : Error → σ → Prop} (h : c.Ends s P F) (h' : c.Ends s P' F') :
    c.Ends s (fun a s => P a s ∧ P' a s) fun e s => F e s ∧ F' e s := by
  unfold Ends at h h' ⊢
  rcases hc : c s with ⟨e | a, s'⟩ <;> rw [hc] at h h' <;> exact ⟨h, h'⟩

/-- A sequence ends as its second part does after the first one, or as the first one if that fails. -/
theorem bind {f : α → Call σ β} {Q : α → σ → Prop} {P : β → σ → Prop}
    (h : c.Ends s Q F) (hf : ∀ a s, Q a s → (f a).Ends s P F) :
    (c >>= f).Ends s P F := by
  unfold Ends at h
  unfold Ends
  rw [bind_apply]
  rcases hc : c s with ⟨e | a, s'⟩
  · rw [hc] at h; exact h
  · rw [hc] at h; exact hf a s' h

/-- Whatever a call does, it ends as it does. -/
theorem self (c : Call σ α) (s : σ) :
    c.Ends s (fun a s' => c s = (.ok a, s')) fun e s' => c s = (.error e, s') := by
  unfold Ends
  split <;> assumption

theorem trivial (c : Call σ α) (s : σ) : c.Ends s (fun _ _ => True) fun _ _ => True :=
  (self c s).mono (fun _ _ _ => .intro) fun _ _ _ => .intro

theorem pure {a : α} (h : P a s) : (Pure.pure a : Call σ α).Ends s P F := h

theorem throw {e : Error} (h : F e s) :
    (MonadExcept.throw e : Call σ α).Ends s P F := h

theorem ofExcept {r : Except Error α} (hd : ∀ a, r = .ok a → P a s)
    (hf : ∀ e, r = .error e → F e s) : (Call.ofExcept r).Ends s P F := by
  cases r with
  | error e => exact hf e rfl
  | ok a => exact hd a rfl

end Ends

end Call

namespace Build

theorem call_eq {c : Call σ α} {w : Run σ} {result : Except Error α} {s : σ}
    (h : c w.registry = (result, s)) : Build.call c w = (result, { w with registry := s }) := by
  unfold Build.call
  rw [h]

/-- What holds of the result or the error of a build, and of the registry after it. -/
def Ends (b : Build σ α) (w : Run σ) (P : α → σ → Prop) (F : Error → σ → Prop) : Prop :=
  Call.Ends b w (fun a w => P a w.registry) fun e w => F e w.registry

namespace Ends

variable {b : Build σ α} {w : Run σ} {P : α → σ → Prop} {F : Error → σ → Prop}

theorem ok {a : α} {w' : Run σ} (h : b.Ends w P F) (hb : b w = (.ok a, w')) :
    P a w'.registry := (Call.Ends.of_eq_ok hb).1 h

theorem error {e : Error} {w' : Run σ} (h : b.Ends w P F) (hb : b w = (.error e, w')) :
    F e w'.registry := (Call.Ends.of_eq_error hb).1 h

/-- A build that cannot fail succeeds. -/
theorem exists_ok (h : b.Ends w P fun _ _ => False) :
    ∃ a w', b w = (.ok a, w') ∧ P a w'.registry := by
  rcases hb : b w with ⟨e | a, w'⟩
  · exact (h.error hb).elim
  · exact ⟨a, w', rfl, h.ok hb⟩

theorem mono {P' : α → σ → Prop} {F' : Error → σ → Prop} (h : b.Ends w P F)
    (hd : ∀ a s, P a s → P' a s) (hf : ∀ e s, F e s → F' e s) :
    b.Ends w P' F' :=
  Call.Ends.mono h (fun a w => hd a w.registry) fun e w => hf e w.registry

theorem and {P' : α → σ → Prop} {F' : Error → σ → Prop} (h : b.Ends w P F) (h' : b.Ends w P' F') :
    b.Ends w (fun a s => P a s ∧ P' a s) fun e s => F e s ∧ F' e s := Call.Ends.and h h'

theorem bind {f : α → Build σ β} {Q : α → σ → Prop} {P : β → σ → Prop}
    (h : b.Ends w Q F)
    (hf : ∀ a w, Q a w.registry → (f a).Ends w P F) :
    (b >>= f).Ends w P F := Call.Ends.bind h hf

theorem pure {a : α} (h : P a w.registry) : (Pure.pure a : Build σ α).Ends w P F := h

theorem throw {e : Error} (h : F e w.registry) :
    (MonadExcept.throw e : Build σ α).Ends w P F := h

theorem call {c : Call σ α} (h : c.Ends w.registry P F) :
    (Build.call c).Ends w P F := by
  unfold Call.Ends at h
  unfold Ends Call.Ends Build.call
  rcases hc : c w.registry with ⟨e | a, s⟩ <;> rw [hc] at h <;> exact h

theorem report {e : Event} {P : Unit → σ → Prop} (h : P () w.registry) :
    (Build.report e).Ends w P F := h

theorem reportAll {es : List Event} {P : Unit → σ → Prop} (h : P () w.registry) :
    (Build.reportAll es).Ends w P F := h

theorem reporting {event : Error → Event} (h : b.Ends w P F) :
    (Build.reporting b event).Ends w P F := by
  unfold Ends Call.Ends at h
  unfold Ends Call.Ends Build.reporting
  rcases hb : b w with ⟨e | a, w'⟩ <;> rw [hb] at h <;> exact h

theorem ofExcept {r : Except Error α} (hd : ∀ a, r = .ok a → P a w.registry)
    (hf : ∀ e, r = .error e → F e w.registry) : (Build.ofExcept r).Ends w P F := by
  cases r with
  | error e => exact hf e rfl
  | ok a => exact hd a rfl

end Ends

end Build

end OciCompose
