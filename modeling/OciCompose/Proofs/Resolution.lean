import OciCompose.Proofs.Appender

/-
  Histories of calls on one appender.
  Each call comes with a registry and a run of its own, so what a registry answers may change from
  call to call in any way. `serve_outcome` says all that one call can do. `settles` is the invariant of
  histories: an appender is what it was at first until a call reads its base, and knows that base from
  then on. `resolvesOnce` says what follows for the calls: one of them at most returns the base, and
  those that compose do so onto it.
-/

namespace OciCompose

namespace Appender

variable {σ : Type}

/-- What is asked of an appender. -/
inductive Ask where
  | resolve
  | append (layers : List Layer)

/-- A call: what is asked, the registry as it answers by then, and the run the call is part of. -/
structure Visit (σ : Type) where
  ask : Ask
  registry : Registry σ
  run : Run σ

/-- What a call returns. -/
inductive Answer where
  | base (result : Except Error ResolvedBase)
  | image (result : Except Error AppendResult)

/-- How an error is returned. -/
def Ask.failure (e : Error) : Ask → Answer
  | .resolve => .base (.error e)
  | .append _ => .image (.error e)

/-- What a call returns, the appender behind it and the run it leaves. An appender whose base could not
    be resolved is kept. -/
def respond (a : Appender) (v : Visit σ) : Answer × Appender × Run σ :=
  match v.ask with
  | .resolve =>
    match a.resolveBase v.registry v.run with
    | (.ok (base, after), left) => (.base (.ok base), after, left)
    | (.error e, left) => (.base (.error e), a, left)
  | .append layers =>
    let (result, after, left) := a.append v.registry layers v.run
    (.image result, after, left)

/-- A call that was made, with the appender before and behind it and the run it left. -/
structure Served (σ : Type) where
  visit : Visit σ
  before : Appender
  answer : Answer
  after : Appender
  left : Run σ

/-- A call returned a base. -/
def Served.returnsBase (m : Served σ) : Bool :=
  match m.answer with
  | .base (.ok _) => true
  | _ => false

/-- Makes a call. -/
def serve (a : Appender) (v : Visit σ) : Served σ :=
  let (answer, after, left) := a.respond v
  { visit := v, before := a, answer, after, left }

theorem before_serve (a : Appender) (v : Visit σ) : (a.serve v).before = a := rfl

/-- Makes calls one after the other. -/
def history (a : Appender) : List (Visit σ) → List (Served σ)
  | [] => []
  | v :: visits => a.serve v :: (a.serve v).after.history visits

/-- The appender once it knows its base. -/
def knowing (a : Appender) (base : ResolvedBase) : Appender := { a with state := some base }

theorem state_knowing (a : Appender) (base : ResolvedBase) :
    (a.knowing base).state = some base := rfl

theorem knowing_of_state {a : Appender} {base : ResolvedBase} (h : a.state = some base) :
    a.knowing base = a := by
  unfold knowing
  rw [← h]

/-- What an appender composes does not depend on what it knows. -/
theorem compose_knowing (a : Appender) (known : ResolvedBase) (r : Registry σ)
    (base : ResolvedBase) (layers : List Layer) :
    (a.knowing known).compose r base layers = a.compose r base layers := rfl

/-! ## One call -/

/-- The run a resolution leaves: the registry was read, and the base is reported. -/
def Visit.resolved (v : Visit σ) (a : Appender) (base : ResolvedBase) (s : σ) : Run σ :=
  { v.run with registry := s, events := v.run.events ++ [a.resolution base] }

/-- The base of a call, and the run it is composed in: it is known, or read by that very call. -/
inductive Finds (a : Appender) (v : Visit σ) (base : ResolvedBase) : Run σ → Prop
  | known : a.state = some base → Finds a v base v.run
  | read {s : σ} : a.state = none → a.readBase v.registry v.run.registry = (.ok base, s) →
      Finds a v base (v.resolved a base s)

/-- What a call can do. -/
inductive Outcome : Served σ → Prop
  | refused {a : Appender} {v : Visit σ} {base : ResolvedBase} :
      v.ask = .resolve → a.state = some base →
      Outcome ⟨v, a, .base (.error (.contract .resolvedTwice)), a, v.run⟩
  | unread {a : Appender} {v : Visit σ} {e : Error} {s : σ} :
      a.state = none → a.readBase v.registry v.run.registry = (.error e, s) →
      Outcome ⟨v, a, v.ask.failure e, a, { v.run with registry := s }⟩
  | resolved {a : Appender} {v : Visit σ} {base : ResolvedBase} {s : σ} :
      v.ask = .resolve → a.state = none →
      a.readBase v.registry v.run.registry = (.ok base, s) →
      Outcome ⟨v, a, .base (.ok base), a.knowing base, v.resolved a base s⟩
  | composed {a : Appender} {v : Visit σ} {layers : List Layer} {base : ResolvedBase} {w : Run σ} :
      v.ask = .append layers → Finds a v base w →
      Outcome ⟨v, a, .image (a.compose v.registry base layers w).1, a.knowing base,
        (a.compose v.registry base layers w).2⟩

theorem serve_outcome (a : Appender) (v : Visit σ) : Outcome (a.serve v) := by
  unfold serve respond append
  rcases hstate : a.state with _ | base
  · rw [resolveBase_unknown hstate]
    rcases hread : a.readBase v.registry v.run.registry with ⟨e | base, s⟩
    · have h := Outcome.unread hstate hread
      rcases hask : v.ask with _ | layers <;> rw [hask] at h <;> exact h
    · rcases hask : v.ask with _ | layers
      · exact .resolved hask hstate hread
      · exact .composed hask (.read hstate hread)
  · rw [resolveBase_known hstate]
    rcases hask : v.ask with _ | layers
    · exact .refused hask hstate
    · have h := Outcome.composed hask (.known hstate)
      rw [knowing_of_state hstate] at h
      exact h

namespace Outcome

variable {m : Served σ} {base : ResolvedBase}

/-- An appender that knows its base is the same behind a call. -/
theorem after_of_known (h : Outcome m) (hm : m.before.state = some base) : m.after = m.before := by
  cases h with
  | refused | unread => rfl
  | resolved _ hstate =>
    cases hstate.symm.trans hm
  | composed _ hfinds =>
    cases hfinds with
    | known hstate => exact knowing_of_state hstate
    | read hstate => cases hstate.symm.trans hm

/-- An appender that does not know its base either knows what the call read, or is the same. -/
theorem after_of_unknown (h : Outcome m) (hm : m.before.state = none) :
    m.after = m.before ∨ ∃ base, m.after = m.before.knowing base := by
  cases h with
  | refused | unread => exact .inl rfl
  | resolved | composed => exact .inr ⟨_, rfl⟩

/-- Only a call that resolves the base returns it. -/
theorem of_returned (h : Outcome m) (hm : m.answer = .base (.ok base)) :
    m.before.state = none ∧ m.after = m.before.knowing base ∧
      ∃ s, m.before.readBase m.visit.registry m.visit.run.registry = (.ok base, s) := by
  cases h with
  | refused | composed => cases hm
  | @unread a v =>
    dsimp only at hm
    rcases hask : v.ask with _ | layers <;> rw [hask] at hm <;> cases hm
  | resolved _ hstate hread =>
    cases hm
    exact ⟨hstate, rfl, _, hread⟩

theorem of_read {s : σ} (h : Outcome m) (hstate : m.before.state = none)
    (hread : m.before.readBase m.visit.registry m.visit.run.registry = (.ok base, s)) :
    m.after = m.before.knowing base := by
  cases h with
  | refused _ hknown => cases hstate.symm.trans hknown
  | unread _ hfails => cases hread.symm.trans hfails
  | resolved _ _ hread' =>
    cases hread.symm.trans hread'
    rfl
  | composed _ hfinds =>
    cases hfinds with
    | known hknown => cases hstate.symm.trans hknown
    | read _ hread' =>
      cases hread.symm.trans hread'
      rfl

theorem of_unread {e : Error} {s : σ} (h : Outcome m) (hstate : m.before.state = none)
    (hread : m.before.readBase m.visit.registry m.visit.run.registry = (.error e, s)) :
    m.answer = m.visit.ask.failure e ∧ m.left = { m.visit.run with registry := s } ∧
      m.after = m.before := by
  cases h with
  | refused _ hknown => cases hstate.symm.trans hknown
  | unread _ hfails =>
    cases hread.symm.trans hfails
    exact ⟨rfl, rfl, rfl⟩
  | resolved _ _ hread' => cases hread.symm.trans hread'
  | composed _ hfinds =>
    cases hfinds with
    | known hknown => cases hstate.symm.trans hknown
    | read _ hread' => cases hread.symm.trans hread'

theorem of_resolve (h : Outcome m) (hask : m.visit.ask = .resolve) (hm : m.before.state = some base) :
    m.answer = .base (.error (.contract .resolvedTwice)) ∧ m.left = m.visit.run := by
  cases h with
  | refused => exact ⟨rfl, rfl⟩
  | unread hstate => cases hstate.symm.trans hm
  | resolved _ hstate => cases hstate.symm.trans hm
  | composed hask' => cases hask.symm.trans hask'

theorem of_append {layers : List Layer} (h : Outcome m) (hask : m.visit.ask = .append layers)
    (hm : m.after.state = some base) :
    ∃ w, Finds m.before m.visit base w ∧
      m.answer = .image (m.before.compose m.visit.registry base layers w).1 ∧
      m.left = (m.before.compose m.visit.registry base layers w).2 := by
  cases h with
  | refused hask' => cases hask.symm.trans hask'
  | unread hstate => cases hstate.symm.trans hm
  | resolved hask' => cases hask.symm.trans hask'
  | composed hask' hfinds =>
    cases hask.symm.trans hask'
    cases hm
    exact ⟨_, hfinds, rfl, rfl⟩

end Outcome

/-- What is composed is the result on the base. -/
theorem resultOf_of_compose {a : Appender} {r : Registry σ} {base : ResolvedBase}
    {layers : List Layer} {w : Run σ} {result : AppendResult}
    (h : (a.compose r base layers w).1 = .ok result) : result = a.resultOf base layers := by
  rw [compose_apply] at h
  rcases hpush : (a.plan base layers).push r w with ⟨_ | _, w'⟩ <;> rw [hpush] at h <;> cases h
  rfl

/-! ## Histories -/

/-- An appender without a base, or as it is once it knows one. -/
def Within (a : Appender) (base : ResolvedBase) (b : Appender) : Prop :=
  a.state = none ∧ b = a ∨ b = a.knowing base

theorem Within.of_unknown {a b : Appender} {base : ResolvedBase} (h : a.Within base b)
    (hb : b.state = none) : b = a := by
  rcases h with ⟨-, rfl⟩ | rfl
  · rfl
  · cases hb

theorem Within.of_state {a b : Appender} {base known : ResolvedBase} (h : a.Within base b)
    (hb : b.state = some known) : known = base ∧ b = a.knowing base := by
  rcases h with ⟨hstate, rfl⟩ | rfl
  · cases hstate.symm.trans hb
  · exact ⟨(Option.some.inj hb).symm, rfl⟩

theorem Within.compose_eq {a b : Appender} {base : ResolvedBase} (h : a.Within base b)
    (r : Registry σ) (onto : ResolvedBase) (layers : List Layer) :
    b.compose r onto layers = a.compose r onto layers := by
  rcases h with ⟨-, rfl⟩ | rfl
  · rfl
  · exact a.compose_knowing base r onto layers

/-- What the calls of a history have in common: the appender is as it was, or knows the base; and it
    stays like that, with all that it consists of. -/
structure Settles (a : Appender) (base : ResolvedBase) (calls : List (Served σ)) : Prop where
  outcome : ∀ m ∈ calls, Outcome m
  before : ∀ m ∈ calls, a.Within base m.before
  after : ∀ m ∈ calls, a.Within base m.after
  kept : calls.Pairwise fun m m' => m.after = a.knowing base →
    m'.before = a.knowing base ∧ m'.after = a.knowing base

theorem history_cons (a : Appender) (v : Visit σ) (visits : List (Visit σ)) :
    a.history (v :: visits) = a.serve v :: (a.serve v).after.history visits := rfl

/-- An appender that knows its base stays as it is. -/
theorem history_known {a : Appender} {base : ResolvedBase} (ha : a.state = some base)
    (visits : List (Visit σ)) :
    ∀ m ∈ a.history visits, Outcome m ∧ m.before = a ∧ m.after = a := by
  induction visits with
  | nil => exact fun _ hm => (List.not_mem_nil hm).elim
  | cons v visits ih =>
    have hafter : (a.serve v).after = a := (a.serve_outcome v).after_of_known ha
    rw [history_cons, hafter]
    intro m hm
    rcases List.mem_cons.1 hm with rfl | hm
    · exact ⟨a.serve_outcome v, rfl, hafter⟩
    · exact ih m hm

theorem Settles.nil (a : Appender) (base : ResolvedBase) : a.Settles base ([] : List (Served σ)) where
  outcome := fun _ hm => (List.not_mem_nil hm).elim
  before := fun _ hm => (List.not_mem_nil hm).elim
  after := fun _ hm => (List.not_mem_nil hm).elim
  kept := .nil

theorem Settles.of_known (a : Appender) (base : ResolvedBase) (visits : List (Visit σ)) :
    a.Settles base ((a.knowing base).history visits) := by
  have h := history_known (a.state_knowing base) visits
  refine ⟨fun m hm => (h m hm).1, fun m hm => .inr (h m hm).2.1, fun m hm => .inr (h m hm).2.2, ?_⟩
  exact List.pairwise_of_forall_mem_list fun _ _ m' hm' _ => (h m' hm').2

theorem Settles.cons {a : Appender} {base : ResolvedBase} {m : Served σ} {calls : List (Served σ)}
    (h : a.Settles base calls) (hm : Outcome m) (hbefore : a.Within base m.before)
    (hafter : a.Within base m.after)
    (hkept : m.after = a.knowing base → ∀ m' ∈ calls,
      m'.before = a.knowing base ∧ m'.after = a.knowing base) :
    a.Settles base (m :: calls) where
  outcome := List.forall_mem_cons.2 ⟨hm, h.outcome⟩
  before := List.forall_mem_cons.2 ⟨hbefore, h.before⟩
  after := List.forall_mem_cons.2 ⟨hafter, h.after⟩
  kept := List.pairwise_cons.2 ⟨fun m' hm' hk => hkept hk m' hm', h.kept⟩

theorem settles (a : Appender) (visits : List (Visit σ)) :
    ∃ base, a.Settles base (a.history visits) := by
  rcases hstate : a.state with _ | base
  · induction visits with
    | nil => exact ⟨.empty, .nil a _⟩
    | cons v visits ih =>
      rw [history_cons]
      have hout := a.serve_outcome v
      rcases hout.after_of_unknown hstate with hafter | ⟨base, hafter⟩ <;>
        rw [before_serve] at hafter <;> rw [hafter]
      · obtain ⟨base, h⟩ := ih
        refine ⟨base, h.cons hout (.inl ⟨hstate, rfl⟩) (.inl ⟨hstate, hafter⟩) fun hk => ?_⟩
        rw [← hafter, hk] at hstate
        cases hstate
      · refine ⟨base, (Settles.of_known a base visits).cons hout (.inl ⟨hstate, rfl⟩) (.inr hafter)
          fun _ m hm => ?_⟩
        exact (history_known (a.state_knowing base) visits m hm).2
  · have h := Settles.of_known a base visits
    rw [knowing_of_state hstate] at h
    exact ⟨base, h⟩

/-- What it means for the calls of a history that their base is resolved once. -/
structure ResolvesOnce (a : Appender) (base : ResolvedBase) (calls : List (Served σ)) : Prop
    extends a.Settles base calls where
  /-- One call at most returns a base, -/
  once : calls.countP Served.returnsBase ≤ 1
  /-- where no call before it has come to know one. -/
  first : calls.Pairwise fun m m' => m'.returnsBase = true → m.after.state = none
  /-- It returns the base of the history, as it has read it. -/
  returned : ∀ m ∈ calls, ∀ b, m.answer = .base (.ok b) → b = base ∧ m.before = a ∧
    m.after = a.knowing base ∧ a.state = none ∧
      ∃ s, a.readBase m.visit.registry m.visit.run.registry = (.ok base, s)
  /-- A call that reads a base knows it from then on, whatever was asked. -/
  read : ∀ m ∈ calls, ∀ b s, m.before.state = none →
    a.readBase m.visit.registry m.visit.run.registry = (.ok b, s) →
      b = base ∧ m.after = a.knowing base
  /-- A call that cannot read it returns the error, and leaves the appender as it was. -/
  unread : ∀ m ∈ calls, ∀ e s, m.before.state = none →
    a.readBase m.visit.registry m.visit.run.registry = (.error e, s) →
      m.answer = m.visit.ask.failure e ∧ m.left = { m.visit.run with registry := s } ∧
        m.before = a ∧ m.after = a
  /-- A base that is known stays; -/
  stays : ∀ m ∈ calls, ∀ known, m.before.state = some known → known = base ∧ m.after = m.before
  /-- resolving it is refused, by any registry alike, and nothing happens. -/
  refused : ∀ m ∈ calls, ∀ known, m.visit.ask = .resolve → m.before.state = some known →
    m.answer = .base (.error (.contract .resolvedTwice)) ∧ m.left = m.visit.run ∧
      ∀ r, m.before.resolveBase r m.visit.run = (.error (.contract .resolvedTwice), m.visit.run)
  /-- Layers are appended to it by every call that knows it or could read it. -/
  composed : ∀ m ∈ calls, ∀ layers, m.visit.ask = .append layers → m.after.state ≠ none →
    ∃ w, Finds m.before m.visit base w ∧
      m.answer = .image (a.compose m.visit.registry base layers w).1 ∧
      m.left = (a.compose m.visit.registry base layers w).2 ∧
      ∀ result, m.answer = .image (.ok result) → result = a.resultOf base layers

theorem Served.returnsBase_iff {m : Served σ} :
    m.returnsBase = true ↔ ∃ base, m.answer = .base (.ok base) := by
  unfold returnsBase
  constructor
  · intro h
    split at h
    · next base hanswer => exact ⟨base, hanswer⟩
    · cases h
  · rintro ⟨base, h⟩
    rw [h]

namespace Settles

variable {a : Appender} {base : ResolvedBase} {calls : List (Served σ)}

/-- No call before one that returns a base has come to know it. -/
theorem first (h : a.Settles base calls) :
    calls.Pairwise fun m m' => m'.returnsBase = true → m.after.state = none := by
  refine h.kept.imp_of_mem fun {m m'} hm hm' hkept hreturns => ?_
  obtain ⟨b, hanswer⟩ := Served.returnsBase_iff.1 hreturns
  rcases hstate : m.after.state with _ | known
  · rfl
  · have hbefore := (hkept ((h.after m hm).of_state hstate).2).1
    have hunknown := ((h.outcome m' hm').of_returned hanswer).1
    rw [hbefore] at hunknown
    cases hunknown

theorem once (h : a.Settles base calls) : calls.countP Served.returnsBase ≤ 1 := by
  have hfirst := h.first.filter Served.returnsBase
  have hknows : ∀ m ∈ calls.filter Served.returnsBase,
      m.returnsBase = true ∧ m.after.state ≠ none := by
    intro m hm
    obtain ⟨hm, hreturns⟩ := List.mem_filter.1 hm
    obtain ⟨b, hanswer⟩ := Served.returnsBase_iff.1 hreturns
    refine ⟨hreturns, ?_⟩
    rw [((h.outcome m hm).of_returned hanswer).2.1]
    exact Option.some_ne_none b
  rw [List.countP_eq_length_filter]
  rcases hl : calls.filter Served.returnsBase with _ | ⟨m, _ | ⟨m', rest⟩⟩
  · exact Nat.zero_le 1
  · exact Nat.le_refl 1
  · rw [hl] at hfirst hknows
    have hm' := (hknows m' (List.mem_cons_of_mem m List.mem_cons_self)).1
    exact absurd ((List.pairwise_cons.1 hfirst).1 m' List.mem_cons_self hm')
      (hknows m List.mem_cons_self).2

theorem resolvesOnce (h : a.Settles base calls) : a.ResolvesOnce base calls where
  toSettles := h
  once := h.once
  first := h.first
  returned := by
    intro m hm b hanswer
    obtain ⟨hstate, hafter, hread⟩ := (h.outcome m hm).of_returned hanswer
    have hbefore := (h.before m hm).of_unknown hstate
    rw [hbefore] at hstate hafter hread
    obtain ⟨rfl, -⟩ := (h.after m hm).of_state (hafter ▸ a.state_knowing b)
    exact ⟨rfl, hbefore, hafter, hstate, hread⟩
  read := by
    intro m hm b s hstate hread
    rw [← (h.before m hm).of_unknown hstate] at hread
    have hafter := (h.outcome m hm).of_read hstate hread
    exact (h.after m hm).of_state (hafter ▸ m.before.state_knowing b)
  unread := by
    intro m hm e s hstate hread
    have hbefore := (h.before m hm).of_unknown hstate
    rw [← hbefore] at hread
    obtain ⟨hanswer, hleft, hafter⟩ := (h.outcome m hm).of_unread hstate hread
    exact ⟨hanswer, hleft, hbefore, hafter.trans hbefore⟩
  stays := fun m hm _ hstate =>
    ⟨((h.before m hm).of_state hstate).1, (h.outcome m hm).after_of_known hstate⟩
  refused := by
    intro m hm known hask hstate
    obtain ⟨hanswer, hleft⟩ := (h.outcome m hm).of_resolve hask hstate
    exact ⟨hanswer, hleft, fun r => resolveBase_known hstate r _⟩
  composed := by
    intro m hm layers hask hknows
    obtain ⟨known, hstate⟩ := Option.ne_none_iff_exists'.1 hknows
    obtain ⟨rfl, -⟩ := (h.after m hm).of_state hstate
    obtain ⟨w, hfinds, hanswer, hleft⟩ := (h.outcome m hm).of_append hask hstate
    -- composing depends on the appender as it was at first
    rw [(h.before m hm).compose_eq] at hanswer hleft
    refine ⟨w, hfinds, hanswer, hleft, fun result hresult => ?_⟩
    rw [hanswer] at hresult
    injection hresult with hresult
    exact resultOf_of_compose hresult

end Settles

/-- A base is resolved once, whatever is asked and whatever the registry answers from call to call. -/
theorem resolves_once (a : Appender) (visits : List (Visit σ)) :
    ∃ base, a.ResolvesOnce base (a.history visits) := by
  obtain ⟨base, h⟩ := a.settles visits
  exact ⟨base, h.resolvesOnce⟩

/-- The empty image is resolved once, too. -/
example (tag : Reference) (r : Registry σ) (w : Run σ) :
    ((Appender.mk none tag [] none false none).history
      [⟨.resolve, r, w⟩, ⟨.resolve, r, w⟩, ⟨.resolve, r, w⟩]).map Served.returnsBase =
      [true, false, false] := rfl

end Appender

end OciCompose
