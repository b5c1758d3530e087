import OciCompose.Proofs.Platform

/-
  Choices of platforms.
  A choice is read from texts that name a platform each (`ofTexts_eq_ok_iff`). It accepts a platform if
  it lists none, or one of the same tuple (`accepts_iff`). No text names a version of the system, so a
  platform that has one is accepted by no choice that lists any (`accepts_ofTexts_iff`).
-/

namespace OciCompose

/-- A list of readings succeeds if and only if each of them does. -/
theorem mapM_eq_ok_iff {ε α β : Type} {f : α → Except ε β} {l : List α} {r : List β} :
    l.mapM f = .ok r ↔ l.map f = r.map .ok := by
  induction l generalizing r with
  | nil => exact ⟨fun h => by cases h; rfl, fun h => congrArg Except.ok (by simpa using h.symm)⟩
  | cons x xs ih =>
    rw [List.mapM_cons, List.map_cons]
    cases hx : f x with
    | error e => exact ⟨nofun, fun h => by cases r <;> cases h⟩
    | ok y =>
      cases hxs : xs.mapM f with
      | error e =>
        refine ⟨nofun, fun h => ?_⟩
        cases r with
        | nil => cases h
        | cons z zs =>
          rw [ih.2 (List.cons.inj h).2] at hxs
          cases hxs
      | ok ys =>
        rw [ih.1 hxs]
        constructor
        · intro h
          cases h
          rfl
        · intro h
          have hr : y :: ys = r :=
            (List.map_inj_right fun _ _ => Except.ok.inj).1 (h : (y :: ys).map Except.ok = _)
          rw [← hr]
          rfl

theorem Platform.sameTuple_iff {p q : Platform} : p.sameTuple q = true ↔
    p.os = q.os ∧ p.architecture = q.architecture ∧ p.variant = q.variant ∧
      p.osVersion = q.osVersion := by
  unfold sameTuple
  simp only [Bool.and_eq_true, beq_iff_eq, and_assoc]

theorem Platform.Named.osVersion_eq {cs : List Char} {p : Platform} (h : Named cs p) :
    p.osVersion = none := by
  obtain ⟨-, hstand⟩ := h
  cases hstand <;> rfl

namespace PlatformMatcher

/-- The choice lists no platform, or one of the same tuple. -/
def Chooses (m : PlatformMatcher) (p : Platform) : Prop :=
  m.wanted = [] ∨ ∃ q ∈ m.wanted, q.sameTuple p = true

theorem accepts_iff {m : PlatformMatcher} {p : Platform} :
    m.accepts (some p) = true ↔ m.Chooses p := by
  unfold accepts Chooses
  rw [Bool.or_eq_true, List.isEmpty_iff, List.any_eq_true]

/-- The listed platforms are what the texts are read as, in order. -/
theorem ofTexts_eq_ok_iff {texts : List String} {m : PlatformMatcher} :
    ofTexts texts = .ok m ↔ texts.map Platform.parse = m.wanted.map .ok := by
  rw [← mapM_eq_ok_iff]
  unfold ofTexts
  cases texts.mapM Platform.parse with
  | error e => exact ⟨nofun, nofun⟩
  | ok ps => exact ⟨fun h => by cases h; rfl, fun h => by cases h; rfl⟩

/-- A text names the system, the architecture and the variant of a platform. -/
def NamesTuple (text : String) (p : Platform) : Prop :=
  ∃ q, Platform.Named (Text.trimChars text.toList) q ∧
    q.os = p.os ∧ q.architecture = p.architecture ∧ q.variant = p.variant

/-- A choice that was read from texts accepts a platform if there are no texts, or if the platform has
    no version of its system and a text names the rest of its tuple. Nothing else of it counts. -/
theorem accepts_ofTexts_iff {texts : List String} {m : PlatformMatcher}
    (h : ofTexts texts = .ok m) (p : Platform) :
    (m.accepts (some p) = true ↔
      texts = [] ∨ p.osVersion = none ∧ ∃ text ∈ texts, NamesTuple text p) ∧
    ∀ features, m.accepts (some { p with osFeatures := features }) = m.accepts (some p) := by
  have hread := ofTexts_eq_ok_iff.1 h
  have hempty : m.wanted = [] ↔ texts = [] := by
    rw [← List.map_eq_nil_iff (f := Platform.parse), hread, List.map_eq_nil_iff]
  have hmem {q : Platform} : q ∈ m.wanted ↔
      ∃ text ∈ texts, Platform.Named (Text.trimChars text.toList) q := by
    have hok : q ∈ m.wanted ↔ .ok q ∈ texts.map Platform.parse := by
      rw [hread, List.mem_map]
      simp only [Except.ok.injEq, exists_eq_right]
    rw [hok, List.mem_map]
    simp only [Platform.parse_eq_ok_iff]
  refine ⟨?_, fun features => rfl⟩
  rw [accepts_iff, Chooses, hempty]
  refine or_congr_right ?_
  constructor
  · rintro ⟨q, hq, hsame⟩
    obtain ⟨hos, harch, hvariant, hversion⟩ := Platform.sameTuple_iff.1 hsame
    obtain ⟨text, htext, hnamed⟩ := hmem.1 hq
    exact ⟨hversion ▸ hnamed.osVersion_eq, text, htext, q, hnamed, hos, harch, hvariant⟩
  · rintro ⟨hversion, text, htext, q, hnamed, hos, harch, hvariant⟩
    refine ⟨q, hmem.2 ⟨text, htext, hnamed⟩, Platform.sameTuple_iff.2 ?_⟩
    exact ⟨hos, harch, hvariant, hnamed.osVersion_eq.trans hversion.symm⟩

/-! ## A version of the system -/

/-- Windows, as a text can name it. -/
def windows : Platform := { os := "windows", architecture := "amd64" }

/-- Windows, as the index of its images gives it. -/
def versioned : Platform := { windows with osVersion := some "10.0.17763.1" }

theorem ofTexts_windows : ofTexts ["windows/amd64"] = .ok ⟨[windows]⟩ := by rfl

theorem namesTuple_windows : NamesTuple "windows/amd64" windows :=
  ⟨windows, Platform.parse_eq_ok_iff.1 rfl, rfl, rfl, rfl⟩

/-- The text names the platform without a version, which is accepted, and the one with a version is
    not. -/
theorem accepts_ofTexts_iff_windows : ofTexts ["windows/amd64"] = .ok ⟨[windows]⟩ ∧
    accepts ⟨[windows]⟩ (some windows) = true ∧ accepts ⟨[windows]⟩ (some versioned) = false := by
  refine ⟨ofTexts_windows, ?_, ?_⟩
  · exact (accepts_ofTexts_iff ofTexts_windows windows).1.2
      (.inr ⟨rfl, _, List.mem_singleton_self _, namesTuple_windows⟩)
  · rw [Bool.eq_false_iff, ne_eq, (accepts_ofTexts_iff ofTexts_windows versioned).1]
    rintro (h | ⟨h, -⟩) <;> cases h

/-- The system, architecture and variant of a platform do not decide whether it is accepted. -/
theorem not_accepts_iff_namesTuple :
    ¬ ∀ (texts : List String) (m : PlatformMatcher) (p : Platform), ofTexts texts = .ok m →
      (m.accepts (some p) = true ↔ texts = [] ∨ ∃ text ∈ texts, NamesTuple text p) := by
  intro h
  have hnamed : NamesTuple "windows/amd64" versioned := namesTuple_windows
  have haccepted := (h _ _ versioned ofTexts_windows).2 (.inr ⟨_, List.mem_singleton_self _, hnamed⟩)
  exact absurd haccepted (by decide)

end PlatformMatcher

end OciCompose
