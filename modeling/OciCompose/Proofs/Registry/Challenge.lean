import Mathlib.Data.List.Basic
import Mathlib.Data.List.TakeWhile
import OciCompose.Proofs.SortedMap
import OciCompose.Proofs.Text
import OciCompose.Registry.Challenge

/-
  How a challenge is read.
  `Round` says what one round of the reading cuts off a text: a key, its equals sign and a value. It
  takes an equals sign at least (`Round.count_lt`), so every text is read in finitely many rounds, and
  in one way (`reads_iff`), however it is malformed. Parameters that are written one after the other
  are read one after the other (`reads_joined`).
-/

namespace OciCompose.Challenge

open Text

/-! ## Rounds -/

/-- What is left of a text between two rounds. -/
def tidy (s : List Char) : List Char := trimChars (dropCommas s)

/-- The key that is read from what stands before an equals sign. -/
def keyOf (s : List Char) : String := String.ofList (tidy (trimChars s))

/-- A text begins with a value and goes on with a rest. A quoted value ends at the next quote, any other
    before the next comma, and both at the end of the text. -/
inductive Value : List Char → List Char → List Char → Prop
  | quoted {value rest : List Char} (quote : '"' ∉ value) :
    Value ('"' :: (value ++ '"' :: rest)) value rest
  | unclosed {value : List Char} (quote : '"' ∉ value) : Value ('"' :: value) value []
  | bare {value rest : List Char} (head : value.head? ≠ some '"') (comma : ',' ∉ value) :
    Value (value ++ ',' :: rest) value (',' :: rest)
  | last {value : List Char} (head : value.head? ≠ some '"') (comma : ',' ∉ value) :
    Value value value []

/-- A round reads a key and a value at the front of a text, and leaves a rest. -/
inductive Round : List Char → String × String → List Char → Prop
  | intro {key after value rest : List Char} (equals : '=' ∉ key) (front : Value after value rest) :
    Round (key ++ '=' :: after) (keyOf key, String.ofList value) (tidy rest)

theorem splitValue_of_head {s : List Char} (h : s.head? ≠ some '"') :
    splitValue s = (s.takeWhile (· != ','), s.dropWhile (· != ',')) := by
  unfold splitValue
  split
  · exact (h rfl).elim
  · rfl

theorem Value.splitValue_eq {s value rest : List Char} (h : Value s value rest) :
    splitValue s = (value, rest) := by
  have hpass {v : List Char} (hcomma : ',' ∉ v) : ∀ c ∈ v, (c != ',') = true := fun c hc =>
    bne_iff_ne.2 fun heq => hcomma (heq ▸ hc)
  cases h with
  | quoted quote => rw [splitValue, cut_eq_some_iff.2 ⟨rfl, quote⟩]
  | unclosed quote => rw [splitValue, cut_eq_none_iff.2 quote]
  | @bare _ rest head comma =>
    rw [splitValue_of_head, List.takeWhile_append_of_pos (hpass comma),
      List.dropWhile_append_of_pos (hpass comma)]
    · simp
    · cases value with
      | nil => exact nofun
      | cons c cs => exact head
  | last head comma =>
    rw [splitValue_of_head head, List.takeWhile_eq_self_iff.2 (hpass comma),
      List.dropWhile_eq_nil_iff.2 (hpass comma)]

theorem exists_value (s : List Char) : ∃ value rest, Value s value rest := by
  by_cases hhead : s.head? = some '"'
  · obtain ⟨quoted, rfl⟩ := List.head?_eq_some_iff.1 hhead
    cases hcut : cut '"' quoted with
    | none => exact ⟨_, _, .unclosed (cut_eq_none_iff.1 hcut)⟩
    | some parts =>
      obtain ⟨rfl, hquote⟩ := cut_eq_some_iff.1 hcut
      exact ⟨_, _, .quoted hquote⟩
  · cases hcut : cut ',' s with
    | none => exact ⟨_, _, .last hhead (cut_eq_none_iff.1 hcut)⟩
    | some parts =>
      obtain ⟨rfl, hcomma⟩ := cut_eq_some_iff.1 hcut
      refine ⟨_, _, .bare (fun h => hhead ?_) hcomma⟩
      rw [List.head?_append, h, Option.some_or]

theorem exists_round {s : List Char} (h : '=' ∈ s) : ∃ e rest, Round s e rest := by
  obtain ⟨⟨key, after⟩, hcut⟩ := Option.ne_none_iff_exists'.1 (mt cut_eq_none_iff.1 (not_not.2 h))
  obtain ⟨rfl, hkey⟩ := cut_eq_some_iff.1 hcut
  obtain ⟨value, rest, hvalue⟩ := exists_value after
  exact ⟨_, _, .intro hkey hvalue⟩

theorem Round.pairs_eq {s rest : List Char} {e : String × String} (h : Round s e rest) :
    pairs s = e :: pairs rest := by
  obtain ⟨hkey, hvalue⟩ := h
  rw [pairs]
  split
  · next hcut => exact absurd (cut_eq_none_iff.1 hcut) (by simp)
  · next key after hcut =>
    cases (cut_eq_some_iff.2 ⟨rfl, hkey⟩).symm.trans hcut
    rw [hvalue.splitValue_eq]
    rfl

theorem pairs_of_not_mem {s : List Char} (h : '=' ∉ s) : pairs s = [] := by
  rw [pairs]
  split
  · rfl
  · next hcut =>
    rw [cut_eq_none_iff.2 h] at hcut
    cases hcut

/-! ## Every text is read -/

theorem tidy_sublist (s : List Char) : (tidy s).Sublist s :=
  (trimChars_sublist _).trans (List.dropWhile_sublist _)

/-- A round takes an equals sign away. -/
theorem Round.count_lt {s rest : List Char} {e : String × String} (h : Round s e rest) :
    rest.count '=' < s.count '=' := by
  obtain @⟨key, after, value, rest, -, hvalue⟩ := h
  have hrest : rest.count '=' ≤ after.count '=' := by
    cases hvalue <;> simp
  have htidy : (tidy rest).count '=' ≤ rest.count '=' := (tidy_sublist rest).count_le '='
  rw [List.count_append, List.count_cons_self]
  omega

/-- There is no endless sequence of rounds. -/
theorem wellFounded_round : WellFounded fun rest s : List Char => ∃ e, Round s e rest :=
  Subrelation.wf (fun ⟨_, h⟩ => h.count_lt) (measure fun s : List Char => s.count '=').wf

/-- What a text is read as, round by round until there is no equals sign. -/
inductive Reads : List Char → List (String × String) → Prop
  | done {s : List Char} (equals : '=' ∉ s) : Reads s []
  | more {s rest : List Char} {e : String × String} {es : List (String × String)}
    (round : Round s e rest) (reads : Reads rest es) : Reads s (e :: es)

theorem Reads.eq_pairs {s : List Char} {es : List (String × String)} (h : Reads s es) :
    es = pairs s := by
  induction h with
  | done equals => exact (pairs_of_not_mem equals).symm
  | more round _ ih => rw [round.pairs_eq, ih]

theorem reads_pairs (s : List Char) : Reads s (pairs s) := by
  induction s using wellFounded_round.induction with
  | _ s ih =>
    by_cases h : '=' ∈ s
    · obtain ⟨e, rest, hround⟩ := exists_round h
      rw [hround.pairs_eq]
      exact .more hround (ih rest ⟨e, hround⟩)
    · rw [pairs_of_not_mem h]
      exact .done h

theorem reads_iff {s : List Char} {es : List (String × String)} : Reads s es ↔ es = pairs s :=
  ⟨Reads.eq_pairs, fun h => h ▸ reads_pairs s⟩

/-- There are no more rounds than equals signs. -/
theorem Reads.length_le {s : List Char} {es : List (String × String)} (h : Reads s es) :
    es.length ≤ s.count '=' := by
  induction h with
  | done => exact Nat.zero_le _
  | more round _ ih => exact Nat.lt_of_le_of_lt ih round.count_lt

/-! ## Parameters as they are written -/

/-- A text that can stand without quotes. -/
def IsBare (s : List Char) : Prop := ∀ c ∈ s, c ≠ '"' ∧ c ≠ ',' ∧ isSpace c = false

instance (s : List Char) : Decidable (IsBare s) := List.decidableBAll _ s

/-- A value is written in quotes, or as it is. -/
inductive Written (value : List Char) : List Char → Prop
  | quoted (quote : '"' ∉ value) : Written value ('"' :: (value ++ ['"']))
  | bare (bare : IsBare value) : Written value value

/-- There is no white space at the end. -/
def Closed (s : List Char) : Prop := ∀ c, s.getLast? = some c → isSpace c = false

theorem Closed.append {s t : List Char} (hs : Closed s) (ht : Closed t) : Closed (s ++ t) := by
  intro c hc
  rw [List.getLast?_append, Option.or_eq_some_iff] at hc
  rcases hc with hc | ⟨-, hc⟩
  · exact ht c hc
  · exact hs c hc

theorem Written.closed {value text : List Char} (h : Written value text) : Closed text := by
  intro c hc
  cases h with
  | quoted =>
    rw [← List.cons_append, List.getLast?_concat] at hc
    cases hc
    rfl
  | bare bare => exact (bare c (List.mem_of_mem_getLast? hc)).2.2

/-- A value is read as it is written, whatever parameter follows. -/
theorem Written.value {value text rest : List Char} (h : Written value text)
    (hrest : ∀ c, rest.head? = some c → c = ',') : Value (text ++ rest) value rest := by
  cases h with
  | quoted quote =>
    rw [List.cons_append, List.append_assoc]
    exact .quoted quote
  | bare bare =>
    have hhead : value.head? ≠ some '"' := fun h => (bare _ (List.mem_of_mem_head? h)).1 rfl
    have hcomma : ',' ∉ value := fun h => (bare _ h).2.1 rfl
    cases rest with
    | nil =>
      rw [List.append_nil]
      exact .last hhead hcomma
    | cons c rest =>
      rw [hrest c rfl]
      exact .bare hhead hcomma

/-- A parameter of a challenge, with its value as it is written. -/
structure Parameter where
  key : String
  value : String
  text : List Char
  key_ne : key.toList ≠ []
  key_bare : IsBare key.toList
  equals_not_mem : '=' ∉ key.toList
  written : Written value.toList text

namespace Parameter

def chars (p : Parameter) : List Char := p.key.toList ++ '=' :: p.text

/-- The entry that a parameter is read as. -/
def entry (p : Parameter) : String × String := (p.key, p.value)

theorem chars_ne_nil (p : Parameter) : p.chars ≠ [] := by
  unfold chars
  simp

theorem keyOf_key (p : Parameter) : keyOf p.key.toList = p.key := by
  have htrimmed : Trimmed p.key.toList :=
    ⟨fun c hc => (p.key_bare c (List.mem_of_mem_head? hc)).2.2,
      fun c hc => (p.key_bare c (List.mem_of_mem_getLast? hc)).2.2⟩
  have hcommas : dropCommas p.key.toList = p.key.toList :=
    dropWhile_eq_self fun c hc => beq_eq_false_iff_ne.2 (p.key_bare c (List.mem_of_mem_head? hc)).2.1
  rw [keyOf, htrimmed.trimChars_eq, tidy, hcommas, htrimmed.trimChars_eq, String.ofList_toList]

theorem head_chars (p : Parameter) {rest : List Char} {c : Char}
    (h : (p.chars ++ rest).head? = some c) : c ≠ ',' ∧ isSpace c = false := by
  rw [chars, List.append_assoc, ← head?_of_isPrefix (List.prefix_append _ _) p.key_ne] at h
  exact (p.key_bare c (List.mem_of_mem_head? h)).2

theorem closed_chars (p : Parameter) : Closed p.chars := by
  have hkey : Closed p.key.toList := fun c hc => (p.key_bare c (List.mem_of_mem_getLast? hc)).2.2
  have hequals : Closed ['='] := by
    rintro c ⟨⟩
    rfl
  rw [chars, List.append_cons]
  exact (hkey.append hequals).append p.written.closed

end Parameter

theorem Parameter.round (p : Parameter) {rest : List Char}
    (hrest : ∀ c, rest.head? = some c → c = ',') :
    Round (p.chars ++ rest) p.entry (tidy rest) := by
  have h := Round.intro p.equals_not_mem (p.written.value hrest)
  rwa [p.keyOf_key, String.ofList_toList, ← List.cons_append, ← List.append_assoc] at h

/-- Parameters with a number of spaces in front of each, and commas between them. -/
def joined (ps : List (Nat × Parameter)) : List Char :=
  [','].intercalate (ps.map fun e => List.replicate e.1 ' ' ++ e.2.chars)

/-- What stands behind a parameter. -/
def following : List (Nat × Parameter) → List Char
  | [] => []
  | e :: ps => ',' :: joined (e :: ps)

theorem joined_cons (n : Nat) (p : Parameter) (ps : List (Nat × Parameter)) :
    joined ((n, p) :: ps) = List.replicate n ' ' ++ (p.chars ++ following ps) := by
  cases ps with
  | nil => simp [joined, following]
  | cons e ps => simp [joined, following, List.intercalate_cons_cons]

theorem head_following {ps : List (Nat × Parameter)} {c : Char}
    (h : (following ps).head? = some c) : c = ',' := by
  cases ps with
  | nil => cases h
  | cons e ps => exact (Option.some.inj h).symm

theorem closed_following (ps : List (Nat × Parameter)) : Closed (following ps) := by
  induction ps with
  | nil => exact nofun
  | cons e ps ih =>
    obtain ⟨n, p⟩ := e
    have hne : p.chars ++ following ps ≠ [] := List.append_ne_nil_of_left_ne_nil p.chars_ne_nil _
    have hsplit : following ((n, p) :: ps) =
        (',' :: List.replicate n ' ') ++ (p.chars ++ following ps) := by
      rw [following, joined_cons]
      rfl
    intro c hc
    rw [hsplit, List.getLast?_append_of_ne_nil _ hne] at hc
    exact p.closed_chars.append ih c hc

theorem trimChars_joined_cons (n : Nat) (p : Parameter) (ps : List (Nat × Parameter)) :
    trimChars (joined ((n, p) :: ps)) = p.chars ++ following ps := by
  have htrimmed : Trimmed (p.chars ++ following ps) :=
    ⟨fun _ hc => (p.head_chars hc).2, p.closed_chars.append (closed_following ps)⟩
  have hspaces : ∀ c ∈ List.replicate n ' ', isSpace c = true := by
    intro c hc
    rw [List.eq_of_mem_replicate hc]
    rfl
  rw [joined_cons, trimChars, trimStart, List.dropWhile_append_of_pos hspaces]
  exact htrimmed.trimChars_eq

/-- The comma between two parameters is dropped. -/
theorem tidy_following (ps : List (Nat × Parameter)) :
    tidy (following ps) = trimChars (joined ps) := by
  cases ps with
  | nil => rfl
  | cons e ps =>
    obtain ⟨n, p⟩ := e
    have hhead : ∀ c, (joined ((n, p) :: ps)).head? = some c → (c == ',') = false := by
      intro c hc
      rw [joined_cons] at hc
      cases n with
      | zero =>
        rw [List.replicate_zero, List.nil_append] at hc
        exact beq_eq_false_iff_ne.2 (p.head_chars hc).1
      | succ n =>
        cases hc
        rfl
    rw [tidy, dropCommas, following, List.dropWhile_cons_of_pos rfl, dropWhile_eq_self hhead]

/-- Parameters are read one after the other. -/
theorem reads_joined (ps : List (Nat × Parameter)) :
    Reads (trimChars (joined ps)) (ps.map fun e => e.2.entry) := by
  induction ps with
  | nil => exact .done nofun
  | cons e ps ih =>
    obtain ⟨n, p⟩ := e
    rw [trimChars_joined_cons]
    refine .more (p.round fun _ => head_following) ?_
    rw [tidy_following]
    exact ih

/-! ## Challenges -/

/-- What is read of a header. -/
def body (header : String) : List Char := trimChars (dropRepeated scheme.toList header.toList)

theorem dropRepeated_append {front s : List Char} (hfront : front ≠ []) (hs : ¬ front <+: s) :
    dropRepeated front (front ++ s) = s := by
  have hprefix : front.isPrefixOf (front ++ s) = true :=
    List.isPrefixOf_iff_prefix.2 (List.prefix_append _ _)
  have hstop : ¬ (front ≠ [] ∧ front.isPrefixOf s = true) := fun h =>
    hs (List.isPrefixOf_iff_prefix.1 h.2)
  rw [dropRepeated, dif_pos ⟨hfront, hprefix⟩, List.drop_left, dropRepeated, dif_neg hstop]

/-- A key has no space and the scheme no equals sign, so parameters never begin with the scheme. -/
theorem not_scheme_isPrefix_joined (ps : List (Nat × Parameter)) :
    ¬ scheme.toList <+: joined ps := by
  rintro ⟨rest, h⟩
  rcases ps with _ | ⟨⟨_ | n, p⟩, ps⟩
  · cases h
  · rw [joined_cons, List.replicate_zero, List.nil_append, Parameter.chars, List.append_assoc] at h
    have hspace : ' ' ∉ p.key.toList := fun hmem => absurd (p.key_bare _ hmem).2.2 (by decide)
    rcases List.append_eq_append_iff.1 h with ⟨more, hkey, -⟩ | ⟨more, hscheme, hmore⟩
    · exact hspace (hkey ▸ List.mem_append_left _ (by decide))
    cases more with
    | nil =>
      rw [List.append_nil] at hscheme
      exact hspace (hscheme ▸ (by decide))
    | cons c more =>
      have hequals : '=' ∉ scheme.toList := by decide
      rw [hscheme, ← (List.cons.inj hmore).1] at hequals
      exact hequals (List.mem_append_right _ List.mem_cons_self)
  · rw [joined_cons] at h
    cases h

theorem body_joined (ps : List (Nat × Parameter)) :
    body (scheme ++ String.ofList (joined ps)) = trimChars (joined ps) := by
  rw [body, String.toList_append, String.toList_ofList,
    dropRepeated_append (by decide) (not_scheme_isPrefix_joined ps)]

/-- Reading ends on every header, after no more rounds than there are equals signs, and reads it in one
    way. Parameters behind the scheme, with commas and any number of spaces between them, are read as
    the map of their keys and values, in which the last of several with one key counts. -/
theorem parse_joined :
    WellFounded (fun rest s : List Char => ∃ e, Round s e rest) ∧
    (∀ header : String, ∃ es, (∀ es', Reads (body header) es' ↔ es' = es) ∧
      es.length ≤ (body header).count '=' ∧ parse header = .ofList es) ∧
    ∀ (ps : List (Nat × Parameter)) (key value : String),
      (parse (scheme ++ String.ofList (joined ps))).get? key = some value ↔
        ∃ before after, ps.map (fun e => (e.2.key, e.2.value)) = before ++ (key, value) :: after ∧
          ∀ e ∈ after, e.1 ≠ key := by
  refine ⟨wellFounded_round, fun header => ?_, fun ps key value => ?_⟩
  · exact ⟨_, fun _ => reads_iff, (reads_pairs (body header)).length_le, rfl⟩
  · have hparse : parse (scheme ++ String.ofList (joined ps)) =
        .ofList (ps.map fun e => e.2.entry) := by
      rw [(reads_joined ps).eq_pairs, ← body_joined]
      rfl
    rw [hparse, SortedMap.get?_ofList_iff_split]
    rfl

/-- A parameter whose value needs its quotes. -/
def realm : Parameter where
  key := "realm"
  value := "r.io?a=b, c"
  text := "\"r.io?a=b, c\"".toList
  key_ne := by decide
  key_bare := by decide
  equals_not_mem := by decide
  written := .quoted (by decide)

/-- A parameter without quotes. -/
def unquoted (key value : String) (h : key.toList ≠ [] ∧ IsBare key.toList ∧ '=' ∉ key.toList ∧
    IsBare value.toList) : Parameter where
  key := key
  value := value
  text := value.toList
  key_ne := h.1
  key_bare := h.2.1
  equals_not_mem := h.2.2.1
  written := .bare h.2.2.2

def granting : List (Nat × Parameter) :=
  [(0, unquoted "scope" "push" (by decide)), (2, realm), (0, unquoted "scope" "pull" (by decide))]

/-- Equals signs, commas and spaces in quotes belong to the value, and the second scope counts. -/
theorem parse_joined_granting :
    joined granting = "scope=push,  realm=\"r.io?a=b, c\",scope=pull".toList ∧
    (parse "Bearer scope=push,  realm=\"r.io?a=b, c\",scope=pull").get? "realm" =
      some "r.io?a=b, c" ∧
    (parse "Bearer scope=push,  realm=\"r.io?a=b, c\",scope=pull").get? "scope" = some "pull" := by
  refine ⟨by decide, (parse_joined.2.2 granting _ _).2 ?_, (parse_joined.2.2 granting _ _).2 ?_⟩
  · exact ⟨[("scope", "push")], [("scope", "pull")], rfl, by decide⟩
  · exact ⟨[("scope", "push"), ("realm", "r.io?a=b, c")], [], rfl, nofun⟩

end OciCompose.Challenge
