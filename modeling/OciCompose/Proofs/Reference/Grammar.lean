import OciCompose.Proofs.Reference

/-
  The grammar of references.
  A reference is a name, maybe a tag behind a colon and maybe a digest behind an at sign (`Parts`).
  `parse_grammar`: the texts of well-formed parts are read, and no others; a text has one set of such
  parts, and what is read from it are these. The colon of a port, the one before a tag and the one in a
  digest are told apart because a repository has no colon (`splitTag_nameTag`).
  `isRepository_iff`: a reader that sees one character at a time accepts just the paths of components.
-/

namespace OciCompose.Reference

/-! ## Repositories -/

/-- One or more lower-case letters and digits. -/
structure IsRun (cs : List Char) : Prop where
  ne_nil : cs ≠ []
  range : ∀ c ∈ cs, ('a' ≤ c ∧ c ≤ 'z') ∨ ('0' ≤ c ∧ c ≤ '9')

/-- What may stand between two runs. -/
inductive IsSeparator : List Char → Prop
  | dot : IsSeparator ['.']
  | underscore : IsSeparator ['_']
  | underscores : IsSeparator ['_', '_']
  | dashes (n : Nat) : IsSeparator (List.replicate (n + 1) '-')

/-- Runs with separators between them. -/
inductive IsComponent : List Char → Prop
  | run {r : List Char} (isRun : IsRun r) : IsComponent r
  | more {r separator rest : List Char} (isRun : IsRun r) (isSeparator : IsSeparator separator)
      (isComponent : IsComponent rest) : IsComponent (r ++ (separator ++ rest))

/-- Components with slashes between them. -/
inductive IsRepository : List Char → Prop
  | component {c : List Char} (isComponent : IsComponent c) : IsRepository c
  | more {c rest : List Char} (isComponent : IsComponent c) (isRepository : IsRepository rest) :
      IsRepository (c ++ '/' :: rest)

theorem isLowerAlnum_iff {c : Char} :
    isLowerAlnum c = true ↔ ('a' ≤ c ∧ c ≤ 'z') ∨ ('0' ≤ c ∧ c ≤ '9') := by
  simp [isLowerAlnum]

theorem isRun_singleton {c : Char} (h : isLowerAlnum c = true) : IsRun [c] where
  ne_nil := List.cons_ne_nil _ _
  range := by
    intro x hx
    rw [List.mem_singleton.1 hx]
    exact isLowerAlnum_iff.1 h

theorem IsRun.snoc {r : List Char} (hr : IsRun r) {c : Char} (h : isLowerAlnum c = true) :
    IsRun (r ++ [c]) where
  ne_nil := by simp
  range := by
    intro x hx
    rcases List.mem_append.1 hx with hx | hx
    · exact hr.range x hx
    · exact (isRun_singleton h).range x hx

/-- A run and a separator belong to the first component. -/
theorem IsRun.join {r separator s : List Char} (hr : IsRun r) (hseparator : IsSeparator separator)
    (h : IsRepository s) : IsRepository (r ++ (separator ++ s)) := by
  cases h with
  | component isComponent => exact .component (.more hr hseparator isComponent)
  | @more c rest isComponent isRepository =>
    have hjoined : r ++ (separator ++ (c ++ '/' :: rest)) =
        r ++ (separator ++ c) ++ '/' :: rest := by simp
    rw [hjoined]
    exact .more (.more hr hseparator isComponent) isRepository

/-- What a reader may have behind it, in each of the places, since a run had to begin. -/
inductive Seen : Place → List Char → Prop
  | start : Seen .start []
  | run {r : List Char} (isRun : IsRun r) : Seen .run r
  | underscore {r : List Char} (isRun : IsRun r) : Seen .underscore (r ++ ['_'])
  | dashes {r : List Char} (isRun : IsRun r) (n : Nat) :
      Seen .dashes (r ++ List.replicate (n + 1) '-')

/-- What is accepted goes on from what was seen. Where a separator or a slash ends, what was seen is put
    before the rest, and nothing is seen of it from there on. -/
theorem isRepository_of_seen {place : Place} {seen s : List Char}
    (h : isRepositoryFrom place s = true) (hseen : Seen place seen) : IsRepository (seen ++ s) := by
  fun_induction isRepositoryFrom place s generalizing seen with
  | case1 =>
    cases hseen with
    | run isRun =>
      rw [List.append_nil]
      exact .component (.run isRun)
  | case2 => cases h
  | case3 c cs ih =>
    rw [Bool.and_eq_true] at h
    cases hseen with
    | start => exact ih h.2 (.run (isRun_singleton h.1))
  | case4 c cs hc ih =>
    cases hseen with
    | run isRun =>
      have hrest := ih h (.run (isRun.snoc hc))
      rwa [List.append_assoc] at hrest
  | case5 c cs _ hc ih =>
    cases hseen with
    | run isRun =>
      rcases hc with rfl | rfl
      · exact isRun.join .dot (ih h .start)
      · exact .more (.run isRun) (ih h .start)
  | case6 cs _ _ ih =>
    cases hseen with
    | run isRun =>
      have hrest := ih h (.underscore isRun)
      rwa [List.append_assoc] at hrest
  | case7 c cs _ _ _ ih =>
    rw [Bool.and_eq_true, beq_iff_eq] at h
    obtain ⟨rfl, h⟩ := h
    cases hseen with
    | run isRun =>
      have hrest := ih h (.dashes isRun 0)
      rwa [List.append_assoc] at hrest
  | case8 c cs hc ih =>
    cases hseen with
    | underscore isRun =>
      rw [List.append_assoc]
      exact isRun.join .underscore (ih h (.run (isRun_singleton hc)))
  | case9 c cs _ ih =>
    rw [Bool.and_eq_true, beq_iff_eq] at h
    obtain ⟨rfl, h⟩ := h
    cases hseen with
    | underscore isRun =>
      have hrest := isRun.join .underscores (ih h .start)
      rwa [List.append_assoc]
  | case10 c cs hc ih =>
    cases hseen with
    | dashes isRun n =>
      rw [List.append_assoc]
      exact isRun.join (.dashes n) (ih h (.run (isRun_singleton hc)))
  | case11 c cs _ ih =>
    rw [Bool.and_eq_true, beq_iff_eq] at h
    obtain ⟨rfl, h⟩ := h
    cases hseen with
    | dashes isRun n =>
      have hrest := ih h (.dashes isRun (n + 1))
      rwa [List.replicate_succ', ← List.append_assoc, List.append_assoc] at hrest

theorem isRepositoryFrom_run {cs : List Char} (h : ∀ c ∈ cs, isLowerAlnum c = true)
    (s : List Char) : isRepositoryFrom .run (cs ++ s) = isRepositoryFrom .run s := by
  induction cs with
  | nil => rfl
  | cons c cs ih =>
    rw [List.cons_append, isRepositoryFrom, if_pos (h c List.mem_cons_self)]
    exact ih fun x hx => h x (List.mem_cons_of_mem _ hx)

theorem IsRun.isRepositoryFrom {r : List Char} (h : IsRun r) (s : List Char) :
    isRepositoryFrom .start (r ++ s) = isRepositoryFrom .run s := by
  have hlower : ∀ c ∈ r, isLowerAlnum c = true := fun c hc => isLowerAlnum_iff.2 (h.range c hc)
  obtain ⟨c, cs, rfl⟩ := List.exists_cons_of_ne_nil h.ne_nil
  rw [List.cons_append, Reference.isRepositoryFrom, hlower c List.mem_cons_self, Bool.true_and]
  exact isRepositoryFrom_run (fun x hx => hlower x (List.mem_cons_of_mem _ hx)) s

/-- Where a run may begin, a separator may end. -/
theorem isRepositoryFrom_of_start {place : Place} {s : List Char}
    (h : isRepositoryFrom .start s = true) : isRepositoryFrom place s = true := by
  cases s with
  | nil => cases h
  | cons c cs =>
    have hc := h
    rw [isRepositoryFrom, Bool.and_eq_true] at hc
    cases place with
    | start => exact h
    | run | underscore | dashes =>
      rw [isRepositoryFrom, if_pos hc.1]
      exact hc.2

theorem isRepositoryFrom_dashes {s : List Char} (h : isRepositoryFrom .start s = true) (n : Nat) :
    isRepositoryFrom .dashes (List.replicate n '-' ++ s) = true := by
  induction n with
  | zero => exact isRepositoryFrom_of_start h
  | succ n ih => exact ih

theorem IsSeparator.isRepositoryFrom {separator s : List Char} (h : IsSeparator separator)
    (hs : isRepositoryFrom .start s = true) : isRepositoryFrom .run (separator ++ s) = true := by
  cases h with
  | dot => exact hs
  | underscore =>
    have hrun : Reference.isRepositoryFrom .underscore s = true := isRepositoryFrom_of_start hs
    exact hrun
  | underscores => exact hs
  | dashes n => exact isRepositoryFrom_dashes hs n

theorem IsComponent.isRepositoryFrom {c : List Char} (h : IsComponent c) {s : List Char}
    (hs : isRepositoryFrom .run s = true) : isRepositoryFrom .start (c ++ s) = true := by
  induction h with
  | run isRun => rwa [isRun.isRepositoryFrom]
  | more isRun isSeparator _ ih =>
    rw [List.append_assoc, isRun.isRepositoryFrom, List.append_assoc]
    exact isSeparator.isRepositoryFrom ih

theorem isRepository_iff {s : List Char} : isRepository s = true ↔ IsRepository s := by
  constructor
  · exact fun h => isRepository_of_seen h .start
  · intro h
    induction h with
    | component isComponent =>
      have := isComponent.isRepositoryFrom (s := []) rfl
      rwa [List.append_nil] at this
    | more isComponent _ ih => exact isComponent.isRepositoryFrom ih

/-! ## Tags -/

/-- One to 128 letters, digits, underscores, dots and dashes, the first of which is neither a dot nor a
    dash. -/
structure IsTag (t : List Char) : Prop where
  length_pos : 1 ≤ t.length
  length_le : t.length ≤ 128
  range : ∀ c ∈ t, ('A' ≤ c ∧ c ≤ 'Z') ∨ ('a' ≤ c ∧ c ≤ 'z') ∨ ('0' ≤ c ∧ c ≤ '9') ∨
    c = '_' ∨ c = '.' ∨ c = '-'
  head : ∀ c, t.head? = some c → c ≠ '.' ∧ c ≠ '-'

theorem isTagChar_iff {c : Char} : (isTagStart c || c == '.' || c == '-') = true ↔
    ('A' ≤ c ∧ c ≤ 'Z') ∨ ('a' ≤ c ∧ c ≤ 'z') ∨ ('0' ≤ c ∧ c ≤ '9') ∨
      c = '_' ∨ c = '.' ∨ c = '-' := by
  simp [isTagStart, or_assoc]

theorem isTag_iff {t : List Char} : isTag t = true ↔ IsTag t := by
  cases t with
  | nil => exact ⟨nofun, fun h => absurd h.length_pos (by decide)⟩
  | cons c cs =>
    rw [isTag, Bool.and_eq_true, Bool.and_eq_true, decide_eq_true_eq, List.all_eq_true]
    constructor
    · rintro ⟨⟨hstart, hlength⟩, hrest⟩
      refine ⟨by simp, Nat.succ_le_succ hlength, fun x hx => ?_, fun x hx => ?_⟩
      · rcases List.mem_cons.1 hx with rfl | hx
        · exact isTagChar_iff.1 (by rw [hstart]; rfl)
        · exact isTagChar_iff.1 (hrest x hx)
      · cases hx
        constructor <;> rintro rfl <;> exact absurd hstart (by decide)
    · intro h
      obtain ⟨hdot, hdash⟩ := h.head c rfl
      have hfirst := isTagChar_iff.2 (h.range c List.mem_cons_self)
      refine ⟨⟨by simpa [hdot, hdash] using hfirst, Nat.le_of_succ_le_succ h.length_le⟩,
        fun x hx => isTagChar_iff.2 (h.range x (List.mem_cons_of_mem _ hx))⟩

theorem IsTag.not_mem {t : List Char} (h : IsTag t) {c : Char}
    (hc : (isTagStart c || c == '.' || c == '-') = false) : c ∉ t :=
  fun hmem => absurd (isTagChar_iff.2 (h.range c hmem)) (Bool.eq_false_iff.1 hc)

/-! ## Names -/

/-- A first component with a dot or a colon in it names a registry, and so does `localhost`. -/
def NamesRegistry (first : List Char) : Prop :=
  '.' ∈ first ∨ ':' ∈ first ∨ first = "localhost".toList

/-- The registry and the repository that a name stands for. -/
inductive StandsFor : List Char → List Char → List Char → Prop
  | located {first rest : List Char} (slash_not_mem : '/' ∉ first)
      (namesRegistry : NamesRegistry first) : StandsFor (first ++ '/' :: rest) first rest
  | nested {first rest : List Char} (slash_not_mem : '/' ∉ first)
      (not_namesRegistry : ¬ NamesRegistry first) :
      StandsFor (first ++ '/' :: rest) "docker.io".toList (first ++ '/' :: rest)
  | official {name : List Char} (slash_not_mem : '/' ∉ name) :
      StandsFor name "docker.io".toList ("library/".toList ++ name)

theorem isRegistry_iff {first : List Char} : isRegistry first = true ↔ NamesRegistry first := by
  simp only [isRegistry, NamesRegistry, Bool.or_eq_true, List.contains_iff_mem, beq_iff_eq, or_assoc]

theorem standsFor_iff {name registry repository : List Char} :
    StandsFor name registry repository ↔ splitName name = (registry, repository) := by
  constructor
  · intro h
    cases h with
    | located slash_not_mem namesRegistry =>
      rw [splitName, Text.cut_eq_some_iff.2 ⟨rfl, slash_not_mem⟩]
      exact if_pos (isRegistry_iff.2 namesRegistry)
    | nested slash_not_mem not_namesRegistry =>
      rw [splitName, Text.cut_eq_some_iff.2 ⟨rfl, slash_not_mem⟩]
      exact if_neg (mt isRegistry_iff.1 not_namesRegistry)
    | official slash_not_mem =>
      rw [splitName, Text.cut_eq_none_iff.2 slash_not_mem]
      rfl
  · intro h
    unfold splitName at h
    split at h
    · next first rest hcut =>
      obtain ⟨rfl, hslash⟩ := Text.cut_eq_some_iff.1 hcut
      split at h
      · next hregistry =>
        cases h
        exact .located hslash (isRegistry_iff.1 hregistry)
      · next hregistry =>
        cases h
        exact .nested hslash (mt isRegistry_iff.2 hregistry)
    · next hcut =>
      cases h
      exact .official (Text.cut_eq_none_iff.1 hcut)

/-- A tag, which has neither slash nor colon, is what stands behind the last colon. -/
theorem splitTag_append_tag (name : List Char) {t : List Char} (hslash : '/' ∉ t) (hcolon : ':' ∉ t) :
    splitTag (name ++ ':' :: t) = (name, some t) := by
  have hafter : ∀ last : List Char, '/' ∉ last → '/' ∉ last ++ ':' :: t := fun last hlast =>
    List.not_mem_append hlast (List.not_mem_cons_of_ne_of_not_mem (by decide) hslash)
  unfold splitTag
  cases hcut : Text.cutLast '/' name with
  | none =>
    rw [Text.cutLast_eq_none_iff.2 (hafter name (Text.cutLast_eq_none_iff.1 hcut)),
      Text.cutLast_eq_some_iff.2 ⟨rfl, hcolon⟩]
  | some parts =>
    obtain ⟨dirs, last⟩ := parts
    obtain ⟨rfl, hlast⟩ := Text.cutLast_eq_some_iff.1 hcut
    have hwhole : Text.cutLast '/' (dirs ++ '/' :: last ++ ':' :: t) =
        some (dirs, last ++ ':' :: t) :=
      Text.cutLast_eq_some_iff.2 ⟨by simp, hafter last hlast⟩
    rw [hwhole]
    dsimp only
    rw [Text.cutLast_eq_some_iff.2 ⟨rfl, hcolon⟩]

/-! ## Texts -/

/-- What a reference is written of: a name, maybe a tag, maybe a digest. -/
structure Parts where
  name : List Char
  tag : Option (List Char)
  digest : Option (List Char)

namespace Parts

/-- The name, and the tag behind a colon. -/
def nameTag (p : Parts) : List Char :=
  p.name ++ match p.tag with
    | some t => ':' :: t
    | none => []

/-- Name and tag, and the digest behind an at sign. -/
def text (p : Parts) : List Char :=
  p.nameTag ++ match p.digest with
    | some d => '@' :: d
    | none => []

/-- Each part is well formed by itself, and the name stands for a repository. -/
structure IsWellFormed (p : Parts) : Prop where
  at_not_mem : '@' ∉ p.name
  isTag : ∀ t, p.tag = some t → IsTag t
  digest : ∀ d, p.digest = some d → ∃ digest, Digest.parse (String.ofList d) = .ok digest
  isRepository : ∃ registry repository, StandsFor p.name registry repository ∧ IsRepository repository

/-- A reference has these parts, and the defaults for those that are missing. -/
structure Gives (p : Parts) (r : Reference) : Prop where
  written : r.written.toList = p.text
  name : r.name.toList = p.name
  standsFor : StandsFor p.name r.registry.toList r.repository.toList
  tag : r.tag.map String.toList =
    if p.tag = none ∧ p.digest = none then some "latest".toList else p.tag
  digest : r.digest.map Except.ok = p.digest.map fun d => Digest.parse (String.ofList d)

variable {p q : Parts}

/-- What is split off a text is written back to it. -/
theorem nameTag_splitTag (s : List Char) (digest : Option (List Char)) :
    nameTag ⟨(splitTag s).1, (splitTag s).2, digest⟩ = s := by
  unfold nameTag splitTag
  split
  · next dirs last hcut =>
    obtain ⟨rfl, -⟩ := Text.cutLast_eq_some_iff.1 hcut
    split
    · next htag =>
      obtain ⟨rfl, -⟩ := Text.cutLast_eq_some_iff.1 htag
      simp
    · exact List.append_nil _
  · split
    · next htag => exact (Text.cutLast_eq_some_iff.1 htag).1.symm
    · exact List.append_nil s

theorem IsWellFormed.splitTag_nameTag (h : p.IsWellFormed) :
    splitTag p.nameTag = (p.name, p.tag) := by
  unfold nameTag
  cases htag : p.tag with
  | some t =>
    have ht := h.isTag t htag
    exact splitTag_append_tag p.name (ht.not_mem (by decide)) (ht.not_mem (by decide))
  | none =>
    obtain ⟨registry, repository, hstands, hrepository⟩ := h.isRepository
    dsimp only
    rw [List.append_nil]
    refine splitTag_eq_self fun hmem => ?_
    have hcolon := mem_repository hmem
    rw [standsFor_iff.1 hstands] at hcolon
    exact colon_not_mem_of_isRepositoryFrom (isRepository_iff.2 hrepository) hcolon

theorem IsWellFormed.isNameTag (h : p.IsWellFormed) : IsNameTag p.nameTag := by
  obtain ⟨registry, repository, hstands, hrepository⟩ := h.isRepository
  have hsplit := standsFor_iff.1 hstands
  refine ⟨?_, ?_, ?_⟩ <;> rw [h.splitTag_nameTag]
  · -- no name stands for the repository `library/`, which has an empty component
    intro hnil
    have hempty : splitName [] = (registry, repository) := hnil ▸ hsplit
    cases hempty
    exact absurd (isRepository_iff.2 hrepository) (by decide)
  · exact fun t ht => isTag_iff.2 (h.isTag t ht)
  · rw [hsplit]
    exact isRepository_iff.2 hrepository

theorem IsWellFormed.at_not_mem_nameTag (h : p.IsWellFormed) : '@' ∉ p.nameTag := by
  refine List.not_mem_append h.at_not_mem ?_
  cases htag : p.tag with
  | none => exact List.not_mem_nil
  | some t =>
    have ht : '@' ∉ t := (h.isTag t htag).not_mem (by decide)
    exact List.not_mem_cons_of_ne_of_not_mem (by decide) ht

/-- The first at sign of a text is the one before the digest. -/
theorem IsWellFormed.cut_text (h : p.IsWellFormed) :
    Text.cut '@' p.text = p.digest.map fun d => (p.nameTag, d) := by
  unfold text
  cases p.digest with
  | none =>
    rw [List.append_nil]
    exact Text.cut_eq_none_iff.2 h.at_not_mem_nameTag
  | some d => exact Text.cut_eq_some_iff.2 ⟨rfl, h.at_not_mem_nameTag⟩

theorem IsWellFormed.eq_of_text (hp : p.IsWellFormed) (hq : q.IsWellFormed)
    (h : p.text = q.text) : p = q := by
  have hcut := hp.cut_text.symm.trans ((congrArg _ h).trans hq.cut_text)
  have hparts : p.nameTag = q.nameTag ∧ p.digest = q.digest := by
    unfold text at h
    cases hpd : p.digest with
    | none =>
      cases hqd : q.digest with
      | none =>
        rw [hpd, hqd, List.append_nil, List.append_nil] at h
        exact ⟨h, rfl⟩
      | some e => rw [hpd, hqd] at hcut; cases hcut
    | some d =>
      cases hqd : q.digest with
      | none => rw [hpd, hqd] at hcut; cases hcut
      | some e =>
        rw [hpd, hqd, Option.map_some, Option.map_some, Option.some.injEq, Prod.mk.injEq] at hcut
        exact ⟨hcut.1, congrArg some hcut.2⟩
  have hsplit := hp.splitTag_nameTag.symm.trans ((congrArg _ hparts.1).trans hq.splitTag_nameTag)
  obtain ⟨pname, ptag, pdigest⟩ := p
  obtain ⟨qname, qtag, qdigest⟩ := q
  cases hsplit
  cases hparts.2
  rfl

theorem IsWellFormed.gives_assemble (h : p.IsWellFormed) {digest : Option Digest}
    (hdigest : digest.map Except.ok = p.digest.map fun d => Digest.parse (String.ofList d)) :
    p.Gives (assemble p.text p.nameTag digest) := by
  obtain ⟨registry, repository, hstands, -⟩ := h.isRepository
  have hnone : digest = none ↔ p.digest = none := by
    rw [← Option.map_eq_none_iff, hdigest, Option.map_eq_none_iff]
  refine ⟨String.toList_ofList, ?_, ?_, ?_, hdigest⟩ <;> unfold assemble <;> dsimp only <;>
    rw [h.splitTag_nameTag]
  · exact String.toList_ofList
  · rw [standsFor_iff.1 hstands, String.toList_ofList, String.toList_ofList]
    exact hstands
  · simp only [Bool.and_eq_true, Option.isNone_iff_eq_none, hnone]
    split
    · rfl
    · cases p.tag with
      | none => rfl
      | some t => exact congrArg some String.toList_ofList

/-- The texts of well-formed parts are read, and give these parts. -/
theorem IsWellFormed.exists_parse (h : p.IsWellFormed) {s : String}
    (hs : p.text = Text.trimChars s.toList) : ∃ r, parse s = .ok r ∧ p.Gives r := by
  cases hd : p.digest with
  | none =>
    have hgives : p.Gives (assemble p.text p.nameTag none) := h.gives_assemble (by rw [hd]; rfl)
    refine ⟨_, parse_eq_ok_iff.2 ?_, hgives⟩
    have htext : p.text = p.nameTag := by
      unfold text
      rw [hd]
      exact List.append_nil _
    rw [← hs, htext]
    exact .plain h.at_not_mem_nameTag h.isNameTag
  | some d =>
    obtain ⟨digest, hdigest⟩ := h.digest d hd
    have hgives : p.Gives (assemble p.text p.nameTag (some digest)) :=
      h.gives_assemble (by rw [hd, Option.map_some, Option.map_some, hdigest])
    refine ⟨_, parse_eq_ok_iff.2 ?_, hgives⟩
    have htext : p.text = p.nameTag ++ '@' :: d := by
      unfold text
      rw [hd]
    rw [← hs, htext]
    exact .pinned h.at_not_mem_nameTag h.isNameTag hdigest

/-- What is split off a name and tag is well formed. -/
theorem isWellFormed_of_isNameTag {nameTag : List Char} (hat : '@' ∉ nameTag)
    (h : IsNameTag nameTag) {digest : Option (List Char)}
    (hdigest : ∀ d, digest = some d → ∃ e, Digest.parse (String.ofList d) = .ok e) :
    IsWellFormed ⟨(splitTag nameTag).1, (splitTag nameTag).2, digest⟩ where
  at_not_mem := fun hmem => hat ((splitTag_isPrefix nameTag).mem hmem)
  isTag := fun t ht => isTag_iff.1 (h.isTag t ht)
  digest := hdigest
  isRepository := ⟨_, _, standsFor_iff.2 rfl, isRepository_iff.1 h.isRepository⟩

/-- What is read from a text has the parts of that text. -/
theorem IsWellFormed.gives_of_parse (h : p.IsWellFormed) {s : String} {r : Reference}
    (hs : p.text = Text.trimChars s.toList) (hr : parse s = .ok r) : p.Gives r := by
  obtain ⟨r', hr', hgives⟩ := h.exists_parse hs
  cases hr.symm.trans hr'
  exact hgives

theorem exists_of_parse {s : String} {r : Reference} (h : parse s = .ok r) :
    ∃ p : Parts, p.IsWellFormed ∧ p.text = Text.trimChars s.toList := by
  have hwritten := parse_eq_ok_iff.1 h
  generalize Text.trimChars s.toList = cs at hwritten
  cases hwritten with
  | plain at_not_mem isNameTag =>
    have hdigest : ∀ e, (none : Option (List Char)) = some e →
        ∃ e', Digest.parse (String.ofList e) = .ok e' := nofun
    refine ⟨_, isWellFormed_of_isNameTag at_not_mem isNameTag hdigest, ?_⟩
    rw [text, nameTag_splitTag]
    exact List.append_nil _
  | @pinned nameTag d digest at_not_mem isNameTag parsed =>
    have hdigest : ∀ e, some d = some e → ∃ e', Digest.parse (String.ofList e) = .ok e' := by
      rintro e ⟨⟩
      exact ⟨digest, parsed⟩
    refine ⟨_, isWellFormed_of_isNameTag at_not_mem isNameTag hdigest, ?_⟩
    rw [text, nameTag_splitTag]

end Parts

/-- Just the texts of well-formed parts are read, up to white space around them. The parts of a text are
    determined by it, and what is read has these parts. -/
theorem parse_grammar (s : String) :
    ((∃ r, parse s = .ok r) ↔
      ∃ p : Parts, p.IsWellFormed ∧ p.text = Text.trimChars s.toList) ∧
    (∀ p q : Parts, p.IsWellFormed → q.IsWellFormed → p.text = q.text → p = q) ∧
    (∀ (r : Reference) (p : Parts), parse s = .ok r → p.IsWellFormed →
      p.text = Text.trimChars s.toList → p.Gives r) := by
  refine ⟨⟨fun ⟨r, hr⟩ => Parts.exists_of_parse hr, fun ⟨p, hp, hs⟩ => ?_⟩,
    fun p q hp hq => hp.eq_of_text hq, fun r p hr hp hs => hp.gives_of_parse hs hr⟩
  obtain ⟨r, hr, -⟩ := hp.exists_parse hs
  exact ⟨r, hr⟩

/-- A registry with a port, a repository with two kinds of separators, a tag and a digest. -/
def withPort : Parts where
  name := "localhost:5000/a--b__c".toList
  tag := some "V.1".toList
  digest := some "x:0A".toList

theorem isWellFormed_withPort : withPort.IsWellFormed where
  at_not_mem := by decide
  isTag := by
    rintro t ⟨⟩
    exact isTag_iff.1 (by decide)
  digest := by
    rintro d ⟨⟩
    exact ⟨_, rfl⟩
  isRepository := by
    have hrun : ∀ c, isLowerAlnum c = true → IsRun [c] := fun c => isRun_singleton
    refine ⟨"localhost:5000".toList, "a--b__c".toList, standsFor_iff.2 rfl, ?_⟩
    exact .component (.more (hrun 'a' rfl) (.dashes 1) (.more (hrun 'b' rfl) .underscores
      (.run (hrun 'c' rfl))))

/-- The three colons and the at sign are told apart, and white space is left out. -/
theorem parse_grammar_withPort : withPort.IsWellFormed ∧
    withPort.text = Text.trimChars " localhost:5000/a--b__c:V.1@x:0A\n".toList ∧
    ∃ r, parse " localhost:5000/a--b__c:V.1@x:0A\n" = .ok r ∧ withPort.Gives r := by
  have htext : withPort.text = Text.trimChars " localhost:5000/a--b__c:V.1@x:0A\n".toList := by decide
  obtain ⟨hread, -, hgives⟩ := parse_grammar " localhost:5000/a--b__c:V.1@x:0A\n"
  obtain ⟨r, hr⟩ := hread.2 ⟨withPort, isWellFormed_withPort, htext⟩
  exact ⟨isWellFormed_withPort, htext, r, hr, hgives r withPort hr isWellFormed_withPort htext⟩

end OciCompose.Reference
