import OciCompose.Reference
import OciCompose.Proofs.Text

/-
  References are read back from their texts.
  `Written` says which texts are references and what they are read as (`parse_eq_ok_iff`). A name that
  was read stands for the same repository when it stands alone, so the text of a reference is read as
  that reference, also of one that got another digest (`IsObtained.parse_written`). A digest can be put
  behind a reference that has none (`parse_append_digest`), and behind no other
  (`parse_append_digest_pinned`).
-/

namespace OciCompose

/-! ## Digests -/

namespace Digest

theorem toList_toText (d : Digest) :
    d.toText.toList = d.algorithm.toList ++ ':' :: d.hex.toList := by
  simp [toText, String.toList_append]

theorem isSpace_of_isLower {c : Char} (h : Hex.isLower c = true) : Text.isSpace c = false := by
  simp only [Hex.isLower, Bool.or_eq_true, Bool.and_eq_true, decide_eq_true_eq] at h
  refine Text.isSpace_of_visible ?_
  rcases h with h | h
  · exact ⟨Char.le_trans (by decide) h.1, Char.le_trans h.2 (by decide)⟩
  · exact ⟨Char.le_trans (by decide) h.1, Char.le_trans h.2 (by decide)⟩

/-- The text of a digest ends in a digit. -/
theorem last_toText (d : Digest) :
    ∀ c, d.toText.toList.getLast? = some c → Text.isSpace c = false := by
  intro c hc
  rw [toList_toText, List.getLast?_append, List.getLast?_cons,
    List.getLast?_eq_some_getLast d.wellFormed.hex_ne_nil] at hc
  cases hc
  exact isSpace_of_isLower (d.wellFormed.isLower _ (List.getLast_mem _))

/-- Only the algorithm of a digest can have an at sign in it. -/
theorem at_not_mem_toText {d : Digest} (h : '@' ∉ d.algorithm.toList) : '@' ∉ d.toText.toList := by
  intro hmem
  rw [toList_toText] at hmem
  rcases List.mem_append.1 hmem with hmem | hmem
  · exact h hmem
  rcases List.mem_cons.1 hmem with heq | hmem
  · exact absurd heq (by decide)
  · exact absurd (d.wellFormed.isLower _ hmem) (by decide)

theorem parse_ofList_toText (d : Digest) : parse (String.ofList d.toText.toList) = .ok d := by
  rw [String.ofList_toList]
  exact d.parse_toText

/-- The text of a digest is none with an at sign and more behind it. -/
theorem parse_append_at {a : List Char} {d : Digest} (h : parse (String.ofList a) = .ok d)
    (b : List Char) :
    parse (String.ofList (a ++ '@' :: b)) =
      .error (.invalidReference (String.ofList (a ++ '@' :: b)) .badDigest) := by
  have hcut : ∃ algorithm hex, Text.cut ':' a = some (algorithm, hex) := by
    unfold parse at h
    split at h
    · cases h
    · next algorithm hex hcut => exact ⟨algorithm, hex, by rwa [String.toList_ofList] at hcut⟩
  obtain ⟨algorithm, hex, hcut⟩ := hcut
  obtain ⟨rfl, hcolon⟩ := Text.cut_eq_some_iff.1 hcut
  have hlonger : Text.cut ':' (String.ofList (algorithm ++ ':' :: hex ++ '@' :: b)).toList =
      some (algorithm, hex ++ '@' :: b) := by
    rw [String.toList_ofList, List.append_assoc]
    exact Text.cut_eq_some_iff.2 ⟨rfl, hcolon⟩
  unfold parse
  split
  · rfl
  next algorithm' hex' hcut' =>
  cases hlonger.symm.trans hcut'
  split
  · rfl
  rw [dif_pos]
  refine Or.inr fun hall => ?_
  have hat := List.all_eq_true.1 hall '@' (List.mem_append_right _ List.mem_cons_self)
  exact absurd hat (by decide)

end Digest

namespace Reference

theorem context_of_sameRepository {r s : Reference} (h : r.sameRepository s = true) :
    r.context = s.context := by
  unfold sameRepository at h
  rw [Bool.and_eq_true, beq_iff_eq, beq_iff_eq] at h
  unfold context
  rw [h.1, h.2]

/-! ## Names -/

/-- What stands behind the last slash. -/
def lastComponent (s : List Char) : List Char :=
  match Text.cutLast '/' s with
  | some (_, last) => last
  | none => s

theorem lastComponent_append (a b : List Char) :
    lastComponent (a ++ '/' :: b) = lastComponent b := by
  unfold lastComponent
  cases h : Text.cutLast '/' b with
  | none => rw [Text.cutLast_eq_some_iff.2 ⟨rfl, Text.cutLast_eq_none_iff.1 h⟩]
  | some parts =>
    obtain ⟨hb, hlast⟩ := Text.cutLast_eq_some_iff.1 h
    have hcut : Text.cutLast '/' (a ++ '/' :: b) = some (a ++ '/' :: parts.1, parts.2) := by
      refine Text.cutLast_eq_some_iff.2 ⟨?_, hlast⟩
      rw [hb, List.append_assoc]
      rfl
    rw [hcut]

theorem lastComponent_isSuffix (s : List Char) : lastComponent s <:+ s := by
  unfold lastComponent
  split
  · next dirs last h =>
    obtain ⟨rfl, -⟩ := Text.cutLast_eq_some_iff.1 h
    exact ⟨dirs ++ ['/'], by simp⟩
  · exact List.suffix_refl s

/-- The last component of a name is that of its repository, too. -/
theorem mem_repository {name : List Char} {c : Char} (h : c ∈ lastComponent name) :
    c ∈ (splitName name).2 := by
  have hall := (lastComponent_isSuffix name).mem h
  unfold splitName
  split
  · next first rest hcut =>
    obtain ⟨rfl, -⟩ := Text.cut_eq_some_iff.1 hcut
    split
    · rw [lastComponent_append] at h
      exact (lastComponent_isSuffix rest).mem h
    · exact hall
  · exact List.mem_append_right _ hall

theorem colon_not_mem_of_isRepositoryFrom {place : Place} {s : List Char}
    (h : isRepositoryFrom place s = true) : ':' ∉ s := by
  have hlower : ∀ c, isLowerAlnum c = true → ':' ≠ c := by
    rintro c hc rfl
    exact absurd hc (by decide)
  have hcons : ∀ {c : Char} {cs : List Char}, ':' ≠ c → ':' ∉ cs → ':' ∉ c :: cs :=
    fun hc hcs => List.not_mem_cons_of_ne_of_not_mem hc hcs
  fun_induction isRepositoryFrom place s with
  | case1 => exact List.not_mem_nil
  | case2 => cases h
  | case3 c cs ih =>
    rw [Bool.and_eq_true] at h
    exact hcons (hlower c h.1) (ih h.2)
  | case4 c cs hc ih => exact hcons (hlower c hc) (ih h)
  | case5 c cs _ hc ih =>
    refine hcons ?_ (ih h)
    rcases hc with rfl | rfl <;> decide
  | case6 cs _ _ ih => exact hcons (by decide) (ih h)
  | case7 c cs _ _ _ ih =>
    rw [Bool.and_eq_true, beq_iff_eq] at h
    obtain ⟨rfl, h⟩ := h
    exact hcons (by decide) (ih h)
  | case8 c cs hc ih => exact hcons (hlower c hc) (ih h)
  | case9 c cs _ ih =>
    rw [Bool.and_eq_true, beq_iff_eq] at h
    obtain ⟨rfl, h⟩ := h
    exact hcons (by decide) (ih h)
  | case10 c cs hc ih => exact hcons (hlower c hc) (ih h)
  | case11 c cs _ ih =>
    rw [Bool.and_eq_true, beq_iff_eq] at h
    obtain ⟨rfl, h⟩ := h
    exact hcons (by decide) (ih h)

/-- Without a colon behind the last slash there is no tag. -/
theorem splitTag_eq_self {s : List Char} (h : ':' ∉ lastComponent s) : splitTag s = (s, none) := by
  unfold lastComponent at h
  unfold splitTag
  split
  · next hcut =>
    rw [hcut] at h
    rw [Text.cutLast_eq_none_iff.2 h]
  · next hcut =>
    rw [hcut] at h
    rw [Text.cutLast_eq_none_iff.2 h]

/-- A name comes before its tag. -/
theorem splitTag_isPrefix (s : List Char) : (splitTag s).1 <+: s := by
  unfold splitTag
  split
  · next dirs last hcut =>
    obtain ⟨rfl, -⟩ := Text.cutLast_eq_some_iff.1 hcut
    split
    · next name tag htag =>
      obtain ⟨rfl, -⟩ := Text.cutLast_eq_some_iff.1 htag
      exact ⟨':' :: tag, by simp⟩
    · exact List.prefix_refl _
  · split
    · next htag =>
      obtain ⟨rfl, -⟩ := Text.cutLast_eq_some_iff.1 htag
      exact List.prefix_append _ _
    · exact List.prefix_refl _

/-! ## Texts of references -/

/-- A name and maybe a tag behind it, such that both are well formed. -/
structure IsNameTag (nameTag : List Char) : Prop where
  ne_nil : (splitTag nameTag).1 ≠ []
  isTag : ∀ t, (splitTag nameTag).2 = some t → isTag t = true
  isRepository : isRepository (splitName (splitTag nameTag).1).2 = true

theorem IsNameTag.text_ne_nil {nameTag : List Char} (h : IsNameTag nameTag) : nameTag ≠ [] := by
  rintro rfl
  exact h.ne_nil rfl

/-- The reference of a name and tag with the text that they stand in. -/
def assemble (written nameTag : List Char) (digest : Option Digest) : Reference where
  written := String.ofList written
  name := String.ofList (splitTag nameTag).1
  registry := String.ofList (splitName (splitTag nameTag).1).1
  repository := String.ofList (splitName (splitTag nameTag).1).2
  tag := if (splitTag nameTag).2.isNone && digest.isNone then some defaultTag
    else (splitTag nameTag).2.map String.ofList
  digest := digest

/-- Whether a name and tag are read hangs on neither the text around them nor the digest. -/
theorem ofNameTag_eq_ok_iff {written nameTag : List Char} {digest : Option Digest} {r : Reference} :
    ofNameTag written nameTag digest = .ok r ↔
      IsNameTag nameTag ∧ r = assemble written nameTag digest := by
  have hrefuse : ∀ {e : Error} {c : Prop}, (IsNameTag nameTag → ¬ c) → c →
      ((Except.error e : Except Error Reference) = .ok r ↔
        IsNameTag nameTag ∧ r = assemble written nameTag digest) :=
    fun hno hc => ⟨nofun, fun h => (hno h.1 hc).elim⟩
  rw [show ofNameTag written nameTag digest =
    if (splitTag nameTag).1 = [] then
      .error (.invalidReference (String.ofList written) .missingRepository)
    else if (splitTag nameTag).2.any fun t => !isTag t then
      .error (.invalidReference (String.ofList written) .badTag)
    else if !isRepository (splitName (splitTag nameTag).1).2 then
      .error (.invalidReference (String.ofList written) .badRepository)
    else .ok (assemble written nameTag digest) from rfl]
  split
  · next hname => exact hrefuse (fun h => h.ne_nil) hname
  next hname =>
  split
  · next htag =>
    refine hrefuse (fun h => ?_) htag
    rw [Option.any_eq_true]
    rintro ⟨t, ht, hno⟩
    rw [h.isTag t ht] at hno
    cases hno
  next htag =>
  split
  · next hrepository =>
    refine hrefuse (fun h => ?_) hrepository
    rw [h.isRepository]
    decide
  next hrepository =>
  have hall : IsNameTag nameTag := by
    refine ⟨hname, fun t ht => ?_, by simpa using hrepository⟩
    rw [ht] at htag
    simpa using htag
  rw [Except.ok.injEq, eq_comm]
  exact ⟨fun h => ⟨hall, h⟩, fun h => h.2⟩

/-- Tags are well formed, also the one of a reference that has neither tag nor digest. -/
theorem isTag_assemble {written nameTag : List Char} {digest : Option Digest} {t : String}
    (h : IsNameTag nameTag) (ht : (assemble written nameTag digest).tag = some t) :
    isTag t.toList = true := by
  unfold assemble at ht
  dsimp only at ht
  split at ht
  · cases ht
    decide
  · obtain ⟨s, hs, rfl⟩ := Option.map_eq_some_iff.1 ht
    rw [String.toList_ofList]
    exact h.isTag s hs

/-- The texts that are read as references, without the white space around them. -/
inductive Written : List Char → Reference → Prop
  | plain {nameTag : List Char} (at_not_mem : '@' ∉ nameTag) (isNameTag : IsNameTag nameTag) :
      Written nameTag (assemble nameTag nameTag none)
  | pinned {nameTag d : List Char} {digest : Digest} (at_not_mem : '@' ∉ nameTag)
      (isNameTag : IsNameTag nameTag) (parsed : Digest.parse (String.ofList d) = .ok digest) :
      Written (nameTag ++ '@' :: d) (assemble (nameTag ++ '@' :: d) nameTag (some digest))

theorem parse_eq_ok_iff {text : String} {r : Reference} :
    parse text = .ok r ↔ Written (Text.trimChars text.toList) r := by
  unfold parse
  dsimp only
  generalize Text.trimChars text.toList = s
  constructor
  · intro h
    split at h
    · cases h
    split at h
    · next nameTag d hcut =>
      obtain ⟨rfl, hat⟩ := Text.cut_eq_some_iff.1 hcut
      split at h
      · next digest hdigest =>
        obtain ⟨hnameTag, rfl⟩ := ofNameTag_eq_ok_iff.1 h
        exact .pinned hat hnameTag hdigest
      · cases h
    · next hcut =>
      obtain ⟨hnameTag, rfl⟩ := ofNameTag_eq_ok_iff.1 h
      exact .plain (Text.cut_eq_none_iff.1 hcut) hnameTag
  · intro h
    cases h with
    | plain at_not_mem isNameTag =>
      rw [if_neg isNameTag.text_ne_nil, Text.cut_eq_none_iff.2 at_not_mem]
      exact ofNameTag_eq_ok_iff.2 ⟨isNameTag, rfl⟩
    | pinned at_not_mem isNameTag parsed =>
      rw [if_neg (by simp), Text.cut_eq_some_iff.2 ⟨rfl, at_not_mem⟩]
      dsimp only
      rw [parsed]
      exact ofNameTag_eq_ok_iff.2 ⟨isNameTag, rfl⟩

theorem Written.text_eq {s : List Char} {r : Reference} (h : Written s r) : r.written.toList = s := by
  cases h <;> exact String.toList_ofList

theorem Written.isTag {s : List Char} {r : Reference} (h : Written s r) {t : String}
    (ht : r.tag = some t) : Reference.isTag t.toList = true := by
  cases h with
  | plain _ isNameTag => exact isTag_assemble isNameTag ht
  | pinned _ isNameTag _ => exact isTag_assemble isNameTag ht

/-- A reference has a tag, if need be the default one, or a digest. -/
theorem Written.digest_ne_none {s : List Char} {r : Reference} (h : Written s r)
    (htag : r.tag = none) : r.digest ≠ none := by
  cases h with
  | pinned _ _ _ => exact Option.some_ne_none _
  | @plain nameTag _ _ =>
    unfold assemble at htag
    dsimp only at htag
    split at htag
    · cases htag
    · next hwritten =>
      rw [Option.map_eq_none_iff.1 htag] at hwritten
      exact (hwritten rfl).elim

/-- A reference is read from the text that it keeps. -/
theorem parse_written {text : String} {r : Reference} (h : parse text = .ok r) :
    parse r.written = .ok r := by
  have hwritten := parse_eq_ok_iff.1 h
  refine parse_eq_ok_iff.2 ?_
  rwa [hwritten.text_eq, (Text.trimmed_trimChars _).trimChars_eq]

/-! ## Other digests -/

/-- The name of a reference, by itself, stands for the same repository. -/
structure StandsAlone (r : Reference) : Prop where
  at_not_mem : '@' ∉ r.name.toList
  isNameTag : IsNameTag r.name.toList
  untagged : splitTag r.name.toList = (r.name.toList, none)
  located : splitName r.name.toList = (r.registry.toList, r.repository.toList)
  head : ∀ c, r.name.toList.head? = some c → Text.isSpace c = false

theorem IsNameTag.untagged {nameTag : List Char} (h : IsNameTag nameTag) :
    splitTag (splitTag nameTag).1 = ((splitTag nameTag).1, none) :=
  splitTag_eq_self fun hmem => colon_not_mem_of_isRepositoryFrom h.isRepository (mem_repository hmem)

theorem standsAlone_assemble {written nameTag : List Char} {digest : Option Digest}
    (h : IsNameTag nameTag) (hat : '@' ∉ nameTag)
    (head : ∀ c, nameTag.head? = some c → Text.isSpace c = false) :
    (assemble written nameTag digest).StandsAlone := by
  have hname : (assemble written nameTag digest).name.toList = (splitTag nameTag).1 :=
    String.toList_ofList
  have hstart := splitTag_isPrefix nameTag
  refine ⟨?_, ?_, ?_, ?_, ?_⟩ <;> rw [hname]
  · exact fun hmem => hat (hstart.mem hmem)
  · refine ⟨?_, ?_, ?_⟩ <;> rw [h.untagged]
    · exact h.ne_nil
    · nofun
    · exact h.isRepository
  · exact h.untagged
  · simp [assemble]
  · rw [Text.head?_of_isPrefix hstart h.ne_nil]
    exact head

theorem Written.standsAlone {s : List Char} {r : Reference} (h : Written s r)
    (head : ∀ c, s.head? = some c → Text.isSpace c = false) : r.StandsAlone := by
  cases h with
  | plain at_not_mem isNameTag => exact standsAlone_assemble isNameTag at_not_mem head
  | pinned at_not_mem isNameTag parsed =>
    refine standsAlone_assemble isNameTag at_not_mem fun c hc => head c ?_
    rwa [← Text.head?_of_isPrefix (List.prefix_append _ _) isNameTag.text_ne_nil]

theorem StandsAlone.withDigest {r : Reference} (h : r.StandsAlone) (d : Digest) :
    (r.withDigest d).StandsAlone := ⟨h.at_not_mem, h.isNameTag, h.untagged, h.located, h.head⟩

/-- A text is trimmed that begins as a trimmed one and ends in a digest. -/
theorem trimmed_append_digest {s : List Char} (hs : s ≠ [])
    (head : ∀ c, s.head? = some c → Text.isSpace c = false) (d : Digest) :
    Text.Trimmed (s ++ '@' :: d.toText.toList) := by
  rw [← List.singleton_append, ← List.append_assoc]
  have htext : d.toText.toList ≠ [] := by
    rw [Digest.toList_toText]
    simp
  refine Text.Trimmed.append (by simp) htext (fun c hc => head c ?_) d.last_toText
  rwa [← Text.head?_of_isPrefix (List.prefix_append _ _) hs] at hc

theorem toList_append_digest (s : String) (d : Digest) :
    (s ++ "@" ++ d.toText).toList = s.toList ++ '@' :: d.toText.toList := by
  simp [String.toList_append]

/-- With another digest, a reference is read from its name and that digest. -/
theorem StandsAlone.parse_withDigest {r : Reference} (h : r.StandsAlone) (d : Digest) :
    parse (r.withDigest d).written = .ok (r.withDigest d) := by
  have htext : (r.withDigest d).written.toList = r.name.toList ++ '@' :: d.toText.toList :=
    toList_append_digest r.name d
  have hassemble : r.withDigest d =
      assemble (r.name.toList ++ '@' :: d.toText.toList) r.name.toList (some d) := by
    unfold assemble
    rw [← htext, h.untagged]
    dsimp only
    simp only [h.located, String.ofList_toList]
    rfl
  rw [parse_eq_ok_iff, htext,
    (trimmed_append_digest h.isNameTag.text_ne_nil h.head d).trimChars_eq, hassemble]
  exact .pinned h.at_not_mem h.isNameTag d.parse_ofList_toText

/-- References that were read, and those that got other digests. -/
inductive IsObtained : Reference → Prop
  | parsed {text : String} {r : Reference} (h : parse text = .ok r) : IsObtained r
  | withDigest {r : Reference} (h : IsObtained r) (d : Digest) : IsObtained (r.withDigest d)

theorem IsObtained.standsAlone {r : Reference} (h : IsObtained r) : r.StandsAlone := by
  induction h with
  | parsed h => exact (parse_eq_ok_iff.1 h).standsAlone (Text.trimmed_trimChars _).head
  | withDigest _ d ih => exact ih.withDigest d

theorem IsObtained.isTag {r : Reference} (h : IsObtained r) :
    ∀ t, r.tag = some t → Reference.isTag t.toList = true := by
  cases h with
  | parsed h => exact fun t => (parse_eq_ok_iff.1 h).isTag
  | withDigest => exact nofun

theorem IsObtained.parse_written {r : Reference} (h : IsObtained r) : parse r.written = .ok r := by
  cases h with
  | parsed h => exact Reference.parse_written h
  | withDigest h d => exact h.standsAlone.parse_withDigest d

/-! ## Digests behind references -/

/-- With a digest behind it, a reference without one is read as a reference to the same repository
    by that digest. -/
theorem parse_append_digest {text : String} {r : Reference} (h : parse text = .ok r)
    (hr : r.digest = none) (d : Digest) :
    ∃ r', parse (r.written ++ "@" ++ d.toText) = .ok r' ∧ r'.context = r.context ∧
      r'.digest = some d := by
  have hwritten := parse_eq_ok_iff.1 h
  have htrimmed := Text.trimmed_trimChars text.toList
  generalize Text.trimChars text.toList = s at hwritten htrimmed
  cases hwritten with
  | pinned at_not_mem isNameTag parsed => cases hr
  | plain at_not_mem isNameTag =>
    refine ⟨assemble (s ++ '@' :: d.toText.toList) s (some d), parse_eq_ok_iff.2 ?_, rfl, rfl⟩
    rw [toList_append_digest, show (assemble s s none).written.toList = s from String.toList_ofList,
      (trimmed_append_digest isNameTag.text_ne_nil htrimmed.head d).trimChars_eq]
    exact .pinned at_not_mem isNameTag d.parse_ofList_toText

/-- With a digest behind it, a reference that has one already is read no more. -/
theorem parse_append_digest_pinned {text : String} {r : Reference} (h : parse text = .ok r)
    (hr : r.digest ≠ none) (d : Digest) :
    ∃ shown, parse (r.written ++ "@" ++ d.toText) = .error (.invalidReference shown .badDigest) := by
  have hwritten := parse_eq_ok_iff.1 h
  have htrimmed := Text.trimmed_trimChars text.toList
  generalize Text.trimChars text.toList = s at hwritten htrimmed
  cases hwritten with
  | plain at_not_mem isNameTag => exact (hr rfl).elim
  | @pinned nameTag e digest at_not_mem isNameTag parsed =>
    refine ⟨String.ofList (e ++ '@' :: d.toText.toList), ?_⟩
    have htext : (assemble (nameTag ++ '@' :: e) nameTag (some digest)).written.toList =
        nameTag ++ '@' :: e := String.toList_ofList
    have hcut : Text.cut '@' (nameTag ++ '@' :: e ++ '@' :: d.toText.toList) =
        some (nameTag, e ++ '@' :: d.toText.toList) :=
      Text.cut_eq_some_iff.2 ⟨by simp, at_not_mem⟩
    unfold parse
    dsimp only
    rw [toList_append_digest, htext,
      (trimmed_append_digest (by simp) htrimmed.head d).trimChars_eq, if_neg (by simp), hcut]
    dsimp only
    rw [Digest.parse_append_at parsed]

end Reference

end OciCompose
