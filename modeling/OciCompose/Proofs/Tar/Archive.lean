import Mathlib.Data.List.Forall2
import OciCompose.Tar.Archive
import OciCompose.Proofs.Tar.Name

/-
  Reading an archive gives the members that were written into it.
  `Reads` says what bytes are read as, given fuel for each block. Each record in front of them adds what
  it stands for; a long form waits in `Pending` for its member. `Member.reads_of_write` puts these
  together for a member that was written, and `read?_of_write` is the induction over all of them: each
  is read as it is, but for what a field makes of its path and target. Members that fit are written, and
  nothing of them is lost (`read?_write`).
-/

namespace OciCompose.Tar

open OciCompose.Path

/-! ## Records -/

theorem length_padded (content : Bytes) :
    (padded content).length =
      content.length + (blockSize - content.length % blockSize) % blockSize := by
  unfold padded
  rw [List.length_append, List.length_replicate]

theorem flag_mem_encode (h : Header) : h.kind.flag ∈ h.encode :=
  List.mem_append_right _ List.mem_cons_self

/-- A header is not the end of an archive: its flag is not zero. -/
theorem all_zero_encode (h : Header) : (h.encode.all (· == 0)) = false := by
  rw [List.all_eq_false]
  refine ⟨_, flag_mem_encode h, ?_⟩
  cases h.kind <;> decide

/-- The member of a header, with the names that wait for it. -/
def memberOf (pending : Pending) (h : Header) (body : Body) : Member where
  path := Utf8.decodeLossy (pending.name.getD (untilNul h.name))
  mode := h.mode
  uid := h.uid
  gid := h.gid
  mtime := h.mtime
  body := body

/-- One step of reading: what a record in front of other bytes does. -/
theorem readFrom_record {h : Header} (hf : h.Fits) {content : Bytes} (hsize : h.size = content.length)
    (fuel : Nat) (pending : Pending) (rest : Bytes) :
    readFrom (fuel + 1) pending (record h content ++ rest) =
      match h.kind with
      | .longName => readFrom fuel { pending with name := some (dropNul content) } rest
      | .longLink => readFrom fuel { pending with link := some (dropNul content) } rest
      | .file => (readFrom fuel {} rest).map (memberOf pending h (.file content) :: ·)
      | .symlink =>
        let target := Utf8.decodeLossy (pending.link.getD (untilNul h.link))
        (readFrom fuel {} rest).map (memberOf pending h (.symlink target) :: ·) := by
  have hlength := h.length_encode hf
  have hshape : record h content ++ rest = h.encode ++ (padded content ++ rest) :=
    List.append_assoc _ _ _
  have htake : (record h content ++ rest).take blockSize = h.encode := by
    rw [hshape, ← hlength, List.take_left]
  have hdrop : (record h content ++ rest).drop blockSize = padded content ++ rest := by
    rw [hshape, ← hlength, List.drop_left]
  have hcontent : (padded content ++ rest).take h.size = content := by
    rw [hsize, padded, List.append_assoc, List.take_left]
  have hrest : (padded content ++ rest).drop
      (h.size + (blockSize - h.size % blockSize) % blockSize) = rest := by
    rw [hsize, ← length_padded, List.drop_left]
  rw [readFrom, htake, hdrop, all_zero_encode, if_neg Bool.false_ne_true, Header.decode?_encode hf]
  dsimp only
  rw [hcontent, hrest]
  rfl

/-! ## Reading with fuel to spare -/

/-- What bytes are read as, whatever fuel there is for each of their blocks. -/
def Reads (pending : Pending) (bs : Bytes) (ms : List Member) : Prop :=
  ∀ fuel, bs.length / blockSize < fuel → readFrom fuel pending bs = some ms

theorem Reads.read? {bs : Bytes} {ms : List Member} (h : Reads {} bs ms) : read? bs = some ms :=
  h _ (Nat.lt_succ_self _)

/-- A record takes a block at least, so what comes after it has fuel left. -/
theorem Reads.record {pending next : Pending} {h : Header} (hf : h.Fits) {content rest : Bytes}
    {ms all : List Member} (hrest : Reads next rest ms)
    (hstep : ∀ fuel, readFrom fuel next rest = some ms →
      readFrom (fuel + 1) pending (Tar.record h content ++ rest) = some all) :
    Reads pending (Tar.record h content ++ rest) all := by
  intro fuel hfuel
  have hlength : (Tar.record h content ++ rest).length =
      blockSize + (padded content).length + rest.length := by
    rw [Tar.record, List.length_append, List.length_append, h.length_encode hf]
  have hblock : rest.length / blockSize + 1 ≤ (Tar.record h content ++ rest).length / blockSize := by
    rw [← Nat.add_div_right _ (by decide), hlength]
    exact Nat.div_le_div_right (by omega)
  cases fuel with
  | zero => exact absurd hfuel (Nat.not_lt_zero _)
  | succ n => exact hstep n (hrest n (Nat.lt_of_succ_lt_succ (Nat.lt_of_le_of_lt hblock hfuel)))

theorem reads_trailer (pending : Pending) : Reads pending trailer [] := by
  have hzero : (trailer.take blockSize).all (· == 0) = true := by
    rw [trailer, List.take_replicate, List.all_replicate]
    simp
  intro fuel hfuel
  cases fuel with
  | zero => exact absurd hfuel (Nat.not_lt_zero _)
  | succ n => rw [readFrom, hzero, if_pos rfl]

theorem dropNul_append (bs : Bytes) : dropNul (bs ++ [0]) = bs := by
  unfold dropNul
  rw [List.getLast?_concat, if_pos rfl, List.dropLast_concat]

/-! ### Long forms -/

/-- The header of the entry that carries a long name or link. -/
def longHeader (kind : Kind) (text : List Char) : Header where
  name := longMarker
  mode := 0o644
  uid := 0
  gid := 0
  size := (encodeChars text ++ [0]).length
  mtime := 0
  kind := kind
  link := blank

theorem fits_longHeader (kind : Kind) {text : List Char} (h : byteLength text < 2 ^ 63) :
    (longHeader kind text).Fits where
  name := (by decide : longMarker.length = nameWidth)
  link := length_blank
  mode := by simp [longHeader]
  uid := by simp [longHeader]
  gid := by simp [longHeader]
  size := by
    rw [byteLength_eq] at h
    simp only [longHeader, List.length_append, List.length_singleton]
    omega
  mtime := by simp [longHeader]

theorem longRecord_eq (kind : Kind) (text : List Char) :
    longRecord kind text = record (longHeader kind text) (encodeChars text ++ [0]) := rfl

/-- A name that needs an entry of its own waits there for the next one; else it is in the field. -/
theorem Reads.named (f : Filled) {text : List Char} (hlength : byteLength text < 2 ^ 63)
    {rest : Bytes} {ms : List Member}
    (h : ∀ pending : Pending, pending.link = none →
      pending.name.getD (untilNul f.bytes) = f.carried text → Reads pending rest ms) :
    Reads {} ((if f.long then longRecord .longName text else []) ++ rest) ms := by
  cases hlong : f.long with
  | false => exact h {} rfl (Filled.carried_short hlong text).symm
  | true =>
    rw [if_pos rfl, longRecord_eq]
    refine Reads.record (fits_longHeader .longName hlength)
      (h { name := some (encodeChars text) } rfl (Filled.carried_long hlong text).symm)
      fun fuel hread => ?_
    rw [readFrom_record (fits_longHeader .longName hlength) rfl]
    dsimp only [longHeader]
    rw [dropNul_append]
    exact hread

theorem Reads.linked (f : Filled) {text : List Char} (hlength : byteLength text < 2 ^ 63)
    {pending : Pending} (hnone : pending.link = none) {rest : Bytes} {ms : List Member}
    (h : ∀ next : Pending, next.name = pending.name →
      next.link.getD (untilNul f.bytes) = f.carried text → Reads next rest ms) :
    Reads pending ((if f.long then longRecord .longLink text else []) ++ rest) ms := by
  cases hlong : f.long with
  | false =>
    refine h pending rfl ?_
    rw [hnone, Filled.carried_short hlong]
    rfl
  | true =>
    rw [if_pos rfl, longRecord_eq]
    refine Reads.record (fits_longHeader .longLink hlength)
      (h { pending with link := some (encodeChars text) } rfl (Filled.carried_long hlong text).symm)
      fun fuel hread => ?_
    rw [readFrom_record (fits_longHeader .longLink hlength) rfl]
    dsimp only [longHeader]
    rw [dropNul_append]
    exact hread

/-! ## Members -/

/-- A path that stays as it is in an archive: names with slashes between them. -/
def IsPath (path : String) : Prop :=
  ∃ names, names ≠ [] ∧ (∀ n ∈ names, IsName n) ∧ path.toList = join names

/-- A link target that stays as it is in an archive. It may go up. -/
def IsTarget (target : String) : Prop :=
  ∃ segments, segments ≠ [] ∧ (∀ s ∈ segments, IsSegment s) ∧ target.toList = join segments

/-- What is in memory has less than 2⁶³ bytes. -/
def Body.Bounded : Body → Prop
  | .file content => content.length < 2 ^ 64
  | .symlink target => (Utf8.encode target).length < 2 ^ 63

/-- The numbers of a member have a place in a header. -/
structure Member.Bounded (m : Member) : Prop where
  pathLength : (Utf8.encode m.path).length < 2 ^ 63
  mode : m.mode < 8 ^ 7
  uid : m.uid < 2 ^ 63
  gid : m.gid < 2 ^ 63
  mtime : m.mtime < 2 ^ 64
  body : m.body.Bounded

def Body.Fits : Body → Prop
  | .file content => content.length < 2 ^ 64
  | .symlink target => IsTarget target ∧ (Utf8.encode target).length < 2 ^ 63

/-- All of a member has a place in an archive. -/
structure Member.Fits (m : Member) : Prop where
  path : IsPath m.path
  pathLength : (Utf8.encode m.path).length < 2 ^ 63
  mode : m.mode < 8 ^ 7
  uid : m.uid < 2 ^ 63
  gid : m.gid < 2 ^ 63
  mtime : m.mtime < 2 ^ 64
  body : m.body.Fits

theorem Member.Fits.bounded {m : Member} (h : m.Fits) : m.Bounded where
  pathLength := h.pathLength
  mode := h.mode
  uid := h.uid
  gid := h.gid
  mtime := h.mtime
  body := by
    have hbody := h.body
    cases hm : m.body with
    | file content =>
      rw [hm] at hbody
      exact hbody
    | symlink target =>
      rw [hm] at hbody
      exact hbody.2

theorem decodeLossy_encodeChars (s : String) : Utf8.decodeLossy (encodeChars s.toList) = s :=
  Utf8.decodeLossy_encode s

/-- A member is read as another one, whose path and target are what is read of theirs. -/
inductive Member.ReadAs (m : Member) : Member → Prop
  | file {content : Bytes} {name : Filled} (body : m.body = .file content)
      (path : fillName m.path.toList = .ok name) :
      ReadAs m { m with path := Utf8.decodeLossy (name.carried m.path.toList) }
  | symlink {target : String} {name link : Filled} (body : m.body = .symlink target)
      (path : fillName m.path.toList = .ok name) (aim : fillLink name target.toList = .ok link) :
      ReadAs m { m with
        path := Utf8.decodeLossy (name.carried m.path.toList)
        body := .symlink (Utf8.decodeLossy (link.carried target.toList)) }

theorem memberOf_eq {m : Member} {pending : Pending} {h : Header} {name : Bytes} (body : Body)
    (hname : pending.name.getD (untilNul h.name) = name) (hmode : h.mode = m.mode)
    (huid : h.uid = m.uid) (hgid : h.gid = m.gid) (hmtime : h.mtime = m.mtime) :
    memberOf pending h body = { m with path := Utf8.decodeLossy name, body } := by
  unfold memberOf
  rw [hname, hmode, huid, hgid, hmtime]

/-- The bytes that were written for a member are read before what comes after them. -/
theorem Member.reads_of_write {m : Member} (h : m.Bounded) {bs : Bytes} (hwrite : m.write = .ok bs) :
    ∃ m', m.ReadAs m' ∧ ∀ rest ms, Reads {} rest ms → Reads {} (bs ++ rest) (m' :: ms) := by
  have hbody := h.body
  unfold write at hwrite
  dsimp only at hwrite
  cases hname : fillName m.path.toList with
  | error fault =>
    rw [hname] at hwrite
    cases hwrite
  | ok name =>
  rw [hname] at hwrite
  have hwidth := width_of_fillName hname
  cases hm : m.body with
  | file content =>
    rw [hm] at hwrite hbody
    obtain rfl := Except.ok.inj hwrite
    refine ⟨_, .file hm hname, fun rest ms hrest => ?_⟩
    have hfits : Header.Fits
        { name := name.bytes, mode := m.mode, uid := m.uid, gid := m.gid, size := content.length,
          mtime := m.mtime, kind := .file, link := blank } :=
      ⟨hwidth, length_blank, h.mode, h.uid, h.gid, hbody, h.mtime⟩
    rw [List.append_assoc]
    refine Reads.named name h.pathLength fun pending _ hread => ?_
    refine Reads.record hfits hrest fun fuel hfuel => ?_
    rw [readFrom_record hfits rfl, hfuel]
    dsimp only
    rw [memberOf_eq (m := m) _ hread rfl rfl rfl rfl, ← hm]
    rfl
  | symlink target =>
    rw [hm] at hwrite hbody
    cases hlink : fillLink name target.toList with
    | error fault =>
      simp only [bind, Except.bind, hlink] at hwrite
      cases hwrite
    | ok link =>
    simp only [bind, Except.bind, hlink] at hwrite
    obtain rfl := Except.ok.inj hwrite
    refine ⟨_, .symlink hm hname hlink, fun rest ms hrest => ?_⟩
    have hfits : Header.Fits
        { name := name.bytes, mode := m.mode, uid := m.uid, gid := m.gid, size := 0,
          mtime := m.mtime, kind := .symlink, link := link.bytes } :=
      ⟨hwidth, width_of_fillLink hlink, h.mode, h.uid, h.gid, by simp, h.mtime⟩
    rw [List.append_assoc, List.append_assoc]
    refine Reads.named name h.pathLength fun pending hnone hread => ?_
    refine Reads.linked link hbody hnone fun next hsame hreadLink => ?_
    refine Reads.record hfits hrest fun fuel hfuel => ?_
    rw [readFrom_record hfits rfl, hfuel]
    dsimp only
    rw [hreadLink, memberOf_eq (m := m) _ (hsame ▸ hread) rfl rfl rfl rfl]
    rfl

theorem reads_of_writeMembers {ms : List Member} (h : ∀ m ∈ ms, m.Bounded) {bs : Bytes}
    (hwrite : writeMembers ms = .ok bs) :
    ∃ ms', List.Forall₂ Member.ReadAs ms ms' ∧ Reads {} (bs ++ trailer) ms' := by
  induction ms generalizing bs with
  | nil =>
    obtain rfl := Except.ok.inj hwrite
    exact ⟨[], .nil, reads_trailer {}⟩
  | cons m ms ih =>
    unfold writeMembers at hwrite
    cases hm : m.write with
    | error fault =>
      rw [hm] at hwrite
      cases hwrite
    | ok b =>
    cases hrest : writeMembers ms with
    | error fault =>
      rw [hm, hrest] at hwrite
      cases hwrite
    | ok more =>
    rw [hm, hrest] at hwrite
    obtain rfl := Except.ok.inj hwrite
    obtain ⟨m', hm', hmember⟩ := Member.reads_of_write (h m List.mem_cons_self) hm
    obtain ⟨ms', hms', hreads⟩ := ih (fun x hx => h x (List.mem_cons_of_mem _ hx)) hrest
    refine ⟨m' :: ms', .cons hm' hms', ?_⟩
    rw [List.append_assoc]
    exact hmember _ _ hreads

/-- An archive is read as what was written into it, one member for each. -/
theorem read?_of_write {ms : List Member} (h : ∀ m ∈ ms, m.Bounded) {bs : Bytes}
    (hwrite : write ms = .ok bs) : ∃ ms', read? bs = some ms' ∧ List.Forall₂ Member.ReadAs ms ms' := by
  unfold write at hwrite
  cases hmembers : writeMembers ms with
  | error fault =>
    rw [hmembers] at hwrite
    cases hwrite
  | ok more =>
    rw [hmembers] at hwrite
    obtain rfl := Except.ok.inj hwrite
    obtain ⟨ms', hms', hreads⟩ := reads_of_writeMembers h hmembers
    exact ⟨ms', hreads.read?, hms'⟩

/-! ## Members that fit -/

/-- Nothing of a member that fits is lost. -/
theorem Member.ReadAs.eq {m m' : Member} (h : m.ReadAs m') (hfits : m.Fits) : m' = m := by
  obtain ⟨names, hne, hnames, hpath⟩ := hfits.path
  obtain ⟨name, hname, hholds⟩ := fillName_join hne hnames
  rw [← hpath] at hname hholds
  have hbody := hfits.body
  cases h with
  | file body path =>
    obtain rfl := Except.ok.inj (hname.symm.trans path)
    rw [hholds.carried_eq, decodeLossy_encodeChars]
  | @symlink target _ link body path aim =>
    obtain rfl := Except.ok.inj (hname.symm.trans path)
    rw [body] at hbody
    obtain ⟨⟨segments, hsegmentsNe, hsegments, htarget⟩, -⟩ := hbody
    obtain ⟨link', hlink, hlinkHolds⟩ := fillLink_join name hsegmentsNe hsegments
    rw [← htarget] at hlink hlinkHolds
    obtain rfl := Except.ok.inj (hlink.symm.trans aim)
    rw [hholds.carried_eq, hlinkHolds.carried_eq, decodeLossy_encodeChars, decodeLossy_encodeChars,
      ← body]

theorem Member.Fits.exists_write {m : Member} (h : m.Fits) : ∃ bs, m.write = .ok bs := by
  obtain ⟨names, hne, hnames, hpath⟩ := h.path
  obtain ⟨name, hname, -⟩ := fillName_join hne hnames
  rw [← hpath] at hname
  have hbody := h.body
  cases hm : m.body with
  | file content => exact ⟨_, by rw [write, hname, hm]; rfl⟩
  | symlink target =>
    rw [hm] at hbody
    obtain ⟨⟨segments, hsegmentsNe, hsegments, htarget⟩, -⟩ := hbody
    obtain ⟨link, hlink, -⟩ := fillLink_join name hsegmentsNe hsegments
    rw [← htarget] at hlink
    exact ⟨_, by rw [write, hname, hm]; simp only [bind, Except.bind, hlink]; rfl⟩

/-- Members that fit are written, and nothing of them is lost. -/
theorem read?_write {ms : List Member} (h : ∀ m ∈ ms, m.Fits) :
    ∃ bs, write ms = .ok bs ∧ read? bs = some ms := by
  have hwrites : ∃ bs, writeMembers ms = .ok bs := by
    induction ms with
    | nil => exact ⟨[], rfl⟩
    | cons m ms ih =>
      obtain ⟨b, hb⟩ := (h m List.mem_cons_self).exists_write
      obtain ⟨bs, hbs⟩ := ih fun x hx => h x (List.mem_cons_of_mem _ hx)
      exact ⟨b ++ bs, by rw [writeMembers, hb, hbs]; rfl⟩
  obtain ⟨bs, hbs⟩ := hwrites
  have hwrite : write ms = .ok (bs ++ trailer) := by
    rw [write, hbs]
    rfl
  obtain ⟨ms', hread, hms'⟩ := read?_of_write (fun m hm => (h m hm).bounded) hwrite
  have hsame : ms' = ms := by
    clear hbs hwrite hread
    induction hms' with
    | nil => rfl
    | cons hm _ ih =>
      rw [hm.eq (h _ List.mem_cons_self), ih fun x hx => h x (List.mem_cons_of_mem _ hx)]
  exact ⟨_, hwrite, hsame ▸ hread⟩

end OciCompose.Tar
