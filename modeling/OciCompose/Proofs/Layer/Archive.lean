import OciCompose.Layer.Basic
import OciCompose.Proofs.Tar.Archive
import OciCompose.Proofs.Utf8

/-
  The archive of a layer, read back.
  `Storable` says which staged content has a place in an archive, and `Archived` what an entry is there.
  `read?_writeTar`: the archive of storable content has exactly its entries, in the order of the bytes of
  their paths.
-/

namespace OciCompose

/-! ## Modes -/

theorem permissions_le (m : UInt32) : (m &&& 0o777).toNat ≤ 0o777 := by
  rw [UInt32.toNat_and]
  exact Nat.and_le_right

theorem entryMode_le (m : Option UInt32) (a : LayerAttributes) : (entryMode m a).toNat ≤ 0o777 := by
  unfold entryMode
  split
  · exact permissions_le _
  · decide
  · exact permissions_le _
  · split <;> decide

/-! ## Content with a place in an archive -/

/-- A content of less than 8 GiB, or a relative target. Texts in memory have less than 2⁶³ bytes. -/
def StagedEntry.Storable : StagedEntry → Prop
  | .file content _ => content.length < 8 * 2 ^ 30
  | .symlink target => Tar.IsTarget target ∧ (Utf8.encode target).length < 2 ^ 63

/-- What is in memory has less than 2⁶³ bytes. -/
def StagedEntry.Bounded : StagedEntry → Prop
  | .file content _ => content.length < 2 ^ 63
  | .symlink target => (Utf8.encode target).length < 2 ^ 63

instance : (e : StagedEntry) → Decidable e.Bounded
  | .file content _ => inferInstanceAs (Decidable (content.length < 2 ^ 63))
  | .symlink target => inferInstanceAs (Decidable ((Utf8.encode target).length < 2 ^ 63))

theorem StagedEntry.Storable.bounded {e : StagedEntry} (h : e.Storable) : e.Bounded := by
  cases e with
  | file content sourceMode => exact Nat.lt_trans h (by decide)
  | symlink target => exact h.2

namespace Staging

/-- Every entry has a path of names behind the slash of its key. -/
def Storable (s : Staging) : Prop :=
  ∀ e ∈ s.entries.toList, e.2.Storable ∧
    ∃ path, e.1 = "/" ++ path ∧ Tar.IsPath path ∧ (Utf8.encode path).length < 2 ^ 63

/-- What a member of an archive is for an entry. -/
structure Archived (a : LayerAttributes) (e : String × StagedEntry) (m : Tar.Member) : Prop where
  path : "/" ++ m.path = e.1
  uid : m.uid = (a.uid.getD 0).toNat
  gid : m.gid = (a.gid.getD 0).toNat
  mtime : m.mtime = 0
  body :
    match e.2 with
    | .file content sourceMode => m.body = .file content ∧ m.mode = (entryMode sourceMode a).toNat
    | .symlink target => m.body = .symlink target ∧ m.mode = 0o777

theorem dropWhile_of_isPath {path : String} (h : Tar.IsPath path) :
    ("/" ++ path).toList.dropWhile (· == '/') = path.toList := by
  obtain ⟨names, -, hnames, hpath⟩ := h
  rw [String.toList_append, hpath]
  exact (List.dropWhile_cons_of_pos rfl).trans
    (Path.dropWhile_join fun n hn => (hnames n hn).toIsSegment)

theorem path_member (a : LayerAttributes) {path : String} (h : Tar.IsPath path) (e : StagedEntry) :
    (member a ("/" ++ path, e)).path = path := by
  unfold member
  rw [dropWhile_of_isPath h, String.ofList_toList]

theorem archived_member (a : LayerAttributes) {path : String} (h : Tar.IsPath path) (e : StagedEntry) :
    Archived a ("/" ++ path, e) (member a ("/" ++ path, e)) where
  path := congrArg ("/" ++ ·) (path_member a h e)
  uid := rfl
  gid := rfl
  mtime := rfl
  body := by cases e <;> exact ⟨rfl, rfl⟩

theorem bounded_member (a : LayerAttributes) {e : String × StagedEntry} (he : e.2.Bounded)
    (hlength : (Utf8.encode (member a e).path).length < 2 ^ 63) : (member a e).Bounded := by
  have huid : (a.uid.getD 0).toNat < 2 ^ 32 := (a.uid.getD 0).toNat_lt
  have hgid : (a.gid.getD 0).toNat < 2 ^ 32 := (a.gid.getD 0).toNat_lt
  obtain ⟨k, e⟩ := e
  have hmode : (member a (k, e)).mode ≤ 0o777 := by
    cases e with
    | file content sourceMode => exact entryMode_le sourceMode a
    | symlink target => exact Nat.le_refl _
  have hbody : (member a (k, e)).body.Bounded := by
    cases e with
    | file content sourceMode =>
      have hcontent : content.length < 2 ^ 63 := he
      show content.length < 2 ^ 64
      omega
    | symlink target => exact he
  refine ⟨hlength, by omega, ?_, ?_, ?_, hbody⟩
  · exact Nat.lt_of_lt_of_le huid (by decide)
  · exact Nat.lt_of_lt_of_le hgid (by decide)
  · exact Nat.two_pow_pos 64

theorem fits_member (a : LayerAttributes) {path : String} (h : Tar.IsPath path)
    (hlength : (Utf8.encode path).length < 2 ^ 63) {e : StagedEntry} (he : e.Storable) :
    (member a ("/" ++ path, e)).Fits := by
  have hpath := path_member a h e
  have hbounded : (member a ("/" ++ path, e)).Bounded :=
    bounded_member a he.bounded (by rw [hpath]; exact hlength)
  have hbody : (member a ("/" ++ path, e)).body.Fits := by
    cases e with
    | file content sourceMode => exact hbounded.body
    | symlink target => exact he
  exact ⟨by rw [hpath]; exact h, hbounded.pathLength, hbounded.mode, hbounded.uid, hbounded.gid,
    hbounded.mtime, hbody⟩

theorem lt_of_slash_lt {p q : String} (h : "/" ++ p < "/" ++ q) : p < q := by
  rw [String.lt_iff, String.toList_append, String.toList_append] at h
  rw [String.lt_iff]
  rcases List.cons_lt_cons_iff.1 h with h | ⟨-, h⟩
  · exact absurd h (Nat.lt_irrefl _)
  · exact h

/-- The archive of storable content is read as its members. -/
theorem exists_writeTar {s : Staging} (h : s.Storable) (a : LayerAttributes) :
    ∃ tar, s.writeTar a = .ok tar ∧ Tar.read? tar = some (s.entries.toList.map (member a)) := by
  have hfits : ∀ m ∈ s.entries.toList.map (member a), m.Fits := by
    intro m hm
    obtain ⟨⟨k, e⟩, he, rfl⟩ := List.mem_map.1 hm
    obtain ⟨hstorable, path, rfl, hpath, hlength⟩ := h _ he
    exact fits_member a hpath hlength hstorable
  obtain ⟨tar, hwrite, hread⟩ := Tar.read?_write hfits
  exact ⟨tar, by rw [writeTar, hwrite]; rfl, hread⟩

/-- These are its entries, one each, in the order of the bytes of their paths. -/
theorem read?_writeTar {s : Staging} (h : s.Storable) (a : LayerAttributes) :
    ∃ tar members, s.writeTar a = .ok tar ∧ Tar.read? tar = some members ∧
      members.length = s.size ∧ (∀ p ∈ s.entries.toList.zip members, Archived a p.1 p.2) ∧
      members.Pairwise fun x y => Utf8.encode x.path < Utf8.encode y.path := by
  obtain ⟨tar, hwrite, hread⟩ := exists_writeTar h a
  refine ⟨tar, _, hwrite, hread, List.length_map _, ?_, ?_⟩
  · intro p hp
    rw [← List.map_id s.entries.toList, List.map_map, List.zip_map'] at hp
    obtain ⟨⟨k, e⟩, he, rfl⟩ := List.mem_map.1 hp
    obtain ⟨-, path, rfl, hpath, -⟩ := h _ he
    exact archived_member a hpath e
  · rw [List.pairwise_map]
    refine s.entries.ascending.imp_of_mem fun {x y} hx hy hlt => ?_
    obtain ⟨k, e⟩ := x
    obtain ⟨l, f⟩ := y
    obtain ⟨-, path, rfl, hpath, -⟩ := h _ hx
    obtain ⟨-, other, rfl, hother, -⟩ := h _ hy
    rw [path_member a hpath, path_member a hother]
    exact Utf8.encode_lt (lt_of_slash_lt hlt)

/-! ## A symlink with a long name and a long target -/

namespace LongLink

/-- One letter more than a name field has. -/
def letters : List Char := List.replicate 101 'a'

def target : String := String.ofList (Path.join [['.', '.'], letters])

def staged : Staging := Staging.empty.insert (String.ofList letters) (.symlink target)

theorem isName_letters : Path.IsName letters := by decide

theorem isTarget_target : Tar.IsTarget target := by
  refine ⟨[['.', '.'], letters], by simp, ?_, String.toList_ofList⟩
  intro s hs
  rcases List.mem_cons.1 hs with rfl | hs
  · decide
  · rw [List.mem_singleton.1 hs]
    exact isName_letters.toIsSegment

theorem isPath_letters : Tar.IsPath (String.ofList letters) := by
  refine ⟨[letters], by simp, ?_, ?_⟩
  · intro n hn
    rw [List.mem_singleton.1 hn]
    exact isName_letters
  · rw [String.toList_ofList, Path.join_singleton]

theorem toList_staged : staged.entries.toList = [("/" ++ String.ofList letters, .symlink target)] := by
  decide

theorem storable_staged : staged.Storable := by
  intro e he
  rw [toList_staged] at he
  obtain rfl := List.mem_singleton.1 he
  exact ⟨⟨isTarget_target, by decide⟩, _, rfl, isPath_letters, by decide⟩

/-- It is read back whole. -/
theorem read?_writeTar_staged :
    ∃ tar, staged.writeTar {} = .ok tar ∧
      Tar.read? tar = some [{
        path := String.ofList letters
        mode := 0o777
        uid := 0
        gid := 0
        mtime := 0
        body := .symlink target }] := by
  obtain ⟨tar, members, hwrite, hread, hlength, harchived, -⟩ := read?_writeTar storable_staged {}
  obtain ⟨m, rfl⟩ := List.length_eq_one_iff.1 (hlength.trans (congrArg List.length toList_staged))
  obtain ⟨hpath, huid, hgid, hmtime, hbody, hmode⟩ := harchived
    (("/" ++ String.ofList letters, .symlink target), m)
    (by rw [toList_staged]; exact List.mem_singleton_self _)
  obtain ⟨path, mode, uid, gid, mtime, body⟩ := m
  dsimp only at hpath huid hgid hmtime hbody hmode
  have hname : path = String.ofList letters := by simpa using hpath
  subst hname huid hgid hmtime hbody hmode
  exact ⟨tar, hwrite, hread⟩

end LongLink

end Staging

end OciCompose
