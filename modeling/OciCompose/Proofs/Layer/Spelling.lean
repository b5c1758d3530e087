import OciCompose.Proofs.Layer.Archive
import OciCompose.Proofs.Layer.Staging
import OciCompose.Proofs.Tar.Spelling

/-
  The paths of a layer.
  Content is staged under keys, which are told apart by every character behind their slash; an archive
  shows some paths that differ alike. `paths_writeTar`: an archive has one entry for each key, in their
  order, with the path that is shown of the key. Where all paths that were put in are plain, these are
  distinct and in ascending order.
-/

namespace OciCompose

namespace Staging

/-- What stands behind the slashes at the front of a path. -/
def name (path : String) : List Char := path.toList.dropWhile (· == '/')

theorem name_key (path : String) : name (key path) = name path := by
  have hstop : (name path).dropWhile (· == '/') = name path :=
    Text.dropWhile_eq_self fun c hc => Text.head?_dropWhile (p := (· == '/')) hc
  unfold name at hstop ⊢
  rw [toList_key]
  exact hstop

theorem length_name_le (path : String) :
    (Utf8.encode (String.ofList (name path))).length ≤ (Utf8.encode path).length := by
  have hpath : path.toList = path.toList.takeWhile (· == '/') ++ name path :=
    List.takeWhile_append_dropWhile.symm
  have hlength := congrArg Tar.byteLength hpath
  rw [Tar.byteLength_append] at hlength
  rw [Tar.encode_eq_encodeChars, Tar.encode_eq_encodeChars, String.toList_ofList, ← Tar.byteLength_eq,
    ← Tar.byteLength_eq]
  omega

/-- The path that an archive shows for a key. -/
def archivePath (k : String) : String := String.ofList (Tar.shown (name k))

theorem exists_of_mem_keys {l : List (String × StagedEntry)} {k : String}
    (h : k ∈ (ofList l).entries.keys) :
    ∃ x ∈ l, name k = name x.1 ∧ k = "/" ++ String.ofList (name k) := by
  rw [entries_ofList, SortedMap.mem_keys_ofList, List.map_map] at h
  obtain ⟨x, hx, rfl⟩ := List.mem_map.1 h
  refine ⟨x, hx, name_key x.1, ?_⟩
  show key x.1 = "/" ++ String.ofList (name (key x.1))
  rw [name_key]
  rfl

theorem bounded_of_ofList {l : List (String × StagedEntry)} (a : LayerAttributes)
    (h : ∀ x ∈ l, (Utf8.encode x.1).length < 2 ^ 63 ∧ x.2.Bounded) :
    ∀ m ∈ (ofList l).entries.toList.map (member a), m.Bounded := by
  intro m hm
  obtain ⟨⟨k, e⟩, he, rfl⟩ := List.mem_map.1 hm
  rw [entries_ofList] at he
  obtain ⟨x, hx, hke⟩ := List.mem_map.1 (SortedMap.mem_of_mem_ofList he)
  obtain ⟨rfl, rfl⟩ := Prod.mk.inj hke
  obtain ⟨hpath, hentry⟩ := h x hx
  refine bounded_member a hentry ?_
  show (Utf8.encode (String.ofList (name (key x.1)))).length < 2 ^ 63
  rw [name_key]
  exact Nat.lt_of_le_of_lt (length_name_le x.1) hpath

theorem write_of_writeTar {s : Staging} {a : LayerAttributes} {tar : Bytes}
    (h : s.writeTar a = .ok tar) : Tar.write (s.entries.toList.map (member a)) = .ok tar := by
  unfold writeTar at h
  cases hw : Tar.write (s.entries.toList.map (member a)) with
  | error fault =>
    rw [hw] at h
    cases h
  | ok bs =>
    rw [hw] at h
    exact congrArg Except.ok (Except.ok.inj h)

/-- Members of staged content are shown as their keys are. -/
theorem map_shown_member (s : Staging) (a : LayerAttributes) :
    ((s.entries.toList.map (member a)).map fun m => String.ofList (Tar.shown m.path.toList)) =
      s.entries.keys.map archivePath := by
  rw [SortedMap.keys, List.map_map, List.map_map]
  refine List.map_congr_left fun e _ => ?_
  show String.ofList (Tar.shown (String.ofList (name e.1)).toList) = archivePath e.1
  rw [String.toList_ofList]
  rfl

/-- Plain paths are shown as they are, in the order of their keys. -/
theorem ascending_archivePath {l : List (String × StagedEntry)}
    (h : ∀ x ∈ l, Tar.Plain (name x.1)) :
    ((ofList l).entries.keys.map archivePath).Pairwise fun p q => Utf8.encode p < Utf8.encode q := by
  rw [List.pairwise_map]
  refine (List.pairwise_map.2 (ofList l).entries.ascending).imp_of_mem fun {k k'} hk hk' hlt => ?_
  obtain ⟨x, hx, hname, hkey⟩ := exists_of_mem_keys hk
  obtain ⟨x', hx', hname', hkey'⟩ := exists_of_mem_keys hk'
  unfold archivePath
  rw [Tar.shown_of_plain (hname ▸ h x hx), Tar.shown_of_plain (hname' ▸ h x' hx')]
  rw [hkey, hkey'] at hlt
  exact Utf8.encode_lt (lt_of_slash_lt hlt)

/-- The archive of what was put in has an entry for each key, under the path that is shown of it. Where
    all paths that were put in are plain, these are distinct and in the order of their bytes. -/
theorem paths_writeTar (l : List (String × StagedEntry)) (a : LayerAttributes) {tar : Bytes}
    (hbounded : ∀ x ∈ l, (Utf8.encode x.1).length < 2 ^ 63 ∧ x.2.Bounded)
    (hwrite : (ofList l).writeTar a = .ok tar) :
    ∃ members, Tar.read? tar = some members ∧
      members.map Tar.Member.path = (ofList l).entries.keys.map archivePath ∧
      ((∀ x ∈ l, Tar.Plain (name x.1)) →
        (members.map Tar.Member.path).Nodup ∧
          members.Pairwise fun m m' => Utf8.encode m.path < Utf8.encode m'.path) := by
  obtain ⟨members, hread, hpaths⟩ :=
    Tar.paths_of_write (bounded_of_ofList a hbounded) (write_of_writeTar hwrite)
  have hshown := hpaths.trans (map_shown_member (ofList l) a)
  refine ⟨members, hread, hshown, fun hplain => ?_⟩
  have hascending := ascending_archivePath hplain
  rw [← hshown] at hascending
  have hpairs := List.pairwise_map.1 hascending
  refine ⟨hascending.imp fun hlt heq => ?_, hpairs⟩
  rw [heq] at hlt
  exact List.lt_irrefl _ hlt

/-- Keys that differ may be shown alike. -/
example : archivePath "/a//b" = archivePath "/a/b" := by decide +kernel

/-- A dot in front of a path puts it before others, but is not shown. -/
def dotted : List (String × StagedEntry) := [("./z", .file [0x78] none), ("a", .file [0x79] none)]

def slashed : List (String × StagedEntry) := [("//b", .symlink "../x"), ("a/c", .file [0x78] none)]

/-- So its entry is out of order. Slashes in front make no difference. -/
theorem paths_writeTar_dotted :
    (∃ tar members, (ofList dotted).writeTar {} = .ok tar ∧ Tar.read? tar = some members ∧
      members.map Tar.Member.path = ["z", "a"]) ∧
    ∃ tar members, (ofList slashed).writeTar {} = .ok tar ∧ Tar.read? tar = some members ∧
      (members.map Tar.Member.path).Nodup ∧
      members.Pairwise fun m m' => Utf8.encode m.path < Utf8.encode m'.path := by
  have hwrites : ∀ l : List (String × StagedEntry),
      ((ofList l).writeTar {}).toOption.isSome = true → ∃ tar, (ofList l).writeTar {} = .ok tar := by
    intro l hl
    cases hw : (ofList l).writeTar {} with
    | error e =>
      rw [hw] at hl
      cases hl
    | ok tar => exact ⟨tar, rfl⟩
  have hsmall : ∀ l ∈ [dotted, slashed], ∀ x ∈ l,
      (Utf8.encode x.1).length < 2 ^ 63 ∧ x.2.Bounded := by decide
  constructor
  · obtain ⟨tar, hwrite⟩ := hwrites dotted (by decide +kernel)
    obtain ⟨members, hread, hpaths, -⟩ := paths_writeTar dotted {} (hsmall _ (by simp)) hwrite
    refine ⟨tar, members, hwrite, hread, hpaths.trans (by decide +kernel)⟩
  · obtain ⟨tar, hwrite⟩ := hwrites slashed (by decide +kernel)
    obtain ⟨members, hread, -, hordered⟩ := paths_writeTar slashed {} (hsmall _ (by simp)) hwrite
    refine ⟨tar, members, hwrite, hread, hordered fun x hx => ?_⟩
    rcases List.mem_cons.1 hx with rfl | hx
    · exact ⟨[['b']], by decide, by decide, .inl (by decide)⟩
    · rw [List.mem_singleton.1 hx]
      exact ⟨[['a'], ['c']], by decide, by decide, .inl (by decide)⟩

end Staging

end OciCompose
