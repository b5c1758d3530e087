import Mathlib.Algebra.Order.BigOperators.Group.List
import Mathlib.Algebra.Order.Group.Nat
import Mathlib.Data.List.Dedup
import Mathlib.Data.List.Induction
import OciCompose.Layer.Source
import OciCompose.Layer.Staging
import OciCompose.Proofs.SortedMap
import OciCompose.Proofs.Text
import OciCompose.Proofs.Tree
import OciCompose.Proofs.Utf8

/-
  Staging content step by step.
  `get?_ofList_iff_last`: under each key is what was put in last there; where the keys are distinct, that
  is all (`get?_ofList`). `sized_ofList`: the total is kept right by every insertion, and it is exact as
  long as what is staged fits 64 bits (`Sized.toNat_totalSize`). `books_ofList` puts these together.
  `key_map_inj`: places in a source have distinct keys in the image, wherever the source goes there.
-/

namespace OciCompose

/-- The length of the content, none for a symlink. -/
def StagedEntry.length : StagedEntry → Nat
  | file content _ => content.length
  | symlink _ => 0

theorem StagedEntry.toNat_size {e : StagedEntry} (h : e.length < 2 ^ 64) : e.size.toNat = e.length := by
  cases e with
  | file content mode => exact UInt64.toNat_ofNat_of_lt' h
  | symlink target => rfl

namespace Staging

/-- What some insertions make, one after the other. -/
def ofList (l : List (String × StagedEntry)) : Staging := l.foldl (fun s x => s.insert x.1 x.2) empty

/-- An entry at its key. -/
def keyed (x : String × StagedEntry) : String × StagedEntry := (key x.1, x.2)

theorem entries_ofList (l : List (String × StagedEntry)) :
    (ofList l).entries = SortedMap.ofList (l.map keyed) := by
  have hfold : ∀ s : Staging, (l.foldl (fun s x => s.insert x.1 x.2) s).entries =
      (l.map keyed).foldl (fun m e => m.insert e.1 e.2) s.entries := by
    induction l with
    | nil => exact fun s => rfl
    | cons x rest ih => exact fun s => ih (s.insert x.1 x.2)
  exact hfold empty

theorem ofList_concat (l : List (String × StagedEntry)) (x : String × StagedEntry) :
    ofList (l ++ [x]) = (ofList l).insert x.1 x.2 := by
  unfold ofList
  rw [List.foldl_append]
  rfl

/-! ## Keys -/

theorem toList_key (path : String) :
    (key path).toList = '/' :: path.toList.dropWhile (· == '/') := by
  rw [key, String.toList_append]
  exact congrArg ('/' :: ·) String.toList_ofList

/-- A path names the entry of a key: behind its slashes stands what is behind the one of the key. -/
def Names (path k : String) : Prop :=
  ∃ slashes rest, path.toList = List.replicate slashes '/' ++ rest ∧ rest.head? ≠ some '/' ∧
    k.toList = '/' :: rest

theorem names_key (path : String) : Names path (key path) := by
  have hslashes : path.toList.takeWhile (· == '/') =
      List.replicate (path.toList.takeWhile (· == '/')).length '/' := by
    refine List.eq_replicate_iff.2 ⟨rfl, fun c hc => ?_⟩
    exact eq_of_beq (List.all_eq_true.1 List.all_takeWhile c hc)
  refine ⟨(path.toList.takeWhile (· == '/')).length, path.toList.dropWhile (· == '/'), ?_,
    fun hhead => ?_, toList_key path⟩
  · rw [← hslashes, List.takeWhile_append_dropWhile]
  · exact absurd (Text.head?_dropWhile hhead) (by decide)

theorem names_iff {path k : String} : Names path k ↔ key path = k := by
  refine ⟨?_, fun h => h ▸ names_key path⟩
  rintro ⟨slashes, rest, hpath, hrest, hk⟩
  have hstop : rest.dropWhile (· == '/') = rest := by
    refine Text.dropWhile_eq_self fun c hc => beq_eq_false_iff_ne.2 ?_
    rintro rfl
    exact hrest hc
  apply String.toList_injective
  rw [toList_key, hpath, hk, List.dropWhile_append_of_pos, hstop]
  intro c hc
  rw [List.eq_of_mem_replicate hc]
  rfl

/-- The last entry that was put in under a key is there. -/
theorem get?_ofList_iff_last {l : List (String × StagedEntry)} {k : String} {e : StagedEntry} :
    (ofList l).entries.get? k = some e ↔
      ∃ before path after, l = before ++ (path, e) :: after ∧ Names path k ∧
        ∀ x ∈ after, ¬ Names x.1 k := by
  rw [entries_ofList, SortedMap.get?_ofList_iff_split]
  constructor
  · rintro ⟨early, late, hsplit, hlate⟩
    obtain ⟨before, rest, rfl, rfl, hrest⟩ := List.map_eq_append_iff.1 hsplit
    obtain ⟨⟨path, e'⟩, after, rfl, hx, rfl⟩ := List.map_eq_cons_iff.1 hrest
    obtain ⟨rfl, rfl⟩ := Prod.mk.inj hx
    refine ⟨before, path, after, rfl, names_iff.2 rfl, fun x hx hnames => ?_⟩
    exact hlate (keyed x) (List.mem_map_of_mem hx) (names_iff.1 hnames)
  · rintro ⟨before, path, after, rfl, hnames, hafter⟩
    refine ⟨before.map keyed, after.map keyed, ?_, fun y hy hkey => ?_⟩
    · simp [keyed, names_iff.1 hnames]
    · obtain ⟨x, hx, rfl⟩ := List.mem_map.1 hy
      exact hafter x hx (names_iff.2 hkey)

/-- As many entries as there are keys. -/
theorem size_eq_dedup (l : List (String × StagedEntry)) :
    (ofList l).size = (l.map fun x => key x.1).dedup.length := by
  have hmem : ∀ k, k ∈ (ofList l).entries.keys ↔ k ∈ l.map fun x => key x.1 := by
    intro k
    rw [entries_ofList, SortedMap.mem_keys_ofList, List.map_map]
    rfl
  have hperm : (ofList l).entries.keys.Perm (l.map fun x => key x.1).dedup :=
    (List.perm_ext_iff_of_nodup (ofList l).entries.ascending.nodup (List.nodup_dedup _)).2
      fun k => (hmem k).trans List.mem_dedup.symm
  rw [← hperm.length_eq]
  exact (List.length_map _).symm

/-- Where the keys are distinct, all that was put in is there. -/
theorem get?_ofList {l : List (String × StagedEntry)} (h : (l.map fun x => key x.1).Nodup)
    {k : String} {e : StagedEntry} :
    (ofList l).entries.get? k = some e ↔ (k, e) ∈ l.map keyed := by
  rw [entries_ofList]
  refine SortedMap.get?_ofList ?_
  rw [List.map_map]
  exact h

theorem size_insert_le (s : Staging) (path : String) (e : StagedEntry) :
    (s.insert path e).size ≤ s.size + 1 := SortedMap.length_insertInto_le _ _ _

/-- Where the keys are distinct, there are as many entries as insertions. -/
theorem size_ofList {l : List (String × StagedEntry)} (h : (l.map fun x => key x.1).Nodup) :
    (ofList l).size = l.length := by
  rw [size_eq_dedup, h.dedup, List.length_map]

theorem isEmpty_ofList {l : List (String × StagedEntry)} (h : (l.map fun x => key x.1).Nodup) :
    (ofList l).isEmpty = true ↔ l = [] := by
  rw [← List.length_eq_zero_iff, ← size_ofList h, isEmpty, SortedMap.isEmpty, List.isEmpty_iff,
    ← List.length_eq_zero_iff]
  rfl

/-! ## The total size -/

/-- The total is that of the entries. -/
def Sized (s : Staging) : Prop :=
  s.totalSize = s.entries.toList.foldr (fun e total => e.2.size + total) 0

theorem Sized.insert {s : Staging} (h : s.Sized) (path : String) (e : StagedEntry) :
    (s.insert path e).Sized := by
  have hsum := SortedMap.sum_insertInto StagedEntry.size s.entries.ascending (key path) e
  unfold Sized at h ⊢
  rw [← h] at hsum
  exact hsum.symm

theorem sized_ofList (l : List (String × StagedEntry)) : (ofList l).Sized := by
  have hfold : ∀ s : Staging, s.Sized → (l.foldl (fun s x => s.insert x.1 x.2) s).Sized := by
    induction l with
    | nil => exact fun s h => h
    | cons x rest ih => exact fun s h => ih _ (h.insert x.1 x.2)
  exact hfold empty rfl

/-- The lengths of all contents together. -/
def content (s : Staging) : Nat := (s.entries.toList.map fun e => e.2.length).sum

theorem content_insert_le (s : Staging) (path : String) (e : StagedEntry) :
    (s.insert path e).content ≤ s.content + e.length :=
  SortedMap.sum_insertInto_le StagedEntry.length (key path) e s.entries.toList

theorem length_le_content {s : Staging} {k : String} {e : StagedEntry}
    (h : s.entries.get? k = some e) : e.length ≤ s.content :=
  List.le_sum_of_mem (List.mem_map.2 ⟨(k, e), SortedMap.mem_toList.2 h, rfl⟩)

/-- A total that is kept right is exact if it fits 64 bits. -/
theorem Sized.toNat_totalSize {s : Staging} (h : s.Sized) (hfits : s.content < 2 ^ 64) :
    s.totalSize.toNat = s.content := by
  have hsum : ∀ l : List (String × StagedEntry), (l.map fun e => e.2.length).sum < 2 ^ 64 →
      (l.foldr (fun (e : String × StagedEntry) total => e.2.size + total) 0).toNat =
        (l.map fun e => e.2.length).sum := by
    intro l hl
    induction l with
    | nil => rfl
    | cons e rest ih =>
      rw [List.map_cons, List.sum_cons] at hl ⊢
      rw [List.foldr_cons, UInt64.toNat_add, ih (by omega), StagedEntry.toNat_size (by omega),
        Nat.mod_eq_of_lt hl]
  rw [h, hsum _ hfits]
  rfl

/-- At every insertion, what is staged already and what comes in have less than 2⁶⁴ bytes together. -/
def Fits (l : List (String × StagedEntry)) : Prop :=
  ∀ before x after, l = before ++ x :: after → (ofList before).content + x.2.length < 2 ^ 64

theorem content_ofList_le (l : List (String × StagedEntry)) :
    (ofList l).content ≤ (l.map fun x => x.2.length).sum := by
  induction l using List.reverseRecOn with
  | nil => exact Nat.le_refl _
  | append_singleton l x ih =>
    rw [ofList_concat, List.map_append, List.sum_append]
    exact (content_insert_le _ _ _).trans (Nat.add_le_add_right ih _)

theorem fits_of_sum_lt {l : List (String × StagedEntry)}
    (h : (l.map fun x => x.2.length).sum < 2 ^ 64) : Fits l := by
  rintro before x after rfl
  have hbefore := content_ofList_le before
  rw [List.map_append, List.sum_append, List.map_cons, List.sum_cons] at h
  omega

/-- What is staged after insertions that fit does. -/
theorem Fits.content_lt {l : List (String × StagedEntry)} (h : Fits l) :
    (ofList l).content < 2 ^ 64 := by
  rcases List.eq_nil_or_concat l with rfl | ⟨before, x, rfl⟩
  · exact Nat.two_pow_pos 64
  · rw [List.concat_eq_append, ofList_concat]
    exact Nat.lt_of_le_of_lt (content_insert_le _ _ _) (h before x [] (List.concat_eq_append ..))

theorem Fits.before {before after : List (String × StagedEntry)} (h : Fits (before ++ after)) :
    Fits before := by
  rintro first x rest rfl
  exact h first x (rest ++ after) (by simp)

/-- What is staged by some insertions, and its books. -/
structure Books (l : List (String × StagedEntry)) (s : Staging) : Prop where
  /-- Every key is a slash and a text without one at the front. -/
  keys : ∀ k ∈ s.entries.keys, ∃ rest, k.toList = '/' :: rest ∧ rest.head? ≠ some '/'
  ascending : s.entries.keys.Pairwise fun k k' => Utf8.encode k < Utf8.encode k'
  /-- The entry of a key is that of the last insertion whose path names it. -/
  last : ∀ k e, s.entries.get? k = some e ↔
    ∃ before path after, l = before ++ (path, e) :: after ∧ Names path k ∧
      ∀ x ∈ after, ¬ Names x.1 k
  /-- There are as many entries as distinct keys of paths. -/
  size : s.size = (l.map fun x => key x.1).dedup.length
  total : s.totalSize.toNat = s.content
  /-- Nothing was truncated: each length was added to a total with room for it, and that of a replaced
      entry was taken away from no less. -/
  room : ∀ before x after, l = before ++ x :: after →
    let t := ofList before
    t.totalSize.toNat + x.2.size.toNat < 2 ^ 64 ∧
      ∀ old, t.entries.get? (key x.1) = some old → old.size ≤ t.totalSize + x.2.size

/-- However files and symlinks replace each other, and however their paths are spelled, the books are
    right after every sequence of insertions. -/
theorem books_ofList (l : List (String × StagedEntry)) (h : Fits l) : Books l (ofList l) where
  keys := by
    intro k hk
    rw [entries_ofList, SortedMap.mem_keys_ofList, List.map_map] at hk
    obtain ⟨x, -, rfl⟩ := List.mem_map.1 hk
    obtain ⟨-, rest, -, hrest, hkey⟩ := names_key x.1
    exact ⟨rest, hkey, hrest⟩
  ascending := List.pairwise_map.2 ((ofList l).entries.ascending.imp Utf8.encode_lt)
  last := fun _ _ => get?_ofList_iff_last
  size := size_eq_dedup l
  total := (sized_ofList l).toNat_totalSize h.content_lt
  room := by
    rintro before x after rfl
    have hroom := h before x after rfl
    have htotal := (sized_ofList before).toNat_totalSize h.before.content_lt
    have hx : x.2.size.toNat = x.2.length := StagedEntry.toNat_size (by omega)
    dsimp only
    refine ⟨by omega, fun old hold => ?_⟩
    have hle := length_le_content hold
    have hold : old.size.toNat = old.length := StagedEntry.toNat_size (by omega)
    rw [UInt64.le_iff_toNat_le, UInt64.toNat_add]
    omega

/-- A file under two spellings of a path, replaced by a symlink and put back. -/
def respelled : List (String × StagedEntry) :=
  [("x", .file [1, 2, 3] none), ("//x", .symlink "y"), ("/x", .file [1] (some 0o755)),
    ("a/b", .file [] none)]

theorem books_ofList_respelled : Fits respelled ∧ Books respelled (ofList respelled) := by
  have hfits : Fits respelled := fits_of_sum_lt (by decide)
  exact ⟨hfits, books_ofList respelled hfits⟩

example : (ofList respelled).size = 2 ∧ (ofList respelled).totalSize = 1 := by decide

/-! ## Keys of places -/

/-- What stands in an image before the paths of a source, without slashes at the front. -/
def leading : ContainerPath → List Char
  | .asIs => []
  | .under base => (base.toList ++ ['/']).dropWhile (· == '/')

theorem placePath_ne_current {place : List String} (h : Tree.IsPlace place) :
    Tree.placePath place ≠ "." := by
  intro heq
  by_cases hne : place = []
  · subst hne
    exact absurd heq (by decide)
  have hsplit := congrArg (fun s => s.toList.splitOn '/') heq
  simp only [Tree.toList_placePath] at hsplit
  rw [Path.splitOn_join (by simpa using hne) fun s hs => (h.isName s hs).slash_not_mem] at hsplit
  have hdot : ['.'] ∈ place.map String.toList := hsplit ▸ by decide
  exact (h.isName _ hdot).ne_current rfl

/-- The key of a place is its path behind what stands before the source. -/
theorem key_map {place : List String} (h : Tree.IsPlace place) (c : ContainerPath) :
    (key (c.map (Tree.placePath place))).toList =
      '/' :: leading c ++ (Tree.placePath place).toList := by
  have hdrop : (Tree.placePath place).toList.dropWhile (· == '/') = (Tree.placePath place).toList := by
    rw [Tree.toList_placePath]
    exact Path.dropWhile_join fun n hn => (h.isName n hn).toIsSegment
  rw [toList_key]
  refine congrArg ('/' :: ·) ?_
  cases c with
  | asIs => exact hdrop
  | under base =>
    rw [ContainerPath.map, if_neg (placePath_ne_current h), String.toList_append,
      String.toList_append, List.dropWhile_append, hdrop]
    split
    · next hempty =>
      have hnil : leading (.under base) = [] := List.isEmpty_iff.1 hempty
      rw [hnil]
      rfl
    · rfl

theorem key_map_inj {a b : List String} (ha : Tree.IsPlace a) (hb : Tree.IsPlace b)
    (c : ContainerPath) (h : key (c.map (Tree.placePath a)) = key (c.map (Tree.placePath b))) : a = b := by
  have hlist := congrArg String.toList h
  rw [key_map ha, key_map hb, List.append_cancel_left_eq] at hlist
  exact Tree.placePath_inj ha hb (String.toList_injective hlist)

end Staging

end OciCompose
