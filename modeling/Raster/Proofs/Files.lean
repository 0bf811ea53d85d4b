import Raster.FileTree
import Raster.Proofs.Verdict
import Mathlib

/-!
# Files that stay as they are

There are no links, so where a path leads is a matter of its names alone (`FileTree.location`); the
tree only has to have the directories on the way.  Nothing removes a directory or puts a file in its
place, and nothing changes a file but a write or a removal at its location.  So whatever is done to
other files keeps a file and the way to it (`FileTree.Keeps`), and the path by which the file was
written still names it, with the same content (`FileTree.stat_write`, `FileTree.Keeps.stat`).
-/

namespace Raster.FileTree

variable {t t' t'' : FileTree} {loc l : Location} {path : String} {data : Bytes} {node : Node}

/-! ## What is at a location -/

lemma node?_insert_of_ne (h : l ≠ loc) : (t.insert loc node).node? l = t.node? l := by
  rw [node?, node?, insert, Dictionary.get?_insert, if_neg h]

lemma node?_insert_self (h : t.node? loc ≠ some .directory) :
    (t.insert loc node).node? loc = some node := by
  rw [node?] at h ⊢
  split at h
  · exact absurd rfl h
  · next hall => rw [if_neg hall, insert, Dictionary.get?_insert, if_pos rfl]

lemma node?_erase_of_ne (h : l ≠ loc) : (t.erase loc).node? l = t.node? l := by
  rw [node?, node?, erase, Dictionary.get?_erase, if_neg h]

lemma requireDirectory_eq_ok_iff {u : Unit} :
    t.requireDirectory l = .ok u ↔ t.node? l = some .directory := by
  rw [requireDirectory]
  split <;> simp_all

/-! ## Where paths lead -/

/-- The location that a path leads to, if it leads anywhere. -/
def location (path : String) : Location := (names path).foldl descend (start path)

lemma follow_cons (t : FileTree) (loc : Location) (name : String) (rest : List String) :
    t.follow loc (name :: rest) = t.requireDirectory loc >>= fun _ => requireName name >>= fun _ =>
      t.follow (descend loc name) rest := rfl

lemma follow_append (t : FileTree) (loc : Location) (first rest : List String) :
    t.follow loc (first ++ rest) = t.follow loc first >>= fun l => t.follow l rest := by
  induction first generalizing loc with
  | nil => rfl
  | cons name first ih =>
    rw [List.cons_append, follow_cons, follow_cons, ih]
    simp only [bind_assoc]

lemma eq_of_follow {ns : List String} (h : t.follow loc ns = .ok l) :
    l = ns.foldl descend loc := by
  induction ns generalizing loc with
  | nil => exact (Except.ok.inj h).symm
  | cons name ns ih =>
    rw [follow_cons] at h
    obtain ⟨u, -, h⟩ := bind_eq_ok_iff.1 h
    obtain ⟨u', -, h⟩ := bind_eq_ok_iff.1 h
    exact ih h

lemma eq_location_of_locate (h : t.locate path = .ok loc) : loc = location path := by
  rw [locate] at h
  obtain ⟨u, -, h⟩ := bind_eq_ok_iff.1 h
  exact eq_of_follow h

lemma stat_eq_ok_iff :
    t.stat path = .ok node ↔ ∃ loc, t.locate path = .ok loc ∧ t.node? loc = some node := by
  rw [stat, bind_eq_ok_iff]
  constructor
  · rintro ⟨loc, hloc, h⟩
    refine ⟨loc, hloc, ?_⟩
    split at h
    · next hnode => rw [hnode, Except.ok.inj h]
    · cases h
  · rintro ⟨loc, hloc, hnode⟩
    refine ⟨loc, hloc, ?_⟩
    rw [hnode]
    rfl

lemma read_of_stat (h : t.stat path = .ok (.file data)) : t.read path = .ok data := by
  rw [read, h]
  rfl

/-! ## Trees that keep directories and a file -/

/-- A tree keeps the directories of an earlier one. -/
def KeepsDirectories (t t' : FileTree) : Prop :=
  ∀ l, t.node? l = some .directory → t'.node? l = some .directory

/-- What can be followed can be followed as long as the directories are there. -/
lemma KeepsDirectories.follow (h : KeepsDirectories t t') {ns : List String}
    (hl : t.follow loc ns = .ok l) : t'.follow loc ns = .ok l := by
  induction ns generalizing loc with
  | nil => exact hl
  | cons name ns ih =>
    rw [follow_cons] at hl ⊢
    obtain ⟨u, hdirectory, hl⟩ := bind_eq_ok_iff.1 hl
    obtain ⟨u', hname, hl⟩ := bind_eq_ok_iff.1 hl
    rw [requireDirectory_eq_ok_iff] at hdirectory
    refine bind_eq_ok_iff.2 ⟨u, requireDirectory_eq_ok_iff.2 (h _ hdirectory), ?_⟩
    exact bind_eq_ok_iff.2 ⟨u', hname, ih hl⟩

lemma KeepsDirectories.locate (h : KeepsDirectories t t') (hl : t.locate path = .ok l) :
    t'.locate path = .ok l := by
  rw [FileTree.locate] at hl ⊢
  obtain ⟨u, hpath, hl⟩ := bind_eq_ok_iff.1 hl
  exact bind_eq_ok_iff.2 ⟨u, hpath, h.follow hl⟩

/-- A tree keeps the directories of an earlier one, and the file at a location if there was one. -/
structure Keeps (loc : Location) (t t' : FileTree) : Prop where
  directories : KeepsDirectories t t'
  file : ∀ data, t.node? loc = some (.file data) → t'.node? loc = some (.file data)

namespace Keeps

lemma refl (loc : Location) (t : FileTree) : Keeps loc t t := ⟨fun _ h => h, fun _ h => h⟩

lemma trans (h : Keeps loc t t') (h' : Keeps loc t' t'') : Keeps loc t t'' :=
  ⟨fun l hl => h'.directories l (h.directories l hl),
    fun data hdata => h'.file data (h.file data hdata)⟩

/-- A path that names a file still names it, with the same content. -/
lemma stat (h : Keeps (location path) t t') (hs : t.stat path = .ok (.file data)) :
    t'.stat path = .ok (.file data) := by
  obtain ⟨loc, hloc, hnode⟩ := stat_eq_ok_iff.1 hs
  obtain rfl := eq_location_of_locate hloc
  exact stat_eq_ok_iff.2 ⟨_, h.directories.locate hloc, h.file data hnode⟩

end Keeps

/-! ## What the operations keep -/

lemma keepsDirectories_insert (h : t.node? l ≠ some .directory) :
    KeepsDirectories t (t.insert l node) := by
  intro l' hl'
  rw [node?_insert_of_ne, hl']
  rintro rfl
  exact h hl'

/-- Something new at another location, or where there was nothing. -/
lemma keeps_insert (h : t.node? l ≠ some .directory) (hloc : l ≠ loc ∨ t.node? l = none) :
    Keeps loc t (t.insert l node) := by
  refine ⟨keepsDirectories_insert h, fun data hdata => ?_⟩
  rw [node?_insert_of_ne, hdata]
  rintro rfl
  rcases hloc with hne | hnone
  · exact hne rfl
  · rw [hdata] at hnone
    cases hnone

lemma keeps_makeDirectoryAt (h : t.makeDirectoryAt l = .ok t') : Keeps loc t t' := by
  rw [makeDirectoryAt] at h
  split at h
  · obtain rfl := Except.ok.inj h
    exact .refl loc t
  · cases h
  · next hnone =>
    obtain rfl := Except.ok.inj h
    exact keeps_insert (by simp [hnone]) (Or.inr hnone)

lemma keeps_makeDirectories {ns : List String} (h : t.makeDirectories l ns = .ok t') :
    Keeps loc t t' := by
  induction ns generalizing t l with
  | nil => exact keeps_makeDirectoryAt h
  | cons name ns ih =>
    rw [makeDirectories] at h
    obtain ⟨t₁, hfirst, h⟩ := bind_eq_ok_iff.1 h
    obtain ⟨u, -, h⟩ := bind_eq_ok_iff.1 h
    exact (keeps_makeDirectoryAt hfirst).trans (ih h)

lemma keeps_remove (h : t.remove path = .ok t') (hne : location path ≠ loc) : Keeps loc t t' := by
  rw [remove] at h
  obtain ⟨l, hl, h⟩ := bind_eq_ok_iff.1 h
  obtain rfl := eq_location_of_locate hl
  split at h
  · next hnode =>
    obtain rfl := Except.ok.inj h
    constructor
    · intro l' hl'
      rw [node?_erase_of_ne, hl']
      rintro rfl
      rw [hnode] at hl'
      cases hl'
    · intro data hdata
      rw [node?_erase_of_ne hne.symm, hdata]
  · cases h
  · cases h

/-! ## Writing -/

/-- A path that ends in a name has no empty names at its end to pass over. -/
lemma dropWhile_reverse_names (h : (names path).getLastD "" ≠ "") :
    (names path).reverse.dropWhile (· = "") = (names path).reverse := by
  rcases List.eq_nil_or_concat (names path) with hnil | ⟨parents, last, hnames⟩
  · rw [hnil] at h
    exact absurd rfl h
  · rw [hnames] at h ⊢
    simp only [List.concat_eq_append, List.getLastD_concat] at h
    simp [h]

lemma descend_of_isFileName {name : String} (h : IsFileName name) :
    descend loc name = loc ++ [name] := by
  obtain ⟨hempty, hdot, hup⟩ := h
  rw [descend, if_neg (by simp [hempty, hdot]), if_neg hup]

/-- The place for a file is the location that its path leads to once the file is there. -/
lemma of_place_eq_ok (h : t.place path = .ok loc) :
    t.locate path = .ok loc ∧ t.node? loc ≠ some .directory := by
  rw [place] at h
  obtain ⟨u, hpath, h⟩ := bind_eq_ok_iff.1 h
  split at h
  · cases h
  · next last parents hnames =>
    obtain ⟨directory, hfollow, h⟩ := bind_eq_ok_iff.1 h
    obtain ⟨u₁, hdirectory, h⟩ := bind_eq_ok_iff.1 h
    obtain ⟨u₂, hlast, h⟩ := bind_eq_ok_iff.1 h
    obtain ⟨u₃, hname, h⟩ := bind_eq_ok_iff.1 h
    obtain ⟨u₄, hnode, h⟩ := bind_eq_ok_iff.1 h
    obtain rfl := Except.ok.inj h
    rw [require_eq_ok_iff] at hlast hnode
    -- the last name is one of a file, so the directories are led to by all names before it
    rw [dropWhile_reverse_names hlast.1] at hnames
    have hsplit : names path = parents.reverse ++ [last] := by
      rw [← List.reverse_reverse (names path), hnames, List.reverse_cons]
    rw [hsplit, List.getLastD_concat] at hlast
    refine ⟨bind_eq_ok_iff.2 ⟨u, hpath, ?_⟩, hnode⟩
    rw [hsplit, follow_append, hfollow, ok_bind, follow_cons, hdirectory, ok_bind, hname, ok_bind,
      descend_of_isFileName hlast]
    rfl

lemma exists_of_write (h : t.write path data = .ok t') :
    t.locate path = .ok (location path) ∧ t.node? (location path) ≠ some .directory ∧
      t' = t.insert (location path) (.file data) := by
  rw [write] at h
  obtain ⟨loc, hplace, h⟩ := bind_eq_ok_iff.1 h
  obtain ⟨hlocate, hnode⟩ := of_place_eq_ok hplace
  obtain rfl := eq_location_of_locate hlocate
  exact ⟨hlocate, hnode, (Except.ok.inj h).symm⟩

/-- The path of a file that was written names it, with its content. -/
lemma stat_write (h : t.write path data = .ok t') : t'.stat path = .ok (.file data) := by
  obtain ⟨hlocate, hnode, rfl⟩ := exists_of_write h
  refine stat_eq_ok_iff.2 ⟨_, ?_, node?_insert_self hnode⟩
  exact (keepsDirectories_insert hnode).locate hlocate

/-- A place for a file stays one as long as the directories are there. -/
lemma place_of_keepsDirectories (h : KeepsDirectories t t') (hplace : t.place path = .ok loc)
    (hnode : t'.node? loc ≠ some .directory) : t'.place path = .ok loc := by
  rw [place] at hplace ⊢
  obtain ⟨u, hpath, hplace⟩ := bind_eq_ok_iff.1 hplace
  refine bind_eq_ok_iff.2 ⟨u, hpath, ?_⟩
  split at hplace
  · cases hplace
  · obtain ⟨directory, hfollow, hplace⟩ := bind_eq_ok_iff.1 hplace
    obtain ⟨u₁, hdirectory, hplace⟩ := bind_eq_ok_iff.1 hplace
    obtain ⟨u₂, hlast, hplace⟩ := bind_eq_ok_iff.1 hplace
    obtain ⟨u₃, hname, hplace⟩ := bind_eq_ok_iff.1 hplace
    obtain ⟨u₄, -, hplace⟩ := bind_eq_ok_iff.1 hplace
    obtain rfl := Except.ok.inj hplace
    rw [requireDirectory_eq_ok_iff] at hdirectory
    refine bind_eq_ok_iff.2 ⟨directory, h.follow hfollow, bind_eq_ok_iff.2 ⟨u₁, ?_, ?_⟩⟩
    · exact requireDirectory_eq_ok_iff.2 (h _ hdirectory)
    refine bind_eq_ok_iff.2 ⟨u₂, hlast, bind_eq_ok_iff.2 ⟨u₃, hname, ?_⟩⟩
    exact bind_eq_ok_iff.2 ⟨u₄, require_eq_ok_iff.2 hnode, rfl⟩

/-- A file that was written can be written again. -/
lemma write_of_write (h : t.write path data = .ok t') (data' : Bytes) :
    t'.write path data' = .ok (t'.insert (location path) (.file data')) := by
  obtain ⟨hlocate, hnode, rfl⟩ := exists_of_write h
  rw [write] at h
  obtain ⟨loc, hplace, -⟩ := bind_eq_ok_iff.1 h
  obtain rfl := eq_location_of_locate (of_place_eq_ok hplace).1
  have hagain := place_of_keepsDirectories (keepsDirectories_insert hnode) hplace
    (by simp [node?_insert_self hnode] : (t.insert (location path) (.file data)).node? _ ≠ _)
  rw [write, hagain]
  rfl

lemma keeps_write (h : t.write path data = .ok t') (hne : location path ≠ loc) :
    Keeps loc t t' := by
  obtain ⟨-, hnode, rfl⟩ := exists_of_write h
  exact keeps_insert hnode (Or.inl hne)

lemma keeps_plant (h : t.plant path data = .ok t') (hne : location path ≠ loc) :
    Keeps loc t t' := by
  rw [plant] at h
  obtain ⟨t₁, hdirectories, h⟩ := bind_eq_ok_iff.1 h
  exact (keeps_makeDirectories hdirectories).trans (keeps_write h hne)

end Raster.FileTree
