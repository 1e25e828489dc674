import Admission.File.Path
import Admission.File.Tree
import Mathlib.Data.List.Basic

/-!
# A file that was written is read back

Where components lead depends on directories alone.  Writing a file and moving one put a file where
no directory is, and remove one from where a file is, so the components lead to the same place as
before, and the bytes that were put there are found there.

A file that is there has all its directories, so nothing but its temporary neighbour can be in the
way when it is replaced.

Main results:

* `FileTree.read_of_replaceFile` — **a file that was replaced has the new bytes**;
* `FileTree.replaceFile_of_read` — **a file that is there is replaced, unless its temporary
  neighbour is a directory**.
-/

set_option autoImplicit false

namespace Admission.FileTree

/-! ### What is at a place -/

section Nodes

variable {t u : FileTree} {place other : List String} {node : FileNode}

theorem lookup_filter_ne (entries : List (List String × FileNode)) (h : other ≠ place) :
    (entries.filter (·.1 != place)).lookup other = entries.lookup other := by
  induction entries with
  | nil => rfl
  | cons e rest ih =>
      by_cases he : e.1 = place
      · have hne : (other == e.1) = false := by simpa [he] using h
        rw [List.filter_cons_of_neg (by simp [he]), ih, List.lookup_cons, hne]
      · rw [List.filter_cons_of_pos (by simpa using he), List.lookup_cons, List.lookup_cons, ih]

theorem node?_put_self (hplace : place ≠ []) : (t.put place node).node? place = some node := by
  rw [node?, if_neg hplace, put, List.lookup_cons_self]

theorem node?_put_of_ne (h : other ≠ place) : (t.put place node).node? other = t.node? other := by
  have hne : (other == place) = false := by simpa using h
  rw [node?, node?, put, List.lookup_cons, hne, lookup_filter_ne _ h]

theorem node?_erase_of_ne (h : other ≠ place) : (t.erase place).node? other = t.node? other := by
  rw [node?, node?, erase, lookup_filter_ne _ h]

theorem node?_erase_self (hplace : place ≠ []) : (t.erase place).node? place = none := by
  rw [node?, if_neg hplace, erase, List.lookup_eq_none_iff]
  intro e he
  have hne : e.1 ≠ place := by simpa using (List.mem_filter.1 he).2
  simpa using hne.symm

/-- The top is a directory. -/
theorem ne_nil_of_node?_ne (h : t.node? place ≠ some .directory) : place ≠ [] := by
  rintro rfl
  exact h rfl

/-! ### Where components lead -/

/-- Every directory of the first tree is one of the second. -/
def KeepsDirectories (t u : FileTree) : Prop :=
  ∀ place, t.node? place = some .directory → u.node? place = some .directory

theorem KeepsDirectories.trans {v : FileTree} (h : KeepsDirectories t u)
    (h' : KeepsDirectories u v) : KeepsDirectories t v :=
  fun place hplace => h' place (h place hplace)

theorem put_keepsDirectories (h : t.node? place ≠ some .directory) (node : FileNode) :
    KeepsDirectories t (t.put place node) := by
  intro other hother
  have hne : other ≠ place := by
    rintro rfl
    exact h hother
  rwa [node?_put_of_ne hne]

theorem erase_keepsDirectories (h : t.node? place ≠ some .directory) :
    KeepsDirectories t (t.erase place) := by
  intro other hother
  have hne : other ≠ place := by
    rintro rfl
    exact h hother
  rwa [node?_erase_of_ne hne]

/-- Components lead to the same place where no directory is missing. -/
theorem KeepsDirectories.locate {components : List String} (h : KeepsDirectories t u)
    (hplace : t.locate other components = .ok place) : u.locate other components = .ok place := by
  induction components generalizing other with
  | nil => exact hplace
  | cons component rest ih =>
      rw [FileTree.locate] at hplace ⊢
      split at hplace
      · cases hplace
      · cases hplace
      · next hdirectory =>
          rw [h other hdirectory]
          exact ih hplace

end Nodes

/-! ### Writing and moving -/

section Writing

variable {t u : FileTree} {source target components : List String} {bytes : ByteArray}

theorem read_of_locate {place : List String} (hplace : t.locate [] components = .ok place)
    (hfile : t.node? place = some (.file bytes)) : t.read components = .ok bytes := by
  rw [read, hplace]
  simp only [hfile]

/-- Where the components of a file that can be read lead. -/
theorem exists_place_of_read (h : t.read components = .ok bytes) :
    ∃ place, t.locate [] components = .ok place ∧ t.node? place = some (.file bytes) := by
  rw [read] at h
  split at h
  · cases h
  · next place hplace =>
      split at h
      · cases h
      · cases h
      · next found hfound =>
          cases h
          exact ⟨place, hplace, hfound⟩

theorem read_of_write (h : t.write components bytes = .ok u) : u.read components = .ok bytes := by
  rw [write] at h
  split at h
  · cases h
  · next place hplace =>
      split at h
      · cases h
      · next hnot =>
          cases h
          have hdirectory : t.node? place ≠ some .directory := hnot
          exact read_of_locate ((put_keepsDirectories hdirectory _).locate hplace)
            (node?_put_self (ne_nil_of_node?_ne hdirectory))

/-- A file that was moved is found at the place that it was moved to. -/
theorem read_of_move (hread : t.read source = .ok bytes) (h : t.move source target = .ok u) :
    u.read target = .ok bytes := by
  obtain ⟨sourcePlace, hsource, hfile⟩ := exists_place_of_read hread
  rw [move, hread, hsource] at h
  cases htarget : t.locate [] target with
  | error e =>
      rw [htarget] at h
      cases h
  | ok targetPlace =>
      rw [htarget] at h
      dsimp only at h
      split at h
      · cases h
      · next hnot =>
          cases h
          have hsourceFile : t.node? sourcePlace ≠ some .directory := by simp [hfile]
          have htargetFile : (t.erase sourcePlace).node? targetPlace ≠ some .directory := by
            by_cases hsame : targetPlace = sourcePlace
            · rw [hsame, node?_erase_self (ne_nil_of_node?_ne hsourceFile)]
              exact nofun
            · rw [node?_erase_of_ne hsame]
              exact hnot
          have hkeeps := (erase_keepsDirectories hsourceFile).trans
            (put_keepsDirectories htargetFile (.file bytes))
          exact read_of_locate (hkeeps.locate htarget)
            (node?_put_self (ne_nil_of_node?_ne htargetFile))

/-- A file that was replaced by way of a temporary one has the new bytes. -/
theorem read_of_replaceFile {temporary : List String}
    (h : t.replaceFile temporary components bytes = (u, true)) : u.read components = .ok bytes := by
  rw [replaceFile] at h
  dsimp only at h
  split at h
  · split at h
    · cases h
    · next written hwrite =>
        split at h
        · cases h
        · next moved hmove =>
            cases h
            exact read_of_move (read_of_write hwrite) hmove
  · cases h

end Writing

/-! ### Replacing a file that is there -/

theorem markLast_append_singleton (mark : String) (init : List String) (last : String) :
    markLast mark (init ++ [last]) = init ++ [last ++ mark] := by
  induction init with
  | nil => rfl
  | cons first rest ih =>
      rw [List.cons_append, List.cons_append, ← ih]
      cases rest with
      | nil => rfl
      | cons => rfl

section Replacing

variable {t : FileTree} {origin components init : List String} {old bytes : ByteArray}

/-- Where components lead that end in a given one. -/
theorem locate_append_singleton_iff {component : String} {place : List String} :
    t.locate origin (init ++ [component]) = .ok place ↔
      ∃ directory, t.locate origin init = .ok directory ∧
        t.node? directory = some .directory ∧ follow directory component = place := by
  induction init generalizing origin with
  | nil =>
      rw [List.nil_append, locate, locate]
      cases hnode : t.node? origin with
      | none => simp [hnode]
      | some node => cases node <;> simp [hnode, locate]
  | cons first rest ih =>
      rw [List.cons_append, locate, locate]
      cases hnode : t.node? origin with
      | none => simp
      | some node =>
          cases node with
          | directory => exact ih
          | file bytes => simp

/-- Components that lead to a directory start in one. -/
theorem directory_of_locate {directory : List String}
    (hlocate : t.locate origin components = .ok directory)
    (hdirectory : t.node? directory = some .directory) : t.node? origin = some .directory := by
  cases components with
  | nil =>
      cases hlocate
      exact hdirectory
  | cons first rest =>
      rw [locate] at hlocate
      split at hlocate
      · cases hlocate
      · cases hlocate
      · next h => exact h

/-- Where all directories are there, none is made. -/
theorem makeDirectories_of_locate {directory : List String}
    (hlocate : t.locate origin components = .ok directory)
    (hdirectory : t.node? directory = some .directory) :
    t.makeDirectories origin components = (t, true) := by
  induction components generalizing origin with
  | nil => rfl
  | cons first rest ih =>
      have horigin := directory_of_locate hlocate hdirectory
      rw [locate, horigin] at hlocate
      rw [makeDirectories, directory_of_locate hlocate hdirectory]
      exact ih hlocate

theorem read_eq_isDirectory_iff {place : List String}
    (hplace : t.locate [] components = .ok place) :
    t.read components = .error .isDirectory ↔ t.node? place = some .directory := by
  rw [read, hplace]
  dsimp only
  split
  · next hnone => simp [hnone]
  · next hdirectory => simp [hdirectory]
  · next hfile => simp [hfile]

/-- Where no directory is in the way, a file is written. -/
theorem write_of_locate {place : List String} (hplace : t.locate [] components = .ok place)
    (hnot : t.node? place ≠ some .directory) (bytes : ByteArray) :
    t.write components bytes = .ok (t.put place (.file bytes)) := by
  rw [write, hplace]
  dsimp only
  split
  · contradiction
  · rfl

/-- Where no directory is in the way, a file is moved. -/
theorem exists_move {source place : List String} (hsource : t.read source = .ok bytes)
    (hplace : t.locate [] components = .ok place) (hnot : t.node? place ≠ some .directory) :
    ∃ u, t.move source components = .ok u := by
  obtain ⟨sourcePlace, hsourcePlace, -⟩ := exists_place_of_read hsource
  rw [move, hsource, hsourcePlace, hplace]
  dsimp only
  split
  · contradiction
  · exact ⟨_, rfl⟩

/-- A file that is there is replaced, unless its temporary neighbour is a directory. -/
theorem replaceFile_of_read (h : t.read components = .ok old) (mark : String)
    (bytes : ByteArray) :
    (t.read (markLast mark components) = .error .isDirectory ∧
        t.replaceFile (markLast mark components) components bytes = (t, false)) ∨
      (t.read (markLast mark components) ≠ .error .isDirectory ∧
        ∃ u, t.replaceFile (markLast mark components) components bytes = (u, true)) := by
  obtain ⟨place, hplace, hfile⟩ := exists_place_of_read h
  rcases List.eq_nil_or_concat' components with rfl | ⟨init, last, rfl⟩
  · cases hplace
    cases hfile
  · obtain ⟨directory, hlocate, hdirectory, -⟩ := locate_append_singleton_iff.1 hplace
    have htemporary :
        t.locate [] (init ++ [last ++ mark]) = .ok (follow directory (last ++ mark)) :=
      locate_append_singleton_iff.2 ⟨directory, hlocate, hdirectory, rfl⟩
    have hmade : t.makeDirectories [] (init ++ [last]).dropLast = (t, true) := by
      rw [List.dropLast_concat]
      exact makeDirectories_of_locate hlocate hdirectory
    rw [markLast_append_singleton, replaceFile, hmade, Ne, read_eq_isDirectory_iff htemporary]
    dsimp only
    rw [if_pos rfl]
    by_cases hway : t.node? (follow directory (last ++ mark)) = some .directory
    · exact .inl ⟨hway, by simp only [write, htemporary, hway]⟩
    · refine .inr ⟨hway, ?_⟩
      have hwrite := write_of_locate htemporary hway bytes
      have hkeeps := put_keepsDirectories hway (.file bytes)
      have hnot : (t.put (follow directory (last ++ mark)) (.file bytes)).node? place ≠
          some .directory := by
        by_cases hsame : place = follow directory (last ++ mark)
        · rw [hsame, node?_put_self (ne_nil_of_node?_ne hway)]
          exact nofun
        · rw [node?_put_of_ne hsame, hfile]
          exact nofun
      obtain ⟨u, hmove⟩ := exists_move (read_of_write hwrite) (hkeeps.locate hplace) hnot
      exact ⟨u, by rw [hwrite]; dsimp only; rw [hmove]⟩

end Replacing

end Admission.FileTree
