import Admission.Proofs.File.Tree
import Admission.Rule.File

/-!
# The file at a place

Components that lead somewhere lead to a place that they determine alone, whatever directories
there are.  So what happens to the file at that place can be followed through the steps by which it
is replaced, also while the directories on the way are missing: making directories changes no file,
writing the temporary neighbour changes another file, and moving it brings its bytes.

Main definitions:

* `FileTree.fileAt?` — the bytes of the file at a place;
* `FileTree.placeOf` — the place that components determine.

Main results:

* `FileTree.fileAt?_makeDirectories`, `FileTree.fileAt?_write_temporary` — **the file stays until
  the end**;
* `FileTree.fileAt?_move` — **moving a file brings its bytes**.
-/

set_option autoImplicit false

namespace Admission.FileTree

def fileAt? (t : FileTree) (place : List String) : Option ByteArray :=
  match t.node? place with
  | some (.file bytes) => some bytes
  | _ => none

/-- The place that components lead to, if they lead anywhere. -/
def placeOf (components : List String) : List String := components.foldl follow []

section Files

variable {t u : FileTree} {place other : List String} {bytes : ByteArray}

theorem fileAt?_congr (h : t.node? place = u.node? place) : t.fileAt? place = u.fileAt? place := by
  rw [fileAt?, fileAt?, h]

theorem fileAt?_of_node? (h : t.node? place = some (.file bytes)) :
    t.fileAt? place = some bytes := by
  rw [fileAt?, h]

theorem fileAt?_put_of_ne (h : other ≠ place) (node : FileNode) :
    (t.put place node).fileAt? other = t.fileAt? other :=
  fileAt?_congr (node?_put_of_ne h)

theorem fileAt?_put_file (h : place ≠ []) :
    (t.put place (.file bytes)).fileAt? place = some bytes :=
  fileAt?_of_node? (node?_put_self h)

/-- A directory where nothing was is no file. -/
theorem fileAt?_put_directory (h : t.node? place = none) :
    (t.put place .directory).fileAt? other = t.fileAt? other := by
  have hplace : place ≠ [] := by
    rintro rfl
    cases h
  by_cases hne : other = place
  · rw [hne, fileAt?, fileAt?, node?_put_self hplace, h]
  · exact fileAt?_put_of_ne hne _

end Files

/-! ### Where components lead -/

/-- Components lead nowhere but to the place that they determine. -/
theorem eq_foldl_of_locate {t : FileTree} {origin components place : List String}
    (h : t.locate origin components = .ok place) : place = components.foldl follow origin := by
  induction components generalizing origin with
  | nil =>
      cases h
      rfl
  | cons component rest ih =>
      rw [locate] at h
      split at h
      · cases h
      · cases h
      · exact ih h

theorem eq_placeOf {t : FileTree} {components place : List String}
    (h : t.locate [] components = .ok place) : place = placeOf components :=
  eq_foldl_of_locate h

theorem placeOf_append_singleton (init : List String) (last : String) :
    placeOf (init ++ [last]) = follow (placeOf init) last := by
  rw [placeOf, placeOf, List.foldl_append, List.foldl_cons, List.foldl_nil]

theorem length_temporary (last : String) :
    (last ++ RuleFile.temporaryMark).length = last.length + 4 := String.length_append ..

/-- The name of the temporary neighbour does not lead upwards. -/
theorem temporary_ne_up (last : String) : last ++ RuleFile.temporaryMark ≠ ".." := by
  intro heq
  have hlength := length_temporary last
  have hdots : (last ++ RuleFile.temporaryMark).length = 2 := by rw [heq]; rfl
  omega

theorem temporary_ne_self (last : String) : last ++ RuleFile.temporaryMark ≠ last := by
  intro heq
  have hlength := length_temporary last
  rw [heq] at hlength
  omega

/-- The temporary neighbour is another place. -/
theorem placeOf_temporary_ne {components : List String} (h : components ≠ []) :
    placeOf (markLast RuleFile.temporaryMark components) ≠ placeOf components := by
  obtain ⟨init, last, rfl⟩ := (List.eq_nil_or_concat' components).resolve_left h
  rw [markLast_append_singleton, placeOf_append_singleton, placeOf_append_singleton, follow,
    if_neg (temporary_ne_up last), follow]
  intro heq
  split at heq
  · have hlonger := congrArg List.length heq
    rw [List.length_append, List.length_dropLast, List.length_singleton] at hlonger
    omega
  · exact temporary_ne_self last (List.singleton_inj.1 (List.append_cancel_left heq))

/-! ### What the steps of a replacement do to files -/

section Steps

variable {t u : FileTree} {components source target place : List String} {bytes : ByteArray}

/-- Making directories changes no file. -/
theorem fileAt?_makeDirectories (t : FileTree) (origin components place : List String) :
    (t.makeDirectories origin components).1.fileAt? place = t.fileAt? place := by
  induction components generalizing t origin with
  | nil => rfl
  | cons component rest ih =>
      rw [makeDirectories]
      split
      · exact ih t _
      · rfl
      · next hnone => rw [ih, fileAt?_put_directory hnone]

/-- Making directories keeps those that are there. -/
theorem makeDirectories_keepsDirectories (t : FileTree) (origin components : List String) :
    KeepsDirectories t (t.makeDirectories origin components).1 := by
  induction components generalizing t origin with
  | nil => exact fun _ h => h
  | cons component rest ih =>
      rw [makeDirectories]
      split
      · exact ih t _
      · exact fun _ h => h
      · next hnone => exact (put_keepsDirectories (by simp [hnone]) _).trans (ih _ _)

/-- What writing does, when it goes through. -/
theorem write_spec (h : t.write components bytes = .ok u) :
    t.locate [] components = .ok (placeOf components) ∧
      t.node? (placeOf components) ≠ some .directory ∧
      u = t.put (placeOf components) (.file bytes) := by
  rw [write] at h
  split at h
  · cases h
  · next place hplace =>
      obtain rfl := eq_placeOf hplace
      split at h
      · cases h
      · next hnot =>
          cases h
          exact ⟨hplace, hnot, rfl⟩

theorem fileAt?_write (h : t.write components bytes = .ok u) :
    u.fileAt? (placeOf components) = some bytes := by
  obtain ⟨-, hnot, rfl⟩ := write_spec h
  exact fileAt?_put_file (ne_nil_of_node?_ne hnot)

theorem write_keepsDirectories (h : t.write components bytes = .ok u) : KeepsDirectories t u := by
  obtain ⟨-, hnot, rfl⟩ := write_spec h
  exact put_keepsDirectories hnot _

/-- Nothing is written where no components lead, which is the top. -/
theorem write_nil (t : FileTree) (bytes : ByteArray) :
    t.write [] bytes = .error .isDirectory := rfl

/-- Writing the temporary neighbour leaves the file alone. -/
theorem fileAt?_write_temporary
    (h : t.write (markLast RuleFile.temporaryMark components) bytes = .ok u) :
    u.fileAt? (placeOf components) = t.fileAt? (placeOf components) := by
  have hne : components ≠ [] := by
    rintro rfl
    rw [markLast, write_nil] at h
    cases h
  obtain ⟨-, -, rfl⟩ := write_spec h
  exact fileAt?_put_of_ne (placeOf_temporary_ne hne).symm _

theorem fileAt?_of_read (h : t.read components = .ok bytes) :
    t.fileAt? (placeOf components) = some bytes := by
  obtain ⟨place, hplace, hfile⟩ := exists_place_of_read h
  obtain rfl := eq_placeOf hplace
  exact fileAt?_of_node? hfile

/-- A file can be read when its components lead somewhere. -/
theorem read_of_fileAt? (hlocate : t.locate [] components = .ok place)
    (h : t.fileAt? (placeOf components) = some bytes) : t.read components = .ok bytes := by
  obtain rfl := eq_placeOf hlocate
  rw [fileAt?] at h
  split at h
  · next found hfound =>
      cases h
      exact read_of_locate hlocate hfound
  · cases h

/-- What moving does, when it goes through. -/
theorem move_spec (h : t.move source target = .ok u) :
    ∃ bytes, t.read source = .ok bytes ∧ t.locate [] target = .ok (placeOf target) ∧
      t.node? (placeOf target) ≠ some .directory ∧
      u = (t.erase (placeOf source)).put (placeOf target) (.file bytes) := by
  rw [move] at h
  split at h
  · next bytes sourcePlace targetPlace hread hsource htarget =>
      obtain rfl := eq_placeOf hsource
      obtain rfl := eq_placeOf htarget
      split at h
      · cases h
      · next hnot =>
          cases h
          exact ⟨bytes, hread, htarget, hnot, rfl⟩
  · cases h
  · cases h
  · cases h

/-- Moving a file brings its bytes. -/
theorem fileAt?_move (h : t.move source target = .ok u) :
    ∃ bytes, t.fileAt? (placeOf source) = some bytes ∧
      u.fileAt? (placeOf target) = some bytes := by
  obtain ⟨bytes, hread, -, hnot, rfl⟩ := move_spec h
  exact ⟨bytes, fileAt?_of_read hread, fileAt?_put_file (ne_nil_of_node?_ne hnot)⟩

theorem move_keepsDirectories (h : t.move source target = .ok u) : KeepsDirectories t u := by
  obtain ⟨bytes, hread, -, hnot, rfl⟩ := move_spec h
  obtain ⟨place, hplace, hfile⟩ := exists_place_of_read hread
  obtain rfl := eq_placeOf hplace
  have hsource : t.node? (placeOf source) ≠ some .directory := by simp [hfile]
  refine (erase_keepsDirectories hsource).trans (put_keepsDirectories ?_ _)
  by_cases hsame : placeOf target = placeOf source
  · rw [hsame, node?_erase_self (ne_nil_of_node?_ne hsource)]
    exact nofun
  · rwa [node?_erase_of_ne hsame]

/-- The ways in which replacing a file can go. -/
theorem replaceFile_cases (t : FileTree) (temporary components : List String)
    (bytes : ByteArray) :
    (∃ prepared, t.makeDirectories [] components.dropLast = (prepared, false) ∧
        t.replaceFile temporary components bytes = (prepared, false)) ∨
      (∃ prepared e, t.makeDirectories [] components.dropLast = (prepared, true) ∧
        prepared.write temporary bytes = .error e ∧
        t.replaceFile temporary components bytes = (prepared, false)) ∨
      (∃ prepared written e, t.makeDirectories [] components.dropLast = (prepared, true) ∧
        prepared.write temporary bytes = .ok written ∧
        written.move temporary components = .error e ∧
        t.replaceFile temporary components bytes = (written, false)) ∨
      ∃ prepared written replaced, t.makeDirectories [] components.dropLast = (prepared, true) ∧
        prepared.write temporary bytes = .ok written ∧
        written.move temporary components = .ok replaced ∧
        t.replaceFile temporary components bytes = (replaced, true) := by
  cases hmade : t.makeDirectories [] components.dropLast with
  | mk prepared done =>
      cases done with
      | false => exact .inl ⟨prepared, rfl, by simp [replaceFile, hmade]⟩
      | true =>
          refine .inr ?_
          cases hwrite : prepared.write temporary bytes with
          | error e => exact .inl ⟨prepared, e, rfl, hwrite, by simp [replaceFile, hmade, hwrite]⟩
          | ok written =>
              refine .inr ?_
              cases hmove : written.move temporary components with
              | error e =>
                  exact .inl ⟨prepared, written, e, rfl, hwrite, hmove,
                    by simp [replaceFile, hmade, hwrite, hmove]⟩
              | ok replaced =>
                  exact .inr ⟨prepared, written, replaced, rfl, hwrite, hmove,
                    by simp [replaceFile, hmade, hwrite, hmove]⟩

end Steps

end Admission.FileTree
