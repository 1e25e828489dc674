import Admission.Proofs.File.Place
import Mathlib.Data.List.Infix

/-!
# When a file is replaced, and what else changes

Ordinary components, of which none leads upwards, are the place that they lead to, and the places on
the way are their beginnings.  Directories are made until a file is in the way.  If none is, the way
leads to the place and to its temporary neighbour, and then only a directory at one of the two can
stop what follows.  So whether a file is replaced can be said of the tree as it was before, and
every place but the two is as it was, or a directory on the way that was missing.

Main definitions:

* `FileTree.Blocks` — a file is in the way;
* `FileTree.Prepared` — nothing but directories on the way has been added.

Main results:

* `FileTree.makeDirectories_eq_true_iff`, `FileTree.makeDirectories_prepared` — what making
  directories comes to;
* `FileTree.replaceFile_spec` — the ways in which replacing a file ends;
* `RuleFile.save_spec` — **when rules are saved, and what saving leaves**.
-/

set_option autoImplicit false

namespace Admission

namespace FileTree

/-! ### Ordinary components -/

theorem follow_of_ne {component : String} (h : component ≠ "..") (place : List String) :
    follow place component = place ++ [component] := if_neg h

def OnTheWay (place target : List String) : Prop := place <+: target ∧ place ≠ target

/-- A file is in the way. -/
def Blocks (t : FileTree) (target : List String) : Prop :=
  ∃ place bytes, OnTheWay place target ∧ t.node? place = some (.file bytes)

theorem not_blocks_iff {t : FileTree} {target : List String} :
    ¬t.Blocks target ↔ ∀ place, place <+: target → place ≠ target →
      ∀ bytes, t.node? place ≠ some (.file bytes) := by
  rw [Blocks]
  push Not
  exact ⟨fun h place hway hne bytes => h place bytes ⟨hway, hne⟩,
    fun h place bytes hway => h place hway.1 hway.2 bytes⟩

section Ways

variable {t u : FileTree} {origin components place : List String}

/-- Where all places on the way are directories, components lead to themselves. -/
theorem locate_of_directories (hordinary : ".." ∉ components)
    (h : ∀ front, OnTheWay front components → t.node? (origin ++ front) = some .directory) :
    t.locate origin components = .ok (origin ++ components) := by
  induction components generalizing origin with
  | nil => rw [locate, List.append_nil]
  | cons component rest ih =>
      rw [List.mem_cons, not_or] at hordinary
      have horigin := h [] ⟨List.nil_prefix, (List.cons_ne_nil component rest).symm⟩
      rw [List.append_nil] at horigin
      have hrest : ∀ front, OnTheWay front rest →
          t.node? (origin ++ [component] ++ front) = some .directory := by
        rintro front ⟨hfront, hne⟩
        have hlonger : OnTheWay (component :: front) (component :: rest) :=
          ⟨(List.prefix_cons_inj component).2 hfront, fun heq => hne (List.cons.inj heq).2⟩
        simpa using h (component :: front) hlonger
      rw [locate, horigin]
      dsimp only
      rw [follow_of_ne (Ne.symm hordinary.1), ih hordinary.2 hrest, List.append_assoc]
      rfl

/-! ### Making directories -/

/-- The second tree is the first one with directories at some of the places where nothing was. -/
def Prepared (places : List String → Prop) (t u : FileTree) : Prop :=
  ∀ place, u.node? place = t.node? place ∨
    t.node? place = none ∧ u.node? place = some .directory ∧ places place

theorem Prepared.refl (places : List String → Prop) (t : FileTree) : Prepared places t t :=
  fun _ => .inl rfl

theorem Prepared.mono {places others : List String → Prop} (h : Prepared places t u)
    (hplaces : ∀ place, places place → others place) : Prepared others t u :=
  fun place => (h place).imp_right fun ⟨hnone, hmade, hplace⟩ =>
    ⟨hnone, hmade, hplaces place hplace⟩

theorem Prepared.trans {places : List String → Prop} {v : FileTree} (h : Prepared places t u)
    (h' : Prepared places u v) : Prepared places t v := by
  intro place
  rcases h place with hsame | ⟨hnone, hmade, hplace⟩
  · rcases h' place with hsame' | ⟨hnone, hmade, hplace⟩
    · exact .inl (hsame'.trans hsame)
    · exact .inr ⟨hsame ▸ hnone, hmade, hplace⟩
  · rcases h' place with hsame' | ⟨hnone', -, -⟩
    · exact .inr ⟨hnone, hsame'.trans hmade, hplace⟩
    · rw [hmade] at hnone'
      cases hnone'

theorem Prepared.node?_eq {places : List String → Prop} (h : Prepared places t u)
    (hplace : ¬places place) : u.node? place = t.node? place := by
  rcases h place with hsame | ⟨-, -, hmade⟩
  · exact hsame
  · exact absurd hmade hplace

theorem Prepared.put {places : List String → Prop} (hnone : t.node? place = none)
    (hplace : places place) : Prepared places t (t.put place .directory) := by
  intro other
  by_cases hsame : other = place
  · subst hsame
    have hne : other ≠ [] := by
      rintro rfl
      cases hnone
    exact .inr ⟨hnone, node?_put_self hne, hplace⟩
  · exact .inl (node?_put_of_ne hsame)

/-- Only directories on the way are made. -/
theorem makeDirectories_prepared (hordinary : ".." ∉ components) :
    Prepared (· <+: origin ++ components) t (t.makeDirectories origin components).1 := by
  induction components generalizing t origin with
  | nil => exact .refl _ t
  | cons component rest ih =>
      rw [List.mem_cons, not_or] at hordinary
      have hway : origin ++ component :: rest = origin ++ [component] ++ rest := by simp
      rw [makeDirectories, follow_of_ne (Ne.symm hordinary.1), hway]
      split
      · exact ih hordinary.2
      · exact .refl _ t
      · next hnone =>
          have hnext : Prepared (· <+: origin ++ [component] ++ rest) t
              (t.put (origin ++ [component]) .directory) :=
            .put hnone (List.prefix_append _ rest)
          exact hnext.trans (ih hordinary.2)

/-- Directories can be made unless a file is in the way. -/
theorem makeDirectories_eq_true_iff (hordinary : ".." ∉ components) :
    (t.makeDirectories origin components).2 = true ↔
      ∀ front, front <+: components → front ≠ [] →
        ∀ bytes, t.node? (origin ++ front) ≠ some (.file bytes) := by
  induction components generalizing t origin with
  | nil =>
      refine iff_of_true rfl fun front hfront hne => ?_
      exact absurd (List.prefix_nil.1 hfront) hne
  | cons component rest ih =>
      rw [List.mem_cons, not_or] at hordinary
      -- what is in the way is at the next place or behind it
      have hsplit : (∀ front, front <+: component :: rest → front ≠ [] →
            ∀ bytes, t.node? (origin ++ front) ≠ some (.file bytes)) ↔
          (∀ bytes, t.node? (origin ++ [component]) ≠ some (.file bytes)) ∧
            ∀ front, front <+: rest → front ≠ [] →
              ∀ bytes, t.node? (origin ++ [component] ++ front) ≠ some (.file bytes) := by
        constructor
        · intro h
          refine ⟨h [component] (by simp) (List.cons_ne_nil _ _), fun front hfront _ => ?_⟩
          simpa using h (component :: front) ((List.prefix_cons_inj component).2 hfront)
            (List.cons_ne_nil _ _)
        · rintro ⟨hnext, hbehind⟩ front hfront hne
          obtain ⟨behind, rfl, hrest⟩ := (List.prefix_cons_iff.1 hfront).resolve_left hne
          cases behind with
          | nil => exact hnext
          | cons second others =>
              simpa using hbehind (second :: others) hrest (List.cons_ne_nil _ _)
      rw [makeDirectories, follow_of_ne (Ne.symm hordinary.1), hsplit]
      split
      · next hdirectory =>
          rw [ih hordinary.2, hdirectory]
          exact ⟨fun h => ⟨by simp, h⟩, fun h => h.2⟩
      · next bytes hfile =>
          exact iff_of_false Bool.false_ne_true fun h => h.1 bytes hfile
      · next hnone =>
          have hkept : ∀ front, front ≠ [] →
              (t.put (origin ++ [component]) .directory).node? (origin ++ [component] ++ front) =
                t.node? (origin ++ [component] ++ front) := by
            intro front hne
            refine node?_put_of_ne fun heq => hne ?_
            exact List.append_cancel_left (heq.trans (List.append_nil _).symm)
          rw [ih hordinary.2, hnone]
          constructor
          · intro h
            refine ⟨by simp, fun front hfront hne => ?_⟩
            rw [← hkept front hne]
            exact h front hfront hne
          · intro h front hfront hne
            rw [hkept front hne]
            exact h.2 front hfront hne

/-- When directories were made, all places on the way are directories. -/
theorem directory_of_makeDirectories (hordinary : ".." ∉ components)
    (horigin : t.node? origin = some .directory)
    (h : t.makeDirectories origin components = (u, true)) :
    ∀ front, front <+: components → u.node? (origin ++ front) = some .directory := by
  induction components generalizing t origin with
  | nil =>
      cases h
      intro front hfront
      rw [List.prefix_nil.1 hfront, List.append_nil]
      exact horigin
  | cons component rest ih =>
      rw [List.mem_cons, not_or] at hordinary
      have hkept := makeDirectories_keepsDirectories t origin (component :: rest)
      rw [h] at hkept
      rw [makeDirectories, follow_of_ne (Ne.symm hordinary.1)] at h
      intro front hfront
      rcases List.prefix_cons_iff.1 hfront with rfl | ⟨behind, rfl, hbehind⟩
      · rw [List.append_nil]
        exact hkept origin horigin
      · have hway : origin ++ component :: behind = origin ++ [component] ++ behind := by simp
        rw [hway]
        split at h
        · next hdirectory => exact ih hordinary.2 hdirectory h behind hbehind
        · cases h
        · next hnone =>
            exact ih hordinary.2 (node?_put_self (by simp)) h behind hbehind

end Ways

/-! ### Replacing a file -/

/-- The places on the way to what is in a directory are the beginnings of the directory. -/
theorem onTheWay_concat_iff {place init : List String} {last : String} :
    OnTheWay place (init ++ [last]) ↔ place <+: init := by
  rw [OnTheWay, List.prefix_concat_iff]
  constructor
  · rintro ⟨rfl | hplace, hne⟩
    · exact absurd rfl hne
    · exact hplace
  · intro hplace
    refine ⟨.inr hplace, ?_⟩
    rintro rfl
    have hlength := hplace.length_le
    rw [List.length_append, List.length_singleton] at hlength
    omega

/-- The ways in which replacing a file ends, by way of a temporary one and with directories made on
the way. -/
inductive Replaces (t : FileTree) (temporary place : List String) (bytes : ByteArray) :
    FileTree → Bool → Prop where
  /-- A file is in the way. -/
  | blocked {u : FileTree} (hblocks : t.Blocks place) (hu : Prepared (OnTheWay · place) t u) :
      Replaces t temporary place bytes u false
  /-- The temporary file cannot be written. -/
  | refused {u : FileTree} (hblocks : ¬t.Blocks place)
      (htemporary : t.node? temporary = some .directory) (hu : Prepared (OnTheWay · place) t u) :
      Replaces t temporary place bytes u false
  /-- The temporary file cannot be moved. -/
  | stuck {prepared : FileTree} (hblocks : ¬t.Blocks place)
      (htemporary : t.node? temporary ≠ some .directory) (hplace : t.node? place = some .directory)
      (hprepared : Prepared (OnTheWay · place) t prepared) :
      Replaces t temporary place bytes (prepared.put temporary (.file bytes)) false
  /-- The file is replaced. -/
  | replaced {prepared : FileTree} (hblocks : ¬t.Blocks place)
      (htemporary : t.node? temporary ≠ some .directory) (hplace : t.node? place ≠ some .directory)
      (hprepared : Prepared (OnTheWay · place) t prepared) :
      Replaces t temporary place bytes
        (((prepared.put temporary (.file bytes)).erase temporary).put place (.file bytes)) true

section Replacing

variable {t u : FileTree} {init : List String} {last name : String} {bytes : ByteArray}
  {done : Bool}

/-- A file is in the way exactly when not all directories can be made. -/
theorem blocks_iff (hinit : ".." ∉ init) :
    t.Blocks (init ++ [last]) ↔ (t.makeDirectories [] init).2 = false := by
  rw [← Bool.not_eq_true, makeDirectories_eq_true_iff hinit]
  constructor
  · rintro ⟨place, found, hway, hfile⟩ h
    have hne : place ≠ [] := by
      rintro rfl
      cases hfile
    exact h place (onTheWay_concat_iff.1 hway) hne found hfile
  · intro h
    push Not at h
    obtain ⟨front, hfront, -, found, hfile⟩ := h
    exact ⟨front, found, onTheWay_concat_iff.2 hfront, hfile⟩

/-- Two places in one directory are not on the way to each other. -/
theorem not_onTheWay_concat : ¬OnTheWay (init ++ [name]) (init ++ [last]) := by
  rw [onTheWay_concat_iff]
  intro h
  have hlength := h.length_le
  rw [List.length_append, List.length_singleton] at hlength
  omega

/-- **The ways in which replacing a file ends are told by the tree as it was before.** -/
theorem replaceFile_spec (hinit : ".." ∉ init) (hlast : last ≠ "..") (hname : name ≠ "..")
    (hne : name ≠ last)
    (h : t.replaceFile (init ++ [name]) (init ++ [last]) bytes = (u, done)) :
    Replaces t (init ++ [name]) (init ++ [last]) bytes u done := by
  have hprepared : Prepared (OnTheWay · (init ++ [last])) t (t.makeDirectories [] init).1 :=
    (makeDirectories_prepared hinit).mono fun _ => onTheWay_concat_iff.2
  have hblocks : t.Blocks (init ++ [last]) ↔ (t.makeDirectories [] init).2 = false :=
    blocks_iff hinit
  rw [replaceFile, List.dropLast_concat] at h
  rcases hmade : t.makeDirectories [] init with ⟨prepared, made⟩
  rw [hmade] at h hprepared hblocks
  cases made with
  | false =>
      cases h
      exact .blocked (hblocks.2 rfl) hprepared
  | true =>
      have hclear : ¬t.Blocks (init ++ [last]) := mt hblocks.1 (by simp)
      have hroot : t.node? [] = some .directory := rfl
      have hdirectories := directory_of_makeDirectories hinit hroot hmade
      -- the way leads to every place in the directory
      have hlocate : ∀ component, component ≠ ".." →
          prepared.locate [] (init ++ [component]) = .ok (init ++ [component]) := by
        intro component hcomponent
        refine locate_of_directories ?_ fun front hfront => ?_
        · rw [List.mem_append, List.mem_singleton, not_or]
          exact ⟨hinit, Ne.symm hcomponent⟩
        · exact hdirectories front (onTheWay_concat_iff.1 hfront)
      have hplace := hlocate last hlast
      have htemporary := hlocate name hname
      have hplaceNode : prepared.node? (init ++ [last]) = t.node? (init ++ [last]) :=
        hprepared.node?_eq not_onTheWay_concat
      have htemporaryNode : prepared.node? (init ++ [name]) = t.node? (init ++ [name]) :=
        hprepared.node?_eq not_onTheWay_concat
      by_cases hrefused : t.node? (init ++ [name]) = some .directory
      · simp only [if_true, write, htemporary, htemporaryNode, hrefused] at h
        cases h
        exact .refused hclear hrefused hprepared
      · have hwrite : prepared.write (init ++ [name]) bytes =
            .ok (prepared.put (init ++ [name]) (.file bytes)) :=
          write_of_locate htemporary (htemporaryNode ▸ hrefused) bytes
        have hkeeps := write_keepsDirectories hwrite
        have hother : init ++ [last] ≠ init ++ [name] := by
          intro heq
          exact hne (List.singleton_inj.1 (List.append_cancel_left heq)).symm
        have hnode : (prepared.put (init ++ [name]) (.file bytes)).node? (init ++ [last]) =
            t.node? (init ++ [last]) := (node?_put_of_ne hother).trans hplaceNode
        by_cases hstuck : t.node? (init ++ [last]) = some .directory
        · simp only [if_true, hwrite, move, read_of_write hwrite, hkeeps.locate htemporary,
            hkeeps.locate hplace, hnode, hstuck] at h
          cases h
          exact .stuck hclear hrefused hstuck hprepared
        · have hmove : (prepared.put (init ++ [name]) (.file bytes)).move (init ++ [name])
              (init ++ [last]) = .ok (((prepared.put (init ++ [name]) (.file bytes)).erase
                (init ++ [name])).put (init ++ [last]) (.file bytes)) := by
            rw [move, read_of_write hwrite, hkeeps.locate htemporary, hkeeps.locate hplace]
            dsimp only
            rw [hnode]
            split
            · contradiction
            · rfl
          simp only [if_true, hwrite, hmove] at h
          cases h
          exact .replaced hclear hrefused hstuck hprepared

end Replacing

/-! ### What the ways have in common -/

namespace Replaces

variable {t u : FileTree} {temporary place : List String} {bytes : ByteArray} {done : Bool}

/-- A file is replaced unless a file is in the way or a directory is at one of the two places. -/
theorem done_iff (h : Replaces t temporary place bytes u done) :
    done = true ↔ ¬t.Blocks place ∧ t.node? place ≠ some .directory ∧
      t.node? temporary ≠ some .directory := by
  cases h with
  | blocked hblocks => exact iff_of_false Bool.false_ne_true fun h => h.1 hblocks
  | refused _ htemporary => exact iff_of_false Bool.false_ne_true fun h => h.2.2 htemporary
  | stuck _ _ hplace => exact iff_of_false Bool.false_ne_true fun h => h.2.1 hplace
  | replaced hblocks htemporary hplace => exact iff_of_true rfl ⟨hblocks, hplace, htemporary⟩

/-- Everywhere else nothing changes but that directories are made on the way. -/
theorem elsewhere (h : Replaces t temporary place bytes u done) {other : List String}
    (hplace : other ≠ place) (htemporary : other ≠ temporary) :
    u.node? other = t.node? other ∨
      t.node? other = none ∧ u.node? other = some .directory ∧ OnTheWay other place := by
  cases h with
  | blocked _ hu | refused _ _ hu => exact hu other
  | stuck _ _ _ hprepared =>
      rw [node?_put_of_ne htemporary]
      exact hprepared other
  | replaced _ _ _ hprepared =>
      rw [node?_put_of_ne hplace, node?_erase_of_ne htemporary, node?_put_of_ne htemporary]
      exact hprepared other

/-- A file that was replaced has the bytes, and the temporary one is gone. -/
theorem of_done (h : Replaces t temporary place bytes u true) (hne : temporary ≠ place)
    (htemporary : temporary ≠ []) (hplace : place ≠ []) :
    u.node? place = some (.file bytes) ∧ u.node? temporary = none := by
  cases h with
  | replaced =>
      exact ⟨node?_put_self hplace, by rw [node?_put_of_ne hne, node?_erase_self htemporary]⟩

/-- A file that was not replaced is as it was, and the temporary one too, or it has the bytes. -/
theorem of_not_done (h : Replaces t temporary place bytes u false) (hne : temporary ≠ place)
    (htemporary : temporary ≠ []) (hside : ¬OnTheWay temporary place) :
    u.node? place = t.node? place ∧
      (u.node? temporary = t.node? temporary ∨
        t.node? temporary ≠ some .directory ∧ u.node? temporary = some (.file bytes)) := by
  have hself : ¬OnTheWay place place := fun hway => hway.2 rfl
  cases h with
  | blocked _ hu | refused _ _ hu => exact ⟨hu.node?_eq hself, .inl (hu.node?_eq hside)⟩
  | stuck _ hway _ hprepared =>
      rw [node?_put_of_ne hne.symm, node?_put_self htemporary]
      exact ⟨hprepared.node?_eq hself, .inr ⟨hway, rfl⟩⟩

end Replaces

end FileTree

/-! ### Saving rules -/

namespace RuleFile

open FileTree

/-- What becomes of the rule file when rules that have a text are saved at a path of ordinary
components.  Saving goes through exactly when no proper ancestor of the path is a file and neither
the path nor its temporary neighbour is a directory.  Then the file is there with the text, and its
neighbour is gone.  Otherwise what was at the path is as it was, and the neighbour too, unless it
was overwritten.  All other files and directories stay, and no others come but directories on the
way. -/
theorem save_spec (t : FileTree) (path : Path) (hparts : path.parts ≠ [])
    (hordinary : ".." ∉ path.components) (rules : List Rule)
    (hrules : (render rules).isOk = true) :
    ∃ text, render rules = .ok text ∧ ∀ u done, save t path text = (u, done) →
      let place := path.components
      let temporary := markLast temporaryMark place
      (done = true ↔
        (∀ ancestor, ancestor <+: place → ancestor ≠ place →
            ∀ bytes, t.node? ancestor ≠ some (.file bytes)) ∧
          t.node? place ≠ some .directory ∧ t.node? temporary ≠ some .directory) ∧
        (done = true → u.read place = .ok text.toUTF8 ∧ u.node? place = some (.file text.toUTF8) ∧
          u.node? temporary = none) ∧
        (done = false → u.node? place = t.node? place ∧
          (u.node? temporary = t.node? temporary ∨
            t.node? temporary ≠ some .directory ∧
              u.node? temporary = some (.file text.toUTF8))) ∧
        ∀ other, other ≠ place → other ≠ temporary →
          u.node? other = t.node? other ∨
            t.node? other = none ∧ u.node? other = some .directory ∧ other <+: place := by
  cases hrender : render rules with
  | error fault =>
      rw [hrender] at hrules
      cases hrules
  | ok text =>
      refine ⟨text, rfl, fun u done h => ?_⟩
      have hcomponents : path.components ≠ [] := by
        rw [Path.components]
        split
        · exact hparts
        · exact List.cons_ne_nil _ _
      -- the mark goes behind the last component: the two places share all others
      obtain ⟨init, last, hsplit⟩ :=
        (List.eq_nil_or_concat' path.components).resolve_left hcomponents
      rw [hsplit, List.mem_append, List.mem_singleton, not_or] at hordinary
      rw [save, hsplit, markLast_append_singleton] at h
      rw [hsplit]
      intro place temporary
      have htemporary : temporary = init ++ [last ++ temporaryMark] :=
        markLast_append_singleton temporaryMark init last
      rw [htemporary]
      have hne : init ++ [last ++ temporaryMark] ≠ init ++ [last] := fun heq =>
        temporary_ne_self last (List.singleton_inj.1 (List.append_cancel_left heq))
      have hreplaces := replaceFile_spec hordinary.1 (Ne.symm hordinary.2) (temporary_ne_up last)
        (temporary_ne_self last) h
      refine ⟨?_, ?_, ?_, ?_⟩
      · rw [hreplaces.done_iff, not_blocks_iff]
      · rintro rfl
        have hfile := hreplaces.of_done hne (by simp) (by simp)
        exact ⟨read_of_replaceFile h, hfile⟩
      · rintro rfl
        exact hreplaces.of_not_done hne (by simp) not_onTheWay_concat
      · intro other hplace htemporary
        exact (hreplaces.elsewhere hplace htemporary).imp_right
          fun ⟨hnone, hmade, hway⟩ => ⟨hnone, hmade, hway.1⟩

/-- A file, and a directory where rules might be saved. -/
def crowdedTree : FileTree :=
  ⟨[(["notes"], .file "mine".toUTF8), (["data"], .directory), (["data", "rules.json"], .directory)]⟩

theorem save_spec_crowdedTree :
    (Path.ofText "data/new/rules.json").parts ≠ [] ∧
      ".." ∉ (Path.ofText "data/new/rules.json").components ∧
      (render [Rule.blank "a"]).isOk = true ∧
      ∃ text u, render [Rule.blank "a"] = .ok text ∧
        save crowdedTree (Path.ofText "data/new/rules.json") text = (u, true) ∧
        u.read ["data", "new", "rules.json"] = .ok text.toUTF8 ∧
        u.node? ["data", "new", "rules.json.tmp"] = none ∧
        u.node? ["notes"] = some (.file "mine".toUTF8) := by
  have hparts : (Path.ofText "data/new/rules.json").parts ≠ [] := by decide +kernel
  have hordinary : ".." ∉ (Path.ofText "data/new/rules.json").components := by decide +kernel
  have hrules : (render [Rule.blank "a"]).isOk = true := by decide +kernel
  have hplace : (Path.ofText "data/new/rules.json").components = ["data", "new", "rules.json"] := by
    decide +kernel
  obtain ⟨text, hrender, hsave⟩ :=
    save_spec crowdedTree (Path.ofText "data/new/rules.json") hparts hordinary _ hrules
  rw [hplace] at hsave
  rcases hsaved : save crowdedTree (Path.ofText "data/new/rules.json") text with ⟨u, done⟩
  obtain ⟨hiff, hdone, -, helsewhere⟩ := hsave u done hsaved
  obtain rfl : done = true := by
    refine hiff.2 ⟨fun ancestor hway hne bytes hfile => ?_, nofun, nofun⟩
    have hinits : ancestor ∈ [[], ["data"], ["data", "new"], ["data", "new", "rules.json"]] :=
      (List.mem_inits _ _).2 hway
    simp only [List.mem_cons, List.not_mem_nil, or_false] at hinits
    rcases hinits with rfl | rfl | rfl | rfl <;> cases hfile
  obtain ⟨hread, -, hgone⟩ := hdone rfl
  refine ⟨hparts, hordinary, hrules, text, u, hrender, hsaved, hread, hgone, ?_⟩
  rcases helsewhere ["notes"] (by decide) (by decide) with hsame | ⟨hnone, -, -⟩
  · exact hsame
  · cases hnone

end RuleFile

end Admission
