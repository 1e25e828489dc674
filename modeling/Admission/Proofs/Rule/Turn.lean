import Admission.Proofs.File.Place
import Admission.Rule.Saving
import Mathlib.Data.List.Basic

/-!
# Calls that save wait in a line

No step of a call that writes asks who has the lock.  That only one call writes at a time follows
from how the lock is handed on: the calls that wait are in the line, in the order in which they were
started, and whoever has the lock was in front of all of them.

Main definitions:

* `Save.Acted` — what there is to know about a step of a call that has the lock;
* `Saver.InLine` — the line and the lock.

Main results:

* `Save.act?_acted` — **what the steps of a call do to the files**;
* `Saver.InLine.step` — **every event keeps the line in order**.
-/

set_option autoImplicit false

namespace Admission

open FileTree

namespace Save

/-! ### What a step of a call does -/

section Acts

variable {components : List String} {t u : FileTree} {c : Save} {a : Act} {stage : Stage}

/-- How many steps are left to a call, if nothing fails. -/
def Stage.remaining : Stage → Nat
  | .waiting => 5
  | .admitted => 4
  | .prepared => 3
  | .written => 2
  | .replaced => 1
  | .failed _ => 1
  | .answered _ => 0
  | .stopped => 0

/-- What a step that fails leaves. -/
theorem left?_spec {damage : Damage} (h : left? components t stage damage = some u) :
    stage.isWriting = true ∧ stage.isThrough = false ∧ 1 < stage.remaining ∧
      KeepsDirectories t u ∧
      u.fileAt? (placeOf components) = t.fileAt? (placeOf components) := by
  rw [left?.eq_def] at h
  split at h
  · cases h
    exact ⟨rfl, rfl, by decide, fun _ h => h, rfl⟩
  · cases h
    exact ⟨rfl, rfl, by decide, makeDirectories_keepsDirectories _ _ _,
      fileAt?_makeDirectories _ _ _ _⟩
  · cases h
    exact ⟨rfl, rfl, by decide, fun _ h => h, rfl⟩
  · next bytes =>
      cases hwrite : t.write (Save.temporary components) bytes with
      | error e =>
          rw [hwrite] at h
          cases h
      | ok written =>
          rw [hwrite] at h
          cases h
          exact ⟨rfl, rfl, by decide, write_keepsDirectories hwrite,
            fileAt?_write_temporary hwrite⟩
  · cases h
    exact ⟨rfl, rfl, by decide, fun _ h => h, rfl⟩
  · cases h

/-- What there is to know about a step of a call that has the lock. -/
structure Acted (components : List String) (t : FileTree) (c : Save) (a : Act) (u : FileTree)
    (stage : Stage) : Prop where
  before : c.stage.isWriting = true
  after : stage.isWriting = true
  fresh : c.stage.isThrough = false
  through : stage.isThrough = true ↔ a = .replace
  sooner : stage.remaining < c.stage.remaining
  keeps : KeepsDirectories t u
  file : a ≠ .replace → u.fileAt? (placeOf components) = t.fileAt? (placeOf components)
  temporary : stage = .written → u.fileAt? (placeOf (Save.temporary components)) = bytes? c.rules
  /-- The file is replaced by the temporary one, which was written. -/
  moved : a = .replace → c.stage = .written ∧
    u.fileAt? (placeOf components) = t.fileAt? (placeOf (Save.temporary components)) ∧
    t.locate [] components = .ok (placeOf components)

namespace Acted

theorem of_prepare (h : c.act? components t .prepare = some (u, stage)) :
    Acted components t c .prepare u stage := by
  rw [act?] at h
  split at h
  · next hadmitted =>
      cases h
      exact {
        before := by rw [hadmitted.1]; rfl
        after := rfl
        fresh := by rw [hadmitted.1]; rfl
        through := ⟨nofun, nofun⟩
        sooner := by rw [hadmitted.1]; decide
        keeps := makeDirectories_keepsDirectories _ _ _
        file := fun _ => fileAt?_makeDirectories _ _ _ _
        temporary := nofun
        moved := nofun }
  · cases h

theorem of_write (h : c.act? components t .write = some (u, stage)) :
    Acted components t c .write u stage := by
  rw [act?] at h
  split at h
  · next hprepared =>
      cases hbytes : bytes? c.rules with
      | none => simp [hbytes] at h
      | some bytes =>
          cases hwrite : t.write (Save.temporary components) bytes with
          | error e => simp [hbytes, hwrite, Except.toOption] at h
          | ok written =>
              simp only [hbytes, hwrite, Except.toOption, Option.bind_eq_bind,
                Option.bind_some, Option.pure_def, Option.some.injEq, Prod.mk.injEq] at h
              obtain ⟨rfl, rfl⟩ := h
              exact {
                before := by rw [hprepared]; rfl
                after := rfl
                fresh := by rw [hprepared]; rfl
                through := ⟨nofun, nofun⟩
                sooner := by rw [hprepared]; decide
                keeps := write_keepsDirectories hwrite
                -- the temporary neighbour is another place than the file
                file := fun _ => fileAt?_write_temporary hwrite
                temporary := fun _ => (fileAt?_write hwrite).trans hbytes.symm
                moved := nofun }
  · cases h

theorem of_replace (h : c.act? components t .replace = some (u, stage)) :
    Acted components t c .replace u stage := by
  rw [act?] at h
  split at h
  · next hwritten =>
      cases hmove : t.move (Save.temporary components) components with
      | error e => simp [hmove, Except.toOption] at h
      | ok moved =>
          simp only [hmove, Except.toOption, Option.bind_eq_bind, Option.bind_some,
            Option.pure_def, Option.some.injEq, Prod.mk.injEq] at h
          obtain ⟨rfl, rfl⟩ := h
          obtain ⟨bytes, hsource, htarget⟩ := fileAt?_move hmove
          obtain ⟨-, -, hlocate, -⟩ := move_spec hmove
          exact {
            before := by rw [hwritten]; rfl
            after := rfl
            fresh := by rw [hwritten]; rfl
            through := ⟨fun _ => rfl, fun _ => rfl⟩
            sooner := by rw [hwritten]; decide
            keeps := move_keepsDirectories hmove
            file := fun hne => absurd rfl hne
            temporary := nofun
            moved := fun _ => ⟨hwritten, htarget.trans hsource.symm, hlocate⟩ }
  · cases h

theorem of_fail {damage : Damage} {absorbed : Bool}
    (h : c.act? components t (.fail damage absorbed) = some (u, stage)) :
    Acted components t c (.fail damage absorbed) u stage := by
  rw [act?] at h
  cases hleft : left? components t c.stage damage with
  | none => simp [hleft] at h
  | some left =>
      simp only [hleft, Option.map_some, Option.some.injEq, Prod.mk.injEq] at h
      obtain ⟨rfl, rfl⟩ := h
      obtain ⟨hwriting, hthrough, hremaining, hkeeps, hfile⟩ := left?_spec hleft
      exact {
        before := hwriting
        after := rfl
        fresh := hthrough
        through := ⟨nofun, nofun⟩
        sooner := hremaining
        keeps := hkeeps
        file := fun _ => hfile
        temporary := nofun
        moved := nofun }

/-- Only the replacement of the file brings a call through. -/
theorem isThrough_eq (h : Acted components t c a u stage) (ha : a ≠ .replace) :
    stage.isThrough = c.stage.isThrough := by
  rw [h.fresh, Bool.eq_false_iff]
  exact fun hthrough => ha (h.through.1 hthrough)

end Acted

theorem act?_acted (h : c.act? components t a = some (u, stage)) :
    Acted components t c a u stage := by
  cases a with
  | prepare => exact Acted.of_prepare h
  | write => exact Acted.of_write h
  | replace => exact Acted.of_replace h
  | fail damage absorbed => exact Acted.of_fail h

/-- A call that has the lock does not wait, and has not ended in an error. -/
theorem Stage.ne_of_isWriting (h : stage.isWriting = true) :
    stage ≠ .waiting ∧ stage ≠ .stopped := by
  constructor <;> rintro rfl <;> cases h

theorem Stage.ending?_spec {last : Stage} (h : stage.ending? = some last) :
    stage.isWriting = true ∧ last.isWriting = false ∧ last.isThrough = stage.isThrough ∧
      last.isOver = true ∧ last.remaining < stage.remaining := by
  rw [ending?.eq_def] at h
  split at h <;> cases h <;> exact ⟨rfl, rfl, rfl, rfl, by decide⟩

end Acts

end Save

namespace Saver

variable {s u : Saver} {place other : Nat} {stage old : Save.Stage} {events : List Event}

/-! ### What an event does -/

section Stages

theorem lt_of_stageAt? (h : s.stageAt? place = some stage) : place < s.calls.length := by
  rw [stageAt?, Option.map_eq_some_iff] at h
  obtain ⟨c, hc, -⟩ := h
  exact (List.getElem?_eq_some_iff.1 hc).1

theorem stageAt?_of_call {c : Save} (h : s.calls[place]? = some c) :
    s.stageAt? place = some c.stage := by
  rw [stageAt?, h, Option.map_some]

theorem stageAt?_setStage_self (h : s.stageAt? place = some old) :
    (s.setStage place stage).stageAt? place = some stage := by
  rw [stageAt?, Option.map_eq_some_iff] at h
  obtain ⟨c, hc, -⟩ := h
  rw [stageAt?, setStage, List.getElem?_modify, hc]
  simp

theorem stageAt?_setStage_of_ne (h : other ≠ place) :
    (s.setStage place stage).stageAt? other = s.stageAt? other := by
  rw [stageAt?, stageAt?, setStage, List.getElem?_modify]
  simp [h.symm]

/-- The stages after one more call was started. -/
theorem stageAt?_append (s : Saver) (c : Save) (queue : List Nat) (other : Nat) :
    stageAt? { s with calls := s.calls ++ [c], queue } other =
      if other = s.calls.length then some c.stage else s.stageAt? other := by
  rw [stageAt?, stageAt?]
  split
  · next hlast => rw [hlast, List.getElem?_concat_length, Option.map_some]
  · next hne =>
      rcases Nat.lt_or_gt_of_ne hne with hlt | hgt
      · rw [List.getElem?_append_left hlt]
      · rw [List.getElem?_eq_none (by simp; omega), List.getElem?_eq_none (by omega)]

end Stages

section Steps

theorem step?_start {rules : List Rule} (h : s.step? (.start rules) = some u) :
    ((∃ bytes, Save.bytes? rules = some bytes) ∧
        u = { s with calls := s.calls ++ [⟨rules, .waiting⟩]
                     queue := s.queue ++ [s.calls.length] }) ∨
      u = { s with calls := s.calls ++ [⟨rules, .stopped⟩] } := by
  rw [step?] at h
  split at h
  · next text htext =>
      cases h
      exact .inl ⟨⟨text.toUTF8, by rw [Save.bytes?, htext]; rfl⟩, rfl⟩
  · cases h
    exact .inr rfl

theorem step?_grant (h : s.step? (.grant place) = some u) :
    s.holder = none ∧ ∃ rest, s.queue = place :: rest ∧
      u = { s.setStage place .admitted with holder := some place, queue := rest } := by
  rw [step?] at h
  split at h
  · next hfree =>
      obtain ⟨hnone, hhead⟩ := hfree
      cases h
      cases hqueue : s.queue with
      | nil => simp [hqueue] at hhead
      | cons first rest =>
          obtain rfl : first = place := by simpa [hqueue] using hhead
          exact ⟨hnone, rest, rfl, rfl⟩
  · cases h

theorem step?_act {a : Save.Act} (h : s.step? (.act place a) = some u) :
    ∃ c files stage, s.calls[place]? = some c ∧
      c.Acted s.path.components s.files a files stage ∧
      u = { s.setStage place stage with files } := by
  simp only [step?, Option.bind_eq_bind, Option.bind_eq_some_iff, Option.pure_def,
    Option.some.injEq, Prod.exists] at h
  obtain ⟨c, hc, files, stage, hact, rfl⟩ := h
  exact ⟨c, files, stage, hc, Save.act?_acted hact, rfl⟩

theorem step?_leave (h : s.step? (.leave place) = some u) :
    ∃ c stage, s.calls[place]? = some c ∧ c.stage.ending? = some stage ∧
      u = { s.setStage place stage with holder := none } := by
  simp only [step?, Option.bind_eq_bind, Option.bind_eq_some_iff, Option.pure_def,
    Option.some.injEq] at h
  obtain ⟨c, hc, stage, hending, rfl⟩ := h
  exact ⟨c, stage, hc, hending, rfl⟩

theorem step?_path {e : Event} (h : s.step? e = some u) : u.path = s.path := by
  cases e with
  | start rules => obtain ⟨-, rfl⟩ | rfl := step?_start h <;> rfl
  | grant place =>
      obtain ⟨-, rest, -, rfl⟩ := step?_grant h
      rfl
  | act place a =>
      obtain ⟨c, files, stage, -, -, rfl⟩ := step?_act h
      rfl
  | leave place =>
      obtain ⟨c, stage, -, -, rfl⟩ := step?_leave h
      rfl

theorem run?_concat {e : Event} :
    s.run? (events ++ [e]) = some u ↔ ∃ t, s.run? events = some t ∧ t.step? e = some u := by
  simp [run?, List.foldlM_append, Option.bind_eq_some_iff]

theorem run?_append {t : Saver} {more : List Event} (h : s.run? events = some t)
    (hmore : t.run? more = some u) : s.run? (events ++ more) = some u := by
  rw [run?] at h hmore ⊢
  rw [List.foldlM_append, h]
  exact hmore

end Steps

/-! ### The line -/

/-- The calls that wait are in the line, in the order in which they were started; the one that has
the lock was started before all of them, and nobody else writes. -/
structure InLine (s : Saver) : Prop where
  sorted : s.queue.Pairwise (· < ·)
  queued : ∀ i, i ∈ s.queue ↔ s.stageAt? i = some .waiting
  held : ∀ i, s.holder = some i ↔ ∃ stage, s.stageAt? i = some stage ∧ stage.isWriting = true
  first : ∀ i, s.holder = some i → ∀ j ∈ s.queue, i < j

theorem idle_inLine (path : Path) (files : FileTree) : (idle path files).InLine := by
  constructor <;> simp [idle, stageAt?]

namespace InLine

/-- A call that joins the line. -/
theorem join {c : Save} (h : s.InLine) (hc : c.stage = .waiting) :
    InLine { s with calls := s.calls ++ [c], queue := s.queue ++ [s.calls.length] } := by
  have hstage := stageAt?_append s c (s.queue ++ [s.calls.length])
  have hlt : ∀ i stage, s.stageAt? i = some stage → i ≠ s.calls.length :=
    fun i stage hi => Nat.ne_of_lt (lt_of_stageAt? hi)
  constructor
  · refine List.pairwise_append.2 ⟨h.sorted, List.pairwise_singleton .., ?_⟩
    intro i hi j hj
    obtain rfl := List.mem_singleton.1 hj
    exact lt_of_stageAt? ((h.queued i).1 hi)
  · intro i
    rw [hstage, List.mem_append, h.queued, List.mem_singleton, hc]
    split <;> simp_all
  · intro i
    rw [hstage, hc]
    split
    · next hi =>
        subst hi
        simp only [Option.some.injEq, exists_eq_left', Save.Stage.isWriting, Bool.false_eq_true,
          iff_false]
        -- the new call cannot hold the lock, as whoever holds it was there before
        intro hholder
        obtain ⟨stage, hlast, -⟩ := (h.held _).1 hholder
        exact hlt _ _ hlast rfl
    · exact h.held i
  · intro i hi j hj
    rcases List.mem_append.1 hj with hj | hj
    · exact h.first i hi j hj
    · obtain ⟨stage, hstage, -⟩ := (h.held i).1 hi
      rw [List.mem_singleton.1 hj]
      exact lt_of_stageAt? hstage

/-- A call that ends before it comes to the line. -/
theorem turnAway {c : Save} (h : s.InLine) (hc : c.stage = .stopped) :
    InLine { s with calls := s.calls ++ [c] } := by
  have hstage := stageAt?_append s c s.queue
  have hlast : s.stageAt? s.calls.length = none := by
    rw [stageAt?, List.getElem?_eq_none (Nat.le_refl _), Option.map_none]
  refine ⟨h.sorted, ?_, ?_, h.first⟩
  · intro i
    rw [hstage, h.queued, hc]
    split
    · next hi => simp [hi, hlast]
    · rfl
  · intro i
    rw [hstage, hc]
    split
    · next hi =>
        rw [h.held, hi, hlast]
        simp [Save.Stage.isWriting]
    · exact h.held i

/-- The call that is first in the line gets the lock. -/
theorem grant {rest : List Nat} (h : s.InLine) (hfree : s.holder = none)
    (hqueue : s.queue = place :: rest) :
    InLine { s.setStage place .admitted with holder := some place, queue := rest } := by
  have hsorted := h.sorted
  rw [hqueue, List.pairwise_cons] at hsorted
  have hwaiting : s.stageAt? place = some .waiting := (h.queued place).1 (by simp [hqueue])
  -- the lock is free, so nobody writes
  have hnobody : ∀ i stage, s.stageAt? i = some stage → stage.isWriting = false := by
    intro i stage hi
    by_contra hwriting
    have hholder := (h.held i).2 ⟨stage, hi, by simpa using hwriting⟩
    rw [hfree] at hholder
    cases hholder
  have hself : (s.setStage place .admitted).stageAt? place = some .admitted :=
    stageAt?_setStage_self hwaiting
  constructor
  · exact hsorted.2
  · intro i
    change i ∈ rest ↔ (s.setStage place .admitted).stageAt? i = _
    by_cases hi : i = place
    · subst hi
      simp only [hself, Option.some.injEq, reduceCtorEq, iff_false]
      exact fun hmem => Nat.lt_irrefl i (hsorted.1 i hmem)
    · rw [stageAt?_setStage_of_ne hi, ← h.queued, hqueue, List.mem_cons]
      simp [hi]
  · intro i
    change some place = some i ↔ ∃ stage, (s.setStage place .admitted).stageAt? i = _ ∧ _
    by_cases hi : i = place
    · subst hi
      simp [hself, Save.Stage.isWriting]
    · rw [stageAt?_setStage_of_ne hi]
      refine ⟨fun heq => absurd (Option.some.inj heq).symm hi, ?_⟩
      rintro ⟨stage, hstage, hwriting⟩
      rw [hnobody i stage hstage] at hwriting
      cases hwriting
  · intro i hi j hj
    obtain rfl := Option.some.inj hi
    exact hsorted.1 j hj

/-- The line stays as it is when a call that has the lock comes to a stage. -/
theorem queued_setStage (h : s.InLine) (hold : s.stageAt? place = some old)
    (hbefore : old.isWriting = true) (hafter : stage ≠ .waiting) (i : Nat) :
    i ∈ s.queue ↔ (s.setStage place stage).stageAt? i = some .waiting := by
  by_cases hi : i = place
  · subst hi
    rw [h.queued, hold, stageAt?_setStage_self hold]
    simp [(Save.Stage.ne_of_isWriting hbefore).1, hafter]
  · rw [stageAt?_setStage_of_ne hi, h.queued]

/-- The call that has the lock goes on. -/
theorem work (h : s.InLine) (hold : s.stageAt? place = some old) (hbefore : old.isWriting = true)
    (hafter : stage.isWriting = true) (files : FileTree) :
    InLine { s.setStage place stage with files } := by
  have hqueued := h.queued_setStage hold hbefore (Save.Stage.ne_of_isWriting hafter).1
  refine ⟨h.sorted, hqueued, ?_, h.first⟩
  · intro i
    change s.holder = some i ↔ ∃ stage', (s.setStage place stage).stageAt? i = _ ∧ _
    by_cases hi : i = place
    · subst hi
      rw [h.held, hold, stageAt?_setStage_self hold]
      simp [hbefore, hafter]
    · rw [stageAt?_setStage_of_ne hi, h.held]

/-- The call that has the lock lets go of it. -/
theorem leave (h : s.InLine) (hold : s.stageAt? place = some old) (hbefore : old.isWriting = true)
    (hafter : stage.isWriting = false) (hover : stage.isOver = true) :
    InLine { s.setStage place stage with holder := none } := by
  have hholder : s.holder = some place := (h.held place).2 ⟨old, hold, hbefore⟩
  have hwaits : stage ≠ .waiting := by
    rintro rfl
    cases hover
  refine ⟨h.sorted, h.queued_setStage hold hbefore hwaits, ?_, nofun⟩
  · intro i
    change none = some i ↔ ∃ stage', (s.setStage place stage).stageAt? i = _ ∧ _
    refine ⟨nofun, ?_⟩
    rintro ⟨stage', hstage', hwriting⟩
    by_cases hi : i = place
    · subst hi
      rw [stageAt?_setStage_self hold] at hstage'
      cases hstage'
      rw [hafter] at hwriting
      cases hwriting
    · rw [stageAt?_setStage_of_ne hi] at hstage'
      have hsame := (h.held i).2 ⟨stage', hstage', hwriting⟩
      rw [hholder] at hsame
      exact absurd (Option.some.inj hsame).symm hi

theorem step {e : Event} (h : s.InLine) (hstep : s.step? e = some u) : u.InLine := by
  cases e with
  | start rules =>
      obtain ⟨-, rfl⟩ | rfl := step?_start hstep
      · exact h.join rfl
      · exact h.turnAway rfl
  | grant place =>
      obtain ⟨hfree, rest, hqueue, rfl⟩ := step?_grant hstep
      exact h.grant hfree hqueue
  | act place a =>
      obtain ⟨c, files, stage, hc, hacted, rfl⟩ := step?_act hstep
      exact h.work (stageAt?_of_call hc) hacted.before hacted.after files
  | leave place =>
      obtain ⟨c, stage, hc, hending, rfl⟩ := step?_leave hstep
      obtain ⟨hbefore, hafter, -, hover, -⟩ := Save.Stage.ending?_spec hending
      exact h.leave (stageAt?_of_call hc) hbefore hafter hover

end InLine

end Saver

end Admission
