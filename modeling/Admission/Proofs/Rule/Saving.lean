import Admission.Proofs.Rule.Turn
import Mathlib.Algebra.Ring.Nat
import Mathlib.Data.List.Induction

/-!
# Calls that save take turns

The lock keeps the calls apart, and lets them write in the order in which they were started.  What
is in the file then only depends on which writes went through: it is the text of the last of them,
complete, and before the first of them what was there at the beginning, whatever the other calls
left half done.

Beside the line there are two invariants of every course of events: the calls that have written are
no later than the one that has the lock (`Recorded`), and the file is what the last call that is
through has written (`Kept`).

Main definitions:

* `Saver.Event.writer?`, `Saver.Event.batch?` — who writes, and what is to be saved;
* `Saver.file?` — the bytes of the file;
* `Saver.done` — the rules whose writes went through.

Main results:

* `Saver.run?_saves` — **one call at a time writes, in order, and the file is never half written**;
* `Saver.run?_completes` — **the line comes to its end, whichever steps fail**;
* `Saver.exists_run?_save` — **a call that is alone does what saving the file does**.
-/

set_option autoImplicit false

namespace Admission

open FileTree

namespace Saver

variable {s u : Saver} {place other : Nat} {stage old : Save.Stage} {events : List Event}

/-! ### Who has written -/

/-- The rules that are to be saved, when an event starts a call. -/
def Event.batch? : Event → Option (List Rule)
  | .start rules => some rules
  | _ => none

/-- The place of the call that writes, when an event is a step of one. -/
def Event.writer? : Event → Option Nat
  | .act place _ => some place
  | _ => none

theorem map_rules_setStage (s : Saver) (place : Nat) (stage : Save.Stage) :
    (s.setStage place stage).calls.map (·.rules) = s.calls.map (·.rules) := by
  refine List.ext_getElem? fun i => ?_
  rw [setStage, List.getElem?_map, List.getElem?_map, List.getElem?_modify, Option.map_eq_map,
    Option.map_map]
  congr 1
  funext c
  dsimp only [Function.comp_apply]
  split <;> rfl

/-- An event that is no step of a call adds nothing to those who write. -/
theorem writers_concat (events : List Event) {e : Event} (h : e.writer? = none) :
    (events ++ [e]).filterMap Event.writer? = events.filterMap Event.writer? := by
  simp [h]

/-- The events so far, as they show in the calls.  Nobody has written who is behind the one that has
the lock, and nobody who waits. -/
structure Recorded (events : List Event) (s : Saver) : Prop where
  batches : s.calls.map (·.rules) = events.filterMap Event.batch?
  sorted : (events.filterMap Event.writer?).Pairwise (· ≤ ·)
  bounded : ∀ j ∈ events.filterMap Event.writer?, j < s.calls.length
  behind : ∀ j ∈ events.filterMap Event.writer?, ∀ i, s.holder = some i → j ≤ i
  ahead : ∀ j ∈ events.filterMap Event.writer?, ∀ q ∈ s.queue, j < q
  through : ∀ i, (∃ stage, s.stageAt? i = some stage ∧ stage.isThrough = true) ↔
    .act i .replace ∈ events

theorem idle_recorded (path : Path) (files : FileTree) : Recorded [] (idle path files) := by
  constructor <;> simp [idle, stageAt?]

namespace Recorded

/-- A call that is through has written. -/
theorem mem_writers (h : Recorded events s) (hstage : s.stageAt? place = some stage)
    (hthrough : stage.isThrough = true) : place ∈ events.filterMap Event.writer? :=
  List.mem_filterMap.2 ⟨_, (h.through place).1 ⟨stage, hstage, hthrough⟩, rfl⟩

/-- Nobody is through who was not started. -/
theorem not_mem_of_not_started (h : Recorded events s) (hplace : s.calls.length ≤ place) :
    .act place .replace ∉ events := by
  intro hmem
  have hlt := h.bounded place (List.mem_filterMap.2 ⟨_, hmem, rfl⟩)
  omega

/-- One more call that has not come to the lock. -/
theorem start {c : Save} {queue : List Nat} (h : Recorded events s)
    (hc : c.stage.isThrough = false) (hqueue : ∀ q ∈ queue, q ∈ s.queue ∨ q = s.calls.length) :
    Recorded (events ++ [.start c.rules]) { s with calls := s.calls ++ [c], queue } := by
  have hwriters := writers_concat events (e := .start c.rules) rfl
  constructor
  · simp [h.batches, Event.batch?]
  · rw [hwriters]
    exact h.sorted
  · intro j hj
    rw [hwriters] at hj
    have hlt := h.bounded j hj
    simp only [List.length_append, List.length_singleton]
    omega
  · intro j hj i hi
    rw [hwriters] at hj
    exact h.behind j hj i hi
  · intro j hj q hq
    rw [hwriters] at hj
    rcases hqueue q hq with hq | rfl
    · exact h.ahead j hj q hq
    · exact h.bounded j hj
  · intro i
    rw [stageAt?_append, List.mem_append]
    split
    · next hi =>
        simp [hc, h.not_mem_of_not_started (Nat.le_of_eq hi.symm)]
    · simp [h.through]

/-- Who is through does not change when a call comes to a stage of the same kind. -/
theorem through_setStage (h : Recorded events s) (hold : s.stageAt? place = some old)
    (hsame : stage.isThrough = old.isThrough) (i : Nat) :
    (∃ stage', (s.setStage place stage).stageAt? i = some stage' ∧ stage'.isThrough = true) ↔
      .act i .replace ∈ events := by
  rw [← h.through]
  by_cases hi : i = place
  · subst hi
    rw [stageAt?_setStage_self hold, hold]
    simp [hsame]
  · rw [stageAt?_setStage_of_ne hi]

theorem batches_setStage {e : Event} (h : Recorded events s) (hbatch : e.batch? = none) :
    (s.setStage place stage).calls.map (·.rules) = (events ++ [e]).filterMap Event.batch? := by
  rw [map_rules_setStage, h.batches]
  simp [hbatch]

/-- A call comes to a stage without a step on the files.  Nobody joins the line, and who gets the
lock was in it. -/
theorem pass {e : Event} {holder : Option Nat} {queue : List Nat} (h : Recorded events s)
    (hbatch : e.batch? = none) (hwriter : e.writer? = none)
    (hold : s.stageAt? place = some old) (hsame : stage.isThrough = old.isThrough)
    (hqueue : ∀ q ∈ queue, q ∈ s.queue) (hholder : ∀ i, holder = some i → i ∈ s.queue) :
    Recorded (events ++ [e]) { s.setStage place stage with holder, queue } := by
  have hwriters := writers_concat events hwriter
  constructor
  · exact h.batches_setStage hbatch
  · rw [hwriters]
    exact h.sorted
  · intro j hj
    rw [hwriters] at hj
    simpa [setStage] using h.bounded j hj
  · intro j hj i hi
    rw [hwriters] at hj
    exact Nat.le_of_lt (h.ahead j hj i (hholder i hi))
  · intro j hj q hq
    rw [hwriters] at hj
    exact h.ahead j hj q (hqueue q hq)
  · intro i
    have hother : Event.act i .replace ≠ e := by
      rintro rfl
      cases hwriter
    change (∃ stage', (s.setStage place stage).stageAt? i = _ ∧ _) ↔ _
    rw [h.through_setStage hold hsame i]
    simp [hother]

theorem grant {rest : List Nat} (h : Recorded events s) (hline : s.InLine)
    (hqueue : s.queue = place :: rest) :
    Recorded (events ++ [.grant place])
      { s.setStage place .admitted with holder := some place, queue := rest } := by
  have hmem : place ∈ s.queue := by simp [hqueue]
  have hwaiting := (hline.queued place).1 hmem
  refine h.pass rfl rfl hwaiting rfl (fun q hq => by simp [hqueue, hq]) ?_
  intro i hi
  obtain rfl := Option.some.inj hi
  exact hmem

theorem act {c : Save} {a : Save.Act} {files : FileTree} (h : Recorded events s)
    (hline : s.InLine) (hc : s.calls[place]? = some c)
    (hacted : c.Acted s.path.components s.files a files stage) :
    Recorded (events ++ [.act place a]) { s.setStage place stage with files } := by
  have hstage : s.stageAt? place = some c.stage := stageAt?_of_call hc
  have hholder : s.holder = some place := (hline.held place).2 ⟨_, hstage, hacted.before⟩
  have hwriters : (events ++ [Event.act place a]).filterMap Event.writer? =
      events.filterMap Event.writer? ++ [place] := by simp [Event.writer?]
  constructor
  · exact h.batches_setStage rfl
  · rw [hwriters, List.pairwise_append]
    refine ⟨h.sorted, List.pairwise_singleton .., ?_⟩
    intro j hj k hk
    rw [List.mem_singleton.1 hk]
    exact h.behind j hj place hholder
  · intro j hj
    rw [hwriters, List.mem_append, List.mem_singleton] at hj
    have hlt : j < s.calls.length := hj.elim (h.bounded j) fun heq => heq ▸ lt_of_stageAt? hstage
    simpa [setStage] using hlt
  · intro j hj i hi
    rw [hwriters, List.mem_append, List.mem_singleton] at hj
    -- a call that wrote before, or the one that acts, which is the one that has the lock
    rcases hj with hj | rfl
    · exact h.behind j hj i hi
    · exact Nat.le_of_eq (Option.some.inj (hholder.symm.trans hi))
  · intro j hj q hq
    rw [hwriters, List.mem_append, List.mem_singleton] at hj
    rcases hj with hj | rfl
    · exact h.ahead j hj q hq
    · exact hline.first j hholder q hq
  · intro i
    change (∃ stage', (s.setStage place stage).stageAt? i = _ ∧ _) ↔ _
    rw [List.mem_append, List.mem_singleton]
    by_cases ha : a = .replace
    · by_cases hi : i = place
      · subst hi
        rw [stageAt?_setStage_self hstage]
        simp [ha, hacted.through.2 ha]
      · rw [stageAt?_setStage_of_ne hi, h.through]
        simp [hi]
    · rw [h.through_setStage hstage (hacted.isThrough_eq ha)]
      simp [Ne.symm ha]

theorem leave {last : Save.Stage} (h : Recorded events s) (hstage : s.stageAt? place = some stage)
    (hending : stage.ending? = some last) :
    Recorded (events ++ [.leave place]) { s.setStage place last with holder := none } :=
  h.pass rfl rfl hstage (Save.Stage.ending?_spec hending).2.2.1 (fun _ hq => hq) nofun

theorem step {e : Event} (h : Recorded events s) (hline : s.InLine) (hstep : s.step? e = some u) :
    Recorded (events ++ [e]) u := by
  cases e with
  | start rules =>
      obtain ⟨-, rfl⟩ | rfl := step?_start hstep
      · exact h.start (c := ⟨rules, .waiting⟩) rfl (by simp)
      · exact h.start (c := ⟨rules, .stopped⟩) rfl fun q hq => .inl hq
  | grant place =>
      obtain ⟨-, rest, hqueue, rfl⟩ := step?_grant hstep
      exact h.grant hline hqueue
  | act place a =>
      obtain ⟨c, files, stage, hc, hacted, rfl⟩ := step?_act hstep
      exact h.act hline hc hacted
  | leave place =>
      obtain ⟨c, last, hc, hending, rfl⟩ := step?_leave hstep
      exact h.leave (stageAt?_of_call hc) hending

end Recorded

/-! ### What is in the file -/

def file? (s : Saver) : Option ByteArray := s.files.fileAt? (placeOf s.path.components)

/-- The rules whose writes went through, in the order in which their calls were started. -/
def done (s : Saver) : List (List Rule) := (s.calls.filter (·.stage.isThrough)).map (·.rules)

/-- What is to be in the file after some writes, when there was something at the beginning. -/
def latest? (initial : Option ByteArray) (batches : List (List Rule)) : Option ByteArray :=
  match batches.getLast? with
  | none => initial
  | some rules => Save.bytes? rules

section Done

variable {c : Save}

/-- The calls before and after one of them. -/
theorem exists_split (hc : s.calls[place]? = some c) :
    ∃ before after, s.calls = before ++ c :: after ∧
      (∀ stage, (s.setStage place stage).calls = before ++ ⟨c.rules, stage⟩ :: after) ∧
      ∀ d ∈ after, ∃ i, place < i ∧ s.calls[i]? = some d := by
  obtain ⟨hlt, rfl⟩ := List.getElem?_eq_some_iff.1 hc
  refine ⟨s.calls.take place, s.calls.drop (place + 1), ?_, ?_, ?_⟩
  · rw [List.getElem_cons_drop, List.take_append_drop]
  · intro stage
    rw [setStage, List.modify_eq_take_cons_drop hlt]
  · intro d hd
    obtain ⟨k, hk⟩ := List.mem_iff_getElem?.1 hd
    rw [List.getElem?_drop] at hk
    exact ⟨place + 1 + k, by omega, hk⟩

theorem done_setStage_of_same (hc : s.calls[place]? = some c)
    (hsame : stage.isThrough = c.stage.isThrough) : (s.setStage place stage).done = s.done := by
  obtain ⟨before, after, hcalls, hset, -⟩ := exists_split hc
  rw [done, done, hset, hcalls]
  cases hthrough : c.stage.isThrough <;> simp [hsame, hthrough]

/-- A call that replaces the file is the last one that is through, if nobody behind it is. -/
theorem done_setStage_of_last (hc : s.calls[place]? = some c)
    (hfresh : c.stage.isThrough = false) (hthrough : stage.isThrough = true)
    (hbehind : ∀ i, place < i → ∀ d, s.calls[i]? = some d → d.stage.isThrough = false) :
    (s.setStage place stage).done = s.done ++ [c.rules] := by
  obtain ⟨before, after, hcalls, hset, hafter⟩ := exists_split hc
  have hnone : after.filter (·.stage.isThrough) = [] := by
    rw [List.filter_eq_nil_iff]
    intro d hd
    obtain ⟨i, hi, hplace⟩ := hafter d hd
    simp [hbehind i hi d hplace]
  rw [done, done, hset, hcalls]
  simp [hfresh, hthrough, hnone]

/-- The calls after one of them has come to a stage. -/
theorem getElem?_setStage {d : Save} (h : (s.setStage place stage).calls[other]? = some d) :
    (other = place ∧ ∃ c, s.calls[place]? = some c ∧ d = ⟨c.rules, stage⟩) ∨
      (other ≠ place ∧ s.calls[other]? = some d) := by
  rw [setStage, List.getElem?_modify, Option.map_eq_map, Option.map_eq_some_iff] at h
  obtain ⟨c, hc, rfl⟩ := h
  by_cases hother : other = place
  · subst hother
    exact .inl ⟨rfl, c, hc, by simp⟩
  · refine .inr ⟨hother, ?_⟩
    simpa [Ne.symm hother] using hc

end Done

theorem latest?_concat (initial : Option ByteArray) (batches : List (List Rule))
    (rules : List Rule) : latest? initial (batches ++ [rules]) = Save.bytes? rules := by
  rw [latest?, List.getLast?_concat]

/-- The file is what the last call that is through has written, and the temporary neighbour is what
the call writes that is to replace the file by it. -/
structure Kept (initial : Option ByteArray) (s : Saver) : Prop where
  /-- A call that comes to the lock has something to write. -/
  rendered : ∀ (i : Nat) (c : Save), s.calls[i]? = some c → c.stage ≠ .stopped →
    ∃ bytes, Save.bytes? c.rules = some bytes
  temporary : ∀ (i : Nat) (c : Save), s.calls[i]? = some c → c.stage = .written →
    s.files.fileAt? (placeOf (Save.temporary s.path.components)) = Save.bytes? c.rules
  file : s.file? = latest? initial s.done
  found : s.done ≠ [] →
    s.files.locate [] s.path.components = .ok (placeOf s.path.components)

theorem idle_kept (path : Path) (files : FileTree) :
    Kept (idle path files).file? (idle path files) := by
  constructor <;> simp [idle, done, latest?]

namespace Kept

variable {initial : Option ByteArray} {c : Save}

theorem start {queue : List Nat} (h : Kept initial s)
    (hc : c.stage = .stopped ∨ c.stage = .waiting ∧ ∃ bytes, Save.bytes? c.rules = some bytes) :
    Kept initial { s with calls := s.calls ++ [c], queue } := by
  have hplaces : ∀ (i : Nat) (d : Save), (s.calls ++ [c])[i]? = some d →
      s.calls[i]? = some d ∨ d = c := by
    intro i d hd
    rw [List.getElem?_append] at hd
    split at hd
    · exact .inl hd
    · exact .inr (List.mem_singleton.1 (List.mem_of_getElem? hd))
  have hdone : done { s with calls := s.calls ++ [c], queue } = s.done := by
    have hfresh : c.stage.isThrough = false := by
      rcases hc with hc | ⟨hc, -⟩ <;> rw [hc] <;> rfl
    simp [done, hfresh]
  constructor
  · intro i d hd hstopped
    rcases hplaces i d hd with hd | rfl
    · exact h.rendered i d hd hstopped
    · exact (hc.resolve_left hstopped).2
  · intro i d hd hwritten
    rcases hplaces i d hd with hd | rfl
    · exact h.temporary i d hd hwritten
    · rcases hc with hc | ⟨hc, -⟩ <;> rw [hc] at hwritten <;> cases hwritten
  · rw [hdone]
    exact h.file
  · rw [hdone]
    exact h.found

/-- What is to be written has a text, whatever stage a call comes to. -/
theorem rendered_setStage (h : Kept initial s) (hc : s.calls[place]? = some c)
    (hrunning : c.stage ≠ .stopped) (stage : Save.Stage) (i : Nat) (d : Save)
    (hd : (s.setStage place stage).calls[i]? = some d) (hstopped : d.stage ≠ .stopped) :
    ∃ bytes, Save.bytes? d.rules = some bytes := by
  rcases getElem?_setStage hd with ⟨-, c', hc', rfl⟩ | ⟨-, hd⟩
  · obtain rfl := Option.some.inj (hc.symm.trans hc')
    exact h.rendered place c hc hrunning
  · exact h.rendered i d hd hstopped

/-- The temporary neighbour after a step is what the call that made the step writes: nobody else can
be about to replace the file. -/
theorem temporary_setStage {a : Save.Act} {files : FileTree} (hline : s.InLine)
    (hc : s.calls[place]? = some c)
    (hacted : c.Acted s.path.components s.files a files stage) (i : Nat) (d : Save)
    (hd : (s.setStage place stage).calls[i]? = some d) (hwritten : d.stage = .written) :
    files.fileAt? (placeOf (Save.temporary s.path.components)) = Save.bytes? d.rules := by
  rcases getElem?_setStage hd with ⟨-, c', hc', rfl⟩ | ⟨hne, hd⟩
  · obtain rfl := Option.some.inj (hc.symm.trans hc')
    exact hacted.temporary hwritten
  · have hholder : s.holder = some place :=
      (hline.held place).2 ⟨_, stageAt?_of_call hc, hacted.before⟩
    have hother : s.holder = some i :=
      (hline.held i).2 ⟨_, stageAt?_of_call hd, by rw [hwritten]; rfl⟩
    exact absurd (Option.some.inj (hother.symm.trans hholder)) hne

/-- A call comes to another stage, and the files stay as they are. -/
theorem pass {holder : Option Nat} {queue : List Nat} (h : Kept initial s)
    (hc : s.calls[place]? = some c) (hrunning : c.stage ≠ .stopped)
    (hsame : stage.isThrough = c.stage.isThrough) (hwritten : stage ≠ .written) :
    Kept initial { s.setStage place stage with holder, queue } := by
  have hdone : done { s.setStage place stage with holder, queue } = s.done :=
    done_setStage_of_same hc hsame
  refine ⟨h.rendered_setStage hc hrunning stage, ?_, ?_, ?_⟩
  · intro i d hd hstage
    rcases getElem?_setStage hd with ⟨-, c', -, rfl⟩ | ⟨-, hd⟩
    · exact absurd hstage hwritten
    · exact h.temporary i d hd hstage
  · rw [hdone]
    exact h.file
  · rw [hdone]
    exact h.found

theorem act {a : Save.Act} {files : FileTree} (h : Kept initial s) (hline : s.InLine)
    (hrecorded : Recorded events s) (hc : s.calls[place]? = some c)
    (hacted : c.Acted s.path.components s.files a files stage) :
    Kept initial { s.setStage place stage with files } := by
  have hholder : s.holder = some place :=
    (hline.held place).2 ⟨_, stageAt?_of_call hc, hacted.before⟩
  have hrunning : c.stage ≠ .stopped := (Save.Stage.ne_of_isWriting hacted.before).2
  have hrendered := h.rendered_setStage hc hrunning stage
  have htemporary := temporary_setStage hline hc hacted
  by_cases ha : a = .replace
  · obtain ⟨hwritten, hmoved, hlocate⟩ := hacted.moved ha
    -- nobody is through who is behind the call that has the lock
    have hbehind : ∀ i, place < i → ∀ d, s.calls[i]? = some d → d.stage.isThrough = false := by
      intro i hi d hd
      by_contra hthrough
      have hmem := hrecorded.mem_writers (stageAt?_of_call hd) (by simpa using hthrough)
      have hle := hrecorded.behind i hmem place hholder
      omega
    have hdone : (s.setStage place stage).done = s.done ++ [c.rules] :=
      done_setStage_of_last hc hacted.fresh (hacted.through.2 ha) hbehind
    refine ⟨hrendered, htemporary, ?_, ?_⟩
    · change files.fileAt? _ = latest? initial (s.setStage place stage).done
      rw [hdone, latest?_concat, ← h.temporary place c hc hwritten]
      exact hmoved
    · intro _
      exact hacted.keeps.locate hlocate
  · have hdone : (s.setStage place stage).done = s.done :=
      done_setStage_of_same hc (hacted.isThrough_eq ha)
    refine ⟨hrendered, htemporary, ?_, ?_⟩
    · change files.fileAt? _ = latest? initial (s.setStage place stage).done
      rw [hdone, ← h.file]
      exact hacted.file ha
    · change (s.setStage place stage).done ≠ [] → _
      rw [hdone]
      exact fun hsome => hacted.keeps.locate (h.found hsome)

theorem step {e : Event} (h : Kept initial s) (hline : s.InLine) (hrecorded : Recorded events s)
    (hstep : s.step? e = some u) : Kept initial u := by
  cases e with
  | start rules =>
      obtain ⟨hbytes, rfl⟩ | rfl := step?_start hstep
      · exact h.start (.inr ⟨rfl, hbytes⟩)
      · exact h.start (.inl rfl)
  | grant place =>
      obtain ⟨-, rest, hqueue, rfl⟩ := step?_grant hstep
      have hwaiting := (hline.queued place).1 (by simp [hqueue])
      obtain ⟨c, hc, hstage⟩ := Option.map_eq_some_iff.1 hwaiting
      exact h.pass hc (by simp [hstage]) (by rw [hstage]; rfl) (by simp)
  | act place a =>
      obtain ⟨c, files, stage, hc, hacted, rfl⟩ := step?_act hstep
      exact h.act hline hrecorded hc hacted
  | leave place =>
      obtain ⟨c, last, hc, hending, rfl⟩ := step?_leave hstep
      obtain ⟨hbefore, hafter, hsame, -⟩ := Save.Stage.ending?_spec hending
      refine h.pass hc (Save.Stage.ne_of_isWriting hbefore).2 hsame ?_
      rintro rfl
      cases hafter

end Kept

/-! ### All courses of events -/

theorem run?_invariants {path : Path} {files : FileTree}
    (h : (idle path files).run? events = some s) :
    s.path = path ∧ s.InLine ∧ Recorded events s ∧ Kept (idle path files).file? s := by
  induction events using List.reverseRecOn generalizing s with
  | nil =>
      cases h
      exact ⟨rfl, idle_inLine _ _, idle_recorded _ _, idle_kept _ _⟩
  | append_singleton before e ih =>
      obtain ⟨t, hrun, hstep⟩ := run?_concat.1 h
      obtain ⟨hpath, hline, hrecorded, hkept⟩ := ih hrun
      exact ⟨(step?_path hstep).trans hpath, hline.step hstep, hrecorded.step hline hstep,
        hkept.step hline hrecorded hstep⟩

/-- What is written is the text of the rules. -/
theorem exists_text {rules : List Rule} {bytes : ByteArray}
    (h : Save.bytes? rules = some bytes) :
    ∃ text, RuleFile.render rules = .ok text ∧ bytes = text.toUTF8 := by
  rw [Save.bytes?] at h
  cases hrender : RuleFile.render rules with
  | error fault =>
      rw [hrender] at h
      cases h
  | ok text =>
      rw [hrender] at h
      cases h
      exact ⟨text, rfl, rfl⟩

/-- The rules whose writes went through are those of a call. -/
theorem exists_call_of_mem_done {rules : List Rule} (h : rules ∈ s.done) :
    ∃ (i : Nat) (c : Save),
      s.calls[i]? = some c ∧ c.rules = rules ∧ c.stage.isThrough = true := by
  obtain ⟨c, hc, rfl⟩ := List.mem_map.1 h
  obtain ⟨hmem, hthrough⟩ := List.mem_filter.1 hc
  obtain ⟨i, hi⟩ := List.mem_iff_getElem?.1 hmem
  exact ⟨i, c, hi, rfl, hthrough⟩

/-- When a write went through, the file can be read, and is the text of the last rules. -/
theorem Kept.read {initial : Option ByteArray} {rules : List Rule} (h : Kept initial s)
    (hlast : s.done.getLast? = some rules) :
    ∃ text, RuleFile.render rules = .ok text ∧ s.file? = some text.toUTF8 ∧
      s.files.read s.path.components = .ok text.toUTF8 := by
  have hmem : rules ∈ s.done := List.mem_of_getLast? hlast
  obtain ⟨i, c, hc, rfl, hthrough⟩ := exists_call_of_mem_done hmem
  obtain ⟨bytes, hbytes⟩ := h.rendered i c hc (by
    rintro hstopped
    rw [hstopped] at hthrough
    cases hthrough)
  obtain ⟨text, htext, rfl⟩ := exists_text hbytes
  have hfile : s.file? = some text.toUTF8 := by rw [h.file, latest?, hlast, ← hbytes]
  exact ⟨text, htext, hfile, read_of_fileAt? (h.found (List.ne_nil_of_mem hmem)) hfile⟩

/-- When all calls are over, those that are through have been told so. -/
theorem done_of_isQuiet (h : s.isQuiet = true) :
    s.done = (s.calls.filter (·.stage = .answered true)).map (·.rules) := by
  rw [done]
  congr 1
  refine List.filter_congr fun c hc => ?_
  have hover := List.all_eq_true.1 h c hc
  cases hstage : c.stage with
  | answered told => cases told <;> rfl
  | stopped => rfl
  | _ => simp [hstage, Save.Stage.isOver] at hover

/-- **One call at a time writes, in order, and the file is never half written.**  Whatever steps the
calls take in whatever order, and whichever of them fail: at most one call has the lock, and those
that write do so in the order in which they were started.  The file is what it was at the beginning
or the whole text of the rules of one of the calls.  A call is told that it wrote exactly when it
replaced the file.  When all calls are over, the file is the text of the rules of the last one that
was told so, and what it was at the beginning if there is none. -/
theorem run?_saves {path : Path} {files : FileTree}
    (h : (idle path files).run? events = some s) :
    s.calls.map (·.rules) = events.filterMap Event.batch? ∧
      (∀ i j stage stage', s.stageAt? i = some stage → s.stageAt? j = some stage' →
        stage.isWriting = true → stage'.isWriting = true → i = j) ∧
      (events.filterMap Event.writer?).Pairwise (· ≤ ·) ∧
      (s.file? = (idle path files).file? ∨
        ∃ rules ∈ events.filterMap Event.batch?, ∃ text,
          RuleFile.render rules = .ok text ∧ s.file? = some text.toUTF8) ∧
      (∀ i told, s.stageAt? i = some (.answered told) →
        (told = true ↔ .act i .replace ∈ events)) ∧
      (s.isQuiet = true →
        match (s.calls.filter (·.stage = .answered true)).getLast? with
        | none => s.file? = (idle path files).file?
        | some c => ∃ text, RuleFile.render c.rules = .ok text ∧
            s.file? = some text.toUTF8 ∧ s.files.read path.components = .ok text.toUTF8) := by
  obtain ⟨hpath, hline, hrecorded, hkept⟩ := run?_invariants h
  refine ⟨hrecorded.batches, ?_, hrecorded.sorted, ?_, ?_, ?_⟩
  · intro i j stage stage' hi hj hwriting hwriting'
    have hfirst := (hline.held i).2 ⟨stage, hi, hwriting⟩
    have hsecond := (hline.held j).2 ⟨stage', hj, hwriting'⟩
    exact Option.some.inj (hfirst.symm.trans hsecond)
  · cases hlast : s.done.getLast? with
    | none =>
        left
        rw [hkept.file, latest?, hlast]
    | some rules =>
        right
        obtain ⟨text, htext, hfile, -⟩ := hkept.read hlast
        obtain ⟨i, c, hc, hrules, -⟩ := exists_call_of_mem_done (List.mem_of_getLast? hlast)
        refine ⟨rules, ?_, text, htext, hfile⟩
        rw [← hrecorded.batches, ← hrules]
        exact List.mem_map.2 ⟨c, List.mem_of_getElem? hc, rfl⟩
  · intro i told htold
    rw [← hrecorded.through, htold]
    simp [Save.Stage.isThrough]
  · intro hquiet
    -- nobody is left in line, so that what was saved last is what was answered last
    have hdone := done_of_isQuiet hquiet
    have hlast : s.done.getLast? =
        (s.calls.filter (·.stage = .answered true)).getLast?.map (·.rules) := by
      rw [hdone, List.getLast?_map]
    split
    · next hnone =>
        rw [hnone] at hlast
        rw [hkept.file, latest?, hlast]
        rfl
    · next c hsome =>
        rw [hsome] at hlast
        obtain ⟨text, htext, hfile, hread⟩ := hkept.read hlast
        rw [hpath] at hread
        exact ⟨text, htext, hfile, hread⟩

/-- Three calls.  The first one leaves half a temporary neighbour, the second one writes, and the
third one cannot make the directories. -/
def threeCalls : List Event :=
  [.start [], .start [.blank "kept"], .grant 0, .act 0 .prepare,
    .act 0 (.fail (.remains "[".toUTF8) true), .start [.blank "kept", .blank "lost"], .leave 0,
    .grant 1, .act 1 .prepare, .act 1 .write, .act 1 .replace, .leave 1,
    .grant 2, .act 2 (.fail (.directories 1) true), .leave 2]

theorem run?_saves_threeCalls :
    ∃ s c text, (idle ⟨"", ["data", "rules.json"]⟩ .empty).run? threeCalls = some s ∧
      (s.calls.filter (·.stage = .answered true)).getLast? = some c ∧
      RuleFile.render c.rules = .ok text ∧
      s.files.read ["data", "rules.json"] = .ok text.toUTF8 := by
  have hstages : ((idle ⟨"", ["data", "rules.json"]⟩ .empty).run? threeCalls).map
      (fun s => (s.isQuiet, s.calls.map (·.stage))) =
        some (true, [.answered false, .answered true, .answered false]) := by decide +kernel
  obtain ⟨s, hrun, hs⟩ := Option.map_eq_some_iff.1 hstages
  obtain ⟨hquiet, hcalls⟩ := Prod.mk.inj hs
  cases hlast : (s.calls.filter (·.stage = .answered true)).getLast? with
  | none =>
      have hmem : Save.Stage.answered true ∈ s.calls.map (·.stage) := by simp [hcalls]
      obtain ⟨c, hc, htold⟩ := List.mem_map.1 hmem
      rw [List.getLast?_eq_none_iff, List.filter_eq_nil_iff] at hlast
      exact absurd (by simpa using htold) (hlast c hc)
  | some c =>
      obtain ⟨-, -, -, -, -, hend⟩ := run?_saves hrun
      have hread := hend hquiet
      rw [hlast] at hread
      obtain ⟨text, htext, -, hread⟩ := hread
      exact ⟨s, c, text, hrun, hlast, htext, hread⟩

/-! ### The end of the line -/

/-- How many steps are left to all calls. -/
def work (s : Saver) : Nat := (s.calls.map (·.stage.remaining)).sum

theorem work_setStage_lt {c : Save} (hc : s.calls[place]? = some c) (stage : Save.Stage)
    (h : stage.remaining < c.stage.remaining) : (s.setStage place stage).work < s.work := by
  obtain ⟨before, after, hcalls, hset, -⟩ := exists_split hc
  rw [work, work, hset, hcalls]
  simp only [List.map_append, List.map_cons, List.sum_append, List.sum_cons]
  omega

/-- Every step but the start of a call leaves less to do. -/
theorem step?_work_lt {e : Event} (hline : s.InLine) (hstart : e.batch? = none)
    (hstep : s.step? e = some u) : u.work < s.work := by
  cases e with
  | start rules => cases hstart
  | grant place =>
      obtain ⟨-, rest, hqueue, rfl⟩ := step?_grant hstep
      have hwaiting := (hline.queued place).1 (by simp [hqueue])
      obtain ⟨c, hc, hstage⟩ := Option.map_eq_some_iff.1 hwaiting
      exact work_setStage_lt hc .admitted (by rw [hstage]; decide)
  | act place a =>
      obtain ⟨c, files, stage, hc, hacted, rfl⟩ := step?_act hstep
      exact work_setStage_lt hc stage hacted.sooner
  | leave place =>
      obtain ⟨c, last, hc, hending, rfl⟩ := step?_leave hstep
      exact work_setStage_lt hc last (Save.Stage.ending?_spec hending).2.2.2.2

/-- The call that has the lock can go on. -/
theorem exists_step_of_held (hline : s.InLine) (hholder : s.holder = some place) :
    ∃ e u, e.batch? = none ∧ s.step? e = some u := by
  obtain ⟨stage, hstage, hwriting⟩ := (hline.held place).1 hholder
  obtain ⟨c, hc, rfl⟩ := Option.map_eq_some_iff.1 hstage
  -- before the file is replaced it can always fail
  have hfail : ∀ t, Save.left? s.path.components s.files c.stage .nothing = some t →
      ∃ e u, e.batch? = none ∧ s.step? e = some u := by
    intro t ht
    refine ⟨.act place (.fail .nothing true),
      { s.setStage place (.failed true) with files := t }, rfl, ?_⟩
    simp [step?, hc, Save.act?, ht]
  have hleave : ∀ last, c.stage.ending? = some last →
      ∃ e u, e.batch? = none ∧ s.step? e = some u := by
    intro last hlast
    refine ⟨.leave place, { s.setStage place last with holder := none }, rfl, ?_⟩
    simp [step?, hc, hlast]
  cases hstage : c.stage with
  | admitted => exact hfail s.files (by rw [hstage]; rfl)
  | prepared => exact hfail s.files (by rw [hstage]; rfl)
  | written => exact hfail s.files (by rw [hstage]; rfl)
  | replaced => exact hleave (.answered true) (by rw [hstage]; rfl)
  | failed absorbed => cases absorbed <;> exact hleave _ (by rw [hstage]; rfl)
  | _ => rw [hstage] at hwriting; cases hwriting

/-- When the lock is free, a call that is not over waits. -/
theorem stage_of_free {c : Save} (hline : s.InLine) (hfree : s.holder = none)
    (hc : s.calls[place]? = some c) (hnotOver : ¬c.stage.isOver = true) : c.stage = .waiting := by
  have hnotWriting : ¬c.stage.isWriting = true := by
    intro hwriting
    have hheld := (hline.held place).2 ⟨_, stageAt?_of_call hc, hwriting⟩
    rw [hfree] at hheld
    cases hheld
  cases hstage : c.stage <;> simp_all [Save.Stage.isOver, Save.Stage.isWriting]

/-- As long as a call is not over, one of them can go on. -/
theorem exists_step (hline : s.InLine) (hbusy : s.isQuiet = false) :
    ∃ e u, e.batch? = none ∧ s.step? e = some u := by
  cases hholder : s.holder with
  | some i => exact exists_step_of_held hline hholder
  | none =>
      obtain ⟨c, hc, hnotOver⟩ := List.all_eq_false.1 hbusy
      obtain ⟨i, hi⟩ := List.mem_iff_getElem?.1 hc
      have hwaiting := stage_of_free hline hholder hi hnotOver
      have hmem : i ∈ s.queue := (hline.queued i).2 (hwaiting ▸ stageAt?_of_call hi)
      obtain ⟨first, rest, hqueue⟩ := List.exists_cons_of_ne_nil (List.ne_nil_of_mem hmem)
      refine ⟨.grant first,
        { s.setStage first .admitted with holder := some first, queue := rest }, rfl, ?_⟩
      simp [step?, hholder, hqueue]

/-- **The line comes to its end, whichever steps fail.**  As long as a call is not over, some call
can go on without a new one being started; and the calls that were started take a limited number of
steps, so whatever they do, all of them are over in the end. -/
theorem run?_completes {path : Path} {files : FileTree}
    (h : (idle path files).run? events = some s) :
    (s.isQuiet = false → ∃ e u, e.batch? = none ∧ s.step? e = some u) ∧
      ∀ more u, (∀ e ∈ more, Event.batch? e = none) → s.run? more = some u →
        more.length + u.work ≤ s.work := by
  obtain ⟨-, hline, -, -⟩ := run?_invariants h
  refine ⟨exists_step hline, ?_⟩
  intro more
  induction more using List.reverseRecOn with
  | nil =>
      intro u _ hrun
      cases hrun
      simp
  | append_singleton before e ih =>
      intro u hmore hrun
      obtain ⟨t, hbefore, hstep⟩ := run?_concat.1 hrun
      have hle := ih t (fun e he => hmore e (by simp [he])) hbefore
      obtain ⟨-, hline', -, -⟩ := run?_invariants (run?_append h hbefore)
      have hlt := step?_work_lt hline' (hmore e (by simp)) hstep
      rw [List.length_append, List.length_singleton]
      omega

/-! ### A call that is alone -/

/-- **A call that is alone does what saving the file does.** -/
theorem exists_run?_save (path : Path) (files : FileTree) {rules : List Rule} {text : String}
    (h : RuleFile.render rules = .ok text) :
    ∃ events, (idle path files).run? (.start rules :: events) =
      some ⟨path, (RuleFile.save files path text).1,
        [⟨rules, .answered (RuleFile.save files path text).2⟩], none, []⟩ := by
  have hbytes : Save.bytes? rules = some text.toUTF8 := by rw [Save.bytes?, h]; rfl
  rw [RuleFile.save]
  generalize text.toUTF8 = bytes at hbytes ⊢
  have hall : path.components.dropLast.take path.components.dropLast.length =
      path.components.dropLast := List.take_length
  obtain ⟨prepared, hmade, hsave⟩ | ⟨prepared, e, hmade, hwrite, hsave⟩ |
      ⟨prepared, written, e, hmade, hwrite, hmove, hsave⟩ |
      ⟨prepared, written, replaced, hmade, hwrite, hmove, hsave⟩ :=
    replaceFile_cases files (Save.temporary path.components) path.components bytes
  · refine ⟨[.grant 0,
      .act 0 (.fail (.directories path.components.dropLast.length) true), .leave 0], ?_⟩
    rw [Save.temporary] at hsave
    simp [-List.length_dropLast, run?, idle, step?, h, hsave, setStage, Save.act?, Save.left?,
      hall, hmade, Save.Stage.ending?]
  · refine ⟨[.grant 0, .act 0 .prepare, .act 0 (.fail .nothing true), .leave 0], ?_⟩
    rw [Save.temporary] at hsave
    simp [run?, idle, step?, h, hsave, setStage, Save.act?, Save.left?, hmade,
      Save.Stage.ending?]
  · refine ⟨[.grant 0, .act 0 .prepare, .act 0 .write, .act 0 (.fail .nothing true),
      .leave 0], ?_⟩
    rw [Save.temporary] at hsave
    simp [run?, idle, step?, h, hsave, setStage, Save.act?, Save.left?, hmade, hbytes, hwrite,
      Except.toOption, Save.Stage.ending?]
  · refine ⟨[.grant 0, .act 0 .prepare, .act 0 .write, .act 0 .replace, .leave 0], ?_⟩
    rw [Save.temporary] at hsave
    simp [run?, idle, step?, h, hsave, setStage, Save.act?, hmade, hbytes, hwrite, hmove,
      Except.toOption, Save.Stage.ending?]

end Saver

end Admission
