import Admission.Proofs.Engine.Restart

/-!
# What the first reading does to the rule file

An engine reads its rules once: when it starts, or when the first decision is asked for.  Reading is
meant to leave the file alone, and to write one only where there is none.  It does not: a file that
cannot be read counts as a missing one.  So a file that holds no JSON, or whose bytes are no text,
is replaced by an empty list on the spot, and the rules in it are lost.  A file with any JSON in it
is left as it is, and so is every file whose temporary neighbour happens to be a directory.

Before the reading and after it nothing but saving touches the files, so all this can be said of
any course of things up to the first change of the rules.

Main definitions:

* `RuleFile.Readable` — bytes that hold some JSON;
* `Site.Awaits` — an engine that is still to read its rules;
* `Site.Move.reads` — the moves that read the rules if they were not read before.

Main results:

* `Site.move_keepsReading` — what one move does to the files;
* `Site.run_files` — until the rules are saved, only the first reading matters;
* `Site.run_replaces_unreadable` — **what becomes of the rule file**.
-/

set_option autoImplicit false

namespace Admission

/-! ### Readable files -/

/-- The bytes are a text that holds some JSON. -/
def RuleFile.Readable (bytes : ByteArray) : Prop :=
  ∃ text v, String.fromUTF8? bytes = some text ∧ Json.read? text = some v

/-- The content gives no rules, not even none of them. -/
def RuleFile.Content.isVoid : Content → Bool
  | .missing => true
  | .unreadable => true
  | .other => false
  | .items _ => false

/-- The content of a file that is there gives rules when there is some JSON in it. -/
theorem RuleFile.contentOfBytes_isVoid_iff {bytes : ByteArray} :
    (contentOfBytes bytes).isVoid = true ↔ ¬Readable bytes := by
  rw [contentOfBytes, Readable]
  cases String.fromUTF8? bytes with
  | none => simp [Content.isVoid]
  | some text =>
      dsimp only
      rw [contentOfText]
      cases hread : Json.read? text with
      | none => simp [hread, Content.isVoid]
      | some v => cases v <;> simp [hread, Content.isVoid]

theorem RuleFile.content_of_read {t : FileTree} {path : Path} {bytes : ByteArray}
    (h : t.read path.components = .ok bytes) : content t path = contentOfBytes bytes := by
  rw [content, h]

theorem RuleFile.content_isVoid_of_error {t : FileTree} {path : Path} {e : FileError}
    (h : t.read path.components = .error e) : (content t path).isVoid = true := by
  rw [content, h]
  cases e <;> rfl

theorem RuleFile.rulesOf_eq_none_iff (content : Content) (supply : Supply) :
    (rulesOf content supply).1 = none ↔ content.isVoid = true := by
  cases content <;> simp [rulesOf, Content.isVoid]

namespace Site

/-! ### What is read, and where it is saved -/

/-- The files, and what the engine goes by when it reads and saves its rules, are as they were. -/
structure KeepsReading (s t : Site) : Prop where
  files : t.files = s.files
  loaded : t.engine.loaded = s.engine.loaded
  settings : t.engine.settings = s.engine.settings
  savePath : t.engine.savePath = s.engine.savePath
  loadFails : t.loadFails = s.loadFails

namespace KeepsReading

theorem refl (s : Site) : KeepsReading s s := ⟨rfl, rfl, rfl, rfl, rfl⟩

theorem trans {s t u : Site} (h₁ : KeepsReading s t) (h₂ : KeepsReading t u) :
    KeepsReading s u where
  files := h₂.files.trans h₁.files
  loaded := h₂.loaded.trans h₁.loaded
  settings := h₂.settings.trans h₁.settings
  savePath := h₂.savePath.trans h₁.savePath
  loadFails := h₂.loadFails.trans h₁.loadFails

end KeepsReading

section Changes

variable {s t : Site}

theorem OnlyLogs.keepsReading (h : OnlyLogs s t) : KeepsReading s t := by
  obtain ⟨_, rfl⟩ := h
  exact ⟨rfl, rfl, rfl, rfl, rfl⟩

theorem Restocks.keepsReading (h : Restocks s t) : KeepsReading s t := by
  obtain ⟨_, _, _, rfl⟩ := h
  exact ⟨rfl, rfl, rfl, rfl, rfl⟩

theorem Retunes.keepsReading (h : Retunes s t) : KeepsReading s t := by
  obtain ⟨_, _, rfl⟩ := h
  exact ⟨rfl, rfl, rfl, rfl, rfl⟩

end Changes

theorem setGuards_keepsReading (s : Site) (ledger : Ledger) (host : Host) :
    KeepsReading s (s.setGuards ledger host) :=
  ⟨rfl, rfl, rfl, rfl, rfl⟩

theorem sync_keepsReading (s : Site) : KeepsReading s.load s.sync := by
  have hrefresh := (refresh_retunes s).keepsReading
  unfold sync
  dsimp only
  split
  · exact hrefresh
  · exact hrefresh.trans
      ((setGuards_keepsReading _ _ _).trans (reportAll_onlyLogs _ _).keepsReading)

theorem dispose_keepsReading (s : Site) : KeepsReading s s.dispose := by
  have hdisposed : KeepsReading s { s with engine := { s.engine with disposed := true } } :=
    ⟨rfl, rfl, rfl, rfl, rfl⟩
  exact hdisposed.trans ((setGuards_keepsReading _ _ _).trans (report_onlyLogs _ _).keepsReading)

/-! ### Moves -/

/-- The move reads the rules, if they were not read before. -/
def Move.reads : Move → Bool
  | .load | .refresh | .sync | .message _ | .command _ _ => true
  | _ => false

/-- A move that does not save the rules reads them, or leaves everything alone that the reading and
the saving go by. -/
theorem move_keepsReading (s : Site) {m : Move} (h : m ≠ .save) :
    KeepsReading (if m.reads then s.load else s) (s.move m) := by
  cases m with
  | save => exact absurd rfl h
  | load => exact .refl _
  | refresh => exact (refresh_retunes s).keepsReading
  | sync => exact sync_keepsReading s
  | message session => exact (decideMessage_onlyLogs s session).keepsReading
  | command session command => exact (decideCommand_retunes s session command).keepsReading
  | dispose => exact dispose_keepsReading s
  | bind command => exact (bindCommand_retunes s command).keepsReading
  | invalidate => exact ⟨rfl, rfl, rfl, rfl, rfl⟩
  | edit operation =>
      cases hedit : s.edit? operation with
      | none =>
          rw [move, hedit]
          exact .refl s
      | some t =>
          rw [move, hedit]
          exact (edit?_restocks hedit).keepsReading
  | report r => exact (report_onlyLogs s r).keepsReading
  | ask context session =>
      cases hask : s.askPredicate context session with
      | none =>
          rw [move, hask]
          exact .refl s
      | some replied =>
          rw [move, hask]
          exact (askPredicate_onlyLogs hask).keepsReading
  | push subscribers => exact ⟨rfl, rfl, rfl, rfl, rfl⟩
  | subscribe name => exact ⟨rfl, rfl, rfl, rfl, rfl⟩
  | unsubscribe name => exact ⟨rfl, rfl, rfl, rfl, rfl⟩
  | host h' => exact ⟨rfl, rfl, rfl, rfl, rfl⟩

/-! ### The first reading -/

/-- The engine has not read its rules yet, and it is to read and to save them at the path. -/
structure Awaits (path : Path) (s : Site) : Prop where
  unread : s.engine.loaded = false
  reads : s.loadFails = false
  rulesPath : s.engine.settings.rulesPath? = some path
  savePath : s.engine.savePath = path

theorem Unread.awaits {path : Path} {s : Site} (h : s.Unread path) : s.Awaits path := by
  obtain ⟨number, settings, hpath, hengine⟩ := h.engine
  refine ⟨?_, h.reads, ?_, ?_⟩ <;> rw [hengine]
  · rfl
  · exact hpath
  · change settings.rulesPath?.getD _ = path
    rw [hpath, Option.getD_some]

theorem Awaits.of_keepsReading {path : Path} {s t : Site} (h : s.Awaits path)
    (hkeeps : KeepsReading s t) : t.Awaits path where
  unread := hkeeps.loaded.trans h.unread
  reads := hkeeps.loadFails.trans h.reads
  rulesPath := (congrArg _ hkeeps.settings).trans h.rulesPath
  savePath := hkeeps.savePath.trans h.savePath

/-- Reading the rule file leaves the files alone, unless it finds nothing to read rules from: then a
file without rules is written. -/
theorem loadFrom_files (s : Site) (path : Path) : (s.loadFrom path).files =
    if (RuleFile.content s.files path).isVoid then
      (RuleFile.save s.files s.engine.savePath "[]").1
    else s.files := by
  obtain ⟨t, hread, hload⟩ := loadFrom_cases s path
  have hkeeps := hread.keepsReading
  have hvoid := RuleFile.rulesOf_eq_none_iff (RuleFile.content s.files path) s.supply
  cases hrules : (RuleFile.rulesOf (RuleFile.content s.files path) s.supply).1 with
  | some rules =>
      rw [hrules] at hload hvoid
      have hfull : (RuleFile.content s.files path).isVoid = false := by simpa using hvoid
      rw [hfull, hload]
      exact hkeeps.files
  | none =>
      rw [hrules] at hload hvoid
      have hsaved := (saveText_onlyLogs t "[]").keepsReading.files
      rw [hvoid.1 rfl, if_pos rfl, ← hkeeps.files, ← hkeeps.savePath]
      exact hload ▸ hsaved

namespace Awaits

variable {path : Path} {s : Site}

theorem load_eq (h : s.Awaits path) :
    s.load = ({ s with engine := { s.engine with loaded := true } } : Site).loadFrom path := by
  simp only [load, h.unread, h.reads, h.rulesPath, Bool.false_eq_true, if_false]

theorem load_files (h : s.Awaits path) : s.load.files =
    if (RuleFile.content s.files path).isVoid then (RuleFile.save s.files path "[]").1
    else s.files := by
  have hfiles := loadFrom_files { s with engine := { s.engine with loaded := true } } path
  rw [h.load_eq, hfiles, h.savePath]

end Awaits

/-! ### Runs -/

/-- Once the rules were read, the files change only when the rules are saved. -/
theorem run_files_of_loaded {s : Site} (hloaded : s.engine.loaded = true) {moves : List Move}
    (hsave : Move.save ∉ moves) : (s.run moves).files = s.files := by
  induction moves generalizing s with
  | nil => rfl
  | cons m rest ih =>
      obtain ⟨hm, hrest⟩ := List.ne_and_not_mem_of_not_mem_cons hsave
      have hkeeps := move_keepsReading s (Ne.symm hm)
      rw [load_of_loaded hloaded, ite_self] at hkeeps
      rw [run_cons, ih (hkeeps.loaded.trans hloaded) hrest, hkeeps.files]

/-- Until the rules are saved, the first reading is all that happens to the files. -/
theorem run_files {path : Path} {s : Site} (h : s.Awaits path) {moves : List Move}
    (hsave : Move.save ∉ moves) :
    (s.run moves).files = if moves.any Move.reads then s.load.files else s.files := by
  induction moves generalizing s with
  | nil => rfl
  | cons m rest ih =>
      obtain ⟨hm, hrest⟩ := List.ne_and_not_mem_of_not_mem_cons hsave
      have hkeeps := move_keepsReading s (Ne.symm hm)
      rw [run_cons, List.any_cons]
      cases hreads : m.reads with
      | true =>
          rw [hreads, if_pos rfl] at hkeeps
          rw [run_files_of_loaded (hkeeps.loaded.trans s.load_loaded) hrest, hkeeps.files]
          rfl
      | false =>
          rw [hreads, if_neg Bool.false_ne_true] at hkeeps
          have hnext := h.of_keepsReading hkeeps
          rw [ih hnext hrest, hnext.load_files, h.load_files, hkeeps.files, Bool.false_or]

/-- An engine is started on a rule file, or asked for a first decision, or both and anything else,
as long as no rules are saved.  If nothing of this reads the rules, the files are as they were.  If
something does, a file that holds some JSON is left alone, as are all the others; a file that holds
none is replaced by one without rules, unless its temporary neighbour is a directory; and where
there is no file that could be read, one without rules is written. -/
theorem run_replaces_unreadable {path : Path} {s : Site} (h : s.Awaits path) {moves : List Move}
    (hsave : Move.save ∉ moves) :
    (moves.any Move.reads = false → (s.run moves).files = s.files) ∧
    (moves.any Move.reads = true →
      (∀ bytes, s.files.read path.components = .ok bytes → RuleFile.Readable bytes →
        (s.run moves).files = s.files) ∧
      (∀ bytes, s.files.read path.components = .ok bytes → ¬RuleFile.Readable bytes →
        (s.files.read (markLast RuleFile.temporaryMark path.components) = .error .isDirectory ∧
          (s.run moves).files = s.files) ∨
        (s.files.read (markLast RuleFile.temporaryMark path.components) ≠ .error .isDirectory ∧
          (s.run moves).files.read path.components = .ok "[]".toUTF8)) ∧
      (∀ e, s.files.read path.components = .error e →
        (s.run moves).files = (RuleFile.save s.files path "[]").1 ∧
        ((RuleFile.save s.files path "[]").2 = true →
          (s.run moves).files.read path.components = .ok "[]".toUTF8))) := by
  -- the files change with the first reading alone
  have hfiles := run_files h hsave
  refine ⟨fun hnone => by rw [hfiles, hnone]; rfl, fun hsome => ?_⟩
  rw [hsome, if_pos rfl, h.load_files] at hfiles
  refine ⟨?_, ?_, ?_⟩
  · intro bytes hread hreadable
    have hvoid : ¬(RuleFile.contentOfBytes bytes).isVoid = true :=
      fun h => RuleFile.contentOfBytes_isVoid_iff.1 h hreadable
    rw [hfiles, RuleFile.content_of_read hread, if_neg hvoid]
  · intro bytes hread hunreadable
    rw [RuleFile.content_of_read hread,
      if_pos (RuleFile.contentOfBytes_isVoid_iff.2 hunreadable), RuleFile.save] at hfiles
    rcases FileTree.replaceFile_of_read hread RuleFile.temporaryMark "[]".toUTF8 with
      ⟨hway, hreplace⟩ | ⟨hfree, written, hreplace⟩
    · exact .inl ⟨hway, by rw [hfiles, hreplace]⟩
    · exact .inr ⟨hfree, by rw [hfiles, hreplace]; exact FileTree.read_of_replaceFile hreplace⟩
  · intro e hread
    rw [if_pos (RuleFile.content_isVoid_of_error hread)] at hfiles
    refine ⟨hfiles, fun hdone => ?_⟩
    rw [hfiles]
    exact FileTree.read_of_replaceFile (Prod.ext rfl hdone)

/-- Where an engine with the usual settings keeps its rules. -/
def keepingPlace : Path := Path.ofText "data/filterpro/rules.json"

/-- A new engine whose rule file was spoiled by hand. -/
def spoiledSite : Site :=
  .start .bare (FileTree.empty.place keepingPlace.components (.file "\x7bnot json".toUTF8))
    (.counting 0 1) .default false .error

theorem spoiledSite_awaits : spoiledSite.Awaits keepingPlace :=
  Unread.awaits ⟨⟨0, .default, rfl, rfl⟩, rfl⟩

theorem read_spoiledSite :
    spoiledSite.files.read keepingPlace.components = .ok "\x7bnot json".toUTF8 := rfl

theorem not_readable_spoiled : ¬RuleFile.Readable "\x7bnot json".toUTF8 := by
  rintro ⟨text, v, htext, hread⟩
  rw [RuleFile.fromUTF8?_toUTF8] at htext
  cases htext
  have hnone : Json.read? "\x7bnot json" = none := rfl
  rw [hnone] at hread
  cases hread

theorem run_replaces_unreadable_spoiled :
    spoiledSite.Awaits keepingPlace ∧ Move.save ∉ [Move.sync] ∧
      [Move.sync].any Move.reads = true ∧
      (spoiledSite.run [.sync]).files.read keepingPlace.components = .ok "[]".toUTF8 := by
  have hsave : Move.save ∉ [Move.sync] := by simp
  obtain ⟨-, hread⟩ := run_replaces_unreadable spoiledSite_awaits hsave
  refine ⟨spoiledSite_awaits, hsave, rfl, ?_⟩
  rcases (hread rfl).2.1 _ read_spoiledSite not_readable_spoiled with ⟨hway, -⟩ | ⟨-, hreplaced⟩
  · cases hway
  · exact hreplaced

/-- The engine is started, and the file is another one. -/
theorem sync_spoils_file :
    spoiledSite.files.read keepingPlace.components = .ok "\x7bnot json".toUTF8 ∧
      spoiledSite.sync.files.read keepingPlace.components = .ok "[]".toUTF8 :=
  ⟨rfl, rfl⟩

end Site

end Admission
