import Admission.Proofs.Host.Picture

/-!
# Enquiries while the host changes

A resolver is asked again and again while its host changes.  It looks at the tree when it is told to
and when it is asked after its picture went stale.  In between its answers come from the picture,
however much the tree has changed.  Every look is reported, so it can be told from outside which
tree a picture shows: the one that the host had when the last look was reported.

All questions are answered from that one picture.  The plugin that a scope resolves to is one of
those that would be listed at that moment, and so is the one that is found under a key.  Only the
keys that lead from a scope upwards are asked of the host anew.

Main definitions:

* `Resolver.Question`, `Resolver.ask` — what a resolver is asked, and what becomes of it;
* `Resolver.Answers` — what a resolver answers when its picture shows a host;
* `Resolver.Course` — a resolver and its host in the course of time;
* `Resolver.Course.pictured` — the host that the picture shows to whoever asks next.

Main results:

* `Resolver.ask_looks` — what a question does to the picture;
* `Resolver.Course.Sound.run` — the picture shows the host as it was seen last;
* `Resolver.Course.run_answers` — **all answers come from the picture that was made last**.
-/

set_option autoImplicit false

namespace Admission

/-- The report tells that the tree was looked at. -/
def Report.tellsLook : Report → Bool
  | .trace e => e.stage == "resolver:rebuild:done"
  | .entry _ => false

namespace Resolver

/-! ### Questions -/

/-- What a resolver is asked. -/
inductive Question where
  | list
  | key (key : String)
  | scope (scope : Option String)
  | command (command : Option String)
  | bind (command : Option String)

/-- What becomes of a resolver by a question, and what is reported. -/
def ask (r : Resolver) (h : Host) : Question → Resolver × List Report
  | .list => (r.list h).2
  | .key key => (r.byKey h key).2
  | .scope scope => (r.byScope h scope).2
  | .command command => (r.byCommand h command).2
  | .bind command => (r.bind h command).2

/-- A question leaves the picture as it is, and reports no look; or the picture was stale, the
resolver looked at the tree, and it reports that. -/
inductive Looks (r : Resolver) (h : Host) : Resolver × List Report → Prop where
  | away {next : Resolver} {reports : List Report} (hoptions : next.options = r.options)
      (hscopes : next.scopes = r.scopes) (hstale : next.stale = r.stale)
      (hreports : reports.any Report.tellsLook = false) : Looks r h (next, reports)
  | anew {next : Resolver} {reports : List Report} (hstale : r.stale = true)
      (hpictures : next.Pictures h) (hfresh : next.stale = false)
      (hreports : reports.any Report.tellsLook = true) : Looks r h (next, reports)

section Looks

variable (r : Resolver) (h : Host)

theorem fresh_looks : Looks r h (r.fresh h) := by
  unfold fresh
  split
  · next hstale => exact .anew hstale (pictures_rebuild r h) rfl rfl
  · exact .away rfl rfl rfl rfl

variable {r h} in
/-- What a resolver keeps for a command is no part of its picture, and is not reported as a look. -/
theorem Looks.later {next later : Resolver} {reports more : List Report}
    (hlooks : Looks r h (next, reports)) (hoptions : later.options = next.options)
    (hscopes : later.scopes = next.scopes) (hstale : later.stale = next.stale)
    (hmore : more.any Report.tellsLook = false) : Looks r h (later, reports ++ more) := by
  cases hlooks with
  | away hoptions' hscopes' hstale' hreports =>
      exact .away (hoptions.trans hoptions') (hscopes.trans hscopes') (hstale.trans hstale')
        (by rw [List.any_append, hreports, hmore]; rfl)
  | anew hwas hpictures hfresh hreports =>
      exact .anew hwas ⟨hoptions.trans hpictures.options, hscopes.trans hpictures.scopes⟩
        (hstale.trans hfresh) (by rw [List.any_append, hreports]; rfl)

theorem byScope_looks (scope : Option String) : Looks r h (r.byScope h scope).2 := by
  cases scope with
  | none => exact .away rfl rfl rfl rfl
  | some scope => exact fresh_looks r h

theorem keep_away (command : Option String) (option : PluginOption) :
    (r.keep h command option).1.options = r.options ∧
      (r.keep h command option).1.scopes = r.scopes ∧
      (r.keep h command option).1.stale = r.stale ∧
      (r.keep h command option).2.any Report.tellsLook = false := by
  unfold keep
  split
  · exact ⟨rfl, rfl, rfl, rfl⟩
  · exact ⟨rfl, rfl, rfl, rfl⟩

theorem resolve_looks (command : Option String) {miss found : String}
    (hmiss : miss ≠ "resolver:rebuild:done") (hfound : found ≠ "resolver:rebuild:done") :
    Looks r h (r.resolve h command miss found).2 := by
  have hlooks := byScope_looks r h (scopeOf h command)
  unfold resolve
  rcases hscope : r.byScope h (scopeOf h command) with ⟨option, next, reports⟩
  rw [hscope] at hlooks
  cases option with
  | none => exact hlooks.later rfl rfl rfl (by simpa [Report.of, Report.tellsLook] using hmiss)
  | some option =>
      -- the scope was looked up before anything was kept, so its reports come first
      obtain ⟨hoptions, hscopes, hstale, hnotes⟩ := keep_away next h command option
      dsimp only
      rw [List.append_assoc]
      refine hlooks.later hoptions hscopes hstale ?_
      rw [List.any_append, hnotes]
      simpa [Report.of, Report.tellsLook] using hfound

theorem byCommand_looks (command : Option String) : Looks r h (r.byCommand h command).2 := by
  unfold byCommand
  split
  · exact .away rfl rfl rfl rfl
  · exact resolve_looks r h command (by decide) (by decide)

/-- What a question does to the picture. -/
theorem ask_looks (q : Question) : Looks r h (r.ask h q) := by
  cases q with
  | list => exact fresh_looks r h
  | key key => exact fresh_looks r h
  | scope scope => exact byScope_looks r h scope
  | command command => exact byCommand_looks r h command
  | bind command => exact resolve_looks r h command (by decide) (by decide)

end Looks

/-! ### What is answered -/

/-- The resolver answers from a picture that shows the host as it was seen. -/
structure Answers (r : Resolver) (seen now : Host) : Prop where
  /-- All plugins are listed that rules could name. -/
  list : (r.list now).1 = seen.pluginOptions
  /-- Under a key there is the one of them that has the key. -/
  byKey : ∀ key option, (r.byKey now key).1 = some option ↔
    option ∈ seen.pluginOptions ∧ option.key = key
  /-- Without a scope there is nothing. -/
  noScope : (r.byScope now none).1 = none
  /-- A scope has the plugin that it resolves to. -/
  byScope : ∀ scope answer, (r.byScope now (some scope)).1 = answer ↔
    Resolves seen now scope answer
  /-- Whatever a scope has is listed at the same time. -/
  listed : ∀ scope option, (r.byScope now scope).1 = some option → option ∈ (r.list now).1

theorem Answers.of_pictures {r : Resolver} {seen now : Host}
    (hr : (r.fresh now).1.Pictures seen) : r.Answers seen now where
  list := hr.options
  byKey := fun _ _ => get?_eq_some_iff hr
  noScope := rfl
  byScope := fun _ _ => lookup_eq_iff hr
  listed := by
    intro scope option hscope
    cases scope with
    | none => cases hscope
    | some scope =>
        have hlist : (r.list now).1 = seen.pluginOptions := hr.options
        rw [hlist]
        exact ((lookup_eq_iff hr).1 hscope).mem_pluginOptions

/-! ### The course of time -/

/-- The resolver without what was kept under a likeness. -/
def forget (r : Resolver) (likeness : String) : Resolver :=
  { r with commands := r.commands.erase likeness }

/-- A resolver and its host in the course of time. -/
structure Course where
  host : Host
  resolver : Resolver
  /-- The host as it was when the tree was looked at, none when it has to be looked at again. -/
  seen : Option Host

/-- Something that happens. -/
inductive Event where
  | ask (q : Question)
  | rebuild
  | invalidate
  /-- The host changes, in whatever way. -/
  | change (host : Host)
  /-- A command of this likeness is dropped, and what was kept for it goes with it. -/
  | drop (likeness : String)

namespace Course

/-- Nobody has asked yet. -/
def start (h : Host) : Course := ⟨h, .empty, none⟩

/-- After a question the resolver is another one, and a look that it reports is taken down. -/
def hear (c : Course) (outcome : Resolver × List Report) : Course where
  host := c.host
  resolver := outcome.1
  seen := if outcome.2.any Report.tellsLook then some c.host else c.seen

theorem seen_hear_of_away (c : Course) (next : Resolver) {reports : List Report}
    (hreports : reports.any Report.tellsLook = false) :
    (c.hear (next, reports)).seen = c.seen := by
  simp [hear, hreports]

theorem seen_hear_of_look (c : Course) (next : Resolver) {reports : List Report}
    (hreports : reports.any Report.tellsLook = true) :
    (c.hear (next, reports)).seen = some c.host := by
  simp [hear, hreports]

def step (c : Course) : Event → Course
  | .ask q => c.hear (c.resolver.ask c.host q)
  | .rebuild => { c with resolver := (c.resolver.rebuild c.host).1, seen := some c.host }
  | .invalidate => { c with resolver := c.resolver.invalidate, seen := none }
  | .change host => { c with host := host }
  | .drop likeness => { c with resolver := c.resolver.forget likeness }

def run (c : Course) (events : List Event) : Course := events.foldl step c

/-- The host that the picture shows to whoever asks next. -/
def pictured (c : Course) : Host := c.seen.getD c.host

/-- The picture shows the host as it was seen, and is stale when the host has to be looked at
again. -/
structure Sound (c : Course) : Prop where
  stale : c.resolver.stale = c.seen.isNone
  shown : ∀ h, c.seen = some h → c.resolver.Pictures h

theorem start_sound (h : Host) : (start h).Sound := ⟨rfl, nofun⟩

namespace Sound

variable {c : Course}

/-- Whoever asks is answered from the picture of the host that is said to be pictured. -/
theorem pictures (hc : c.Sound) : (c.resolver.fresh c.host).1.Pictures c.pictured := by
  unfold pictured fresh
  rw [hc.stale]
  cases hseen : c.seen with
  | none => exact pictures_rebuild c.resolver c.host
  | some h => exact hc.shown h hseen

theorem hear (hc : c.Sound) {outcome : Resolver × List Report}
    (hlooks : Looks c.resolver c.host outcome) : (c.hear outcome).Sound := by
  cases hlooks with
  | @away next reports hoptions hscopes hstale hreports =>
      have hseen := seen_hear_of_away c next hreports
      refine ⟨?_, ?_⟩
      · rw [hseen]
        exact hstale.trans hc.stale
      · intro h hshown
        have hpictures := hc.shown h (hseen.symm.trans hshown)
        exact ⟨hoptions.trans hpictures.options, hscopes.trans hpictures.scopes⟩
  | @anew next reports hstale hpictures hfresh hreports =>
      -- what was seen before does not matter any more
      have hseen := seen_hear_of_look c next hreports
      refine ⟨?_, ?_⟩
      · rw [hseen]
        exact hfresh
      · intro h hshown
        obtain rfl := Option.some.inj (hseen.symm.trans hshown)
        exact hpictures

theorem step (hc : c.Sound) (event : Event) : (c.step event).Sound := by
  cases event with
  | ask q => exact hc.hear (ask_looks c.resolver c.host q)
  | rebuild =>
      refine ⟨rfl, ?_⟩
      intro h hshown
      obtain rfl := Option.some.inj hshown
      exact pictures_rebuild c.resolver c.host
  | invalidate => exact ⟨rfl, nofun⟩
  | change host => exact ⟨hc.stale, hc.shown⟩
  | drop command =>
      exact ⟨hc.stale, fun h hshown => ⟨(hc.shown h hshown).options, (hc.shown h hshown).scopes⟩⟩

theorem run (hc : c.Sound) (events : List Event) : (c.run events).Sound := by
  induction events generalizing c with
  | nil => exact hc
  | cons event events ih => exact ih (hc.step event)

/-- A question does not change what the picture shows: if it makes the resolver look, then there was
nothing to be relied on before. -/
theorem pictured_ask (hc : c.Sound) (q : Question) :
    (c.step (.ask q)).pictured = c.pictured := by
  have hlooks := ask_looks c.resolver c.host q
  simp only [Course.step]
  generalize c.resolver.ask c.host q = outcome at hlooks
  cases hlooks with
  | @away next reports hoptions hscopes hstale hreports =>
      rw [pictured, seen_hear_of_away c next hreports]
      rfl
  | @anew next reports hstale hpictures hfresh hreports =>
      have hseen : c.seen = none := Option.isNone_iff_eq_none.1 (hc.stale.symm.trans hstale)
      rw [pictured, pictured, seen_hear_of_look c next hreports, hseen]
      rfl

end Sound

/-- At every time all answers come from one picture.  It shows the host as it was when the tree was
looked at last, or as it is when the picture is stale; and questions do not change what it shows. -/
theorem run_answers (h : Host) (events : List Event) :
    ((start h).run events).resolver.Answers ((start h).run events).pictured
        ((start h).run events).host ∧
      ∀ q : Question,
        (((start h).run events).step (.ask q)).pictured = ((start h).run events).pictured := by
  have hsound : ((start h).run events).Sound := (start_sound h).run events
  exact ⟨.of_pictures hsound.pictures, hsound.pictured_ask⟩

end Course

end Resolver

end Admission
