import Admission.Proofs.Engine.Restart

/-!
# What engines keep for the commands of a host

An engine resolves all commands of the host in turn whenever it looks at the tree.  Where several of
them are equal, the last one for which a plugin is found decides what is kept for all of them.  It
makes no difference how often the engine has looked: as long as the routes to the plugins stay as
they are and nothing was decided in between, the same is kept after every look.  So two engines that
have looked at the same tree find the same for every command, also where equal commands belong to
different scopes.

Main definition: `Site.Attuned` — the resolver is faithful, and keeps what the last look left.

Main results:

* `Site.Attuned.refresh`, `Site.Attuned.sync` — one more look makes no difference;
* `Site.Attuned.byCommand_congr` — **engines that have looked at the same tree find the same**.
-/

set_option autoImplicit false

namespace Admission.Site

open Resolver

/-- The resolver agrees with the host, and has kept what resolving the commands of the host in turn
has to offer. -/
structure Attuned (s : Site) : Prop where
  inTune : s.InTune
  kept : ∀ likeness, Table.get? s.engine.resolver.commands likeness =
    lastOffered s.host s.commandNames likeness

/-- What is kept is at most what resolving the commands in turn has to offer. -/
def KeepsOffered (s : Site) : Prop := ∀ likeness option,
  Table.get? s.engine.resolver.commands likeness = some option →
    lastOffered s.host s.commandNames likeness = some option

theorem bindCommand_engine (s : Site) (command : Option String) :
    (s.bindCommand command).engine =
      { s.engine with resolver := (s.engine.resolver.bind s.host command).2.1 } :=
  reportAll_engine _ _

theorem rebuild_engine (s : Site) : s.rebuild.engine =
    { s.engine with resolver := (s.engine.resolver.rebuild s.host).1 } := reportAll_engine _ _

/-- Resolving commands in turn leaves what they offer, and where they offer nothing what was
kept. -/
theorem get?_foldl_bindCommand {s : Site} (hs : s.InTune) (commands : List String)
    (likeness : String) :
    Table.get? (commands.foldl (fun s c => s.bindCommand (some c)) s).engine.resolver.commands
        likeness =
      (lastOffered s.host commands likeness).or
        (Table.get? s.engine.resolver.commands likeness) := by
  induction commands generalizing s with
  | nil => rfl
  | cons command rest ih =>
      have hhost : (s.bindCommand (some command)).host = s.host :=
        (bindCommand_retunes s (some command)).keepsGuards.host
      rw [List.foldl_cons, ih (hs.bindCommand (some command)), hhost, bindCommand_engine,
        Faithful.get?_bind hs, lastOffered, Option.or_assoc]

namespace Attuned

variable {s t : Site}

theorem of_engine (hs : s.Attuned) (hhost : t.host = s.host)
    (hresolver : t.engine.resolver = s.engine.resolver) : t.Attuned where
  inTune := hs.inTune.of_engine hhost hresolver
  kept := by
    rw [commandNames, hhost, hresolver]
    exact hs.kept

theorem keepsOffered (hs : s.Attuned) : s.KeepsOffered :=
  fun likeness _ hkept => (hs.kept likeness).symm.trans hkept

/-- Looking at the tree leaves what the commands offer, if nothing else was kept before. -/
theorem refresh (hs : s.load.InTune) (hkept : s.load.KeepsOffered) : s.refresh.Attuned where
  inTune := hs.refresh
  kept := by
    intro likeness
    have hhost : s.refresh.host = s.load.host := (refresh_retunes s).keepsGuards.host
    have hfold := get?_foldl_bindCommand hs.rebuild s.load.rebuild.commandNames likeness
    have hrebuilt : s.load.rebuild.host = s.load.host :=
      (reportAll_onlyLogs (s.load.setResolver _) _).keepsGuards.host
    rw [rebuild_engine, commandNames, hrebuilt] at hfold
    rw [commandNames, hhost]
    change Table.get? (Site.report _ _).engine.resolver.commands likeness = _
    rw [report_engine, commandNames, hrebuilt, hfold]
    change (lastOffered s.load.host s.load.commandNames likeness).or
      (Table.get? s.load.engine.resolver.commands likeness) =
        lastOffered s.load.host s.load.commandNames likeness
    -- what was kept is among what is offered, so that it adds nothing
    cases hget : Table.get? s.load.engine.resolver.commands likeness with
    | none => exact Option.or_none
    | some option =>
        rw [hkept likeness option hget]
        rfl

theorem putGuards (hs : s.Attuned) : s.putGuards.Attuned where
  inTune := hs.inTune.putGuards
  kept := by
    intro likeness
    have htree : Host.SameTree s.host s.putGuards.host := by
      rw [putGuards_host]
      exact Ledger.sync_sameTree _ _ _ _
    have hresolver : s.putGuards.engine.resolver = s.engine.resolver := by
      rw [Site.putGuards, reportAll_engine]
      rfl
    rw [hresolver, commandNames, htree.commands, lastOffered_congr htree.sameRoutes]
    exact hs.kept likeness

/-- A round of guards changes no more than predicates. -/
theorem sync (hs : s.load.InTune) (hkept : s.load.KeepsOffered) : s.sync.Attuned := by
  unfold Site.sync
  dsimp only
  split
  · exact refresh hs hkept
  · exact (refresh hs hkept).putGuards

/-- Engines that have looked at the same tree find the same for every command. -/
theorem byCommand_congr (hs : s.Attuned) (ht : t.Attuned) (htree : Host.SameTree s.host t.host)
    (command : Option String) : (t.engine.resolver.byCommand t.host command).1 =
      (s.engine.resolver.byCommand s.host command).1 := by
  refine Faithful.byCommand_congr htree.sameRoutes hs.inTune ht.inTune ?_ command
  intro likeness
  rw [ht.kept, hs.kept, commandNames, commandNames, htree.commands,
    lastOffered_congr htree.sameRoutes]

end Attuned

/-- A new engine has kept nothing when it has read its rules. -/
theorem Unread.load_keepsOffered {path : Path} {s : Site} (h : s.Unread path) :
    s.load.KeepsOffered := by
  obtain ⟨_, _, _, _, -, hload⟩ := h.load_engine
  rw [KeepsOffered, hload]
  exact nofun

theorem Unread.sync_attuned {path : Path} {s : Site} (h : s.Unread path) : s.sync.Attuned :=
  .sync h.load_inTune h.load_keepsOffered

end Admission.Site
