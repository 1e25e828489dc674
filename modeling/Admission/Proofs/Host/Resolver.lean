import Admission.Proofs.Host.Tree
import Admission.Resolver

/-!
# What is kept for commands is what they resolve to

A resolver answers from a picture of the plugin tree and from what it kept for commands.  As long as
the tree stays as it is, neither makes a difference: the answer is the one that a resolver without
any knowledge would find by looking at the tree.

What is kept for a command serves all commands that are equal to it, and these need not belong to
the same scope.  So a command is answered by what it resolves to or by what an equal command does;
where equal commands belong to one scope, that is the same.

The invariant says that a picture which is not stale is the one that the host gives now, and that
every option that is kept is the one that the scope of some command resolves to for which it is
kept.  Every operation of the resolver keeps it, and a change of the host that leaves the routes to
its plugins alone does not break it.

Main definitions:

* `Resolver.ownerOf` — what a command resolves to when nothing is known yet;
* `Resolver.Interchanged`, `Resolver.OneScope` — commands that are equal, and a command whose equals
  belong to its scope;
* `Resolver.Faithful` — the picture and what is kept agree with the host.

Main results:

* `Resolver.Faithful.byCommand` — a faithful resolver answers for a command as one without
  knowledge does for it or an equal one, and stays faithful;
* `Resolver.Faithful.byCommand_of_oneScope` — **it answers as one without knowledge does, where
  equal commands belong to one scope**;
* `Resolver.Faithful.byCommand_congr` — what is kept and the routes are all that an answer goes by;
* `Resolver.Faithful.rebuild`, `Resolver.Faithful.bind` — so it does when it looks at the tree
  again;
* `Resolver.Faithful.of_sameRoutes` — it is faithful to all hosts with the same routes.
-/

set_option autoImplicit false

namespace Admission.Resolver

/-! ### The picture that a host gives -/

/-- The picture is the one that the host gives. -/
structure Pictures (r : Resolver) (h : Host) : Prop where
  options : r.options = h.pluginOptions
  scopes : r.scopes = scopesOf h h.pluginOptions

/-- What a scope resolves to when nothing is known yet. -/
def ownerAt (h : Host) (scope : Option String) : Option PluginOption := (empty.byScope h scope).1

/-- What a command resolves to when nothing is known yet. -/
def ownerOf (h : Host) (command : Option String) : Option PluginOption :=
  ownerAt h (scopeOf h command)

section Routes

variable {h h' : Host}

theorem scopesOf_congr (heq : Host.SameRoutes h h') (options : List PluginOption) :
    scopesOf h' options = scopesOf h options := by
  simp only [scopesOf, heq.registrations_eq, heq.contextOf, heq.scopeAt]

theorem Pictures.of_sameRoutes {r : Resolver} (heq : Host.SameRoutes h h') (hr : r.Pictures h) :
    r.Pictures h' where
  options := by rw [hr.options, heq.pluginOptions_eq]
  scopes := by rw [hr.scopes, heq.pluginOptions_eq, scopesOf_congr heq]

theorem lookup_congr (heq : Host.SameRoutes h h') (r : Resolver) (scope : String) :
    r.lookup h' scope = r.lookup h scope := by
  rw [lookup, lookup, byPath, byPath, heq.tellsPaths, heq.pathOf]

theorem nameOf_congr (heq : Host.SameTree h h') (command : Option String) :
    nameOf h' command = nameOf h command := by
  rw [nameOf, nameOf, heq.command?_eq]

theorem scopeOf_congr (heq : Host.SameRoutes h h') (command : Option String) :
    scopeOf h' command = scopeOf h command := heq.scopeOf command

end Routes

/-! ### Pictures that agree answer alike -/

section Answers

variable {r q : Resolver} {h : Host}

theorem pictures_rebuild (r : Resolver) (h : Host) : (r.rebuild h).1.Pictures h := ⟨rfl, rfl⟩

/-- Resolvers with the picture of the host find the same. -/
theorem lookup_eq_of_pictures (hr : r.Pictures h) (hq : q.Pictures h) (scope : String) :
    r.lookup h scope = q.lookup h scope := by
  have hget : ∀ key, r.get? key = q.get? key := fun key => by
    rw [get?, get?, hr.options, hq.options]
  rw [lookup, lookup, byPath, byPath, hr.scopes, hq.scopes]
  simp only [hget]

/-- A picture that went stale is made anew, any other still shows what it showed. -/
theorem pictures_fresh (now : Host) {seen : Host} (hr : r.stale = false → r.Pictures seen) :
    (r.fresh now).1.Pictures (if r.stale then now else seen) := by
  unfold fresh
  cases hstale : r.stale with
  | true => exact pictures_rebuild r now
  | false => exact hr hstale

theorem fresh_empty (h : Host) : (empty.fresh h).1.Pictures h := pictures_rebuild empty h

theorem ownerAt_some (h : Host) (scope : String) :
    ownerAt h (some scope) = (empty.fresh h).1.lookup h scope := rfl

/-- A host with the same routes gives the same answers. -/
theorem ownerAt_congr {h' : Host} (heq : Host.SameRoutes h h') (scope : Option String) :
    ownerAt h' scope = ownerAt h scope := by
  cases scope with
  | none => rfl
  | some scope =>
      calc ownerAt h' (some scope)
          = (empty.fresh h').1.lookup h' scope := ownerAt_some h' scope
        _ = (empty.fresh h).1.lookup h' scope :=
            lookup_eq_of_pictures (fresh_empty h') ((fresh_empty h).of_sameRoutes heq) scope
        _ = (empty.fresh h).1.lookup h scope := lookup_congr heq _ scope
        _ = ownerAt h (some scope) := (ownerAt_some h scope).symm

theorem ownerOf_congr {h' : Host} (heq : Host.SameRoutes h h') (command : Option String) :
    ownerOf h' command = ownerOf h command := by
  rw [ownerOf, ownerOf, scopeOf_congr heq, ownerAt_congr heq]

end Answers

/-! ### Equal commands -/

/-- The commands are equal, and something may be kept for them: what is kept for one of them is an
answer for the other. -/
def Interchanged (h : Host) (command other : Option String) : Prop :=
  ∃ likeness, h.keptUnder? command = some likeness ∧ h.keptUnder? other = some likeness

/-- The commands that are equal to a command belong to its scope.  Something is kept for a command
because its owner never changes; a table that is looked up by equality takes equal commands for one,
whose owner must not change with the one that is at hand.  This is for the host to see to, as it
decides which commands are equal. -/
def OneScope (h : Host) (command : Option String) : Prop :=
  ∀ other, Interchanged h other command → scopeOf h other = scopeOf h command

theorem OneScope.of_sameRoutes {h h' : Host} (heq : Host.SameRoutes h h') {command : Option String}
    (hscope : OneScope h command) : OneScope h' command := by
  rintro other ⟨likeness, hother, hcommand⟩
  rw [heq.keptUnder] at hother hcommand
  rw [scopeOf_congr heq, scopeOf_congr heq]
  exact hscope other ⟨likeness, hother, hcommand⟩

/-! ### Faithful resolvers -/

/-- A picture that is not stale is the one of the host, and what is kept under a likeness is what
some command of that likeness resolves to. -/
structure Faithful (r : Resolver) (h : Host) : Prop where
  pictures : r.stale = false → r.Pictures h
  kept : ∀ likeness option, Table.get? r.commands likeness = some option →
    ∃ command, h.keptUnder? command = some likeness ∧ ownerOf h command = some option

theorem empty_faithful (h : Host) : empty.Faithful h := ⟨nofun, nofun⟩

namespace Faithful

variable {r : Resolver} {h : Host}

theorem of_sameRoutes {h' : Host} (heq : Host.SameRoutes h h') (hr : r.Faithful h) :
    r.Faithful h' where
  pictures := fun hstale => (hr.pictures hstale).of_sameRoutes heq
  kept := by
    intro likeness option hkept
    obtain ⟨command, hlikeness, howner⟩ := hr.kept likeness option hkept
    exact ⟨command, (heq.keptUnder command).trans hlikeness,
      (ownerOf_congr heq command).trans howner⟩

theorem rebuild (hr : r.Faithful h) : (r.rebuild h).1.Faithful h :=
  ⟨fun _ => pictures_rebuild r h, hr.kept⟩

theorem invalidate (hr : r.Faithful h) : r.invalidate.Faithful h := ⟨nofun, hr.kept⟩

/-- A picture is made when it is stale, so that afterwards it is the one of the host. -/
theorem fresh (hr : r.Faithful h) : (r.fresh h).1.Faithful h ∧ (r.fresh h).1.Pictures h := by
  have hpictures := pictures_fresh h hr.pictures
  rw [ite_self] at hpictures
  refine ⟨?_, hpictures⟩
  unfold Resolver.fresh
  split
  · exact hr.rebuild
  · exact hr

theorem byScope (hr : r.Faithful h) (scope : Option String) :
    (r.byScope h scope).1 = ownerAt h scope ∧ (r.byScope h scope).2.1.Faithful h := by
  cases scope with
  | none => exact ⟨rfl, hr⟩
  | some scope =>
      exact ⟨lookup_eq_of_pictures hr.fresh.2 (fresh_empty h) scope, hr.fresh.1⟩

/-- Keeping what a command resolves to. -/
theorem keep (hr : r.Faithful h) {command : Option String} {option : PluginOption}
    (howner : ownerOf h command = some option) : (r.keep h command option).1.Faithful h := by
  unfold Resolver.keep
  split
  · next likeness hlikeness =>
      refine ⟨fun hstale => ⟨(hr.pictures hstale).options, (hr.pictures hstale).scopes⟩, ?_⟩
      intro other found hfound
      rw [Table.get?_set] at hfound
      split at hfound
      · next hother =>
          cases hfound
          exact ⟨command, hother ▸ hlikeness, howner⟩
      · exact hr.kept other found hfound
  · exact hr

/-- Resolving a command by its scope finds its owner. -/
theorem resolve (hr : r.Faithful h) (command : Option String) (miss found : String) :
    (r.resolve h command miss found).1 = ownerOf h command ∧
      (r.resolve h command miss found).2.1.Faithful h := by
  obtain ⟨hfst, hfaithful⟩ := hr.byScope (scopeOf h command)
  unfold Resolver.resolve
  rcases hscope : r.byScope h (scopeOf h command) with ⟨owner, q, reports⟩
  rw [hscope] at hfst hfaithful
  cases owner with
  | none => exact ⟨hfst, hfaithful⟩
  | some option => exact ⟨hfst, hfaithful.keep hfst.symm⟩

theorem bind (hr : r.Faithful h) (command : Option String) : (r.bind h command).2.1.Faithful h :=
  (hr.resolve command _ _).2

/-- A command is answered by its owner or, from what is kept, by the owner of an equal command. -/
theorem byCommand (hr : r.Faithful h) (command : Option String) :
    (∃ other, (other = command ∨ Interchanged h other command) ∧
      (r.byCommand h command).1 = ownerOf h other) ∧ (r.byCommand h command).2.1.Faithful h := by
  unfold Resolver.byCommand
  split
  · next option hoption =>
      obtain ⟨likeness, hlikeness, hkept⟩ := Option.bind_eq_some_iff.1 hoption
      obtain ⟨other, hother, howner⟩ := hr.kept likeness option hkept
      exact ⟨⟨other, .inr ⟨likeness, hother, hlikeness⟩, howner.symm⟩, hr⟩
  · obtain ⟨hfst, hfaithful⟩ :=
      hr.resolve command "resolver:resolve:miss" "resolver:resolve:resolved"
    exact ⟨⟨command, .inl rfl, hfst⟩, hfaithful⟩

/-- Where the commands that are equal to a command belong to its scope, it does not matter for
which of them something is kept. -/
theorem byCommand_of_oneScope (hr : r.Faithful h) {command : Option String}
    (hscope : OneScope h command) : (r.byCommand h command).1 = ownerOf h command := by
  obtain ⟨other, hother, howner⟩ := (hr.byCommand command).1
  rcases hother with rfl | hequal
  · exact howner
  · rw [howner, ownerOf, ownerOf, hscope other hequal]

/-- Resolvers that have kept the same answer alike, on hosts with the same routes. -/
theorem byCommand_congr {q : Resolver} {h' : Host} (heq : Host.SameRoutes h h')
    (hr : r.Faithful h) (hq : q.Faithful h')
    (hkept : ∀ likeness, Table.get? q.commands likeness = Table.get? r.commands likeness)
    (command : Option String) : (q.byCommand h' command).1 = (r.byCommand h command).1 := by
  have hcache : (h'.keptUnder? command).bind (Table.get? q.commands) =
      (h.keptUnder? command).bind (Table.get? r.commands) := by
    rw [heq.keptUnder]
    exact congrArg _ (funext hkept)
  unfold Resolver.byCommand
  rw [hcache]
  split
  · rfl
  · rw [(hq.resolve command _ _).1, (hr.resolve command _ _).1, ownerOf_congr heq]

end Faithful

/-! ### What is kept when commands are resolved in turn -/

section Bound

variable {r : Resolver} {h : Host}

/-- What resolving a command has to offer for a likeness. -/
def offered (h : Host) (command likeness : String) : Option PluginOption :=
  if h.keptUnder? (some command) = some likeness then ownerOf h (some command) else none

/-- What is kept for a likeness when commands were resolved in turn: what the last one offers that
offers something. -/
def lastOffered (h : Host) : List String → String → Option PluginOption
  | [], _ => none
  | command :: rest, likeness => (lastOffered h rest likeness).or (offered h command likeness)

theorem lastOffered_congr {h' : Host} (heq : Host.SameRoutes h h') (commands : List String)
    (likeness : String) : lastOffered h' commands likeness = lastOffered h commands likeness := by
  induction commands with
  | nil => rfl
  | cons command rest ih =>
      rw [lastOffered, lastOffered, ih, offered, offered, heq.keptUnder, ownerOf_congr heq]

theorem fresh_commands (r : Resolver) (h : Host) : (r.fresh h).1.commands = r.commands := by
  unfold fresh
  split <;> rfl

theorem byScope_commands (r : Resolver) (h : Host) (scope : Option String) :
    (r.byScope h scope).2.1.commands = r.commands := by
  cases scope with
  | none => rfl
  | some scope => exact fresh_commands r h

theorem get?_keep (r : Resolver) (h : Host) (command : Option String) (option : PluginOption)
    (likeness : String) : Table.get? (r.keep h command option).1.commands likeness =
      if h.keptUnder? command = some likeness then some option
      else Table.get? r.commands likeness := by
  unfold keep
  cases h.keptUnder? command with
  | none => rfl
  | some kept =>
      dsimp only
      rw [Table.get?_set]
      simp only [Option.some.injEq, eq_comm]

/-- Resolving a command anew puts what it offers in place of what was kept. -/
theorem Faithful.get?_bind (hr : r.Faithful h) (command likeness : String) :
    Table.get? (r.bind h (some command)).2.1.commands likeness =
      (offered h command likeness).or (Table.get? r.commands likeness) := by
  have hfst := (hr.byScope (scopeOf h (some command))).1
  have hsame := byScope_commands r h (scopeOf h (some command))
  unfold Resolver.bind Resolver.resolve
  rcases hscope : r.byScope h (scopeOf h (some command)) with ⟨owner, q, reports⟩
  rw [hscope] at hfst hsame
  dsimp only at hfst hsame
  rw [← ownerOf] at hfst
  rw [offered, ← hfst]
  cases owner with
  | none => simp [hsame]
  | some option =>
      dsimp only
      rw [get?_keep, hsame]
      split <;> rfl

end Bound

end Admission.Resolver
