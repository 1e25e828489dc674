import Admission.Host.Walk
import Admission.Proofs.Table

/-!
# Predicates are no part of the tree

Two hosts have the same tree when they differ in the predicates of their contexts at most.  Walks
through the tree never look at a predicate, so hosts with the same tree list the same registrations
and the same forks.

Whoever looks for the plugin of a scope or of a command reads less than the whole tree.  Hosts with
the same routes agree in as much as that; they may have other commands and admit sessions to other
forks.

Main definitions:

* `Host.SameTree` — two hosts that differ in predicates at most;
* `Host.SameRoutes` — two hosts in which plugins are found on the same ways.

Main results:

* `Host.predicate?_setPredicate` — what a context has for a predicate after a change;
* `Host.setPredicate_sameTree` — changing a predicate leaves the tree alone;
* `Host.SameRoutes.pluginOptions_eq` — the same routes lead to the same plugins for rules to name;
* `Host.SameTree.pluginForks_eq` — **the same tree has the same forks**.
-/

set_option autoImplicit false

namespace Admission.Host

/-! ### Changing a predicate -/

theorem get?_setPredicate (h : Host) (context : String) (p : Option Predicate) (other : String) :
    Table.get? (h.setPredicate context p).contexts other =
      if other = context then
        (Table.get? h.contexts other).map fun c => { c with predicate := p }
      else Table.get? h.contexts other :=
  Table.get?_modify h.contexts context (fun c => { c with predicate := p }) other

/-- The other contexts keep everything. -/
theorem get?_setPredicate_of_ne (h : Host) {context other : String} (hne : other ≠ context)
    (p : Option Predicate) :
    Table.get? (h.setPredicate context p).contexts other = Table.get? h.contexts other := by
  rw [get?_setPredicate, if_neg hne]

/-- A context that had a predicate has the one that it was given. -/
theorem predicate?_setPredicate_self {h : Host} {context : String} {base : Predicate}
    (hbase : h.predicate? context = some base) (p : Predicate) :
    (h.setPredicate context (some p)).predicate? context = some p := by
  rw [predicate?] at hbase
  obtain ⟨c, hc, _⟩ := Option.bind_eq_some_iff.1 hbase
  rw [predicate?, get?_setPredicate, if_pos rfl, hc]
  rfl

/-! ### The steps of a walk -/

section Walk

variable (h : Host) (prune : Option String → Bool) {visited : List String}
  {context : Option String} {stack : List (Option String)} {name : String}
  {registrations : List Registration}

/-- A context without records is passed over. -/
theorem walk_of_none (hnone : h.recordsAt? context = none) :
    h.walk prune visited (context :: stack) = h.walk prune visited stack := by
  rw [walk]
  split
  · rfl
  · next hsome =>
      rw [hnone] at hsome
      cases hsome

/-- Records that were visited are passed over. -/
theorem walk_of_visited (hsome : h.recordsAt? context = some (name, registrations))
    (hvisited : visited.contains name = true) :
    h.walk prune visited (context :: stack) = h.walk prune visited stack := by
  rw [walk]
  split
  · rfl
  · next hother =>
      rw [hsome] at hother
      cases hother
      rw [dif_pos hvisited]

/-- Records that were not visited are listed, and their forks come next. -/
theorem walk_of_new (hsome : h.recordsAt? context = some (name, registrations))
    (hnew : ¬visited.contains name = true) :
    h.walk prune visited (context :: stack) =
      registrations.filter (fun r => !prune r.fork) ++ h.walk prune (name :: visited)
        ((registrations.filter fun r => !prune r.fork).map (fun r => h.contextOf? r.fork)
          ++ stack) := by
  rw [walk]
  split
  · next hnone =>
      rw [hsome] at hnone
      cases hnone
  · next hother =>
      rw [hsome] at hother
      cases hother
      rw [dif_neg hnew]

end Walk

/-! ### The same tree -/

/-- The hosts differ in the predicates of their contexts at most, as far as walks can tell and as
far as commands are concerned. -/
structure SameTree (h h' : Host) : Prop where
  root : h'.root = h.root
  scopeAt : ∀ context, h'.scopeAt? context = h.scopeAt? context
  scopes : h'.scopes = h.scopes
  records : h'.records = h.records
  forks : h'.forks = h.forks
  commands : h'.commands = h.commands
  commandTable : h'.commandTable = h.commandTable
  paths : h'.paths = h.paths

theorem SameTree.refl (h : Host) : SameTree h h :=
  ⟨rfl, fun _ => rfl, rfl, rfl, rfl, rfl, rfl, rfl⟩

theorem SameTree.trans {h h' h'' : Host} (h₁ : SameTree h h') (h₂ : SameTree h' h'') :
    SameTree h h'' where
  root := h₂.root.trans h₁.root
  scopeAt := fun context => (h₂.scopeAt context).trans (h₁.scopeAt context)
  scopes := h₂.scopes.trans h₁.scopes
  records := h₂.records.trans h₁.records
  forks := h₂.forks.trans h₁.forks
  commands := h₂.commands.trans h₁.commands
  commandTable := h₂.commandTable.trans h₁.commandTable
  paths := h₂.paths.trans h₁.paths

theorem setPredicate_sameTree (h : Host) (context : String) (p : Option Predicate) :
    SameTree h (h.setPredicate context p) where
  root := rfl
  scopeAt := by
    intro name
    cases name with
    | none => rfl
    | some name =>
        simp only [scopeAt?, context?, Option.bind_some, get?_setPredicate]
        split
        · cases Table.get? h.contexts name <;> rfl
        · rfl
  scopes := rfl
  records := rfl
  forks := rfl
  commands := rfl
  commandTable := rfl
  paths := rfl

/-! ### The same routes -/

/-- Plugins are found on the same ways in both hosts: through records and forks from the root
downwards, along the keys that lead from a scope upwards, and from a command to its scope.  Commands
that were equal are equal. -/
structure SameRoutes (h h' : Host) : Prop where
  root : h'.root = h.root
  recordsAt : ∀ context, h'.recordsAt? context = h.recordsAt? context
  contextOf : ∀ fork, h'.contextOf? fork = h.contextOf? fork
  scopeAt : ∀ context, h'.scopeAt? context = h.scopeAt? context
  optedOut : ∀ fork, h'.optedOut fork = h.optedOut fork
  tellsPaths : h'.tellsPaths = h.tellsPaths
  pathOf : ∀ scope, h'.pathOf scope = h.pathOf scope
  scopeOf : ∀ command,
    (h'.command? command).bind (·.scope) = (h.command? command).bind (·.scope)
  keptUnder : ∀ command, h'.keptUnder? command = h.keptUnder? command

namespace SameRoutes

variable {h h' h'' : Host}

theorem refl (h : Host) : SameRoutes h h :=
  ⟨rfl, fun _ => rfl, fun _ => rfl, fun _ => rfl, fun _ => rfl, rfl, fun _ => rfl, fun _ => rfl,
    fun _ => rfl⟩

theorem symm (heq : SameRoutes h h') : SameRoutes h' h where
  root := heq.root.symm
  recordsAt := fun context => (heq.recordsAt context).symm
  contextOf := fun fork => (heq.contextOf fork).symm
  scopeAt := fun context => (heq.scopeAt context).symm
  optedOut := fun fork => (heq.optedOut fork).symm
  tellsPaths := heq.tellsPaths.symm
  pathOf := fun scope => (heq.pathOf scope).symm
  scopeOf := fun command => (heq.scopeOf command).symm
  keptUnder := fun command => (heq.keptUnder command).symm

theorem trans (h₁ : SameRoutes h h') (h₂ : SameRoutes h' h'') : SameRoutes h h'' where
  root := h₂.root.trans h₁.root
  recordsAt := fun context => (h₂.recordsAt context).trans (h₁.recordsAt context)
  contextOf := fun fork => (h₂.contextOf fork).trans (h₁.contextOf fork)
  scopeAt := fun context => (h₂.scopeAt context).trans (h₁.scopeAt context)
  optedOut := fun fork => (h₂.optedOut fork).trans (h₁.optedOut fork)
  tellsPaths := h₂.tellsPaths.trans h₁.tellsPaths
  pathOf := fun scope => (h₂.pathOf scope).trans (h₁.pathOf scope)
  scopeOf := fun command => (h₂.scopeOf command).trans (h₁.scopeOf command)
  keptUnder := fun command => (h₂.keptUnder command).trans (h₁.keptUnder command)

/-- A walk takes the same way. -/
theorem walk_eq (heq : SameRoutes h h') (prune : Option String → Bool) (visited : List String)
    (stack : List (Option String)) :
    h'.walk prune visited stack = h.walk prune visited stack := by
  induction visited, stack using walk.induct h prune with
  | case1 visited => rw [walk, walk]
  | case2 visited context stack hnone ih =>
      rw [walk_of_none h prune hnone, walk_of_none h' prune ((heq.recordsAt _).trans hnone), ih]
  | case3 visited context stack name registrations hsome hvisited ih =>
      rw [walk_of_visited h prune hsome hvisited,
        walk_of_visited h' prune ((heq.recordsAt _).trans hsome) hvisited, ih]
  | case4 visited context stack name registrations hsome hnew _ kept ih =>
      rw [walk_of_new h prune hsome hnew,
        walk_of_new h' prune ((heq.recordsAt _).trans hsome) hnew, ← ih]
      simp only [heq.contextOf, kept]

theorem registrationsWithout_eq (heq : SameRoutes h h') (prune : Option String → Bool) :
    h'.registrationsWithout prune = h.registrationsWithout prune := by
  rw [registrationsWithout, registrationsWithout, heq.walk_eq, heq.root]

theorem registrations_eq (heq : SameRoutes h h') : h'.registrations = h.registrations :=
  heq.registrationsWithout_eq _

/-- The same routes lead to the same plugins for rules to name. -/
theorem pluginOptions_eq (heq : SameRoutes h h') : h'.pluginOptions = h.pluginOptions := by
  rw [pluginOptions, pluginOptions, funext heq.optedOut, heq.registrationsWithout_eq]

end SameRoutes

namespace SameTree

variable {h h' : Host}

theorem contextOf?_eq (heq : SameTree h h') (fork : Option String) :
    h'.contextOf? fork = h.contextOf? fork := by
  rw [contextOf?, contextOf?, fork?, fork?, heq.forks]

theorem parentOf?_eq (heq : SameTree h h') (fork : Option String) :
    h'.parentOf? fork = h.parentOf? fork := by
  rw [parentOf?, parentOf?, fork?, fork?, heq.forks]

theorem command?_eq (heq : SameTree h h') (name : Option String) :
    h'.command? name = h.command? name := by
  rw [command?, command?, heq.commandTable]

/-- Hosts with the same tree have the same routes. -/
theorem sameRoutes (heq : SameTree h h') : SameRoutes h h' where
  root := heq.root
  recordsAt := fun context => by
    rw [recordsAt?, recordsAt?, recordsNameAt?, recordsNameAt?, heq.scopeAt, heq.scopes,
      heq.records]
  contextOf := heq.contextOf?_eq
  scopeAt := heq.scopeAt
  optedOut := fun fork => by rw [optedOut, optedOut, fork?, fork?, heq.forks]
  tellsPaths := by rw [tellsPaths, tellsPaths, heq.commands, heq.paths]
  pathOf := fun scope => by rw [pathOf, pathOf, heq.paths]
  scopeOf := fun command => by rw [heq.command?_eq]
  keptUnder := fun command => by rw [keptUnder?, keptUnder?, heq.command?_eq]

theorem registrations_eq (heq : SameTree h h') : h'.registrations = h.registrations :=
  heq.sameRoutes.registrations_eq

/-- Hosts with the same tree have the same forks. -/
theorem pluginForks_eq (heq : SameTree h h') : h'.pluginForks = h.pluginForks := by
  rw [pluginForks, pluginForks, heq.registrations_eq]

end SameTree

end Admission.Host
