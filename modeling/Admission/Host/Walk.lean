import Admission.Host.Basic

/-!
# Walks through the plugin tree

The registrations below the root are listed depth first, every records list once, however many
scopes lead to it: a records list that was visited before is passed over, and so is the subtree of
a fork that the walk prunes.  The walk ends because a records list is only entered when it was not
visited before, and there are finitely many.

Main definitions:

* `Host.walk`, `Host.registrations` — the registrations that a walk lists;
* `PluginOption` — a plugin that rules can name;
* `Host.pluginOptions` — the plugins that rules can name, in the order of their keys;
* `Host.pluginForks` — the fork of every key, the last one that the walk lists.
-/

set_option autoImplicit false

namespace Admission

namespace Host

/-! ### The walk -/

/-- The records lists that were not visited, as the measure by which the walk ends. -/
def unvisited (h : Host) (visited : List String) : Nat :=
  (h.records.filter fun e => !visited.contains e.1).length

/-- Visiting records that the host has, for the first time, leaves fewer unvisited. -/
theorem unvisited_cons_lt (h : Host) (visited : List String) (name : String)
    (registrations : List Registration) (hmem : (name, registrations) ∈ h.records)
    (hnew : visited.contains name = false) :
    h.unvisited (name :: visited) < h.unvisited visited := by
  have hsplit : (h.records.filter fun e => !(name :: visited).contains e.1) =
      (h.records.filter fun e => !visited.contains e.1).filter fun e => !e.1 == name := by
    rw [List.filter_filter]
    simp only [List.contains_cons, Bool.not_or]
  rw [unvisited, unvisited, hsplit, List.length_filter_lt_length_iff_exists]
  exact ⟨(name, registrations), List.mem_filter.2 ⟨hmem, by rw [hnew]; rfl⟩, by simp⟩

/-- What is found under a key is an entry of the table. -/
theorem mem_of_get? {α : Type} {t : Table α} {key : String} {value : α}
    (h : Table.get? t key = some value) : (key, value) ∈ t := by
  unfold Table.get? at h
  obtain ⟨e, he, hv⟩ := Option.map_eq_some_iff.1 h
  have hkey := List.find?_some he
  simp only [beq_iff_eq] at hkey
  have := List.mem_of_find?_eq_some he
  subst hkey hv
  exact this

/-- The records of a context are records of the host. -/
theorem mem_records_of_recordsAt? {h : Host} {context : Option String} {name : String}
    {registrations : List Registration}
    (hr : h.recordsAt? context = some (name, registrations)) :
    (name, registrations) ∈ h.records := by
  unfold recordsAt? at hr
  obtain ⟨n, _, hn⟩ := Option.bind_eq_some_iff.1 hr
  obtain ⟨regs, hregs, hpair⟩ := Option.map_eq_some_iff.1 hn
  cases hpair
  exact mem_of_get? hregs

/-- The registrations that a walk lists from a stack of contexts on, given the names of the records
that were visited.  Forks that are pruned are left out, with their subtrees. -/
def walk (h : Host) (prune : Option String → Bool) (visited : List String) :
    List (Option String) → List Registration
  | [] => []
  | context :: stack =>
    match hr : h.recordsAt? context with
    | none => walk h prune visited stack
    | some (name, registrations) =>
      if hv : visited.contains name then walk h prune visited stack
      else
        have : h.unvisited (name :: visited) < h.unvisited visited :=
          unvisited_cons_lt h visited name registrations (mem_records_of_recordsAt? hr)
            (Bool.eq_false_iff.2 hv)
        let kept := registrations.filter fun r => !prune r.fork
        -- depth first: the contexts of the forks come before whatever was waiting
        kept ++ walk h prune (name :: visited) ((kept.map fun r => h.contextOf? r.fork) ++ stack)
termination_by stack => (h.unvisited visited, stack.length)
decreasing_by
  -- a context without records, or with records that were visited, only shortens the stack
  · exact Prod.Lex.right _ (Nat.lt_succ_self _)
  · exact Prod.Lex.right _ (Nat.lt_succ_self _)
  · exact Prod.Lex.left _ _ this

/-- The registrations below the root, without those that are pruned and their subtrees. -/
def registrationsWithout (h : Host) (prune : Option String → Bool) : List Registration :=
  h.walk prune [] [h.root]

/-- All registrations below the root. -/
def registrations (h : Host) : List Registration := h.registrationsWithout fun _ => false

/-! ### Plugins -/

end Host

/-- A plugin that rules can name. -/
structure PluginOption where
  key : String
  name : String
  ident : String
  label : String
  deriving DecidableEq, Repr

namespace PluginOption

/-- The name of the plugins that only hold others together. -/
def groupName : String := "group"

/-- The option for a key; none for a key without a name and for a group. -/
def ofKey? (key : String) : Option PluginOption :=
  let parts := PluginName.ofKey key
  if parts.name = "" ∨ parts.name = groupName then none
  else some {
    key := key
    name := parts.name
    ident := parts.ident
    label := if parts.ident = "" then parts.name else parts.name ++ ":" ++ parts.ident }

end PluginOption

namespace Host

/-- The plugins that rules can name: those that did not opt out and are not below one that did,
each key once, in the order of the keys. -/
def pluginOptions (h : Host) : List PluginOption :=
  ((((h.registrationsWithout h.optedOut).map Registration.plugin).eraseDups).filterMap
    PluginOption.ofKey?).mergeSort fun a b => a.key ≤ b.key

/-- The fork of every key, a key that is registered several times keeping its first place and
taking the last fork. -/
def pluginForks (h : Host) : Table (Option String) :=
  h.registrations.foldl (fun forks r => forks.set r.plugin r.fork) []

end Host

end Admission
