import Admission.Proofs.Host.Options
import Admission.Proofs.Host.Resolver
import Mathlib.Data.List.Induction

/-!
# What a picture of the plugin tree shows

A picture has the plugins that rules can name, and the plugin of every scope in which one runs.
These come from two walks.  The plugins are listed by a walk that leaves out what has opted out, the
scopes are bound by a walk through everything: an instance that has opted out still tells that its
scope belongs to the plugin, if rules can name the plugin because of another instance.

When the instances of several plugins run in one scope, the last one that the walk comes to counts.
When none does, the keys count that lead from the scope upwards, and the first of them that rules
can name.  The keys are those that the host gives now, even where the picture is an old one.

Main definitions:

* `Host.Binds` — a registration tells to which plugin a scope belongs;
* `Resolver.Resolves` — what a scope resolves to, given a host as it was and as it is.

Main results:

* `Host.find?_pluginOptions_eq_some_iff` — the option that is found under a key;
* `Resolver.get?_scopesOf_eq_some_iff` — the last registration in a scope is the one that counts;
* `Resolver.lookup_eq_iff` — **what is looked up in a picture is what the scope resolves to**.
-/

set_option autoImplicit false

namespace Admission

namespace Host

variable {h : Host} {key scope : String} {o : PluginOption} {r : Registration}

theorem find?_pluginOptions_eq_some_iff :
    h.pluginOptions.find? (·.key == key) = some o ↔ o ∈ h.pluginOptions ∧ o.key = key := by
  constructor
  · intro hfind
    exact ⟨List.mem_of_find?_eq_some hfind, by simpa using List.find?_some hfind⟩
  · rintro ⟨ho, rfl⟩
    cases hfind : h.pluginOptions.find? (·.key == o.key) with
    | none =>
        have hnone := List.find?_eq_none.1 hfind o ho
        simp at hnone
    | some other =>
        have hkey : other.key = o.key := by simpa using List.find?_some hfind
        rw [pluginOptions_unique ho (List.mem_of_find?_eq_some hfind) hkey]

theorem find?_pluginOptions_eq_none_iff :
    h.pluginOptions.find? (·.key == key) = none ↔ ∀ o ∈ h.pluginOptions, o.key ≠ key := by
  simp

/-! ### Scopes -/

/-- The registration tells that the scope belongs to the plugin: its fork runs in the scope, and
rules can name its key. -/
def Binds (h : Host) (scope : String) (r : Registration) (o : PluginOption) : Prop :=
  h.scopeAt? (h.contextOf? r.fork) = some scope ∧ o ∈ h.pluginOptions ∧ o.key = r.plugin

/-- The plugin to which the scope belongs, as far as the registration tells. -/
def bound? (h : Host) (scope : String) (r : Registration) : Option PluginOption :=
  if h.scopeAt? (h.contextOf? r.fork) = some scope then
    h.pluginOptions.find? (·.key == r.plugin)
  else none

theorem bound?_eq_some_iff : h.bound? scope r = some o ↔ h.Binds scope r o := by
  unfold bound? Binds
  split
  · next hscope => rw [find?_pluginOptions_eq_some_iff, and_iff_right hscope]
  · next hscope => simp [hscope]

theorem bound?_eq_none_iff : h.bound? scope r = none ↔ ∀ o, ¬h.Binds scope r o := by
  simp only [Option.eq_none_iff_forall_ne_some, ne_eq, bound?_eq_some_iff]

end Host

namespace Resolver

variable {r : Resolver} {seen now : Host} {scope : String} {o : PluginOption}

/-! ### The last registration in a scope -/

/-- A scope is bound by the last registration that tells to which plugin it belongs. -/
theorem get?_scopesOf (h : Host) (scope : String) :
    Table.get? (scopesOf h h.pluginOptions) scope =
      h.registrations.reverse.findSome? (h.bound? scope) := by
  rw [scopesOf]
  -- a later registration overwrites an earlier one, so the last one is split off
  induction h.registrations using List.reverseRecOn with
  | nil => rfl
  | append_singleton init q ih =>
      rw [List.foldl_append, List.foldl_cons, List.foldl_nil, List.reverse_append,
        List.reverse_singleton, List.singleton_append, List.findSome?_cons, ← ih]
      unfold Host.bound?
      cases hfind : h.pluginOptions.find? (·.key == q.plugin) with
      | none => simp
      | some found =>
          cases hscope : h.scopeAt? (h.contextOf? q.fork) with
          | none => simp
          | some other =>
              dsimp only
              rw [Table.get?_set]
              by_cases hsame : scope = other
              · simp [hsame]
              · simp [hsame, Ne.symm hsame]

theorem get?_scopesOf_eq_some_iff {h : Host} :
    Table.get? (scopesOf h h.pluginOptions) scope = some o ↔
      ∃ before r after, h.registrations = before ++ r :: after ∧ h.Binds scope r o ∧
        ∀ q ∈ after, ∀ other, ¬h.Binds scope q other := by
  rw [get?_scopesOf, List.findSome?_eq_some_iff]
  simp only [Host.bound?_eq_some_iff, Host.bound?_eq_none_iff]
  constructor
  · rintro ⟨after, r, before, hsplit, hbinds, hafter⟩
    refine ⟨before.reverse, r, after.reverse, ?_, hbinds, by simpa using hafter⟩
    simpa using congrArg List.reverse hsplit
  · rintro ⟨before, r, after, hsplit, hbinds, hafter⟩
    exact ⟨after.reverse, r, before.reverse, by simp [hsplit], hbinds, by simpa using hafter⟩

theorem get?_scopesOf_eq_none_iff {h : Host} :
    Table.get? (scopesOf h h.pluginOptions) scope = none ↔
      ∀ r ∈ h.registrations, ∀ o, ¬h.Binds scope r o := by
  rw [get?_scopesOf, List.findSome?_eq_none_iff]
  simp only [Host.bound?_eq_none_iff, List.mem_reverse]

/-! ### What a scope resolves to -/

/-- What a scope resolves to, given the host as it was seen and as it is now. -/
inductive Resolves (seen now : Host) (scope : String) : Option PluginOption → Prop where
  /-- A plugin runs in the scope, and of all that do it is the last one in the order of the walk. -/
  | inside {before after : List Registration} {r : Registration} {o : PluginOption}
      (hsplit : seen.registrations = before ++ r :: after) (hbinds : seen.Binds scope r o)
      (hlast : ∀ q ∈ after, ∀ other, ¬seen.Binds scope q other) :
      Resolves seen now scope (some o)
  /-- No plugin runs in the scope, but one has a key on the way upwards, and of all that do it is
  the first one. -/
  | above {before after : List Value} {key : Value} {o : PluginOption}
      (houtside : ∀ r ∈ seen.registrations, ∀ other, ¬seen.Binds scope r other)
      (htells : now.tellsPaths = true) (hsplit : now.pathOf scope = before ++ key :: after)
      (ho : o ∈ seen.pluginOptions) (hkey : o.key = pluginKey key)
      (hfirst : ∀ k ∈ before, ∀ other ∈ seen.pluginOptions, other.key ≠ pluginKey k) :
      Resolves seen now scope (some o)
  /-- No plugin runs in the scope, and there is none above, or the host does not tell. -/
  | nowhere (houtside : ∀ r ∈ seen.registrations, ∀ other, ¬seen.Binds scope r other)
      (hpath : now.tellsPaths = true → ∀ key ∈ now.pathOf scope, ∀ other ∈ seen.pluginOptions,
        other.key ≠ pluginKey key) :
      Resolves seen now scope none

/-- What a scope resolves to is a plugin that rules could name when the host was seen. -/
theorem Resolves.mem_pluginOptions (h : Resolves seen now scope (some o)) :
    o ∈ seen.pluginOptions := by
  cases h with
  | inside hsplit hbinds hlast => exact hbinds.2.1
  | above houtside htells hsplit ho hkey hfirst => exact ho

section Lookup

variable (hr : r.Pictures seen)

include hr

theorem get?_eq_some_iff {key : String} :
    r.get? key = some o ↔ o ∈ seen.pluginOptions ∧ o.key = key := by
  rw [get?, hr.options, Host.find?_pluginOptions_eq_some_iff]

theorem byPath_eq_some_iff :
    r.byPath now scope = some o ↔ now.tellsPaths = true ∧
      ∃ before key after, now.pathOf scope = before ++ key :: after ∧
        (o ∈ seen.pluginOptions ∧ o.key = pluginKey key) ∧
        ∀ k ∈ before, ∀ other ∈ seen.pluginOptions, other.key ≠ pluginKey k := by
  unfold byPath
  split
  · next htells =>
      rw [List.findSome?_eq_some_iff, and_iff_right htells]
      simp only [get?, hr.options, Host.find?_pluginOptions_eq_some_iff,
        Host.find?_pluginOptions_eq_none_iff]
  · next htells => simp [htells]

theorem byPath_eq_none_iff :
    r.byPath now scope = none ↔ (now.tellsPaths = true → ∀ key ∈ now.pathOf scope,
      ∀ other ∈ seen.pluginOptions, other.key ≠ pluginKey key) := by
  unfold byPath
  split
  · next htells =>
      rw [List.findSome?_eq_none_iff]
      simp only [htells, true_implies, get?, hr.options, Host.find?_pluginOptions_eq_none_iff]
  · next htells => simp [htells]

/-- What is looked up in a picture is what the scope resolves to. -/
theorem lookup_eq_iff {answer : Option PluginOption} :
    r.lookup now scope = answer ↔ Resolves seen now scope answer := by
  have hbound : Table.get? r.scopes scope =
      Table.get? (scopesOf seen seen.pluginOptions) scope := by rw [hr.scopes]
  unfold lookup
  rw [hbound]
  constructor
  · rintro rfl
    -- a scope that is bound in the picture is found there, and only others look upwards
    cases hget : Table.get? (scopesOf seen seen.pluginOptions) scope with
    | some o =>
        obtain ⟨before, r, after, hsplit, hbinds, hlast⟩ := get?_scopesOf_eq_some_iff.1 hget
        exact .inside hsplit hbinds hlast
    | none =>
        have houtside := get?_scopesOf_eq_none_iff.1 hget
        dsimp only
        cases hpath : r.byPath now scope with
        | some o =>
            obtain ⟨htells, before, key, after, hsplit, ⟨ho, hkey⟩, hfirst⟩ :=
              (byPath_eq_some_iff hr).1 hpath
            exact .above houtside htells hsplit ho hkey hfirst
        | none => exact .nowhere houtside ((byPath_eq_none_iff hr).1 hpath)
  · intro h
    cases h with
    | inside hsplit hbinds hlast =>
        rw [get?_scopesOf_eq_some_iff.2 ⟨_, _, _, hsplit, hbinds, hlast⟩]
    | above houtside htells hsplit ho hkey hfirst =>
        rw [get?_scopesOf_eq_none_iff.2 houtside]
        exact (byPath_eq_some_iff hr).2 ⟨htells, _, _, _, hsplit, ⟨ho, hkey⟩, hfirst⟩
    | nowhere houtside hpath =>
        rw [get?_scopesOf_eq_none_iff.2 houtside]
        exact (byPath_eq_none_iff hr).2 hpath

end Lookup

end Resolver

end Admission
