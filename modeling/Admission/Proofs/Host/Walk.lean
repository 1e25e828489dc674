import Admission.Proofs.Host.Tree

/-!
# What a walk lists

A walk through the plugin tree lists records, each with the registrations that are not pruned.  It
enters exactly the records to which a way leads from the root through forks that are not pruned,
and each of them once, however many contexts and scopes share them and whatever circles the forks
make.  A pruned fork closes one way only: what lies behind it is listed all the same when another
way leads there.

The proof goes by the steps of the walk.  At any time the records that are still to be entered have
not been visited, they lie below the contexts on the stack, and together with the visited ones they
hold everything to which those contexts and they themselves lead.

Main definitions:

* `Host.Holds`, `Host.kept` — the records of a context, and what a walk lists of them;
* `Host.Reaches` — the records that lie below a context, on a way that is not pruned;
* `Host.Covers` — what a walk still has to enter.

Main results:

* `Host.exists_covers` — every walk enters what it still has to, in some order;
* `Host.registrationsWithout_reaches` — **a walk lists exactly what the root reaches, once**.
-/

set_option autoImplicit false

namespace Admission

/-! ### Normalized keys -/

/-- A key loses the mark in front of it, if it has one, and nothing else. -/
theorem unmarked_spec (key : String) :
    key.toList = '~' :: (unmarked key).toList ∨
      (key.toList.head? ≠ some '~' ∧ unmarked key = key) := by
  unfold unmarked
  split
  · next rest hmarked => exact .inl (by rw [hmarked, String.toList_ofList])
  · next hplain =>
      refine .inr ⟨?_, rfl⟩
      intro hhead
      obtain ⟨rest, hrest⟩ := List.head?_eq_some_iff.1 hhead
      exact hplain rest hrest

namespace Host

section

variable (h : Host) (prune : Option String → Bool)

/-! ### Ways through the tree -/

/-- The context has the records with the name. -/
def Holds (context : Option String) (name : String) : Prop :=
  ∃ registrations, h.recordsAt? context = some (name, registrations)

/-- The registrations of the records with a name that are not pruned. -/
def kept (name : String) : List Registration :=
  ((Table.get? h.records name).getD []).filter fun r => !prune r.fork

/-- The records lie below the context: it has them, or a way leads on to them from records below
it through a fork that is not pruned. -/
inductive Reaches (context : Option String) : String → Prop where
  | here {name : String} (hname : h.Holds context name) : Reaches context name
  | onward {name next : String} {r : Registration} (hway : Reaches context name)
      (hr : r ∈ h.kept prune name) (hnext : h.Holds (h.contextOf? r.fork) next) :
      Reaches context next

variable {h prune}

theorem Holds.unique {context : Option String} {name other : String}
    (hname : h.Holds context name) (hother : h.Holds context other) : other = name := by
  obtain ⟨_, hname⟩ := hname
  obtain ⟨_, hother⟩ := hother
  rw [hname] at hother
  cases hother
  rfl

theorem not_holds_of_none {context : Option String} (hnone : h.recordsAt? context = none)
    (name : String) : ¬h.Holds context name := by
  rintro ⟨registrations, hsome⟩
  rw [hnone] at hsome
  cases hsome

/-- The records that a context has are listed as far as they are not pruned. -/
theorem kept_of_recordsAt? {context : Option String} {name : String}
    {registrations : List Registration}
    (hsome : h.recordsAt? context = some (name, registrations)) :
    h.kept prune name = registrations.filter fun r => !prune r.fork := by
  obtain ⟨found, _, hfound⟩ := Option.bind_eq_some_iff.1 hsome
  obtain ⟨entries, hentries, hpair⟩ := Option.map_eq_some_iff.1 hfound
  cases hpair
  rw [kept, hentries, Option.getD_some]

/-- A way may be continued at its beginning. -/
theorem Reaches.before {context : Option String} {name next : String} {r : Registration}
    (hname : h.Holds context name) (hr : r ∈ h.kept prune name)
    (hway : h.Reaches prune (h.contextOf? r.fork) next) : h.Reaches prune context next := by
  induction hway with
  | here hnext => exact .onward (.here hname) hr hnext
  | onward _ hr' hnext ih => exact .onward ih hr' hnext

/-! ### The records that a walk enters -/

variable (h prune)

/-- What a walk still has to enter when it has visited some records and has some contexts on its
stack. -/
structure Covers (visited : List String) (stack : List (Option String))
    (names : List String) : Prop where
  nodup : names.Nodup
  fresh : ∀ name ∈ names, name ∉ visited
  below : ∀ name ∈ names, ∃ context ∈ stack, h.Reaches prune context name
  waiting : ∀ context ∈ stack, ∀ name, h.Holds context name → name ∈ visited ∨ name ∈ names
  onward : ∀ name ∈ names, ∀ r ∈ h.kept prune name, ∀ next,
    h.Holds (h.contextOf? r.fork) next → next ∈ visited ∨ next ∈ names

namespace Covers

variable {h prune} {visited : List String} {context : Option String}
  {stack : List (Option String)} {names : List String}

theorem nil (visited : List String) : h.Covers prune visited [] [] where
  nodup := List.nodup_nil
  fresh := by simp
  below := by simp
  waiting := by simp
  onward := by simp

/-- A context that leads to nothing new may wait on the stack. -/
theorem pass (hcovers : h.Covers prune visited stack names)
    (hpass : ∀ name, h.Holds context name → name ∈ visited) :
    h.Covers prune visited (context :: stack) names where
  nodup := hcovers.nodup
  fresh := hcovers.fresh
  below := by
    intro name hname
    obtain ⟨other, hother, hway⟩ := hcovers.below name hname
    exact ⟨other, List.mem_cons_of_mem context hother, hway⟩
  waiting := by
    intro other hother name hname
    rcases List.mem_cons.1 hother with rfl | hstack
    · exact .inl (hpass name hname)
    · exact hcovers.waiting other hstack name hname
  onward := hcovers.onward

/-- When new records are entered, the contexts of their forks wait on the stack. -/
theorem enter {name : String} (hname : h.Holds context name) (hnew : name ∉ visited)
    (hcovers : h.Covers prune (name :: visited)
      ((h.kept prune name).map (fun r => h.contextOf? r.fork) ++ stack) names) :
    h.Covers prune visited (context :: stack) (name :: names) := by
  -- what counts as visited further on was visited before or is listed now
  have hseen : ∀ next, next ∈ name :: visited ∨ next ∈ names →
      next ∈ visited ∨ next ∈ name :: names := by
    intro next hnext
    rcases hnext with hentered | hlater
    · rcases List.mem_cons.1 hentered with rfl | hbefore
      · exact .inr List.mem_cons_self
      · exact .inl hbefore
    · exact .inr (List.mem_cons_of_mem name hlater)
  refine ⟨?_, ?_, ?_, ?_, ?_⟩
  · exact List.nodup_cons.2
      ⟨fun hmem => hcovers.fresh name hmem List.mem_cons_self, hcovers.nodup⟩
  · rw [List.forall_mem_cons]
    exact ⟨hnew, fun other hother hvisited =>
      hcovers.fresh other hother (List.mem_cons_of_mem name hvisited)⟩
  · rw [List.forall_mem_cons]
    refine ⟨⟨context, List.mem_cons_self, .here hname⟩, ?_⟩
    intro other hother
    obtain ⟨start, hstart, hway⟩ := hcovers.below other hother
    rcases List.mem_append.1 hstart with hchild | hstack
    · obtain ⟨r, hr, rfl⟩ := List.mem_map.1 hchild
      exact ⟨context, List.mem_cons_self, .before hname hr hway⟩
    · exact ⟨start, List.mem_cons_of_mem context hstack, hway⟩
  · rw [List.forall_mem_cons]
    refine ⟨fun other hother => ?_, fun start hstart other hother => ?_⟩
    · rw [hname.unique hother]
      exact .inr List.mem_cons_self
    · exact hseen other (hcovers.waiting start (List.mem_append_right _ hstart) other hother)
  · rw [List.forall_mem_cons]
    refine ⟨fun r hr next hnext => ?_, fun other hother r hr next hnext => ?_⟩
    · have hchild : h.contextOf? r.fork ∈ (h.kept prune name).map fun r => h.contextOf? r.fork :=
        List.mem_map_of_mem hr
      exact hseen next (hcovers.waiting _ (List.mem_append_left _ hchild) next hnext)
    · exact hseen next (hcovers.onward other hother r hr next hnext)

end Covers

/-- A walk enters what it still has to, and lists what is not pruned there. -/
theorem exists_covers (visited : List String) (stack : List (Option String)) :
    ∃ names, h.Covers prune visited stack names ∧
      h.walk prune visited stack = names.flatMap (h.kept prune) := by
  induction visited, stack using walk.induct h prune with
  | case1 visited => exact ⟨[], .nil visited, by rw [walk, List.flatMap_nil]⟩
  | case2 visited context stack hnone ih =>
      obtain ⟨names, hcovers, hwalk⟩ := ih
      refine ⟨names, hcovers.pass fun name hname => absurd hname (not_holds_of_none hnone name), ?_⟩
      rw [walk_of_none h prune hnone, hwalk]
  | case3 visited context stack name registrations hsome hvisited ih =>
      obtain ⟨names, hcovers, hwalk⟩ := ih
      refine ⟨names, hcovers.pass fun other hother => ?_, ?_⟩
      · rw [Holds.unique ⟨registrations, hsome⟩ hother]
        exact List.contains_iff_mem.1 hvisited
      · rw [walk_of_visited h prune hsome hvisited, hwalk]
  | case4 visited context stack name registrations hsome hnew _ kept ih =>
      have hkept : h.kept prune name = kept := kept_of_recordsAt? hsome
      obtain ⟨names, hcovers, hwalk⟩ := ih
      rw [← hkept] at hcovers hwalk
      refine ⟨name :: names, hcovers.enter ⟨registrations, hsome⟩
        fun hmem => hnew (List.contains_iff_mem.2 hmem), ?_⟩
      rw [walk_of_new h prune hsome hnew, List.flatMap_cons, ← hwalk, hkept]

/-- With nothing visited yet, a walk from a context enters what the context reaches. -/
theorem Covers.mem_iff {context : Option String} {names : List String}
    (hcovers : h.Covers prune [] [context] names) (name : String) :
    name ∈ names ↔ h.Reaches prune context name := by
  constructor
  · intro hname
    obtain ⟨start, hstart, hway⟩ := hcovers.below name hname
    rwa [List.mem_singleton.1 hstart] at hway
  · intro hway
    induction hway with
    | here hname =>
        exact (hcovers.waiting context List.mem_cons_self _ hname).resolve_left List.not_mem_nil
    | onward _ hr hnext ih =>
        exact (hcovers.onward _ ih _ hr _ hnext).resolve_left List.not_mem_nil

/-- A walk lists exactly what is not pruned of the records that the root reaches, each of these
records once, under the key without its mark.  What lies behind a pruned fork is listed all the
same when a fork that is listed leads there too. -/
theorem registrationsWithout_reaches :
    ∃ names : List String, names.Nodup ∧
      (∀ name, name ∈ names ↔ h.Reaches prune h.root name) ∧
      h.registrationsWithout prune = names.flatMap (h.kept prune) ∧
      (∀ r ∈ h.registrationsWithout prune, (keyText r.key).toList = '~' :: r.plugin.toList ∨
        ((keyText r.key).toList.head? ≠ some '~' ∧ r.plugin = keyText r.key)) ∧
      ∀ pruned : Option String, prune pruned = true →
        ∀ r ∈ h.registrationsWithout prune, ∀ name,
          h.Holds (h.contextOf? pruned) name → h.Holds (h.contextOf? r.fork) name →
            ∀ r' ∈ h.kept prune name, r' ∈ h.registrationsWithout prune := by
  obtain ⟨names, hcovers, hwalk⟩ := h.exists_covers prune [] [h.root]
  have hmem := hcovers.mem_iff
  have hlist : h.registrationsWithout prune = names.flatMap (h.kept prune) := hwalk
  refine ⟨names, hcovers.nodup, hmem, hlist, fun r _ => unmarked_spec (keyText r.key), ?_⟩
  intro pruned _ r hr name _ hshared r' hr'
  rw [hlist, List.mem_flatMap] at hr ⊢
  obtain ⟨start, hstart, hr⟩ := hr
  exact ⟨name, (hmem name).2 (.onward ((hmem start).1 hstart) hr hshared), hr'⟩

end

end Host

end Admission
