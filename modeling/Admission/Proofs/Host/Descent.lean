import Admission.Proofs.Host.Tree

/-!
# A walk is a descent

A walk through the plugin tree keeps a stack of contexts that wait.  What it lists is what one lists
who descends into the tree by recursion: at a context whose records were not visited yet, mark them
as visited, list the registrations that are not pruned, and then descend into the context of each of
their forks, one after the other.  All of these descents share the records that were visited, each
going on with those that the one before it has left.

A stack stands for the descents that are still to be made, the topmost first.  That the two orders
agree comes down to this: to descend into the contexts of one list after those of another is to
descend into those of both, so the contexts of the forks may as well be put on top of what waits.

Main definitions:

* `Host.Descent` — what a descent lists, and what has been visited after it;
* `Host.descend`, `Host.descendAll` — the descent into a context, and into several one after the
  other.

Main results:

* `Host.descendAll_append` — descents one after the other;
* `Host.walk_eq_descendAll` — a walk makes the descents that its stack stands for;
* `Host.registrationsWithout_eq_descend` — **a walk lists what the descent into the root lists**.
-/

set_option autoImplicit false

namespace Admission.Host

/-! ### Descending -/

/-- What a descent lists, and the records that have been visited after it.  It leaves no more
unvisited than there were before. -/
structure Descent (h : Host) (before : List String) where
  listed : List Registration
  visited : List String
  unvisited_le : h.unvisited visited ≤ h.unvisited before

/-- The descent that lists nothing and visits nothing. -/
def Descent.none (h : Host) (visited : List String) : Descent h visited :=
  ⟨[], visited, Nat.le_refl _⟩

mutual

/-- The descent into a context, given the names of the records that were visited.  A context without
records, or with records that were visited, is passed over. -/
def descend (h : Host) (prune : Option String → Bool) (visited : List String)
    (context : Option String) : Descent h visited :=
  match hr : h.recordsAt? context with
  | .none => .none h visited
  | some (name, registrations) =>
    if hv : visited.contains name then .none h visited
    else
      have hfewer : h.unvisited (name :: visited) < h.unvisited visited :=
        unvisited_cons_lt h visited name registrations (mem_records_of_recordsAt? hr)
          (Bool.eq_false_iff.2 hv)
      let kept := registrations.filter fun r => !prune r.fork
      let below := descendAll h prune (name :: visited) (kept.map fun r => h.contextOf? r.fork)
      ⟨kept ++ below.listed, below.visited,
        Nat.le_trans below.unvisited_le (Nat.le_of_lt hfewer)⟩
termination_by (h.unvisited visited, 0)
decreasing_by exact Prod.Lex.left _ _ hfewer

def descendAll (h : Host) (prune : Option String → Bool) (visited : List String) :
    List (Option String) → Descent h visited
  | [] => .none h visited
  | context :: rest =>
    let first := descend h prune visited context
    let later := descendAll h prune first.visited rest
    ⟨first.listed ++ later.listed, later.visited,
      Nat.le_trans later.unvisited_le first.unvisited_le⟩
termination_by contexts => (h.unvisited visited, contexts.length)
decreasing_by
  -- the first descent visits what it likes, but the list of those to come is shorter then
  · exact Prod.Lex.right _ (Nat.succ_pos _)
  · exact Prod.Lex.right' _ first.unvisited_le (Nat.lt_succ_self _)

end

/-! ### The steps of a descent -/

section

variable (h : Host) (prune : Option String → Bool) {visited : List String}
  {context : Option String} {name : String} {registrations : List Registration}

/-- A context without records is passed over. -/
theorem descend_of_none (hnone : h.recordsAt? context = none) :
    h.descend prune visited context = .none h visited := by
  rw [descend]
  split
  · rfl
  · next hsome =>
      rw [hnone] at hsome
      cases hsome

/-- Records that were visited are passed over. -/
theorem descend_of_visited (hsome : h.recordsAt? context = some (name, registrations))
    (hvisited : visited.contains name = true) :
    h.descend prune visited context = .none h visited := by
  rw [descend]
  split
  · rfl
  · next hother =>
      rw [hsome] at hother
      cases hother
      rw [dif_pos hvisited]

/-- Records that were not visited are listed before what is found below their forks. -/
theorem descend_of_new (hsome : h.recordsAt? context = some (name, registrations))
    (hnew : ¬visited.contains name = true) :
    (h.descend prune visited context).listed =
        registrations.filter (fun r => !prune r.fork) ++
          (h.descendAll prune (name :: visited) ((registrations.filter fun r => !prune r.fork).map
            fun r => h.contextOf? r.fork)).listed ∧
      (h.descend prune visited context).visited =
        (h.descendAll prune (name :: visited) ((registrations.filter fun r => !prune r.fork).map
          fun r => h.contextOf? r.fork)).visited := by
  rw [descend]
  split
  · next hnone =>
      rw [hsome] at hnone
      cases hnone
  · next hother =>
      rw [hsome] at hother
      cases hother
      rw [dif_neg hnew]
      exact ⟨rfl, rfl⟩

theorem descendAll_nil (visited : List String) :
    h.descendAll prune visited [] = .none h visited := by
  rw [descendAll]

theorem descendAll_cons (visited : List String) (context : Option String)
    (rest : List (Option String)) :
    (h.descendAll prune visited (context :: rest)).listed =
        (h.descend prune visited context).listed ++
          (h.descendAll prune (h.descend prune visited context).visited rest).listed ∧
      (h.descendAll prune visited (context :: rest)).visited =
        (h.descendAll prune (h.descend prune visited context).visited rest).visited := by
  rw [descendAll]
  exact ⟨rfl, rfl⟩

/-! ### The descents that a stack stands for -/

/-- To descend into the contexts of one list after those of another is to descend into those of
both, going on with the records that the first descents have left. -/
theorem descendAll_append (contexts others : List (Option String)) (visited : List String) :
    (h.descendAll prune visited (contexts ++ others)).listed =
      (h.descendAll prune visited contexts).listed ++
        (h.descendAll prune (h.descendAll prune visited contexts).visited others).listed := by
  induction contexts generalizing visited with
  | nil => rw [descendAll_nil]; rfl
  | cons context rest ih =>
      rw [List.cons_append, (h.descendAll_cons prune visited context (rest ++ others)).1, ih,
        (h.descendAll_cons prune visited context rest).1,
        (h.descendAll_cons prune visited context rest).2, List.append_assoc]

/-- A context that is passed over makes no difference to the descents that follow. -/
theorem descendAll_cons_of_passed {rest : List (Option String)}
    (hpass : h.descend prune visited context = .none h visited) :
    (h.descendAll prune visited (context :: rest)).listed =
      (h.descendAll prune visited rest).listed := by
  rw [(h.descendAll_cons prune visited context rest).1, hpass]
  rfl

/-- A walk makes the descents that its stack stands for, the topmost first. -/
theorem walk_eq_descendAll (visited : List String) (stack : List (Option String)) :
    h.walk prune visited stack = (h.descendAll prune visited stack).listed := by
  induction visited, stack using walk.induct h prune with
  | case1 visited => rw [walk, descendAll_nil]; rfl
  | case2 visited context stack hnone ih =>
      rw [walk_of_none h prune hnone, ih,
        descendAll_cons_of_passed h prune (descend_of_none h prune hnone)]
  | case3 visited context stack name registrations hsome hvisited ih =>
      rw [walk_of_visited h prune hsome hvisited, ih,
        descendAll_cons_of_passed h prune (descend_of_visited h prune hsome hvisited)]
  | case4 visited context stack name registrations hsome hnew _ kept ih =>
      -- the contexts of the forks are on top of the stack now, so their descents come first
      obtain ⟨hlisted, hleft⟩ := descend_of_new h prune hsome hnew
      rw [walk_of_new h prune hsome hnew, ih, descendAll_append, ← List.append_assoc, ← hlisted,
        ← hleft, (h.descendAll_cons prune visited context stack).1]

/-- A walk with a stack lists what the descent into the root lists, in the same order, whatever is
pruned and however the tree shares its records or leads back to itself. -/
theorem registrationsWithout_eq_descend :
    h.registrationsWithout prune = (h.descend prune [] h.root).listed := by
  have honly : (h.descendAll prune [] [h.root]).listed = (h.descend prune [] h.root).listed := by
    rw [(h.descendAll_cons prune [] h.root []).1, descendAll_nil]
    exact List.append_nil _
  rw [registrationsWithout, walk_eq_descendAll, honly]

end

end Admission.Host
