/-
# Injected faults

A service can be made to fail where the one behind it would not.  A call that
fails by injection does not reach the service behind, with one exception:
closing does its work first and fails then.
-/

import Remedy.Messaging.Service

namespace Remedy
namespace Messaging

/-- Which calls fail, and how. -/
structure Faults where
  startConsuming : Option Error
  /-- By the number of the call, counted from 1. -/
  nextDelivery : Nat → Option Error
  acknowledge : Receipt → Option Error
  close : Option Error

/-- The state of a service with injected faults. -/
structure Faulty (σ : Type) where
  inner : σ
  /-- How many deliveries have been asked for. -/
  pulls : Nat
  deriving Repr

namespace Faults

variable {σ α : Type}

/-- No fault at all. -/
def never : Faults := ⟨none, fun _ => none, fun _ => none, none⟩

/-- A call that fails by injection, or else is passed on. -/
def guard (fault : Option Error) (f : σ → Except Error α × σ) (s : Faulty σ) :
    Except Error α × Faulty σ :=
  match fault with
  | some e => (.error e, s)
  | none =>
    let (r, t) := f s.inner
    (r, { s with inner := t })

/-- A service with faults injected into it. -/
def inject (faults : Faults) (service : Service σ) : Service (Faulty σ) where
  provider := service.provider
  startConsuming queue := guard faults.startConsuming (service.startConsuming queue)
  nextDelivery s :=
    let pulls := s.pulls + 1
    guard (faults.nextDelivery pulls) service.nextDelivery { s with pulls := pulls }
  acknowledge r := guard (faults.acknowledge r) (service.acknowledge r)
  isHealthy s := service.isHealthy s.inner
  close s :=
    let (r, t) := service.close s.inner
    (match faults.close with
      | some e => .error e
      | none => r,
      { s with inner := t })

end Faults
end Messaging
end Remedy
