/-
# Messaging services

What a consumer needs of a broker, as functions on a state of any kind that the
service keeps.  A delivery stream that has ended gives no further delivery,
which means that the broker is gone.
-/

import Remedy.Messaging.Broker

namespace Remedy
namespace Messaging

/-- `MessagingService`: a messaging service with states of type `σ`. -/
structure Service (σ : Type) where
  /-- What the service is called in reports. -/
  provider : String
  startConsuming : String → σ → Except Error Unit × σ
  nextDelivery : σ → Except Error (Option Delivery) × σ
  acknowledge : Receipt → σ → Except Error Unit × σ
  isHealthy : σ → Bool
  close : σ → Except Error Unit × σ

namespace Service

/-- A broker in memory as a service. -/
def inMemory : Service Connection where
  provider := "in_memory"
  startConsuming queue c := c.startConsuming queue
  nextDelivery c := c.nextDelivery
  acknowledge r c := c.acknowledge r
  isHealthy c := c.isHealthy
  close c := c.close

/-- A service whose state is a part of a larger one. -/
def within {σ τ : Type} (get : τ → σ) (set : σ → τ → τ) (s : Service σ) : Service τ where
  provider := s.provider
  startConsuming queue t :=
    let (r, c) := s.startConsuming queue (get t)
    (r, set c t)
  nextDelivery t :=
    let (r, c) := s.nextDelivery (get t)
    (r, set c t)
  acknowledge receipt t :=
    let (r, c) := s.acknowledge receipt (get t)
    (r, set c t)
  isHealthy t := s.isHealthy (get t)
  close t :=
    let (r, c) := s.close (get t)
    (r, set c t)

end Service
end Messaging
end Remedy
