/-
# Several clients of one broker

A session is a broker with its clients, each with its own registration.  An
`Operation` is something that one of them does.
-/

import Remedy.Messaging.Broker

namespace Remedy
namespace Messaging

/-- A broker and the registrations of its clients. -/
structure Session where
  broker : Broker
  clients : List (Option String)
  deriving DecidableEq, Repr

/-- What a client can do. -/
inductive Operation where
  /-- Makes another client, without a registration. -/
  | fork
  | declare (queue : String)
  | send (queue : String) (payload : Payload)
  | redeliver (queue : String) (payload : Payload)
  | startConsuming (queue : String)
  | nextDelivery
  | acknowledge (r : Receipt)
  | refuseAcks (refuse : Bool)
  | checkHealth
  | close
  deriving DecidableEq, Repr

/-- What a client gets. -/
inductive Answer where
  | done
  | client (number : Nat)
  | delivery (d : Option Delivery)
  | health (healthy : Bool)
  deriving DecidableEq, Repr

namespace Session

/-- A broker with one client. -/
def ofBroker (b : Broker) : Session := ⟨b, [none]⟩

/-- The broker as one of the clients sees it. -/
def connection (s : Session) (client : Nat) : Connection :=
  ⟨s.broker, (s.clients[client]?).getD none⟩

/-- The session after one of the clients has changed what it sees. -/
def update (s : Session) (client : Nat) (c : Connection) : Session :=
  ⟨c.broker, s.clients.set client c.registration⟩

/-- What an operation does to a connection. -/
def perform (c : Connection) : Operation → Except Error Answer × Connection
  | .fork => (.ok .done, c)
  | .declare queue => (.ok .done, { c with broker := c.broker.declare queue })
  | .send queue payload =>
    let (r, c) := c.send queue payload false
    (r.map fun _ => .done, c)
  | .redeliver queue payload =>
    let (r, c) := c.send queue payload true
    (r.map fun _ => .done, c)
  | .startConsuming queue =>
    let (r, c) := c.startConsuming queue
    (r.map fun _ => .done, c)
  | .nextDelivery =>
    let (r, c) := c.nextDelivery
    (r.map .delivery, c)
  | .acknowledge receipt =>
    let (r, c) := c.acknowledge receipt
    (r.map fun _ => .done, c)
  | .refuseAcks refuse =>
    (.ok .done, { c with broker := { c.broker with refusesAcks := refuse } })
  | .checkHealth => (.ok (.health c.isHealthy), c)
  | .close =>
    let (r, c) := c.close
    (r.map fun _ => .done, c)

/-- What an operation of a client does. -/
def step (s : Session) (client : Nat) : Operation → Except Error Answer × Session
  | .fork => (.ok (.client s.clients.length), { s with clients := s.clients ++ [none] })
  | op =>
    let (r, c) := perform (s.connection client) op
    (r, s.update client c)

end Session
end Messaging
end Remedy
