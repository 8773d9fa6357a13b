/-
# Deliveries, their receipts, and named queues

A broker numbers its deliveries; the number is the delivery's *tag*, and the
tag's decimal text is the receipt with which the delivery is acknowledged.
Several texts name one tag (`7`, `07`, `+7`), so a receipt is compared by its
tag, never by its text.

Messages wait in queues, which have names; the oldest one is the first.  A queue
has to be declared before anything can be put into it.
-/

import Remedy.Text.Numeral

namespace Remedy
namespace Messaging

/-- `ReceiptHandle`: what a delivery is acknowledged with. -/
structure Receipt where
  text : String
  deriving DecidableEq, Repr

namespace Receipt

/-- The receipt of the delivery with this tag. -/
def ofTag (tag : Nat) : Receipt := ⟨toString tag⟩

/-- `as_delivery_tag`: the tag that a receipt names: a 64-bit number in decimal. -/
def tag? (r : Receipt) : Option Nat := Text.unsigned? Text.maxU64 r.text.toList

end Receipt

/-- A message body, as it is on the wire. -/
abbrev Payload := List UInt8

/-- `QueuedMessage`: one message handed to a consumer. -/
structure Delivery where
  receipt : Receipt
  payload : Payload
  /-- The broker has delivered it before. -/
  redelivered : Bool
  deriving DecidableEq, Repr

/-- `InMemoryMessage`: a message that waits in a queue. -/
structure Message where
  payload : Payload
  redelivered : Bool
  deriving DecidableEq, Repr

/-- The declared queues. -/
abbrev Queues := List (String × List Message)

namespace Queues

/-- The messages of a queue, if it is declared. -/
def get? : Queues → String → Option (List Message)
  | [], _ => none
  | (k, ms) :: rest, name => if k = name then some ms else get? rest name

/-- The queues with the messages of one replaced; it is declared if need be. -/
def set : Queues → String → List Message → Queues
  | [], name, ms => [(name, ms)]
  | (k, old) :: rest, name, ms => if k = name then (k, ms) :: rest else (k, old) :: set rest name ms

/-- The messages of a queue; none if it is not declared. -/
def messages (qs : Queues) (name : String) : List Message := (qs.get? name).getD []

@[simp] theorem get?_nil (name : String) : get? [] name = none := rfl

/-- **A queue holds what was put there last.** -/
@[simp] theorem get?_set_self (qs : Queues) (name : String) (ms : List Message) :
    (qs.set name ms).get? name = some ms := by
  induction qs with
  | nil => simp [set, get?]
  | cons q rest ih =>
    obtain ⟨k, old⟩ := q
    by_cases h : k = name
    · simp [set, get?, h]
    · simp only [set, h, if_false, get?]
      exact ih

/-- Other queues are left alone. -/
theorem get?_set_of_ne {name other : String} (h : other ≠ name) (qs : Queues)
    (ms : List Message) : (qs.set name ms).get? other = qs.get? other := by
  induction qs with
  | nil => simp [set, get?, Ne.symm h]
  | cons q rest ih =>
    obtain ⟨k, old⟩ := q
    by_cases hk : k = name
    · subst hk
      simp [set, get?, Ne.symm h]
    · by_cases ho : k = other
      · subst ho
        simp [set, get?, hk]
      · simp only [set, hk, if_false, get?, ho]
        exact ih

end Queues
end Messaging
end Remedy
