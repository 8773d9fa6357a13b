/-
# What can go wrong with a broker

Every failure but a malformed receipt means that the connection can no longer be
trusted, which ends the listener.
-/

namespace Remedy
namespace Messaging

/-- `MessagingError`: a failed broker operation. -/
inductive Error where
  | connection (message : String)
  | queueDeclare (queue message : String)
  | queueNotFound (queue : String)
  | consume (queue message : String)
  | publish (queue message : String)
  | ack (queue : String) (tag : Nat) (message : String)
  | invalidReceipt (receipt : String)
  | connectionClosed (queue : String)
  | notConsuming
  deriving DecidableEq, Repr

namespace Error

/-- What is told about a failure. -/
def message : Error → String
  | connection m => "Broker connection error: " ++ m
  | queueDeclare queue m => "Queue declaration failed: " ++ queue ++ ": " ++ m
  | queueNotFound queue => "Queue not found: " ++ queue
  | consume queue m => "Consumer error on " ++ queue ++ ": " ++ m
  | publish queue m => "Publish failed: " ++ queue ++ ": " ++ m
  | ack queue tag m =>
    "Acknowledgment failed: " ++ queue ++ ": delivery " ++ toString tag ++ ": " ++ m
  | invalidReceipt receipt => "Invalid receipt handle: " ++ receipt
  | connectionClosed queue => "Delivery stream closed for queue: " ++ queue
  | notConsuming => "No consumer registered; call start_consuming first"

/-- `is_connection_level`: whether the connection counts as lost. -/
def losesConnection : Error → Bool
  | invalidReceipt _ => false
  | _ => true

end Error
end Messaging
end Remedy
