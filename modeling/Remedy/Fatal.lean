/-
# What ends the listener

A listener stops for good when its configuration cannot be used or its broker
fails; restarting it is left to whoever supervises it.  Whatever is wrong with a
configuration is found at startup and is fatal there.
-/

import Remedy.Messaging.Error

namespace Remedy

namespace Config

/-- `ConfigurationError`: a reason to refuse a configuration. -/
inductive Error where
  /-- A section could not be read. -/
  | load (part reason : String)
  /-- A setting that has to be there is blank. -/
  | missing (field context : String)
  /-- A setting is there and cannot be used. -/
  | invalid (field value context : String)
  deriving DecidableEq, Repr

namespace Error

/-- What is told about the configuration. -/
def message : Error → String
  | load part reason => "Failed to load configuration section '" ++ part ++ "': " ++ reason
  | missing field context =>
    "Missing required configuration field '" ++ field ++ "' in " ++ context
  | invalid field value context =>
    "Invalid value '" ++ value ++ "' for field '" ++ field ++ "': " ++ context

end Error
end Config

/-- `ListenerError`: a failure that the listener does not survive. -/
inductive Fatal where
  | configuration (e : Config.Error)
  | messaging (e : Messaging.Error)
  deriving DecidableEq, Repr

namespace Fatal

/-- What is told about the end of the listener. -/
def message : Fatal → String
  | configuration e => "Configuration error: " ++ e.message
  | messaging e => "Messaging error: " ++ e.message

/-- `is_connection_failure`: whether the connection to the broker is gone. -/
def isConnectionFailure : Fatal → Bool
  | configuration _ => false
  | messaging e => e.losesConnection

end Fatal

end Remedy
