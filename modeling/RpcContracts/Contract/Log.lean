/-!
# Events of building

What building clients and servers reports along the way. A logged value carries the events that
producing it caused, oldest first.
-/

namespace RpcContracts

/-- How much attention an event asks for. -/
inductive LogLevel where
  | debug
  | info
  | warn
  | error
  deriving DecidableEq

namespace LogLevel

/-- Printed name of a level. -/
def name : LogLevel → String
  | debug => "DEBUG"
  | info => "INFO"
  | warn => "WARN"
  | error => "ERROR"

end LogLevel

/-- Something that happened while clients or servers were built. -/
inductive LogEvent where
  /-- An eligible method has no call shape. -/
  | shapeless (typeName method : String)
  /-- A method of a client was bound. -/
  | clientMethodBound (method fullName callKind : String)
  /-- A method of a client will answer every call with an error. -/
  | clientMethodUnbound (method reason : String)
  /-- The dispatch table of a contract was built. -/
  | factoryBuilt (service : String) (methods : Nat)
  /-- A service is the default handler and binds nothing. -/
  | defaultHandlerSkipped (serviceType : String)
  /-- A contract of a service is an interface that is not a service contract. -/
  | untaggedIgnored (contract serviceType : String)
  /-- A contract of a service has no service name. -/
  | namelessSkipped (contract serviceType : String)
  /-- A method of a server was bound. -/
  | serverMethodBound (reference serviceType method : String)
  /-- A method of a server was left out. -/
  | serverMethodUnbound (serviceType method reason : String)
  /-- A service was registered with a host. -/
  | serviceRegistered (methods : Nat) (serviceType : String)
  /-- A host got its provider. -/
  | providerAdded
  /-- A host already had its provider. -/
  | providerPresent
  deriving DecidableEq

namespace LogEvent

/-- The level of an event. -/
def level : LogEvent → LogLevel
  | shapeless .. => .debug
  | clientMethodBound .. => .debug
  | clientMethodUnbound .. => .warn
  | factoryBuilt .. => .info
  | defaultHandlerSkipped .. => .debug
  | untaggedIgnored .. => .debug
  | namelessSkipped .. => .warn
  | serverMethodBound .. => .info
  | serverMethodUnbound .. => .error
  | serviceRegistered .. => .debug
  | providerAdded => .info
  | providerPresent => .debug

/-- The text of an event. -/
def message : LogEvent → String
  | shapeless typeName method =>
      "Skipping " ++ typeName ++ "::" ++ method ++ ": signature matches no call shape"
  | clientMethodBound method fullName callKind =>
      "Bound client method " ++ method ++ " to " ++ fullName ++ " (" ++ callKind ++ ")"
  | clientMethodUnbound method reason => "Unable to bind client method " ++ method ++ ": " ++ reason
  | factoryBuilt service methods =>
      "Built client proxy factory for " ++ service ++ " (" ++ toString methods ++ " methods)"
  | defaultHandlerSkipped serviceType =>
      "Skipping " ++ serviceType ++ ": it is the runtime's default method handler"
  | untaggedIgnored contract serviceType =>
      "Ignoring " ++ contract ++ " on " ++ serviceType ++ ": not tagged as a service contract"
  | namelessSkipped contract serviceType =>
      "Skipping " ++ contract ++ " on " ++ serviceType ++ ": no service name could be resolved"
  | serverMethodBound reference serviceType method =>
      "Bound " ++ reference ++ " to " ++ serviceType ++ "::" ++ method
  | serverMethodUnbound serviceType method reason =>
      "Unable to bind " ++ serviceType ++ "::" ++ method ++ ": " ++ reason
  | serviceRegistered methods serviceType =>
      "Registered " ++ toString methods ++ " code-first methods for " ++ serviceType
  | providerAdded => "Registered code-first RPC support"
  | providerPresent => "Code-first RPC support is already registered"

/-- The level and the text of an event. -/
def line (event : LogEvent) : String :=
  event.level.name ++ " " ++ event.message

end LogEvent

/-- A value with the events that producing it caused. -/
structure Logged (α : Type u) where
  /-- The events, oldest first. -/
  events : List LogEvent
  /-- The value. -/
  value : α

namespace Logged

/-- A value produced without any event. -/
def quiet {α : Type u} (value : α) : Logged α := ⟨[], value⟩

/-- Put an event before those of a logged value. -/
def after {α : Type u} (event : LogEvent) (logged : Logged α) : Logged α :=
  ⟨event :: logged.events, logged.value⟩

/-- Apply a function to the value. -/
def map {α : Type u} {β : Type v} (function : α → β) (logged : Logged α) : Logged β :=
  ⟨logged.events, function logged.value⟩

/-- Continue with a computation on the value, keeping all events in order. -/
def bind {α : Type u} {β : Type v} (logged : Logged α) (next : α → Logged β) : Logged β :=
  ⟨logged.events ++ (next logged.value).events, (next logged.value).value⟩

@[simp]
theorem value_after {α : Type u} (event : LogEvent) (logged : Logged α) :
    (after event logged).value = logged.value := rfl

@[simp]
theorem value_map {α : Type u} {β : Type v} (function : α → β) (logged : Logged α) :
    (map function logged).value = function logged.value := rfl

@[simp]
theorem value_bind {α : Type u} {β : Type v} (logged : Logged α) (next : α → Logged β) :
    (bind logged next).value = (next logged.value).value := rfl

end Logged
end RpcContracts
