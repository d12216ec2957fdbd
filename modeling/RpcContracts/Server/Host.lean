import RpcContracts.Server.Binder

/-!
# Hosts

A host keeps single objects by their type. Adding the provider of bound methods to a host that has
something under the type of the provider changes nothing, so the first provider stays.
-/

namespace RpcContracts

/-- The provider of bound methods. -/
structure Provider : Type 1 where
  /-- Name of the binder, if it has one. -/
  label : Option String
  /-- What binds the services. -/
  binder : Binder

/-- What a host keeps under the type of the provider. -/
inductive HostSlot : Type 1 where
  | vacant
  | provider (provider : Provider)
  /-- Something else that was stored under the type. -/
  | foreign

/-- The objects of a host. -/
structure Host : Type 1 where
  /-- What is kept under the type of the provider. -/
  slot : HostSlot

namespace Host

/-- A host without objects. -/
def empty : Host := ⟨.vacant⟩

/-- Number of objects. -/
def size (host : Host) : Nat :=
  match host.slot with
  | .vacant => 0
  | _ => 1

/-- Store something else under the type of the provider. -/
def storeForeign (_ : Host) : Host := ⟨.foreign⟩

/-- The provider. -/
def provider? (host : Host) : Option Provider :=
  match host.slot with
  | .provider provider => some provider
  | _ => none

/-- Add a provider, unless something is kept under its type. -/
def addProvider (host : Host) (provider : Provider) : Logged Host :=
  match host.slot with
  | .vacant => (Logged.quiet ⟨.provider provider⟩).after .providerAdded
  | _ => (Logged.quiet host).after .providerPresent

/-- Have the provider register the methods of a service type. There is no answer without one. -/
def discover (host : Host) (key : String) (service : HostedService) (registrar : Registrar) :
    Logged (Option (Except ContractError Nat × Registrar) × Host) :=
  match host.slot with
  | .provider provider =>
      (provider.binder.discover key service registrar).map fun (answer, binder) =>
        (some answer, ⟨.provider { provider with binder := binder }⟩)
  | _ => .quiet (none, host)

end Host
end RpcContracts
