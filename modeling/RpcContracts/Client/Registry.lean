import RpcContracts.Cache.Once
import RpcContracts.Client.Table

/-!
# Registries of client factories

A registry builds the dispatch table of a contract type when it is first asked for and keeps it;
every proxy for the type shares the table. A failed build is not kept. The marshallers resolved on
the way may be shared with other registries and with servers.
-/

namespace RpcContracts

/-- The tables built so far, by contract type. -/
structure ClientRegistry where
  /-- Tables and the number of builds. -/
  factories : OnceCache String DispatchTable
  /-- Marshallers resolved so far. -/
  marshallers : MarshallerCache

namespace ClientRegistry

/-- A registry that shares marshallers. -/
def withMarshallers (marshallers : MarshallerCache) : ClientRegistry := ⟨.empty, marshallers⟩

/-- Build the factory of a contract. -/
def buildFactory (contract : Contract) (marshallers : MarshallerCache) :
    Logged (Except ContractError DispatchTable × MarshallerCache) :=
  (DispatchTable.build contract marshallers).bind fun
    | (.ok table, marshallers) =>
        (Logged.quiet (.ok table, marshallers)).after
          (.factoryBuilt table.service table.entries.length)
    | (.error error, marshallers) => .quiet (.error error, marshallers)

/-- The table of a contract type, built from what the type describes on first use. -/
def factory (registry : ClientRegistry) (key : String) (contract : Contract) :
    Logged (Except ContractError (Built DispatchTable) × ClientRegistry) :=
  match registry.factories.get? key with
  | some built => .quiet (.ok built, registry)
  | none =>
      (buildFactory contract registry.marshallers).map fun (result, marshallers) =>
        match registry.factories.getOrBuild key fun factories => (result, factories) with
        | (found, factories) => (found, ⟨factories, marshallers⟩)

end ClientRegistry
end RpcContracts
