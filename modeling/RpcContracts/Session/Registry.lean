import RpcContracts.Client.Registry
import RpcContracts.Sample.Contracts
import RpcContracts.Session.Answer

/-!
# Sessions on a client registry

Factories are asked for by contract type. Besides the two sample contracts there is one type whose
contract can be defined anew.
-/

namespace RpcContracts

/-- A contract type of a session. -/
inductive ContractType where
  | greeter
  | allShapes
  /-- The type whose contract is defined by the session. -/
  | defined
  deriving DecidableEq

namespace ContractType

/-- The key of a contract type. -/
def key : ContractType → String
  | greeter => "Greeter"
  | allShapes => "AllShapes"
  | defined => "Dynamic"

/-- Every contract type. -/
def all : List ContractType := [greeter, allShapes, defined]

end ContractType

/-- A step on a registry. -/
inductive RegistryStep where
  /-- Define what the defined type describes. -/
  | define (contract : Contract)
  /-- Ask for a factory. -/
  | factory (type : ContractType)
  /-- Create a proxy. -/
  | create (type : ContractType)
  /-- Ask for the factory of all shapes from several callers at once. -/
  | concurrent (callers : Nat)
  /-- Go on with a new registry that shares the marshallers. -/
  | fresh

/-- What a step on a registry answers. -/
inductive RegistryAnswer where
  | done
  | failed (error : ContractError)
  /-- A table, and whether the registry gives it again. -/
  | table (table : DispatchTable) (same : Bool)
  /-- How many callers got a factory, and whether they all got the same. -/
  | shared (callers : Nat) (same : Bool)

/-- A registry in use. -/
structure RegistrySession where
  /-- The registry. -/
  registry : ClientRegistry
  /-- The contract of the defined type. -/
  defined : Contract

namespace RegistrySession

/-- A new registry. -/
def start : RegistrySession :=
  ⟨.withMarshallers .empty, ⟨.concrete, "driver::Unset", [], []⟩⟩

/-- The contract of a type. -/
def contract (session : RegistrySession) : ContractType → Contract
  | .greeter => Sample.greeter
  | .allShapes => Sample.allShapes
  | .defined => session.defined

/-- Ask for a factory. -/
def ask (session : RegistrySession) (type : ContractType) :
    Logged (Except ContractError (Built DispatchTable) × RegistrySession) :=
  (session.registry.factory type.key (session.contract type)).map fun (found, registry) =>
    (found, { session with registry := registry })

/-- Ask for the factory of all shapes several times, and keep what was found. -/
def askRepeatedly (session : RegistrySession) :
    Nat → Logged (List (Built DispatchTable) × RegistrySession)
  | 0 => .quiet ([], session)
  | times + 1 =>
      (session.ask .allShapes).bind fun (found, session) =>
        (askRepeatedly session times).map fun (others, session) =>
          (found.toOption.toList ++ others, session)

/-- Take a step. -/
def answer (session : RegistrySession) :
    RegistryStep → Logged (RegistryAnswer × RegistrySession)
  | .define contract => .quiet (.done, { session with defined := contract })
  | .factory type =>
      (session.ask type).map fun
        | (.error error, session) => (.failed error, session)
        | (.ok built, session) =>
            let again := session.registry.factories.get? type.key
            (.table built.value (again.map Built.build == some built.build), session)
  | .create type =>
      (session.ask type).map fun
        | (.error error, session) => (.failed error, session)
        | (.ok _, session) => (.done, session)
  | .concurrent callers =>
      (session.askRepeatedly callers).map fun (found, session) =>
        let builds := found.map Built.build
        (.shared found.length (builds.all fun build => some build == builds.head?), session)
  | .fresh =>
      .quiet (.done,
        { session with registry := .withMarshallers session.registry.marshallers })

/-- Take steps, and tell the number of builds and of marshallers after each. -/
def run (session : RegistrySession) :
    List RegistryStep → Logged (List (RegistryAnswer × Nat × Nat))
  | [] => .quiet []
  | step :: rest =>
      (session.answer step).bind fun (answer, session) =>
        (run session rest).map fun answers =>
          (answer, session.registry.factories.builds, session.registry.marshallers.size) ::
            answers

end RegistrySession
end RpcContracts
