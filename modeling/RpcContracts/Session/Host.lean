import RpcContracts.Call.Description
import RpcContracts.Sample.Scripted
import RpcContracts.Server.Description
import RpcContracts.Server.Host

/-!
# Sessions on a host

Providers are added to a host and asked to register services. Besides the sample services there is
one service type that can be defined anew. A second report tells how one service is bound.
-/

namespace RpcContracts

/-- A step on a host. -/
inductive HostStep where
  /-- Add providers, each with a binder that may have a name. -/
  | add (labels : List (Option String))
  /-- Store something else under the type of the provider. -/
  | storeForeign
  /-- Define the service type without a fixed definition. -/
  | define (service : Sample.ServiceChoice)
  /-- Show the provider. -/
  | provider
  /-- Have the provider register a service type. -/
  | discover (service : String)

/-- The steps without parameters, by name. -/
def HostStep.named : List (String × HostStep) :=
  [("add", .add [none]), ("add_twice", .add [none, none]), ("foreign", .storeForeign),
   ("provider", .provider)]

/-- What a step on a host answers. -/
inductive HostAnswer : Type 1 where
  | done
  /-- Name of the binder of the provider, and how many bindings it has built. -/
  | provider (label : Option String) (builds : Nat)
  | registered (registrations : List Registration)
  | failed (error : ContractError)
  /-- There is no provider. -/
  | absent

/-- A host in use. -/
structure HostSession : Type 1 where
  /-- The host. -/
  host : Host
  /-- What the service type without a fixed definition is. -/
  defined : Sample.ServiceChoice

namespace HostSession

/-- A host without objects. -/
def start : HostSession := ⟨.empty, .blank⟩

/-- Add providers one after another. -/
def addAll (host : Host) : List (Option String) → Logged Host
  | [] => .quiet host
  | label :: rest => (host.addProvider ⟨label, .empty⟩).bind fun host => addAll host rest

/-- Take a step. -/
def answer (session : HostSession) : HostStep → Logged (HostAnswer × HostSession)
  | .add labels =>
      (addAll session.host labels).map fun host => (.done, { session with host := host })
  | .storeForeign => .quiet (.done, { session with host := session.host.storeForeign })
  | .define service => .quiet (.done, { session with defined := service })
  | .provider =>
      .quiet
        (match session.host.provider? with
          | some provider => .provider provider.label provider.binder.bindings.builds
          | none => .absent, session)
  | .discover key =>
      let service := (Sample.services.lookup key).getD session.defined.service
      (session.host.discover key service .empty).map fun (result, host) =>
        (match result with
          | none => .absent
          | some (.error error, _) => .failed error
          | some (.ok _, registrar) => .registered registrar.calls,
          { session with host := host })

/-- Take steps, and tell the number of objects after each. -/
def run (session : HostSession) : List HostStep → Logged (List (HostAnswer × Nat))
  | [] => .quiet []
  | step :: rest =>
      (session.answer step).bind fun (answer, session) =>
        (run session rest).map fun answers => (answer, session.host.size) :: answers

end HostSession

/-- How a service is bound. -/
structure BindReport : Type 1 where
  /-- The binding, and whether asking again gives the same. -/
  binding : Except ContractError (Binding × Bool)
  /-- Number of builds. -/
  builds : Nat
  /-- Number of marshallers resolved. -/
  marshallers : Nat

/-- Bind a service, and ask again if that succeeds. -/
def HostedService.report (service : HostedService) : Logged BindReport :=
  (Binder.empty.bind service.typeName service).bind fun
    | (.error error, binder) =>
        .quiet ⟨.error error, binder.bindings.builds, binder.marshallers.size⟩
    | (.ok built, binder) =>
        (binder.bind service.typeName service).map fun (again, binder) =>
          let same := again.toOption.map Built.build == some built.build
          ⟨.ok (built.value, same), binder.bindings.builds, binder.marshallers.size⟩

/-- The structural text of the binding of a service, or of the error that binding it ends with. -/
def HostedService.bindingText (service : HostedService) : Logged String :=
  service.report.map fun report =>
    match report.binding with
    | .ok (binding, _) => binding.structuralText
    | .error error => error.structuralText

end RpcContracts
