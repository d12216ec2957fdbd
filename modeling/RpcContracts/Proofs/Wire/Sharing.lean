import Mathlib.Logic.Function.Basic
import RpcContracts.Client.Registry
import RpcContracts.Proofs.Cache.Slots
import RpcContracts.Proofs.Marshal.Histories
import RpcContracts.Proofs.Server.Bindings
import RpcContracts.Sample.Services

/-!
# Sharing a cache of marshallers

Registries and binders may share the marshallers they resolve, so that what a build finds resolved
is up to what others built before it. Here two builds are compared side by side, on caches that may
have met different histories: as long as no two payload types disagree, they answer and log the
same, and every answer is the one that a registry or a binder of its own would have given.
-/

namespace RpcContracts

/-! ## Payload types -/

/-- The payload types of an operation. -/
def Operation.payloads (operation : Operation) : List DeclaredType :=
  [operation.shape.requestType, operation.shape.responseType]

/-- The payload types of all operations. -/
def Contract.payloads (contract : Contract) : List DeclaredType :=
  contract.operations.flatMap Operation.payloads

/-- The payload types of the operations that count. -/
def HostedService.payloads (service : HostedService) : List DeclaredType :=
  service.counted.flatMap fun source => source.contract.payloads

/-- All described types of a list agree with an assignment. -/
def AllAgree (assigned : PlainType → Option Marshaller) (types : List DeclaredType) : Prop :=
  ∀ type ∈ types, type.Agrees assigned

theorem allAgree_append {assigned : PlainType → Option Marshaller}
    {front back : List DeclaredType} :
    AllAgree assigned (front ++ back) ↔ AllAgree assigned front ∧ AllAgree assigned back :=
  List.forall_mem_append

theorem AllAgree.of_operation {assigned : PlainType → Option Marshaller} {operation : Operation}
    (agree : AllAgree assigned operation.payloads) :
    operation.shape.requestType.Agrees assigned ∧ operation.shape.responseType.Agrees assigned :=
  ⟨agree _ List.mem_cons_self, agree _ (List.mem_cons_of_mem _ List.mem_cons_self)⟩

/-! ## Builds side by side -/

/-- Two runs answer the same and end in related states. -/
structure Alike {α : Type u} {σ : Type v} (related : σ → σ → Prop) (first second : α × σ) :
    Prop where
  answer_eq : first.1 = second.1
  states : related first.2 second.2

theorem Alike.exists_answer {α : Type u} {σ : Type v} {related : σ → σ → Prop}
    {first second : α × σ} (alike : Alike related first second) :
    ∃ answer left right, first = (answer, left) ∧ second = (answer, right) ∧
      related left right := by
  obtain ⟨answer, left⟩ := first
  obtain ⟨other, right⟩ := second
  obtain rfl : answer = other := alike.answer_eq
  exact ⟨answer, left, right, rfl, rfl, alike.states⟩

namespace Logged

/-- Two runs also log the same. -/
structure Alike {α : Type u} {σ : Type v} (related : σ → σ → Prop)
    (first second : Logged (α × σ)) : Prop where
  events_eq : first.events = second.events
  values : RpcContracts.Alike related first.value second.value

variable {α : Type u} {β : Type v} {γ : Type w} {σ : Type u₁} {τ : Type u₂}
  {related : σ → σ → Prop} {entailed : τ → τ → Prop} {first second : Logged (α × σ)}

theorem Alike.quiet {first second : α × σ} (alike : RpcContracts.Alike related first second) :
    Alike related (quiet first) (quiet second) :=
  ⟨rfl, alike⟩

theorem Alike.after (alike : Alike related first second) (event : LogEvent) :
    Alike related (first.after event) (second.after event) :=
  ⟨congrArg (event :: ·) alike.events_eq, alike.values⟩

/-- Runs that go on alike from related states. -/
theorem Alike.bind (alike : Alike related first second)
    {next other : α × σ → Logged (β × τ)}
    (go_on : ∀ answer left right, related left right →
      Alike entailed (next (answer, left)) (other (answer, right))) :
    Alike entailed (first.bind next) (second.bind other) := by
  obtain ⟨answer, left, right, first_eq, second_eq, states⟩ := alike.values.exists_answer
  obtain ⟨events_eq, values⟩ := go_on answer left right states
  refine ⟨?_, ?_⟩
  · simp only [Logged.bind, first_eq, second_eq, alike.events_eq, events_eq]
  · simp only [Logged.bind, first_eq, second_eq]
    exact values

/-- Runs that go on alike from what both of them got. -/
theorem alike_bind (common : Logged γ) {next other : γ → Logged (α × σ)}
    (go_on : Alike related (next common.value) (other common.value)) :
    Alike related (common.bind next) (common.bind other) :=
  ⟨congrArg (common.events ++ ·) go_on.events_eq, go_on.values⟩

theorem Alike.map (alike : Alike related first second) {next : α × σ → β × τ}
    (go_on : ∀ answer left right, related left right →
      RpcContracts.Alike entailed (next (answer, left)) (next (answer, right))) :
    Alike entailed (first.map next) (second.map next) := by
  obtain ⟨answer, left, right, first_eq, second_eq, states⟩ := alike.values.exists_answer
  refine ⟨alike.events_eq, ?_⟩
  simp only [Logged.map, first_eq, second_eq]
  exact go_on answer left right states

end Logged

/-- Both caches remember assigned marshallers only. -/
def BothRemember (assigned : PlainType → Option Marshaller) (first second : MarshallerCache) :
    Prop :=
  first.Remembers assigned ∧ second.Remembers assigned

section

variable {assigned : PlainType → Option Marshaller} {first second : MarshallerCache}

theorem MarshallerCache.resolve_plain_fst (remembers : first.Remembers assigned)
    {type : PlainType} {carried : Option Marshaller} (agrees : carried = assigned type) :
    (first.resolve (.plain type carried)).1 = carried := by
  rw [resolve_plain]
  cases known : first.get? type with
  | none => exact Option.none_or
  | some marshaller => rw [agrees, remembers type marshaller known, Option.some_or]

theorem MarshallerCache.Remembers.resolve (remembers : first.Remembers assigned)
    {type : DeclaredType} (agrees : type.Agrees assigned) :
    (first.resolve type).2.Remembers assigned := by
  intro sought marshaller found
  rw [get?_resolve, Option.or_eq_some_iff] at found
  obtain known | ⟨-, carries⟩ := found
  · exact remembers sought marshaller known
  · obtain rfl := eq_plain_of_carriedFor carries
    exact Eq.symm agrees

theorem MarshallerCache.resolve_alike (both : BothRemember assigned first second)
    {type : DeclaredType} (agrees : type.Agrees assigned) :
    Alike (BothRemember assigned) (first.resolve type) (second.resolve type) := by
  refine ⟨?_, both.1.resolve agrees, both.2.resolve agrees⟩
  cases type with
  | wrapped wrapper argument => rfl
  | plain type carried =>
      rw [resolve_plain_fst both.1 agrees, resolve_plain_fst both.2 agrees]

theorem WireMethod.resolve_alike (both : BothRemember assigned first second)
    (reference : MethodReference) {request response : DeclaredType}
    (request_agrees : request.Agrees assigned) (response_agrees : response.Agrees assigned) :
    Alike (BothRemember assigned) (resolve reference request response first)
      (resolve reference request response second) := by
  obtain ⟨requested, left, right, first_eq, second_eq, between⟩ :=
    (MarshallerCache.resolve_alike both request_agrees).exists_answer
  simp only [resolve, first_eq, second_eq]
  cases requested with
  | none => exact ⟨rfl, between⟩
  | some requestMarshaller =>
      obtain ⟨responded, left, right, first_eq, second_eq, after⟩ :=
        (MarshallerCache.resolve_alike between response_agrees).exists_answer
      simp only [first_eq, second_eq]
      cases responded with
      | none => exact ⟨rfl, after⟩
      | some responseMarshaller => exact ⟨rfl, after⟩

variable {operation : Operation}

/-! ### Tables -/

theorem ClientMethod.bind_alike (both : BothRemember assigned first second) (service : String)
    (agree : AllAgree assigned operation.payloads) :
    Alike (BothRemember assigned) (bind service operation first)
      (bind service operation second) := by
  obtain ⟨request_agrees, response_agrees⟩ := agree.of_operation
  unfold bind
  split
  · exact ⟨rfl, both⟩
  · split
    · exact ⟨rfl, both⟩
    · obtain ⟨resolved, left, right, first_eq, second_eq, after⟩ :=
        (WireMethod.resolve_alike both (operation.reference service) request_agrees
          response_agrees).exists_answer
      simp only [first_eq, second_eq]
      cases resolved with
      | error error => exact ⟨rfl, after⟩
      | ok wire => exact ⟨rfl, after⟩

namespace DispatchTable

theorem addOperations_alike (operations : List Operation)
    (agree : AllAgree assigned (operations.flatMap Operation.payloads)) (table : DispatchTable)
    {first second : MarshallerCache} (both : BothRemember assigned first second) :
    Logged.Alike (BothRemember assigned) (table.addOperations first operations)
      (table.addOperations second operations) := by
  induction operations generalizing table first second with
  | nil => exact .quiet ⟨rfl, both⟩
  | cons operation rest ih =>
      rw [List.flatMap_cons, allAgree_append] at agree
      have go_on := ih agree.2
      obtain ⟨bound, left, right, first_eq, second_eq, after⟩ :=
        (ClientMethod.bind_alike both table.service agree.1).exists_answer
      simp only [addOperations, first_eq, second_eq]
      cases bound with
      | ok method => exact (go_on _ after).after _
      | error error => exact (go_on _ after).after _

end DispatchTable

theorem Contract.payloads_exposed {contract : Contract} {exposed : Service}
    (inspected : contract.inspect.value = .ok exposed) :
    exposed.operations.flatMap Operation.payloads = contract.payloads := by
  obtain ⟨-, exposed_eq, -⟩ := Contract.inspect_ok inspected
  rw [exposed_eq]
  rfl

theorem DispatchTable.build_alike {contract : Contract}
    (agree : AllAgree assigned contract.payloads) (both : BothRemember assigned first second) :
    Logged.Alike (BothRemember assigned) (build contract first) (build contract second) := by
  unfold build
  split
  · apply Logged.alike_bind
    cases inspected : contract.inspect.value with
    | error error => exact .quiet ⟨rfl, both⟩
    | ok service =>
        rw [← Contract.payloads_exposed inspected] at agree
        exact (addOperations_alike service.operations agree _ both).map
          fun _ _ _ after => ⟨rfl, after⟩
  · exact .quiet ⟨rfl, both⟩

theorem ClientRegistry.buildFactory_alike {contract : Contract}
    (agree : AllAgree assigned contract.payloads) (both : BothRemember assigned first second) :
    Logged.Alike (BothRemember assigned) (buildFactory contract first)
      (buildFactory contract second) := by
  refine (DispatchTable.build_alike agree both).bind fun result left right after => ?_
  cases result with
  | error error => exact .quiet ⟨rfl, after⟩
  | ok table =>
      apply Logged.Alike.after
      exact .quiet ⟨rfl, after⟩

/-! ### Bindings -/

theorem Implementation.bind_alike (both : BothRemember assigned first second)
    (source : Implementation) (service : String) (annotations : List Annotation)
    (agree : AllAgree assigned operation.payloads) :
    Alike (BothRemember assigned) (source.bind service operation annotations first)
      (source.bind service operation annotations second) := by
  obtain ⟨request_agrees, response_agrees⟩ := agree.of_operation
  unfold bind
  split
  · exact ⟨rfl, both⟩
  · obtain ⟨resolved, left, right, first_eq, second_eq, after⟩ :=
      (WireMethod.resolve_alike both (operation.reference service) request_agrees
        response_agrees).exists_answer
    simp only [first_eq, second_eq]
    cases resolved with
    | error error => exact ⟨rfl, after⟩
    | ok wire => exact ⟨rfl, after⟩

namespace BindingProgress

/-- Two bindings have come equally far, with marshallers that may differ in number. -/
structure Abreast (assigned : PlainType → Option Marshaller) (first second : BindingProgress) :
    Prop where
  methods_eq : first.methods = second.methods
  declared_eq : first.declared = second.declared
  marshallers : BothRemember assigned first.marshallers second.marshallers

theorem addOperations_alike (service : HostedService) (source : Implementation) (name : String)
    (operations : List Operation)
    (agree : AllAgree assigned (operations.flatMap Operation.payloads))
    {first second : BindingProgress} (abreast : first.Abreast assigned second) :
    Logged.Alike (Abreast assigned) (addOperations service source name first operations)
      (addOperations service source name second operations) := by
  induction operations generalizing first second with
  | nil => exact .quiet ⟨rfl, abreast⟩
  | cons operation rest ih =>
      rw [List.flatMap_cons, allAgree_append] at agree
      have go_on := @ih agree.2
      obtain ⟨methods, declared, left⟩ := first
      obtain ⟨_, _, right⟩ := second
      obtain ⟨rfl, rfl, both⟩ := abreast
      simp only [addOperations]
      split
      · exact .quiet ⟨rfl, rfl, rfl, both⟩
      · obtain ⟨bound, left, right, first_eq, second_eq, after⟩ :=
          (source.bind_alike both name service.own.contract.annotations
            agree.1).exists_answer
        simp only [first_eq, second_eq]
        cases bound with
        | error error =>
            apply Logged.Alike.after
            exact go_on ⟨rfl, rfl, after⟩
        | ok bound =>
            apply Logged.Alike.after
            exact go_on ⟨rfl, rfl, after⟩

theorem addSources_alike (service : HostedService) (sources : List Implementation)
    (agree : AllAgree assigned (sources.flatMap fun source => source.contract.payloads))
    {first second : BindingProgress} (abreast : first.Abreast assigned second) :
    Logged.Alike (Abreast assigned) (addSources service first sources)
      (addSources service second sources) := by
  induction sources generalizing first second with
  | nil => exact .quiet ⟨rfl, abreast⟩
  | cons source rest ih =>
      rw [List.flatMap_cons, allAgree_append] at agree
      have go_on := @ih agree.2
      apply Logged.alike_bind
      cases inspected : source.contract.inspect.value with
      | error error =>
          cases error with
          | missingServiceName contract => exact (go_on abreast).after _
          | _ => exact .quiet ⟨rfl, abreast⟩
      | ok exposed =>
          have source_agrees := agree.1
          rw [← Contract.payloads_exposed inspected] at source_agrees
          refine (addOperations_alike service source exposed.name exposed.operations source_agrees
            abreast).bind fun added left right after => ?_
          cases added with
          | error error => exact .quiet ⟨rfl, after⟩
          | ok _ => exact go_on after

end BindingProgress

theorem Binding.build_alike {service : HostedService} (agree : AllAgree assigned service.payloads)
    (both : BothRemember assigned first second) :
    Logged.Alike (BothRemember assigned) (build service first) (build service second) := by
  unfold build
  split
  · apply Logged.Alike.after
    exact .quiet ⟨rfl, both⟩
  · apply Logged.alike_bind
    rw [HostedService.value_sources]
    have abreast : BindingProgress.Abreast assigned ⟨[], [], first⟩ ⟨[], [], second⟩ :=
      ⟨rfl, rfl, both⟩
    refine (BindingProgress.addSources_alike service service.counted agree abreast).map
      fun added left right after => ?_
    cases added with
    | error error => exact ⟨rfl, after.marshallers⟩
    | ok _ =>
        refine ⟨?_, after.marshallers⟩
        exact congrArg (fun methods => Except.ok (Binding.mk service.typeName methods))
          after.methods_eq

end

/-! ## Registries and binders that share marshallers -/

/-- Every value that a cache stores is what a build gives alone. -/
def OnceCache.StoresAlone {Value : Type u} (alone : String → Except ContractError Value)
    (cache : OnceCache String Value) : Prop :=
  ∀ key built, cache.get? key = some built → alone key = .ok built.value

section

variable {Value : Type u} {cache : OnceCache String Value} {key : String}

/-- A cache without a value for a key answers with what a build gives. -/
theorem OnceCache.getOrBuild_result (missing : cache.get? key = none)
    (result : Except ContractError Value) :
    (cache.getOrBuild key fun started => (result, started)).1.map Built.value = result := by
  cases result with
  | error error => rw [getOrBuild_of_failed missing rfl]; rfl
  | ok value => rw [getOrBuild_of_built missing rfl]; rfl

/-- A build that gives what it gives alone stores nothing else. -/
theorem OnceCache.StoresAlone.getOrBuild {alone : String → Except ContractError Value}
    (stores : cache.StoresAlone alone) (missing : cache.get? key = none) :
    (cache.getOrBuild key fun started => (alone key, started)).2.StoresAlone alone := by
  have started_stores : (cache.start key).StoresAlone alone := by
    intro sought built stored
    rw [get?_start] at stored
    exact stores sought built stored
  cases result : alone key with
  | error error =>
      rw [getOrBuild_of_failed missing rfl]
      exact started_stores
  | ok value =>
      rw [getOrBuild_of_built missing rfl]
      intro sought built stored
      by_cases same : sought = key
      · subst same
        rw [get?_fill_self (cache.mem_keys_start sought)] at stored
        cases stored
        exact result
      · rw [get?_fill_of_ne same] at stored
        exact started_stores sought built stored

/-- Ask for a key, with a build on marshallers that others may have resolved. -/
def OnceCache.share (cache : OnceCache String Value) (key : String)
    (build : MarshallerCache → Except ContractError Value × MarshallerCache)
    (marshallers : MarshallerCache) :
    Except ContractError (Built Value) × OnceCache String Value × MarshallerCache :=
  match cache.get? key with
  | some built => (.ok built, cache, marshallers)
  | none =>
      match build marshallers with
      | (result, marshallers) =>
          match cache.getOrBuild key fun started => (result, started) with
          | (found, cache) => (found, cache, marshallers)

theorem OnceCache.share_result (missing : cache.get? key = none)
    (build : MarshallerCache → Except ContractError Value × MarshallerCache)
    (marshallers : MarshallerCache) :
    (cache.share key build marshallers).1.map Built.value = (build marshallers).1 := by
  simp only [share, missing]
  exact getOrBuild_result missing _

/-- A cache that stores what builds give alone goes on to do so, and answers with it. -/
theorem OnceCache.StoresAlone.share {alone : String → Except ContractError Value}
    (stores : cache.StoresAlone alone) (key : String)
    (build : MarshallerCache → Except ContractError Value × MarshallerCache)
    {assigned : PlainType → Option Marshaller} {marshallers : MarshallerCache}
    (remembers : marshallers.Remembers assigned) (built_eq : (build marshallers).1 = alone key)
    (built_remembers : (build marshallers).2.Remembers assigned) :
    (cache.share key build marshallers).1.map Built.value = alone key ∧
      (cache.share key build marshallers).2.1.StoresAlone alone ∧
      (cache.share key build marshallers).2.2.Remembers assigned := by
  cases known : cache.get? key with
  | some built =>
      simp only [OnceCache.share, known]
      exact ⟨(stores key built known).symm, stores, remembers⟩
  | none =>
      have stores_after := stores.getOrBuild known
      rw [← built_eq] at stores_after
      refine ⟨(share_result known build marshallers).trans built_eq, ?_, ?_⟩
      · simp only [OnceCache.share, known]
        exact stores_after
      · simp only [OnceCache.share, known]
        exact built_remembers

end

theorem ClientRegistry.factory_value (registry : ClientRegistry) (key : String)
    (contract : Contract) :
    (registry.factory key contract).value =
      match registry.factories.share key (fun cache => (buildFactory contract cache).value)
        registry.marshallers with
      | (found, factories, marshallers) => (found, ⟨factories, marshallers⟩) := by
  unfold factory OnceCache.share
  cases registry.factories.get? key <;> rfl

theorem Binder.bind_value (binder : Binder) (key : String) (service : HostedService) :
    (binder.bind key service).value =
      match binder.bindings.share key (fun cache => (Binding.build service cache).value)
        binder.marshallers with
      | (found, bindings, marshallers) => (found, ⟨bindings, marshallers⟩) := by
  unfold bind OnceCache.share
  cases binder.bindings.get? key <;> rfl

/-- Registries and binders, by their numbers, and the marshallers that they share. -/
structure Sharing : Type 1 where
  /-- The tables of each registry. -/
  factories : Nat → OnceCache String DispatchTable
  /-- The bindings of each binder. -/
  bindings : Nat → OnceCache String Binding
  /-- Marshallers resolved so far by any of them. -/
  marshallers : MarshallerCache

/-- What one of them is asked for. -/
inductive SharedRequest where
  /-- The table of a contract type. -/
  | factory (registry : Nat) (type : String)
  /-- The binding of a service type. -/
  | bind (binder : Nat) (type : String)

/-- What was built, or why not. -/
inductive SharedAnswer : Type 1 where
  | table (result : Except ContractError DispatchTable)
  | binding (result : Except ContractError Binding)

section

variable (contracts : String → Contract) (services : String → HostedService)

namespace SharedRequest

/-- What a new registry or binder answers that shares nothing. -/
def alone : SharedRequest → SharedAnswer
  | factory _ type =>
      .table (((ClientRegistry.withMarshallers .empty).factory type
        (contracts type)).value.1.map Built.value)
  | bind _ type => .binding ((Binder.empty.bind type (services type)).value.1.map Built.value)

/-- The payload types of what is asked for. -/
def payloads : SharedRequest → List DeclaredType
  | factory _ type => (contracts type).payloads
  | bind _ type => (services type).payloads

end SharedRequest

namespace Sharing

/-- New registries and binders. -/
def start : Sharing := ⟨fun _ => .empty, fun _ => .empty, .empty⟩

/-- Ask one of them, which builds on the marshallers resolved so far. -/
def answer (sharing : Sharing) : SharedRequest → SharedAnswer × Sharing
  | .factory registry type =>
      match ((ClientRegistry.mk (sharing.factories registry) sharing.marshallers).factory type
          (contracts type)).value with
      | (found, after) =>
          (.table (found.map Built.value),
            ⟨Function.update sharing.factories registry after.factories, sharing.bindings,
              after.marshallers⟩)
  | .bind binder type =>
      match ((Binder.mk (sharing.bindings binder) sharing.marshallers).bind type
          (services type)).value with
      | (found, after) =>
          (.binding (found.map Built.value),
            ⟨sharing.factories, Function.update sharing.bindings binder after.bindings,
              after.marshallers⟩)

/-- The answers to requests made one after another. -/
def answers (sharing : Sharing) : List SharedRequest → List SharedAnswer
  | [] => []
  | request :: rest =>
      match sharing.answer contracts services request with
      | (answer, after) => answer :: after.answers rest

/-- Everything stored is what a build gives alone, and only assigned marshallers are remembered. -/
structure Unaffected (assigned : PlainType → Option Marshaller) (sharing : Sharing) : Prop where
  factories : ∀ registry, (sharing.factories registry).StoresAlone fun type =>
    (ClientRegistry.buildFactory (contracts type) .empty).value.1
  bindings : ∀ binder, (sharing.bindings binder).StoresAlone fun type =>
    (Binding.build (services type) .empty).value.1
  remembers : sharing.marshallers.Remembers assigned

variable {contracts services} {assigned : PlainType → Option Marshaller} {sharing : Sharing}

theorem unaffected_start : start.Unaffected contracts services assigned where
  factories _ _ _ stored := nomatch stored
  bindings _ _ _ stored := nomatch stored
  remembers := MarshallerCache.remembers_empty

/-- A request is answered as if nothing was shared, and affects nothing that is asked for later. -/
theorem Unaffected.answer (unaffected : sharing.Unaffected contracts services assigned)
    {request : SharedRequest} (agree : AllAgree assigned (request.payloads contracts services)) :
    (sharing.answer contracts services request).1 = request.alone contracts services ∧
      (sharing.answer contracts services request).2.Unaffected contracts services assigned := by
  have both : BothRemember assigned sharing.marshallers .empty :=
    ⟨unaffected.remembers, MarshallerCache.remembers_empty⟩
  cases request with
  | factory registry type =>
      let build := fun cache => (ClientRegistry.buildFactory (contracts type) cache).value
      have alike := (ClientRegistry.buildFactory_alike agree both).values
      obtain ⟨found_eq, stores, remembers⟩ := (unaffected.factories registry).share type build
        unaffected.remembers alike.answer_eq alike.states.1
      have alone_eq := OnceCache.share_result (OnceCache.get?_empty type) build .empty
      simp only [Sharing.answer, SharedRequest.alone, ClientRegistry.factory_value]
      refine ⟨congrArg SharedAnswer.table (found_eq.trans alone_eq.symm), ?_,
        unaffected.bindings, remembers⟩
      exact (Function.forall_update_iff _ fun _ stored => OnceCache.StoresAlone _ stored).mpr
        ⟨stores, fun other _ => unaffected.factories other⟩
  | bind binder type =>
      let build := fun cache => (Binding.build (services type) cache).value
      have alike := (Binding.build_alike agree both).values
      obtain ⟨found_eq, stores, remembers⟩ := (unaffected.bindings binder).share type build
        unaffected.remembers alike.answer_eq alike.states.1
      have alone_eq := OnceCache.share_result (OnceCache.get?_empty type) build .empty
      simp only [Sharing.answer, SharedRequest.alone, Binder.bind_value]
      refine ⟨congrArg SharedAnswer.binding (found_eq.trans alone_eq.symm),
        unaffected.factories, ?_, remembers⟩
      exact (Function.forall_update_iff _ fun _ stored => OnceCache.StoresAlone _ stored).mpr
        ⟨stores, fun other _ => unaffected.bindings other⟩

/-- Requests are answered one after another as if nothing was shared. -/
theorem Unaffected.answers {requests : List SharedRequest}
    (agree : AllAgree assigned (requests.flatMap (SharedRequest.payloads contracts services)))
    {sharing : Sharing} (unaffected : sharing.Unaffected contracts services assigned) :
    sharing.answers contracts services requests =
      requests.map (SharedRequest.alone contracts services) := by
  induction requests generalizing sharing with
  | nil => rfl
  | cons request rest ih =>
      rw [List.flatMap_cons, allAgree_append] at agree
      obtain ⟨answer_eq, unaffected_after⟩ := unaffected.answer agree.1
      rw [Sharing.answers, List.map_cons, ← answer_eq]
      exact congrArg _ (ih agree.2 unaffected_after)

/-- What a type resolves to is the first marshaller that it or a description of the same type
resolved before carries; whichever descriptions are allowed, the ones resolved before do not matter
exactly if no two of one type disagree. As long as no two payload types of what registries and
binders are asked for disagree, every answer is the one that a registry or binder of its own
gives. -/
theorem answers_alone (contracts : String → Contract) (services : String → HostedService)
    (requests : List SharedRequest) :
    (∀ (types : List DeclaredType) (type : PlainType) (carried : Option Marshaller),
      ((MarshallerCache.empty.resolveAll types).resolve (.plain type carried)).1 =
        (types.findSome? (MarshallerCache.carriedFor type)).or carried) ∧
    (∀ allowed : DeclaredType → Prop,
      (∀ types : List DeclaredType, (∀ type ∈ types, allowed type) → ∀ type, allowed type →
        ((MarshallerCache.empty.resolveAll types).resolve type).1 = type.marshaller?) ↔
      Consistent allowed) ∧
    (Consistent (· ∈ requests.flatMap (SharedRequest.payloads contracts services)) →
      start.answers contracts services requests =
        requests.map (SharedRequest.alone contracts services)) := by
  refine ⟨MarshallerCache.resolve_after, MarshallerCache.history_irrelevant_iff, ?_⟩
  intro consistent
  obtain ⟨assigned, agree⟩ := consistent.exists_assigned
  exact unaffected_start.answers agree

end Sharing

end

namespace Sample

/-- The sample contract of a type. -/
def contractOf (type : String) : Contract := if type = "Greeter" then greeter else allShapes

/-- The sample service of a type. -/
def serviceOf (type : String) : HostedService :=
  if type = "GreeterService" then greeterService else shapesService

/-- Two registries and a binder are asked for a few types, one of them twice. -/
def sharedRequests : List SharedRequest :=
  [.factory 0 "Greeter", .bind 0 "ShapesService", .factory 1 "AllShapes", .factory 0 "AllShapes",
    .bind 0 "GreeterService"]

/-- The sample contracts and services may be built in any order and with shared marshallers. -/
theorem sharedRequests_alone :
    Consistent (· ∈ sharedRequests.flatMap (SharedRequest.payloads contractOf serviceOf)) ∧
      Sharing.start.answers contractOf serviceOf sharedRequests =
        sharedRequests.map (SharedRequest.alone contractOf serviceOf) := by
  have greeter_plain : ∀ declared ∈ greeter.payloads, ∃ type, declared = .ofPlain type := by
    have payloads_eq : greeter.payloads =
        [helloRequest, helloReply, helloRequest, helloReply] := rfl
    simp [payloads_eq, helloRequest, helloReply, messageType]
  have shapes_plain : ∀ declared ∈ allShapes.payloads, ∃ type, declared = .ofPlain type := by
    have payloads_eq : allShapes.payloads =
        (List.replicate 9 [ping, pong]).flatten ++ [.ofPlain .i32, .ofPlain .i32] := rfl
    simp [payloads_eq, ping, pong, messageType]
  have plain : ∀ declared ∈ sharedRequests.flatMap (SharedRequest.payloads contractOf serviceOf),
      ∃ type, declared = .ofPlain type := by
    have payloads_eq : sharedRequests.flatMap (SharedRequest.payloads contractOf serviceOf) =
        greeter.payloads ++ (allShapes.payloads ++ (allShapes.payloads ++ (allShapes.payloads ++
          greeter.payloads))) := rfl
    rw [payloads_eq]
    simp only [List.forall_mem_append]
    exact ⟨greeter_plain, shapes_plain, shapes_plain, shapes_plain, greeter_plain⟩
  have consistent : Consistent (· ∈ sharedRequests.flatMap
      (SharedRequest.payloads contractOf serviceOf)) := by
    have carries : ∀ type carried, .plain type carried ∈
        sharedRequests.flatMap (SharedRequest.payloads contractOf serviceOf) →
          carried = type.marshaller? := by
      intro type carried described
      obtain ⟨other, same⟩ := plain _ described
      cases same
      rfl
    intro type first second first_mem second_mem
    exact (carries type first first_mem).trans (carries type second second_mem).symm
  exact ⟨consistent, (Sharing.answers_alone contractOf serviceOf sharedRequests).2.2 consistent⟩

/-- An interface that takes and returns numbers. -/
def numbers (typeName : String) (number : DeclaredType) : Contract :=
  interface typeName "Numbers" [method "echo" [number] (.wrapped .task number)]

/-- Two contracts on numbers, one of which gives them a marshaller. -/
def numbersOf (type : String) : Contract :=
  if type = "Decimals" then numbers type ((DeclaredType.ofPlain .i32).withMarshaller .decimal)
  else numbers type (.ofPlain .i32)

/-- The answer is a table in which the method on numbers is bound. -/
def bindsEcho : SharedAnswer → Bool
  | .table (.ok table) =>
      match table.get? "echo" with
      | some (.bound _) => true
      | _ => false
  | _ => false

/-- A number without a marshaller has one after a number with a marshaller was resolved, and a
method that takes it is bound that is not bound alone. -/
theorem numbers_noticed :
    ((MarshallerCache.empty.resolve ((DeclaredType.ofPlain .i32).withMarshaller .decimal)).2.resolve
        (.ofPlain .i32)).1 ≠ (DeclaredType.ofPlain .i32).marshaller? ∧
      (Sharing.start.answers numbersOf serviceOf
        [.factory 0 "Decimals", .factory 1 "Numbers"]).map bindsEcho = [true, true] ∧
      ([.factory 0 "Decimals", .factory 1 "Numbers"].map fun request =>
        bindsEcho (SharedRequest.alone numbersOf serviceOf request)) = [true, false] :=
  ⟨nofun, rfl, rfl⟩

end Sample

end RpcContracts
