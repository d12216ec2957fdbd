import Mathlib.Data.Finset.Card
import Mathlib.Data.List.Dedup
import RpcContracts.Proofs.Wire.Sharing
import RpcContracts.Server.Host

/-!
# Outcomes that last

What a build finds in the cache of marshallers decides which methods are bound, and never whether a
factory or a binding is built: that is up to the contracts alone. So a registry or a binder that was
asked for a type gives the same answer whenever it is asked again, whatever became of the
marshallers that it shares, and the number of its builds can be told from the answers. Discoveries
repeat what they ask of a runtime, and a host stays with the provider that it got first.
-/

namespace RpcContracts

/-! ## Refusals -/

/-- Why a build gave nothing. -/
def refusal? {α : Type u} : Except ContractError α → Option ContractError
  | .ok _ => none
  | .error error => some error

theorem DispatchTable.refusal?_build (contract : Contract) (first second : MarshallerCache) :
    refusal? (build contract first).value.1 = refusal? (build contract second).value.1 := by
  unfold build
  split
  · simp only [Logged.value_bind]
    cases contract.inspect.value <;> rfl
  · rfl

namespace ClientRegistry

theorem refusal?_buildFactory_eq (contract : Contract) (marshallers : MarshallerCache) :
    refusal? (buildFactory contract marshallers).value.1 =
      refusal? (DispatchTable.build contract marshallers).value.1 := by
  simp only [buildFactory, Logged.value_bind]
  obtain ⟨result, resolved⟩ := (DispatchTable.build contract marshallers).value
  cases result <;> rfl

/-- Whether the factory of a contract is built has nothing to do with marshallers. -/
theorem refusal?_buildFactory (contract : Contract) (first second : MarshallerCache) :
    refusal? (buildFactory contract first).value.1 =
      refusal? (buildFactory contract second).value.1 := by
  rw [refusal?_buildFactory_eq, refusal?_buildFactory_eq,
    DispatchTable.refusal?_build contract first second]

end ClientRegistry

namespace BindingProgress

/-- The same operations were seen, of which not the same have to be bound. -/
def SameDeclared (first second : BindingProgress) : Prop := first.declared = second.declared

/-- A source is refused for a name that is taken, and a method that cannot be bound takes its name
all the same. -/
theorem addOperations_sameDeclared (service : HostedService) (source : Implementation)
    (name : String) (operations : List Operation) {first second : BindingProgress}
    (same : first.SameDeclared second) :
    Alike SameDeclared (addOperations service source name first operations).value
      (addOperations service source name second operations).value := by
  induction operations generalizing first second with
  | nil => exact ⟨rfl, same⟩
  | cons operation rest ih =>
      obtain ⟨methods, declared, left⟩ := first
      obtain ⟨others, _, right⟩ := second
      obtain rfl : declared = _ := same
      simp only [addOperations]
      split
      · exact ⟨rfl, rfl⟩
      · obtain ⟨bound, left⟩ := source.bind name operation service.own.contract.annotations left
        obtain ⟨other, right⟩ := source.bind name operation service.own.contract.annotations right
        cases bound <;> cases other <;> exact ih rfl

theorem addSources_sameDeclared (service : HostedService) (sources : List Implementation)
    {first second : BindingProgress} (same : first.SameDeclared second) :
    Alike SameDeclared (addSources service first sources).value
      (addSources service second sources).value := by
  induction sources generalizing first second with
  | nil => exact ⟨rfl, same⟩
  | cons source rest ih =>
      simp only [addSources, Logged.value_bind]
      cases source.contract.inspect.value with
      | error error =>
          cases error with
          | missingServiceName contract => exact ih same
          | _ => exact ⟨rfl, same⟩
      | ok exposed =>
          obtain ⟨added, left, right, first_eq, second_eq, after⟩ :=
            (addOperations_sameDeclared service source exposed.name exposed.operations
              same).exists_answer
          simp only [Logged.value_bind, first_eq, second_eq]
          cases added with
          | error error => exact ⟨rfl, after⟩
          | ok _ => exact ih after

end BindingProgress

/-- Whether the binding of a service is built has nothing to do with marshallers. -/
theorem Binding.refusal?_build (service : HostedService) (first second : MarshallerCache) :
    refusal? (build service first).value.1 = refusal? (build service second).value.1 := by
  unfold build
  split
  · rfl
  · simp only [Logged.value_bind, Logged.value_map]
    have same : BindingProgress.SameDeclared ⟨[], [], first⟩ ⟨[], [], second⟩ := rfl
    obtain ⟨added, left, right, first_eq, second_eq, -⟩ :=
      (BindingProgress.addSources_sameDeclared service service.sources.value same).exists_answer
    simp only [first_eq, second_eq]
    cases added <;> rfl

/-! ## A cache whose builds are refused for good -/

namespace OnceCache

/-- A cache has been asked for keys. It stores a value for those that are not refused; it took a
build for each of them, and one for every time that a refused key was asked for. -/
structure Settled {Value : Type u} (refused : String → Option ContractError) (asked : List String)
    (cache : OnceCache String Value) : Prop where
  isSome_iff : ∀ key, (cache.get? key).isSome ↔ key ∈ asked ∧ refused key = none
  builds_eq : cache.builds = (asked.toFinset.filter fun key => refused key = none).card +
    asked.countP fun key => (refused key).isSome

/-- An answer to asking for a key, and what became of the cache. -/
structure Gives {Value : Type u} (refused : String → Option ContractError)
    (cache : OnceCache String Value) (key : String) (found : Except ContractError (Built Value))
    (after : OnceCache String Value) : Prop where
  keeps : ∀ sought built, cache.get? sought = some built → after.get? sought = some built
  stored : ∀ built, found = .ok built → after.get? key = some built
  failed : ∀ error, found = .error error → refused key = some error
  settled : ∀ asked, cache.Settled refused asked → after.Settled refused (asked ++ [key])

variable {Value : Type u} {refused : String → Option ContractError} {asked : List String}
  {cache : OnceCache String Value} {key : String}

theorem settled_empty : (empty : OnceCache String Value).Settled refused [] where
  isSome_iff key := by simp [get?_empty]
  builds_eq := rfl

theorem accepted_concat_iff (nothing_new : refused key = none → key ∈ asked) {sought : String} :
    sought ∈ asked ++ [key] ∧ refused sought = none ↔ sought ∈ asked ∧ refused sought = none := by
  rw [List.mem_append, List.mem_singleton]
  constructor
  · rintro ⟨there | rfl, accepted⟩
    · exact ⟨there, accepted⟩
    · exact ⟨nothing_new accepted, accepted⟩
  · rintro ⟨there, accepted⟩
    exact ⟨.inl there, accepted⟩

/-- A key that is refused or was asked for before adds nothing to the keys that are stored. -/
theorem accepted_concat (nothing_new : refused key = none → key ∈ asked) :
    ((asked ++ [key]).toFinset.filter fun key => refused key = none) =
      asked.toFinset.filter fun key => refused key = none := by
  ext sought
  simp only [Finset.mem_filter, List.mem_toFinset, accepted_concat_iff nothing_new]

theorem Settled.of_stored (settled : cache.Settled refused asked)
    (stored : (cache.get? key).isSome) : cache.Settled refused (asked ++ [key]) := by
  obtain ⟨known, accepted⟩ := (settled.isSome_iff key).mp stored
  have nothing_new : refused key = none → key ∈ asked := fun _ => known
  constructor
  · intro sought
    rw [settled.isSome_iff, accepted_concat_iff nothing_new]
  · rw [settled.builds_eq, accepted_concat nothing_new, List.countP_append]
    simp [accepted]

theorem Settled.of_failed (settled : cache.Settled refused asked) {error : ContractError}
    (refusal : refused key = some error) : (cache.start key).Settled refused (asked ++ [key]) := by
  have nothing_new : refused key = none → key ∈ asked := by
    intro accepted
    cases refusal.symm.trans accepted
  constructor
  · intro sought
    rw [get?_start, settled.isSome_iff, accepted_concat_iff nothing_new]
  · rw [start, settled.builds_eq, accepted_concat nothing_new, List.countP_append]
    simp [refusal, Nat.add_assoc]

theorem Settled.of_built (settled : cache.Settled refused asked) (missing : cache.get? key = none)
    (accepted : refused key = none) (built : Built Value) :
    ((cache.start key).fill key built).Settled refused (asked ++ [key]) := by
  have new : key ∉ asked := by
    intro known
    have stored := (settled.isSome_iff key).mpr ⟨known, accepted⟩
    simp [missing] at stored
  constructor
  · intro sought
    rw [List.mem_append, List.mem_singleton]
    by_cases same : sought = key
    · subst same
      simp [get?_fill_self (cache.mem_keys_start sought), accepted]
    · rw [get?_fill_of_ne same, get?_start, settled.isSome_iff]
      simp [same]
  · rw [fill, start, settled.builds_eq, List.toFinset_append, Finset.filter_union,
      List.countP_append]
    simp [accepted, new, Finset.filter_singleton, Nat.add_right_comm]

theorem gives_of_stored {built : Built Value} (stored : cache.get? key = some built) :
    Gives refused cache key (.ok built) cache where
  keeps _ _ := id
  stored _ same := by
    cases same
    exact stored
  failed _ same := by cases same
  settled _ settled := settled.of_stored (by simp [stored])

theorem gives_of_failed {error : ContractError} (refusal : refused key = some error) :
    Gives refused cache key (.error error) (cache.start key) where
  keeps sought built stored := by
    rw [get?_start]
    exact stored
  stored _ same := by cases same
  failed _ same := by
    cases same
    exact refusal
  settled _ settled := settled.of_failed refusal

theorem gives_of_built (missing : cache.get? key = none) (accepted : refused key = none)
    (built : Built Value) :
    Gives refused cache key (.ok built) ((cache.start key).fill key built) where
  keeps sought earlier stored := by
    have other : sought ≠ key := by
      rintro rfl
      cases missing.symm.trans stored
    rw [get?_fill_of_ne other, get?_start]
    exact stored
  stored _ same := by
    cases same
    exact get?_fill_self (cache.mem_keys_start key) built
  failed _ same := by cases same
  settled _ settled := settled.of_built missing accepted built

/-- Asking for a key whose builds are refused or not, whatever marshallers they find. -/
theorem share_gives (cache : OnceCache String Value) {key : String}
    {build : MarshallerCache → Except ContractError Value × MarshallerCache}
    (refusal : ∀ marshallers, refusal? (build marshallers).1 = refused key)
    (marshallers : MarshallerCache) :
    Gives refused cache key (cache.share key build marshallers).1
      (cache.share key build marshallers).2.1 := by
  cases known : cache.get? key with
  | some built =>
      simp only [share, known]
      exact gives_of_stored known
  | none =>
      simp only [share, known]
      have refused_eq := (refusal marshallers).symm
      generalize build marshallers = built at refused_eq ⊢
      obtain ⟨result, resolved⟩ := built
      cases result with
      | error error =>
          rw [getOrBuild_of_failed known rfl]
          exact gives_of_failed refused_eq
      | ok value =>
          rw [getOrBuild_of_built known rfl]
          exact gives_of_built known refused_eq _

end OnceCache

/-! ## Histories -/

/-- A call, and what others made of the shared marshallers since the last one. -/
structure Amid (Call : Type u) where
  /-- The marshallers that the call finds, after those of the last call. -/
  others : MarshallerCache → MarshallerCache
  /-- The call. -/
  call : Call

section

variable {σ : Type u} {Call : Type v} {Answer : Type w} {Value : Type x}

/-- The answers to calls made one after another, and the state after them. -/
def answerAll (ask : σ → Call → Answer × σ) (state : σ) : List Call → List Answer × σ
  | [] => ([], state)
  | call :: rest =>
      let asked := ask state call
      let answered := answerAll ask asked.2 rest
      (asked.1 :: answered.1, answered.2)

/-- Every call asks a cache for a key, and its answer depends on nothing but what is found. -/
def AsksCache (refused : String → Option ContractError) (cache : σ → OnceCache String Value)
    (key : Call → String) (answer : Call → Except ContractError (Built Value) → Answer)
    (ask : σ → Call → Answer × σ) : Prop :=
  ∀ state call, ∃ found, (ask state call).1 = answer call found ∧
    OnceCache.Gives refused (cache state) (key call) found (cache (ask state call).2)

namespace AsksCache

variable {refused : String → Option ContractError} {cache : σ → OnceCache String Value}
  {key : Call → String} {answer : Call → Except ContractError (Built Value) → Answer}
  {ask : σ → Call → Answer × σ} (asks : AsksCache refused cache key answer ask)

include asks

theorem keeps (calls : List Call) {state : σ} {sought : String} {built : Built Value}
    (stored : (cache state).get? sought = some built) :
    (cache (answerAll ask state calls).2).get? sought = some built := by
  induction calls generalizing state with
  | nil => exact stored
  | cons call rest ih =>
      obtain ⟨found, -, gives⟩ := asks state call
      exact ih (gives.keeps sought built stored)

theorem settled (calls : List Call) {state : σ} {asked : List String}
    (settled : (cache state).Settled refused asked) :
    (cache (answerAll ask state calls).2).Settled refused (asked ++ calls.map key) := by
  induction calls generalizing state asked with
  | nil =>
      rw [List.map_nil, List.append_nil]
      exact settled
  | cons call rest ih =>
      obtain ⟨found, -, gives⟩ := asks state call
      have rest_settled := ih (gives.settled asked settled)
      rw [List.append_assoc] at rest_settled
      exact rest_settled

/-- The answers can be told from what is stored in the end. -/
theorem answers_eq {outcomes : String → Except ContractError (Built Value)}
    (refused_eq : ∀ sought error, refused sought = some error → outcomes sought = .error error)
    (calls : List Call) {state : σ}
    (stored_eq : ∀ sought built, (cache (answerAll ask state calls).2).get? sought = some built →
      outcomes sought = .ok built) :
    (answerAll ask state calls).1 = calls.map fun call => answer call (outcomes (key call)) := by
  induction calls generalizing state with
  | nil => rfl
  | cons call rest ih =>
      obtain ⟨found, answer_eq, gives⟩ := asks state call
      have found_eq : found = outcomes (key call) := by
        cases outcome : found with
        | error error => exact (refused_eq _ error (gives.failed error outcome)).symm
        | ok built =>
            exact (stored_eq _ built (asks.keeps rest (gives.stored built outcome))).symm
      rw [List.map_cons, ← found_eq, ← answer_eq, ← ih stored_eq]
      rfl

/-- Each key has one outcome, with which all calls are answered, and there was a build for every key
whose outcome is a value and for every call that failed. -/
theorem exists_outcomes {state : σ} (new : cache state = .empty) (calls : List Call) :
    ∃ outcomes : String → Except ContractError (Built Value),
      (answerAll ask state calls).1 = (calls.map fun call => answer call (outcomes (key call))) ∧
      (cache (answerAll ask state calls).2).builds =
        ((calls.map key).toFinset.filter fun type => (outcomes type).isOk).card +
          (calls.map key).countP fun type => !(outcomes type).isOk := by
  have start : (cache state).Settled refused [] := new ▸ OnceCache.settled_empty
  have settled := asks.settled calls start
  rw [List.nil_append] at settled
  have each : ∀ sought, ∃ outcome : Except ContractError (Built Value),
      (∀ error, refused sought = some error → outcome = .error error) ∧
      ∀ built, (cache (answerAll ask state calls).2).get? sought = some built →
        outcome = .ok built := by
    intro sought
    cases stored : (cache (answerAll ask state calls).2).get? sought with
    | some built =>
        have accepted := ((settled.isSome_iff sought).mp (by simp [stored])).2
        refine ⟨.ok built, fun error refusal => ?_, fun _ same => ?_⟩
        · cases accepted.symm.trans refusal
        · exact congrArg _ (Option.some.inj same)
    | none =>
        refine ⟨.error ((refused sought).getD (.missingServiceName sought)), ?_, ?_⟩
        · intro error refusal
          rw [refusal, Option.getD_some]
        · intro built stored
          cases stored
  choose outcomes refused_eq stored_eq using each
  have isOk_iff : ∀ sought ∈ calls.map key, (outcomes sought).isOk ↔ refused sought = none := by
    intro sought called
    cases refusal : refused sought with
    | some error => simp [refused_eq sought error refusal, Except.isOk, Except.toBool]
    | none =>
        obtain ⟨built, stored⟩ :=
          Option.isSome_iff_exists.mp ((settled.isSome_iff sought).mpr ⟨called, refusal⟩)
        simp [stored_eq sought built stored, Except.isOk, Except.toBool]
  refine ⟨outcomes, asks.answers_eq refused_eq calls stored_eq, ?_⟩
  have succeeding : ((calls.map key).toFinset.filter fun type => (outcomes type).isOk) =
      (calls.map key).toFinset.filter fun type => refused type = none :=
    Finset.filter_congr fun sought called => isOk_iff sought (List.mem_toFinset.mp called)
  rw [settled.builds_eq, succeeding]
  refine congrArg _ (List.countP_congr fun sought called => ?_)
  rw [Bool.not_eq_true', ← Bool.not_eq_true, isOk_iff sought called, Option.isSome_iff_ne_none]

end AsksCache

end

/-! ## Registries -/

namespace ClientRegistry

/-- Ask a registry for the table of a contract type, on what others made of the marshallers. -/
def ask (contracts : String → Contract) (registry : ClientRegistry) (asked : Amid String) :
    Except ContractError (Built DispatchTable) × ClientRegistry :=
  let found : ClientRegistry := ⟨registry.factories, asked.others registry.marshallers⟩
  (found.factory asked.call (contracts asked.call)).value

theorem asksCache (contracts : String → Contract) :
    AsksCache (fun type => refusal? (buildFactory (contracts type) .empty).value.1) factories
      Amid.call (fun _ found => found) (ask contracts) := by
  intro registry asked
  refine ⟨_, rfl, ?_⟩
  simp only [ask, factory_value]
  exact OnceCache.share_gives _ (fun _ => refusal?_buildFactory _ _ _) _

end ClientRegistry

/-! ## Binders -/

/-- A call on a binder. -/
inductive BinderCall : Type 1 where
  /-- The binding of a service type. -/
  | bind (type : String)
  /-- Registration of the methods of a service type. -/
  | discover (type : String) (registrar : Registrar)

/-- What a binder answers. -/
inductive BinderAnswer : Type 1 where
  | bound (found : Except ContractError (Built Binding))
  /-- The number of registered methods, and the registrar after the call. -/
  | discovered (count : Except ContractError Nat) (registrar : Registrar)

namespace BinderCall

/-- The service type. -/
def type : BinderCall → String
  | bind type => type
  | discover type _ => type

/-- The answer by the outcome for the service type: a discovery without a binding leaves the
registrar alone, and one with a binding asks for its registrations and tells their number. -/
def answer : BinderCall → Except ContractError (Built Binding) → BinderAnswer
  | bind _, found => .bound found
  | discover _ registrar, .error error => .discovered (.error error) registrar
  | discover _ registrar, .ok built =>
      .discovered (.ok built.value.registrations.length)
        ⟨registrar.calls ++ built.value.registrations⟩

end BinderCall

namespace Binder

/-- Call a binder, on what others made of the marshallers. -/
def ask (services : String → HostedService) (binder : Binder) (asked : Amid BinderCall) :
    BinderAnswer × Binder :=
  let found : Binder := ⟨binder.bindings, asked.others binder.marshallers⟩
  match asked.call with
  | .bind type =>
      let answered := (found.bind type (services type)).value
      (.bound answered.1, answered.2)
  | .discover type registrar =>
      let answered := (found.discover type (services type) registrar).value
      (.discovered answered.1.1 answered.1.2, answered.2)

/-- A discovery binds the service type, and registers what it gets. -/
theorem discover_value (binder : Binder) (type : String) (service : HostedService)
    (registrar : Registrar) :
    (.discovered (binder.discover type service registrar).value.1.1
        (binder.discover type service registrar).value.1.2) =
        (BinderCall.discover type registrar).answer (binder.bind type service).value.1 ∧
      (binder.discover type service registrar).value.2 = (binder.bind type service).value.2 := by
  simp only [discover, Logged.value_bind]
  obtain ⟨found, after⟩ := (binder.bind type service).value
  cases found with
  | error error => exact ⟨rfl, rfl⟩
  | ok built =>
      simp only [Binding.register_eq]
      exact ⟨rfl, rfl⟩

theorem asksCache (services : String → HostedService) :
    AsksCache (fun type => refusal? (Binding.build (services type) .empty).value.1) bindings
      (fun asked => asked.call.type) (fun asked => asked.call.answer) (ask services) := by
  intro binder asked
  obtain ⟨others, call⟩ := asked
  have gives : ∀ type, OnceCache.Gives
      (fun type => refusal? (Binding.build (services type) .empty).value.1) binder.bindings type
      ((Binder.mk binder.bindings (others binder.marshallers)).bind type
        (services type)).value.1
      ((Binder.mk binder.bindings (others binder.marshallers)).bind type
        (services type)).value.2.bindings := by
    intro type
    rw [bind_value]
    exact OnceCache.share_gives _ (fun _ => Binding.refusal?_build _ _ _) _
  cases call with
  | bind type => exact ⟨_, rfl, gives type⟩
  | discover type registrar =>
      obtain ⟨answer_eq, after_eq⟩ := discover_value ⟨binder.bindings, others binder.marshallers⟩
        type (services type) registrar
      refine ⟨_, answer_eq, ?_⟩
      simp only [ask, after_eq]
      exact gives type

end Binder

/-! ## Hosts -/

/-- A call on a host. -/
inductive HostCall : Type 1 where
  | add (provider : Provider)
  /-- Have the provider register the methods of a service type. -/
  | discover (type : String) (registrar : Registrar)

namespace HostCall

/-- The provider that is added first, and the calls after that. -/
def firstAdded? : List HostCall → Option (Provider × List HostCall)
  | [] => none
  | add provider :: rest => some (provider, rest)
  | discover _ _ :: rest => firstAdded? rest

/-- What calls on a host ask of the binder of its provider. -/
def discoveries : List HostCall → List (Amid BinderCall)
  | [] => []
  | add _ :: rest => discoveries rest
  | discover type registrar :: rest => ⟨id, .discover type registrar⟩ :: discoveries rest

end HostCall

namespace Host

/-- A host after a call. -/
def next (services : String → HostedService) (host : Host) : HostCall → Host
  | .add provider => (host.addProvider provider).value
  | .discover type registrar => (host.discover type (services type) registrar).value.2

variable (services : String → HostedService)

/-- A host that has a provider keeps it, and only discoveries reach its binder. -/
theorem foldl_next_of_provider (provider : Provider) (calls : List HostCall) :
    calls.foldl (next services) ⟨.provider provider⟩ =
      ⟨.provider { provider with
        binder := (answerAll (Binder.ask services) provider.binder
          (HostCall.discoveries calls)).2 }⟩ := by
  induction calls generalizing provider with
  | nil => rfl
  | cons call rest ih =>
      cases call with
      | add other => exact ih provider
      | discover type registrar => exact ih _

theorem provider?_foldl_next (calls : List HostCall) :
    (calls.foldl (next services) empty).provider? =
      (HostCall.firstAdded? calls).map fun added =>
        { added.1 with
          binder := (answerAll (Binder.ask services) added.1.binder
            (HostCall.discoveries added.2)).2 } := by
  induction calls with
  | nil => rfl
  | cons call rest ih =>
      cases call with
      | add provider =>
          exact congrArg provider? (foldl_next_of_provider services provider rest)
      | discover type registrar => exact ih

end Host

/-- Whatever else is asked for in between, and whatever others make of the marshallers that are
shared, a registry has one outcome for each contract type and a binder one for each service type: a
table or a binding built once, or an error. All calls for the type are answered with it, and each
has built as often as there are types with a value and calls that failed. A discovery without a
binding asks nothing of the runtime, and one with a binding asks for the registrations of the
binding, whose number it tells. A host has the provider that was added to it first, with its binder.
-/
theorem outcomes_stable (contracts : String → Contract) (services : String → HostedService)
    (marshallers : MarshallerCache) :
    (∀ calls : List (Amid String), ∃ outcomes : String → Except ContractError (Built DispatchTable),
      let answered :=
        answerAll (ClientRegistry.ask contracts) (.withMarshallers marshallers) calls
      let types := calls.map Amid.call
      answered.1 = types.map outcomes ∧
        answered.2.factories.builds =
          (types.toFinset.filter fun type => (outcomes type).isOk).card +
            types.countP fun type => !(outcomes type).isOk) ∧
    (∀ calls : List (Amid BinderCall), ∃ outcomes : String → Except ContractError (Built Binding),
      let answered := answerAll (Binder.ask services) (.withMarshallers marshallers) calls
      let types := calls.map fun asked => asked.call.type
      answered.1 = (calls.map fun asked => asked.call.answer (outcomes asked.call.type)) ∧
        answered.2.bindings.builds =
          (types.toFinset.filter fun type => (outcomes type).isOk).card +
            types.countP fun type => !(outcomes type).isOk) ∧
    ∀ calls : List HostCall,
      (calls.foldl (Host.next services) .empty).provider? =
        (HostCall.firstAdded? calls).map fun added =>
          { added.1 with
            binder := (answerAll (Binder.ask services) added.1.binder
              (HostCall.discoveries added.2)).2 } := by
  refine ⟨fun calls => ?_, fun calls => ?_, Host.provider?_foldl_next services⟩
  · have new : (ClientRegistry.withMarshallers marshallers).factories = .empty := rfl
    obtain ⟨outcomes, answers_eq, builds_eq⟩ :=
      (ClientRegistry.asksCache contracts).exists_outcomes new calls
    refine ⟨outcomes, answers_eq.trans ?_, builds_eq⟩
    rw [List.map_map]
    rfl
  · have new : (Binder.withMarshallers marshallers).bindings = .empty := rfl
    exact (Binder.asksCache services).exists_outcomes new calls

end RpcContracts
