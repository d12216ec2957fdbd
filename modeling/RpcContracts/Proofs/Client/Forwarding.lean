import RpcContracts.Proofs.Client.Cancellations
import RpcContracts.Proofs.Client.Dispatch
import RpcContracts.Proofs.Client.SharedContext

/-!
# Calls on behalf of a handled call

A handler can make further calls with the context of the call that it handles. Only the deadline,
the token and the write options of that context are passed on. Whatever else the context holds, the
transport is asked for the same call and the caller gets the same back, nothing is captured, and the
token of the handled call interrupts every wait for the call made on its behalf.
-/

namespace RpcContracts

/-! ## Rules for polls -/

/-- Whether a poll found nothing yet. -/
def Poll.isPending {α : Type u} : Poll α → Bool
  | .pending => true
  | .ready _ => false

/-- What a poll may do, told from the history, from whether it is pending, and from the memory
before and after it. -/
abbrev PollRule := History → Bool → Memory → Memory → Prop

namespace PollRule

/-- No capture buffer is touched. -/
def quiet : PollRule := fun _ _ memory memoryAfter => memoryAfter.captures = memory.captures

/-- Once the token has fired, no poll is pending. -/
def prompt (token : Token) : PollRule := fun history isPending _ _ =>
  history.hasFired token = true → isPending = false

end PollRule

namespace PollStep

variable {State : Type} {α : Type u}

/-- A poll followed a rule. -/
def Followed (rule : PollRule) (history : History) (memory : Memory)
    (polled : Poll α × State × Memory) : Prop :=
  rule history polled.1.isPending memory polled.2.2

/-- Every poll follows a rule. -/
def Obeys (poll : PollStep State α) (rule : PollRule) : Prop :=
  ∀ state history memory, Followed rule history memory (poll state history memory)

theorem KeepsCaptures.obeys {poll : PollStep State α} (keeps : poll.KeepsCaptures) :
    poll.Obeys .quiet := by
  intro state history memory
  rcases polled : poll state history memory with ⟨answer, after, memoryAfter⟩
  exact keeps polled

/-- A race polls the work at most. -/
theorem Obeys.race {poll : PollStep State α} (quiet : poll.Obeys .quiet) (token : Token)
    (begun : Bool) : (PollStep.race poll token begun).Obeys .quiet := by
  have keeps : poll.KeepsCaptures := by
    intro state after history memory memoryAfter answer polled
    have followed := quiet state history memory
    rw [polled] at followed
    exact followed
  exact KeepsCaptures.obeys (keeps.race token begun)

/-- Only a race that is still open is pending. -/
theorem race_prompt (poll : PollStep State α) (token : Token) (begun : Bool) :
    (race poll token begun).Obeys (.prompt token) := by
  intro state history memory fired
  rcases raced : race poll token begun state history memory with ⟨_ | value, after, memoryAfter⟩
  · cases (unfired_of_race_pending raced).symm.trans fired
  · rfl

end PollStep

namespace Future

variable {α β : Type} {rule : PollRule} {future : Future α}

theorem obeys_map (obeys : future.poll.Obeys rule) (function : α → β) :
    (future.map function).poll.Obeys rule := by
  intro state history memory
  have followed := obeys state history memory
  rcases polled : future.poll state history memory with ⟨_ | value, after, memoryAfter⟩ <;>
    rw [polled] at followed <;> simp only [map, polled] <;> exact followed

theorem obeys_cancellable {task : Task α} {token : Token}
    (obeys : ∀ begun, (PollStep.race task.poll token begun).Obeys rule) :
    (task.cancellable token).poll.Obeys rule := by
  rintro ⟨begun, state⟩ history memory
  have followed := obeys begun state history memory
  simp only [cancellable]
  generalize PollStep.race task.poll token begun state history memory = raced at followed ⊢
  rcases raced with ⟨_ | value, after, memoryAfter⟩ <;> exact followed

/-- A caller that blocks polls the work, and nothing else. -/
theorem quiet_runFor (polls : Nat) (quiet : future.poll.Obeys .quiet) (history : History)
    (memory : Memory) :
    (runFor polls future history memory).2.captures = memory.captures := by
  have relates : future.poll.Relates fun before after => after.captures = before.captures :=
    fun state history memory => quiet state history memory
  exact relates_runFor relates (fun earlier later => later.trans earlier) polls history memory

/-- A caller that blocks is not held up after the token has fired. -/
theorem prompt_block {token : Token} (prompt : future.poll.Obeys (.prompt token))
    {history : History} (fired : history.hasFired token = true) (memory : Memory) :
    (future.block history memory).1.isSome = true := by
  have followed := prompt future.state history memory fired
  unfold block
  cases future.waits future.state <;> unfold runFor step <;>
    generalize future.poll future.state history memory = polled at followed ⊢ <;>
    rcases polled with ⟨_ | value, state, memory⟩ <;> first | rfl | cases followed

end Future

theorem Stream.obeys_map {α β : Type} {rule : PollRule} {stream : Stream α}
    (obeys : stream.next.Obeys rule) (function : α → β) :
    (stream.map function).next.Obeys rule := by
  intro state history memory
  have followed := obeys state history memory
  rcases polled : stream.next state history memory with ⟨_ | value, after, memoryAfter⟩ <;>
    rw [polled] at followed <;> simp only [map, polled] <;> exact followed

/-! ## Calls without a capture buffer -/

namespace SingleCall

variable {call : SingleCall}

/-- Without a capture buffer only the response is polled. -/
theorem quiet_observed (quiet : call.response.poll.Obeys .quiet) :
    (call.observed none).poll.Obeys .quiet := by
  rintro (headers | response | ⟨outcome, completion⟩) history memory
  · exact rfl
  · have followed := quiet response history memory
    simp only [observed, pollProgress, pollResponse]
    generalize call.response.poll response history memory = polled at followed ⊢
    rcases polled with ⟨_ | value, after, memoryAfter⟩ <;> exact followed
  · exact rfl

theorem quiet_result (quiet : call.response.poll.Obeys .quiet) (token : Token) :
    (call.result none token).poll.Obeys .quiet :=
  Future.obeys_cancellable fun begun =>
    (quiet_observed quiet).race token begun

theorem prompt_result (call : SingleCall) (capture : Option Nat) (token : Token) :
    (call.result capture token).poll.Obeys (.prompt token) :=
  Future.obeys_cancellable fun begun => PollStep.race_prompt _ token begun

end SingleCall

namespace StreamingCall

variable {call : StreamingCall}

/-- Without a capture buffer only the responses are polled. -/
theorem quiet_results (quiet : call.responses.next.Obeys .quiet) (token : Token) :
    (call.results none token).next.Obeys .quiet := by
  have item (begun : Bool) (responses : call.responses.State) (history : History)
      (memory : Memory) : PollStep.Followed .quiet history memory
        (call.pollItem none token begun responses history memory) := by
    have followed := quiet.race token begun responses history memory
    unfold pollItem
    generalize PollStep.race call.responses.next token begun responses history memory = raced
      at followed ⊢
    rcases raced with ⟨_ | _ | _ | _ | _, after, memoryAfter⟩ <;> exact followed
  rintro ⟨stage, responses⟩ history memory
  cases stage with
  | fresh => exact item false responses history memory
  | idle => exact item false responses history memory
  | headers headers => exact item false responses history memory
  | reading => exact item true responses history memory
  | completion completion => exact rfl
  | finished => exact rfl

variable (call) (capture : Option Nat) (token : Token)

theorem prompt_completion (number : Nat) (begun : Bool) (completion : call.completion.State)
    (responses : call.responses.State) (history : History) (memory : Memory) :
    PollStep.Followed (.prompt token) history memory
      (call.pollCompletion token number begun completion responses history memory) := by
  have followed := PollStep.race_prompt call.completion.poll token begun completion history memory
  unfold pollCompletion
  generalize PollStep.race call.completion.poll token begun completion history memory = raced
    at followed ⊢
  rcases raced with ⟨_ | _ | _, after, memoryAfter⟩ <;> exact followed

theorem prompt_item (begun : Bool) (responses : call.responses.State) (history : History)
    (memory : Memory) :
    PollStep.Followed (.prompt token) history memory
      (call.pollItem capture token begun responses history memory) := by
  have followed := PollStep.race_prompt call.responses.next token begun responses history memory
  unfold pollItem
  generalize PollStep.race call.responses.next token begun responses history memory = raced
    at followed ⊢
  rcases raced with ⟨_ | _ | _ | _ | _, after, memoryAfter⟩
  · exact followed
  · exact followed
  · cases capture with
    | none => exact followed
    | some number => exact call.prompt_completion token number false _ after history memoryAfter
  · exact followed
  · exact followed

theorem prompt_headers (number : Nat) (begun : Bool) (headers : call.headers.State)
    (responses : call.responses.State) (history : History) (memory : Memory) :
    PollStep.Followed (.prompt token) history memory
      (call.pollHeaders capture token number begun headers responses history memory) := by
  have followed := PollStep.race_prompt call.headers.poll token begun headers history memory
  unfold pollHeaders
  generalize PollStep.race call.headers.poll token begun headers history memory = raced
    at followed ⊢
  rcases raced with ⟨_ | _ | _ | _, after, memoryAfter⟩
  · exact followed
  · exact followed
  · exact followed
  · exact call.prompt_item capture token false responses history _

/-- Whatever is waited for, the token is raced. -/
theorem prompt_results : (call.results capture token).next.Obeys (.prompt token) := by
  rintro ⟨stage, responses⟩ history memory
  cases stage with
  | fresh =>
      cases capture with
      | none => exact call.prompt_item none token false responses history memory
      | some number => exact call.prompt_headers _ token number false _ responses history memory
  | headers headers =>
      cases capture with
      | none => exact call.prompt_item none token false responses history memory
      | some number =>
          exact call.prompt_headers _ token number true headers responses history memory
  | idle => exact call.prompt_item capture token false responses history memory
  | reading => exact call.prompt_item capture token true responses history memory
  | completion completion =>
      cases capture with
      | none => exact fun _ => rfl
      | some number =>
          exact call.prompt_completion token number true completion responses history memory
  | finished => exact fun _ => rfl

end StreamingCall

/-! ## What a transport gives back -/

namespace CallInFlight

/-- The responses follow a rule. -/
def Obeys (rule : PollRule) : CallInFlight → Prop
  | single call => call.response.poll.Obeys rule
  | streaming call => call.responses.next.Obeys rule

/-- Adapt a call to a response shape, without a capture buffer. -/
def outcome (call : CallInFlight) (shape : ResponseShape) (token : Token) (history : History)
    (memory : Memory) : CallOutcome × Memory :=
  match call with
  | single call => call.outcome shape none token history memory
  | streaming call => (.streaming (call.results none token), memory)

end CallInFlight

/-- A transport does not touch capture buffers by itself: neither when it is asked for a call nor
when its responses are polled. -/
structure Transport.LeavesCaptures (transport : Transport Id) (issued : IssuedCall)
    (memory : Memory) : Prop where
  issuing : (transport.issue issued memory).2.captures = memory.captures
  polling : (transport.issue issued memory).1.Obeys .quiet

/-- What is polled of an outcome follows a rule. -/
def CallOutcome.Obeys (rule : PollRule) : CallOutcome → Prop
  | completed _ => True
  | pending task => task.poll.Obeys rule
  | streaming responses => responses.next.Obeys rule
  | blocked => True

namespace CallInFlight

variable (call : CallInFlight) (shape : ResponseShape) (token : Token) (history : History)
  (memory : Memory)

theorem quiet_outcome (quiet : call.Obeys .quiet) :
    (call.outcome shape token history memory).1.Obeys .quiet ∧
      (call.outcome shape token history memory).2.captures = memory.captures := by
  cases call with
  | streaming call => exact ⟨StreamingCall.quiet_results quiet token, rfl⟩
  | single call =>
      have result := SingleCall.quiet_result quiet token
      cases shape with
      | sync =>
          have blocked : ((call.result none token).block history memory).2.captures =
              memory.captures := Future.quiet_runFor _ result history memory
          simp only [outcome, SingleCall.outcome]
          generalize (call.result none token).block history memory = found at blocked ⊢
          rcases found with ⟨_ | value, memoryAfter⟩ <;> exact ⟨trivial, blocked⟩
      | deferred => exact ⟨result, rfl⟩
      | lightDeferred => exact ⟨result, rfl⟩
      | streamed => exact ⟨trivial, rfl⟩

theorem prompt_outcome : (call.outcome shape token history memory).1.Obeys (.prompt token) ∧
    (history.hasFired token = true →
      (call.outcome shape token history memory).1 ≠ .blocked) := by
  cases call with
  | streaming call => exact ⟨call.prompt_results none token, nofun⟩
  | single call =>
      have result := call.prompt_result none token
      cases shape with
      | sync =>
          simp only [outcome, SingleCall.outcome]
          rcases block_eq : (call.result none token).block history memory
            with ⟨_ | value, memoryAfter⟩
          · refine ⟨trivial, fun fired => ?_⟩
            have found := Future.prompt_block result fired memory
            rw [block_eq] at found
            cases found
          · exact ⟨trivial, nofun⟩
      | deferred => exact ⟨result, nofun⟩
      | lightDeferred => exact ⟨result, nofun⟩
      | streamed => exact ⟨trivial, nofun⟩

end CallInFlight

/-! ## What a caller polls -/

/-- Whether an answer says that nothing was found yet. -/
def Answer.isPending : Answer → Bool
  | .pending => true
  | _ => false

namespace Handle

/-- What is polled of a handle follows a rule. -/
def Obeys (rule : PollRule) : Handle → Prop
  | empty => True
  | single task => task.poll.Obeys rule
  | stream items => items.next.Obeys rule
  | finished => True

/-- A handle that its holder polls while things happen outside. -/
structure Moment : Type 1 where
  handle : Handle
  history : History
  memory : Memory

namespace Moment

def turn (moment : Moment) : Turn → Moment
  | .outside event => { moment with history := moment.history ++ [event] }
  | .poll =>
      match moment.handle.poll moment.history moment.memory with
      | (_, handle, memory) => ⟨handle, moment.history, memory⟩

def run (moment : Moment) (turns : List Turn) : Moment := turns.foldl turn moment

end Moment

section

variable {rule : PollRule}

/-- A poll of a handle is a poll of the work in it, or nothing happens. -/
theorem obeys_poll {handle : Handle} (still : ∀ history memory, rule history false memory memory)
    (obeys : handle.Obeys rule) (history : History) (memory : Memory) :
    (handle.poll history memory).2.1.Obeys rule ∧
      rule history (handle.poll history memory).1.isPending memory
        (handle.poll history memory).2.2 := by
  cases handle with
  | empty => exact ⟨trivial, still history memory⟩
  | finished => exact ⟨trivial, still history memory⟩
  | single task =>
      have followed : rule history (task.step history memory).1.isPending memory
          (task.step history memory).2.2 := obeys task.state history memory
      have kept : (task.step history memory).2.1.poll.Obeys rule := obeys
      rcases stepped : task.step history memory with ⟨_ | outcome, after, memoryAfter⟩ <;>
        rw [stepped] at followed kept <;> simp only [poll, stepped]
      · exact ⟨kept, followed⟩
      · exact ⟨trivial, followed⟩
  | stream items =>
      have followed : rule history (items.step history memory).1.isPending memory
          (items.step history memory).2.2 := obeys items.state history memory
      have kept : (items.step history memory).2.1.next.Obeys rule := obeys
      rcases stepped : items.step history memory with ⟨_ | _ | item, after, memoryAfter⟩ <;>
        rw [stepped] at followed kept <;> simp only [poll, stepped]
      · exact ⟨kept, followed⟩
      · exact ⟨trivial, followed⟩
      · exact ⟨kept, followed⟩

theorem Moment.obeys_run (still : ∀ history memory, rule history false memory memory)
    {moment : Moment} (obeys : moment.handle.Obeys rule) (turns : List Turn) :
    (moment.run turns).handle.Obeys rule := by
  induction turns generalizing moment with
  | nil => exact obeys
  | cons turn turns ih =>
      cases turn with
      | outside event => exact @ih { moment with history := moment.history ++ [event] } obeys
      | poll => exact @ih (moment.turn .poll) (obeys_poll still obeys _ _).1

end

/-- What every poll leaves alone is the same after all of them. -/
theorem Moment.captures_run {moment : Moment} (quiet : moment.handle.Obeys .quiet)
    (turns : List Turn) : (moment.run turns).memory.captures = moment.memory.captures := by
  induction turns generalizing moment with
  | nil => rfl
  | cons turn turns ih =>
      cases turn with
      | outside event => exact @ih { moment with history := moment.history ++ [event] } quiet
      | poll =>
          obtain ⟨after, followed⟩ :=
            obeys_poll (fun _ _ => rfl) quiet moment.history moment.memory
          exact (@ih (moment.turn .poll) after).trans followed

end Handle

/-- What is handed back is polled as the outcome is. -/
theorem CallInFlight.Delivers.obeys {call : CallInFlight} {capture : Option Nat} {token : Token}
    {history : History} {memory : Memory} {argument : ValueType} {form : ReturnForm}
    {outcome : CallOutcome} {returned : Returned argument}
    (delivers : call.Delivers capture token history memory argument form outcome returned)
    {rule : PollRule} (obeys : outcome.Obeys rule) : returned.handle.Obeys rule := by
  cases delivers with
  | completed => trivial
  | blocked => trivial
  | task call => exact Future.obeys_map (Future.obeys_map obeys _) _
  | valueTask call => exact Future.obeys_map (Future.obeys_map obeys _) _
  | responses call => exact Stream.obeys_map (Stream.obeys_map obeys _) _

/-! ## Forwarding -/

/-- Two contexts that pass on the same. -/
structure ServerCallContext.PassesAs (context other : ServerCallContext) : Prop where
  deadline_eq : context.deadline = other.deadline
  token_eq : context.token = other.token
  writeOptions_eq : context.writeOptions = other.writeOptions

/-- The arguments of a call that is made with the context of a handled call. -/
def ServerCallContext.forwarding (context : ServerCallContext) (request : Value) : List Value :=
  [request, .payload (.callContext (.server context))]

namespace ClientMethod

/-- Which call goes out depends on what is passed on alone. -/
theorem exists_issued {method : ClientMethod} (unified : method.contextKind = .unifiedContext)
    {request : Value} (takes : method.form.Takes request) (passed : CallOptions) :
    ∃ issued : IssuedCall,
      ∀ context : ServerCallContext, (CallContext.server context).clientOptions = passed →
        ∀ transport history memory,
          method.call (m := Id) transport (context.forwarding request) history memory =
              (transport.issue issued memory).1.outcome method.responseShape passed.token history
                (transport.issue issued memory).2 ∧
            ∀ calls, (method.call transport.recorded (context.forwarding request) history
              memory).run calls =
                (method.call (m := Id) transport (context.forwarding request) history memory,
                  calls ++ [issued]) := by
  obtain ⟨made, made_eq, prepared_eq⟩ := prepared_of_takes takes
  refine ⟨made passed, ?_⟩
  rintro context rfl transport history memory
  have taken : takeOptions method.contextKind [.payload (.callContext (.server context))] =
      .ok ((CallContext.server context).clientOptions, none) := by
    rw [unified]
    rfl
  have outcome_eq {m : Type 1 → Type 1} [Monad m] (transport : Transport m) :=
    method.call_eq transport (context.forwarding request) history memory
  simp only [ServerCallContext.forwarding, prepared_eq, taken, Except.map, made_eq] at outcome_eq
  constructor
  · refine (outcome_eq transport).trans ?_
    cases made (CallContext.server context).clientOptions <;> rfl
  · intro calls
    simp only [ServerCallContext.forwarding, outcome_eq]
    exact Transport.recorded_ask ..

/-- What a method hands back to its caller, who may poll it from then on. -/
def handedBack (method : ClientMethod) (shape : CallShape) (transport : Transport Id)
    (values : List Value) (history : History) (memory : Memory) : Handle.Moment :=
  let answer := method.call (m := Id) transport values history memory
  let returned := answer.1.returned (ReturnForm.ofShape shape.responseShape)
    shape.responseType.valueType history answer.2
  ⟨returned.1.handle, history, returned.2⟩

/-- Adapting an outcome to the declared return type polls nothing. -/
theorem Issues.handedBack_obeys {method : ClientMethod} {shape : CallShape}
    {transport : Transport Id} {values : List Value} {history : History} {memory : Memory}
    {issued : IssuedCall} (issues : method.Issues shape transport values history memory issued)
    {rule : PollRule}
    (obeys : (method.call (m := Id) transport values history memory).1.Obeys rule) :
    (method.handedBack shape transport values history memory).handle.Obeys rule ∧
      (method.handedBack shape transport values history memory).memory =
        (method.call (m := Id) transport values history memory).2 := by
  obtain ⟨returned, delivers, returned_eq⟩ := issues.suits
  simp only [handedBack, returned_eq]
  exact ⟨delivers.obeys obeys, trivial⟩

end ClientMethod

/-- A call that is made with the context of a handled call goes out without its headers, captures
nothing, and does not outlast its token. -/
structure ServerCallContext.Forwards (context : ServerCallContext) (method : ClientMethod)
    (shape : CallShape) (request : Value) (issued : IssuedCall) (transport : Transport Id)
    (history : History) (memory : Memory) : Prop where
  one_call : ∀ calls,
    (method.call transport.recorded (context.forwarding request) history memory).run calls =
      (method.call transport (context.forwarding request) history memory, calls ++ [issued])
  entry_eq : issued.entry = shape.callKind
  head_eq : issued.head =
    ⟨method.wire, none, ⟨.empty, context.deadline, context.token, context.writeOptions⟩⟩
  requests_eq : issued.requests = request.requests
  captures_eq : transport.LeavesCaptures issued memory → ∀ turns : List Turn,
    ((method.handedBack shape transport (context.forwarding request) history memory).run
      turns).memory.captures = memory.captures
  /-- A method that answers at once does so, even if the transport never does. -/
  answers : history.hasFired context.token = true →
    (method.call (m := Id) transport (context.forwarding request) history memory).1 ≠ .blocked
  prompt : ∀ turns : List Turn,
    let moment :=
      (method.handedBack shape transport (context.forwarding request) history memory).run turns
    moment.history.hasFired context.token = true →
      (moment.handle.poll moment.history moment.memory).1 ≠ .pending

/-- The request and a context are arguments of the declared types. -/
theorem CallShape.Describes.types_forwarding {shape : CallShape} {signature : Signature}
    (described : shape.Describes signature) (noWriter : shape.responseWriter = false)
    (unified : shape.contextKind = .unifiedContext) {request : Value}
    (request_type : request.type = shape.requestParam.valueType) (context : ServerCallContext) :
    (context.forwarding request).map Value.type =
      signature.params.map DeclaredType.valueType := by
  obtain ⟨params, contextParams, params_eq⟩ := described.params
  rw [unified] at contextParams
  cases contextParams with
  | unified marshaller =>
      rw [params_eq, CallShape.writerParams, noWriter]
      exact congrArg (· :: [.plain .callContext]) request_type

namespace ClientMethod

theorem Issues.forwards {method : ClientMethod} {shape : CallShape} {context : ServerCallContext}
    {request : Value} {issued : IssuedCall} {transport : Transport Id} {history : History}
    {memory : Memory}
    (issues : method.Issues shape transport (context.forwarding request) history memory issued)
    (call_eq : method.call (m := Id) transport (context.forwarding request) history memory =
      (transport.issue issued memory).1.outcome method.responseShape context.token history
        (transport.issue issued memory).2) :
    context.Forwards method shape request issued transport history memory := by
  have prompt := (transport.issue issued memory).1.prompt_outcome method.responseShape
    context.token history (transport.issue issued memory).2
  rw [← call_eq] at prompt
  refine ⟨issues.one_call, issues.entry_eq, issues.head_eq,
    (Option.some.inj issues.requests_eq).symm, ?_, prompt.2, ?_⟩
  · intro leaves turns
    have quiet := (transport.issue issued memory).1.quiet_outcome method.responseShape
      context.token history (transport.issue issued memory).2 leaves.polling
    rw [← call_eq] at quiet
    obtain ⟨obeys, memory_eq⟩ := issues.handedBack_obeys quiet.1
    rw [Handle.Moment.captures_run obeys, memory_eq, quiet.2, leaves.issuing]
  · intro turns moment fired pending
    have obeys := (issues.handedBack_obeys prompt.1).1
    have still : ∀ (history : History) (memory : Memory),
        PollRule.prompt context.token history false memory memory := fun _ _ _ => rfl
    have followed := (Handle.obeys_poll still (Handle.Moment.obeys_run still obeys turns)
      moment.history moment.memory).2 fired
    rw [pending] at followed
    cases followed

/-- Two contexts that pass on the same deadline, token and write options make the same call, which
has no headers, and get the same back, which captures nothing and is over once the token has
fired. -/
theorem forwards_alike {operation : Operation}
    (classified : operation.method.shape? = some operation.shape) {service : String}
    {cache : MarshallerCache} {method : ClientMethod}
    (bound : (bind service operation cache).1 = .ok method)
    (unified : operation.shape.contextKind = .unifiedContext) {request : Value}
    (request_type : request.type = operation.shape.requestParam.valueType)
    {context other : ServerCallContext} (same : context.PassesAs other) :
    ∃ issued, ∀ (transport : Transport Id) (history : History) (memory : Memory),
      context.Forwards method operation.shape request issued transport history memory ∧
      other.Forwards method operation.shape request issued transport history memory ∧
      method.call (m := Id) transport (context.forwarding request) history memory =
        method.call (m := Id) transport (other.forwarding request) history memory ∧
      ∀ (form : ReturnForm) (argument : ValueType) (turns : List Turn),
        (ClientEntry.bound method).seen transport (context.forwarding request) form argument history
            memory turns =
          (ClientEntry.bound method).seen transport (other.forwarding request) form argument history
            memory turns := by
  have described := describes_of_shape? classified
  obtain ⟨payloads, expressible, -, bind_eq⟩ | ⟨error, -, -, bind_eq⟩ :=
    bind_cases classified service cache
  · rw [bind_eq] at bound
    obtain rfl := Except.ok.inj bound
    obtain ⟨noWriter, noContext⟩ := Bool.or_eq_false_iff.mp expressible
    have takes : (formOf operation.shape).Takes request := ClientForm.takes_formOf request_type
    let method := ofShape ⟨operation.reference service, payloads.1, payloads.2⟩ operation.shape
    have method_unified : method.contextKind = .unifiedContext := unified
    have method_takes : method.form.Takes request := takes
    obtain ⟨issued, comes⟩ := exists_issued method_unified method_takes
      (CallContext.server context).clientOptions
    refine ⟨issued, fun transport history memory => ?_⟩
    have forwards (either : ServerCallContext)
        (passes : (CallContext.server either).clientOptions =
          (CallContext.server context).clientOptions) :
        either.Forwards method operation.shape request issued transport history memory := by
      obtain ⟨call_eq, one_call⟩ := comes either passes transport history memory
      obtain ⟨recorded, issues⟩ := exists_issues described noWriter (of_decide_eq_false noContext) _
        transport (described.types_forwarding noWriter unified request_type either) history memory
      obtain rfl : issued = recorded :=
        List.singleton_inj.mp (Prod.mk.inj ((one_call []).symm.trans (issues.one_call []))).2
      rw [← passes] at call_eq
      exact issues.forwards call_eq
    have passes : (CallContext.server other).clientOptions =
        (CallContext.server context).clientOptions := by
      simp only [CallContext.clientOptions, same.deadline_eq, same.token_eq, same.writeOptions_eq]
    have call_eq := (comes context rfl transport history memory).1.trans
      (comes other passes transport history memory).1.symm
    refine ⟨forwards context rfl, forwards other passes, call_eq, fun form argument turns => ?_⟩
    simp only [ClientEntry.seen, ClientEntry.call]
    rw [call_eq]
  · rw [bind_eq] at bound
    cases bound

end ClientMethod
namespace Sample

/-- A transport that asks nobody, so that no response ever comes. -/
def silentTransport : Transport Id :=
  .ofIssued
    (fun _ memory => (⟨.awaiting fun _ => none, .ready (.ok .empty), .ready .ok⟩, memory))
    (fun _ memory => (.ofStream (.ofItems [] true), memory))

theorem silentTransport_leaves (issued : IssuedCall) (memory : Memory) :
    silentTransport.LeavesCaptures issued memory := by
  have responses : (Stream.ofItems ([] : List Outcome) true).next.Obeys .quiet := by
    intro left history memory
    cases left <;> exact rfl
  cases issued with
  | unary => exact ⟨rfl, fun _ _ _ => rfl⟩
  | clientStreaming => exact ⟨rfl, fun _ _ _ => rfl⟩
  | serverStreaming => exact ⟨rfl, responses⟩
  | duplexStreaming => exact ⟨rfl, responses⟩

/-- The sample operation that streams both ways and takes a context. -/
def duplexOperation : Operation :=
  ⟨"Duplex", ⟨.duplexStreaming, .unifiedContext, .streamed, false, ping, pong⟩, duplex⟩

/-- The client method of that operation. -/
def duplexMethod : ClientMethod :=
  .ofShape ⟨duplexOperation.reference "Shapes.AllShapes", .message .ping, .message .pong⟩
    duplexOperation.shape

/-- A handled call, whose caller has shown who it is. -/
def handledCall (caller : String) : ServerCallContext :=
  ⟨"/Shapes.AllShapes/Relay", caller ++ ".example", Metadata.empty.add "authorization" caller,
    some 5000, .named "call", none⟩

/-- Requests to pass on. -/
def openPings : Value := .wrapped .streamReader ping.valueType (.ofItems [] true)

theorem handledCall_forwards_alike :
    duplexOperation.method.shape? = some duplexOperation.shape ∧
      (ClientMethod.bind "Shapes.AllShapes" duplexOperation .empty).1 = .ok duplexMethod ∧
      duplexOperation.shape.contextKind = .unifiedContext ∧
      openPings.type = duplexOperation.shape.requestParam.valueType ∧
      (handledCall "alice").PassesAs (handledCall "bob") ∧
      ∃ issued, issued.head.options = ⟨.empty, some 5000, .named "call", none⟩ ∧
        silentTransport.LeavesCaptures issued .fresh ∧
        let moment := (duplexMethod.handedBack duplexOperation.shape silentTransport
          ((handledCall "alice").forwarding openPings) [] .fresh).run
            [.poll, .outside (.fired "call")]
        moment.history.hasFired (.named "call") = true ∧
          (moment.handle.poll moment.history moment.memory).1 ≠ .pending ∧
          moment.memory.captures = Memory.fresh.captures := by
  have classified : duplexOperation.method.shape? = some duplexOperation.shape := rfl
  have bound : (ClientMethod.bind "Shapes.AllShapes" duplexOperation .empty).1 =
      .ok duplexMethod := rfl
  have unified : duplexOperation.shape.contextKind = .unifiedContext := rfl
  have request_type : openPings.type = duplexOperation.shape.requestParam.valueType := rfl
  have same : (handledCall "alice").PassesAs (handledCall "bob") := ⟨rfl, rfl, rfl⟩
  obtain ⟨issued, forwarded⟩ :=
    ClientMethod.forwards_alike classified bound unified request_type same
  obtain ⟨forwards, -⟩ := forwarded silentTransport [] .fresh
  have leaves := silentTransport_leaves issued .fresh
  refine ⟨classified, bound, unified, request_type, same, issued, ?_, leaves, rfl, ?_, ?_⟩
  · rw [forwards.head_eq]
    rfl
  · exact forwards.prompt [.poll, .outside (.fired "call")] rfl
  · exact forwards.captures_eq leaves [.poll, .outside (.fired "call")]

end Sample
end RpcContracts
