import RpcContracts.Cache.Threads

/-!
# What happens to a slot

The events about one key move its slot between three states: it is empty, a build is under way for
it, or it is filled. This file says what can be read off a log whose events do nothing else, whoever
causes them and whatever happens to other keys in between.
-/

namespace RpcContracts

/-- How the slot of a key stands. -/
inductive SlotState (Value : Type) where
  | empty
  /-- A thread runs the build with a number. -/
  | building (thread build : Nat)
  | filled (built : Built Value)

/-- The value in a slot. -/
def SlotState.value? {Value : Type} : SlotState Value → Option (Built Value)
  | filled built => some built
  | _ => none

/-- An event that leaves a slot without a value as it is. -/
def CacheEvent.IsPending {Key Value Failure : Type} : CacheEvent Key Value Failure → Prop
  | requested _ => True
  | looked _ none => True
  | _ => False

/-- The value that an event shows. -/
def CacheEvent.value? {Key Value Failure : Type} :
    CacheEvent Key Value Failure → Option (Built Value)
  | requested _ => none
  | answered _ built => some built
  | started .. => none
  | succeeded _ built => some built
  | failed .. => none
  | looked _ found => found

namespace SlotState

variable {Key Value Failure : Type}

/-- What an event about a slot makes of it. -/
inductive Step :
    SlotState Value → CacheRecord Key Value Failure → SlotState Value → Prop where
  | requested {slot : SlotState Value} {thread : Nat} {key : Key} :
      Step slot ⟨thread, .requested key⟩ slot
  | looked {slot : SlotState Value} {thread : Nat} {key : Key} :
      Step slot ⟨thread, .looked key slot.value?⟩ slot
  | answered {thread : Nat} {key : Key} {built : Built Value} :
      Step (.filled built) ⟨thread, .answered key built⟩ (.filled built)
  | started {thread : Nat} {key : Key} {build : Nat} :
      Step .empty ⟨thread, .started key build⟩ (.building thread build)
  | succeeded {thread : Nat} {key : Key} {built : Built Value} :
      Step (.building thread built.build) ⟨thread, .succeeded key built⟩ (.filled built)
  | failed {thread : Nat} {key : Key} {build : Nat} {failure : Failure} :
      Step (.building thread build) ⟨thread, .failed key build failure⟩ .empty

/-- The records about a key move its slot from one state to another; any others do not. -/
inductive Path (key : Key) :
    SlotState Value → List (CacheRecord Key Value Failure) → SlotState Value → Prop where
  | nil {slot : SlotState Value} : Path key slot [] slot
  | own {slot next last : SlotState Value} {record : CacheRecord Key Value Failure}
      {rest : List (CacheRecord Key Value Failure)} :
      record.event.key = key → Step slot record next → Path key next rest last →
        Path key slot (record :: rest) last
  | other {slot last : SlotState Value} {record : CacheRecord Key Value Failure}
      {rest : List (CacheRecord Key Value Failure)} :
      record.event.key ≠ key → Path key slot rest last → Path key slot (record :: rest) last

variable {key : Key} {slot next last : SlotState Value}
  {front back log : List (CacheRecord Key Value Failure)}
  {record : CacheRecord Key Value Failure} {thread build : Nat} {built : Built Value}
  {failure : Failure}

theorem Path.append (first : Path key slot front next) (second : Path key next back last) :
    Path key slot (front ++ back) last := by
  induction first with
  | nil => exact second
  | own same step _ ih => exact .own same step (ih second)
  | other different _ ih => exact .other different (ih second)

theorem Path.split (path : Path key slot (front ++ back) last) :
    ∃ next, Path key slot front next ∧ Path key next back last := by
  induction front generalizing slot with
  | nil => exact ⟨slot, .nil, path⟩
  | cons record rest ih =>
      cases path with
      | own same step rest_path =>
          obtain ⟨next, before, after⟩ := ih rest_path
          exact ⟨next, .own same step before, after⟩
      | other different rest_path =>
          obtain ⟨next, before, after⟩ := ih rest_path
          exact ⟨next, .other different before, after⟩

theorem Path.split_own (path : Path key slot (front ++ record :: back) last)
    (same : record.event.key = key) :
    ∃ reached next, Path key slot front reached ∧ Step reached record next ∧
      Path key next back last := by
  obtain ⟨reached, before, after⟩ := path.split
  cases after with
  | own _ step rest => exact ⟨reached, _, before, step, rest⟩
  | other different _ => exact absurd same different

/-- The event shows that a value is in the slot of a key. -/
def ShowsValue (key : Key) (built : Built Value) (event : CacheEvent Key Value Failure) : Prop :=
  event = .requested key ∨ event = .answered key built ∨ event = .looked key (some built)

theorem Step.of_filled (step : Step (.filled built) record next) :
    next = .filled built ∧ ShowsValue record.event.key built record.event := by
  cases step with
  | requested => exact ⟨rfl, .inl rfl⟩
  | looked => exact ⟨rfl, .inr (.inr rfl)⟩
  | answered => exact ⟨rfl, .inr (.inl rfl)⟩

/-- A filled slot stays as it is, and every event about it shows its value. -/
theorem Path.of_filled (path : Path key (.filled built) log last) :
    last = .filled built ∧
      ∀ record ∈ log, record.event.key = key → ShowsValue key built record.event := by
  generalize start_eq : SlotState.filled built = start at path
  induction path with
  | nil => exact ⟨rfl, nofun⟩
  | own same step _ ih =>
      subst start_eq
      obtain ⟨rfl, shows⟩ := step.of_filled
      obtain ⟨last_eq, later_show⟩ := ih rfl
      exact ⟨last_eq, List.forall_mem_cons.mpr ⟨fun _ => same ▸ shows, later_show⟩⟩
  | other different _ ih =>
      obtain ⟨last_eq, later_show⟩ := ih start_eq
      exact ⟨last_eq, List.forall_mem_cons.mpr ⟨fun same => absurd same different, later_show⟩⟩

/-- Pending events leave a slot as it is. -/
theorem Path.of_pending (path : Path key slot log last)
    (pending : ∀ record ∈ log, record.event.key = key → record.event.IsPending) :
    last = slot := by
  induction path with
  | nil => rfl
  | own same step _ ih =>
      obtain ⟨first_pending, rest_pending⟩ := List.forall_mem_cons.mp pending
      cases step with
      | requested => exact ih rest_pending
      | looked => exact ih rest_pending
      | answered => exact (first_pending same).elim
      | started => exact (first_pending same).elim
      | succeeded => exact (first_pending same).elim
      | failed => exact (first_pending same).elim
  | other _ _ ih => exact ih (List.forall_mem_cons.mp pending).2

/-- A slot for which a build is under way was so before, or the build has just started. -/
theorem Step.to_building (step : Step slot record (.building thread build)) :
    (slot = .building thread build ∧ record.event.IsPending) ∨
      record = ⟨thread, .started record.event.key build⟩ := by
  cases step with
  | requested => exact .inl ⟨rfl, trivial⟩
  | looked => exact .inl ⟨rfl, trivial⟩
  | started => exact .inr rfl

/-- A build under way was started by the thread that runs it, and nothing came of it so far. -/
theorem Path.to_building (path : Path key slot log (.building thread build)) :
    (slot = .building thread build ∧
      ∀ record ∈ log, record.event.key = key → record.event.IsPending) ∨
    ∃ earlier between, log = earlier ++ ⟨thread, .started key build⟩ :: between ∧
      ∀ record ∈ between, record.event.key = key → record.event.IsPending := by
  generalize last_eq : SlotState.building thread build = last at path
  induction path with
  | nil => exact .inl ⟨rfl, nofun⟩
  | @own slot next last record rest same step _ ih =>
      subst last_eq
      obtain ⟨rfl, rest_pending⟩ | ⟨earlier, between, rfl, between_pending⟩ := ih rfl
      · obtain ⟨rfl, pending⟩ | record_eq := step.to_building
        · exact .inl ⟨rfl, List.forall_mem_cons.mpr ⟨fun _ => pending, rest_pending⟩⟩
        · rw [same] at record_eq
          exact .inr ⟨[], rest, by rw [record_eq]; rfl, rest_pending⟩
      · exact .inr ⟨record :: earlier, between, rfl, between_pending⟩
  | @other slot last record rest different _ ih =>
      obtain ⟨rfl, rest_pending⟩ | ⟨earlier, between, rfl, between_pending⟩ := ih last_eq
      · exact .inl ⟨rfl, List.forall_mem_cons.mpr ⟨fun same => absurd same different, rest_pending⟩⟩
      · exact .inr ⟨record :: earlier, between, rfl, between_pending⟩

/-- A filled slot was filled before, or a build has just yielded its value. -/
theorem Step.to_filled (step : Step slot record (.filled built)) :
    slot = .filled built ∨ ∃ thread, record = ⟨thread, .succeeded record.event.key built⟩ := by
  cases step with
  | requested => exact .inl rfl
  | looked => exact .inl rfl
  | answered => exact .inl rfl
  | succeeded => exact .inr ⟨_, rfl⟩

/-- A value in a slot is that of a build that succeeded. -/
theorem Path.to_filled (path : Path key slot log (.filled built)) :
    slot = .filled built ∨ ∃ thread, ⟨thread, .succeeded key built⟩ ∈ log := by
  generalize last_eq : SlotState.filled built = last at path
  induction path with
  | nil => exact .inl rfl
  | own same step _ ih =>
      subst last_eq
      obtain rfl | ⟨thread, later⟩ := ih rfl
      · obtain rfl | ⟨thread, record_eq⟩ := step.to_filled
        · exact .inl rfl
        · rw [same] at record_eq
          exact .inr ⟨thread, record_eq ▸ List.mem_cons_self⟩
      · exact .inr ⟨thread, List.mem_cons_of_mem _ later⟩
  | other _ _ ih => exact (ih last_eq).imp_right fun ⟨thread, later⟩ =>
      ⟨thread, List.mem_cons_of_mem _ later⟩

theorem Step.of_value (step : Step slot record next) (shown : record.event.value? = some built) :
    next = .filled built := by
  cases step with
  | requested => cases shown
  | looked =>
      cases slot with
      | filled stored => cases shown; rfl
      | _ => cases shown
  | answered => cases shown; rfl
  | started => cases shown
  | succeeded => cases shown; rfl
  | failed => cases shown

/-- While a slot is not filled, no event about it shows a value. -/
theorem Path.unshown (path : Path key slot log last) (unfilled : last.value? = none)
    (record_mem : record ∈ log) (same : record.event.key = key) : record.event.value? = none := by
  obtain ⟨front, back, rfl⟩ := List.append_of_mem record_mem
  obtain ⟨reached, next, -, step, after⟩ := path.split_own same
  cases shown : record.event.value? with
  | none => rfl
  | some built =>
      obtain rfl := step.of_value shown
      obtain ⟨rfl, -⟩ := after.of_filled
      cases unfilled

/-- A value that a build yields stays in the slot. -/
theorem Path.of_succeeded
    (path : Path key slot (front ++ ⟨thread, .succeeded key built⟩ :: back) last) :
    Path key slot front (.building thread built.build) ∧ Path key (.filled built) back last := by
  obtain ⟨reached, next, before, step, after⟩ := path.split_own rfl
  cases step
  exact ⟨before, after⟩

/-- A build that fails leaves the slot empty. -/
theorem Path.of_failed
    (path : Path key slot (front ++ ⟨thread, .failed key build failure⟩ :: back) last) :
    Path key slot front (.building thread build) ∧ Path key .empty back last := by
  obtain ⟨reached, next, before, step, after⟩ := path.split_own rfl
  cases step
  exact ⟨before, after⟩

/-- A build that starts finds the slot empty. -/
theorem Path.of_started
    (path : Path key slot (front ++ ⟨thread, .started key build⟩ :: back) last) :
    Path key slot front .empty ∧ Path key (.building thread build) back last := by
  obtain ⟨reached, next, before, step, after⟩ := path.split_own rfl
  cases step
  exact ⟨before, after⟩

/-- The first event that concerns an empty slot is the start of a build. -/
theorem Path.next_started (path : Path key .empty (front ++ record :: back) last)
    (front_pending : ∀ passed ∈ front, passed.event.key = key → passed.event.IsPending)
    (same : record.event.key = key) (decides : ¬record.event.IsPending) :
    ∃ build, record.event = .started key build := by
  obtain ⟨reached, next, before, step, -⟩ := path.split_own same
  obtain rfl := before.of_pending front_pending
  cases step with
  | requested => exact absurd trivial decides
  | looked => exact absurd trivial decides
  | started => exact ⟨_, congrArg (CacheEvent.started · _) same⟩

end SlotState
end RpcContracts
