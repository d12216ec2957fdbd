import Mathlib.Data.Finset.Card
import RpcContracts.Proofs.Cache.SlotHistory
import RpcContracts.Proofs.Cache.Threads

/-!
# Values built once

Whatever the threads ask for, and in whichever order they take turns, each key has at most one
successful build, whose value answers every later request, and a failed build answers the request
that started it and nothing else.
-/

namespace RpcContracts

namespace SharedCache

variable {Key Value Failure : Type} [DecidableEq Key] {shared : SharedCache Key Value Failure}
  {plans : Nat → BuildPlan Key Value Failure} {thread : Nat}
  {current after : CacheThread Key Value Failure} {event : CacheEvent Key Value Failure}

/-! ## Slots -/

/-- How the slot of a key stands. -/
def slot (shared : SharedCache Key Value Failure) (key : Key) : SlotState Value :=
  match shared.cache.get? key with
  | some built => .filled built
  | none =>
      match shared.running key with
      | some (thread, build) => .building thread build
      | none => .empty

theorem slot_of_stored {key : Key} {built : Built Value}
    (stored : shared.cache.get? key = some built) : shared.slot key = .filled built := by
  simp only [slot, stored]

theorem slot_of_running {key : Key} {build : Nat} (missing : shared.cache.get? key = none)
    (running : shared.running key = some (thread, build)) :
    shared.slot key = .building thread build := by
  simp only [slot, missing, running]

theorem slot_of_idle {key : Key} (missing : shared.cache.get? key = none)
    (idle : shared.running key = none) : shared.slot key = .empty := by
  simp only [slot, missing, idle]

theorem running_of_slot {key : Key} {build : Nat}
    (building : shared.slot key = .building thread build) :
    shared.running key = some (thread, build) := by
  cases stored : shared.cache.get? key with
  | some built =>
      rw [slot_of_stored stored] at building
      cases building
  | none =>
      cases running : shared.running key with
      | none =>
          rw [slot_of_idle stored running] at building
          cases building
      | some under_way =>
          rw [slot_of_running stored running] at building
          cases building
          rfl

theorem slot_congr {other : SharedCache Key Value Failure} {key : Key}
    (get?_eq : other.cache.get? key = shared.cache.get? key)
    (running_eq : other.running key = shared.running key) : other.slot key = shared.slot key := by
  simp only [slot, get?_eq, running_eq]

theorem value?_slot (key : Key) : (shared.slot key).value? = shared.cache.get? key := by
  cases stored : shared.cache.get? key with
  | some built => rw [slot_of_stored stored]; rfl
  | none =>
      cases running : shared.running key with
      | none => rw [slot_of_idle stored running]; rfl
      | some build => rw [slot_of_running stored running]; rfl

/-- Events about another key do not concern a slot. -/
theorem slot_note_of_ne {key : Key} (other : key ≠ event.key) :
    (shared.note thread event).slot key = shared.slot key :=
  slot_congr (get?_note_of_ne other) (running_note_of_ne other)

/-- What a thread does moves the slot that it is about. -/
theorem Tidy.step (tidy : shared.Tidy) (here : shared.threads thread = current)
    (does : current.Does shared.cache shared.running event after) :
    SlotState.Step (shared.slot event.key) ⟨thread, event⟩
      ((shared.note thread event).slot event.key) := by
  cases does with
  | @asks frames key inner next =>
      have slot_eq : (shared.note thread (.requested key)).slot key = shared.slot key :=
        slot_congr (OnceCache.get?_request ..) rfl
      rw [CacheEvent.key, slot_eq]
      exact .requested
  | @looks frames key next =>
      rw [CacheEvent.key, ← value?_slot]
      exact .looked
  | @finds frames key inner next built stored =>
      rw [CacheEvent.key, slot_of_stored stored, slot_of_stored (by exact stored)]
      exact .answered
  | @begins frames key inner next missing idle =>
      rw [CacheEvent.key, slot_of_idle missing idle]
      have started_missing : (shared.cache.start key).get? key = none := by
        rw [OnceCache.get?_start, missing]
      rw [slot_of_running started_missing (if_pos rfl)]
      exact .started
  | @yields frame frames value =>
      have running := tidy.frames_running thread frame (by rw [here]; exact List.mem_cons_self)
      let built : Built Value := ⟨frame.build, value⟩
      rw [CacheEvent.key, slot_of_running (tidy.missing running) running,
        slot_of_stored (OnceCache.get?_fill_self (tidy.known running) built)]
      change SlotState.Step (.building thread built.build) _ _
      exact .succeeded
  | @fails frame frames failure =>
      have running := tidy.frames_running thread frame (by rw [here]; exact List.mem_cons_self)
      rw [CacheEvent.key, slot_of_running (tidy.missing running) running]
      rw [slot_of_idle (by exact tidy.missing running) (if_pos rfl)]
      exact .failed

/-! ## Logs -/

/-- The key that an event asks for. -/
def request? : CacheEvent Key Value Failure → Option Key
  | .requested key => some key
  | _ => none

/-- The build that an event starts. -/
def start? : CacheEvent Key Value Failure → Option Nat
  | .started _ build => some build
  | _ => none

/-- The keys asked for, in order. -/
def requestedKeys (log : List (CacheRecord Key Value Failure)) : List Key :=
  log.filterMap fun record => request? record.event

/-- The numbers of the builds started, in order. -/
def startedBuilds (log : List (CacheRecord Key Value Failure)) : List Nat :=
  log.filterMap fun record => start? record.event

/-- The log accounts for the slots, the keys and the builds. -/
structure Sound (shared : SharedCache Key Value Failure) : Prop where
  tidy : shared.Tidy
  path : ∀ key, SlotState.Path key .empty shared.log (shared.slot key)
  keys_nodup : shared.cache.keys.Nodup
  mem_keys_iff : ∀ key, key ∈ shared.cache.keys ↔ key ∈ requestedKeys shared.log
  builds_eq : startedBuilds shared.log = List.range' 1 shared.cache.builds

theorem sound_start : (start .empty plans).Sound where
  tidy := tidy_start
  path _ := .nil
  keys_nodup := List.nodup_nil
  mem_keys_iff _ := Iff.rfl
  builds_eq := rfl

namespace Sound

theorem path_note (sound : shared.Sound) (here : shared.threads thread = current)
    (does : current.Does shared.cache shared.running event after) (key : Key) :
    SlotState.Path key .empty (shared.note thread event).log
      ((shared.note thread event).slot key) := by
  refine (sound.path key).append ?_
  by_cases same : key = event.key
  · subst same
    exact .own rfl (sound.tidy.step here does) .nil
  · rw [slot_note_of_ne same]
    exact .other (Ne.symm same) .nil

/-- Only requests for new keys add slots. -/
theorem keys_note (sound : shared.Sound) (here : shared.threads thread = current)
    (does : current.Does shared.cache shared.running event after) :
    (shared.cache.after event).keys.Nodup ∧
      ∀ key, key ∈ (shared.cache.after event).keys ↔
        key ∈ requestedKeys (shared.note thread event).log := by
  have requested_eq : requestedKeys (shared.note thread event).log =
      requestedKeys shared.log ++ (request? event).toList := by
    rw [note, requestedKeys, List.filterMap_append]
    cases requested : request? event <;> simp [requestedKeys, requested]
  have unchanged : (shared.cache.after event).keys = shared.cache.keys →
      request? event = none → (shared.cache.after event).keys.Nodup ∧
        ∀ key, key ∈ (shared.cache.after event).keys ↔
          key ∈ requestedKeys (shared.note thread event).log := by
    intro keys_eq request_eq
    rw [keys_eq, requested_eq, request_eq]
    exact ⟨sound.keys_nodup, fun key => by simpa using sound.mem_keys_iff key⟩
  cases does with
  | @asks frames key inner next =>
      refine ⟨OnceCache.nodup_keys_request sound.keys_nodup, fun sought => ?_⟩
      rw [requested_eq, OnceCache.after, OnceCache.mem_keys_request_iff, List.mem_append,
        sound.mem_keys_iff]
      simp [request?]
  | looks => exact unchanged rfl rfl
  | finds => exact unchanged rfl rfl
  | begins missing idle =>
      exact unchanged (OnceCache.keys_request_of_mem (sound.tidy.entering (by rw [here]))) rfl
  | yields => exact unchanged (OnceCache.keys_fill ..) rfl
  | fails => exact unchanged rfl rfl

/-- Builds are numbered in the order in which they start. -/
theorem builds_note (sound : shared.Sound)
    (does : current.Does shared.cache shared.running event after) :
    startedBuilds (shared.note thread event).log =
      List.range' 1 (shared.cache.after event).builds := by
  have started_eq : startedBuilds (shared.note thread event).log =
      List.range' 1 shared.cache.builds ++ (start? event).toList := by
    rw [note, startedBuilds, List.filterMap_append, ← startedBuilds, sound.builds_eq]
    cases started : start? event <;> simp [started]
  rw [started_eq]
  cases does with
  | begins missing idle =>
      rw [OnceCache.after, OnceCache.start, List.range'_concat]
      simp [start?, Nat.add_comm]
  | _ => exact List.append_nil _

/-- Whatever a thread does is accounted for. -/
theorem note (sound : shared.Sound) (here : shared.threads thread = current)
    (does : current.Does shared.cache shared.running event after)
    (after_eq : current.after event = after) : (shared.note thread event).Sound where
  tidy := sound.tidy.note here does after_eq
  path := sound.path_note here does
  keys_nodup := (sound.keys_note here does).1
  mem_keys_iff := (sound.keys_note here does).2
  builds_eq := sound.builds_note does

end Sound

theorem sound_run (plans : Nat → BuildPlan Key Value Failure) (turns : List Nat) :
    ((start .empty plans).run turns).Sound :=
  run_induction sound_start (fun sound here does after_eq => sound.note here does after_eq) turns

/-! ## Main result -/

/-- What a log tells about the cache, and the builds under way, that its events have led to. -/
structure BuiltOnce (log : List (CacheRecord Key Value Failure)) (cache : OnceCache Key Value)
    (running : Key → Option (Nat × Nat)) : Prop where
  /-- Before a build succeeds nothing shows a value of its key. Afterwards everything shows that of
  the build, and no other build starts. -/
  settled : ∀ {before thread key built after},
    log = before ++ ⟨thread, .succeeded key built⟩ :: after →
      (∀ record ∈ before, record.event.key = key → record.event.value? = none) ∧
      ∀ record ∈ after, record.event.key = key → SlotState.ShowsValue key built record.event
  /-- A build that fails was started by a request of the thread that gets the error. There was no
  value before, and whoever asks next and does not wait starts a build of its own. -/
  retried : ∀ {before thread key build failure after},
    log = before ++ ⟨thread, .failed key build failure⟩ :: after →
      (∃ earlier between, before = earlier ++ ⟨thread, .started key build⟩ :: between ∧
        ∀ record ∈ between, record.event.key = key → record.event.IsPending) ∧
      (∀ record ∈ before, record.event.key = key → record.event.value? = none) ∧
      ∀ {between record rest}, after = between ++ record :: rest →
        (∀ passed ∈ between, passed.event.key = key → passed.event.IsPending) →
          record.event.key = key → ¬record.event.IsPending →
            ∃ next, record.event = .started key next
  /-- A key has the value of its successful build and no other. -/
  stored_iff : ∀ key built, cache.get? key = some built ↔
    ∃ thread, ⟨thread, .succeeded key built⟩ ∈ log
  /-- A build is under way from its start until something comes of it. -/
  running_iff : ∀ key thread build, running key = some (thread, build) ↔
    ∃ before after, log = before ++ ⟨thread, .started key build⟩ :: after ∧
      ∀ record ∈ after, record.event.key = key → record.event.IsPending
  /-- The builds are counted, and numbered, as they start. -/
  builds_eq : startedBuilds log = List.range' 1 cache.builds
  /-- The keys asked for are counted once each. -/
  size_eq : cache.size = (requestedKeys log).toFinset.card

namespace Sound

theorem stored_iff (sound : shared.Sound) (key : Key) (built : Built Value) :
    shared.cache.get? key = some built ↔
      ∃ thread, ⟨thread, .succeeded key built⟩ ∈ shared.log := by
  constructor
  · intro stored
    have path := sound.path key
    rw [slot_of_stored stored] at path
    exact path.to_filled.resolve_left nofun
  · rintro ⟨thread, succeeded_mem⟩
    obtain ⟨before, after, log_eq⟩ := List.append_of_mem succeeded_mem
    have path := sound.path key
    rw [log_eq] at path
    obtain ⟨slot_eq, -⟩ := path.of_succeeded.2.of_filled
    rw [← value?_slot, slot_eq]
    rfl

theorem running_iff (sound : shared.Sound) (key : Key) (thread build : Nat) :
    shared.running key = some (thread, build) ↔
      ∃ before after, shared.log = before ++ ⟨thread, .started key build⟩ :: after ∧
        ∀ record ∈ after, record.event.key = key → record.event.IsPending := by
  have path := sound.path key
  constructor
  · intro running
    rw [slot_of_running (sound.tidy.missing running) running] at path
    exact path.to_building.resolve_left fun ⟨impossible, _⟩ => nomatch impossible
  · rintro ⟨before, after, log_eq, after_pending⟩
    rw [log_eq] at path
    exact running_of_slot (path.of_started.2.of_pending after_pending)

theorem builtOnce (sound : shared.Sound) : BuiltOnce shared.log shared.cache shared.running where
  settled := by
    intro before thread key built after log_eq
    have path := sound.path key
    rw [log_eq] at path
    obtain ⟨before_path, after_path⟩ := path.of_succeeded
    exact ⟨fun record => before_path.unshown rfl, after_path.of_filled.2⟩
  retried := by
    intro before thread key build failure after log_eq
    have path := sound.path key
    rw [log_eq] at path
    obtain ⟨before_path, after_path⟩ := path.of_failed
    refine ⟨before_path.to_building.resolve_left (fun ⟨impossible, _⟩ => nomatch impossible),
      fun record => before_path.unshown rfl, ?_⟩
    rintro between record rest rfl between_pending same decides
    exact after_path.next_started between_pending same decides
  stored_iff := sound.stored_iff
  running_iff := sound.running_iff
  builds_eq := sound.builds_eq
  size_eq := by
    rw [← OnceCache.length_keys, ← List.toFinset_card_of_nodup sound.keys_nodup]
    congr 1
    ext key
    rw [List.mem_toFinset, List.mem_toFinset, sound.mem_keys_iff]

end Sound

section

variable {KeyType ValueType : Type} [DecidableEq KeyType] [DecidableEq ValueType]

/-- Threads may share a cache of values by the types of their keys and their own. After any turns
the log accounts for the cache; a further turn passes only if the thread waits or is done, and
otherwise concerns that thread and one slot; and a thread that finds no build under way gets, by
itself, to the result of its plan. -/
theorem built_once (plans : Nat → BuildPlan (KeyType × ValueType) Value Failure)
    (turns : List Nat) :
    BuiltOnce ((start .empty plans).run turns).log ((start .empty plans).run turns).cache
        ((start .empty plans).run turns).running ∧
      (∀ number, Turn number ((start .empty plans).run turns)
        (((start .empty plans).run turns).turn number)) ∧
      ∀ {number plan cache running},
        ((start .empty plans).run turns).Stands number ⟨[], .follow plan⟩ cache running →
          (∀ key, running key = none) → plan.Clear [] cache →
            ∃ ended, LeadsTo number ((start .empty plans).run turns) ended ∧
              ended.Stands number ⟨[], .follow (.ofResult (plan.run cache).1)⟩ (plan.run cache).2
                running := by
  refine ⟨(sound_run plans turns).builtOnce, turn_cases _, ?_⟩
  intro number plan cache running stands idle clear
  exact stands.finished plan (fun key _ => idle key) clear

end

end SharedCache

namespace Sample

/-- A request for a table, whose build succeeds. -/
def mailerPlan : BuildPlan (String × String) String String :=
  .ask ("Mailer", "table") (.succeed "mailer table") .ofResult

/-- Three threads: the build of one asks for another value of its key type, another asks for the
same value meanwhile, and the build of the third fails, which makes it ask again. -/
def threadPlans : Nat → BuildPlan (String × String) String String
  | 0 => .ask ("Greeter", "table")
      (.ask ("Greeter", "names") (.succeed "greeter names") fun _ => .succeed "greeter table")
      .ofResult
  | 1 => .ask ("Greeter", "table") (.succeed "second table") .ofResult
  | 2 => .ask ("Mailer", "table") (.fail "no mailer") fun _ => mailerPlan
  | _ => .succeed "nothing"

/-- Turns until no build is under way. -/
def threadTurns : List Nat := [0, 1, 0, 1, 2, 0, 0, 2, 0, 2, 1, 0, 1]

/-- The sample threads after their turns. -/
def threadsRun : SharedCache (String × String) String String :=
  (SharedCache.start .empty threadPlans).run threadTurns

theorem threadsRun_builtOnce :
    SharedCache.BuiltOnce threadsRun.log threadsRun.cache threadsRun.running ∧
      threadsRun.cache.builds = 3 ∧ threadsRun.cache.size = 3 ∧
      threadsRun.threads 1 = ⟨[], .follow (.succeed "greeter table")⟩ ∧
      ∃ ended, SharedCache.LeadsTo 2 threadsRun ended ∧
        ended.threads 2 = ⟨[], .follow (.succeed "mailer table")⟩ := by
  obtain ⟨built_once, -, finishes⟩ := SharedCache.built_once threadPlans threadTurns
  have stands : threadsRun.Stands 2 ⟨[], .follow mailerPlan⟩ threadsRun.cache threadsRun.running :=
    ⟨rfl, rfl, rfl⟩
  have idle : ∀ key, threadsRun.running key = none := by
    intro key
    change (if key = ("Greeter", "table") then none else
      if key = ("Mailer", "table") then none else
        if key = ("Greeter", "names") then none else
          if key = ("Mailer", "table") then some (2, 3) else
            if key = ("Greeter", "names") then some (0, 2) else
              if key = ("Greeter", "table") then some (0, 1) else none) = none
    grind
  have clear : mailerPlan.Clear [] threadsRun.cache :=
    ⟨List.not_mem_nil, fun _ => trivial, trivial⟩
  obtain ⟨ended, leads, ended_stands⟩ := finishes stands idle clear
  exact ⟨built_once, rfl, rfl, rfl, ended, leads, ended_stands.thread_eq⟩

end Sample
end RpcContracts
