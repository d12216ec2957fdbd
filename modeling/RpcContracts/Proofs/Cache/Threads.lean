import Mathlib.Data.List.Nodup
import RpcContracts.Proofs.Cache.Alone

/-!
# Threads that share a cache

This file says once what a thread can do in a turn, and when a turn of it passes. Everything that
holds of caches shared by threads is checked against that, first of all that the builds which the
threads run are the builds under way.
-/

namespace RpcContracts

/-! ## What a turn does -/

section

variable {Key Value Failure : Type}

/-- What a thread does in a turn, by what it is about to do. -/
inductive CacheThread.Does (cache : OnceCache Key Value) [DecidableEq Key]
    (running : Key → Option (Nat × Nat)) :
    CacheThread Key Value Failure → CacheEvent Key Value Failure →
      CacheThread Key Value Failure → Prop where
  | asks {frames key inner next} :
      Does cache running ⟨frames, .follow (.ask key inner next)⟩ (.requested key)
        ⟨frames, .enter key inner next⟩
  | looks {frames key next} :
      Does cache running ⟨frames, .follow (.look key next)⟩ (.looked key (cache.get? key))
        ⟨frames, .follow (next ((cache.get? key).map Built.value))⟩
  | finds {frames key inner next} {built : Built Value} (stored : cache.get? key = some built) :
      Does cache running ⟨frames, .enter key inner next⟩ (.answered key built)
        ⟨frames, .follow (next (.ok built.value))⟩
  | begins {frames key inner next} (missing : cache.get? key = none)
      (idle : running key = none) :
      Does cache running ⟨frames, .enter key inner next⟩ (.started key (cache.builds + 1))
        ⟨⟨key, cache.builds + 1, next⟩ :: frames, .follow inner⟩
  | yields {frame frames value} :
      Does cache running ⟨frame :: frames, .follow (.succeed value)⟩
        (.succeeded frame.key ⟨frame.build, value⟩) ⟨frames, .follow (frame.next (.ok value))⟩
  | fails {frame frames failure} :
      Does cache running ⟨frame :: frames, .follow (.fail failure)⟩
        (.failed frame.key frame.build failure) ⟨frames, .follow (frame.next (.error failure))⟩

variable [DecidableEq Key] {cache : OnceCache Key Value} {running : Key → Option (Nat × Nat)}
  {thread : CacheThread Key Value Failure} {event : CacheEvent Key Value Failure}

theorem CacheThread.does_of_event? (happens : thread.event? cache running = some event) :
    thread.Does cache running event (thread.after event) := by
  obtain ⟨frames, activity⟩ := thread
  cases activity with
  | follow plan =>
      cases plan with
      | ask key inner next => cases happens; exact .asks
      | look key next => cases happens; exact .looks
      | succeed value =>
          cases frames with
          | nil => cases happens
          | cons frame frames => cases happens; exact .yields
      | fail failure =>
          cases frames with
          | nil => cases happens
          | cons frame frames => cases happens; exact .fails
  | enter key inner next =>
      cases stored : cache.get? key with
      | some built =>
          simp only [event?, stored, Option.some.injEq] at happens
          subst happens
          exact .finds stored
      | none =>
          cases busy : running key with
          | some build => simp [event?, stored, busy] at happens
          | none =>
              simp only [event?, stored, busy, Option.isSome_none, Bool.false_eq_true, if_false,
                Option.some.injEq] at happens
              subst happens
              exact .begins stored busy

/-- A thread whose turns pass: it waits for a build that is under way, or it is done. -/
inductive CacheThread.Rests (cache : OnceCache Key Value) (running : Key → Option (Nat × Nat)) :
    CacheThread Key Value Failure → Prop where
  | waits {frames key inner next build} (missing : cache.get? key = none)
      (under_way : running key = some build) : Rests cache running ⟨frames, .enter key inner next⟩
  | done (result : Except Failure Value) : Rests cache running ⟨[], .follow (.ofResult result)⟩

theorem CacheThread.rests_of_event? (passes : thread.event? cache running = none) :
    thread.Rests cache running := by
  obtain ⟨frames, activity⟩ := thread
  cases activity with
  | follow plan =>
      cases plan with
      | ask key inner next => cases passes
      | look key next => cases passes
      | succeed value =>
          cases frames with
          | nil => exact .done (.ok value)
          | cons frame frames => cases passes
      | fail failure =>
          cases frames with
          | nil => exact .done (.error failure)
          | cons frame frames => cases passes
  | enter key inner next =>
      cases stored : cache.get? key with
      | some built => simp [event?, stored] at passes
      | none =>
          cases busy : running key with
          | some build => exact .waits stored busy
          | none => simp [event?, stored, busy] at passes

end

namespace SharedCache

variable {Key Value Failure : Type} [DecidableEq Key] {shared : SharedCache Key Value Failure}
  {plans : Nat → BuildPlan Key Value Failure} {cache : OnceCache Key Value}

/-- What holds at the start and is kept by all that a thread can do holds after any turns. -/
theorem run_induction {Holds : SharedCache Key Value Failure → Prop}
    (started : Holds (start cache plans))
    (kept : ∀ {shared : SharedCache Key Value Failure} {thread current event after},
      Holds shared → shared.threads thread = current →
        current.Does shared.cache shared.running event after → current.after event = after →
          Holds (shared.note thread event))
    (turns : List Nat) : Holds ((start cache plans).run turns) := by
  suffices run : ∀ shared, Holds shared → Holds (shared.run turns) by exact run _ started
  induction turns with
  | nil => exact fun _ holds => holds
  | cons thread rest ih =>
      intro shared holds
      refine ih _ ?_
      unfold turn
      split
      · exact holds
      · next event happens => exact kept holds rfl (CacheThread.does_of_event? happens) rfl

variable {thread : Nat} {current after : CacheThread Key Value Failure}
  {event : CacheEvent Key Value Failure}

theorem threads_note_self (here : shared.threads thread = current)
    (after_eq : current.after event = after) :
    (shared.note thread event).threads thread = after := by
  simp [note, here, after_eq]

theorem threads_note_of_ne {other : Nat} (elsewhere : other ≠ thread) :
    (shared.note thread event).threads other = shared.threads other := by
  simp [note, elsewhere]

theorem get?_note_of_ne {key : Key} (other : key ≠ event.key) :
    (shared.note thread event).cache.get? key = shared.cache.get? key := by
  cases event with
  | requested sought => exact OnceCache.get?_request ..
  | answered sought built => rfl
  | started sought build => exact OnceCache.get?_start ..
  | succeeded sought built => exact OnceCache.get?_fill_of_ne other built
  | failed sought build failure => rfl
  | looked sought found => rfl

theorem running_note_of_ne {key : Key} (other : key ≠ event.key) :
    (shared.note thread event).running key = shared.running key := by
  cases event with
  | started sought build => exact if_neg other
  | succeeded sought built => exact if_neg other
  | failed sought build failure => exact if_neg other
  | _ => rfl

/-- What a turn of a thread makes of a shared cache. -/
inductive Turn (number : Nat) (shared next : SharedCache Key Value Failure) : Prop where
  /-- The turn passes. -/
  | passes (rests : (shared.threads number).Rests shared.cache shared.running)
      (same : next = shared)
  /-- The thread does something, which no other thread, and no slot of another key, notices. -/
  | acts {event : CacheEvent Key Value Failure} {after : CacheThread Key Value Failure}
      (does : (shared.threads number).Does shared.cache shared.running event after)
      (goes_on : next.threads number = after)
      (others : ∀ other, other ≠ number → next.threads other = shared.threads other)
      (cache_eq : next.cache = shared.cache.after event)
      (slots : ∀ key, key ≠ event.key →
        next.cache.get? key = shared.cache.get? key ∧ next.running key = shared.running key)
      (logged : next.log = shared.log ++ [⟨number, event⟩])

theorem turn_cases (shared : SharedCache Key Value Failure) (number : Nat) :
    Turn number shared (shared.turn number) := by
  unfold turn
  split
  · next passes => exact .passes (CacheThread.rests_of_event? passes) rfl
  · next event happens =>
      exact .acts (CacheThread.does_of_event? happens) (threads_note_self rfl rfl)
        (fun other elsewhere => threads_note_of_ne elsewhere) rfl
        (fun key other => ⟨get?_note_of_ne other, running_note_of_ne other⟩) rfl

/-! ## Builds under way -/

/-- The builds that the threads run are those under way, of empty slots, and no two are for one
key; a thread about to enter a slot has asked for its key. -/
structure Tidy (shared : SharedCache Key Value Failure) : Prop where
  frames_running : ∀ thread, ∀ frame ∈ (shared.threads thread).frames,
    shared.running frame.key = some (thread, frame.build)
  frames_nodup : ∀ thread, ((shared.threads thread).frames.map BuildFrame.key).Nodup
  missing : ∀ {key build}, shared.running key = some build → shared.cache.get? key = none
  known : ∀ {key build}, shared.running key = some build → key ∈ shared.cache.keys
  entering : ∀ {thread key inner next},
    (shared.threads thread).activity = .enter key inner next → key ∈ shared.cache.keys

theorem tidy_start : (start .empty plans).Tidy where
  frames_running _ _ frame_mem := nomatch frame_mem
  frames_nodup _ := List.nodup_nil
  missing running := nomatch running
  known running := nomatch running
  entering enters := nomatch enters

namespace Tidy

variable {frame : BuildFrame Key Value Failure} {frames : List (BuildFrame Key Value Failure)}
  {activity : Activity Key Value Failure}

/-- Besides its innermost build a thread runs no other for the same key. -/
theorem frame_ne (tidy : shared.Tidy) (here : shared.threads thread = ⟨frame :: frames, activity⟩)
    {other : Nat} {kept : BuildFrame Key Value Failure}
    (kept_mem : kept ∈ if other = thread then frames else (shared.threads other).frames) :
    shared.running kept.key = some (other, kept.build) ∧ kept.key ≠ frame.key := by
  have top_running := tidy.frames_running thread frame (by rw [here]; exact List.mem_cons_self)
  by_cases same : other = thread
  · subst same
    rw [if_pos rfl] at kept_mem
    have kept_running := tidy.frames_running other kept
      (by rw [here]; exact List.mem_cons_of_mem _ kept_mem)
    have distinct := tidy.frames_nodup other
    rw [here] at distinct
    refine ⟨kept_running, fun same_key => (List.nodup_cons.mp distinct).1 ?_⟩
    exact same_key ▸ List.mem_map_of_mem kept_mem
  · rw [if_neg same] at kept_mem
    have kept_running := tidy.frames_running other kept kept_mem
    refine ⟨kept_running, fun same_key => same ?_⟩
    rw [same_key, top_running] at kept_running
    exact (congrArg Prod.fst (Option.some.inj kept_running)).symm

/-- An event that neither starts nor ends a build leaves the builds under way alone. -/
theorem note_of_same_frames (tidy : shared.Tidy) (here : shared.threads thread = current)
    (after_eq : current.after event = after) (frames_eq : after.frames = current.frames)
    (running_eq : runningAfter shared.running thread event = shared.running)
    (get?_eq : ∀ key, (shared.cache.after event).get? key = shared.cache.get? key)
    (keys_mono : ∀ {key}, key ∈ shared.cache.keys → key ∈ (shared.cache.after event).keys)
    (enters : ∀ {key inner next}, after.activity = .enter key inner next →
      key ∈ (shared.cache.after event).keys) :
    (shared.note thread event).Tidy := by
  have frames_same : ∀ other, ((shared.note thread event).threads other).frames =
      (shared.threads other).frames := by
    intro other
    by_cases same : other = thread
    · subst same
      rw [threads_note_self here after_eq, frames_eq, here]
    · rw [threads_note_of_ne same]
  have running_same : (shared.note thread event).running = shared.running := running_eq
  refine ⟨?_, ?_, ?_, ?_, ?_⟩
  · intro other frame frame_mem
    rw [frames_same] at frame_mem
    rw [running_same]
    exact tidy.frames_running other frame frame_mem
  · intro other
    rw [frames_same]
    exact tidy.frames_nodup other
  · intro key build running
    rw [running_same] at running
    exact (get?_eq key).trans (tidy.missing running)
  · intro key build running
    rw [running_same] at running
    exact keys_mono (tidy.known running)
  · intro other key inner next activity_eq
    by_cases same : other = thread
    · subst same
      rw [threads_note_self here after_eq] at activity_eq
      exact enters activity_eq
    · rw [threads_note_of_ne same] at activity_eq
      exact keys_mono (tidy.entering activity_eq)

/-- A build that starts is under way, alone for its key. -/
theorem note_started {key : Key} {inner : BuildPlan Key Value Failure}
    {next : Except Failure Value → BuildPlan Key Value Failure} (tidy : shared.Tidy)
    (here : shared.threads thread = ⟨frames, .enter key inner next⟩)
    (missing : shared.cache.get? key = none) (idle : shared.running key = none) (build : Nat) :
    (shared.note thread (.started key build)).Tidy := by
  have running_eq : ∀ other, (shared.note thread (.started key build)).running other =
      if other = key then some (thread, build) else shared.running other := fun _ => rfl
  have other_key : ∀ {thread : Nat} {kept : BuildFrame Key Value Failure},
      kept ∈ (shared.threads thread).frames → kept.key ≠ key := by
    intro thread kept kept_mem same
    have kept_running := tidy.frames_running thread kept kept_mem
    rw [same, idle] at kept_running
    cases kept_running
  refine ⟨?_, ?_, ?_, ?_, ?_⟩
  · intro other kept kept_mem
    rw [running_eq]
    by_cases same : other = thread
    · subst same
      rw [threads_note_self here rfl] at kept_mem
      obtain rfl | kept_before := List.mem_cons.mp kept_mem
      · exact if_pos rfl
      · have before : kept ∈ (shared.threads other).frames := by rwa [here]
        rw [if_neg (other_key before)]
        exact tidy.frames_running other kept before
    · rw [threads_note_of_ne same] at kept_mem
      rw [if_neg (other_key kept_mem)]
      exact tidy.frames_running other kept kept_mem
  · intro other
    by_cases same : other = thread
    · subst same
      have distinct := tidy.frames_nodup other
      rw [here] at distinct
      rw [threads_note_self here rfl]
      refine List.nodup_cons.mpr ⟨fun key_mem => ?_, distinct⟩
      obtain ⟨kept, kept_mem, same_key⟩ := List.mem_map.mp key_mem
      exact other_key (by rw [here]; exact kept_mem) same_key
    · rw [threads_note_of_ne same]
      exact tidy.frames_nodup other
  · intro sought found running
    rw [running_eq] at running
    refine (OnceCache.get?_start ..).trans ?_
    by_cases same : sought = key
    · rw [same, missing]
    · rw [if_neg same] at running
      exact tidy.missing running
  · intro sought found running
    rw [running_eq] at running
    by_cases same : sought = key
    · exact same ▸ OnceCache.mem_keys_start ..
    · rw [if_neg same] at running
      exact OnceCache.mem_keys_request_iff.mpr (.inl (tidy.known running))
  · intro other sought inner next activity_eq
    by_cases same : other = thread
    · subst same
      rw [threads_note_self here rfl] at activity_eq
      cases activity_eq
    · rw [threads_note_of_ne same] at activity_eq
      exact OnceCache.mem_keys_request_iff.mpr (.inl (tidy.entering activity_eq))

/-- A build that ends is no longer under way, and the others are. -/
theorem note_ended (tidy : shared.Tidy)
    (here : shared.threads thread = ⟨frame :: frames, activity⟩)
    {plan : BuildPlan Key Value Failure}
    (after_eq : CacheThread.after ⟨frame :: frames, activity⟩ event = ⟨frames, .follow plan⟩)
    (running_eq : ∀ other, runningAfter shared.running thread event other =
      if other = frame.key then none else shared.running other)
    (get?_eq : ∀ {key}, key ≠ frame.key →
      (shared.cache.after event).get? key = shared.cache.get? key)
    (keys_eq : (shared.cache.after event).keys = shared.cache.keys) :
    (shared.note thread event).Tidy := by
  have frames_eq : ∀ other, ((shared.note thread event).threads other).frames =
      if other = thread then frames else (shared.threads other).frames := by
    intro other
    by_cases same : other = thread
    · subst same
      rw [threads_note_self here after_eq, if_pos rfl]
    · rw [threads_note_of_ne same, if_neg same]
  have still_running : ∀ {key build},
      (shared.note thread event).running key = some build →
        key ≠ frame.key ∧ shared.running key = some build := by
    intro key build running
    have unfolded := (running_eq key).symm.trans running
    by_cases same : key = frame.key
    · rw [if_pos same] at unfolded
      cases unfolded
    · rw [if_neg same] at unfolded
      exact ⟨same, unfolded⟩
  have keys_same : (shared.note thread event).cache.keys = shared.cache.keys := keys_eq
  refine ⟨?_, ?_, ?_, ?_, ?_⟩
  · intro other kept kept_mem
    rw [frames_eq] at kept_mem
    obtain ⟨kept_running, different⟩ := tidy.frame_ne here kept_mem
    refine (running_eq kept.key).trans ?_
    rwa [if_neg different]
  · intro other
    rw [frames_eq]
    split
    · next same =>
        have distinct := tidy.frames_nodup thread
        rw [here] at distinct
        exact (List.nodup_cons.mp distinct).2
    · exact tidy.frames_nodup other
  · intro key build running
    obtain ⟨different, before⟩ := still_running running
    exact (get?_eq different).trans (tidy.missing before)
  · intro key build running
    rw [keys_same]
    exact tidy.known (still_running running).2
  · intro other key inner next activity_eq
    rw [keys_same]
    by_cases same : other = thread
    · subst same
      rw [threads_note_self here after_eq] at activity_eq
      cases activity_eq
    · rw [threads_note_of_ne same] at activity_eq
      exact tidy.entering activity_eq

/-- Whatever a thread does keeps the builds under way in order. -/
theorem note (tidy : shared.Tidy) (here : shared.threads thread = current)
    (does : current.Does shared.cache shared.running event after)
    (after_eq : current.after event = after) : (shared.note thread event).Tidy := by
  cases does with
  | asks =>
      refine tidy.note_of_same_frames here after_eq rfl rfl (OnceCache.get?_request _ _)
        (fun known => OnceCache.mem_keys_request_iff.mpr (.inl known)) ?_
      rintro key inner next ⟨⟩
      exact OnceCache.mem_keys_request ..
  | looks => exact tidy.note_of_same_frames here after_eq rfl rfl (fun _ => rfl) id nofun
  | finds => exact tidy.note_of_same_frames here after_eq rfl rfl (fun _ => rfl) id nofun
  | begins missing idle => exact tidy.note_started here missing idle _
  | yields =>
      exact tidy.note_ended here after_eq (fun _ => rfl)
        (fun different => OnceCache.get?_fill_of_ne different _) (OnceCache.keys_fill ..)
  | fails => exact tidy.note_ended here after_eq (fun _ => rfl) (fun _ => rfl) rfl

end Tidy

end SharedCache
end RpcContracts
