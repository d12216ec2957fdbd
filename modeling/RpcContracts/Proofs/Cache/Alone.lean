import RpcContracts.Cache.Threads
import RpcContracts.Proofs.Cache.Slots

/-!
# A thread that has a cache to itself

While no other thread has a build under way, a thread that takes turns gets to the end of its plan
with the result, and leaves the cache, that a run of the plan gives, unless it asks for a key whose
build it is in the middle of.
-/

namespace RpcContracts

namespace BuildPlan

variable {Key Value Failure : Type} [DecidableEq Key]

/-- A run of the plan asks for no key whose build is under way in the same chain of requests. -/
def Clear (chain : List Key) : BuildPlan Key Value Failure → OnceCache Key Value → Prop
  | succeed _, _ => True
  | fail _, _ => True
  | ask key inner next, cache =>
      key ∉ chain ∧ (cache.get? key = none → Clear (key :: chain) inner (cache.start key)) ∧
        match cache.getOrBuild key (run inner) with
        | (.ok built, cache) => Clear chain (next (.ok built.value)) cache
        | (.error failure, cache) => Clear chain (next (.error failure)) cache
  | look key next, cache => Clear chain (next ((cache.get? key).map Built.value)) cache

/-- The plan that ends with a result. -/
def ofResult : Except Failure Value → BuildPlan Key Value Failure
  | .ok value => succeed value
  | .error failure => fail failure

end BuildPlan

/-- What the end of a build makes of a cache: a value is stored. -/
def OnceCache.settle {Key Value Failure : Type} [DecidableEq Key] (cache : OnceCache Key Value)
    (key : Key) (build : Nat) : Except Failure Value → OnceCache Key Value
  | .ok value => cache.fill key ⟨build, value⟩
  | .error _ => cache

namespace SharedCache

variable {Key Value Failure : Type} [DecidableEq Key] {thread : Nat}
  {shared middle ended : SharedCache Key Value Failure}

/-- Turns of one thread lead from one state to another. -/
def LeadsTo (thread : Nat) (shared ended : SharedCache Key Value Failure) : Prop :=
  ∃ turns, ended = shared.run (List.replicate turns thread)

theorem LeadsTo.refl (shared : SharedCache Key Value Failure) : LeadsTo thread shared shared :=
  ⟨0, rfl⟩

theorem LeadsTo.trans (first : LeadsTo thread shared middle)
    (second : LeadsTo thread middle ended) : LeadsTo thread shared ended := by
  obtain ⟨turns, rfl⟩ := first
  obtain ⟨more, rfl⟩ := second
  refine ⟨turns + more, ?_⟩
  rw [← List.replicate_append_replicate, run, run, run, List.foldl_append]

/-- What one thread sees of a shared cache. -/
structure Stands (shared : SharedCache Key Value Failure) (thread : Nat)
    (current : CacheThread Key Value Failure) (cache : OnceCache Key Value)
    (running : Key → Option (Nat × Nat)) : Prop where
  thread_eq : shared.threads thread = current
  cache_eq : shared.cache = cache
  running_eq : shared.running = running

variable {current : CacheThread Key Value Failure} {cache : OnceCache Key Value}
  {running : Key → Option (Nat × Nat)} {event : CacheEvent Key Value Failure}

theorem Stands.turn (stands : shared.Stands thread current cache running)
    (happens : current.event? cache running = some event) :
    ∃ ended, LeadsTo thread shared ended ∧
      ended.Stands thread (current.after event) (cache.after event)
        (runningAfter running thread event) := by
  obtain ⟨rfl, rfl, rfl⟩ := stands
  refine ⟨shared.note thread event, ⟨1, ?_⟩, ?_, rfl, rfl⟩
  · simp [run, SharedCache.turn, happens]
  · simp [note]

section

variable {frames : List (BuildFrame Key Value Failure)} {key : Key}
  {inner : BuildPlan Key Value Failure} {next : Except Failure Value → BuildPlan Key Value Failure}

/-- The value that is there answers a request. -/
theorem Stands.found {built : Built Value}
    (stands : shared.Stands thread ⟨frames, .follow (.ask key inner next)⟩ cache running)
    (stored : cache.get? key = some built) :
    ∃ ended, LeadsTo thread shared ended ∧
      ended.Stands thread ⟨frames, .follow (next (.ok built.value))⟩ cache running := by
  obtain ⟨asked, asks, asked_stands⟩ := stands.turn rfl
  rw [OnceCache.after, OnceCache.request_of_mem (OnceCache.mem_keys_of_get? stored)]
    at asked_stands
  have happens : CacheThread.event? ⟨frames, .enter key inner next⟩ cache running =
      some (.answered key built) := by
    simp only [CacheThread.event?, stored]
  obtain ⟨ended, finds, ended_stands⟩ := asked_stands.turn happens
  exact ⟨ended, asks.trans finds, ended_stands⟩

/-- Without a value, and without a build under way, a request starts a build. -/
theorem Stands.begun
    (stands : shared.Stands thread ⟨frames, .follow (.ask key inner next)⟩ cache running)
    (missing : cache.get? key = none) (idle : running key = none) :
    ∃ ended, LeadsTo thread shared ended ∧
      ended.Stands thread ⟨⟨key, cache.builds + 1, next⟩ :: frames, .follow inner⟩
        (cache.start key) fun other =>
          if other = key then some (thread, cache.builds + 1) else running other := by
  obtain ⟨asked, asks, asked_stands⟩ := stands.turn rfl
  have happens : CacheThread.event? ⟨frames, .enter key inner next⟩ (cache.request key) running =
      some (.started key (cache.builds + 1)) := by
    simp only [CacheThread.event?, OnceCache.get?_request, missing, idle]
    rfl
  obtain ⟨begun, begins, begun_stands⟩ := asked_stands.turn happens
  rw [OnceCache.after, OnceCache.after, OnceCache.start_request] at begun_stands
  exact ⟨begun, asks.trans begins, begun_stands⟩

/-- What a build ends with is stored if it is a value, and answers the request. -/
theorem Stands.concluded {frame : BuildFrame Key Value Failure} (result : Except Failure Value)
    (stands : shared.Stands thread ⟨frame :: frames, .follow (.ofResult result)⟩ cache running) :
    ∃ ended, LeadsTo thread shared ended ∧
      ended.Stands thread ⟨frames, .follow (frame.next result)⟩
        (cache.settle frame.key frame.build result)
        fun other => if other = frame.key then none else running other := by
  cases result with
  | ok value => exact stands.turn rfl
  | error failure => exact stands.turn rfl

end

/-- A thread gets to the end of a clear plan with the result of a run. -/
theorem Stands.finished (plan : BuildPlan Key Value Failure)
    {frames : List (BuildFrame Key Value Failure)}
    (stands : shared.Stands thread ⟨frames, .follow plan⟩ cache running)
    (idle : ∀ key, key ∉ frames.map BuildFrame.key → running key = none)
    (clear : plan.Clear (frames.map BuildFrame.key) cache) :
    ∃ ended, LeadsTo thread shared ended ∧
      ended.Stands thread ⟨frames, .follow (.ofResult (plan.run cache).1)⟩ (plan.run cache).2
        running := by
  induction plan generalizing shared cache running frames with
  | succeed value => exact ⟨shared, .refl shared, stands⟩
  | fail failure => exact ⟨shared, .refl shared, stands⟩
  | look key next next_ih =>
      obtain ⟨looked, looks, looked_stands⟩ := stands.turn rfl
      obtain ⟨ended, ends, ended_stands⟩ := next_ih _ looked_stands idle clear
      exact ⟨ended, looks.trans ends, ended_stands⟩
  | ask key inner next inner_ih next_ih =>
      rw [BuildPlan.Clear] at clear
      obtain ⟨fresh, inner_clear, next_clear⟩ := clear
      cases stored : cache.get? key with
      | some built =>
          have asked_eq : cache.getOrBuild key inner.run = (.ok built, cache) :=
            OnceCache.getOrBuild_of_stored stored
          obtain ⟨found, finds, found_stands⟩ := stands.found stored
          rw [asked_eq] at next_clear
          obtain ⟨ended, ends, ended_stands⟩ := next_ih _ found_stands idle next_clear
          refine ⟨ended, finds.trans ends, ?_⟩
          rw [BuildPlan.run, asked_eq]
          exact ended_stands
      | none =>
          obtain ⟨begun, begins, begun_stands⟩ := stands.begun stored (idle key fresh)
          have inner_idle : ∀ other, other ∉ key :: frames.map BuildFrame.key →
              (if other = key then some (thread, cache.builds + 1) else running other) = none := by
            intro other other_fresh
            obtain ⟨different, outside⟩ := not_or.mp (mt List.mem_cons.mpr other_fresh)
            rw [if_neg different]
            exact idle other outside
          obtain ⟨built, builds, built_stands⟩ :=
            inner_ih begun_stands inner_idle (inner_clear stored)
          obtain ⟨answered, answers, answered_stands⟩ := built_stands.concluded
          have running_eq : (fun other => if other = key then none else if other = key then
              some (thread, cache.builds + 1) else running other) = running := by
            funext other
            by_cases same : other = key
            · rw [if_pos same, same, idle key fresh]
            · rw [if_neg same, if_neg same]
          rw [running_eq] at answered_stands
          have leads := (begins.trans builds).trans answers
          rw [BuildPlan.run]
          cases result : inner.run (cache.start key) with
          | mk outcome after =>
              rw [result] at answered_stands
              cases outcome with
              | ok value =>
                  rw [OnceCache.getOrBuild_of_built stored result] at next_clear ⊢
                  obtain ⟨ended, ends, ended_stands⟩ := next_ih _ answered_stands idle next_clear
                  exact ⟨ended, leads.trans ends, ended_stands⟩
              | error failure =>
                  rw [OnceCache.getOrBuild_of_failed stored result] at next_clear ⊢
                  obtain ⟨ended, ends, ended_stands⟩ := next_ih _ answered_stands idle next_clear
                  exact ⟨ended, leads.trans ends, ended_stands⟩

end SharedCache
end RpcContracts
