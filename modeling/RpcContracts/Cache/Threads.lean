import RpcContracts.Cache.Plan

/-!
# Caches shared by threads

Threads share one cache and take turns in any order, each going on with a plan of its own. In a
turn a thread asks for a key, enters its slot, ends a build or looks a key up. Entering a slot finds
the value or starts a build, unless the build of another request is under way: then the turn passes
and the thread enters again in its next one.
-/

namespace RpcContracts

/-- What happens to a cache. -/
inductive CacheEvent (Key Value Failure : Type) where
  /-- A key is asked for. -/
  | requested (key : Key)
  /-- The request finds a value. -/
  | answered (key : Key) (built : Built Value)
  /-- The request starts the build with a number. -/
  | started (key : Key) (build : Nat)
  /-- The build yields a value, which is stored and answers the request that started it. -/
  | succeeded (key : Key) (built : Built Value)
  /-- The build fails, which answers the request that started it. -/
  | failed (key : Key) (build : Nat) (failure : Failure)
  /-- A key is looked up. -/
  | looked (key : Key) (found : Option (Built Value))

/-- The key that an event is about. -/
def CacheEvent.key {Key Value Failure : Type} : CacheEvent Key Value Failure → Key
  | requested key => key
  | answered key _ => key
  | started key _ => key
  | succeeded key _ => key
  | failed key _ _ => key
  | looked key _ => key

/-- What an event makes of a cache. -/
def OnceCache.after {Key Value Failure : Type} [DecidableEq Key] (cache : OnceCache Key Value) :
    CacheEvent Key Value Failure → OnceCache Key Value
  | .requested key => cache.request key
  | .answered .. => cache
  | .started key _ => cache.start key
  | .succeeded key built => cache.fill key built
  | .failed .. => cache
  | .looked .. => cache

/-! ## Threads -/

/-- A build under way. -/
structure BuildFrame (Key Value Failure : Type) where
  /-- The key that it is for. -/
  key : Key
  /-- Its number. -/
  build : Nat
  /-- How the thread goes on with the answer to the request that started it. -/
  next : Except Failure Value → BuildPlan Key Value Failure

/-- What a thread is about to do. -/
inductive Activity (Key Value Failure : Type) where
  | follow (plan : BuildPlan Key Value Failure)
  /-- Enter the slot of a key that was asked for. -/
  | enter (key : Key) (inner : BuildPlan Key Value Failure)
      (next : Except Failure Value → BuildPlan Key Value Failure)

/-- A thread that uses a cache. -/
structure CacheThread (Key Value Failure : Type) where
  /-- The builds that it runs, the innermost first. -/
  frames : List (BuildFrame Key Value Failure)
  /-- What it is about to do. -/
  activity : Activity Key Value Failure

namespace CacheThread

variable {Key Value Failure : Type} [DecidableEq Key]

/-- What happens in a turn of the thread, given the builds under way. -/
def event? (thread : CacheThread Key Value Failure) (cache : OnceCache Key Value)
    (running : Key → Option (Nat × Nat)) : Option (CacheEvent Key Value Failure) :=
  match thread.activity with
  | .follow (.ask key _ _) => some (.requested key)
  | .follow (.look key _) => some (.looked key (cache.get? key))
  | .follow (.succeed value) =>
      thread.frames.head?.map fun frame => .succeeded frame.key ⟨frame.build, value⟩
  | .follow (.fail failure) =>
      thread.frames.head?.map fun frame => .failed frame.key frame.build failure
  | .enter key _ _ =>
      match cache.get? key with
      | some built => some (.answered key built)
      | none => if (running key).isSome then none else some (.started key (cache.builds + 1))

/-- How the thread goes on after an event of its own. -/
def after (thread : CacheThread Key Value Failure) (event : CacheEvent Key Value Failure) :
    CacheThread Key Value Failure :=
  match event, thread.activity, thread.frames with
  | .requested _, .follow (.ask key inner next), frames => ⟨frames, .enter key inner next⟩
  | .looked _ found, .follow (.look _ next), frames =>
      ⟨frames, .follow (next (found.map Built.value))⟩
  | .answered _ built, .enter _ _ next, frames => ⟨frames, .follow (next (.ok built.value))⟩
  | .started _ build, .enter key inner next, frames =>
      ⟨⟨key, build, next⟩ :: frames, .follow inner⟩
  | .succeeded _ built, _, frame :: frames => ⟨frames, .follow (frame.next (.ok built.value))⟩
  | .failed _ _ failure, _, frame :: frames => ⟨frames, .follow (frame.next (.error failure))⟩
  | _, _, _ => thread

end CacheThread

/-! ## Turns -/

/-- An event, with the thread that caused it. -/
structure CacheRecord (Key Value Failure : Type) where
  /-- Number of the thread. -/
  thread : Nat
  /-- What happened. -/
  event : CacheEvent Key Value Failure

/-- A cache that threads share. -/
structure SharedCache (Key Value Failure : Type) where
  /-- The cache. -/
  cache : OnceCache Key Value
  /-- The thread and the number of the build under way for a key. -/
  running : Key → Option (Nat × Nat)
  /-- The threads by their numbers. -/
  threads : Nat → CacheThread Key Value Failure
  /-- What has happened, oldest first. -/
  log : List (CacheRecord Key Value Failure)

namespace SharedCache

variable {Key Value Failure : Type} [DecidableEq Key]

/-- Threads about to follow their plans. -/
def start (cache : OnceCache Key Value) (plans : Nat → BuildPlan Key Value Failure) :
    SharedCache Key Value Failure :=
  ⟨cache, fun _ => none, fun thread => ⟨[], .follow (plans thread)⟩, []⟩

/-- The builds under way after an event of a thread. -/
def runningAfter (running : Key → Option (Nat × Nat)) (thread : Nat) :
    CacheEvent Key Value Failure → Key → Option (Nat × Nat)
  | .started key build => fun other => if other = key then some (thread, build) else running other
  | .succeeded key _ => fun other => if other = key then none else running other
  | .failed key _ _ => fun other => if other = key then none else running other
  | .requested _ => running
  | .answered .. => running
  | .looked .. => running

/-- Note an event of a thread, and let the thread go on. -/
def note (shared : SharedCache Key Value Failure) (thread : Nat)
    (event : CacheEvent Key Value Failure) : SharedCache Key Value Failure where
  cache := shared.cache.after event
  running := runningAfter shared.running thread event
  threads other :=
    if other = thread then (shared.threads other).after event else shared.threads other
  log := shared.log ++ [⟨thread, event⟩]

/-- Let a thread take a turn. -/
def turn (shared : SharedCache Key Value Failure) (thread : Nat) :
    SharedCache Key Value Failure :=
  match (shared.threads thread).event? shared.cache shared.running with
  | none => shared
  | some event => shared.note thread event

/-- Let threads take turns. -/
def run (shared : SharedCache Key Value Failure) (turns : List Nat) :
    SharedCache Key Value Failure :=
  turns.foldl turn shared

end SharedCache

/-- The value that an event answers a request with. -/
def CacheEvent.answer? {Key Value Failure : Type} :
    CacheEvent Key Value Failure → Option (Built Value)
  | answered _ built => some built
  | succeeded _ built => some built
  | _ => none

/-- Ask for a key from several threads at once, each with a build that yields a value without
further ado: all of them ask, then one of them builds while the others wait. -/
def OnceCache.askTogether {Key Value : Type} [DecidableEq Key] (cache : OnceCache Key Value)
    (key : Key) (value : Value) (callers : Nat) : List (Built Value) × OnceCache Key Value :=
  let plan : BuildPlan Key Value Value :=
    .ask key (.succeed value) fun
      | .ok value => .succeed value
      | .error failure => .fail failure
  let round := List.range callers
  let shared := (SharedCache.start cache fun _ => plan).run (round ++ round ++ round)
  (shared.log.filterMap fun record => record.event.answer?, shared.cache)

end RpcContracts
