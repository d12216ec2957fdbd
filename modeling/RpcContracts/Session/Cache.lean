import RpcContracts.Cache.Threads
import RpcContracts.Session.Answer

/-!
# Sessions on a cache of values built once

Values are asked for, with plans that may ask for further values; the answers tell whether a key
always gives the same value.
-/

namespace RpcContracts

/-- A step on a cache. -/
inductive CacheStep (Key Value : Type) where
  /-- Ask for a key. -/
  | insert (key : Key) (plan : BuildPlan Key Value Value)
  /-- Look a key up without building it. -/
  | get (key : Key)
  /-- Ask for a key from several callers at once. -/
  | concurrent (key : Key) (callers : Nat) (value : Value)

/-- What a step on a cache answers. -/
inductive CacheAnswer (Value : Type) where
  /-- A value, and whether it is the one that the key gave first. -/
  | built (value : Value) (same : Bool)
  | failed (failure : Value)
  | found (value : Option Value)
  /-- How many callers got a value, and whether they all got the first. -/
  | shared (callers : Nat) (same : Bool)

/-- A cache in use, with the first build seen for each key. -/
structure CacheSession (Key Value : Type) where
  /-- The cache. -/
  cache : OnceCache Key Value
  /-- The first build seen for each key. -/
  firsts : List (Key × Nat)

namespace CacheSession

variable {Key Value : Type} [DecidableEq Key]

/-- Note builds seen for a key, and tell whether they are all the first. -/
def note (session : CacheSession Key Value) (key : Key) (seen : List (Built Value))
    (cache : OnceCache Key Value) : Bool × CacheSession Key Value :=
  let firsts := session.firsts ++ seen.map fun built => (key, built.build)
  (seen.all fun built => firsts.lookup key == some built.build, ⟨cache, firsts⟩)

/-- Take a step. -/
def answer (session : CacheSession Key Value) :
    CacheStep Key Value → CacheAnswer Value × CacheSession Key Value
  | .get key =>
      (.found ((session.cache.get? key).map Built.value), session)
  | .insert key plan =>
      match session.cache.getOrBuild key plan.run with
      | (.error failure, cache) => (.failed failure, { session with cache := cache })
      | (.ok built, cache) =>
          match session.note key [built] cache with
          | (same, session) => (.built built.value same, session)
  | .concurrent key callers value =>
      match session.cache.askTogether key value callers with
      | (found, cache) =>
          match session.note key found cache with
          | (same, session) => (.shared found.length same, session)

/-- Take a step, and tell the number of keys and of builds after it. -/
def counted (session : CacheSession Key Value) (step : CacheStep Key Value) :
    (CacheAnswer Value × Nat × Nat) × CacheSession Key Value :=
  match session.answer step with
  | (answer, session) => ((answer, session.cache.size, session.cache.builds), session)

/-- The answers of steps on a new cache. -/
def run (steps : List (CacheStep Key Value)) : List (CacheAnswer Value × Nat × Nat) :=
  runSteps counted ⟨.empty, []⟩ steps

end CacheSession
end RpcContracts
