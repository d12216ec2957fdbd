import RpcContracts.Cache.Once

/-!
# Builds that ask their own cache

A plan describes a build that may, before it decides, ask the cache it runs on for the values of
other keys, each with a plan of its own.
-/

namespace RpcContracts

/-- A build, as a tree of requests to its cache. -/
inductive BuildPlan (Key Value Failure : Type) where
  /-- The build yields a value. -/
  | succeed (value : Value)
  /-- The build fails. -/
  | fail (failure : Failure)
  /-- The build asks for another key and goes on with the answer. -/
  | ask (key : Key) (inner : BuildPlan Key Value Failure)
      (next : Except Failure Value → BuildPlan Key Value Failure)
  /-- The build looks another key up, without having it built, and goes on with what is there. -/
  | look (key : Key) (next : Option Value → BuildPlan Key Value Failure)

namespace BuildPlan

variable {Key Value Failure : Type} [DecidableEq Key]

/-- Run a build on a cache. -/
def run : BuildPlan Key Value Failure → OnceCache Key Value →
    Except Failure Value × OnceCache Key Value
  | succeed value, cache => (.ok value, cache)
  | fail failure, cache => (.error failure, cache)
  | ask key inner next, cache =>
      match cache.getOrBuild key (run inner) with
      | (.ok built, cache) => run (next (.ok built.value)) cache
      | (.error failure, cache) => run (next (.error failure)) cache
  | look key next, cache => run (next ((cache.get? key).map Built.value)) cache

end BuildPlan

end RpcContracts
