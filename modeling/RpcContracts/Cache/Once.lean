/-!
# Caches of values built once

A cache keeps, for every key ever asked for, a slot that holds the value once a build succeeded. A
build runs only while its slot is empty; it may ask the same cache for other keys, so it takes the
cache and gives it back.
-/

namespace RpcContracts

/-- A stored value and the ordinal number of the build that made it, which identifies it. -/
structure Built (Value : Type u) where
  /-- Number of the build. -/
  build : Nat
  /-- The value. -/
  value : Value

/-- Values built at most once for each key. -/
structure OnceCache (Key : Type) (Value : Type u) where
  /-- One slot for each key ever asked for. -/
  slots : List (Key × Option (Built Value))
  /-- Number of builds started. -/
  builds : Nat

namespace OnceCache

/-- No slots and no builds. -/
def empty {Key : Type} {Value : Type u} : OnceCache Key Value := ⟨[], 0⟩

variable {Key : Type} {Value : Type u} [DecidableEq Key]

/-- Number of keys ever asked for. -/
def size (cache : OnceCache Key Value) : Nat := cache.slots.length

/-- The stored value of a key. -/
def get? (cache : OnceCache Key Value) (key : Key) : Option (Built Value) :=
  (cache.slots.lookup key).join

/-- Make sure that a key has a slot. -/
def request (cache : OnceCache Key Value) (key : Key) : OnceCache Key Value where
  slots :=
    if (cache.slots.lookup key).isSome then cache.slots else cache.slots ++ [(key, none)]
  builds := cache.builds

/-- Make sure that a key has a slot, and count the build that is about to start. -/
def start (cache : OnceCache Key Value) (key : Key) : OnceCache Key Value where
  slots := (cache.request key).slots
  builds := cache.builds + 1

/-- Fill the slot of a key. -/
def fill (cache : OnceCache Key Value) (key : Key) (built : Built Value) : OnceCache Key Value where
  slots := cache.slots.map fun slot => if slot.1 = key then (key, some built) else slot
  builds := cache.builds

/-- The stored value of a key. If there is none, a build runs on the cache; its value is stored, or
its error is passed on. -/
def getOrBuild {ε : Type v} (cache : OnceCache Key Value) (key : Key)
    (build : OnceCache Key Value → Except ε Value × OnceCache Key Value) :
    Except ε (Built Value) × OnceCache Key Value :=
  match cache.get? key with
  | some built => (.ok built, cache)
  | none =>
      let started := cache.start key
      match build started with
      | (.error error, after) => (.error error, after)
      | (.ok value, after) =>
          let built : Built Value := ⟨started.builds, value⟩
          (.ok built, after.fill key built)

end OnceCache
end RpcContracts
