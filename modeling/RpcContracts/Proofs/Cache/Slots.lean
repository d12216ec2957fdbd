import RpcContracts.Cache.Once

/-!
# Slots of a cache

Two steps change a cache: a build starts, which may add an empty slot for its key, and a slot is
filled. This file says what each of them does to the stored values and to the keys that have slots.
-/

namespace RpcContracts

/-- Find the first value of a key after all values of that key were replaced. -/
theorem lookup_map_replace {α : Type u} {β : Type v} [DecidableEq α] (entries : List (α × β))
    (key : α) (value : β) (sought : α) :
    (entries.map fun entry => if entry.1 = key then (key, value) else entry).lookup sought =
      if sought = key then (entries.lookup key).map fun _ => value else entries.lookup sought := by
  induction entries with
  | nil => simp
  | cons entry rest ih =>
      obtain ⟨first, stored⟩ := entry
      rw [List.map_cons]
      by_cases here : first = key
      · subst here
        by_cases same : sought = first
        · simp [same]
        · simp only [if_true, List.lookup_cons, beq_false_of_ne same, ih, if_neg same]
      · by_cases same : sought = first
        · subst same
          simp [here]
        · simp only [if_neg here, List.lookup_cons, beq_false_of_ne same, ih,
            beq_false_of_ne (Ne.symm here)]

namespace OnceCache

variable {Key : Type} {Value : Type u} [DecidableEq Key]

/-- The keys that have slots, in the order in which they were first asked for. -/
def keys (cache : OnceCache Key Value) : List Key := cache.slots.map Prod.fst

variable {cache : OnceCache Key Value} {key : Key}

omit [DecidableEq Key] in
theorem length_keys (cache : OnceCache Key Value) : cache.keys.length = cache.size :=
  List.length_map ..

theorem lookup_eq_none_iff : cache.slots.lookup key = none ↔ key ∉ cache.keys := by
  rw [List.lookup_eq_none_iff, keys, List.mem_map]
  constructor
  · rintro different ⟨slot, slot_mem, rfl⟩
    simpa using different slot slot_mem
  · intro absent slot slot_mem
    exact bne_iff_ne.mpr fun same => absent ⟨slot, slot_mem, same.symm⟩

theorem get?_of_notMem (absent : key ∉ cache.keys) : cache.get? key = none := by
  rw [get?, lookup_eq_none_iff.mpr absent]
  rfl

theorem get?_empty (key : Key) : (empty : OnceCache Key Value).get? key = none := rfl

theorem mem_keys_of_get? {built : Built Value} (stored : cache.get? key = some built) :
    key ∈ cache.keys := by
  by_cases known : key ∈ cache.keys
  · exact known
  · cases (get?_of_notMem known).symm.trans stored

theorem request_of_mem (known : key ∈ cache.keys) : cache.request key = cache := by
  have found := Option.isSome_iff_ne_none.mpr (mt lookup_eq_none_iff.mp (not_not_intro known))
  simp only [request, found, if_true]

theorem keys_request_of_mem (known : key ∈ cache.keys) :
    (cache.request key).keys = cache.keys := by
  rw [request_of_mem known]

theorem keys_request_of_notMem (unknown : key ∉ cache.keys) :
    (cache.request key).keys = cache.keys ++ [key] := by
  simp [request, keys, lookup_eq_none_iff.mpr unknown]

theorem mem_keys_request_iff {sought : Key} :
    sought ∈ (cache.request key).keys ↔ sought ∈ cache.keys ∨ sought = key := by
  by_cases known : key ∈ cache.keys
  · rw [keys_request_of_mem known]
    constructor
    · exact .inl
    · rintro (there | rfl)
      · exact there
      · exact known
  · rw [keys_request_of_notMem known, List.mem_append, List.mem_singleton]

theorem mem_keys_request (cache : OnceCache Key Value) (key : Key) :
    key ∈ (cache.request key).keys :=
  mem_keys_request_iff.mpr (.inr rfl)

theorem nodup_keys_request (distinct : cache.keys.Nodup) : (cache.request key).keys.Nodup := by
  by_cases known : key ∈ cache.keys
  · rwa [keys_request_of_mem known]
  · rw [keys_request_of_notMem known, List.nodup_append]
    refine ⟨distinct, by simp, ?_⟩
    intro first first_mem second second_mem same
    obtain rfl := List.mem_singleton.mp second_mem
    exact known (same ▸ first_mem)

/-- A build makes sure that its key has a slot, whether or not the key was asked for before. -/
theorem start_request (cache : OnceCache Key Value) (key : Key) :
    (cache.request key).start key = cache.start key := by
  rw [start, request_of_mem (cache.mem_keys_request key)]
  rfl

theorem mem_keys_start (cache : OnceCache Key Value) (key : Key) :
    key ∈ (cache.start key).keys :=
  cache.mem_keys_request key

@[simp]
theorem get?_request (cache : OnceCache Key Value) (key sought : Key) :
    (cache.request key).get? sought = cache.get? sought := by
  unfold get? request
  by_cases known : (cache.slots.lookup key).isSome = true
  · simp only [if_pos known]
  · simp only [if_neg known, List.lookup_append]
    by_cases same : sought = key
    · subst same
      simp [Option.not_isSome_iff_eq_none.mp known]
    · simp [List.lookup_cons, beq_false_of_ne same]

@[simp]
theorem get?_start (cache : OnceCache Key Value) (key sought : Key) :
    (cache.start key).get? sought = cache.get? sought :=
  cache.get?_request key sought

@[simp]
theorem keys_fill (cache : OnceCache Key Value) (key : Key) (built : Built Value) :
    (cache.fill key built).keys = cache.keys := by
  rw [keys, fill, List.map_map, keys]
  refine List.map_congr_left fun slot _ => ?_
  by_cases here : slot.1 = key
  · simp [here]
  · simp [here]

theorem get?_fill_self (known : key ∈ cache.keys) (built : Built Value) :
    (cache.fill key built).get? key = some built := by
  rw [get?, fill, lookup_map_replace, if_pos rfl]
  obtain ⟨slot, slot_eq⟩ := Option.ne_none_iff_exists'.mp
    (mt lookup_eq_none_iff.mp (not_not_intro known))
  rw [slot_eq]
  rfl

theorem get?_fill_of_ne {sought : Key} (other : sought ≠ key) (built : Built Value) :
    (cache.fill key built).get? sought = cache.get? sought := by
  rw [get?, fill, lookup_map_replace, if_neg other, get?]

/-! ## Asking for a key -/

variable {ε : Type v} {build : OnceCache Key Value → Except ε Value × OnceCache Key Value}
  {after : OnceCache Key Value}

theorem getOrBuild_of_stored {built : Built Value} (stored : cache.get? key = some built) :
    cache.getOrBuild key build = (.ok built, cache) := by
  rw [getOrBuild, stored]

theorem getOrBuild_of_failed {error : ε} (missing : cache.get? key = none)
    (failed : build (cache.start key) = (.error error, after)) :
    cache.getOrBuild key build = (.error error, after) := by
  simp only [getOrBuild, missing, failed]

theorem getOrBuild_of_built {value : Value} (missing : cache.get? key = none)
    (succeeded : build (cache.start key) = (.ok value, after)) :
    cache.getOrBuild key build =
      (.ok ⟨cache.builds + 1, value⟩, after.fill key ⟨cache.builds + 1, value⟩) := by
  simp only [getOrBuild, missing, succeeded]
  rfl

end OnceCache
end RpcContracts
