import Mathlib.Data.List.Nodup
import RpcContracts.Proofs.Server.Bindings
import RpcContracts.Server.Loopback

/-!
# Routing by full name

A binder keeps the pairs of a service name and an operation name distinct, whereas calls are routed
by the full name, which joins the pair with slashes. Names may contain slashes themselves, so two
pairs can have one full name. This file says exactly when they do, and that routing finds the method
that is meant wherever they do not.
-/

namespace RpcContracts

/-! ## Joined names -/

namespace MethodReference

/-- The pair of names that the full name joins. -/
def names (reference : MethodReference) : String × String :=
  (reference.service, reference.operation)

/-- The service of the second reference goes on past a slash where that of the first ends, and the
operation of the first begins with the rest of it. -/
def Overlaps (first second : MethodReference) : Prop :=
  ∃ middle, second.service = first.service ++ "/" ++ middle ∧
    first.operation = middle ++ "/" ++ second.operation

variable {first second : MethodReference}

theorem fullName_eq_of_names (same : first.names = second.names) :
    first.fullName = second.fullName := by
  obtain ⟨service_eq, operation_eq⟩ := Prod.mk.inj same
  rw [fullName, fullName, service_eq, operation_eq]

theorem Overlaps.fullName_eq (overlaps : first.Overlaps second) :
    first.fullName = second.fullName := by
  obtain ⟨middle, service_eq, operation_eq⟩ := overlaps
  simp only [fullName, service_eq, operation_eq, String.append_assoc]

/-- The longer of the two services cannot be the shorter one. -/
theorem Overlaps.names_ne (overlaps : first.Overlaps second) : first.names ≠ second.names := by
  obtain ⟨middle, service_eq, -⟩ := overlaps
  intro same
  have service_same : first.service = second.service := congrArg Prod.fst same
  have lengths := congrArg String.length (service_same.trans service_eq)
  simp only [String.length_append] at lengths
  have slash_length : "/".length = 1 := rfl
  omega

/-- An operation name without a slash leaves nothing to overlap with. -/
theorem Overlaps.slash_mem (overlaps : first.Overlaps second) : '/' ∈ first.operation.toList := by
  obtain ⟨middle, -, operation_eq⟩ := overlaps
  simp [operation_eq]

/-- Where the service of the first reference begins that of the second, the rest decides. -/
theorem names_or_overlaps {rest : List Char}
    (service_eq : second.service.toList = first.service.toList ++ rest)
    (operation_eq : '/' :: first.operation.toList = rest ++ '/' :: second.operation.toList) :
    first.names = second.names ∨ first.Overlaps second := by
  cases rest with
  | nil =>
      rw [List.append_nil] at service_eq
      obtain ⟨-, operation_same⟩ := List.cons.inj operation_eq
      exact .inl (Prod.ext (String.toList_inj.mp service_eq.symm)
        (String.toList_inj.mp operation_same))
  | cons char middle =>
      obtain ⟨rfl, operation_same⟩ := List.cons.inj operation_eq
      refine .inr ⟨String.ofList middle, ?_, ?_⟩
      · apply String.toList_inj.mp
        simpa using service_eq
      · apply String.toList_inj.mp
        simpa using operation_same

/-- Two references have the same full name exactly if their names are the same or overlap. -/
theorem fullName_eq_iff :
    first.fullName = second.fullName ↔
      first.names = second.names ∨ first.Overlaps second ∨ second.Overlaps first := by
  constructor
  · intro same
    have joined := congrArg String.toList same
    simp only [fullName, String.toList_append, List.append_assoc] at joined
    obtain ⟨rest, service_eq, operation_eq⟩ | ⟨rest, service_eq, operation_eq⟩ :=
      List.append_eq_append_iff.mp (List.append_cancel_left joined)
    · exact (names_or_overlaps service_eq operation_eq).imp_right .inl
    · exact (names_or_overlaps service_eq operation_eq).imp Eq.symm .inr
  · rintro (same | overlaps | overlaps)
    · exact fullName_eq_of_names same
    · exact overlaps.fullName_eq
    · exact overlaps.fullName_eq.symm

end MethodReference

/-! ## Bound methods -/

namespace Binding

/-- The names of the bound methods. -/
def names (binding : Binding) : List (String × String) :=
  binding.methods.map fun bound => bound.wire.reference.names

/-- The full names of the bound methods. -/
def fullNames (binding : Binding) : List String :=
  binding.methods.map fun bound => bound.wire.reference.fullName

/-- No two bound methods have names that overlap. -/
def Unambiguous (binding : Binding) : Prop :=
  ∀ first ∈ binding.methods, ∀ second ∈ binding.methods,
    ¬first.wire.reference.Overlaps second.wire.reference

variable {service : HostedService} {cache : MarshallerCache} {binding : Binding}

theorem names_nodup (built : (build service cache).value.1 = .ok binding) :
    binding.names.Nodup := by
  obtain empty | ⟨methods_bind, keys_nodup⟩ := of_build built
  · rw [names, empty]
    exact List.nodup_nil
  · have names_eq : ((DeclaredOperation.bindable cache service.declared).map Prod.fst).map
        DeclaredOperation.key = binding.names := by
      rw [List.map_map, names, ← List.forall₂_eq_eq_eq, List.forall₂_map_left_iff,
        List.forall₂_map_right_iff]
      refine methods_bind.imp fun turn bound binds => ?_
      rw [binds.reference_eq]
      rfl
    rw [← names_eq]
    exact keys_nodup.sublist ((DeclaredOperation.map_fst_bindable_sublist ..).map _)

/-- A bound method is known by its names. -/
theorem eq_of_names (distinct : binding.names.Nodup) {first second : BoundMethod}
    (first_mem : first ∈ binding.methods) (second_mem : second ∈ binding.methods)
    (same : first.wire.reference.names = second.wire.reference.names) : first = second :=
  List.inj_on_of_nodup_map distinct first_mem second_mem same

theorem fullNames_nodup_iff (distinct : binding.names.Nodup) :
    binding.fullNames.Nodup ↔ binding.Unambiguous := by
  constructor
  · intro fullNames_nodup first first_mem second second_mem overlaps
    have same := List.inj_on_of_nodup_map fullNames_nodup first_mem second_mem overlaps.fullName_eq
    exact overlaps.names_ne (congrArg (fun bound => bound.wire.reference.names) same)
  · intro unambiguous
    rw [fullNames, List.nodup_iff_pairwise_ne, List.pairwise_map]
    rw [names, List.nodup_iff_pairwise_ne, List.pairwise_map] at distinct
    refine distinct.imp_of_mem ?_
    intro first second first_mem second_mem different same
    obtain same_names | overlaps | overlaps := MethodReference.fullName_eq_iff.mp same
    · exact different same_names
    · exact unambiguous first first_mem second second_mem overlaps
    · exact unambiguous second second_mem first first_mem overlaps

/-- The names of the bound methods are distinct, and their full names are distinct exactly if no two
of them overlap, for which it is enough that no operation name contains a slash. A method that
overlaps with no other is what its full name finds, and what a transport reaches by its routing key
unless another full name has the same key. -/
theorem names_route (built : (build service cache).value.1 = .ok binding) :
    binding.names.Nodup ∧ (binding.fullNames.Nodup ↔ binding.Unambiguous) ∧
    ((∀ bound ∈ binding.methods, '/' ∉ bound.wire.reference.operation.toList) →
      binding.Unambiguous) ∧
    ∀ bound ∈ binding.methods,
      (∀ other ∈ binding.methods, ¬bound.wire.reference.Overlaps other.wire.reference ∧
        ¬other.wire.reference.Overlaps bound.wire.reference) →
      ∀ meant : WireMethod, meant.reference.names = bound.wire.reference.names →
        binding.method? meant.reference.fullName = some bound ∧
        ((∀ other ∈ binding.methods,
            other.wire.reference.methodId = bound.wire.reference.methodId →
              other.wire.reference.fullName = bound.wire.reference.fullName) →
          ∀ channel surplus,
            Loopback.route ⟨binding.methods, channel, surplus⟩ meant = .ok bound) := by
  have distinct := names_nodup built
  refine ⟨distinct, fullNames_nodup_iff distinct, ?_, ?_⟩
  · intro slashless first first_mem second _ overlaps
    exact slashless first first_mem overlaps.slash_mem
  · intro bound bound_mem apart meant meant_names
    have meant_eq := MethodReference.fullName_eq_of_names meant_names
    have alone : ∀ other ∈ binding.methods,
        other.wire.reference.fullName = bound.wire.reference.fullName → other = bound := by
      intro other other_mem same
      obtain same_names | overlaps | overlaps := MethodReference.fullName_eq_iff.mp same
      · exact eq_of_names distinct other_mem bound_mem same_names
      · exact absurd overlaps (apart other other_mem).2
      · exact absurd overlaps (apart other other_mem).1
    refine ⟨find?_of_keys _ bound_mem alone meant_eq, fun keys_apart channel surplus => ?_⟩
    have found := find?_of_keys (fun other : BoundMethod => other.wire.reference.methodId) bound_mem
      (fun other other_mem same => alone other other_mem (keys_apart other other_mem same))
      (congrArg Hash.Xxh3.hashText meant_eq)
    unfold Loopback.route
    simp only [MethodReference.methodId] at found ⊢
    simp only [found]

end Binding

namespace Sample

/-- Both methods of the sample greeter are found by their full names and by their routing keys. -/
theorem greeterService_routes :
    ∃ binding, (Binding.build greeterService .empty).value.1 = .ok binding ∧
      binding.size = 2 ∧ binding.Unambiguous ∧
      ∀ bound ∈ binding.methods,
        binding.method? bound.wire.reference.fullName = some bound ∧
          ∀ channel surplus,
            Loopback.route ⟨binding.methods, channel, surplus⟩ bound.wire = .ok bound := by
  let once : MethodReference := ⟨"Greet.Greeter", "SayHello", .unary, "say_hello"⟩
  let often : MethodReference := ⟨"Greet.Greeter", "SayHellos", .serverStreaming, "say_hellos"⟩
  obtain ⟨binding, built, size_eq, references⟩ :
      ∃ binding, (Binding.build greeterService .empty).value.1 = .ok binding ∧ binding.size = 2 ∧
        binding.methods.map (fun bound => bound.wire.reference) = [once, often] :=
    ⟨_, rfl, rfl, rfl⟩
  have known : ∀ bound ∈ binding.methods,
      bound.wire.reference = once ∨ bound.wire.reference = often := by
    intro bound bound_mem
    have reference_mem : bound.wire.reference ∈ [once, often] :=
      references ▸ List.mem_map.mpr ⟨bound, bound_mem, rfl⟩
    simpa using reference_mem
  have keys_differ : once.methodId ≠ often.methodId := by decide +kernel
  obtain ⟨-, -, of_slashless, routes⟩ := Binding.names_route built
  have unambiguous : binding.Unambiguous := by
    apply of_slashless
    intro bound bound_mem
    obtain reference_eq | reference_eq := known bound bound_mem
    · rw [reference_eq]
      decide
    · rw [reference_eq]
      decide
  refine ⟨binding, built, size_eq, unambiguous, fun bound bound_mem => ?_⟩
  have apart : ∀ other ∈ binding.methods,
      ¬bound.wire.reference.Overlaps other.wire.reference ∧
        ¬other.wire.reference.Overlaps bound.wire.reference := fun other other_mem =>
    ⟨unambiguous bound bound_mem other other_mem, unambiguous other other_mem bound bound_mem⟩
  obtain ⟨found, reached⟩ := routes bound bound_mem apart bound.wire rfl
  refine ⟨found, reached fun other other_mem same_key => ?_⟩
  obtain bound_eq | bound_eq := known bound bound_mem
  · obtain other_eq | other_eq := known other other_mem
    · rw [bound_eq, other_eq]
    · rw [bound_eq, other_eq] at same_key
      exact absurd same_key.symm keys_differ
  · obtain other_eq | other_eq := known other other_mem
    · rw [bound_eq, other_eq] at same_key
      exact absurd same_key keys_differ
    · rw [bound_eq, other_eq]

/-- A function that answers a ping. -/
def pongTask : ServiceFunction where
  params := [ping]
  returns := .wrapped .task pong
  run := fun (request, _) => Future.ready (.ok (answerTo request.down))

/-- A service type whose own operation and that of its contract have one full name. -/
def slashedService : HostedService where
  own :=
    ((Implementation.ofClass "app::Service").annotate (.serviceContract (some "a"))).namedOperation
      "first" "b/c" pongTask
  implemented :=
    [(Implementation.ofContract (interface "app::Other" "a/b" [])).namedOperation "second" "c"
      pongTask]

/-- Both operations of the service with slashes are bound, under one full name, and a search for it
finds the first of them also where the second is meant. -/
theorem slashedService_ambiguous :
    ∃ binding, (Binding.build slashedService .empty).value.1 = .ok binding ∧
      ¬binding.fullNames.Nodup ∧
      ∃ bound ∈ binding.methods,
        binding.method? bound.wire.reference.fullName ≠ some bound := by
  obtain ⟨binding, first, second, built, methods_eq, fullNames_eq, found, methods_ne⟩ :
      ∃ (binding : Binding) (first second : BoundMethod),
        (Binding.build slashedService .empty).value.1 = .ok binding ∧
          binding.methods = [first, second] ∧ binding.fullNames = ["/a/b/c", "/a/b/c"] ∧
          binding.method? second.wire.reference.fullName = some first ∧
          first.wire.reference.method ≠ second.wire.reference.method :=
    ⟨_, _, _, rfl, rfl, rfl, rfl, by decide⟩
  refine ⟨binding, built, ?_, second, ?_, ?_⟩
  · rw [fullNames_eq]
    decide
  · rw [methods_eq]
    exact List.mem_cons_of_mem _ List.mem_cons_self
  · rw [found]
    rintro ⟨⟩
    exact methods_ne rfl

end Sample

end RpcContracts
