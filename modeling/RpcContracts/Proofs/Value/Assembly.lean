import RpcContracts.Value.Arguments

/-!
# Assembling arguments

Arguments are taken at the declared types one after another. Values of those types are taken without
loss, and a first value of another type is what a call fails with.
-/

namespace RpcContracts

section

variable {ε : Type} {α : Type u} {β : Type v} {first : Except ε α} {function : α → β}

theorem eq_ok_of_map {result : β} (mapped : first.map function = .ok result) :
    ∃ value, first = .ok value ∧ result = function value := by
  cases first with
  | error error => cases mapped
  | ok value =>
      cases mapped
      exact ⟨value, rfl, rfl⟩

theorem eq_error_of_map {error : ε} (mapped : first.map function = .error error) :
    first = .error error := by
  cases first with
  | ok value => cases mapped
  | error found =>
      cases mapped
      rfl

end

theorem Payload.type_eq_plain (data : Payload) : ∃ plain, data.type = .plain plain := by
  cases data <;> exact ⟨_, rfl⟩

/-- A status is no matter of types: where one is read, it is what was there. -/
theorem Outcome.eq_of_downcast_status {type : ValueType} {outcome : Outcome} {status : Status}
    (read : Outcome.downcast type outcome = .error (.status status)) :
    outcome = .error (.status status) := by
  cases outcome with
  | error error =>
      cases read
      rfl
  | ok payload =>
      have recovered : payload.downcast type = .error (.status status) := read
      unfold Payload.downcast at recovered
      split at recovered <;> cases recovered

namespace Value

/-- A value is recovered at its own type, and nothing of it is lost. -/
theorem downcast_of_type {value : Value} {expected : ValueType} (same : value.type = expected) :
    ∃ content, value.downcast expected = .ok content ∧ ofCarrier expected content = value := by
  cases value with
  | payload data =>
      have data_same : data.type = expected := same
      cases expected with
      | plain plain =>
          refine ⟨⟨data, data_same⟩, ?_, rfl⟩
          simp [downcast, Payload.downcast, data_same]
      | wrapped wrapper argument =>
          obtain ⟨plain, data_plain⟩ := data.type_eq_plain
          rw [data_plain] at data_same
          cases data_same
  | wrapped wrapper argument content =>
      obtain rfl : .wrapped wrapper argument = expected := same
      exact ⟨content, by simp [downcast], rfl⟩

theorem downcast_of_type_ne {value : Value} {expected : ValueType} (other : value.type ≠ expected) :
    value.downcast expected = .error (.typeMismatch expected.qualifiedName) := by
  cases value with
  | payload data =>
      cases expected with
      | plain plain =>
          have data_other : data.type ≠ .plain plain := other
          simp [downcast, Payload.downcast, data_other]
      | wrapped wrapper argument => rfl
  | wrapped actual inner content =>
      cases expected with
      | plain plain => rfl
      | wrapped wrapper argument =>
          have parts_other : ¬(actual = wrapper ∧ inner = argument) := by
            rintro ⟨rfl, rfl⟩
            exact other rfl
          simp [downcast, parts_other]

/-- A value that is not recovered has another type; it has not failed with a status. -/
theorem downcast_ne_status {value : Value} {expected : ValueType} {status : Status} :
    value.downcast expected ≠ .error (.status status) := by
  intro failed
  by_cases same : value.type = expected
  · obtain ⟨content, recovered, -⟩ := downcast_of_type same
    cases recovered.symm.trans failed
  · cases (downcast_of_type_ne same).symm.trans failed

end Value

theorem takeAny_ne_status {arguments : List Value} {status : Status} :
    (takeAny arguments).1 ≠ .error (.status status) := by
  intro failed
  cases arguments <;> cases failed

theorem takeTyped_ne_status {expected : ValueType} {arguments : List Value} {status : Status} :
    (takeTyped expected arguments).1 ≠ .error (.status status) := by
  intro failed
  cases arguments with
  | nil => cases failed
  | cons value rest => exact Value.downcast_ne_status failed

namespace Arguments

/-- Values of the declared types are assembled as they are. -/
theorem take_of_types {types : List ValueType} {values : List Value}
    (values_types : values.map Value.type = types) :
    ∃ arguments, take types values = .ok arguments ∧ toList types arguments = values := by
  induction types generalizing values with
  | nil =>
      obtain rfl := List.map_eq_nil_iff.mp values_types
      exact ⟨⟨⟩, rfl, rfl⟩
  | cons type types ih =>
      obtain ⟨value, rest, rfl, value_type, rest_types⟩ := List.map_eq_cons_iff.mp values_types
      obtain ⟨first, first_taken, first_value⟩ := Value.downcast_of_type value_type
      obtain ⟨others, others_taken, others_values⟩ := ih rest_types
      refine ⟨(first, others), ?_, ?_⟩
      · simp [take, takeTyped, takeAny, first_taken, others_taken]
      · simp [toList, first_value, others_values]

theorem take_of_type_ne {value : Value} {type : ValueType} (other : value.type ≠ type)
    (types : List ValueType) (rest : List Value) :
    take (type :: types) (value :: rest) = .error (.typeMismatch type.qualifiedName) := by
  simp [take, takeTyped, takeAny, Value.downcast_of_type_ne other]

end Arguments
end RpcContracts
