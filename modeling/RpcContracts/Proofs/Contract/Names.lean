import Mathlib.Data.List.DropRight
import RpcContracts.Contract.Name

/-!
# Names that are given and names that are derived

A name that an annotation gives is used as it stands, unless it is blank. Any other name is derived,
and deriving it never leaves nothing of what was there: a service is unnamed only if its type name
is blank, and an operation only if its method name has no words. Words are what lies between the
underscores.
-/

namespace RpcContracts

/-! ## Names that are given -/

namespace Annotation

/-- The name that a service tag gives, blank or not. -/
def serviceTag? : Annotation → Option String
  | serviceContract name => name
  | _ => none

/-- The name that an operation tag gives, blank or not. -/
def operationTag? : Annotation → Option String
  | operationContract name => name
  | _ => none

theorem serviceName?_eq (marker : Annotation) :
    marker.serviceName? = marker.serviceTag?.bind Text.nonBlank? := by
  rcases marker with (_ | name) | _ | _ | _ <;> rfl

theorem operationName?_eq (marker : Annotation) :
    marker.operationName? = marker.operationTag?.bind Text.nonBlank? := by
  rcases marker with _ | (_ | name) | _ | _ <;> rfl

end Annotation

/-- The service names that the annotations of a contract give, in order. -/
def Contract.givenNames (contract : Contract) : List String :=
  contract.annotations.filterMap Annotation.serviceTag?

/-- The operation names that the annotations of a method give, in order. -/
def Signature.givenNames (signature : Signature) : List String :=
  signature.annotations.filterMap Annotation.operationTag?

/-- A name that is not blank, with only blank ones before it. -/
def FirstNonBlank (names : List String) (name : String) : Prop :=
  ∃ front back, names = front ++ name :: back ∧ Text.isBlank name = false ∧
    ∀ earlier ∈ front, Text.isBlank earlier = true

def AllBlank (names : List String) : Prop := ∀ name ∈ names, Text.isBlank name = true

/-- The first name that is found among annotations is the first one given that is not blank. -/
theorem findSome?_annotations {found? tag? : Annotation → Option String}
    (found_eq : ∀ annotation, found? annotation = (tag? annotation).bind Text.nonBlank?)
    (annotations : List Annotation) :
    annotations.findSome? found? = (annotations.filterMap tag?).findSome? Text.nonBlank? := by
  rw [funext found_eq, ← List.head?_filterMap, ← List.head?_filterMap, List.filterMap_filterMap]

theorem Text.findSome?_of_allBlank {names : List String} (blank : AllBlank names) :
    names.findSome? nonBlank? = none := by
  rw [List.findSome?_eq_none_iff]
  intro name mem
  rw [nonBlank?, if_pos (blank name mem)]

theorem Text.findSome?_of_firstNonBlank {names : List String} {name : String}
    (first : FirstNonBlank names name) : names.findSome? nonBlank? = some name := by
  obtain ⟨front, back, rfl, notBlank, blank⟩ := first
  rw [List.findSome?_append, findSome?_of_allBlank blank]
  simp [nonBlank?, notBlank]

/-! ## Names of services -/

theorem Text.trimChars_eq_nil_iff (chars : List Char) :
    trimChars chars = [] ↔ ∀ char ∈ chars, isWhiteSpace char = true := by
  rw [trimChars, ← List.rdropWhile, List.rdropWhile_eq_nil_iff]
  constructor
  · intro blank
    cases left : chars.dropWhile isWhiteSpace with
    | nil => exact List.dropWhile_eq_nil_iff.mp left
    | cons char rest =>
        have notBlank := List.head?_dropWhile_not isWhiteSpace chars
        rw [left] at blank notBlank
        exact absurd (blank char List.mem_cons_self) (by simpa using notBlank)
  · intro blank
    rw [List.dropWhile_eq_nil_iff.mpr blank]
    exact List.forall_mem_nil _

/-- Trimmed text that is not empty ends in a character that is no white space. -/
theorem Text.trimChars_getLast {chars : List Char} {last : Char}
    (last_eq : (trimChars chars).getLast? = some last) : isWhiteSpace last = false := by
  have nonempty : trimChars chars ≠ [] := by
    intro trimmed
    simp [trimmed] at last_eq
  rw [List.getLast?_eq_some_getLast nonempty] at last_eq
  rw [← Option.some.inj last_eq, Bool.eq_false_iff]
  exact List.rdropWhile_last_not isWhiteSpace _ nonempty

/-- The markers of dynamic dispatch end in a blank, so a name that does not keeps its end. -/
theorem getLast?_withoutDynamic {name : List Char} (unspaced : name.getLast? ≠ some ' ') :
    (withoutDynamic name).getLast? = name.getLast? := by
  fun_induction withoutDynamic name with
  | case1 rest ih =>
      cases rest with
      | nil => exact absurd rfl unspaced
      | cons char rest =>
          simp only [List.getLast?_cons_cons] at unspaced ⊢
          exact ih unspaced
  | case2 => rfl

theorem colon_of_dotted {name rest : List Char} (dotted_eq : dotted name = ':' :: rest) :
    ∃ more, name = ':' :: more := by
  fun_cases dotted name with
  | case1 => simp [dotted] at dotted_eq
  | case2 char more apart =>
      rw [dotted.eq_2 _ _ apart] at dotted_eq
      exact ⟨more, by rw [(List.cons.inj dotted_eq).1]⟩
  | case3 => simp [dotted] at dotted_eq

/-- No double colon is left, however many colons stand together. -/
theorem not_colons_dotted (name : List Char) : ¬[':', ':'] <:+: dotted name := by
  fun_induction dotted name with
  | case1 rest ih => simpa [List.infix_cons_iff] using ih
  | case2 char rest apart ih =>
      intro colons
      obtain front | inner := List.infix_cons_iff.mp colons
      · obtain ⟨rfl, more, dotted_eq⟩ := List.cons_prefix_cons.mp front
        obtain ⟨left, rfl⟩ := colon_of_dotted dotted_eq.symm
        exact apart left rfl rfl
      · exact ih inner
  | case3 => simp

/-- A character that is no white space is kept, or it was a colon and a dot stands for it. -/
theorem exists_dotted {name : List Char} {char : Char} (mem : char ∈ name)
    (visible : Text.isWhiteSpace char = false) :
    ∃ kept ∈ dotted name, Text.isWhiteSpace kept = false := by
  fun_induction dotted name with
  | case1 => exact ⟨'.', List.mem_cons_self, rfl⟩
  | case2 first rest _ ih =>
      obtain rfl | later := List.mem_cons.mp mem
      · exact ⟨char, List.mem_cons_self, visible⟩
      · obtain ⟨kept, kept_mem, kept_visible⟩ := ih later
        exact ⟨kept, List.mem_cons_of_mem _ kept_mem, kept_visible⟩
  | case3 => exact absurd mem List.not_mem_nil

/-- What is derived from a type name: nothing from a blank one, and else a name with dots. -/
theorem derivedServiceName?_cases (typeName : String) :
    (Text.isBlank typeName = true ∧ derivedServiceName? typeName = none) ∨
      Text.isBlank typeName = false ∧ ∃ name, derivedServiceName? typeName = some name ∧
        Text.isBlank name = false ∧ ¬[':', ':'] <:+: name.toList := by
  cases last_eq : (Text.trimChars typeName.toList).getLast? with
  | none =>
      have trimmed := List.getLast?_eq_none_iff.mp last_eq
      refine .inl ⟨?_, by simp [derivedServiceName?, trimmed, withoutDynamic]⟩
      simpa [Text.isBlank] using (Text.trimChars_eq_nil_iff _).mp trimmed
  | some last =>
      have visible := Text.trimChars_getLast last_eq
      have unspaced : (Text.trimChars typeName.toList).getLast? ≠ some ' ' := by
        intro spaced
        cases last_eq.symm.trans spaced
        cases visible
      have kept : last ∈ withoutDynamic (Text.trimChars typeName.toList) := by
        rw [← getLast?_withoutDynamic unspaced] at last_eq
        exact List.mem_of_getLast? last_eq
      refine .inr ⟨?_, ?_⟩
      · rw [Bool.eq_false_iff, Text.isBlank, Ne, List.all_eq_true, ← Text.trimChars_eq_nil_iff]
        intro trimmed
        simp [trimmed] at last_eq
      · unfold derivedServiceName?
        cases name_eq : withoutDynamic (Text.trimChars typeName.toList) with
        | nil => simp [name_eq] at kept
        | cons first rest =>
            obtain ⟨char, mem, char_visible⟩ := exists_dotted (name_eq ▸ kept) visible
            refine ⟨_, rfl, ?_, ?_⟩
            · rw [Text.isBlank, String.toList_ofList]
              exact List.all_eq_false.mpr ⟨char, mem, by simp [char_visible]⟩
            · rw [String.toList_ofList]
              exact not_colons_dotted _

/-! ## Names of operations -/

/-- The words of a name: what lies between its underscores, where something does. -/
def words (name : List Char) : List (List Char) :=
  (name.splitOn '_').filter fun word => !word.isEmpty

theorem segments_eq_splitOn (name : List Char) : segments name = name.splitOn '_' := by
  induction name with
  | nil => rfl
  | cons char rest ih =>
      rw [segments, ih, List.splitOn, List.splitOn, List.splitOnP_cons_eq_if_modifyHead]
      by_cases underscore : char = '_'
      · simp [underscore]
      · rw [if_neg underscore, if_neg (by simpa using underscore)]
        cases split : rest.splitOnP (· == '_') with
        | nil => exact absurd split (List.splitOnP_ne_nil _ _)
        | cons => rfl

theorem joinedWords_eq (name : List Char) :
    joinedWords name = (words name).flatMap capitalized := by
  rw [joinedWords, segments_eq_splitOn, words]

theorem words_append_underscore (front back : List Char) :
    words (front ++ '_' :: back) = words front ++ words back := by
  rw [words, List.splitOn, List.splitOnP_append_cons _ _ (by rfl), List.filter_append]
  rfl

theorem words_underscore (rest : List Char) : words ('_' :: rest) = words rest :=
  words_append_underscore [] rest

theorem words_eq_nil_iff (name : List Char) : words name = [] ↔ ∀ char ∈ name, char = '_' := by
  induction name with
  | nil => exact iff_of_true rfl (List.forall_mem_nil _)
  | cons char rest ih =>
      by_cases underscore : char = '_'
      · rw [underscore, words_underscore, ih]
        simp
      · refine iff_of_false ?_ fun all => underscore (all char List.mem_cons_self)
        rw [words, List.splitOn, List.splitOnP_cons_eq_if_modifyHead,
          if_neg (by simpa using underscore)]
        cases split : rest.splitOnP (· == '_') with
        | nil => exact absurd split (List.splitOnP_ne_nil _ _)
        | cons => simp

/-- The capitalised words of a name are empty only if it has none. -/
theorem flatMap_capitalized_eq_nil_iff (name : List Char) :
    (words name).flatMap capitalized = [] ↔ words name = [] := by
  refine ⟨fun joined => List.eq_nil_iff_forall_not_mem.mpr fun word mem => ?_, ?_⟩
  · have nothing := List.flatMap_eq_nil_iff.mp joined word mem
    have filled := (List.mem_filter.mp mem).2
    cases word with
    | nil => cases filled
    | cons char rest => simp [capitalized, Text.uppercase_ne_nil] at nothing
  · intro none
    rw [none]
    rfl

/-- A name whose ending is taken off once, unless nothing would be left. -/
inductive Stripped (full : List Char) : List Char → Prop where
  | once {stem : List Char} : stem ≠ [] → full = stem ++ asyncEnding → Stripped full stem
  | kept : (∀ stem, full = stem ++ asyncEnding → stem = []) → Stripped full full

theorem stripped_withoutAsync (full : List Char) : Stripped full (withoutAsync full) := by
  fun_cases withoutAsync full with
  | case1 stem isEmpty =>
      refine .kept fun other full_eq => ?_
      have other_eq : stem = other := by simp [stem, full_eq]
      rw [← other_eq]
      exact List.isEmpty_iff.mp isEmpty
  | case2 stem filled full_eq =>
      exact .once (fun stem_eq => filled (by rw [stem_eq]; rfl)) full_eq.symm
  | case3 stem filled apart =>
      refine .kept fun other full_eq => absurd ?_ apart
      have other_eq : stem = other := by simp [stem, full_eq]
      rw [other_eq, full_eq]

theorem Stripped.eq_nil_iff {full name : List Char} (stripped : Stripped full name) :
    name = [] ↔ full = [] := by
  cases stripped with
  | once filled full_eq => simp [filled, full_eq]
  | kept => rfl

namespace Signature

theorem operationName_of_allBlank {signature : Signature} (blank : AllBlank signature.givenNames) :
    signature.operationName =
      String.ofList (withoutAsync ((words signature.name.toList).flatMap capitalized)) := by
  rw [operationName, findSome?_annotations Annotation.operationName?_eq, ← givenNames,
    Text.findSome?_of_allBlank blank, joinedWords_eq]

/-- Only the words of the method name matter. -/
theorem operationName_rename (signature : Signature) {name : String}
    (words_eq : words name.toList = words signature.name.toList) :
    ({ signature with name := name } : Signature).operationName = signature.operationName := by
  simp only [operationName, joinedWords_eq, words_eq]

/-- How a method comes to the name of its operation. -/
structure Named (signature : Signature) : Prop where
  given : ∀ name, FirstNonBlank signature.givenNames name → signature.operationName = name
  empty_iff : AllBlank signature.givenNames →
    (signature.operationName = "" ↔ ∀ char ∈ signature.name.toList, char = '_')
  derived : AllBlank signature.givenNames →
    Stripped ((words signature.name.toList).flatMap capitalized) signature.operationName.toList
  of_words : AllBlank signature.givenNames → ∀ other : Signature, AllBlank other.givenNames →
    words other.name.toList = words signature.name.toList →
      other.operationName = signature.operationName
  leading : ∀ name, signature.name = "_" ++ name →
    ({ signature with name := name } : Signature).operationName = signature.operationName
  trailing : ∀ name, signature.name = name ++ "_" →
    ({ signature with name := name } : Signature).operationName = signature.operationName
  repeated : ∀ front back, signature.name = front ++ "__" ++ back →
    ({ signature with name := front ++ "_" ++ back } : Signature).operationName =
      signature.operationName

theorem named (signature : Signature) : signature.Named where
  given name first := by
    rw [operationName, findSome?_annotations Annotation.operationName?_eq, ← givenNames,
      Text.findSome?_of_firstNonBlank first]
  empty_iff blank := by
    rw [operationName_of_allBlank blank, ← words_eq_nil_iff, ← flatMap_capitalized_eq_nil_iff,
      ← (stripped_withoutAsync _).eq_nil_iff, ← String.toList_inj, String.toList_ofList]
    rfl
  derived blank := by
    rw [operationName_of_allBlank blank, String.toList_ofList]
    exact stripped_withoutAsync _
  of_words blank other otherBlank words_eq := by
    rw [operationName_of_allBlank blank, operationName_of_allBlank otherBlank, words_eq]
  leading name name_eq := by
    refine signature.operationName_rename ?_
    rw [name_eq, String.toList_append]
    exact (words_underscore _).symm
  trailing name name_eq := by
    refine signature.operationName_rename ?_
    rw [name_eq, String.toList_append]
    exact ((words_append_underscore _ []).trans (List.append_nil _)).symm
  repeated front back name_eq := by
    refine signature.operationName_rename ?_
    simp only [name_eq, String.toList_append, List.append_assoc]
    have twice : "__".toList ++ back.toList = '_' :: '_' :: back.toList := rfl
    have single : "_".toList ++ back.toList = '_' :: back.toList := rfl
    rw [twice, single, words_append_underscore, words_append_underscore, words_underscore]

end Signature

/-- How a contract comes to the name of its service. -/
structure Contract.Named (contract : Contract) : Prop where
  given : ∀ name, FirstNonBlank contract.givenNames name → contract.serviceName? = some name
  unnamed_iff : AllBlank contract.givenNames →
    (contract.serviceName? = none ↔ Text.isBlank contract.typeName = true)
  derived : AllBlank contract.givenNames → ∀ name, contract.serviceName? = some name →
    Text.isBlank name = false ∧ ¬[':', ':'] <:+: name.toList

theorem Contract.named (contract : Contract) : contract.Named := by
  have found_eq := findSome?_annotations Annotation.serviceName?_eq contract.annotations
  have derived_eq (blank : AllBlank contract.givenNames) :
      contract.serviceName? = derivedServiceName? contract.typeName := by
    rw [serviceName?, found_eq, ← givenNames, Text.findSome?_of_allBlank blank]
  refine ⟨?_, ?_, ?_⟩
  · intro name first
    rw [serviceName?, found_eq, ← givenNames, Text.findSome?_of_firstNonBlank first]
  · intro blank
    rw [derived_eq blank]
    obtain ⟨typeBlank, none_eq⟩ | ⟨notBlank, name, some_eq, -⟩ :=
      derivedServiceName?_cases contract.typeName
    · exact iff_of_true none_eq typeBlank
    · exact iff_of_false (by simp [some_eq]) (by simp [notBlank])
  · intro blank name name_eq
    rw [derived_eq blank] at name_eq
    obtain ⟨-, none_eq⟩ | ⟨-, found, some_eq, facts⟩ :=
      derivedServiceName?_cases contract.typeName
    · cases none_eq.symm.trans name_eq
    · cases some_eq.symm.trans name_eq
      exact facts

/-- A name that is given is used as it stands. A derived name is missing or empty only if there is
nothing to derive it from. -/
theorem names_resolved (contract : Contract) (signature : Signature) :
    contract.Named ∧ signature.Named := ⟨contract.named, signature.named⟩

end RpcContracts
