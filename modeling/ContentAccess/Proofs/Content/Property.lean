import ContentAccess.Content.Property

/-!
# Properties by name

Properties are told apart by what they answer for every name.  Of several values that
are set for a name the last one counts.
-/

namespace ContentAccess
namespace Properties

/-! ## Sorted entries -/

section Sorted

variable {entries : List (String × PropertyValue)} {name : String}

/-- Entries have no value for names that come before the first. -/
theorem lookup_eq_none_of_lt
    (before : ∀ entry ∈ entries, name < entry.1) :
    entries.lookup name = none := by
  induction entries with
  | nil => rfl
  | cons entry rest step =>
      obtain ⟨present, value⟩ := entry
      have different : name ≠ present := by
        rintro rfl
        exact String.lt_irrefl _ (before _ List.mem_cons_self)
      rw [lookup_entry, if_neg different]
      exact step fun entry member => before entry (List.mem_cons_of_mem _ member)

/-- A name before the first is not answered by it either. -/
theorem lookup_cons_eq_none_of_lt
    {first : String × PropertyValue}
    (sorted : (first :: entries).Pairwise fun one other => one.1 < other.1)
    (before : name < first.1) :
    (first :: entries).lookup name = none := by
  apply lookup_eq_none_of_lt
  intro entry member
  rcases List.mem_cons.mp member with rfl | later
  · exact before
  · exact String.lt_trans before ((List.pairwise_cons.mp sorted).1 entry later)

/-- Sorted entries are told apart by their values. -/
theorem entries_eq_of_lookup_eq
    {first second : List (String × PropertyValue)}
    (firstSorted : first.Pairwise fun one other => one.1 < other.1)
    (secondSorted : second.Pairwise fun one other => one.1 < other.1)
    (equal : ∀ name, first.lookup name = second.lookup name) :
    first = second := by
  induction first generalizing second with
  | nil =>
      cases second with
      | nil => rfl
      | cons other others =>
          have answer := equal other.1
          rw [lookup_entry, if_pos rfl] at answer
          contradiction
  | cons entry rest step =>
      obtain ⟨present, value⟩ := entry
      cases second with
      | nil =>
          have answer := equal present
          rw [lookup_entry, if_pos rfl] at answer
          contradiction
      | cons other others =>
          obtain ⟨otherPresent, otherValue⟩ := other
          have notBefore : ¬present < otherPresent := by
            intro before
            have answer := equal present
            rw [lookup_cons_eq_none_of_lt secondSorted before, lookup_entry, if_pos rfl] at answer
            contradiction
          have notAfter : ¬otherPresent < present := by
            intro before
            have answer := equal otherPresent
            rw [lookup_cons_eq_none_of_lt firstSorted before, lookup_entry, if_pos rfl] at answer
            contradiction
          have sameName : present = otherPresent :=
            Decidable.byContradiction fun different =>
              notAfter (lt_of_not_lt_of_ne notBefore different)
          subst sameName
          have sameValue := equal present
          rw [lookup_entry, lookup_entry, if_pos rfl, if_pos rfl, Option.some.injEq] at sameValue
          obtain ⟨restLater, restSorted⟩ := List.pairwise_cons.mp firstSorted
          obtain ⟨othersLater, othersSorted⟩ := List.pairwise_cons.mp secondSorted
          have sameRest : rest = others := by
            refine step restSorted othersSorted fun name => ?_
            have answer := equal name
            rw [lookup_entry, lookup_entry] at answer
            by_cases first : name = present
            · rw [first, lookup_eq_none_of_lt restLater, lookup_eq_none_of_lt othersLater]
            · rwa [if_neg first, if_neg first] at answer
          rw [sameValue, sameRest]

/-- The values that entries have for a name, in order. -/
def valuesOf (name : String) (entries : List (String × PropertyValue)) : List PropertyValue :=
  entries.filterMap fun entry => if entry.1 = name then some entry.2 else none

theorem valuesOf_cons
    (present : String)
    (value : PropertyValue)
    (rest : List (String × PropertyValue)) :
    valuesOf name ((present, value) :: rest) =
      if present = name then value :: valuesOf name rest else valuesOf name rest := by
  unfold valuesOf
  by_cases same : present = name <;> simp [same]

/-- Sorted entries have no more than one value for a name. -/
theorem valuesOf_eq_toList_lookup
    (sorted : entries.Pairwise fun one other => one.1 < other.1) :
    valuesOf name entries = (entries.lookup name).toList := by
  induction entries with
  | nil => rfl
  | cons entry rest step =>
      obtain ⟨present, value⟩ := entry
      obtain ⟨later, restSorted⟩ := List.pairwise_cons.mp sorted
      rw [valuesOf_cons, lookup_entry, step restSorted]
      by_cases same : present = name
      · subst same
        rw [if_pos rfl, if_pos rfl, lookup_eq_none_of_lt later]
        rfl
      · rw [if_neg same, if_neg fun equal => same equal.symm]

end Sorted

/-! ## Values that are set one after another -/

/-- Properties are told apart by their values. -/
theorem ext_get?
    {first second : Properties}
    (equal : ∀ name, first.get? name = second.get? name) :
    first = second :=
  ext (entries_eq_of_lookup_eq first.sorted second.sorted equal)

theorem insertAll_append
    (properties : Properties)
    (front back : List (String × PropertyValue)) :
    properties.insertAll (front ++ back) = (properties.insertAll front).insertAll back :=
  List.foldl_append

/-- Of the values that are set for a name the last one counts. -/
theorem get?_insertAll
    (properties : Properties)
    (entries : List (String × PropertyValue))
    (name : String) :
    (properties.insertAll entries).get? name =
      (valuesOf name entries).getLast?.or (properties.get? name) := by
  induction entries generalizing properties with
  | nil => rfl
  | cons entry rest step =>
      obtain ⟨present, value⟩ := entry
      change ((properties.insert present value).insertAll rest).get? name = _
      rw [step, get?_insert, valuesOf_cons]
      by_cases same : present = name
      · rw [if_pos same, if_pos same.symm, List.getLast?_cons]
        cases (valuesOf name rest).getLast? <;> rfl
      · rw [if_neg same, if_neg fun equal => same equal.symm]

theorem get?_ofList
    (entries : List (String × PropertyValue))
    (name : String) :
    (ofList entries).get? name = (valuesOf name entries).getLast? := by
  rw [ofList, get?_insertAll, get?_empty, Option.or_none]

theorem valuesOf_entries
    (properties : Properties)
    (name : String) :
    valuesOf name properties.entries = (properties.get? name).toList :=
  valuesOf_eq_toList_lookup properties.sorted

/-- Properties are what their entries make when they are set one after another. -/
theorem ofList_entries
    (properties : Properties) :
    ofList properties.entries = properties := by
  refine ext_get? fun name => ?_
  rw [get?_ofList, valuesOf_entries]
  cases properties.get? name <;> rfl

end Properties
end ContentAccess
