/-!
# Records

A record is written as named entries in any order, among entries of other names.
No field may be given twice.
-/

namespace ContentAccess
namespace Record

/-- The value of the only entry of this name; two such entries are refused. -/
def value? (entries : List (String × α)) (name : String) : Option (Option α) :=
  match entries.filter fun entry => entry.1 == name with
  | [] => some none
  | [entry] => some (some entry.2)
  | _ => none

/-- The values of the fields of these names. -/
def fields? (names : List String) (entries : List (String × α)) : Option (List (Option α)) :=
  names.mapM (value? entries)

/-- The value of the only entry of a name comes from an entry. -/
theorem exists_of_value? {entries : List (String × α)} {name : String} {value : α}
    (found : value? entries name = some (some value)) : ∃ entry ∈ entries, entry.2 = value := by
  unfold value? at found
  split at found
  · simp at found
  · rename_i entry only
    have present : entry ∈ entries.filter fun entry => entry.1 == name := by simp [only]
    simp only [Option.some.injEq] at found
    exact ⟨entry, (List.mem_filter.mp present).1, found⟩
  · simp at found

/-- Mapping to options gives members that some element was mapped to. -/
theorem exists_of_mem_mapM {read : α → Option β} {list : List α} {results : List β}
    (mapped : list.mapM read = some results) {result : β} (member : result ∈ results) :
    ∃ element ∈ list, read element = some result := by
  induction list generalizing results with
  | nil =>
      simp only [List.mapM_nil, Option.pure_def, Option.some.injEq] at mapped
      subst mapped
      simp at member
  | cons first rest step =>
      simp only [List.mapM_cons, Option.pure_def, Option.bind_eq_bind,
        Option.bind_eq_some_iff, Option.some.injEq] at mapped
      obtain ⟨firstResult, firstRead, restResults, restMapped, rfl⟩ := mapped
      rcases List.mem_cons.mp member with equal | member
      · exact ⟨first, by simp, by rw [firstRead, equal]⟩
      · obtain ⟨element, present, elementRead⟩ := step restMapped member
        exact ⟨element, List.mem_cons_of_mem _ present, elementRead⟩

/-- The value of a field comes from an entry. -/
theorem exists_of_fields? {names : List String} {entries : List (String × α)}
    {fields : List (Option α)} (read : fields? names entries = some fields) {value : α}
    (member : some value ∈ fields) : ∃ entry ∈ entries, entry.2 = value := by
  obtain ⟨name, _, found⟩ := exists_of_mem_mapM read member
  exact exists_of_value? found

end Record
end ContentAccess
