import Mathlib.Data.List.Nodup
import ContentAccess.Time.Field

/-!
# Collecting the values of fields

Values are collected one after another, each in the range of its field.  Values of different
fields do not get in each other's way.
-/

namespace ContentAccess
namespace Time
namespace Fields

variable {fields : Fields} {entries : List (Field × Int)} {field : Field} {value : Int}

theorem put?_eq_some
    (new : fields.get? field = none)
    (inRange : field.range.1 ≤ value ∧ value ≤ field.range.2) :
    fields.put? field value = some ((field, value) :: fields) := by
  rw [put?, if_pos inRange, new]

/-- Values in their ranges, for fields that are all different, are collected as they are. -/
theorem putAll?_eq_some
    (new : ∀ entry ∈ entries, fields.get? entry.1 = none)
    (distinct : (entries.map Prod.fst).Nodup)
    (inRange : ∀ entry ∈ entries, entry.1.range.1 ≤ entry.2 ∧ entry.2 ≤ entry.1.range.2) :
    fields.putAll? entries = some (entries.reverse ++ fields) := by
  induction entries generalizing fields with
  | nil => rfl
  | cons entry rest step =>
      obtain ⟨field, value⟩ := entry
      rw [List.map_cons, List.nodup_cons] at distinct
      obtain ⟨different, restDistinct⟩ := distinct
      have put := put?_eq_some (new (field, value) List.mem_cons_self)
        (inRange (field, value) List.mem_cons_self)
      rw [putAll?, List.foldlM_cons, put]
      change putAll? ((field, value) :: fields) rest = _
      rw [step, List.reverse_cons, List.append_assoc, List.singleton_append]
      · intro entry member
        have unlike : entry.1 ≠ field := by
          rintro rfl
          exact different (List.mem_map.mpr ⟨entry, member, rfl⟩)
        rw [get?, List.lookup_cons, beq_false_of_ne unlike]
        exact new entry (List.mem_cons_of_mem _ member)
      · exact restDistinct
      · exact fun entry member => inRange entry (List.mem_cons_of_mem _ member)

theorem putAll?_append
    (fields : Fields)
    (front back : List (Field × Int)) :
    fields.putAll? (front ++ back) = (fields.putAll? front).bind fun fields => fields.putAll? back :=
  List.foldlM_append

theorem agrees_of_none
    (missing : fields.get? field = none)
    (value : Int) :
    fields.agrees field value = true := by
  rw [agrees, missing]

theorem agrees_of_some
    (present : fields.get? field = some value) :
    fields.agrees field value = true := by
  rw [agrees, present]
  exact beq_self_eq_true value

end Fields
end Time
end ContentAccess
