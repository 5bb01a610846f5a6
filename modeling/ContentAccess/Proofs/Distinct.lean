import Mathlib.Data.List.Induction

/-!
# Each element once

The distinct elements of a list stand in the order in which they come first, each of
them once.  What is asked of them can be asked part by part.
-/

namespace ContentAccess

variable {α : Type u} [BEq α] [LawfulBEq α]

/-- An element at the end is new, or it has been there. -/
theorem eraseDups_concat
    (list : List α)
    (element : α) :
    (list ++ [element]).eraseDups =
      if element ∈ list then list.eraseDups else list.eraseDups ++ [element] := by
  rw [List.eraseDups_append]
  split
  · rename_i member
    simp [List.removeAll, member]
  · rename_i new
    simp [List.removeAll, new, List.eraseDups_cons]

/-- Distinct elements are distinct. -/
theorem nodup_eraseDups
    (list : List α) :
    list.eraseDups.Nodup := by
  induction list using List.reverseRecOn with
  | nil => simp
  | append_singleton front element step =>
      rw [eraseDups_concat]
      split
      · exact step
      · rename_i new
        refine List.nodup_append.mpr ⟨step, by simp, ?_⟩
        intro former member last isLast equal
        rw [equal, List.mem_singleton.mp isLast, List.mem_eraseDups] at member
        exact new member

/-- A list without repetition consists of its distinct elements. -/
theorem eraseDups_eq_self
    {list : List α}
    (distinct : list.Nodup) :
    list.eraseDups = list := by
  induction list using List.reverseRecOn with
  | nil => simp
  | append_singleton front element step =>
      obtain ⟨frontDistinct, _, apart⟩ := List.nodup_append.mp distinct
      have new : element ∉ front := fun member =>
        apart element member element (List.mem_singleton.mpr rfl) rfl
      rw [eraseDups_concat, if_neg new, step frontDistinct]

/-- Elements can be left out before or after repetitions are. -/
theorem eraseDups_filter
    (wanted : α → Bool)
    (list : List α) :
    (list.filter wanted).eraseDups = list.eraseDups.filter wanted := by
  induction list using List.reverseRecOn with
  | nil => simp
  | append_singleton front element step =>
      rw [List.filter_append, eraseDups_concat]
      cases kept : wanted element with
      | true =>
          rw [List.filter_cons_of_pos kept, List.filter_nil, eraseDups_concat, step]
          simp only [List.mem_filter, kept, and_true]
          split
          · rfl
          · rw [List.filter_append, List.filter_cons_of_pos kept, List.filter_nil]
      | false =>
          have dropped : ¬wanted element = true := by simp [kept]
          rw [List.filter_cons_of_neg dropped, List.filter_nil, List.append_nil, step]
          split
          · rfl
          · rw [List.filter_append, List.filter_cons_of_neg dropped, List.filter_nil,
              List.append_nil]

/-- The distinct elements of two parts depend only on those of each part. -/
theorem eraseDups_append_congr
    {front front' back back' : List α}
    (fronts : front.eraseDups = front'.eraseDups)
    (backs : back.eraseDups = back'.eraseDups) :
    (front ++ back).eraseDups = (front' ++ back').eraseDups := by
  have sameElements (element : α) : front.elem element = front'.elem element := by
    rw [Bool.eq_iff_iff, List.elem_iff, List.elem_iff, ← List.mem_eraseDups, fronts,
      List.mem_eraseDups]
  rw [List.eraseDups_append, List.eraseDups_append, List.removeAll, List.removeAll,
    eraseDups_filter, eraseDups_filter, fronts, backs]
  simp only [sameElements]

/-- Parts with the same distinct elements make wholes with the same distinct elements. -/
theorem eraseDups_flatMap_congr
    {list : List β}
    {first second : β → List α}
    (same : ∀ part ∈ list, (first part).eraseDups = (second part).eraseDups) :
    (list.flatMap first).eraseDups = (list.flatMap second).eraseDups := by
  induction list with
  | nil => rfl
  | cons part rest step =>
      rw [List.flatMap_cons, List.flatMap_cons]
      apply eraseDups_append_congr
      · exact same part List.mem_cons_self
      · exact step fun other member => same other (List.mem_cons_of_mem _ member)

/-- An element that is repeated is one element. -/
theorem eraseDups_map_const
    {list : List β}
    (nonempty : list ≠ [])
    (element : α) :
    (list.map fun _ => element).eraseDups = [element] := by
  cases list with
  | nil => contradiction
  | cons first rest =>
      have others : ((rest.map fun _ => element).filter fun other => !other == element) = [] := by
        refine List.filter_eq_nil_iff.mpr fun other member => ?_
        obtain ⟨_, _, rfl⟩ := List.mem_map.mp member
        simp
      rw [List.map_cons, List.eraseDups_cons, others]
      rfl

end ContentAccess
