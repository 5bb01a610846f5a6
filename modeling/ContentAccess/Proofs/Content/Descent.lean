import ContentAccess.Proofs.Content.Lineage
import ContentAccess.Proofs.Content.Log

/-!
# Levels in a store

A node lies below another by its path exactly when going up from the one leads to the
other, and the number of levels between the paths is the number of steps.
-/

namespace ContentAccess

namespace Store

open ContentNode

variable {store : Store} {place above : store.Place} {steps : Nat}

namespace WellLinked

/-- Nodes are told apart by the segments of their paths. -/
theorem eq_of_segments_path_eq
    (linked : store.WellLinked)
    (equal : Path.segments (path place) = Path.segments (path above)) :
    place = above := by
  have found : store.node? (path place) = some above := by
    rw [linked.node?_eq_some_iff, equal, path_eq_pathAt]
    rfl
  rw [linked.node?_path] at found
  exact Option.some.inj found

/-- Every step up takes the last segment off the path. -/
theorem ancestor?_eq_some_iff
    (linked : store.WellLinked) :
    ancestor? steps place = some above ↔
      ∃ names, Path.segments (path place) = Path.segments (path above) ++ names ∧
        names.length = steps := by
  induction steps generalizing place with
  | zero =>
      simp only [ancestor?, Option.some.injEq, List.length_eq_zero_iff]
      constructor
      · rintro rfl
        exact ⟨[], (List.append_nil _).symm, rfl⟩
      · rintro ⟨_, equal, rfl⟩
        rw [List.append_nil] at equal
        exact linked.eq_of_segments_path_eq equal
  | succ steps further =>
      cases isAbove : parent? place with
      | none =>
          rw [ancestor?, isAbove, linked.parent?_eq_none_iff.mp isAbove,
            linked.segments_path_root]
          constructor
          · intro found
            contradiction
          · rintro ⟨names, equal, length⟩
            rw [(List.nil_eq_append_iff.mp equal).2] at length
            contradiction
      | some parent =>
          rw [ancestor?, isAbove, Option.bind_some, further, linked.segments_path isAbove]
          constructor
          · rintro ⟨names, equal, rfl⟩
            exact ⟨names ++ [ContentNode.name place], by rw [equal, List.append_assoc], by simp⟩
          · rintro ⟨names, equal, length⟩
            cases names using List.reverseRecOn with
            | nil => contradiction
            | append_singleton names last _ =>
                rw [← List.append_assoc] at equal
                rw [List.length_append, List.length_singleton, Nat.add_right_cancel_iff] at length
                exact ⟨names, List.append_inj_left' equal rfl, length⟩

/-- The levels between the paths of nodes are the steps between the nodes. -/
theorem levelsBelow?_path_eq_some_iff
    (linked : store.WellLinked)
    (above place : store.Place)
    (steps : Nat) :
    Path.levelsBelow? (path above) (path place) = some steps ↔
      ancestor? steps place = some above := by
  rw [linked.ancestor?_eq_some_iff, linked.path_eq_ofSegments place,
    linked.path_eq_ofSegments above,
    Path.levelsBelow?_ofSegments (fun _ member => Path.isSegment_of_mem_segments member)
      (fun _ member => Path.isSegment_of_mem_segments member), ← linked.path_eq_ofSegments place,
    ← linked.path_eq_ofSegments above]

end WellLinked

/-- By its path a node is within another exactly when going up from it leads to the other.
The level between them is the number of steps, and `-1` if no steps lead there. -/
theorem Built.level_eq_steps
    (built : store.Built)
    (anchor place : store.Place) :
    (Path.isWithin (path anchor) (path place) = true ↔
      ∃ steps, ancestor? steps place = some anchor) ∧
    (∀ steps, Path.levelsBelow? (path anchor) (path place) = some steps ↔
      ancestor? steps place = some anchor) ∧
    ((Path.levelsBelow? (path anchor) (path place)).elim (-1) Int.ofNat = -1 ↔
      ∀ steps, ancestor? steps place ≠ some anchor) := by
  have levels := built.linked.levelsBelow?_path_eq_some_iff anchor place
  refine ⟨?_, levels, ?_⟩
  · rw [← Path.isSome_levelsBelow?, Option.isSome_iff_exists]
    exact exists_congr levels
  · simp only [← levels, ne_eq]
    cases Path.levelsBelow? (path anchor) (path place) <;> simp

/-- A name that only begins like another is not above it, and the root is above all. -/
theorem Built.level_eq_steps_for_similar_names :
    let store := replayed [.insert "a/b/c", .insert "/a/bc/"]
    let shorter : store.Place := ⟨⟨2, by decide +kernel⟩⟩
    let below : store.Place := ⟨⟨3, by decide +kernel⟩⟩
    let longer : store.Place := ⟨⟨4, by decide +kernel⟩⟩
    store.Built ∧ path shorter = "/a/b" ∧ path longer = "/a/bc" ∧
      (∀ steps, ancestor? steps longer ≠ some shorter) ∧
      ancestor? 1 below = some shorter ∧ ancestor? 3 below = some store.root := by
  intro store shorter below longer
  have built : store.Built := built_replayed _
  obtain ⟨_, _, outside⟩ := built.level_eq_steps shorter longer
  obtain ⟨_, fromShorter, _⟩ := built.level_eq_steps shorter below
  obtain ⟨_, fromRoot, _⟩ := built.level_eq_steps store.root below
  refine ⟨built, by decide +kernel, by decide +kernel, outside.mp ?_, (fromShorter 1).mp ?_,
    (fromRoot 3).mp ?_⟩ <;> decide +kernel

end Store
end ContentAccess
