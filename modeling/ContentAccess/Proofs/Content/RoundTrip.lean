import ContentAccess.Proofs.Content.Merge

/-!
# Stores that are taken and read again

The snapshot of a store has everything that the store shows.  A store that is read from
it has the same nodes at the same paths, though its numbers follow the order of the
snapshot and not the order in which the nodes were added.
-/

namespace ContentAccess
namespace Store

open ContentNode

variable {store : Store}

/-- Stores with the same snapshot show the same. -/
theorem WellLinked.agree_of_snapshot_eq
    {first second : Store}
    (firstLinked : first.WellLinked)
    (secondLinked : second.WellLinked)
    (equal : first.snapshot = second.snapshot) :
    Agree Eq first second := by
  refine firstLinked.agree secondLinked fun route => ?_
  have sameContents : first.contents? route = second.contents? route := by
    rw [← Option.head?_toList (o := first.contents? route),
      ← firstLinked.map_contents_snapshot, equal, secondLinked.map_contents_snapshot,
      Option.head?_toList]
  rw [sameContents]
  cases second.contents? route with
  | none => exact .none
  | some contents => exact .some ⟨rfl, rfl, rfl⟩

/-- Reading the snapshot of a store gives a store with this snapshot. -/
theorem WellLinked.exists_reread
    (linked : store.WellLinked) :
    ∃ reread, ofSnapshot store.snapshot = .ok reread ∧ reread.snapshot = store.snapshot := by
  have spellable := linked.spellable_snapshot
  refine ⟨_, ofSnapshot_eq_ok_iff.mpr ⟨spellable, rfl⟩, ?_⟩
  rw [(snapshot_replayed_eq_iff spellable).mpr linked.unrepeated_snapshot, ← linked.name_snapshot,
    Snapshot.mk_eq]

/-- A snapshot has every node of the store once, and a store that is read from it has the
same nodes with the same data and children. -/
theorem Built.agree_reread
    (built : store.Built) :
    store.snapshot.nodes.length = store.size ∧
      ∃ reread, ofSnapshot store.snapshot = .ok reread ∧
        reread.snapshot = store.snapshot ∧ Agree Eq store reread := by
  refine ⟨built.linked.length_nodes_snapshot, ?_⟩
  obtain ⟨reread, read, sameSnapshot⟩ := built.linked.exists_reread
  have rereadLinked := wellLinked_of_ofSnapshot read
  exact ⟨reread, read, sameSnapshot,
    built.linked.agree_of_snapshot_eq rereadLinked sameSnapshot.symm⟩

/-- A node that was added last may be read before others. -/
theorem Built.agree_reread_with_other_numbers :
    let store := replayed [.insert "b", .setTypeMarker "/a" "page",
      .insertProperty "b/c" "title" (.single "C")]
    store.Built ∧ store.index? "b/c" = some 3 ∧ store.snapshot.nodes.length = 4 ∧
      ∃ reread, ofSnapshot store.snapshot = .ok reread ∧ reread.index? "b/c" = some 2 ∧
        reread.snapshot = store.snapshot ∧ Agree Eq store reread := by
  intro store
  have built : store.Built := built_replayed _
  obtain ⟨counted, reread, read, sameSnapshot, agree⟩ := built.agree_reread
  have number : (ofSnapshot store.snapshot).toOption.any fun reread =>
      reread.index? "b/c" = some 2 := by
    decide +kernel
  simp only [read, Except.toOption, Option.any_some, decide_eq_true_iff] at number
  refine ⟨built, by decide +kernel, ?_, reread, read, number, sameSnapshot, agree⟩
  rw [counted]
  decide +kernel

end Store
end ContentAccess
