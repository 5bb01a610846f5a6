import ContentAccess.Proofs.Content.Building

/-!
# Moving between the nodes of a store

In a linked store the nodes form one tree.  A node is found at its path and at no
other node's, going up undoes going down, and going up ends at the root after as
many steps as the path has segments.
-/

namespace ContentAccess
namespace Store

open ContentNode

/-! ## Nodes and their numbers -/

section Numbers

variable {store : Store} {place : store.Place} {index : Nat}

/-- The number of a node tells it apart. -/
theorem Place.eq_of_number_eq
    {first second : store.Place}
    (equal : first.index.val = second.index.val) :
    first = second := by
  cases first
  cases second
  cases Fin.ext equal
  rfl

theorem Place.number_eq_zero_iff : place.index.val = 0 ↔ place = store.root := by
  constructor
  · intro zero
    exact Place.eq_of_number_eq zero
  · rintro rfl
    rfl

theorem place?_eq_some_iff : store.place? index = some place ↔ place.index.val = index := by
  unfold place?
  split
  · constructor
    · intro equal
      cases equal
      rfl
    · rintro rfl
      rfl
  · rename_i outside
    constructor
    · intro equal
      contradiction
    · rintro rfl
      exact absurd place.index.isLt outside

/-- Numbers of nodes lose nothing when they are turned into nodes. -/
theorem map_filterMap_place?
    {numbers : List Nat}
    (inside : ∀ number ∈ numbers, number < store.size) :
    (numbers.filterMap store.place?).map (fun place => place.index.val) = numbers := by
  induction numbers with
  | nil => rfl
  | cons number rest step =>
      have first : store.place? number = some ⟨⟨number, inside number List.mem_cons_self⟩⟩ :=
        place?_eq_some_iff.mpr rfl
      have others := step fun later member => inside later (List.mem_cons_of_mem _ member)
      rw [List.filterMap_cons_some first, List.map_cons, others]

theorem Place.elim_entry
    (place : store.Place)
    (default : α)
    (field : Entry → α) :
    (store.entries[place.index.val]?).elim default field = field place.entry := by
  rw [Array.getElem?_eq_getElem place.index.isLt]
  rfl

theorem path_eq_pathAt : path place = store.pathAt place.index :=
  (place.elim_entry "/" Entry.path).symm

theorem name_eq_nameAt : ContentNode.name place = store.nameAt place.index :=
  (place.elim_entry "" Entry.name).symm

theorem Place.parent_entry : place.entry.parent = store.parentAt? place.index :=
  (place.elim_entry none Entry.parent).symm

theorem Place.children_entry : place.entry.children = store.childrenAt place.index :=
  (place.elim_entry [] Entry.children).symm

end Numbers

/-! ## One step up or down -/

section Steps

variable {store : Store} {place above child : store.Place} {name : String}

namespace WellLinked

/-- Going up follows the number of the node above. -/
theorem map_parent?
    (linked : store.WellLinked)
    (place : store.Place) :
    (parent? place).map (fun above => above.index.val) = store.parentAt? place.index := by
  change place.parent?.map _ = _
  unfold Place.parent?
  split
  · rename_i parent isAbove
    rw [Place.parent_entry] at isAbove
    obtain ⟨_, earlier, _⟩ := linked.below_parentAt? place.index.isLt isAbove
    rw [dif_pos earlier, isAbove]
    rfl
  · rename_i isRoot
    rw [← Place.parent_entry, isRoot]
    rfl

/-- Going down follows the numbers of the nodes below. -/
theorem map_children
    (linked : store.WellLinked)
    (place : store.Place) :
    (children place).map (fun child => child.index.val) = store.childrenAt place.index := by
  change (place.entry.children.filterMap store.place?).map _ = _
  rw [Place.children_entry]
  exact map_filterMap_place? fun child member => (linked.listed place.index child member).1

theorem parent?_eq_some_iff
    (linked : store.WellLinked) :
    parent? place = some above ↔ store.parentAt? place.index = some above.index.val := by
  rw [← linked.map_parent? place, Option.map_eq_some_iff]
  constructor
  · intro found
    exact ⟨above, found, rfl⟩
  · rintro ⟨other, found, equal⟩
    rw [found, Place.eq_of_number_eq equal]

/-- Only the root has no node above it. -/
theorem parent?_eq_none_iff
    (linked : store.WellLinked) :
    parent? place = none ↔ place = store.root := by
  rw [← Place.number_eq_zero_iff, ← Option.map_eq_none_iff, linked.map_parent? place]
  constructor
  · intro isRoot
    refine Decidable.byContradiction fun notRoot => ?_
    obtain ⟨parent, _, isAbove, _⟩ := linked.below place.index place.index.isLt notRoot
    rw [isRoot] at isAbove
    contradiction
  · intro isRoot
    rw [isRoot]
    exact linked.root.1

/-- A child is found by its name. -/
theorem child?_eq_some_iff
    (linked : store.WellLinked) :
    child? place name = some child ↔
      parent? child = some place ∧ ContentNode.name child = name := by
  change (store.childNumber? place.index name).bind store.place? = some child ↔ _
  rw [linked.parent?_eq_some_iff, name_eq_nameAt, Option.bind_eq_some_iff]
  constructor
  · rintro ⟨number, found, isChild⟩
    obtain rfl := place?_eq_some_iff.mp isChild
    exact (linked.childNumber?_eq_some_iff.mp found).2
  · intro isChild
    exact ⟨child.index, linked.childNumber?_eq_some_iff.mpr ⟨child.index.isLt, isChild⟩,
      place?_eq_some_iff.mpr rfl⟩

/-- The nodes below are those that have the node above them. -/
theorem mem_children_iff
    (linked : store.WellLinked) :
    child ∈ children place ↔ parent? child = some place := by
  have numbers : child ∈ children place ↔
      child.index.val ∈ (children place).map fun child => child.index.val := by
    constructor
    · exact List.mem_map_of_mem
    · intro member
      obtain ⟨other, isChild, equal⟩ := List.mem_map.mp member
      rwa [Place.eq_of_number_eq equal] at isChild
  rw [numbers, linked.map_children, linked.mem_childrenAt_iff, linked.parent?_eq_some_iff]
  exact and_iff_right child.index.isLt

/-- The path of a node has its name as one segment more than that of the node above. -/
theorem segments_path
    (linked : store.WellLinked)
    (isAbove : parent? place = some above) :
    Path.segments (path place) = Path.segments (path above) ++ [ContentNode.name place] := by
  obtain ⟨notRoot, _, _, extended⟩ :=
    linked.below_parentAt? place.index.isLt (linked.parent?_eq_some_iff.mp isAbove)
  rw [path_eq_pathAt, path_eq_pathAt, name_eq_nameAt, extended]
  exact Path.segments_child (linked.named place.index place.index.isLt notRoot) _

theorem segments_path_root
    (linked : store.WellLinked) :
    Path.segments (path store.root) = [] := by
  rw [path_eq_pathAt]
  change Path.segments (store.pathAt 0) = []
  rw [linked.root.2.2, Path.segments_root]

end WellLinked

end Steps

/-! ## From the root to a node and back -/

section Walks

variable {store : Store}

/-- Segments are followed one after another. -/
theorem follow?_append
    (index : Nat)
    (front back : List String) :
    store.follow? index (front ++ back) =
      (store.follow? index front).bind fun middle => store.follow? middle back := by
  induction front generalizing index with
  | nil => rfl
  | cons segment rest further =>
      rw [List.cons_append, follow?, follow?, Option.bind_assoc]
      simp only [further]

namespace WellLinked

/-- What holds of the root and passes from a node to those below it holds of all
nodes. -/
theorem induction
    {motive : store.Place → Prop}
    (linked : store.WellLinked)
    (root : motive store.root)
    (below : ∀ place above, parent? place = some above → motive above → motive place)
    (place : store.Place) :
    motive place := by
  refine parents_end.induction place fun place earlier => ?_
  cases isAbove : parent? place with
  | some above => exact below place above isAbove (earlier above isAbove)
  | none =>
      rw [linked.parent?_eq_none_iff.mp isAbove]
      exact root

/-- A node is found at its path. -/
theorem node?_path
    (linked : store.WellLinked)
    (place : store.Place) :
    store.node? (path place) = some place := by
  have found : store.follow? 0 (Path.segments (path place)) = some place.index.val := by
    induction place using linked.induction with
    | root =>
        rw [linked.segments_path_root]
        rfl
    | below place above isAbove reached =>
        have isChild : store.childNumber? above.index (ContentNode.name place) =
            some place.index.val := by
          rw [linked.childNumber?_eq_some_iff, name_eq_nameAt]
          exact ⟨place.index.isLt, linked.parent?_eq_some_iff.mp isAbove, rfl⟩
        rw [linked.segments_path isAbove, follow?_append, reached]
        simp [follow?, isChild]
  rw [node?, index?, found, Option.bind_some, place?_eq_some_iff]

/-- No two nodes have the same path. -/
theorem path_injective
    (linked : store.WellLinked)
    {first second : store.Place}
    (equal : path first = path second) :
    first = second := by
  have found := linked.node?_path first
  rw [equal, linked.node?_path second] at found
  exact (Option.some.inj found).symm

/-- The nodes from a node up end at the root. -/
theorem getLast?_lineage
    (linked : store.WellLinked)
    (place : store.Place) :
    (lineage place).getLast? = some store.root := by
  induction place using linked.induction with
  | root => rw [lineage_of_root (linked.parent?_eq_none_iff.mpr rfl), List.getLast?_singleton]
  | below place above isAbove ends =>
      rw [lineage_of_parent isAbove, List.getLast?_cons, ends, Option.getD_some]

/-- There are as many nodes above a node as its path has segments. -/
theorem length_lineage
    (linked : store.WellLinked)
    (place : store.Place) :
    (lineage place).length = (Path.segments (path place)).length + 1 := by
  induction place using linked.induction with
  | root =>
      rw [lineage_of_root (linked.parent?_eq_none_iff.mpr rfl), linked.segments_path_root]
      rfl
  | below place above isAbove counted =>
      rw [lineage_of_parent isAbove, linked.segments_path isAbove, List.length_cons, counted,
        List.length_append, List.length_singleton]

end WellLinked

/-- Paths, names and links lead from node to node as in one tree. -/
structure Navigable (store : Store) : Prop where
  /-- No two nodes have the same path. -/
  distinct : ∀ first second : store.Place, path first = path second → first = second
  /-- A node is found at its path. -/
  found : ∀ place : store.Place, store.node? (path place) = some place
  /-- Every node but the root is the child of its name of the node above. -/
  child : ∀ place : store.Place, place ≠ store.root →
    ∃ above, parent? place = some above ∧ child? above (ContentNode.name place) = some place
  /-- The nodes below a node have it above them. -/
  above : ∀ place child : store.Place, child ∈ children place → parent? child = some place
  /-- Going up and down misses none of the numbers that the store keeps. -/
  numbers : ∀ place : store.Place,
    (parent? place).map (fun above => above.index.val) = place.entry.parent ∧
      (children place).map (fun child => child.index.val) = place.entry.children
  /-- Going up ends at the root after as many steps as the path has segments. -/
  lineage : ∀ place : store.Place,
    (lineage place).getLast? = some store.root ∧
      (lineage place).length = (Path.segments (path place)).length + 1

/-- The nodes of a linked store form one tree. -/
theorem WellLinked.navigable (linked : store.WellLinked) : store.Navigable where
  distinct _ _ := linked.path_injective
  found := linked.node?_path
  child := by
    intro place notRoot
    cases isAbove : parent? place with
    | none => exact absurd (linked.parent?_eq_none_iff.mp isAbove) notRoot
    | some above => exact ⟨above, rfl, linked.child?_eq_some_iff.mpr ⟨isAbove, rfl⟩⟩
  above _ _ := linked.mem_children_iff.mp
  numbers := by
    intro place
    rw [Place.parent_entry, Place.children_entry]
    exact ⟨linked.map_parent? place, linked.map_children place⟩
  lineage place := ⟨linked.getLast?_lineage place, linked.length_lineage place⟩

end Walks

/-- Whatever a store is built from, its numbers, names and paths fit together, and its
nodes form one tree. -/
theorem Built.wellLinked_navigable
    {store : Store}
    (built : store.Built) :
    store.WellLinked ∧ store.Navigable :=
  ⟨built.linked, built.linked.navigable⟩

/-- A snapshot may name a child twice, and a path may have slashes to spare. -/
theorem Built.wellLinked_navigable_of_repeated_name :
    let child (children : List Snapshot) : Snapshot := ⟨"a", some "page", .empty, children⟩
    let snapshot : Snapshot := ⟨"", none, .empty, [child [], child [⟨"b", none, .empty, []⟩]]⟩
    ∃ store, ofSnapshot snapshot = .ok store ∧
      ((store.insert "a//b/").insert "//a/c").size = 4 ∧
      ((store.insert "a//b/").insert "//a/c").WellLinked ∧
      ((store.insert "a//b/").insert "//a/c").Navigable := by
  intro child snapshot
  have readable : ∃ store, ofSnapshot snapshot = .ok store := ⟨_, rfl⟩
  obtain ⟨store, reads⟩ := readable
  have size : (ofSnapshot snapshot).toOption.any fun store =>
      ((store.insert "a//b/").insert "//a/c").size = 4 := by
    decide +kernel
  simp only [reads, Except.toOption, Option.any_some, decide_eq_true_iff] at size
  have built : ((store.insert "a//b/").insert "//a/c").Built :=
    ((Built.read reads).changed (.insert "a//b/")).changed (.insert "//a/c")
  exact ⟨store, reads, size, Built.wellLinked_navigable built⟩

end Store
end ContentAccess
