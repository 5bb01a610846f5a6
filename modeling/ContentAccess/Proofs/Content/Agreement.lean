import ContentAccess.Proofs.Content.Contents

/-!
# What the nodes of a store show

A node that is found at a path shows what the store holds at its route, and there are as
many nodes as routes.  So two stores that hold the same at every route have the same nodes
with the same data, whatever their numbers are.
-/

namespace ContentAccess
namespace Store

open ContentNode

/-! ## Nodes by path -/

namespace WellLinked

variable {store : Store} {place : store.Place} {path : String}

/-- A path leads to the node whose route it spells. -/
theorem node?_eq_some_iff
    (linked : store.WellLinked) :
    store.node? path = some place ↔ store.routeAt place.index = Path.segments path := by
  rw [node?, index?, Option.bind_eq_some_iff]
  simp only [place?_eq_some_iff, linked.follow?_eq_some_iff]
  constructor
  · rintro ⟨index, ⟨_, isRoute⟩, rfl⟩
    exact isRoute
  · intro isRoute
    exact ⟨place.index, ⟨place.index.isLt, isRoute⟩, rfl⟩

/-- What a node holds is what it shows. -/
theorem contentsAt_index
    (linked : store.WellLinked)
    (place : store.Place) :
    store.contentsAt place.index =
      ⟨typeMarker? place, place.entry.properties, (children place).map ContentNode.name⟩ := by
  have childNames : (store.childrenAt place.index).map store.nameAt =
      (children place).map ContentNode.name := by
    rw [← linked.map_children place, List.map_map]
    exact List.map_congr_left fun child _ => name_eq_nameAt.symm
  rw [contentsAt, childNames, typeMarkerAt, propertiesAt, place.elim_entry, place.elim_entry]
  rfl

theorem contents?_of_node?
    (linked : store.WellLinked)
    (found : store.node? path = some place) :
    store.contents? (Path.segments path) =
      some ⟨typeMarker? place, place.entry.properties, (children place).map ContentNode.name⟩ := by
  rw [← linked.node?_eq_some_iff.mp found, linked.contents?_routeAt place.index.isLt,
    linked.contentsAt_index]

/-- What a node shows is held at its route. -/
theorem contents?_path
    (linked : store.WellLinked)
    (place : store.Place) :
    store.contents? (Path.segments (ContentNode.path place)) =
      some ⟨typeMarker? place, place.entry.properties, (children place).map ContentNode.name⟩ :=
  linked.contents?_of_node? (linked.node?_path place)

/-- Nothing is held where no node is. -/
theorem contents?_eq_none_iff
    (linked : store.WellLinked)
    {route : List String} :
    store.contents? route = none ↔
      ∀ place : store.Place, Path.segments (ContentNode.path place) ≠ route := by
  constructor
  · rintro nothing place rfl
    rw [linked.contents?_path place] at nothing
    contradiction
  · intro nowhere
    rw [Option.eq_none_iff_forall_ne_some]
    intro contents holds
    obtain ⟨index, inside, isRoute, _⟩ := linked.contents?_eq_some_iff.mp holds
    exact nowhere ⟨⟨index, inside⟩⟩ (by rwa [path_eq_pathAt])

theorem node?_eq_none_iff
    (linked : store.WellLinked) :
    store.node? path = none ↔ store.contents? (Path.segments path) = none := by
  rw [linked.contents?_eq_none_iff, Option.eq_none_iff_forall_ne_some]
  simp only [ne_eq, linked.node?_eq_some_iff, path_eq_pathAt, routeAt]

theorem isSome_node?_iff
    (linked : store.WellLinked) :
    (store.node? path).isSome ↔ (store.contents? (Path.segments path)).isSome := by
  rw [Option.isSome_iff_ne_none, Option.isSome_iff_ne_none, ne_eq, ne_eq, linked.node?_eq_none_iff]

/-- A node shows what its route is known to hold. -/
theorem eq_of_contents?
    (linked : store.WellLinked)
    (found : store.node? path = some place)
    {there : Prop}
    [Decidable there]
    {contents : Contents}
    (holds : store.contents? (Path.segments path) = if there then some contents else none) :
    contents =
      ⟨typeMarker? place, place.entry.properties, (children place).map ContentNode.name⟩ := by
  rw [linked.contents?_of_node? found] at holds
  split at holds
  · exact (Option.some.inj holds).symm
  · contradiction

/-- The path of a node is the one that spells the way to it. -/
theorem path_of_node?
    (linked : store.WellLinked)
    (found : store.node? path = some place) :
    ContentNode.path place = Path.ofSegments (Path.segments path) := by
  rw [path_eq_pathAt, linked.pathAt_eq_ofSegments place.index.isLt,
    linked.node?_eq_some_iff.mp found]

/-- The path of a node spells its segments. -/
theorem path_eq_ofSegments
    (linked : store.WellLinked)
    (place : store.Place) :
    ContentNode.path place = Path.ofSegments (Path.segments (ContentNode.path place)) :=
  linked.path_of_node? (linked.node?_path place)

/-! ## The number of nodes -/

/-- Every node has a route of its own. -/
theorem nodup_routes
    (linked : store.WellLinked) :
    ((List.range store.size).map store.routeAt).Nodup := by
  refine List.Nodup.map_on ?_ List.nodup_range
  intro first firstInside second secondInside equal
  exact linked.routeAt_injective (List.mem_range.mp firstInside) (List.mem_range.mp secondInside)
    equal

theorem mem_routes_iff
    (linked : store.WellLinked)
    (route : List String) :
    route ∈ (List.range store.size).map store.routeAt ↔ (store.contents? route).isSome := by
  rw [Option.isSome_iff_exists, List.mem_map]
  simp only [linked.contents?_eq_some_iff, List.mem_range]
  constructor
  · rintro ⟨index, inside, isRoute⟩
    exact ⟨_, index, inside, isRoute, rfl⟩
  · rintro ⟨_, index, inside, isRoute, _⟩
    exact ⟨index, inside, isRoute⟩

/-- There are as many nodes as there are routes to them. -/
theorem size_eq_length
    (linked : store.WellLinked)
    {routes : List (List String)}
    (distinct : routes.Nodup)
    (complete : ∀ route, route ∈ routes ↔ (store.contents? route).isSome) :
    store.size = routes.length := by
  have sameRoutes : ((List.range store.size).map store.routeAt).Perm routes := by
    refine (List.perm_ext_iff_of_nodup linked.nodup_routes distinct).mpr fun route => ?_
    rw [complete, linked.mem_routes_iff]
  simpa using sameRoutes.length_eq

end WellLinked

/-! ## Stores that agree -/

/-- Two stores have the same nodes at the same paths with the same data, and the names of
their children are related. -/
structure Agree (related : List String → List String → Prop) (first second : Store) : Prop where
  size : first.size = second.size
  nodes : ∀ path, Option.Rel
    (fun (one : first.Place) (other : second.Place) =>
      ContentNode.path one = ContentNode.path other ∧
      typeMarker? one = typeMarker? other ∧
      one.entry.properties = other.entry.properties ∧
      related ((children one).map ContentNode.name) ((children other).map ContentNode.name))
    (first.node? path) (second.node? path)

/-- Stores agree when they hold the same at every route. -/
theorem WellLinked.agree
    {related : List String → List String → Prop}
    {first second : Store}
    (firstLinked : first.WellLinked)
    (secondLinked : second.WellLinked)
    (same : ∀ route, Option.Rel
      (fun one other => one.typeMarker = other.typeMarker ∧ one.properties = other.properties ∧
        related one.childNames other.childNames)
      (first.contents? route) (second.contents? route)) :
    Agree related first second where
  size := by
    have complete (route : List String) :
        route ∈ (List.range second.size).map second.routeAt ↔ (first.contents? route).isSome := by
      have holds := same route
      rw [secondLinked.mem_routes_iff]
      generalize first.contents? route = one, second.contents? route = other at holds ⊢
      cases holds <;> simp
    simpa using firstLinked.size_eq_length secondLinked.nodup_routes complete
  nodes := by
    intro path
    have holds := same (Path.segments path)
    cases oneFound : first.node? path with
    | none =>
        rw [firstLinked.node?_eq_none_iff.mp oneFound] at holds
        generalize otherHolds : second.contents? (Path.segments path) = other at holds
        cases holds
        rw [secondLinked.node?_eq_none_iff.mpr otherHolds]
        exact .none
    | some one =>
        cases otherFound : second.node? path with
        | none =>
            rw [firstLinked.contents?_of_node? oneFound,
              secondLinked.node?_eq_none_iff.mp otherFound] at holds
            cases holds
        | some other =>
            rw [firstLinked.contents?_of_node? oneFound,
              secondLinked.contents?_of_node? otherFound] at holds
            have samePath : ContentNode.path one = ContentNode.path other := by
              rw [firstLinked.path_of_node? oneFound, secondLinked.path_of_node? otherFound]
            cases holds with
            | some agree => exact .some ⟨samePath, agree⟩

end Store
end ContentAccess
