import Mathlib.Data.List.Nodup
import ContentAccess.Proofs.Content.Building
import ContentAccess.Proofs.Content.Navigation
import ContentAccess.Proofs.Content.Property
import ContentAccess.Proofs.Distinct

/-!
# What a store holds at a route

A route is the list of segments that leads to a node.  Seen by routes, a store maps some
routes to what their nodes hold, and numbers no longer matter.  Every operation is
described by what it does to this view: which routes it opens, and what it changes there.
-/

namespace ContentAccess

/-- What a node holds: its own data, and the names of the nodes below it in order. -/
@[ext]
structure Contents where
  typeMarker : Option String
  properties : Properties
  childNames : List String

namespace Contents

/-- What a new node holds. -/
def blank : Contents where
  typeMarker := none
  properties := .empty
  childNames := []

/-- Lists a child, last if it is new. -/
def listing (contents : Contents) : Option String → Contents
  | none => contents
  | some name =>
      if name ∈ contents.childNames then contents
      else { contents with childNames := contents.childNames ++ [name] }

@[simp] theorem typeMarker_listing
    (contents : Contents)
    (next : Option String) :
    (contents.listing next).typeMarker = contents.typeMarker := by
  unfold listing
  split
  · rfl
  · split <;> rfl

@[simp] theorem properties_listing
    (contents : Contents)
    (next : Option String) :
    (contents.listing next).properties = contents.properties := by
  unfold listing
  split
  · rfl
  · split <;> rfl

/-- Sets a type marker, if there is one, and properties. -/
def amended
    (typeMarker : Option String)
    (entries : List (String × PropertyValue))
    (contents : Contents) : Contents :=
  { contents with
    typeMarker := typeMarker.or contents.typeMarker
    properties := contents.properties.insertAll entries }

end Contents

/-- Sets a type marker, if there is one, and properties. -/
def Entry.amended
    (typeMarker : Option String)
    (entries : List (String × PropertyValue))
    (entry : Entry) : Entry :=
  { entry with
    typeMarker := typeMarker.or entry.typeMarker
    properties := entry.properties.insertAll entries }

theorem Entry.keepsLinks_amended
    (typeMarker : Option String)
    (entries : List (String × PropertyValue)) :
    Entry.KeepsLinks (Entry.amended typeMarker entries) :=
  ⟨fun _ => rfl, fun _ => rfl, fun _ => rfl, fun _ => rfl⟩

/-- A new node has what is set. -/
theorem Entry.amended_new
    (name path : String)
    (parent : Option Nat)
    (typeMarker : Option String)
    (properties : Properties) :
    Entry.amended typeMarker properties.entries (Entry.new name path parent) =
      { Entry.new name path parent with typeMarker := typeMarker, properties := properties } := by
  have allInserted : Properties.empty.insertAll properties.entries = properties :=
    properties.ofList_entries
  simp only [Entry.amended, Entry.new, Option.or_none, allInserted]

namespace Store

/-! ## Contents by number and by route -/

/-- The type marker of a node. -/
def typeMarkerAt (store : Store) (index : Nat) : Option String :=
  (store.entries[index]?).elim none Entry.typeMarker

/-- The properties of a node. -/
def propertiesAt (store : Store) (index : Nat) : Properties :=
  (store.entries[index]?).elim .empty Entry.properties

/-- What a node holds. -/
def contentsAt (store : Store) (index : Nat) : Contents where
  typeMarker := store.typeMarkerAt index
  properties := store.propertiesAt index
  childNames := (store.childrenAt index).map store.nameAt

/-- The segments that lead to a node. -/
def routeAt (store : Store) (index : Nat) : List String :=
  Path.segments (store.pathAt index)

/-- What the node at a route holds. -/
def contents? (store : Store) (route : List String) : Option Contents :=
  (store.follow? 0 route).map store.contentsAt

section Routes

variable {store : Store} {index parent child : Nat} {name : String} {route : List String}

namespace WellLinked

/-- The route to a node goes through the node above it. -/
theorem routeAt_of_parentAt?
    (linked : store.WellLinked)
    (inside : index < store.size)
    (isAbove : store.parentAt? index = some parent) :
    store.routeAt index = store.routeAt parent ++ [store.nameAt index] := by
  obtain ⟨notRoot, _, _, extended⟩ := linked.below_parentAt? inside isAbove
  rw [routeAt, extended, Path.segments_child (linked.named index inside notRoot)]
  rfl

theorem routeAt_root
    (linked : store.WellLinked) :
    store.routeAt 0 = [] := by
  rw [routeAt, linked.root.2.2, Path.segments_root]

/-- Segments that are followed are added to the route. -/
theorem routeAt_of_follow?
    (linked : store.WellLinked)
    (inside : index < store.size)
    (found : store.follow? index route = some child) :
    child < store.size ∧ store.routeAt child = store.routeAt index ++ route := by
  induction route generalizing index with
  | nil =>
      cases found
      exact ⟨inside, (List.append_nil _).symm⟩
  | cons segment rest further =>
      rw [follow?, Option.bind_eq_some_iff] at found
      obtain ⟨next, isChild, found⟩ := found
      obtain ⟨nextInside, isAbove, named⟩ := linked.childNumber?_eq_some_iff.mp isChild
      obtain ⟨childInside, extended⟩ := further nextInside found
      rw [linked.routeAt_of_parentAt? nextInside isAbove, named] at extended
      exact ⟨childInside, by rw [extended, List.append_assoc, List.singleton_append]⟩

/-- A route leads to the only node that it is the route of. -/
theorem follow?_eq_some_iff
    (linked : store.WellLinked) :
    store.follow? 0 route = some index ↔ index < store.size ∧ store.routeAt index = route := by
  constructor
  · intro found
    obtain ⟨inside, extended⟩ := linked.routeAt_of_follow? store.nonempty found
    rw [linked.routeAt_root, List.nil_append] at extended
    exact ⟨inside, extended⟩
  · rintro ⟨inside, rfl⟩
    have found := linked.node?_path ⟨⟨index, inside⟩⟩
    rw [node?, index?, path_eq_pathAt, Option.bind_eq_some_iff] at found
    obtain ⟨number, followed, isPlace⟩ := found
    rw [← place?_eq_some_iff.mp isPlace] at followed
    exact followed

/-- Different nodes have different routes. -/
theorem routeAt_injective
    (linked : store.WellLinked)
    {first second : Nat}
    (firstInside : first < store.size)
    (secondInside : second < store.size)
    (equal : store.routeAt first = store.routeAt second) :
    first = second := by
  have found := linked.follow?_eq_some_iff.mpr ⟨firstInside, equal⟩
  rw [linked.follow?_eq_some_iff.mpr ⟨secondInside, rfl⟩] at found
  exact (Option.some.inj found).symm

/-- The path of a node spells its route. -/
theorem pathAt_eq_ofSegments
    (linked : store.WellLinked)
    (inside : index < store.size) :
    store.pathAt index = Path.ofSegments (store.routeAt index) := by
  induction index using Nat.strongRecOn with
  | ind index earlier =>
      by_cases isRoot : index = 0
      · subst isRoot
        rw [linked.routeAt_root, linked.root.2.2]
        rfl
      · obtain ⟨parent, before, isAbove, _⟩ := linked.below index inside isRoot
        obtain ⟨_, _, _, extended⟩ := linked.below_parentAt? inside isAbove
        rw [linked.routeAt_of_parentAt? inside isAbove, Path.ofSegments_concat,
          ← earlier parent before (Nat.lt_trans before inside)]
        exact extended

/-- One segment more leads to the child of this name. -/
theorem follow?_routeAt_concat
    (linked : store.WellLinked)
    (inside : parent < store.size)
    (name : String) :
    store.follow? 0 (store.routeAt parent ++ [name]) = store.childNumber? parent name := by
  rw [follow?_append, linked.follow?_eq_some_iff.mpr ⟨inside, rfl⟩, Option.bind_some, follow?]
  cases store.childNumber? parent name <;> rfl

theorem contents?_routeAt
    (linked : store.WellLinked)
    (inside : index < store.size) :
    store.contents? (store.routeAt index) = some (store.contentsAt index) := by
  rw [contents?, linked.follow?_eq_some_iff.mpr ⟨inside, rfl⟩, Option.map_some]

theorem contents?_eq_some_iff
    (linked : store.WellLinked)
    {contents : Contents} :
    store.contents? route = some contents ↔
      ∃ index < store.size, store.routeAt index = route ∧ store.contentsAt index = contents := by
  rw [contents?, Option.map_eq_some_iff]
  simp only [linked.follow?_eq_some_iff, and_assoc]

/-- The listed names are those of the children. -/
theorem mem_childNames_iff
    (linked : store.WellLinked)
    (parent : Nat)
    (name : String) :
    name ∈ (store.contentsAt parent).childNames ↔ (store.childNumber? parent name).isSome := by
  rw [Option.isSome_iff_exists]
  simp only [linked.childNumber?_eq_some_iff, ← and_assoc, ← linked.mem_childrenAt_iff]
  exact List.mem_map

/-- No name is listed twice. -/
theorem nodup_childNames
    (linked : store.WellLinked)
    (index : Nat) :
    (store.contentsAt index).childNames.Nodup := by
  have distinct : (store.childrenAt index).Nodup := by
    rw [List.nodup_iff_count_le_one]
    intro child
    by_cases member : child ∈ store.childrenAt index
    · obtain ⟨inside, isAbove⟩ := linked.listed index child member
      exact Nat.le_of_eq (linked.below_parentAt? inside isAbove).2.2.1
    · rw [List.count_eq_zero.mpr member]
      exact Nat.zero_le 1
  refine List.Nodup.map_on ?_ distinct
  intro first isFirst second isSecond equal
  obtain ⟨firstInside, firstAbove⟩ := linked.listed index first isFirst
  obtain ⟨secondInside, secondAbove⟩ := linked.listed index second isSecond
  exact linked.distinct first firstInside second secondInside (firstAbove.trans secondAbove.symm)
    equal

end WellLinked

end Routes

/-! ## A child that is reached -/

section Children

variable {store : Store} {parent asked : Nat} {name : String} {route : List String}

theorem typeMarkerAt_addChild :
    (store.addChild parent name).1.typeMarkerAt asked =
      if asked = store.size then none else store.typeMarkerAt asked :=
  elim_addChild none fun _ _ => rfl

theorem propertiesAt_addChild :
    (store.addChild parent name).1.propertiesAt asked =
      if asked = store.size then .empty else store.propertiesAt asked :=
  elim_addChild Properties.empty fun _ _ => rfl

namespace WellLinked

/-- A new child holds nothing, and the node above it lists it last. -/
theorem contentsAt_addChild
    (linked : store.WellLinked)
    (inside : parent < store.size)
    (asked : Nat) :
    (store.addChild parent name).1.contentsAt asked =
      if asked = store.size then .blank
      else if asked = parent then
        { store.contentsAt parent with
          childNames := (store.contentsAt parent).childNames ++ [name] }
      else store.contentsAt asked := by
  have sameNames (index : Nat) :
      (store.childrenAt index).map (store.addChild parent name).1.nameAt =
        (store.childrenAt index).map store.nameAt := by
    refine List.map_congr_left fun child member => ?_
    rw [nameAt_addChild, if_neg (Nat.ne_of_lt (linked.listed index child member).1)]
  have newName : (store.addChild parent name).1.nameAt store.size = name := by
    rw [nameAt_addChild, if_pos rfl]
  simp only [contentsAt, typeMarkerAt_addChild, propertiesAt_addChild,
    childrenAt_addChild inside]
  by_cases new : asked = store.size
  · have notParent : asked ≠ parent := fun equal => Nat.ne_of_lt inside (equal ▸ new)
    rw [if_pos new, if_pos new, if_pos new, if_neg notParent,
      childrenAt_of_size_le (Nat.le_of_eq new.symm)]
    rfl
  · rw [if_neg new, if_neg new, if_neg new]
    by_cases same : asked = parent
    · subst same
      rw [if_pos rfl, if_pos rfl, List.map_append, sameNames, List.map_singleton, newName]
    · rw [if_neg same, if_neg same, sameNames]

theorem routeAt_addChild
    (segment : Path.IsSegment name) :
    (store.addChild parent name).1.routeAt store.size = store.routeAt parent ++ [name] := by
  rw [routeAt, pathAt_addChild, if_pos rfl, Path.segments_child segment]
  rfl

/-- A new child opens one route. -/
theorem follow?_addChild
    (linked : store.WellLinked)
    (inside : parent < store.size)
    (segment : Path.IsSegment name)
    (missing : store.childNumber? parent name = none)
    (route : List String) :
    (store.addChild parent name).1.follow? 0 route =
      if route = store.routeAt parent ++ [name] then some store.size
      else store.follow? 0 route := by
  have grown := linked.addChild inside segment missing
  have oldRoute {index : Nat} (old : index ≠ store.size) :
      (store.addChild parent name).1.routeAt index = store.routeAt index := by
    rw [routeAt, pathAt_addChild, if_neg old]
    rfl
  split
  · rename_i isNew
    rw [grown.follow?_eq_some_iff, size_addChild, routeAt_addChild segment]
    exact ⟨Nat.lt_succ_self _, isNew.symm⟩
  · rename_i notNew
    ext index
    rw [grown.follow?_eq_some_iff, linked.follow?_eq_some_iff, size_addChild]
    constructor
    · rintro ⟨bound, isRoute⟩
      have old : index ≠ store.size := by
        rintro rfl
        exact notNew (isRoute.symm.trans (routeAt_addChild segment))
      rw [oldRoute old] at isRoute
      exact ⟨by omega, isRoute⟩
    · rintro ⟨bound, isRoute⟩
      rw [oldRoute (Nat.ne_of_lt bound)]
      exact ⟨Nat.lt_succ_of_lt bound, isRoute⟩

/-- The child that is reached stands one segment further. -/
theorem routeAt_reachChild
    (linked : store.WellLinked)
    (parent : Nat)
    (segment : Path.IsSegment name) :
    (store.reachChild parent name).1.routeAt (store.reachChild parent name).2 =
      store.routeAt parent ++ [name] := by
  cases found : store.childNumber? parent name with
  | some child =>
      obtain ⟨inside, isAbove, named⟩ := linked.childNumber?_eq_some_iff.mp found
      simp only [Store.reachChild, found]
      rw [linked.routeAt_of_parentAt? inside isAbove, named]
  | none =>
      simp only [Store.reachChild, found]
      exact routeAt_addChild segment

/-- Reaching a child opens its route if need be, and lists it in the node above. -/
theorem contents?_reachChild
    (linked : store.WellLinked)
    (inside : parent < store.size)
    (segment : Path.IsSegment name)
    (route : List String) :
    (store.reachChild parent name).1.contents? route =
      if route = store.routeAt parent ++ [name] then
        some ((store.contents? route).getD .blank)
      else if route = store.routeAt parent then
        (store.contents? route).map fun contents => contents.listing (some name)
      else store.contents? route := by
  have parentContents := linked.contents?_routeAt inside
  have childNumber := linked.follow?_routeAt_concat inside name
  have listed := linked.mem_childNames_iff parent name
  cases found : store.childNumber? parent name with
  | some child =>
      rw [found] at childNumber listed
      simp only [Store.reachChild, found]
      split
      · rename_i isChild
        rw [isChild, contents?, childNumber]
        rfl
      · split
        · rename_i isParent
          rw [isParent, parentContents, Option.map_some, Contents.listing,
            if_pos (listed.mpr rfl)]
        · rfl
  | none =>
      rw [found] at childNumber listed
      simp only [Store.reachChild, found]
      rw [contents?, linked.follow?_addChild inside segment found]
      split
      · rename_i isChild
        rw [Option.map_some, linked.contentsAt_addChild inside, if_pos rfl, isChild, contents?,
          childNumber]
        rfl
      · split
        · rename_i isParent
          have notNew : parent ≠ store.size := Nat.ne_of_lt inside
          have unlisted : ¬name ∈ (store.contentsAt parent).childNames := fun member =>
            Bool.false_ne_true (listed.mp member)
          rw [isParent, parentContents, linked.follow?_eq_some_iff.mpr ⟨inside, rfl⟩,
            Option.map_some, Option.map_some, linked.contentsAt_addChild inside, if_neg notNew,
            if_pos rfl, Contents.listing, if_neg unlisted]
        · rename_i notParent
          rw [contents?]
          cases followed : store.follow? 0 route with
          | none => rfl
          | some index =>
              obtain ⟨bound, isRoute⟩ := linked.follow?_eq_some_iff.mp followed
              have notParentIndex : index ≠ parent := by
                rintro rfl
                exact notParent isRoute.symm
              rw [Option.map_some, Option.map_some, linked.contentsAt_addChild inside,
                if_neg (Nat.ne_of_lt bound), if_neg notParentIndex]

end WellLinked

end Children

/-! ## A node that is reached -/

section Reaching

variable {store : Store} {index : Nat} {route : List String}

/-- Segments are reached one after another. -/
theorem reachFrom_append
    (store : Store)
    (index : Nat)
    (front back : List String) :
    store.reachFrom index (front ++ back) =
      (store.reachFrom index front).1.reachFrom (store.reachFrom index front).2 back := by
  induction front generalizing store index with
  | nil => rfl
  | cons segment rest further => exact further _ _

theorem reachFrom_concat
    (store : Store)
    (index : Nat)
    (front : List String)
    (name : String) :
    store.reachFrom index (front ++ [name]) =
      (store.reachFrom index front).1.reachChild (store.reachFrom index front).2 name :=
  reachFrom_append store index front [name]

/-- Where every segment is there, reaching is following. -/
theorem reachFrom_of_follow?
    (found : store.follow? start route = some index) :
    store.reachFrom start route = (store, index) := by
  induction route generalizing start with
  | nil =>
      cases found
      rfl
  | cons segment rest further =>
      rw [follow?, Option.bind_eq_some_iff] at found
      obtain ⟨child, isChild, found⟩ := found
      have reached : store.reachChild start segment = (store, child) := by
        rw [reachChild, isChild]
      rw [reachFrom, reached]
      exact further found

/-- What a store has become when a route is opened and nothing else is done. -/
structure Opened (former : Store) (route : List String) (found : Store × Nat) : Prop
    extends Reached former found where
  leads : found.1.routeAt found.2 = route
  /-- Every beginning of the route is there, and lists the segment that follows. -/
  contents : ∀ asked, found.1.contents? asked =
    if asked <+: route then
      some (((former.contents? asked).getD .blank).listing (Path.nextAfter? asked route))
    else former.contents? asked

theorem Opened.follow?_eq
    {former : Store}
    {found : Store × Nat}
    (opened : Opened former route found) :
    found.1.follow? 0 route = some found.2 :=
  opened.linked.follow?_eq_some_iff.mpr ⟨opened.inside, opened.leads⟩

/-- A child that is reached after a route is opened with it. -/
theorem Opened.reachChild
    {former : Store}
    {found : Store × Nat}
    {name : String}
    (opened : Opened former route found)
    (segment : Path.IsSegment name) :
    Opened former (route ++ [name]) (found.1.reachChild found.2 name) := by
  have reached := opened.linked.reachChild opened.inside segment
  have leads := opened.linked.routeAt_reachChild found.2 segment
  have contents := opened.linked.contents?_reachChild opened.inside segment
  rw [opened.leads] at leads contents
  refine ⟨⟨reached.linked, reached.inside, Nat.le_trans opened.grown reached.grown⟩, leads, ?_⟩
  intro asked
  rw [contents, opened.contents, Path.nextAfter?_concat]
  simp only [List.prefix_concat_iff]
  by_cases whole : asked = route ++ [name]
  · have notRoute : asked ≠ route := by
      intro same
      have lengths := congrArg List.length (same.symm.trans whole)
      simp at lengths
    have notBefore : ¬asked <+: route := by
      intro begins
      have bound := begins.length_le
      rw [whole, List.length_append, List.length_singleton] at bound
      omega
    have last : Path.nextAfter? asked route = none := by
      unfold Path.nextAfter?
      rw [if_neg notBefore]
    rw [if_pos whole, if_neg notBefore, if_pos (.inl whole), if_neg notRoute, last]
    rfl
  · rw [if_neg whole]
    by_cases same : asked = route
    · subst same
      rw [if_pos rfl, if_pos (List.prefix_refl asked), if_pos (.inr (List.prefix_refl asked)),
        if_pos rfl, Path.nextAfter?_self]
      rfl
    · rw [if_neg same, if_neg same]
      simp only [whole, false_or]

/-- A route whose segments a path can spell is opened when it is reached. -/
theorem WellLinked.opened_reachFrom
    (linked : store.WellLinked)
    (spelled : ∀ segment ∈ route, Path.IsSegment segment) :
    Opened store route (store.reachFrom 0 route) := by
  induction route using List.reverseRecOn with
  | nil =>
      refine ⟨⟨linked, store.nonempty, Nat.le_refl _⟩, linked.routeAt_root, fun asked => ?_⟩
      simp only [List.prefix_nil]
      split
      · rename_i isRoot
        subst isRoot
        rfl
      · rfl
  | append_singleton front name further =>
      rw [reachFrom_concat]
      refine (further fun segment member => ?_).reachChild (spelled name ?_)
      · exact spelled segment (List.mem_append_left _ member)
      · exact List.mem_append_right front (List.mem_singleton.mpr rfl)

/-- A path opens its route. -/
theorem WellLinked.opened_reach
    (linked : store.WellLinked)
    (path : String) :
    Opened store (Path.segments path) (store.reach path) :=
  linked.opened_reachFrom fun _ member => Path.isSegment_of_mem_segments member

end Reaching

/-! ## A node that is changed -/

section Amending

variable {store : Store} {index : Nat} {typeMarker : Option String}
  {entries : List (String × PropertyValue)}

theorem contentsAt_modify_amended
    (inside : index < store.size)
    (asked : Nat) :
    (store.modify index (Entry.amended typeMarker entries)).contentsAt asked =
      if asked = index then (store.contentsAt index).amended typeMarker entries
      else store.contentsAt asked := by
  have keeps := Entry.keepsLinks_amended typeMarker entries
  have sameChildren :
      (store.modify index (Entry.amended typeMarker entries)).childrenAt asked =
        store.childrenAt asked :=
    elim_modify [] keeps.children
  have sameName : (store.modify index (Entry.amended typeMarker entries)).nameAt =
      store.nameAt :=
    funext fun other => elim_modify "" keeps.name
  rw [contentsAt, sameChildren, sameName, typeMarkerAt, propertiesAt, modify,
    Array.getElem?_modify]
  by_cases same : asked = index
  · subst same
    rw [if_pos rfl, if_pos rfl, contentsAt, typeMarkerAt, propertiesAt,
      Array.getElem?_eq_getElem inside]
    rfl
  · rw [if_neg same, if_neg fun equal => same equal.symm]
    rfl

theorem ext_entries
    {first second : Store}
    (equal : ∀ index : Nat, first.entries[index]? = second.entries[index]?) :
    first = second := by
  cases first
  cases second
  cases Array.ext_getElem? equal
  rfl

/-- Nothing is changed where nothing is set. -/
theorem modify_amended_none
    (store : Store)
    (index : Nat) :
    store.modify index (Entry.amended none []) = store := by
  refine ext_entries fun asked => ?_
  rw [modify, Array.getElem?_modify]
  split
  · cases store.entries[asked]? <;> rfl
  · rfl

/-- What is set twice can be set at once. -/
theorem modify_amended_amended
    (store : Store)
    (index : Nat)
    (typeMarker later : Option String)
    (entries others : List (String × PropertyValue)) :
    (store.modify index (Entry.amended typeMarker entries)).modify index
        (Entry.amended later others) =
      store.modify index (Entry.amended (later.or typeMarker) (entries ++ others)) := by
  refine ext_entries fun asked => ?_
  simp only [modify, Array.getElem?_modify]
  split
  · cases store.entries[asked]? with
    | none => rfl
    | some entry =>
        simp only [Option.map_some, Entry.amended, Option.or_assoc, Properties.insertAll_append]
  · rfl

/-- A change of a node's own data leaves all routes alone. -/
theorem WellLinked.follow?_modify_amended
    (linked : store.WellLinked)
    (index : Nat)
    (asked : List String) :
    (store.modify index (Entry.amended typeMarker entries)).follow? 0 asked =
      store.follow? 0 asked := by
  have keeps := Entry.keepsLinks_amended typeMarker entries
  have sameRoute (other : Nat) :
      (store.modify index (Entry.amended typeMarker entries)).routeAt other =
        store.routeAt other :=
    congrArg Path.segments (elim_modify "/" keeps.path)
  ext other
  rw [(linked.modify index keeps).follow?_eq_some_iff, linked.follow?_eq_some_iff, size_modify,
    sameRoute]

/-- A change of a node's own data is seen at its route and nowhere else. -/
theorem WellLinked.contents?_modify_amended
    (linked : store.WellLinked)
    (inside : index < store.size)
    (asked : List String) :
    (store.modify index (Entry.amended typeMarker entries)).contents? asked =
      if asked = store.routeAt index then
        (store.contents? asked).map (Contents.amended typeMarker entries)
      else store.contents? asked := by
  rw [contents?, contents?, linked.follow?_modify_amended]
  cases found : store.follow? 0 asked with
  | none => split <;> rfl
  | some other =>
      obtain ⟨otherInside, rfl⟩ := linked.follow?_eq_some_iff.mp found
      rw [Option.map_some, Option.map_some, Option.map_some, contentsAt_modify_amended inside]
      by_cases same : other = index
      · subst same
        rw [if_pos rfl, if_pos rfl]
      · rw [if_neg same, if_neg fun equal =>
          same (linked.routeAt_injective otherInside inside equal)]

end Amending

end Store
end ContentAccess
