import ContentAccess.Content.Store
import ContentAccess.Proofs.Outcome
import ContentAccess.Proofs.Path

/-!
# Links between the nodes of a store

The entries of a store name one another by number, and every entry keeps its name
and its path.  These fields say the same thing several times over: a node is listed
by its parent and by no other node, its path is that of its parent and its name, and
no two children of a node share a name.  Whatever builds or changes a store keeps
all of this true.
-/

namespace ContentAccess

/-- A change of an entry that leaves its name, its path and its links alone. -/
structure Entry.KeepsLinks (change : Entry → Entry) : Prop where
  name : ∀ entry, (change entry).name = entry.name
  path : ∀ entry, (change entry).path = entry.path
  parent : ∀ entry, (change entry).parent = entry.parent
  children : ∀ entry, (change entry).children = entry.children

namespace Store

/-! ## Nodes by number -/

/-- The name of a node. -/
def nameAt (store : Store) (index : Nat) : String :=
  (store.entries[index]?).elim "" Entry.name

/-- The number of the node above. -/
def parentAt? (store : Store) (index : Nat) : Option Nat :=
  (store.entries[index]?).elim none Entry.parent

/-- The numbers of the nodes below. -/
def childrenAt (store : Store) (index : Nat) : List Nat :=
  (store.entries[index]?).elim [] Entry.children

section Reading

variable {store : Store}

theorem childrenAt_of_size_le
    {index : Nat}
    (outside : store.size ≤ index) :
    store.childrenAt index = [] := by
  rw [childrenAt, Array.getElem?_eq_none outside]
  rfl

/-- A child is looked up among the nodes that its parent lists. -/
theorem childNumber?_eq_find?
    (parent : Nat)
    (name : String) :
    store.childNumber? parent name =
      (store.childrenAt parent).find? fun child =>
        (store.entries[child]?).any fun entry => entry.name == name := by
  rw [childNumber?, childrenAt]
  cases store.entries[parent]? <;> rfl

theorem any_name_eq_true_iff
    {index : Nat}
    (inside : index < store.size)
    (name : String) :
    ((store.entries[index]?).any fun entry => entry.name == name) = true ↔
      store.nameAt index = name := by
  rw [nameAt, Array.getElem?_eq_getElem inside]
  simp

end Reading

/-! ## What changes do to the entries -/

section Entries

variable {store : Store} {index asked : Nat} {change : Entry → Entry} {field : Entry → α}

@[simp] theorem size_modify : (store.modify index change).size = store.size := by
  simp [modify, size]

/-- What a change keeps of an entry, it keeps of the whole store. -/
theorem elim_modify
    (default : α)
    (keeps : ∀ entry, field (change entry) = field entry) :
    ((store.modify index change).entries[asked]?).elim default field =
      (store.entries[asked]?).elim default field := by
  rw [modify, Array.getElem?_modify]
  split
  · cases store.entries[asked]? <;> simp [keeps]
  · rfl

variable {parent : Nat} {name : String}

@[simp] theorem size_addChild : (store.addChild parent name).1.size = store.size + 1 := by
  simp [addChild, modify, size]

/-- A child that is added takes the next number, and the entries before it keep all
but the numbers of their children. -/
theorem elim_addChild
    (default : α)
    (keeps : ∀ entry children, field { entry with children := children } = field entry) :
    ((store.addChild parent name).1.entries[asked]?).elim default field =
      if asked = store.size then
        field (Entry.new name (Path.child (store.pathAt parent) name) parent)
      else (store.entries[asked]?).elim default field := by
  rw [addChild]
  simp only
  rw [elim_modify default fun entry => keeps entry _, Array.getElem?_push]
  unfold size
  split <;> rfl

theorem nameAt_addChild :
    (store.addChild parent name).1.nameAt asked =
      if asked = store.size then name else store.nameAt asked :=
  elim_addChild "" fun _ _ => rfl

theorem parentAt?_addChild :
    (store.addChild parent name).1.parentAt? asked =
      if asked = store.size then some parent else store.parentAt? asked :=
  elim_addChild none fun _ _ => rfl

theorem pathAt_addChild :
    (store.addChild parent name).1.pathAt asked =
      if asked = store.size then Path.child (store.pathAt parent) name
      else store.pathAt asked :=
  elim_addChild "/" fun _ _ => rfl

/-- A child that is added is listed last. -/
theorem childrenAt_addChild
    (inside : parent < store.size) :
    (store.addChild parent name).1.childrenAt asked =
      if asked = parent then store.childrenAt parent ++ [store.size]
      else store.childrenAt asked := by
  rw [addChild, childrenAt, modify, Array.getElem?_modify]
  by_cases same : asked = parent
  · subst same
    rw [if_pos rfl, if_pos rfl, Array.getElem?_push_lt inside, childrenAt,
      Array.getElem?_eq_getElem inside]
    rfl
  · have other : parent ≠ asked := fun equal => same equal.symm
    rw [if_neg other, if_neg same, Array.getElem?_push]
    split
    · rename_i new
      rw [childrenAt_of_size_le (Nat.le_of_eq new.symm)]
      rfl
    · rfl

end Entries

/-! ## Linked stores -/

/-- The numbers, names and paths of a store fit together. -/
structure WellLinked (store : Store) : Prop where
  /-- The root has no node above it, no name, and the path `/`. -/
  root : store.parentAt? 0 = none ∧ store.nameAt 0 = "" ∧ store.pathAt 0 = "/"
  /-- Any other node stands below an earlier one, which lists it once and begins its
  path. -/
  below : ∀ index < store.size, index ≠ 0 →
    ∃ parent < index, store.parentAt? index = some parent ∧
      (store.childrenAt parent).count index = 1 ∧
      store.pathAt index =
        if parent = 0 then "/" ++ store.nameAt index
        else store.pathAt parent ++ "/" ++ store.nameAt index
  /-- Only the root has a name that a path cannot spell. -/
  named : ∀ index < store.size, index ≠ 0 → Path.IsSegment (store.nameAt index)
  /-- A node lists only nodes that stand below it. -/
  listed : ∀ index, ∀ child ∈ store.childrenAt index,
    child < store.size ∧ store.parentAt? child = some index
  /-- Nodes below the same node have different names. -/
  distinct : ∀ first < store.size, ∀ second < store.size,
    store.parentAt? first = store.parentAt? second →
      store.nameAt first = store.nameAt second → first = second

/-- A path that goes on after its last slash is not that of the root. -/
theorem append_ne_slash
    {name : String}
    (nonempty : name ≠ "")
    (front : String) :
    front ++ "/" ++ name ≠ "/" := by
  intro equal
  have characters := congrArg String.length equal
  have positive : 0 < name.length := by
    rw [Nat.pos_iff_ne_zero, ne_eq, String.length_eq_zero_iff]
    exact nonempty
  simp only [String.length_append] at characters
  change front.length + 1 + name.length = 1 at characters
  omega

namespace WellLinked

variable {store : Store} {index parent child : Nat} {name : String}

/-- Only the root has the path `/`. -/
theorem pathAt_eq_slash_iff
    (linked : store.WellLinked)
    (inside : index < store.size) :
    store.pathAt index = "/" ↔ index = 0 := by
  constructor
  · intro atRoot
    refine Decidable.byContradiction fun notRoot => ?_
    obtain ⟨parent, _, _, _, path⟩ := linked.below index inside notRoot
    have nonempty := (linked.named index inside notRoot).1
    rw [atRoot] at path
    split at path
    · exact append_ne_slash nonempty "" (by simpa using path.symm)
    · exact append_ne_slash nonempty _ path.symm
  · rintro rfl
    exact linked.root.2.2

/-- A node stands below the one that it names as its parent. -/
theorem below_parentAt?
    (linked : store.WellLinked)
    (inside : index < store.size)
    (isAbove : store.parentAt? index = some parent) :
    index ≠ 0 ∧ parent < index ∧ (store.childrenAt parent).count index = 1 ∧
      store.pathAt index = Path.child (store.pathAt parent) (store.nameAt index) := by
  have notRoot : index ≠ 0 := by
    rintro rfl
    rw [linked.root.1] at isAbove
    contradiction
  obtain ⟨other, earlier, otherAbove, once, path⟩ := linked.below index inside notRoot
  obtain rfl : other = parent := Option.some.inj (otherAbove.symm.trans isAbove)
  have parentInside : other < store.size := Nat.lt_trans earlier inside
  refine ⟨notRoot, earlier, once, ?_⟩
  simp only [Path.child, linked.pathAt_eq_slash_iff parentInside]
  exact path

/-- A child is listed by the node above it. -/
theorem mem_childrenAt_iff
    (linked : store.WellLinked) :
    child ∈ store.childrenAt parent ↔
      child < store.size ∧ store.parentAt? child = some parent := by
  constructor
  · exact linked.listed parent child
  · rintro ⟨inside, isAbove⟩
    obtain ⟨_, _, once, _⟩ := linked.below_parentAt? inside isAbove
    exact List.count_pos_iff.mp (by omega)

/-- A name leads from a node to the only child of that name. -/
theorem childNumber?_eq_some_iff
    (linked : store.WellLinked) :
    store.childNumber? parent name = some child ↔
      child < store.size ∧ store.parentAt? child = some parent ∧ store.nameAt child = name := by
  rw [childNumber?_eq_find?]
  have found {child : Nat}
      (search : ((store.childrenAt parent).find? fun child =>
        (store.entries[child]?).any fun entry => entry.name == name) = some child) :
      child < store.size ∧ store.parentAt? child = some parent ∧ store.nameAt child = name := by
    obtain ⟨inside, above⟩ := linked.listed parent child (List.mem_of_find?_eq_some search)
    have named := List.find?_some search
    exact ⟨inside, above, (any_name_eq_true_iff inside name).mp named⟩
  constructor
  · exact found
  · rintro ⟨inside, above, named⟩
    cases search : (store.childrenAt parent).find? fun child =>
        (store.entries[child]?).any fun entry => entry.name == name with
    | none =>
        have missed := List.find?_eq_none.mp search child
          (linked.mem_childrenAt_iff.mpr ⟨inside, above⟩)
        exact absurd ((any_name_eq_true_iff inside name).mpr named) missed
    | some other =>
        obtain ⟨otherInside, otherAbove, otherNamed⟩ := found search
        rw [linked.distinct other otherInside child inside (otherAbove.trans above.symm)
          (otherNamed.trans named.symm)]

/-! ## Stores stay linked -/

theorem empty : WellLinked .empty where
  root := ⟨rfl, rfl, rfl⟩
  below := by
    intro index inside notRoot
    change index < 1 at inside
    omega
  named := by
    intro index inside notRoot
    change index < 1 at inside
    omega
  listed := by
    intro index child member
    cases index with
    | zero => simp [childrenAt, Store.empty, Entry.new] at member
    | succ index => simp [childrenAt, Store.empty] at member
  distinct := by
    intro first firstInside second secondInside _ _
    change first < 1 at firstInside
    change second < 1 at secondInside
    omega

/-- A change of an entry that leaves the links alone keeps a store linked. -/
theorem modify
    {change : Entry → Entry}
    (linked : store.WellLinked)
    (index : Nat)
    (keeps : Entry.KeepsLinks change) :
    (store.modify index change).WellLinked := by
  have sameName (asked : Nat) : (store.modify index change).nameAt asked = store.nameAt asked :=
    elim_modify "" keeps.name
  have samePath (asked : Nat) : (store.modify index change).pathAt asked = store.pathAt asked :=
    elim_modify "/" keeps.path
  have sameParent (asked : Nat) :
      (store.modify index change).parentAt? asked = store.parentAt? asked :=
    elim_modify none keeps.parent
  have sameChildren (asked : Nat) :
      (store.modify index change).childrenAt asked = store.childrenAt asked :=
    elim_modify [] keeps.children
  constructor
  · simpa only [sameName, samePath, sameParent] using linked.root
  · simpa only [size_modify, sameName, samePath, sameParent, sameChildren] using linked.below
  · simpa only [size_modify, sameName] using linked.named
  · simpa only [size_modify, sameParent, sameChildren] using linked.listed
  · simpa only [size_modify, sameName, sameParent] using linked.distinct

/-- A new child keeps a store linked, if no child of the node has its name yet. -/
theorem addChild
    (linked : store.WellLinked)
    (inside : parent < store.size)
    (segment : Path.IsSegment name)
    (missing : store.childNumber? parent name = none) :
    (store.addChild parent name).1.WellLinked := by
  have unlisted : store.size ∉ store.childrenAt parent := by
    intro member
    exact Nat.lt_irrefl _ (linked.listed parent store.size member).1
  have alone (other : Nat) (otherInside : other < store.size)
      (sameParent : store.parentAt? other = some parent) : store.nameAt other ≠ name := by
    intro sameName
    have found := linked.childNumber?_eq_some_iff.mpr ⟨otherInside, sameParent, sameName⟩
    rw [missing] at found
    contradiction
  constructor
  case root =>
    have notNew : 0 ≠ store.size := Nat.ne_of_lt store.nonempty
    simpa only [parentAt?_addChild, nameAt_addChild, pathAt_addChild, if_neg notNew]
      using linked.root
  case below =>
    intro index bound notRoot
    rw [size_addChild] at bound
    by_cases new : index = store.size
    · subst new
      refine ⟨parent, inside, ?_, ?_, ?_⟩
      · rw [parentAt?_addChild, if_pos rfl]
      · rw [childrenAt_addChild inside, if_pos rfl, List.count_append,
          List.count_eq_zero.mpr unlisted]
        simp
      · rw [pathAt_addChild, if_pos rfl, pathAt_addChild, if_neg (Nat.ne_of_lt inside),
          nameAt_addChild, if_pos rfl, Path.child]
        simp only [linked.pathAt_eq_slash_iff inside]
    · have old : index < store.size := by omega
      obtain ⟨above, earlier, isAbove, once, path⟩ := linked.below index old notRoot
      have aboveOld : above ≠ store.size := by omega
      refine ⟨above, earlier, ?_, ?_, ?_⟩
      · rw [parentAt?_addChild, if_neg new, isAbove]
      · rw [childrenAt_addChild inside]
        split
        · rename_i same
          have unequal : store.size ≠ index := fun equal => new equal.symm
          rw [List.count_append, ← same, once]
          simp [unequal]
        · exact once
      · rw [pathAt_addChild, if_neg new, pathAt_addChild, if_neg aboveOld, nameAt_addChild,
          if_neg new]
        exact path
  case named =>
    intro index bound notRoot
    rw [size_addChild] at bound
    rw [nameAt_addChild]
    split
    · exact segment
    · exact linked.named index (by omega) notRoot
  case listed =>
    intro index child member
    rw [size_addChild, parentAt?_addChild]
    rw [childrenAt_addChild inside] at member
    split at member
    · rename_i same
      subst same
      rcases List.mem_append.mp member with old | new
      · obtain ⟨bound, above⟩ := linked.listed index child old
        rw [if_neg (Nat.ne_of_lt bound)]
        exact ⟨Nat.lt_succ_of_lt bound, above⟩
      · rw [if_pos (List.mem_singleton.mp new)]
        exact ⟨by simp [List.mem_singleton.mp new], rfl⟩
    · obtain ⟨bound, above⟩ := linked.listed index child member
      rw [if_neg (Nat.ne_of_lt bound)]
      exact ⟨Nat.lt_succ_of_lt bound, above⟩
  case distinct =>
    intro first firstBound second secondBound sameParent sameName
    rw [size_addChild] at firstBound secondBound
    rw [parentAt?_addChild, parentAt?_addChild] at sameParent
    rw [nameAt_addChild, nameAt_addChild] at sameName
    by_cases firstNew : first = store.size
    · by_cases secondNew : second = store.size
      · rw [firstNew, secondNew]
      · rw [if_pos firstNew, if_neg secondNew] at sameParent sameName
        exact absurd sameName.symm (alone second (by omega) sameParent.symm)
    · by_cases secondNew : second = store.size
      · rw [if_neg firstNew, if_pos secondNew] at sameParent sameName
        exact absurd sameName (alone first (by omega) sameParent)
      · rw [if_neg firstNew, if_neg secondNew] at sameParent sameName
        exact linked.distinct first (by omega) second (by omega) sameParent sameName

end WellLinked

end Store
end ContentAccess
