import ContentAccess.Proofs.Matcher.Lifting
import ContentAccess.Proofs.Matcher.Simulation

/-!
# Decisions and the case of type markers

Type markers only tell what a node is, and for that they are compared up to the case of ASCII
letters.  So neither the case of the markers in a tree nor that in a layout matters, nor the order
in which a layout lists the types of containers.
-/

namespace ContentAccess

namespace Text

variable {first second third fourth : String}

theorem sameLetters_symm
    (same : sameLetters first second = true) :
    sameLetters second first = true := by
  rw [sameLetters, beq_iff_eq] at same ⊢
  exact same.symm

/-- The case of letters makes no difference for whether two texts are the same up to it. -/
theorem sameLetters_congr
    (same : sameLetters first second = true)
    (sameOther : sameLetters third fourth = true) :
    sameLetters first third = sameLetters second fourth := by
  rw [sameLetters, beq_iff_eq] at same sameOther
  rw [sameLetters, sameLetters, same, sameOther]

/-- A type in one list stands for the same in another list that has it in some case. -/
theorem any_sameLetters_of_covered
    {types others : List String}
    (covered : ∀ type ∈ types, ∃ same ∈ others, sameLetters type same = true)
    (same : sameLetters first second = true)
    (listed : (types.any fun type => sameLetters type first) = true) :
    (others.any fun type => sameLetters type second) = true := by
  obtain ⟨type, isListed, isFirst⟩ := List.any_eq_true.mp listed
  obtain ⟨other, otherListed, sameType⟩ := covered type isListed
  refine List.any_eq_true.mpr ⟨other, otherListed, ?_⟩
  rw [← sameLetters_congr sameType same]
  exact isFirst

end Text

/-! ## Layouts -/

namespace Layout

/-- Two layouts differ at most in the case of their type markers, and in the order and repetition
of those of containers. -/
structure SameUpToCase (layout other : Layout) : Prop extends SameButTypes layout other where
  leafType : Text.sameLetters layout.leafType other.leafType = true
  containerTypes : ∀ containerType ∈ layout.containerTypes, ∃ same ∈ other.containerTypes,
    Text.sameLetters containerType same = true
  containerTypesBack : ∀ containerType ∈ other.containerTypes, ∃ same ∈ layout.containerTypes,
    Text.sameLetters containerType same = true

end Layout

namespace ContentNode

open Layout

variable {First : Type u} {Second : Type v} [ContentNode First] [ContentNode Second]
  {one : First} {other : Second} {layout otherLayout : Layout}

/-- Neither node has a type marker, or both have the same up to the case of letters. -/
def SameMarker (one : First) (other : Second) : Prop :=
  Option.Rel (fun marker otherMarker => Text.sameLetters marker otherMarker = true)
    (typeMarker? one) (typeMarker? other)

namespace SameMarker

theorem isLeaf_eq
    (marked : SameMarker one other)
    (types : layout.SameUpToCase otherLayout) :
    layout.isLeaf one = otherLayout.isLeaf other :=
  rel_any marked fun _ _ same => Text.sameLetters_congr same types.leafType

theorem isContainer_eq
    (marked : SameMarker one other)
    (types : layout.SameUpToCase otherLayout) :
    layout.isContainer one = otherLayout.isContainer other :=
  rel_any marked fun _ _ same => Bool.eq_iff_iff.mpr
    ⟨Text.any_sameLetters_of_covered types.containerTypes same,
      Text.any_sameLetters_of_covered types.containerTypesBack (Text.sameLetters_symm same)⟩

end SameMarker
end ContentNode

/-! ## Stores -/

namespace Entry

/-- The entry with its type marker in lower case. -/
def lowered (entry : Entry) : Entry :=
  { entry with typeMarker :=
      entry.typeMarker.map fun marker => String.ofList (Text.lowerCase marker.toList) }

/-- Two entries differ at most in the case of their type markers. -/
structure SameUpToCase (entry other : Entry) : Prop where
  name : entry.name = other.name
  path : entry.path = other.path
  parent : entry.parent = other.parent
  typeMarker : Option.Rel (fun marker otherMarker => Text.sameLetters marker otherMarker = true)
    entry.typeMarker other.typeMarker
  properties : entry.properties = other.properties
  children : entry.children = other.children

/-- Lower case hides nothing but the case of the type marker. -/
theorem sameUpToCase_of_lowered_eq
    {entry other : Entry}
    (same : entry.lowered = other.lowered) :
    SameUpToCase entry other := by
  obtain ⟨sameName, samePath, sameParent, sameMarker, sameProperties, sameChildren⟩ :=
    Entry.mk.inj same
  refine ⟨sameName, samePath, sameParent, ?_, sameProperties, sameChildren⟩
  revert sameMarker
  simp only [Text.sameLetters]
  cases entry.typeMarker <;> cases other.typeMarker <;> simp [String.ofList_inj]

end Entry

namespace Store

open ContentNode

variable {store other : Store}

/-- The store with all type markers in lower case. -/
def lowered (store : Store) : Store where
  entries := store.entries.map Entry.lowered
  nonempty := by simpa using store.nonempty

/-- The nodes have the same number. -/
def SameNumber (place : store.Place) (next : other.Place) : Prop :=
  place.index.val = next.index.val

theorem childNumber?_lowered
    (store : Store)
    (parent : Nat)
    (name : String) :
    store.lowered.childNumber? parent name = store.childNumber? parent name := by
  simp only [childNumber?, lowered, Array.getElem?_map]
  cases store.entries[parent]? with
  | none => rfl
  | some entry =>
      change entry.children.find? _ = entry.children.find? _
      congr 1
      funext child
      cases store.entries[child]? <;> rfl

section Lowered

variable (same : store.lowered = other.lowered)

include same

theorem rel_place?_of_lowered_eq
    (number : Nat) :
    Option.Rel SameNumber (store.place? number) (other.place? number) := by
  have sizes : store.lowered.entries.size = other.lowered.entries.size := by rw [same]
  rw [lowered, lowered, Array.size_map, Array.size_map] at sizes
  unfold place?
  by_cases inside : number < store.entries.size
  · rw [dif_pos inside, dif_pos (sizes ▸ inside)]
    exact .some rfl
  · rw [dif_neg inside, dif_neg (sizes ▸ inside)]
    exact .none

section Nodes

variable {place : store.Place} {next : other.Place} (alike : SameNumber place next)

include alike

theorem sameUpToCase_entry :
    place.entry.SameUpToCase next.entry := by
  have sameAt : store.lowered.entries[place.index.val]? =
      other.lowered.entries[next.index.val]? := by
    rw [same, alike]
  exact Entry.sameUpToCase_of_lowered_eq (by simpa [lowered, Place.entry] using sameAt)

theorem rel_parent? :
    Option.Rel SameNumber (parent? place) (parent? next) := by
  change Option.Rel SameNumber place.parent? next.parent?
  unfold Place.parent?
  rw [(sameUpToCase_entry same alike).parent]
  cases next.entry.parent with
  | none => exact .none
  | some parent =>
      have sameIndex : place.index.val = next.index.val := alike
      simp only [sameIndex]
      split
      · exact .some rfl
      · exact .none

theorem rel_child?
    (name : String) :
    Option.Rel SameNumber (child? place name) (child? next name) := by
  have sameNumber : store.childNumber? place.index name = other.childNumber? next.index name := by
    rw [← childNumber?_lowered, same, childNumber?_lowered, alike]
  change Option.Rel SameNumber ((store.childNumber? place.index name).bind store.place?)
    ((other.childNumber? next.index name).bind other.place?)
  rw [sameNumber]
  cases other.childNumber? next.index name with
  | none => exact .none
  | some number => exact rel_place?_of_lowered_eq same number

theorem forall₂_children :
    List.Forall₂ SameNumber (children place) (children next) := by
  change List.Forall₂ SameNumber (place.entry.children.filterMap store.place?)
    (next.entry.children.filterMap other.place?)
  rw [(sameUpToCase_entry same alike).children]
  induction next.entry.children with
  | nil => exact .nil
  | cons number rest further =>
      have first := rel_place?_of_lowered_eq same number
      rw [List.filterMap_cons, List.filterMap_cons]
      generalize store.place? number = place, other.place? number = next at first
      cases first with
      | none => exact further
      | some first => exact .cons first further

theorem sameMarker_of_lowered_eq :
    SameMarker place next :=
  (sameUpToCase_entry same alike).typeMarker

end Nodes

/-- Stores that only differ in the case of type markers have the same shape, with the nodes in
the same order. -/
theorem sameShape_of_lowered_eq :
    SameShape (@SameNumber store other) := by
  have properties (place : store.Place) (next : other.Place) (alike : SameNumber place next) :
      place.entry.properties = next.entry.properties :=
    (sameUpToCase_entry same alike).properties
  exact {
    path := fun place next alike => (sameUpToCase_entry same alike).path
    name := fun place next alike => (sameUpToCase_entry same alike).name
    hasProperty := fun place next alike property => by
      simp only [ContentNode.hasProperty, properties place next alike]
    hasSeveral := fun place next alike property => by
      simp only [ContentNode.hasSeveral, properties place next alike]
    value := fun place next alike property _ _ => by
      simp only [ContentNode.value?, properties place next alike]
    values := fun place next alike property _ => by
      simp only [ContentNode.values, properties place next alike]
    parent := fun place next alike => rel_parent? same alike
    child := fun place next alike name => rel_child? same alike name
    children := fun place next alike => forall₂_children same alike }

end Lowered

end Store

/-! ## Decisions -/

namespace ContentNode
namespace SameShape

variable {First : Type u} {Second : Type v} [ContentNode First] [ContentNode Second]
  {related : First → Second → Prop} {layout otherLayout : Layout}

theorem sameRoles
    (shape : SameShape related)
    (marked : ∀ one other, related one other → SameMarker one other)
    (types : layout.SameUpToCase otherLayout) :
    SameRoles related layout otherLayout where
  isLeaf one other alike := (marked one other alike).isLeaf_eq types
  isContainer one other alike := (marked one other alike).isContainer_eq types
  isRepositoryRoot _ _ alike := shape.isRepositoryRoot_eq types.root alike

/-- In trees of the same shape whose type markers differ at most in case, under layouts that
differ at most in the case, order and repetition of type markers, related nodes are of the same
kind, walks from them lead to related nodes, and every metadata rule decides the same for them at
every instant. -/
theorem decides_up_to_case
    (shape : SameShape related)
    (marked : ∀ one other, related one other → SameMarker one other)
    (types : layout.SameUpToCase otherLayout) :
    ∀ one other, related one other →
      layout.kind one = otherLayout.kind other ∧
      Option.Rel related (layout.nearestLeaf? one) (otherLayout.nearestLeaf? other) ∧
      Option.Rel related (layout.nearestContainer? one) (otherLayout.nearestContainer? other) ∧
      related (layout.lifted one) (otherLayout.lifted other) ∧
      ∀ (rule : MetadataRule) (now : Instant),
        (MetadataMatcher.mk rule layout).isSatisfied now one =
          (MetadataMatcher.mk rule otherLayout).isSatisfied now other ∧
        (MetadataMatcher.mk rule layout).applies now one =
          (MetadataMatcher.mk rule otherLayout).applies now other := by
  intro one other alike
  have roles := shape.sameRoles marked types
  have same := types.toSameButTypes
  exact ⟨roles.kind_eq alike, shape.rel_nearestLeaf? roles alike,
    shape.rel_nearestContainer? roles alike, shape.related_lifted roles alike,
    fun rule now => ⟨shape.isSatisfied_eq alike same rule now,
      shape.applies_eq roles alike same rule now⟩⟩

/-- A rendition of an asset in a folder, in a store and in another one that shouts all types, under
a layout and another one that lists folders in other letters, in another order and twice.  In both
stores the asset decides for the rendition. -/
theorem decides_up_to_case_when_shouted :
    let changes (asset folder : String) : List Store.Change := [.setTypeMarker "/f" folder,
      .setTypeMarker "/f/a" asset, .insertProperty "/f/a/c/m" "s" (.single "x"), .insert "/f/a/p"]
    let store := Store.replayed (changes "dam:Asset" "sling:Folder")
    let shouted := Store.replayed (changes "DAM:ASSET" "SLING:FOLDER")
    let layout : Layout := ⟨"/", "dam:asset", ["nt:folder", "sling:Folder"], "c", "m", ""⟩
    let other : Layout :=
      ⟨"/", "Dam:Asset", ["sling:folder", "NT:Folder", "Sling:folder"], "c", "m", ""⟩
    let asset : store.Place := ⟨⟨2, by decide +kernel⟩⟩
    let rendition : store.Place := ⟨⟨5, by decide +kernel⟩⟩
    let shoutedRendition : shouted.Place := ⟨⟨5, by decide +kernel⟩⟩
    let granting : MetadataRule := ⟨.allow, false, .text, .equal, "s", ["x"], "/f"⟩
    store ≠ shouted ∧
      layout.nearestLeaf? rendition = some asset ∧
      Option.Rel Store.SameNumber (layout.nearestLeaf? rendition)
        (other.nearestLeaf? shoutedRendition) ∧
      (∀ now, (MetadataMatcher.mk granting layout).applies now rendition = true ∧
        (MetadataMatcher.mk granting other).applies now shoutedRendition = true) ∧
      ∀ (rule : MetadataRule) (now : Instant),
        (MetadataMatcher.mk rule layout).applies now rendition =
          (MetadataMatcher.mk rule other).applies now shoutedRendition := by
  intro changes store shouted layout other asset rendition shoutedRendition granting
  have same : store.lowered = shouted.lowered := by decide +kernel
  have types : layout.SameUpToCase other :=
    ⟨⟨rfl, rfl, rfl, rfl⟩, by decide +kernel, by decide +kernel, by decide +kernel⟩
  obtain ⟨_, leaf, _, _, decided⟩ := decides_up_to_case (Store.sameShape_of_lowered_eq same)
    (fun _ _ alike => Store.sameMarker_of_lowered_eq same alike) types
    rendition shoutedRendition rfl
  have inAsset : layout.nearestLeaf? rendition = some asset := by
    have isAbove : parent? rendition = some asset := by decide +kernel
    calc layout.nearestLeaf? rendition
      _ = layout.nearestLeaf? asset :=
          Layout.nearestLeaf?_of_parent? (by decide +kernel) (by decide +kernel) isAbove
            (by decide +kernel)
      _ = some asset := Layout.nearestLeaf?_of_isLeaf (by decide +kernel)
  have granted (now : Instant) :
      (MetadataMatcher.mk granting layout).applies now rendition = true := by
    let record : store.Place := ⟨⟨4, by decide +kernel⟩⟩
    have isRecord : layout.IsRecord asset record :=
      ⟨⟨⟨3, by decide +kernel⟩⟩, by decide +kernel, by decide +kernel⟩
    have satisfied : (MetadataMatcher.mk granting layout).isSatisfied now asset = true :=
      MetadataMatcher.isSatisfied_of_alone isRecord (by decide +kernel) (by decide +kernel)
        (by decide +kernel) (List.mem_singleton_self "x")
    calc (MetadataMatcher.mk granting layout).applies now rendition
      _ = (false != (MetadataMatcher.mk granting layout).isSatisfied now asset) :=
          MetadataMatcher.applies_of_nearestLeaf? rfl inAsset
      _ = true := by rw [satisfied, Bool.false_bne]
  have alikeAt (now : Instant) := (decided granting now).2
  exact ⟨by decide +kernel, inAsset, leaf,
    fun now => ⟨granted now, (alikeAt now).symm.trans (granted now)⟩,
    fun rule now => (decided rule now).2⟩

end SameShape
end ContentNode
end ContentAccess
