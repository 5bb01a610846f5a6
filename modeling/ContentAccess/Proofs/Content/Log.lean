import Mathlib.Data.List.Infix
import ContentAccess.Proofs.Content.Agreement

/-!
# Stores as the log of their changes

A store that is built by changes is known from the log of the changes alone: which nodes
there are, what each of them holds, and in what order its children are listed.  Of the
changes to one place the last one counts, and changes to different places can be made
in either order.
-/

namespace ContentAccess
namespace Store

/-! ## What a change says about a route -/

namespace Change

/-- The path that a change is made at. -/
def path : Change → String
  | .insert path | .setTypeMarker path _ | .insertProperty path _ _ => path

/-- The segments of the path that a change is made at. -/
def route (change : Change) : List String :=
  Path.segments change.path

/-- The type marker that a change sets at a route. -/
def typeMarkerAt? (asked : List String) : Change → Option String
  | .setTypeMarker path typeMarker => if Path.segments path = asked then some typeMarker else none
  | .insert _ | .insertProperty _ _ _ => none

/-- The property that a change sets at a route. -/
def entryAt? (asked : List String) : Change → Option (String × PropertyValue)
  | .insertProperty path name value =>
      if Path.segments path = asked then some (name, value) else none
  | .insert _ | .setTypeMarker _ _ => none

/-- The value that a change sets at a route for a property. -/
def valueAt? (asked : List String) (name : String) : Change → Option PropertyValue
  | .insertProperty path present value =>
      if Path.segments path = asked ∧ present = name then some value else none
  | .insert _ | .setTypeMarker _ _ => none

/-- The child of a route that a change mentions. -/
def childAt? (asked : List String) (change : Change) : Option String :=
  Path.nextAfter? asked change.route

/-- A change sets nothing at other routes than its own. -/
theorem typeMarkerAt?_of_ne
    {change : Change}
    {asked : List String}
    (other : change.route ≠ asked) :
    change.typeMarkerAt? asked = none := by
  cases change with
  | setTypeMarker path typeMarker => exact if_neg other
  | insert path => rfl
  | insertProperty path name value => rfl

theorem entryAt?_of_ne
    {change : Change}
    {asked : List String}
    (other : change.route ≠ asked) :
    change.entryAt? asked = none := by
  cases change with
  | insertProperty path name value => exact if_neg other
  | insert path => rfl
  | setTypeMarker path typeMarker => rfl

theorem valueAt?_of_ne
    {change : Change}
    {asked : List String}
    (other : change.route ≠ asked)
    (name : String) :
    change.valueAt? asked name = none := by
  cases change with
  | insertProperty path present value => exact if_neg fun own => other own.1
  | insert path => rfl
  | setTypeMarker path typeMarker => rfl

end Change

/-! ## One change -/

section Changing

variable {store : Store}

/-- Every change opens its route and then changes the node that it leads to. -/
theorem Change.apply_eq
    (store : Store)
    (change : Change) :
    change.apply store =
      (store.reach change.path).1.modify (store.reach change.path).2
        (Entry.amended (change.typeMarkerAt? change.route) (change.entryAt? change.route).toList) := by
  cases change with
  | insert path => exact (modify_amended_none _ _).symm
  | setTypeMarker path typeMarker =>
      simp only [Change.typeMarkerAt?, Change.route, Change.path, if_true]
      rfl
  | insertProperty path name value =>
      simp only [Change.entryAt?, Change.route, Change.path, if_true]
      rfl

/-- What a route holds after a change, from what it held before. -/
def Change.effect (change : Change) (asked : List String) (former : Option Contents) :
    Option Contents :=
  if asked <+: change.route then
    some (((former.getD .blank).listing (change.childAt? asked)).amended
      (change.typeMarkerAt? asked) (change.entryAt? asked).toList)
  else former

/-- A change has its effect on every route. -/
theorem WellLinked.contents?_apply
    (linked : store.WellLinked)
    (change : Change)
    (asked : List String) :
    (change.apply store).contents? asked = change.effect asked (store.contents? asked) := by
  have opened : Opened store change.route (store.reach change.path) :=
    linked.opened_reach change.path
  rw [change.apply_eq, opened.linked.contents?_modify_amended opened.inside, opened.leads,
    opened.contents, Change.effect]
  by_cases own : asked = change.route
  · subst own
    have begins := List.prefix_refl change.route
    rw [if_pos rfl, if_pos begins, if_pos begins]
    rfl
  · rw [if_neg own, Change.typeMarkerAt?_of_ne (Ne.symm own), Change.entryAt?_of_ne (Ne.symm own)]
    rfl

end Changing

/-! ## All changes -/

/-- The store that changes make of a root, one after another. -/
def replayed (changes : List Change) : Store :=
  changes.foldl Change.apply .empty

theorem replayed_concat
    (changes : List Change)
    (change : Change) :
    replayed (changes ++ [change]) = change.apply (replayed changes) := by
  rw [replayed, List.foldl_append]
  rfl

theorem built_replayed
    (changes : List Change) :
    (replayed changes).Built := by
  induction changes using List.reverseRecOn with
  | nil => exact .empty
  | append_singleton changes change built =>
      rw [replayed_concat]
      exact built.changed change

/-- A change leads to the route or past it. -/
def Mentioned (changes : List Change) (asked : List String) : Prop :=
  asked = [] ∨ ∃ change ∈ changes, asked <+: change.route

instance (changes : List Change) (asked : List String) : Decidable (Mentioned changes asked) :=
  inferInstanceAs (Decidable (_ ∨ _))

/-- What changes say about a route: of what is set the last counts, and children are
listed as they are first mentioned. -/
def recounted (changes : List Change) (asked : List String) : Contents where
  typeMarker := (changes.filterMap fun change => change.typeMarkerAt? asked).getLast?
  properties := .ofList (changes.filterMap fun change => change.entryAt? asked)
  childNames := (changes.filterMap fun change => change.childAt? asked).eraseDups

/-- What is said last comes last. -/
theorem filterMap_concat
    (said : α → Option β)
    (front : List α)
    (last : α) :
    (front ++ [last]).filterMap said = front.filterMap said ++ (said last).toList := by
  rw [List.filterMap_append]
  cases isSaid : said last <;> simp [isSaid]

theorem recounted_concat
    (changes : List Change)
    (change : Change)
    (asked : List String) :
    recounted (changes ++ [change]) asked =
      ((recounted changes asked).listing (change.childAt? asked)).amended
        (change.typeMarkerAt? asked) (change.entryAt? asked).toList := by
  refine Contents.ext ?_ ?_ ?_
  · simp only [recounted, filterMap_concat, List.getLast?_append, Contents.amended,
      Contents.typeMarker_listing]
    cases change.typeMarkerAt? asked <;> rfl
  · simp only [recounted, filterMap_concat, Properties.ofList, Properties.insertAll_append,
      Contents.amended, Contents.properties_listing]
  · simp only [recounted, filterMap_concat, Contents.amended]
    cases change.childAt? asked with
    | none => rw [Option.toList_none, List.append_nil, Contents.listing]
    | some name =>
        simp only [Option.toList_some, eraseDups_concat, Contents.listing, List.mem_eraseDups]
        split <;> rfl

/-- What is not mentioned holds nothing. -/
theorem recounted_of_not_mentioned
    {changes : List Change}
    {asked : List String}
    (unmentioned : ¬Mentioned changes asked) :
    recounted changes asked = .blank := by
  have elsewhere {change : Change} (member : change ∈ changes) : ¬asked <+: change.route :=
    fun begins => unmentioned (.inr ⟨change, member, begins⟩)
  have notOwn {change : Change} (member : change ∈ changes) : change.route ≠ asked := by
    intro own
    apply elsewhere member
    rw [own]
  have noTypeMarker : (changes.filterMap fun change => change.typeMarkerAt? asked) = [] :=
    List.filterMap_eq_nil_iff.mpr fun change member => Change.typeMarkerAt?_of_ne (notOwn member)
  have noEntry : (changes.filterMap fun change => change.entryAt? asked) = [] :=
    List.filterMap_eq_nil_iff.mpr fun change member => Change.entryAt?_of_ne (notOwn member)
  have noChild : (changes.filterMap fun change => change.childAt? asked) = [] :=
    List.filterMap_eq_nil_iff.mpr fun change member => if_neg (elsewhere member)
  rw [recounted, noTypeMarker, noEntry, noChild]
  rfl

theorem mentioned_concat_iff
    {changes : List Change}
    {change : Change}
    {asked : List String} :
    Mentioned (changes ++ [change]) asked ↔
      Mentioned changes asked ∨ asked <+: change.route := by
  unfold Mentioned
  simp only [List.mem_append, List.mem_singleton, or_and_right, exists_or, exists_eq_left, or_assoc]

/-- A store that changes have made holds what the changes say. -/
theorem contents?_replayed
    (changes : List Change)
    (asked : List String) :
    (replayed changes).contents? asked =
      if Mentioned changes asked then some (recounted changes asked) else none := by
  induction changes using List.reverseRecOn with
  | nil =>
      cases asked with
      | nil => rfl
      | cons segment rest =>
          rw [if_neg (by simp [Mentioned])]
          rfl
  | append_singleton changes change step =>
      rw [replayed_concat, (built_replayed changes).linked.contents?_apply, step, Change.effect,
        recounted_concat]
      simp only [mentioned_concat_iff]
      by_cases begins : asked <+: change.route
      · have mentionedNow : Mentioned changes asked ∨ asked <+: change.route := .inr begins
        rw [if_pos begins, if_pos mentionedNow]
        by_cases mentioned : Mentioned changes asked
        · rw [if_pos mentioned, Option.getD_some]
        · rw [if_neg mentioned, recounted_of_not_mentioned mentioned, Option.getD_none]
      · have notOwn : change.route ≠ asked := by
          intro own
          apply begins
          rw [own]
        have noChild : change.childAt? asked = none := if_neg begins
        simp only [begins, or_false, if_false, noChild, Change.typeMarkerAt?_of_ne notOwn,
          Change.entryAt?_of_ne notOwn]
        rfl

theorem isSome_contents?_replayed
    {changes : List Change}
    {asked : List String} :
    ((replayed changes).contents? asked).isSome ↔ Mentioned changes asked := by
  rw [contents?_replayed]
  split <;> simp [*]

/-- The value of a property is the one that was set last. -/
theorem get?_recounted
    (changes : List Change)
    (asked : List String)
    (name : String) :
    (recounted changes asked).properties.get? name =
      (changes.filterMap fun change => change.valueAt? asked name).getLast? := by
  have values (change : Change) :
      ((change.entryAt? asked).bind fun entry =>
        if entry.1 = name then some entry.2 else none) = change.valueAt? asked name := by
    cases change with
    | insert path => rfl
    | setTypeMarker path typeMarker => rfl
    | insertProperty path present value =>
        unfold Change.entryAt? Change.valueAt?
        by_cases own : Path.segments path = asked <;> simp [own]
  simp only [recounted, Properties.get?_ofList, Properties.valuesOf, List.filterMap_filterMap,
    values]

/-! ## The log and the nodes -/

open ContentNode

/-- A store is what a log of changes makes it. -/
structure Recounts (store : Store) (changes : List Change) : Prop where
  /-- There is a node at the root, and wherever a change leads to or past. -/
  found : ∀ path, (store.node? path).isSome ↔
    Path.segments path = [] ∨ ∃ change ∈ changes, Path.segments path <+: change.route
  /-- There is one node for every such place, and no other. -/
  size : store.size =
    ([] :: changes.flatMap fun change => change.route.inits).eraseDups.length
  /-- The last type marker counts. -/
  typeMarker : ∀ path place, store.node? path = some place →
    typeMarker? place =
      (changes.filterMap fun change => change.typeMarkerAt? (Path.segments path)).getLast?
  /-- The last value of a property counts. -/
  properties : ∀ path place, store.node? path = some place → ∀ name,
    place.entry.properties.get? name =
      (changes.filterMap fun change => change.valueAt? (Path.segments path) name).getLast?
  /-- Children are listed once, as they are first mentioned. -/
  children : ∀ path place, store.node? path = some place →
    (children place).map ContentNode.name =
      (changes.filterMap fun change => change.childAt? (Path.segments path)).eraseDups
  /-- Paths lead to the same node exactly when they have the same segments. -/
  spelling : ∀ path place, store.node? path = some place → ∀ other,
    store.node? other = some place ↔ Path.segments other = Path.segments path

theorem recounts_replayed
    (changes : List Change) :
    (replayed changes).Recounts changes := by
  have linked := (built_replayed changes).linked
  have holds {path : String} {place : (replayed changes).Place}
      (found : (replayed changes).node? path = some place) :
      recounted changes (Path.segments path) =
        ⟨typeMarker? place, place.entry.properties, (children place).map ContentNode.name⟩ :=
    linked.eq_of_contents? found (contents?_replayed changes (Path.segments path))
  constructor
  case found =>
    intro path
    rw [linked.isSome_node?_iff, isSome_contents?_replayed]
    rfl
  case size =>
    refine linked.size_eq_length (nodup_eraseDups _) fun route => ?_
    rw [isSome_contents?_replayed, List.mem_eraseDups, List.mem_cons, List.mem_flatMap]
    simp only [List.mem_inits]
    rfl
  case typeMarker =>
    intro path place found
    exact (congrArg Contents.typeMarker (holds found)).symm
  case properties =>
    intro path place found name
    rw [← get?_recounted, holds found]
  case children =>
    intro path place found
    exact (congrArg Contents.childNames (holds found)).symm
  case spelling =>
    intro path place found other
    rw [linked.node?_eq_some_iff, linked.node?_eq_some_iff.mp found]
    exact eq_comm

/-! ## Changes to different places -/

/-- What a change sets: the type marker or a property of a node, or nothing. -/
def Change.target? : Change → Option (List String × Option String)
  | .insert _ => none
  | .setTypeMarker path _ => some (Path.segments path, none)
  | .insertProperty path name _ => some (Path.segments path, some name)

/-- Two changes do not set the same thing. -/
def Change.Apart (first second : Change) : Prop :=
  ∀ target, first.target? = some target → second.target? ≠ some target

theorem Change.target?_of_typeMarkerAt?
    {asked : List String}
    (change : Change)
    (typeMarker : String)
    (isSet : change.typeMarkerAt? asked = some typeMarker) :
    change.target? = some (asked, none) := by
  cases change with
  | insert path => contradiction
  | insertProperty path name value => contradiction
  | setTypeMarker path marker =>
      simp only [typeMarkerAt?, Option.ite_none_right_eq_some] at isSet
      rw [target?, isSet.1]

theorem Change.target?_of_valueAt?
    {asked : List String}
    {name : String}
    (change : Change)
    (value : PropertyValue)
    (isSet : change.valueAt? asked name = some value) :
    change.target? = some (asked, some name) := by
  cases change with
  | insert path => contradiction
  | setTypeMarker path marker => contradiction
  | insertProperty path present value =>
      simp only [valueAt?, Option.ite_none_right_eq_some] at isSet
      rw [target?, isSet.1.1, isSet.1.2]

/-- Of two changes apart, only one has something to say about what either sets. -/
theorem Change.Apart.silent
    {first second : Change}
    {target : List String × Option String}
    {said : Change → Option β}
    (apart : first.Apart second)
    (targets : ∀ change value, said change = some value → change.target? = some target) :
    said first = none ∨ said second = none := by
  cases firstSaid : said first with
  | none => exact .inl rfl
  | some value =>
      cases secondSaid : said second with
      | none => exact .inr rfl
      | some other =>
          exact absurd (targets second other secondSaid)
            (apart target (targets first value firstSaid))

/-- Neighbours of which one has nothing to say can change places. -/
theorem filterMap_swap
    {said : α → Option β}
    {first second : α}
    (silent : said first = none ∨ said second = none)
    (before after : List α) :
    (before ++ first :: second :: after).filterMap said =
      (before ++ second :: first :: after).filterMap said := by
  rcases silent with first | second <;> simp [List.filterMap_append, List.filterMap_cons, *]

/-- Changes that set different things can be made in either order, up to the order in
which children are listed. -/
theorem agree_replayed_swap
    {first second : Change}
    (apart : first.Apart second)
    (before after : List Change) :
    Agree List.Perm
      (replayed (before ++ first :: second :: after))
      (replayed (before ++ second :: first :: after)) := by
  have sameChanges (change : Change) :
      change ∈ before ++ first :: second :: after ↔ change ∈ before ++ second :: first :: after := by
    simp only [List.mem_append, List.mem_cons, or_left_comm]
  refine (built_replayed _).linked.agree (built_replayed _).linked fun asked => ?_
  have sameMentioned :
      Mentioned (before ++ first :: second :: after) asked ↔
        Mentioned (before ++ second :: first :: after) asked := by
    simp only [Mentioned, sameChanges]
  rw [contents?_replayed, contents?_replayed]
  simp only [sameMentioned]
  split
  · refine .some ⟨?_, ?_, ?_⟩
    · exact congrArg List.getLast?
        (filterMap_swap (apart.silent Change.target?_of_typeMarkerAt?) before after)
    · refine Properties.ext_get? fun name => ?_
      rw [get?_recounted, get?_recounted,
        filterMap_swap (apart.silent Change.target?_of_valueAt?)]
    · refine (List.perm_ext_iff_of_nodup (nodup_eraseDups _) (nodup_eraseDups _)).mpr fun name => ?_
      simp only [List.mem_eraseDups, List.mem_filterMap, sameChanges]
  · exact .none

/-- A store is known from the log of its changes, in which changes to different places can
change places. -/
theorem replayed_as_recounted
    (changes : List Change) :
    (replayed changes).Recounts changes ∧
      ∀ before first second after, changes = before ++ first :: second :: after →
        first.Apart second →
        Agree List.Perm (replayed changes) (replayed (before ++ second :: first :: after)) := by
  refine ⟨recounts_replayed changes, ?_⟩
  rintro before first second after rfl apart
  exact agree_replayed_swap apart before after

/-- A node that is written under two spellings is one node. -/
theorem replayed_as_recounted_for_two_spellings :
    let marked : Change := .setTypeMarker "a/b" "page"
    let titled : Change := .insertProperty "/a//b/" "title" (.single "B")
    let store := replayed [.insert "a/c", marked, titled]
    marked.Apart titled ∧ store.size = 4 ∧
      (∃ place, store.node? "//a/b" = some place ∧ typeMarker? place = some "page" ∧
        place.entry.properties.get? "title" = some (.single "B")) ∧
      (∃ place, store.node? "a" = some place ∧
        (children place).map ContentNode.name = ["c", "b"]) ∧
      Agree List.Perm store (replayed [.insert "a/c", titled, marked]) := by
  intro marked titled store
  have apart : marked.Apart titled := by
    rintro target isSet equal
    rw [← isSet] at equal
    simp [marked, titled, Change.target?] at equal
  obtain ⟨recounts, swaps⟩ := replayed_as_recounted [.insert "a/c", marked, titled]
  refine ⟨apart, ?_, ?_, ?_, swaps [.insert "a/c"] marked titled [] rfl apart⟩
  · rw [recounts.size]
    decide +kernel
  · have there : (store.node? "//a/b").isSome := by decide +kernel
    obtain ⟨place, found⟩ := Option.isSome_iff_exists.mp there
    refine ⟨place, found, ?_, ?_⟩
    · rw [recounts.typeMarker _ place found]
      decide +kernel
    · rw [recounts.properties _ place found]
      decide +kernel
  · have there : (store.node? "a").isSome := by decide +kernel
    obtain ⟨place, found⟩ := Option.isSome_iff_exists.mp there
    refine ⟨place, found, ?_⟩
    rw [recounts.children _ place found]
    decide +kernel

end Store
end ContentAccess
