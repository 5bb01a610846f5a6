import ContentAccess.Content.Snapshot.Json
import ContentAccess.Proofs.Content.RoundTrip

/-!
# Snapshots that are written and read again

A snapshot is read back from the JSON that it is written as.  What a node does not have is left
out, and nothing else is read from what is missing.  So a store can be sent as JSON.
-/

namespace ContentAccess

/-- Elements that are read back one by one are read back as a list. -/
theorem Record.mapM_map_eq_some
    {read : β → Option α}
    {write : α → β}
    {list : List α}
    (back : ∀ element ∈ list, read (write element) = some element) :
    (list.map write).mapM read = some list := by
  induction list with
  | nil => rfl
  | cons first rest further =>
      have others := further fun element member => back element (List.mem_cons_of_mem first member)
      rw [List.map_cons, List.mapM_cons, back first List.mem_cons_self, others]
      rfl

/-! ## Properties -/

/-- A text, a list of one text and an empty list are told apart. -/
theorem PropertyValue.ofJson?_toJson
    (value : PropertyValue) :
    ofJson? value.toJson = some value := by
  cases value with
  | single text => rfl
  | multiple texts =>
      have read : (Json.array (texts.map .string)).texts? = some texts :=
        Record.mapM_map_eq_some fun _ _ => rfl
      rw [toJson, ofJson?, read, Option.map_some]
      simp

theorem Properties.ofJson?_toJson
    (properties : Properties) :
    ofJson? properties.toJson = some properties := by
  have read : (properties.entries.map fun entry => (entry.1, entry.2.toJson)).mapM
      (fun member => (PropertyValue.ofJson? member.2).map (member.1, ·)) =
        some properties.entries :=
    Record.mapM_map_eq_some fun entry _ => by
      rw [PropertyValue.ofJson?_toJson, Option.map_some]
  rw [toJson, ofJson?, read, Option.map_some, ofList_entries]

namespace Snapshot

/-! ## Fields -/

theorem listToJson_eq_map
    (children : List Snapshot) :
    listToJson children = children.map toJson := by
  induction children with
  | nil => rfl
  | cons child rest further => rw [listToJson, List.map_cons, further]

theorem listOfJson?_eq_mapM
    (items : List Json) :
    listOfJson? items = items.mapM ofJson? := by
  induction items with
  | nil => rw [listOfJson?, List.mapM_nil]; rfl
  | cons json rest further =>
      rw [listOfJson?, List.mapM_cons, further]

/-- A written snapshot has the fields that are not empty. -/
theorem fields?_toJson
    (name : String)
    (typeMarker : Option String)
    (properties : Properties)
    (children : List Snapshot) :
    (toJson ⟨name, typeMarker, properties, children⟩).fields? fieldNames =
      some [some (.string name), typeMarker.map .string,
        if properties.isEmpty then none else some properties.toJson,
        if children.isEmpty then none else some (.array (children.map toJson))] := by
  rw [toJson, listToJson_eq_map]
  cases typeMarker <;> cases properties.isEmpty <;> cases children.isEmpty <;>
    simp [Json.fields?, Record.fields?, Record.value?, fieldNames]

/-- A snapshot is read field by field. -/
theorem ofJson?_eq_of_fields?
    {json : Json}
    {name typeMarker properties children : Option Json}
    (fields : json.fields? fieldNames = some [name, typeMarker, properties, children]) :
    ofJson? json = do
      let name ← name.elim (some "") Json.text?
      let typeMarker ← typeOfJson? typeMarker
      let properties ← properties.elim (some .empty) Properties.ofJson?
      let children ← children.elim (some []) (Json.list? ofJson?)
      return { name, typeMarker, properties, children } := by
  rw [ofJson?]
  -- The reader keeps proofs that what it reads gets smaller; past its matches they do not matter.
  split
  · rename_i read
    rw [fields] at read
    cases read
    congr 1
    funext name
    congr 1
    funext typeMarker
    congr 1
    funext properties
    cases children with
    | none => rfl
    | some json =>
        cases json with
        | array items => simp only [listOfJson?_eq_mapM, Option.elim_some, Json.list?]
        | _ => rfl
  · rename_i other
    exact absurd fields (other _ _ _ _)

/-- Properties that are left out are read as none. -/
theorem properties_read_back
    (properties : Properties) :
    (if properties.isEmpty then none else some properties.toJson).elim (some .empty)
      Properties.ofJson? = some properties := by
  split
  · rename_i isEmpty
    exact congrArg some (Properties.ext (List.isEmpty_iff.mp isEmpty).symm)
  · exact properties.ofJson?_toJson

theorem typeOfJson?_map_string
    (typeMarker : Option String) :
    typeOfJson? (typeMarker.map .string) = some typeMarker := by
  cases typeMarker <;> rfl

/-- Children that are left out are read as none. -/
theorem children_read_back
    {children : List Snapshot}
    (back : ∀ child ∈ children, ofJson? child.toJson = some child) :
    (if children.isEmpty then none else some (Json.array (children.map toJson))).elim (some [])
      (Json.list? ofJson?) = some children := by
  split
  · rename_i isEmpty
    exact congrArg some (List.isEmpty_iff.mp isEmpty).symm
  · exact Record.mapM_map_eq_some back

theorem ofJson?_toJson
    (snapshot : Snapshot) :
    ofJson? snapshot.toJson = some snapshot := by
  induction snapshot using Snapshot.induction with
  | node snapshot back =>
      obtain ⟨name, typeMarker, properties, children⟩ := snapshot
      rw [ofJson?_eq_of_fields? (fields?_toJson name typeMarker properties children),
        typeOfJson?_map_string, properties_read_back, children_read_back back]
      rfl

/-- A snapshot is read back as it was from the JSON that it is written as.  For a store this gives
a store with the same snapshot. -/
theorem json_lossless :
    (∀ snapshot : Snapshot, ofJson? snapshot.toJson = some snapshot) ∧
    (∀ store : Store, store.Built → ∃ reread,
      (ofJson? store.snapshot.toJson).map Store.ofSnapshot = some (.ok reread) ∧
        reread.snapshot = store.snapshot) := by
  refine ⟨ofJson?_toJson, fun store built => ?_⟩
  obtain ⟨reread, read, same⟩ := built.linked.exists_reread
  exact ⟨reread, by rw [ofJson?_toJson, Option.map_some, read], same⟩

/-- No text, one text and a text that stands alone are kept apart, and so are an empty type marker
and none. -/
theorem json_lossless_with_near_misses :
    let store := Store.replayed [.insertProperty "a" "nothing" (.multiple []),
      .insertProperty "a" "listed" (.multiple ["x"]), .insertProperty "a" "alone" (.single "x"),
      .setTypeMarker "b" "", .insert "c"]
    ∃ reread, (ofJson? store.snapshot.toJson).map Store.ofSnapshot = some (.ok reread) ∧
      reread.snapshot = store.snapshot := by
  intro store
  exact json_lossless.2 store (Store.built_replayed _)

end Snapshot
end ContentAccess
