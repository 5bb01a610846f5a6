/-!
# Properties

A property has one text or a list of texts.  The properties of a node are kept
sorted by name, each name once, so that equal collections are the same.
-/

namespace ContentAccess

/-- The value of a property. -/
inductive PropertyValue where
  | single (text : String)
  | multiple (texts : List String)
  deriving DecidableEq, Repr

namespace PropertyValue

/-- The value is a list, even of one text or none. -/
def isMultiple : PropertyValue → Bool
  | single _ => false
  | multiple _ => true

/-- The first text. -/
def first? : PropertyValue → Option String
  | single text => some text
  | multiple texts => texts.head?

/-- All texts. -/
def texts : PropertyValue → List String
  | single text => [text]
  | multiple texts => texts

end PropertyValue

/-- The entries with one more, in place of an entry of the same name. -/
def insertEntry (name : String) (value : PropertyValue) :
    List (String × PropertyValue) → List (String × PropertyValue)
  | [] => [(name, value)]
  | (present, other) :: rest =>
      if name < present then (name, value) :: (present, other) :: rest
      else if name = present then (name, value) :: rest
      else (present, other) :: insertEntry name value rest

/-- Entries keep their names apart from the inserted one. -/
theorem mem_insertEntry {name : String} {value : PropertyValue}
    {entries : List (String × PropertyValue)} {entry : String × PropertyValue}
    (member : entry ∈ insertEntry name value entries) :
    entry = (name, value) ∨ entry ∈ entries := by
  induction entries with
  | nil => simpa [insertEntry] using member
  | cons first rest step =>
      obtain ⟨present, other⟩ := first
      unfold insertEntry at member
      split at member
      · simpa using member
      · split at member
        · rcases List.mem_cons.mp member with equal | member
          · exact .inl equal
          · exact .inr (List.mem_cons_of_mem _ member)
        · rcases List.mem_cons.mp member with equal | member
          · exact .inr (by simp [equal])
          · rcases step member with equal | member
            · exact .inl equal
            · exact .inr (List.mem_cons_of_mem _ member)

/-- Of two different names, one comes first. -/
theorem lt_of_not_lt_of_ne {first second : String}
    (notBefore : ¬first < second) (different : first ≠ second) : second < first := by
  have equal := @String.le_antisymm first second
  grind

/-- Inserting keeps entries sorted. -/
theorem pairwise_insertEntry {name : String} {value : PropertyValue}
    {entries : List (String × PropertyValue)}
    (sorted : entries.Pairwise fun first second => first.1 < second.1) :
    (insertEntry name value entries).Pairwise fun first second => first.1 < second.1 := by
  induction entries with
  | nil => simp [insertEntry]
  | cons first rest step =>
      obtain ⟨present, other⟩ := first
      obtain ⟨before, sortedRest⟩ := List.pairwise_cons.mp sorted
      unfold insertEntry
      split
      · rename_i less
        refine List.pairwise_cons.mpr ⟨fun entry member => ?_, sorted⟩
        rcases List.mem_cons.mp member with equal | member
        · simpa [equal] using less
        · exact String.lt_trans less (before entry member)
      · rename_i notLess
        split
        · rename_i equal
          exact List.pairwise_cons.mpr ⟨fun entry member => equal ▸ before entry member, sortedRest⟩
        · rename_i different
          refine List.pairwise_cons.mpr ⟨fun entry member => ?_, step sortedRest⟩
          rcases mem_insertEntry member with equal | member
          · simpa [equal] using lt_of_not_lt_of_ne notLess different
          · exact before entry member

/-- The properties of a node. -/
structure Properties where
  entries : List (String × PropertyValue)
  sorted : entries.Pairwise fun first second => first.1 < second.1
  deriving DecidableEq

namespace Properties

/-- No properties. -/
def empty : Properties where
  entries := []
  sorted := .nil

instance : Inhabited Properties := ⟨empty⟩

/-- There are no properties. -/
def isEmpty (properties : Properties) : Bool :=
  properties.entries.isEmpty

/-- The value of the property of this name. -/
def get? (properties : Properties) (name : String) : Option PropertyValue :=
  properties.entries.lookup name

/-- Sets a property. -/
def insert (properties : Properties) (name : String) (value : PropertyValue) : Properties where
  entries := insertEntry name value properties.entries
  sorted := pairwise_insertEntry properties.sorted

/-- Sets properties one after another. -/
def insertAll (properties : Properties) (entries : List (String × PropertyValue)) : Properties :=
  entries.foldl (fun properties entry => properties.insert entry.1 entry.2) properties

/-- The properties with these values; of two values of one name the later counts. -/
def ofList (entries : List (String × PropertyValue)) : Properties :=
  empty.insertAll entries

/-- Properties with the same entries are the same. -/
@[ext] theorem ext {first second : Properties} (equal : first.entries = second.entries) :
    first = second := by
  cases first
  cases second
  cases equal
  rfl

@[simp] theorem get?_empty (name : String) : empty.get? name = none := rfl

/-- The first entry answers for its own name. -/
theorem lookup_entry (asked name : String) (value : PropertyValue)
    (rest : List (String × PropertyValue)) :
    List.lookup asked ((name, value) :: rest) =
      if asked = name then some value else rest.lookup asked := by
  by_cases equal : asked = name
  · simp [equal]
  · have unequal : (asked == name) = false := by simp [equal]
    simp [List.lookup_cons, equal, unequal]

/-- An inserted entry answers for its name. -/
theorem lookup_insertEntry (name asked : String) (value : PropertyValue)
    (entries : List (String × PropertyValue)) :
    (insertEntry name value entries).lookup asked =
      if asked = name then some value else entries.lookup asked := by
  induction entries with
  | nil => simp [insertEntry, lookup_entry]
  | cons first rest step =>
      obtain ⟨present, other⟩ := first
      unfold insertEntry
      split
      · rw [lookup_entry]
      · split
        · rename_i same
          subst same
          by_cases equal : asked = name <;> simp [lookup_entry, equal]
        · rename_i different
          rw [lookup_entry, lookup_entry, step]
          by_cases equal : asked = present
          · subst equal
            simp [Ne.symm different]
          · simp [equal]

/-- A property that is set has its new value, and the others keep theirs. -/
@[simp] theorem get?_insert (properties : Properties) (name asked : String)
    (value : PropertyValue) :
    (properties.insert name value).get? asked =
      if asked = name then some value else properties.get? asked :=
  lookup_insertEntry name asked value properties.entries

end Properties
end ContentAccess
