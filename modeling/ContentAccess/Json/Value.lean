import ContentAccess.Record

/-!
# JSON values

A JSON value as far as rules, layouts and trees need it, with readers for the
shapes they are made of.  Members keep their order and may repeat a key.
-/

namespace ContentAccess

/-- A JSON value. -/
inductive Json where
  | null
  | boolean (value : Bool)
  /-- A number written as an integer. -/
  | integer (value : Int)
  /-- A number written with a fraction or an exponent, or negative zero. -/
  | decimal
  | string (text : String)
  | array (items : List Json)
  | object (members : List (String × Json))
  /-- A well-formed value that can be skipped but not read. -/
  | unreadable
  deriving Repr, Inhabited

namespace Json

/-- The text of a string. -/
def text? : Json → Option String
  | string text => some text
  | _ => none

/-- The value of a boolean. -/
def boolean? : Json → Option Bool
  | boolean value => some value
  | _ => none

/-- The value of an integer. -/
def integer? : Json → Option Int
  | integer value => some value
  | _ => none

/-- The value of a non-negative integer. -/
def natural? : Json → Option Nat
  | integer (.ofNat value) => some value
  | _ => none

/-- The value of an unsigned integer of at most 32 bits. -/
def word32? (json : Json) : Option UInt32 := do
  let value ← json.natural?
  if value < UInt32.size then some (UInt32.ofNat value) else none

/-- The items of an array, each read by `read`. -/
def list? (read : Json → Option α) : Json → Option (List α)
  | array items => items.mapM read
  | _ => none

/-- The texts of an array of strings. -/
def texts? : Json → Option (List String) :=
  list? text?

/-- The name of an alternative: a string, or an object with this one key whose
value is null. -/
def choice? : Json → Option String
  | string name => some name
  | object [(name, null)] => some name
  | _ => none

/-- The values of a record with these fields.  An object may hold them in any
order, among other members; an array holds the first of them in order. -/
def fields? (names : List String) : Json → Option (List (Option Json))
  | object members => Record.fields? names members
  | array items =>
      if items.length ≤ names.length then
        some (items.map some ++ List.replicate (names.length - items.length) none)
      else
        none
  | _ => none

/-- The value of a field is smaller than the record. -/
theorem sizeOf_lt_of_fields? {names : List String} {json value : Json}
    {fields : List (Option Json)} (read : json.fields? names = some fields)
    (member : some value ∈ fields) : sizeOf value < sizeOf json := by
  unfold fields? at read
  split at read
  · rename_i members
    obtain ⟨⟨name, json⟩, present, rfl⟩ := Record.exists_of_fields? read member
    have smaller := List.sizeOf_lt_of_mem present
    simp only [Prod.mk.sizeOf_spec] at smaller
    simp only [object.sizeOf_spec]
    omega
  · rename_i items
    split at read
    · simp only [Option.some.injEq] at read
      subst read
      simp only [List.mem_append, List.mem_map, Option.some.injEq, List.mem_replicate] at member
      rcases member with ⟨item, present, rfl⟩ | ⟨_, impossible⟩
      · have smaller := List.sizeOf_lt_of_mem present
        simp only [array.sizeOf_spec]
        omega
      · cases impossible
    · simp at read
  · simp at read

/-- The first value under this key of an object. -/
def member? (json : Json) (key : String) : Option Json :=
  match json with
  | object members => (members.find? fun member => member.1 == key).map Prod.snd
  | _ => none

end Json
end ContentAccess
