import ContentAccess.Json.Value
import ContentAccess.Restriction

/-!
# Restrictions as JSON
-/

namespace ContentAccess

/-- Reads a restriction from a record; both fields are needed. -/
def Restriction.ofJson? (json : Json) : Option Restriction := do
  match ← json.fields? ["name", "values"] with
  | [some name, some values] => return ⟨← name.text?, ← values.texts?⟩
  | _ => none

end ContentAccess
