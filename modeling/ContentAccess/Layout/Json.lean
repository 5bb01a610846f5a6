import ContentAccess.Json.Reader
import ContentAccess.Layout.Basic

/-!
# Layouts as JSON
-/

namespace ContentAccess
namespace Layout

/-- Reads a layout from a record; missing fields are as in the standard layout. -/
def ofJson? (json : Json) : Option Layout :=
  (json.fields? fieldNames).bind (ofFields Json.text? Json.texts?)

/-- Reads a usable layout from JSON text. -/
def readJson (text : String) : Except AccessError Layout :=
  match (Json.parse? text).bind ofJson? with
  | some layout => layout.checked
  | none => .error .unreadableJson

end Layout
end ContentAccess
