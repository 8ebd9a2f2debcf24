import Till.Instant.Text
import Till.Json.Basic

/-!
# Instants as JSON

An instant stands in JSON as its text.
-/

namespace Till

namespace Instant

/-- The instant as JSON. -/
def toJson (t : Instant) : Json := .str t.text

/-- The instant as JSON, `null` when there is none. -/
def optionToJson : Option Instant → Json
  | some t => t.toJson
  | none => .null

/-- Reads an instant. -/
def ofJson? (j : Json) : Option Instant := j.text? >>= ofText?

end Instant

end Till
