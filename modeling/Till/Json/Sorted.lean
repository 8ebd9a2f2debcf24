import Till.Json.Basic
import Till.Text.Blank

/-!
# Objects in order

`Json.sorted` puts the members of every object inside a value in order of their names.  Of members
with one name the last remains.
-/

namespace Till

namespace Json

/-- Puts a member into its place in an ordered list, over one of the same name. -/
def insertMember (name : String) (j : Json) : Members → Members
  | [] => [(name, j)]
  | (other, k) :: rest =>
    if name == other then (name, j) :: rest
    else if Text.before name other then (name, j) :: (other, k) :: rest
    else (other, k) :: insertMember name j rest

mutual

/-- The value with the members of its objects in order. -/
def sorted : Json → Json
  | .arr items => .arr (sortedItems items)
  | .obj members => .obj (sortedMembers [] members)
  | .null => .null
  | .bool b => .bool b
  | .int n => .int n
  | .real text => .real text
  | .str s => .str s

/-- The items with the members of their objects in order. -/
def sortedItems : List Json → List Json
  | [] => []
  | j :: rest => sorted j :: sortedItems rest

/-- The members put into an ordered list, one after the other. -/
def sortedMembers (acc : Members) : List (String × Json) → Members
  | [] => acc
  | (name, j) :: rest => sortedMembers (insertMember name (sorted j) acc) rest

end

end Json

end Till
