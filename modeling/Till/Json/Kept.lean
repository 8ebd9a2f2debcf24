import Till.Json.Number

/-!
# Values that were written and read again

A value that is kept as text comes back as it was, except that the last bit of a real number can
differ: the written form of a real number is the shortest one, and is not always read as the same
binary number.

* `Json.kept` : the value that comes back.
-/

namespace Till

namespace Json

/-- The real number of a written form, read again. -/
def keptReal (text : String) : Json :=
  match readNumber text.toList with
  | some (some j, _) => j
  | _ => .real text

mutual

/-- The value after it was written and read again, which can change the last bit of a real number. -/
def kept : Json → Json
  | .real text => keptReal text
  | .arr items => .arr (keptItems items)
  | .obj members => .obj (keptMembers members)
  | .null => .null
  | .bool b => .bool b
  | .int n => .int n
  | .str s => .str s

/-- The items after they were written and read again. -/
def keptItems : List Json → List Json
  | [] => []
  | j :: rest => kept j :: keptItems rest

/-- The members after they were written and read again. -/
def keptMembers : List (String × Json) → List (String × Json)
  | [] => []
  | (name, j) :: rest => (name, kept j) :: keptMembers rest

end

end Json

end Till
