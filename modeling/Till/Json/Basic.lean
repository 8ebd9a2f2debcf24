import Till.Cents

/-!
# JSON values

`Json` is the data format of stored payloads, of cached suggestions and of requests.  Whole numbers
that 64 bits hold, signed or not, are integers; every other number is a `real`, kept as its written
form.  The members of an object stand in written order.

Reading a record out of a value:

* `Json.members?` : the members of a record, which is an object, or an array that lists the values
  of the record's fields in order;
* `Json.membersOnce?` : the same, if no field is named twice;
* `Json.choice?` : the name of a choice and its members;
* `Json.name?` : the name of a choice that has no members;
* `Json.member` : a member by name, `null` when it is missing;
* `Json.int?`, `Json.nat?`, `Json.text?`, `Json.bool?`, `Json.list?`, `Json.nullable?` : the value
  of a member.
-/

namespace Till

/-- A JSON value. -/
inductive Json where
  /-- The value `null`. -/
  | null
  /-- A truth value. -/
  | bool (b : Bool)
  /-- A whole number of at most 64 bits. -/
  | int (n : Int)
  /-- Any other number, in its written form. -/
  | real (text : String)
  /-- A text. -/
  | str (s : String)
  /-- An array. -/
  | arr (items : List Json)
  /-- An object, its members in written order. -/
  | obj (members : List (String × Json))
  deriving Repr, Inhabited

namespace Json

/-- The members of a record, by name. -/
abbrev Members := List (String × Json)

/-- The members of a record with the given fields: those of an object, or the items of an array in
the order of the fields, of which the last `spare` may be left out. -/
def members? (fields : List String) (spare : Nat := 0) : Json → Option Members
  | .obj members => some members
  | .arr items =>
    if items.length ≤ fields.length ∧ fields.length ≤ items.length + spare then
      some (fields.zip items)
    else none
  | _ => none

/-- The members of a record that does not name one of its fields twice. -/
def membersOnce? (fields : List String) (j : Json) : Option Members := do
  let members ← j.members? fields
  if fields.all fun name => decide ((members.filter fun m => m.1 == name).length ≤ 1) then
    some members
  else none

/-- A member by name, if it is present; the last one counts. -/
def find? (name : String) (members : Members) : Option Json :=
  (members.reverse.find? fun m => m.1 == name).map (·.2)

/-- A member by name, `null` when it is missing. -/
def member (name : String) (members : Members) : Json := (find? name members).getD .null

/-- A member by name, read with `read` when it is present. -/
def memberOr {α : Type} (name : String) (default : α) (read : Json → Option α)
    (members : Members) : Option α :=
  match find? name members with
  | some j => read j
  | none => some default

/-- A choice among records: its name, which is the member `tag` of an object or the first item of an
array, and the members of the record, whose fields depend on the name. -/
def choice? (tag : String) (fields : String → List String) : Json → Option (String × Members)
  | .obj members =>
    match member tag members with
    | .str name => some (name, members)
    | _ => none
  | .arr (.str name :: items) => ((arr items).members? (fields name)).map fun m => (name, m)
  | _ => none

/-- The name of a choice that has no members: a text, or an object with one member, which is `null`
and has the name of the choice. -/
def name? : Json → Option String
  | .str name => some name
  | .obj [(name, .null)] => some name
  | _ => none

/-- A whole number between two bounds. -/
def intIn? (low high : Int) : Json → Option Int
  | .int n => if low ≤ n ∧ n ≤ high then some n else none
  | _ => none

/-- A whole number that 64 bits hold. -/
def int? : Json → Option Int := intIn? Cents.least Cents.greatest

/-- A whole number from 0 to a bound. -/
def nat? (high : Nat) (j : Json) : Option Nat := (intIn? 0 high j).map Int.toNat

/-- A text. -/
def text? : Json → Option String
  | .str s => some s
  | _ => none

/-- A truth value. -/
def bool? : Json → Option Bool
  | .bool b => some b
  | _ => none

/-- An array whose items can all be read. -/
def list? {α : Type} (read : Json → Option α) : Json → Option (List α)
  | .arr items => items.mapM read
  | _ => none

/-- A value that may be `null`. -/
def nullable? {α : Type} (read : Json → Option α) : Json → Option (Option α)
  | .null => some none
  | j => (read j).map some

/-- A text that may be missing. -/
def ofText? : Option String → Json
  | some s => .str s
  | none => .null

/-- A number that may be missing. -/
def ofInt? : Option Int → Json
  | some n => .int n
  | none => .null

end Json

/-- The greatest number that 32 bits hold without a sign. -/
def Json.greatest32 : Nat := 4294967295

/-- The greatest number that 64 bits hold without a sign. -/
def Json.greatest64 : Nat := 18446744073709551615

end Till
