import Till.Json.Basic

/-!
# Printing JSON

`Json.render` writes a value without blanks.  In a text the quote and the backslash are escaped,
control characters have their short escapes or `\u` with four digits, and everything else stands
for itself.  `Json.sorted` puts the members of every object in order of their names, one of each.
-/

namespace Till

namespace Json

/-- A digit in base 16. -/
def hexDigit (n : Nat) : Char :=
  if n < 10 then Char.ofNat ('0'.toNat + n) else Char.ofNat ('a'.toNat + (n - 10))

/-- A character of a text as it is written. -/
def escape (c : Char) : List Char :=
  if c = '"' then ['\\', '"']
  else if c = '\\' then ['\\', '\\']
  else if c.toNat = 8 then ['\\', 'b']
  else if c.toNat = 9 then ['\\', 't']
  else if c.toNat = 10 then ['\\', 'n']
  else if c.toNat = 12 then ['\\', 'f']
  else if c.toNat = 13 then ['\\', 'r']
  else if c.toNat < 32 then
    ['\\', 'u', '0', '0', hexDigit (c.toNat / 16), hexDigit (c.toNat % 16)]
  else [c]

/-- A text between quotes. -/
def renderText (s : String) : List Char := '"' :: s.toList.flatMap escape ++ ['"']

/-- A whole number. -/
def renderInt (n : Int) : List Char :=
  if n < 0 then '-' :: (Nat.repr n.natAbs).toList else (Nat.repr n.natAbs).toList

mutual

/-- A value as it is written. -/
def render : Json → List Char
  | .null => "null".toList
  | .bool true => "true".toList
  | .bool false => "false".toList
  | .int n => renderInt n
  | .real text => text.toList
  | .str s => renderText s
  | .arr [] => ['[', ']']
  | .arr (j :: rest) => '[' :: render j ++ renderItems rest
  | .obj [] => ['\x7b', '\x7d']
  | .obj ((name, j) :: rest) => '\x7b' :: renderText name ++ ':' :: render j ++ renderMembers rest

/-- The items of an array after its first, and its end. -/
def renderItems : List Json → List Char
  | [] => [']']
  | j :: rest => ',' :: render j ++ renderItems rest

/-- The members of an object after its first, and its end. -/
def renderMembers : List (String × Json) → List Char
  | [] => ['\x7d']
  | (name, j) :: rest => ',' :: renderText name ++ ':' :: render j ++ renderMembers rest

end

/-- A value as text. -/
def print (j : Json) : String := String.ofList (render j)

end Json

end Till
