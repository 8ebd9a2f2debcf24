import Till.Json.Parser
import Till.Json.Printer

/-!
# The text of settings

Settings stand in a file as TOML, line by line: a header `[name]` opens a table, `name = value`
puts a value into the table opened last, and a comment goes from `#` to the end of its line.
Values are texts in quotes, whole numbers that 64 bits hold, other numbers and truth values.

* `Toml.parse?` : the tables as an object of objects, or nothing if a line is not as it should be,
  or a table or a name occurs twice;
* `Toml.render` : tables as text.
-/

namespace Till

namespace Toml

/-! ### Parts of a line -/

/-- The characters that may stand between the parts of a line. -/
def isSpace (c : Char) : Bool := c == ' ' || c == '\t'

/-- The rest of a line after spaces. -/
def skipSpace (cs : List Char) : List Char := cs.dropWhile isSpace

/-- The characters that may stand in comments and texts. -/
def isPlain (c : Char) : Bool := c == '\t' || (decide (32 ≤ c.toNat) && decide (c.toNat ≠ 127))

/-- Nothing more than a comment is left of a line. -/
def isEnd (cs : List Char) : Bool :=
  match skipSpace cs with
  | [] => true
  | '#' :: rest => rest.all isPlain
  | _ => false

/-- The characters of names without quotes. -/
def isNameChar (c : Char) : Bool := c.isAlphanum || c == '_' || c == '-'

/-- The character with a number. -/
def charOf? (n : Nat) : Option Char := if n.isValidChar then some (Char.ofNat n) else none

/-- The character of an escape of one letter. -/
def escaped? (c : Char) : Option Char :=
  if c = '/' then none else Json.shortEscape? c

/-- Reads a text in double quotes after its opening quote, up to and with the closing one. -/
def readQuoted : List Char → Option (List Char × List Char)
  | [] => none
  | '"' :: rest => some ([], rest)
  | '\\' :: 'u' :: a :: b :: c :: d :: rest => do
    let ch ← Json.hex4? a b c d >>= charOf?
    let (text, rest) ← readQuoted rest
    some (ch :: text, rest)
  | '\\' :: 'U' :: a :: b :: c :: d :: e :: f :: g :: h :: rest => do
    let high ← Json.hex4? a b c d
    let low ← Json.hex4? e f g h
    let ch ← charOf? (high * 65536 + low)
    let (text, rest) ← readQuoted rest
    some (ch :: text, rest)
  | '\\' :: c :: rest => do
    let ch ← escaped? c
    let (text, rest) ← readQuoted rest
    some (ch :: text, rest)
  | c :: rest => do
    let (text, rest) ← readQuoted rest
    if isPlain c then some (c :: text, rest) else none

/-- Reads a text in single quotes after its opening quote, up to and with the closing one. -/
def readLiteral (cs : List Char) : Option (List Char × List Char) :=
  match cs.dropWhile fun c => isPlain c && c != '\'' with
  | '\'' :: rest => some (cs.takeWhile (fun c => isPlain c && c != '\''), rest)
  | _ => none

/-- Reads a name. -/
def readName (cs : List Char) : Option (String × List Char) :=
  match skipSpace cs with
  | '"' :: rest => (readQuoted rest).map fun r => (String.ofList r.1, r.2)
  | '\'' :: rest => (readLiteral rest).map fun r => (String.ofList r.1, r.2)
  | rest =>
    let name := rest.takeWhile isNameChar
    if name.isEmpty then none else some (String.ofList name, rest.dropWhile isNameChar)

/-! ### Numbers -/

/-- The number without its sign, and whether the sign is a minus. -/
def splitSign : List Char → Bool × List Char
  | '-' :: rest => (true, rest)
  | '+' :: rest => (false, rest)
  | cs => (false, cs)

/-- Digits, with single underscores between them left out. -/
def groupedDigits? (isDigit : Char → Bool) (cs : List Char) : Option (List Char) :=
  let groups := cs.splitOn '_'
  if groups.all fun g => !g.isEmpty && g.all isDigit then some groups.flatten else none

/-- The digits of a whole number, which begins with zero only if it is zero. -/
def wholeDigits? (cs : List Char) : Option (List Char) := do
  let digits ← groupedDigits? Char.isDigit cs
  if digits.length > 1 ∧ digits.head? = some '0' then none else some digits

/-- A whole number with the digits of a base. -/
def inBase? (base : Nat) (cs : List Char) : Option Int := do
  let isDigit := fun c => match Json.hexValue? c with
    | some d => decide (d < base)
    | none => false
  let digits ← groupedDigits? isDigit cs
  some (digits.foldl (fun n c => n * base + ((Json.hexValue? c).getD 0 : Nat)) 0)

/-- A whole number. -/
def whole? (cs : List Char) : Option Int :=
  match cs with
  | '0' :: 'x' :: rest => inBase? 16 rest
  | '0' :: 'o' :: rest => inBase? 8 rest
  | '0' :: 'b' :: rest => inBase? 2 rest
  | _ =>
    let (negative, rest) := splitSign cs
    (wholeDigits? rest).map fun digits =>
      if negative then -(Json.ofDigits digits : Int) else Json.ofDigits digits

/-- An exponent with its sign. -/
def isExponent (cs : List Char) : Bool :=
  (groupedDigits? Char.isDigit (splitSign cs).2).isSome

/-- The part of a number before a mark, and what follows the mark. -/
def splitAtMark (isMark : Char → Bool) (cs : List Char) : List Char × Option (List Char) :=
  (cs.takeWhile fun c => !isMark c,
    match cs.dropWhile fun c => !isMark c with
    | [] => none
    | _ :: rest => some rest)

/-- A number with a fraction or an exponent, or one that is not finite. -/
def isReal (cs : List Char) : Bool :=
  let (_, rest) := splitSign cs
  if rest = "inf".toList || rest = "nan".toList then true
  else
    let (mantissa, exponent) := splitAtMark (fun c => c == 'e' || c == 'E') rest
    let (integral, fraction) := splitAtMark (fun c => c == '.') mantissa
    (fraction.isSome || exponent.isSome) && (wholeDigits? integral).isSome &&
      fraction.all (fun f => (groupedDigits? Char.isDigit f).isSome) && exponent.all isExponent

/-- The characters of numbers and truth values. -/
def isTokenChar (c : Char) : Bool := c.isAlphanum || c == '_' || c == '-' || c == '+' || c == '.'

/-- The value of a number or a truth value. -/
def token? (cs : List Char) : Option Json :=
  if cs = "true".toList then some (.bool true)
  else if cs = "false".toList then some (.bool false)
  else
    match whole? cs with
    | some n => if Cents.Fits n then some (.int n) else none
    | none => if isReal cs then some (.real (String.ofList cs)) else none

/-! ### Lines -/

/-- What a line says. -/
inductive Line where
  /-- Nothing. -/
  | blank
  /-- It opens a table. -/
  | header (name : String)
  /-- It puts a value under a name. -/
  | entry (name : String) (value : Json)

/-- Reads a value. -/
def readValue (cs : List Char) : Option (Json × List Char) :=
  match skipSpace cs with
  | '"' :: rest => (readQuoted rest).map fun r => (.str (String.ofList r.1), r.2)
  | '\'' :: rest => (readLiteral rest).map fun r => (.str (String.ofList r.1), r.2)
  | rest => (token? (rest.takeWhile isTokenChar)).map fun v => (v, rest.dropWhile isTokenChar)

/-- Reads a header after its opening bracket. -/
def readHeader (cs : List Char) : Option Line := do
  let (name, rest) ← readName cs
  match skipSpace rest with
  | ']' :: rest => if isEnd rest then some (.header name) else none
  | _ => none

/-- Reads a name and its value. -/
def readEntry (cs : List Char) : Option Line := do
  let (name, rest) ← readName cs
  match skipSpace rest with
  | '=' :: rest =>
    let (value, rest) ← readValue rest
    if isEnd rest then some (.entry name value) else none
  | _ => none

/-- Reads a line. -/
def readLine (cs : List Char) : Option Line :=
  if isEnd cs then some .blank
  else
    match skipSpace cs with
    | '[' :: rest => readHeader rest
    | rest => readEntry rest

/-- A line without the carriage return at its end. -/
def dropReturn (cs : List Char) : List Char :=
  if cs.getLast? = some '\r' then cs.dropLast else cs

/-- The lines of a text.  A line ends with a line feed, perhaps after a carriage return; the last one
ends with the text. -/
def linesOf (cs : List Char) : List (List Char) :=
  let pieces := cs.splitOn '\n'
  pieces.dropLast.map dropReturn ++ pieces.getLast?.toList

/-- A text without the byte order mark at its beginning. -/
def dropMark : List Char → List Char
  | '\uFEFF' :: rest => rest
  | cs => cs

/-! ### Tables -/

/-- A document while it is read: the entries before the first table, and the tables, the one opened
last at the front. -/
structure Reading where
  /-- The entries before the first table. -/
  top : Json.Members := []
  /-- The tables. -/
  tables : List (String × Json.Members) := []

/-- Whether a name occurs among members. -/
def isNamed {α : Type} (name : String) (members : List (String × α)) : Bool :=
  members.any fun m => m.1 == name

/-- Adds what a line says. -/
def Reading.add (r : Reading) : Line → Option Reading
  | .blank => some r
  | .header name =>
    if isNamed name r.top || isNamed name r.tables then none
    else some { r with tables := (name, []) :: r.tables }
  | .entry name value =>
    match r.tables with
    | [] => if isNamed name r.top then none else some { r with top := r.top ++ [(name, value)] }
    | (table, members) :: others =>
      if isNamed name members then none
      else some { r with tables := (table, members ++ [(name, value)]) :: others }

/-- The whole of what was read. -/
def Reading.toJson (r : Reading) : Json :=
  .obj (r.top ++ r.tables.reverse.map fun t => (t.1, .obj t.2))

/-- Reads the tables of a text. -/
def parse? (s : String) : Option Json := do
  let lines ← (linesOf (dropMark s.toList)).mapM readLine
  let read ← lines.foldlM Reading.add {}
  some read.toJson

/-! ### Writing -/

/-- A character of a text in double quotes. -/
def escape (c : Char) : List Char :=
  if c = '"' then ['\\', '"']
  else if c = '\\' then ['\\', '\\']
  else if isPlain c then [c]
  else ['\\', 'u', '0', '0', Json.hexDigit (c.toNat / 16), Json.hexDigit (c.toNat % 16)]

/-- A value as text, if it can be written: texts, truth values and whole numbers that 64 bits hold
with a sign. -/
def renderValue? : Json → Option (List Char)
  | .str s => some ('"' :: s.toList.flatMap escape ++ ['"'])
  | .bool true => some "true".toList
  | .bool false => some "false".toList
  | .int n => if Cents.Fits n then some (Json.renderInt n) else none
  | _ => none

/-- A table as text. -/
def renderTable? (name : String) (members : Json.Members) : Option (List Char) := do
  let lines ← members.mapM fun m => do
    let value ← renderValue? m.2
    some (m.1.toList ++ " = ".toList ++ value ++ ['\n'])
  some ('[' :: name.toList ++ [']', '\n'] ++ lines.flatten)

/-- Tables as text, if all their values can be written. -/
def render? (tables : List (String × Json.Members)) : Option String := do
  let texts ← tables.mapM fun t => renderTable? t.1 t.2
  some (String.ofList (texts.intersperse ['\n']).flatten)

end Toml

end Till
