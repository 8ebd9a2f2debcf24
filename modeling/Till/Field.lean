import Till.Cents
import Till.Invalid
import Till.Text.Alphanumeric
import Till.Text.Blank

/-!
# Rules for the fields of a request

Each rule checks one field by itself and either passes or says what is wrong.  Lengths are counted
in UTF-8 bytes, and blanks are those of Unicode.
-/

namespace Till

namespace Field

/-- The result of a rule. -/
abbrev Check := Except Invalid Unit

/-- The most lines of a cart, an order or a receipt. -/
def mostLines : Nat := 100

/-- The greatest quantity of a line. -/
def greatestQuantity : Int := 999

/-- The longest idempotency key. -/
def longestKey : Nat := 128

/-- The text takes at most so many bytes. -/
def notLonger (field : String) (most : Nat) (s : String) : Check :=
  if s.utf8ByteSize > most then .error (.tooLong field most) else .ok ()

/-- The text is not blank. -/
def notBlank (field : String) (s : String) : Check :=
  if Text.isBlankText s then .error (.required field) else .ok ()

/-- An identifier: not blank, at most 64 bytes. -/
def identifier (field : String) (s : String) : Check := do
  notBlank field s
  notLonger field 64 s

/-- An idempotency key: not blank, at most 128 bytes, no control characters. -/
def key (s : String) : Check := do
  notBlank "idempotency_key" s
  notLonger "idempotency_key" longestKey s
  if s.toList.any Text.isControl then
    .error (.malformed "idempotency_key" "must not contain control characters")
  else .ok ()

/-- A stock keeping unit, blanks at its ends aside: not blank, at most 50 bytes, letters, numbers,
hyphens and underscores. -/
def sku (s : String) : Check := do
  let s := Text.trim s
  notBlank "sku" s
  notLonger "sku" 50 s
  if s.toList.all fun c => Text.isAlphanumeric c || c == '-' || c == '_' then .ok ()
  else
    .error (.malformed "sku" "must contain only letters, numbers, hyphens, and underscores")

/-- A name, blanks at its ends aside: not blank, at most 200 bytes. -/
def name (field : String) (s : String) : Check := do
  let s := Text.trim s
  notBlank field s
  notLonger field 200 s

/-- A stated reason: not blank, at most 500 bytes. -/
def reason (field : String) (s : String) : Check := do
  notBlank field s
  notLonger field 500 s

/-- The quantity of a line: from 1 to 999. -/
def quantity (n : Int) : Check :=
  if n ≤ 0 then .error (.notPositive "quantity")
  else if n > greatestQuantity then .error (.outOfRange "quantity" 1 greatestQuantity)
  else .ok ()

/-- The number is not negative. -/
def notNegative (field : String) (n : Int) : Check :=
  if n < 0 then .error (.outOfRange field 0 Cents.greatest) else .ok ()

/-- A price, which may be zero. -/
def price (n : Int) : Check := notNegative "price" n

/-- A counted amount of cash, which may be zero. -/
def cashFloat (field : String) (n : Int) : Check := notNegative field n

/-- An amount that has to be positive. -/
def positive (field : String) (n : Int) : Check :=
  if n ≤ 0 then .error (.notPositive field) else .ok ()

/-- The number of lines: from 1 to 100. -/
def lineCount (n : Nat) : Check :=
  if n = 0 then .error (.required "lines")
  else if n > mostLines then .error (.outOfRange "lines" 1 mostLines)
  else .ok ()

/-- The first value that occurs again later on, in the order of the repetitions. -/
def firstRepeated (seen : List String) : List String → Option String
  | [] => none
  | s :: rest => if seen.contains s then some s else firstRepeated (s :: seen) rest

/-- No value occurs twice. -/
def distinct (field : String) (values : List String) : Check :=
  match firstRepeated [] values with
  | some s => .error (.duplicate field s)
  | none => .ok ()

/-- Every item passes the rule; the first that does not decides. -/
def each {α : Type} (rule : α → Check) : List α → Check
  | [] => .ok ()
  | a :: rest => do
    rule a
    each rule rest

end Field

end Till
