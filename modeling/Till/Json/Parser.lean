import Till.Json.Number

/-!
# Reading JSON

`Json.parse? : String → Option Json` reads one value with blanks around it.  The readers of parts
take what is left of the text and give back the rest; values are read with fuel, and the length of
the text is enough of it, since each level of a value takes at least one character.

Some things have the form of a value and no value: a number that is too large, a text with half of a
pair of escapes, and an object with such a text for a name.  `Json.parse?` refuses them, and values
that are nested too deep; `Json.parseLoosely?` reads them as `null`.  So a reader that takes no
`null` refuses them where it looks, and does not see them elsewhere.
-/

namespace Till

namespace Json

/-- The characters that may stand between the parts of a value. -/
def isSpace (c : Char) : Bool := c == ' ' || c == '\n' || c == '\r' || c == '\t'

/-- The rest of the text after spaces. -/
def skipSpace (cs : List Char) : List Char := cs.dropWhile isSpace

/-! ### Texts -/

/-- The value of a digit in base 16. -/
def hexValue? (c : Char) : Option Nat :=
  if '0' ≤ c ∧ c ≤ '9' then some (c.toNat - '0'.toNat)
  else if 'a' ≤ c ∧ c ≤ 'f' then some (c.toNat - 'a'.toNat + 10)
  else if 'A' ≤ c ∧ c ≤ 'F' then some (c.toNat - 'A'.toNat + 10)
  else none

/-- The value of four digits in base 16. -/
def hex4? (a b c d : Char) : Option Nat := do
  let a ← hexValue? a
  let b ← hexValue? b
  let c ← hexValue? c
  let d ← hexValue? d
  some (((a * 16 + b) * 16 + c) * 16 + d)

/-- The character of an escape of one letter. -/
def shortEscape? (c : Char) : Option Char :=
  if c = '"' then some '"'
  else if c = '\\' then some '\\'
  else if c = '/' then some '/'
  else if c = 'b' then some (Char.ofNat 8)
  else if c = 'f' then some (Char.ofNat 12)
  else if c = 'n' then some '\n'
  else if c = 'r' then some '\r'
  else if c = 't' then some '\t'
  else none

/-- A character in front of a text, if it is one. -/
def consText (c : Char) (r : Option (List Char) × List Char) : Option (List Char) × List Char :=
  (r.1.map (c :: ·), r.2)

/-- Reads a text after its opening quote, up to and with the closing one.  Escapes of code points
beyond 16 bits come in pairs; with half of one there is no text. -/
def readText : List Char → Option (Option (List Char) × List Char)
  | [] => none
  | '"' :: rest => some (some [], rest)
  | '\\' :: 'u' :: a :: b :: c :: d :: rest =>
    match hex4? a b c d with
    | none => none
    | some n =>
      if 0xD800 ≤ n ∧ n < 0xE000 then
        match rest with
        | '\\' :: 'u' :: e :: f :: g :: h :: rest' =>
          match hex4? e f g h with
          | none => none
          | some m =>
            if n < 0xDC00 ∧ 0xDC00 ≤ m ∧ m < 0xE000 then
              (readText rest').map
                (consText (Char.ofNat (0x10000 + (n - 0xD800) * 0x400 + (m - 0xDC00))))
            else (readText rest').map fun r => (none, r.2)
        | rest => (readText rest).map fun r => (none, r.2)
      else (readText rest).map (consText (Char.ofNat n))
  | '\\' :: e :: rest =>
    match shortEscape? e with
    | none => none
    | some c => (readText rest).map (consText c)
  | c :: rest =>
    if c.toNat < 32 then none else (readText rest).map (consText c)

/-! ### Values -/

/-- How values are read. -/
structure Reading where
  /-- Whether what has the form of a value and no value is read as `null`. -/
  loosely : Bool

namespace Reading

/-- A value, or what is read in its place. -/
def settle (r : Reading) : Option Json → Option Json
  | some j => some j
  | none => if r.loosely then some .null else none

/-- An object, or what is read in its place if it has a name that is no text. -/
def settleObject (r : Reading) (members : List (Option String × Json)) : Option Json :=
  let named : Option Members := members.mapM fun m => m.1.map fun name => (name, m.2)
  r.settle (named.map .obj)

end Reading

/-- The most levels of arrays and objects. -/
def greatestDepth : Nat := 127

mutual

/-- Reads a value that begins with the next character, of at most so many levels. -/
def readValue (r : Reading) : Nat → Nat → List Char → Option (Json × List Char)
  | 0, _, _ => none
  | fuel + 1, depth, cs =>
    match cs with
    | 'n' :: 'u' :: 'l' :: 'l' :: rest => some (.null, rest)
    | 't' :: 'r' :: 'u' :: 'e' :: rest => some (.bool true, rest)
    | 'f' :: 'a' :: 'l' :: 's' :: 'e' :: rest => some (.bool false, rest)
    | '"' :: rest => do
      let (text, rest) ← readText rest
      let j ← r.settle (text.map fun cs => .str (String.ofList cs))
      some (j, rest)
    | '[' :: rest =>
      match depth, skipSpace rest with
      | 0, _ => none
      | _ + 1, ']' :: rest => some (.arr [], rest)
      | depth + 1, rest => do
        let (j, rest) ← readValue r fuel depth rest
        let (items, rest) ← readItems r fuel depth rest
        some (.arr (j :: items), rest)
    | '\x7b' :: rest =>
      match depth, skipSpace rest with
      | 0, _ => none
      | _ + 1, '\x7d' :: rest => some (.obj [], rest)
      | depth + 1, rest => do
        let (m, rest) ← readMember r fuel depth rest
        let (members, rest) ← readMembers r fuel depth rest
        let j ← r.settleObject (m :: members)
        some (j, rest)
    | cs => do
      let (number, rest) ← readNumber cs
      let j ← r.settle number
      some (j, rest)

/-- Reads the items of an array after one of them, up to and with its end. -/
def readItems (r : Reading) : Nat → Nat → List Char → Option (List Json × List Char)
  | 0, _, _ => none
  | fuel + 1, depth, cs =>
    match skipSpace cs with
    | ']' :: rest => some ([], rest)
    | ',' :: rest => do
      let (j, rest) ← readValue r fuel depth (skipSpace rest)
      let (items, rest) ← readItems r fuel depth rest
      some (j :: items, rest)
    | _ => none

/-- Reads a member of an object. -/
def readMember (r : Reading) : Nat → Nat → List Char → Option ((Option String × Json) × List Char)
  | 0, _, _ => none
  | fuel + 1, depth, cs =>
    match cs with
    | '"' :: rest => do
      let (name, rest) ← readText rest
      match skipSpace rest with
      | ':' :: rest =>
        let (j, rest) ← readValue r fuel depth (skipSpace rest)
        some ((name.map String.ofList, j), rest)
      | _ => none
    | _ => none

/-- Reads the members of an object after one of them, up to and with its end. -/
def readMembers (r : Reading) :
    Nat → Nat → List Char → Option (List (Option String × Json) × List Char)
  | 0, _, _ => none
  | fuel + 1, depth, cs =>
    match skipSpace cs with
    | '\x7d' :: rest => some ([], rest)
    | ',' :: rest => do
      let (m, rest) ← readMember r fuel depth (skipSpace rest)
      let (members, rest) ← readMembers r fuel depth rest
      some (m :: members, rest)
    | _ => none

end

/-- Reads a text that holds one value of at most so many levels. -/
def parseWith? (r : Reading) (depth : Nat) (s : String) : Option Json := do
  let cs := s.toList
  let (j, rest) ← readValue r (2 * cs.length + 2) depth (skipSpace cs)
  if (skipSpace rest).isEmpty then some j else none

/-- Reads a text that holds one value. -/
def parse? (s : String) : Option Json := parseWith? ⟨false⟩ greatestDepth s

/-- Reads a text that holds one value, in which `null` stands for what has the form of a value and
no value. -/
def parseLoosely? (s : String) : Option Json := parseWith? ⟨true⟩ s.length s

end Json

end Till
