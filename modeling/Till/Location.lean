import Till.Text.Blank
import Till.Text.Percent

/-!
# Where data is kept

The path of the data is read as an address.  It may begin with `sqlite:`, and what follows is the
path of a file with percent escapes, or `:memory:`.  A path that begins with `file:` is an address
of its own, with escapes and with options after a question mark.

* `Location.ofPath?` : the place that an address names, nothing if no data can be opened there.
-/

namespace Till

/-- Where data is kept. -/
inductive Location where
  /-- In memory, one for all connections. -/
  | memory
  /-- In a passing place, one for each connection. -/
  | passing
  /-- In a file, which is made if it need not exist. -/
  | file (path : String) (mustExist : Bool)
  deriving DecidableEq, Repr

namespace Location

/-- How a file is used. -/
inductive Mode where
  /-- It is only read. -/
  | readOnly
  /-- It is read and written. -/
  | readWrite
  /-- It is made if need be. -/
  | create
  /-- It stays in memory. -/
  | memory
  deriving DecidableEq, Repr

/-- The options of an address. -/
structure Options where
  /-- How the file is used. -/
  mode : Mode := .create
  /-- Whether connections share what is in memory. -/
  shared : Bool := false
  deriving DecidableEq, Repr

/-- The characters after a beginning, which is taken away at most so many times. -/
def dropRepeated (start : List Char) : Nat → List Char → List Char
  | 0, cs => cs
  | times + 1, cs =>
    if start.isPrefixOf cs then dropRepeated start times (cs.drop start.length) else cs

/-- The characters after a beginning, which is taken away as often as it is there. -/
def dropBeginning (start : String) (cs : List Char) : List Char :=
  dropRepeated start.toList cs.length cs

/-- An address without its scheme. -/
def withoutScheme (address : String) : String :=
  String.ofList (dropBeginning "sqlite:" (dropBeginning "sqlite://" address.toList))

/-- Whether a text holds the character with the number 0. -/
def hasNul (s : String) : Bool := s.toList.any fun c => c.toNat == 0

/-- A part of an address with its escapes replaced, up to the character with the number 0. -/
def part? (cs : List Char) : Option String :=
  (Text.percentDecoded? (String.ofList cs)).map fun s =>
    String.ofList (s.toList.takeWhile fun c => c.toNat != 0)

/-- The parts before and after the first of a mark. -/
def splitAt (mark : Char) (cs : List Char) : List Char × List Char :=
  (cs.takeWhile (· != mark), (cs.dropWhile (· != mark)).drop 1)

/-- The options with one more of them, nothing if it cannot be had. -/
def Options.set? (o : Options) (name value : String) : Option Options :=
  match name, value with
  | "mode", "ro" => some { o with mode := .readOnly }
  | "mode", "rw" => some { o with mode := .readWrite }
  | "mode", "rwc" => some { o with mode := .create }
  | "mode", "memory" => some { o with mode := .memory }
  | "mode", _ => none
  | "cache", "shared" => some { o with shared := true }
  | "cache", "private" => some { o with shared := false }
  | "cache", _ => none
  | "vfs", "unix" => some o
  | "vfs", _ => none
  | _, _ => some o

/-- Reads an option onto others. -/
def readOption (o : Options) (cs : List Char) : Option Options := do
  let (name, value) := splitAt '=' cs
  o.set? (← part? name) (← part? value)

/-- A path without its authority, which can only be this machine. -/
def withoutAuthority? : List Char → Option (List Char)
  | '/' :: '/' :: rest =>
    let (authority, _) := splitAt '/' rest
    if authority = [] ∨ authority = "localhost".toList then some (rest.dropWhile (· != '/'))
    else none
  | cs => some cs

/-- The place of a path with options.  Nothing can be put into a file that is only read. -/
def ofOptions? (path : String) (o : Options) : Option Location :=
  if path = "" then some .passing
  else if path = ":memory:" ∨ o.mode = .memory then some (if o.shared then .memory else .passing)
  else
    match o.mode with
    | .readOnly => none
    | .readWrite => some (.file path true)
    | _ => some (.file path false)

/-- The place of an address after `file:`. -/
def ofAddress? (cs : List Char) : Option Location := do
  let (cs, _) := splitAt '#' (← withoutAuthority? cs)
  let (path, options) := splitAt '?' cs
  let path ← part? path
  let o ← (options.splitOn '&').foldlM readOption {}
  ofOptions? path o

/-- The place that an address names. -/
def ofPath? (address : String) : Option Location := do
  let rest := withoutScheme address
  if rest.toList.contains '?' then none
  else if rest = ":memory:" then some .memory
  else
    let path ← Text.percentDecoded? rest
    if hasNul path then none
    else
      match path.toList with
      | 'f' :: 'i' :: 'l' :: 'e' :: ':' :: cs => ofAddress? cs
      | _ => ofOptions? path {}

end Location

end Till
