import Till.Engine.Checkout
import Till.Engine.Inventory
import Till.Startup

/-!
# The demo store

The demo fills a store through the operations of a till: products, a delivery, a shift with a
sale, and the end of the shift.  It tells line by line what it does.

* `Demo.command` : reads the arguments of the command line;
* `Demo.run` : runs a command on files.
-/

namespace Till

namespace Demo

/-! ### Arguments -/

/-- The paths given as arguments. -/
structure Options where
  /-- The file of the settings. -/
  settings : Option String := none
  /-- The file of the data. -/
  data : Option String := none
  deriving DecidableEq, Repr

/-- What the arguments ask for. -/
inductive Command where
  /-- An explanation. -/
  | help
  /-- The demo. -/
  | fill (o : Options)
  deriving DecidableEq, Repr

/-- Reads arguments onto options; the last path of a kind counts, and what is not known is passed
over. -/
def readArguments (o : Options) : List String → Command
  | [] => .fill o
  | [arg] => if arg = "--help" ∨ arg = "-h" then .help else .fill o
  | arg :: value :: rest =>
    if arg = "--help" ∨ arg = "-h" then .help
    else if arg = "--config" ∨ arg = "-c" then readArguments { o with settings := some value } rest
    else if arg = "--db" ∨ arg = "-d" then readArguments { o with data := some value } rest
    else readArguments o (value :: rest)

/-- Reads the arguments of the command line. -/
def command (args : List String) : Command := readArguments {} args

/-- The explanation. -/
def helpLines : List String := [
  "Tally POS Demo Store Seeder",
  "",
  "Usage: seed [OPTIONS]",
  "",
  "Options:",
  "  -c, --config <PATH>  Config file (default: platform config dir)",
  "  -d, --db <PATH>      Database file path (overrides config)",
  "  -h, --help           Show this help message"]

/-! ### Telling -/

/-- How the demo ends. -/
inductive Ending where
  /-- Well. -/
  | done
  /-- An operation was refused. -/
  | refused
  /-- A number left its range. -/
  | broken
  deriving DecidableEq, Repr

/-- The exit code of an ending. -/
def Ending.code : Ending → Nat
  | done => 0
  | refused => 1
  | broken => 101

/-- The demo while it is told. -/
structure Telling where
  /-- The till. -/
  session : Session
  /-- The lines told so far. -/
  lines : List String
  /-- The number of operations so far. -/
  operations : Nat := 0

/-- A part of the demo. -/
abbrev Part (α : Type) := ExceptT Ending (StateM Telling) α

/-- The identifiers of each operation, by its number. -/
abbrev Supply := Nat → Ids

/-- Tells a line. -/
def tell (line : String) : Part Unit :=
  modify fun t => { t with lines := t.lines ++ [line] }

/-- Does an operation. -/
def attempt {α : Type} (supply : Supply)
    (operation : Engine → Ids → Action (World Cache) α) : Part (Result α) := do
  let t ← get
  let (result, world) := operation t.session.engine (supply t.operations) t.session.world
  set { t with session := { t.session with world }, operations := t.operations + 1 }
  pure result

/-- The end that a fault makes. -/
def endingOf : Fault Rejection → Ending
  | .rejected _ => .refused
  | .overflow => .broken

/-- Does an operation that has to succeed. -/
def act {α : Type} (supply : Supply) (operation : Engine → Ids → Action (World Cache) α) :
    Part α := do
  match ← attempt supply operation with
  | .ok a => pure a
  | .error e => throw (endingOf e)

/-- Does an operation on the store that has to succeed. -/
def actOnStore {α : Type} (supply : Supply)
    (operation : Engine → Ids → Instant → Action Store α) : Part α :=
  act supply fun e ids w => World.onStore (operation e ids w.now) w

/-! ### The story -/

/-- The products of the demo: stock keeping unit, name and price. -/
def catalog : List NewProduct := [
  ⟨"COFFEE-1KG", "House Blend Coffee 1kg", 10000⟩,
  ⟨"MUFFIN-BB", "Blueberry Muffin", 2500⟩,
  ⟨"MILK-1L", "Whole Milk 1L", 450⟩,
  ⟨"CROISSANT", "Butter Croissant", 1800⟩,
  ⟨"TEA-GRN", "Green Tea 50 bags", 3200⟩]

/-- The cash at the beginning of the shift. -/
def openingFloat : Int := 20000

/-- How many units of each product are delivered. -/
def delivered : Int := 24

/-- Whether a product was refused because there is one like it. -/
def isDuplicate : Result Product → Bool
  | .error (.rejected (.invalid (.duplicate _ _))) => true
  | _ => false

/-- Registers a product; if it is there already, the demo has been run before and ends. -/
def registerProduct (supply : Supply) (actor : Actor) (p : NewProduct) : Part Product := do
  let result ← attempt supply fun _ ids w =>
    World.onStore (Engine.registerProduct ids w.now actor p) w
  if isDuplicate result then
    tell ("⚠ Product " ++ p.sku ++ " already exists, database was seeded before.")
    tell "  Delete the database file to regenerate."
    throw .done
  match result with
  | .ok product => pure product
  | .error e => throw (endingOf e)

/-- The name of a status as it is told. -/
def statusName : OrderStatus → String
  | .open => "Open"
  | .partiallyReceived => "PartiallyReceived"
  | .received => "Received"

/-- Orders and receives products. -/
def deliver (supply : Supply) (actor : Actor) (products : List Product) : Part Unit := do
  let supplier ← actOnStore supply fun _ ids now =>
    Engine.registerSupplier ids now actor ⟨"Northside Wholesale", some "orders@northside.example"⟩
  let order ← actOnStore supply fun _ ids now => Engine.createOrder ids now actor
    ⟨supplier.id, products.map fun p => ⟨p.id, delivered, p.unitPrice / 2⟩⟩
  let order ← actOnStore supply fun _ ids now =>
    Engine.receiveOrder ids now actor order.id (products.map fun p => ⟨p.id, delivered⟩)
  tell ("✓ Received purchase order " ++ order.id ++ " (" ++ statusName order.status ++ ")")

/-- So many units of a product as a cart line. -/
def cartLine (p : Product) (quantity : Int) : CartLine := ⟨p.id, quantity, p.unitPrice, 0⟩

/-- Sells two units of a product and one of another, twice under one key, and asks for suggestions
for the first product. -/
def trade (supply : Supply) (actor : Actor) (shift : Shift) (first second : Product) :
    Part Unit := do
  let cart : Cart := {
    lines := [cartLine first 2, cartLine second 1]
    discount := .percentage 1000
    payment := .cash }
  let key := "seed:" ++ shift.id
  let sale ← act supply fun e ids => e.checkout Cache.access ids actor cart key
  let again ← act supply fun e ids => e.checkout Cache.access ids actor cart key
  tell ("✓ Sale " ++ sale.transaction.id ++ " total " ++ Cents.display sale.transaction.grand)
  tell ("  Replayed key returned the same sale: " ++
    toString (again.transaction.id == sale.transaction.id))
  tell ("  Suggested at checkout: " ++ toString sale.recommendations.items.length)
  let suggestions ← act supply fun e _ =>
    e.recommend Cache.access actor { lines := [cartLine first 1], payment := .cash }
  tell ("  Customers who bought " ++ first.name ++ " also bought:")
  for item in suggestions.items do
    tell ("    " ++ item.product ++ " (score " ++ toString item.score ++ ")")

/-- Closes the shift with the cash that should be there. -/
def closeOut (supply : Supply) (actor : Actor) (shift : Shift) : Part Unit := do
  let report ← actOnStore supply fun _ _ _ => Action.query (Engine.shiftReport actor shift.id)
  let closure ← actOnStore supply fun e ids now =>
    e.closeShift ids now actor shift.id report.expectedCash
  tell ("✓ Closed shift: expected " ++ Cents.display closure.expectedCash ++ ", counted " ++
    Cents.display closure.closingCash ++ ", variance " ++ Cents.display closure.variance)

/-- A text filled with blanks to a width. -/
def filled (width : Nat) (s : String) : String :=
  s ++ String.ofList (List.replicate (width - s.length) ' ')

/-- Tells the stock of products. -/
def tellStock (supply : Supply) (actor : Actor) (products : List Product) : Part Unit := do
  for p in products do
    let level ← actOnStore supply fun _ _ _ =>
      Action.query fun s => (s.stockLevel actor.store p.id).result
    tell ("  " ++ filled 12 p.sku ++ " stock " ++ toString level)

/-- The whole story. -/
def story (supply : Supply) (actor : Actor) : Part Unit := do
  let products ← catalog.mapM (registerProduct supply actor)
  tell ("✓ Registered " ++ toString products.length ++ " products")
  deliver supply actor products
  let shift ← actOnStore supply fun _ ids now => Engine.openShift ids now actor openingFloat
  tell ("✓ Opened shift " ++ shift.id ++ " with float " ++ Cents.display openingFloat)
  match products with
  | first :: second :: _ => trade supply actor shift first second
  | _ => pure ()
  closeOut supply actor shift
  tellStock supply actor products
  tell ""
  tell "✓ Seed complete!"

/-! ### Running -/

/-- What a run of the demo gives. -/
structure Run where
  /-- The exit code. -/
  code : Nat
  /-- The lines told. -/
  lines : List String
  /-- The files afterwards. -/
  files : Files

/-- Where a run takes place. -/
structure Place where
  /-- The file of the settings if none is given. -/
  settingsPath : String
  /-- The file of the data if none is given. -/
  dataPath : String
  /-- The variables of the environment. -/
  environment : Settings.Environment
  /-- The time. -/
  now : Instant
  /-- The identifiers. -/
  supply : Supply

/-- The lines at the beginning of the demo. -/
def headLines (s : Settings) : List String := [
  "Tally POS Demo Store Seeder",
  "===========================",
  "Database: " ++ s.path,
  "Store:    " ++ s.storeId,
  ""]

/-- The settings of a run. -/
def settingsOf (place : Place) (o : Options) (files : Files) :
    Except Settings.Failure Settings := do
  let s ← Startup.loadSettings files (o.settings.getD place.settingsPath) place.dataPath
    place.environment
  pure { s with path := o.data.getD s.path }

/-- Runs the demo with settings. -/
def fillWith (place : Place) (s : Settings) (files : Files) : Run :=
  match Startup.connect files s place.now with
  | (.error (.rejected _), files) => ⟨Ending.refused.code, headLines s, files⟩
  | (.error .overflow, files) => ⟨Ending.broken.code, headLines s, files⟩
  | (.ok session, files) =>
    let actor : Actor := { cashier := "seed-manager", role := .manager, store := s.storeId }
    let (ending, told) := (story place.supply actor).run.run { session, lines := headLines s }
    let code := match ending with
      | .ok () => Ending.done.code
      | .error ending => ending.code
    ⟨code, told.lines, told.session.save files⟩

/-- Runs the demo. -/
def fill (place : Place) (o : Options) (files : Files) : Run :=
  match settingsOf place o files with
  | .error _ => ⟨Ending.refused.code, [], files⟩
  | .ok s =>
    match Field.identifier "store.id" s.storeId with
    | .error _ => ⟨Ending.refused.code, [], files⟩
    | .ok () => fillWith place s files

/-- Runs a command on files. -/
def run (place : Place) (args : List String) (files : Files) : Run :=
  match command args with
  | .help => ⟨Ending.done.code, helpLines, files⟩
  | .fill o => fill place o files

end Demo

end Till
