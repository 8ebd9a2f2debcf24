import Std.Time.DateTime.Timestamp
import Till.Demo

/-!
# The command line

Fills a store with the demo.  Everything that is decided is decided by `Demo.run`; here the files,
the clock, the environment and the identifiers are supplied, the lines are printed and the data is
written.
-/

namespace Till

namespace CommandLine

/-- The variables of the environment that settings are taken from. -/
def environment : IO Settings.Environment := do
  let mut found : List (String × String) := []
  for name in Settings.variableNames do
    if let some value ← IO.getEnv name then
      found := (name, value) :: found
  let known := found
  return fun name => (known.find? fun v => v.1 == name).map (·.2)

/-- The folder that a variable names by its path from the root, or one in the home folder. -/
def folder (name inHome : String) : IO String := do
  let named := (← IO.getEnv name).filter (Text.beginsWith "/")
  return named.getD (((← IO.getEnv "HOME").getD "") ++ "/" ++ inHome)

/-- Two digits in base 16. -/
def hexByte (n : Nat) : List Char := [Json.hexDigit (n / 16 % 16), Json.hexDigit (n % 16)]

/-- The beginning of identifiers that no other run uses, given ten arbitrary bytes. -/
def idStart (bytes : List Nat) : String :=
  let byte (i : Nat) : List Char := hexByte (bytes.getD i 0)
  String.ofList (byte 0 ++ byte 1 ++ byte 2 ++ byte 3 ++ '-' :: byte 4 ++ byte 5 ++
    '-' :: '4' :: (byte 6).drop 1 ++ byte 7 ++ '-' :: '8' :: (byte 8).drop 1 ++ byte 9 ++ ['-'])

/-- An identifier with the given beginning and number. -/
def idOf (start : String) (n : Nat) : String :=
  let digits := toString n
  start ++ String.ofList (List.replicate (12 - digits.length) '0') ++ digits

/-- The identifiers of the operations of a run. -/
def supply (start : String) : Demo.Supply := fun n =>
  { subject := idOf start (1000 * n)
    event := idOf start (1000 * n + 1)
    movement := fun i => idOf start (1000 * n + 2 + i) }

/-! ### Files -/

/-- Adds what is found under names to files, and says whether it is a folder.  What cannot be read is
taken for a folder. -/
def survey (files : Files) (names : List String) : IO (Files × Bool) := do
  let asFolder : Files × Bool := ({ files with folders := files.folders ++ [names] }, true)
  try
    return (files.put names (← IO.FS.readFile (Files.pathOf names)), false)
  catch
    | .noFileOrDirectory _ _ _ => return (files, false)
    | _ => return asFolder

/-- Adds what is found on a way to files, as far as it leads through folders. -/
def surveyWay (files : Files) (names : List String) : List String → IO Files
  | [] => return files
  | part :: rest => do
    let (files, isFolder) ← survey files (Files.step names part)
    if isFolder then surveyWay files (Files.step names part) rest else return files

/-- Adds what is found on the way to a path. -/
def surveyPath (files : Files) (path : String) : IO Files :=
  surveyWay files (files.start path) (Files.parts path)

/-- Adds what is found on the way to data. -/
def surveyData (files : Files) (path : String) : IO Files := do
  let files ← surveyPath files path
  match Location.ofPath? path with
  | some (.file path _) => surveyWay files [] (files.plainNames path)
  | _ => return files

/-- Makes what was added to files. -/
def makeLasting (before after : Files) : IO Unit := do
  for names in after.folders do
    unless before.hasFolder names do IO.FS.createDirAll (Files.pathOf names)
  for (names, text) in after.texts do
    unless before.text? names == some text do IO.FS.writeFile (Files.pathOf names) text

/-- Where this run takes place. -/
def place : IO Demo.Place := do
  let bytes ← IO.getRandomBytes 10
  let now ← Std.Time.Timestamp.now
  return {
    settingsPath := (← folder "XDG_CONFIG_HOME" ".config") ++ "/pos/tally.toml"
    dataPath := (← folder "XDG_DATA_HOME" ".local/share") ++ "/pos/tally.db"
    environment := ← environment
    now := Instant.ofElapsed now.toNanosecondsSinceUnixEpoch.val
    supply := supply (idStart (bytes.toList.map UInt8.toNat)) }

/-- Fills a store. -/
def fill (args : List String) (o : Demo.Options) : IO Nat := do
  let place ← place
  let here := (Files.parts (← IO.currentDir).toString).foldl Files.step []
  let files ← surveyPath { here } (o.settings.getD place.settingsPath)
  let files ← match Demo.settingsOf place o files with
    | .ok s => surveyData files s.path
    | .error _ => pure files
  let run := Demo.run place args files
  for line in run.lines do
    IO.println line
  makeLasting files run.files
  return run.code

end CommandLine

end Till

/-- Runs the command line. -/
def main (args : List String) : IO UInt32 := do
  match Till.Demo.command args with
  | .help =>
    for line in Till.Demo.helpLines do
      IO.println line
    return 0
  | .fill o => return (← Till.CommandLine.fill args o).toUInt32
