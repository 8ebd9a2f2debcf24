import Till.Engine.Basic
import Till.Files
import Till.Location
import Till.Settings.Load
import Till.Store.Json

/-!
# Starting a till

A till is started with settings on files: the settings are checked, the folders that lead to the
data are made, the data is opened, and an engine is made.  What was done becomes lasting when the
session is saved.

* `Startup.loadSettings` : the settings from a file and the environment;
* `Startup.connect` : starts a till.  What was made on the way to it stays, even if it fails;
* `Session.save` : the files with the data of a session.
-/

namespace Till

/-- A till at work. -/
structure Session where
  /-- The names of the file with the data, if it is kept. -/
  file : Option (List String)
  /-- The engine. -/
  engine : Engine
  /-- What it works on. -/
  world : World Cache

namespace Startup

/-- Why a till could not be started. -/
inductive Failure where
  /-- The settings are unusable, or a file cannot be used. -/
  | settings (failure : Settings.Failure)
  /-- The data cannot be opened. -/
  | data (reason : Rejection)

/-- Loads settings from the file at a path, if there is one, and the environment. -/
def loadSettings (files : Files) (path : String) (dataPath : String)
    (env : Settings.Environment) : Except Settings.Failure Settings :=
  match files.look path with
  | .absent => Settings.load dataPath none env
  | .file text => Settings.load dataPath (some text) env
  | .folder => .error .file

/-! ### Opening data -/

/-- Data that was opened: the file in which it is kept, and what is in it. -/
structure Opened where
  /-- The names of the file, if there is one. -/
  file : Option (List String)
  /-- The data. -/
  store : Store

/-- Data that is kept nowhere. -/
def Opened.unkept : Opened := ⟨none, {}⟩

/-- The refusal to open data. -/
def unopened (reason : String) : Failure := .data (.unavailable reason)

/-- The most bytes of the path from the root to data. -/
def greatestPath : Nat := 504

/-- The most bytes of the name of a file with data, beside which there has to be room for a journal. -/
def greatestName : Nat := 247

/-- Whether a file with data can be, or be made, under the names. -/
def isFitting (files : Files) (names : List String) : Bool :=
  decide ((Files.pathOf names).utf8ByteSize ≤ greatestPath) &&
    names.getLast?.all (fun name => decide (name.utf8ByteSize ≤ greatestName)) &&
    files.hasFolder names.dropLast && !files.hasFolder names

/-- Opens the data in a file. -/
def openFile (files : Files) (path : String) (mustExist : Bool) : Except Failure Opened :=
  let names := files.plainNames path
  if !isFitting files names then .error (unopened "unable to open database file")
  else
    match files.text? names with
    | none =>
      if mustExist then .error (unopened "unable to open database file")
      else .ok ⟨some names, {}⟩
    | some text =>
      match Store.ofText? text with
      | some store => .ok ⟨some names, store⟩
      | none => .error (unopened "file is not a database")

/-- Opens the data of settings.  What is kept for each connection on its own is of use to a single
connection only. -/
def openData (files : Files) (s : Settings) : Except Failure Opened :=
  match Location.ofPath? s.path with
  | none => .error (unopened "unable to open database file")
  | some .memory => .ok .unkept
  | some .passing => if s.connections = 1 then .ok .unkept else .error (unopened "no such table")
  | some (.file path mustExist) => openFile files path mustExist

/-- Starts a till on data. -/
def session (s : Settings) (now : Instant) (opened : Opened) : Outcome Failure Session := do
  let engine ← (Engine.ofSettings s).mapRejection .data
  pure ⟨opened.file, engine, { store := opened.store, now, cache := .memory .standard }⟩

/-- The files with data in its file, if it has one. -/
def keep (files : Files) (file : Option (List String)) (store : Store) : Files :=
  match file with
  | some names => files.put names store.text
  | none => files

/-- Starts a till; gives the files with what was made on the way to it. -/
def connect (files : Files) (s : Settings) (now : Instant) : Outcome Failure Session × Files :=
  match s.check with
  | .error problem => (Outcome.reject (.settings (.invalid problem)), files)
  | .ok () =>
    match files.makeFolders s.path with
    | (false, files) => (Outcome.reject (.settings .file), files)
    | (true, files) =>
      match openData files s with
      | .error failure => (Outcome.reject failure, files)
      | .ok opened => (session s now opened, keep files opened.file opened.store)

end Startup

namespace Session

/-- The files with the data of a session. -/
def save (s : Session) (files : Files) : Files := Startup.keep files s.file s.world.store

end Session

end Till
