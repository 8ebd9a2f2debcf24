/-!
# Files

`Files` are folders and the texts in files, by the names that lead to them from the root.  A
folder is there as long as something is in it, or the work is done in it.

* `Files.look` : what is found at a path, going through its folders name by name;
* `Files.makeFolders` : makes the folders that lead to a path;
* `Files.plainNames` : the names that a path leads to when `..` takes back the name before it,
  whether or not there is such a folder.
-/

namespace Till

/-- Folders and the texts in files. -/
structure Files where
  /-- The folder in which the work is done: paths that do not begin at the root begin there. -/
  here : List String := []
  /-- Folders that are there even with nothing in them. -/
  folders : List (List String) := []
  /-- The files with their texts. -/
  texts : List (List String × String) := []

namespace Files

/-- What is found at a path. -/
inductive Found where
  /-- Nothing. -/
  | absent
  /-- A folder. -/
  | folder
  /-- A file. -/
  | file (text : String)

/-! ### Names -/

/-- The names of a way after one more of them: `.` stays and `..` goes up. -/
def step (names : List String) (name : String) : List String :=
  if name == "" || name == "." then names
  else if name == ".." then names.dropLast
  else names ++ [name]

/-- The names of a path. -/
def parts (path : String) : List String := path.splitOn "/"

/-- The names of the folder in which a path begins. -/
def start (f : Files) (path : String) : List String :=
  if path.toList.head? = some '/' then [] else f.here

/-- The names that a path leads to when `..` takes back the name before it. -/
def plainNames (f : Files) (path : String) : List String := (parts path).foldl step (f.start path)

/-- The path from the root to something. -/
def pathOf (names : List String) : String := "/" ++ "/".intercalate names

/-- Whether a path is too long or has a character that none can have. -/
def isUnusable (path : String) : Bool :=
  decide (4096 ≤ path.utf8ByteSize) || path.toList.any fun c => c.toNat == 0

/-- Whether a name is too long. -/
def isLong (name : String) : Bool := decide (255 < name.utf8ByteSize)

/-! ### Looking -/

/-- The text of the file with the names, if there is one. -/
def text? (f : Files) (names : List String) : Option String :=
  (f.texts.find? fun t => t.1 == names).map (·.2)

/-- Whether there is a folder with the names. -/
def hasFolder (f : Files) (names : List String) : Bool :=
  names.isPrefixOf f.here || f.folders.any names.isPrefixOf ||
    f.texts.any fun t => names.isPrefixOf t.1.dropLast

/-- The names that a way leads to through folders that are there. -/
def walk? (f : Files) (names : List String) : List String → Option (List String)
  | [] => some names
  | part :: rest => if f.hasFolder names then f.walk? (step names part) rest else none

/-- What is found at a path. -/
def look (f : Files) (path : String) : Found :=
  if path = "" ∨ isUnusable path then .absent
  else
    match f.walk? (f.start path) (parts path) with
    | none => .absent
    | some names =>
      if f.hasFolder names then .folder
      else
        match f.text? names with
        | some text => .file text
        | none => .absent

/-! ### Changing -/

/-- Puts a text into the file with the names. -/
def put (f : Files) (names : List String) (text : String) : Files :=
  { f with texts := f.texts.filter (fun t => !(t.1 == names)) ++ [(names, text)] }

/-- Makes a folder unless it is there; nothing if it cannot be made. -/
def makeFolder? (f : Files) (names : List String) : Option Files :=
  if f.hasFolder names then some f
  else if (f.text? names).isSome || names.getLast?.any isLong then none
  else some { f with folders := f.folders ++ [names] }

/-- Makes the folders of a way one after the other; says whether all of them are there now. -/
def makeWay (f : Files) (names : List String) : List String → Bool × Files
  | [] => (true, f)
  | part :: rest =>
    match f.makeFolder? (step names part) with
    | some after => makeWay after (step names part) rest
    | none => (false, f)

/-- The names of the folders that lead to a path: all but the last one, where empty names and `.` do
not count. -/
def folderParts (path : String) : List String :=
  ((parts path).filter fun name => name != "" && name != ".").dropLast

/-- Makes the folders that lead to a path; says whether they are there now. -/
def makeFolders (f : Files) (path : String) : Bool × Files :=
  let way := folderParts path
  if isUnusable ("/".intercalate way) then (false, f) else f.makeWay (f.start path) way

end Files

end Till
