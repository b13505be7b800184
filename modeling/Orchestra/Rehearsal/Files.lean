import Orchestra.Failure
import Orchestra.FilePath

/-!
Files and folders in memory.

A name is followed part by part, from the working folder or from the root. Every part but the last
must lead to a folder; two dots lead to the folder above.
-/

namespace Orchestra.Rehearsal

/-- The parts on the way from the root; the working folder is a part that no name can have. -/
abbrev Location := List String

/-- What stops an operation on files. -/
inductive FileFault where
  | missing
  | exists
  | notFolder
  | isFolder
  | tooLong
  /-- The name holds a character that no name can hold. -/
  | zero
deriving DecidableEq, Repr

namespace FileFault

/-- The number and the text of a fault of the operating system. -/
def entry? : FileFault → Option (Nat × String)
  | .missing => some (2, "No such file or directory")
  | .exists => some (17, "File exists")
  | .notFolder => some (20, "Not a directory")
  | .isFolder => some (21, "Is a directory")
  | .tooLong => some (36, "File name too long")
  | .zero => none

/-- The failure of an operation on a name. -/
def failure (fault : FileFault) (name : String) : Failure :=
  match fault.entry? with
  | some (number, text) =>
    .foreign (.system (SystemFault.ofNumber number))
      ("[Errno " ++ String.ofList (Text.naturalText number) ++ "] " ++ text ++ ": "
        ++ Value.quoted name)
  | none => .value "embedded null byte"

end FileFault

structure Files where
  texts : List (Location × String) := []
  folders : List Location := []

namespace Files

/-- The folder that names start from. -/
def workingFolder : Location := ["."]

def isFile (files : Files) (location : Location) : Bool :=
  files.texts.any (·.1 == location)

def isFolder (files : Files) (location : Location) : Bool :=
  location.isEmpty || location == workingFolder || files.folders.contains location

/-- The greatest sizes of a part and of a whole name, in bytes. -/
def maxPart : Nat := 255

def maxName : Nat := 4095

/-- Why a location is no folder. -/
def requireFolder (files : Files) (location : Location) : Except FileFault Unit :=
  if files.isFolder location then .ok ()
  else .error (if files.isFile location then .notFolder else .missing)

/-- Where parts lead from a location. -/
def walk (files : Files) (location : Location) : List String → Except FileFault Location
  | [] => .ok location
  | part :: rest => do
    files.requireFolder location
    match part with
    | "" | "." => walk files location rest
    | ".." => walk files location.dropLast rest
    | part =>
      if maxPart < part.utf8ByteSize then .error .tooLong
      else walk files (location ++ [part]) rest

/-- Where names of a kind start. -/
def start (name : String) : Location :=
  if FilePath.isAbsolute name then [] else workingFolder

/-- A name can be followed at all. -/
def checkName (name : String) : Except FileFault Unit :=
  if name.toList.contains '\x00' then .error .zero
  else if name == "" then .error .missing
  else if maxName < name.utf8ByteSize then .error .tooLong
  else .ok ()

/-- Where a name leads. -/
def locate (files : Files) (name : String) : Except FileFault Location := do
  checkName name
  files.walk (start name) (name.splitOn "/")

/-- There is a file or a folder of a name. -/
def holds (files : Files) (name : String) : Bool :=
  match files.locate name with
  | .ok location => files.isFile location || files.isFolder location
  | .error _ => false

/-- The name leads to a folder. -/
def holdsFolder (files : Files) (name : String) : Bool :=
  match files.locate name with
  | .ok location => files.isFolder location
  | .error _ => false

/-- Makes one folder in a folder that is there. -/
def addFolder (files : Files) (name : String) : Except FileFault Files := do
  checkName name
  let parts := ((name.splitOn "/").reverse.dropWhile (· == "")).reverse
  let above ← files.walk (start name) parts.dropLast
  files.requireFolder above
  match parts.getLast? with
  | none | some "." | some ".." => throw .exists
  | some part =>
    let location ← files.walk above [part]
    if files.isFile location || files.isFolder location then throw .exists
    return { files with folders := files.folders ++ [location] }

/-- An operation on files; what was done before a failure stays. -/
abbrev Work := ExceptT Failure (StateM Files)

/-- Makes one folder, as an operation. -/
def addFolderNow (name : String) : ExceptT FileFault (StateM Files) Unit := do
  match (← get).addFolder name with
  | .ok files => set files
  | .error fault => throw fault

/-- The operation fails with a name. -/
def naming (name : String) (work : ExceptT FileFault (StateM Files) Unit) : Work Unit := do
  match ← work.run with
  | .ok () => return ()
  | .error fault => throw (fault.failure name)

/-- Makes a folder, and those above it that are missing; `depth` bounds their number. -/
def makeFolder (depth : Nat) (name : String) : Work Unit := do
  let (head, tail) :=
    match FilePath.split name.toList with
    | (head, []) => FilePath.split head
    | parts => parts
  let above := String.ofList head
  match depth with
  | 0 => naming name (addFolderNow name)
  | depth + 1 =>
    if head.isEmpty || tail.isEmpty || (← get).holds above then naming name (addFolderNow name)
    else
      tryCatch (makeFolder depth above) fun
        | .foreign (.system .exists) _ => return ()
        | failure => throw failure
      if tail == ['.'] then return () else naming name (addFolderNow name)

/-- A folder that could not be made may be there already. -/
def settle (name : String) (fault : FileFault) : Work Unit := do
  if fault != .zero && (← get).holdsFolder name then return ()
  else throw (fault.failure name)

/-- Makes a folder and all folders above it, which may be there already; its parts come from the
innermost outwards. -/
def makePath (root : String) : List String → Work Unit
  | [] => return ()
  | part :: above => do
    let name := FilePath.join root (part :: above).reverse
    match ← (addFolderNow name).run with
    | .ok () => return ()
    | .error .missing =>
      makePath root above
      match ← (addFolderNow name).run with
      | .ok () => return ()
      | .error .missing => throw (FileFault.missing.failure name)
      | .error fault => settle name fault
    | .error fault => settle name fault

def putText (location : Location) (text : String) :
    List (Location × String) → List (Location × String)
  | [] => [(location, text)]
  | (other, old) :: rest =>
    if other == location then (other, text) :: rest
    else (other, old) :: putText location text rest

/-- Where a text of a name can be put. -/
def place (files : Files) (name : String) : Except FileFault Location := do
  let location ← files.locate name
  if files.isFolder location then throw .isFolder
  files.requireFolder location.dropLast
  return location

/-- Adds text at the end of a file, which is made together with its folders when it is missing. The
name is in its plain form. -/
def append (name text : String) : Work Unit := do
  makePath (FilePath.root name) (FilePath.parts name).dropLast.reverse
  let files ← get
  match files.place name with
  | .error fault => throw (fault.failure name)
  | .ok location =>
    set { files with
      texts := putText location ((files.texts.lookup location).getD "" ++ text) files.texts }

/-- A text with every kind of line end as a line feed. -/
def withLineFeeds : List Char → List Char
  | '\r' :: '\n' :: rest => '\n' :: withLineFeeds rest
  | '\r' :: rest => '\n' :: withLineFeeds rest
  | c :: rest => c :: withLineFeeds rest
  | [] => []

/-- The text of a file. -/
def read (files : Files) (name : String) : Except Failure String :=
  match files.locate name with
  | .error fault => .error (fault.failure name)
  | .ok location =>
    match files.texts.lookup location with
    | some text => .ok (String.ofList (withLineFeeds text.toList))
    | none =>
      .error ((if files.isFolder location then FileFault.isFolder else .missing).failure name)

end Files

end Orchestra.Rehearsal
