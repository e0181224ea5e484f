import MailProvision.Files.Fault
import MailProvision.Files.Path

/-!
# File trees

A tree of directories and files as a finite map from locations to entries. A location is the list of
names from the root, which is always there and a directory. All operations are seen through
`get?`, the look-up of a location.

Paths are followed from a working directory, step by step: each step starts in a directory, `.`
stays, `..` goes up, and a name goes to the entry of that name. Temporary files have numbers for
names, which are drawn anew each time, so that no path that anybody writes down leads to one.
-/

namespace MailProvision

/-- The name of an entry in its directory. -/
inductive Name where
  | text (name : String)
  /-- The name of a temporary file, drawn for it. -/
  | temporary (number : Nat)
deriving DecidableEq, Repr

namespace Name

/-- The text that shows a name. -/
def toText : Name → String
  | .text name => name
  | .temporary number =>
      let digits := Nat.toDigits 10 number
      String.ofList (".fsmtp-".toList ++ List.replicate (6 - digits.length) '0' ++ digits ++
        ".tmp".toList)

end Name

/-- The names on the way from the root. -/
abbrev Location := List Name

namespace Location

/-- The absolute path of a location. -/
def toPath (location : Location) : String :=
  "/" ++ "/".intercalate (location.map Name.toText)

end Location

/-- What stands at a location. -/
inductive Entry where
  | directory
  | file (mode : Nat) (content : List UInt8)
deriving DecidableEq, Repr

/-- The entries below the root by location. -/
structure FileTree where
  entries : List (Location × Entry)
deriving DecidableEq, Repr

namespace FileTree

/-- The tree with nothing below the root. -/
def empty : FileTree :=
  ⟨[]⟩

/-- The entry at a location. -/
def get? (tree : FileTree) (location : Location) : Option Entry :=
  if location = [] then some .directory else tree.entries.lookup location

/-- The tree without the entry at a location. -/
def erase (tree : FileTree) (location : Location) : FileTree :=
  ⟨tree.entries.filter fun item => item.1 ≠ location⟩

/-- The tree with an entry put at a location, in place of what was there. -/
def insert (tree : FileTree) (location : Location) (entry : Entry) : FileTree :=
  ⟨(tree.erase location).entries ++ [(location, entry)]⟩

/-- The tree without the entries strictly below a location. -/
def eraseBelow (tree : FileTree) (location : Location) : FileTree :=
  ⟨tree.entries.filter fun item => item.1 = location || !location.isPrefixOf item.1⟩

/-- Whether a directory stands at a location. -/
def isDirectoryAt (tree : FileTree) (location : Location) : Bool :=
  tree.get? location = some .directory

/-- The greatest number of bytes in a name. -/
def nameLimit : Nat := 255

/-- The number of bytes from which on a path is too long. -/
def pathLimit : Nat := 4096

/-- Follows one step from a location. -/
def step (tree : FileTree) (location : Location) (name : String) : Except FileFault Location :=
  match tree.get? location with
  | none => .error .notFound
  | some (.file ..) => .error .notADirectory
  | some .directory =>
      if name = "." then .ok location
      else if name = ".." then .ok location.dropLast
      else if nameLimit < name.utf8ByteSize then .error .nameTooLong
      else
        match tree.get? (location ++ [.text name]) with
        | none => .error .notFound
        | some _ => .ok (location ++ [.text name])

/-- Follows steps from a location. -/
def walk (tree : FileTree) : Location → List String → Except FileFault Location
  | location, [] => .ok location
  | location, name :: rest =>
      match tree.step location name with
      | .error fault => .error fault
      | .ok next => tree.walk next rest

/-- Refuses a text that no operation takes for a path. -/
def checkPath (path : String) : Except FileFault Unit :=
  if '\x00' ∈ path.toList then .error .unusablePath
  else if path.isEmpty then .error .notFound
  else if pathLimit ≤ path.utf8ByteSize then .error .nameTooLong
  else .ok ()

/-- The names between the slashes of a path, empty ones left out. -/
def names (path : String) : List String :=
  (Path.segments path).filter (· ≠ "")

/-- The location from which a path is followed. -/
def start (workingDirectory : Location) (path : String) : Location :=
  if Path.isAbsolute path then [] else workingDirectory

/-- Whether the path ends in a slash, so that only a directory will do. -/
def wantsDirectory (path : String) : Bool :=
  path.toList.getLast? = some '/'

/-- The location of an existing entry. -/
def resolve (tree : FileTree) (workingDirectory : Location) (path : String) :
    Except FileFault Location := do
  checkPath path
  let location ← tree.walk (start workingDirectory path) (names path)
  if wantsDirectory path && !tree.isDirectoryAt location then .error .notADirectory
  else .ok location

/-- Whether a path leads to an entry. -/
def pathExists (tree : FileTree) (workingDirectory : Location) (path : String) : Bool :=
  (tree.resolve workingDirectory path).isOk

/-- Whether a path leads to a directory. -/
def isDirectory (tree : FileTree) (workingDirectory : Location) (path : String) : Bool :=
  match tree.resolve workingDirectory path with
  | .ok location => tree.isDirectoryAt location
  | .error _ => false

/-- Whether a path leads to a file. -/
def isFile (tree : FileTree) (workingDirectory : Location) (path : String) : Bool :=
  match tree.resolve workingDirectory path with
  | .ok location => !tree.isDirectoryAt location
  | .error _ => false

/-- The content of the file at a path. -/
def read (tree : FileTree) (workingDirectory : Location) (path : String) :
    Except FileFault (List UInt8) := do
  let location ← tree.resolve workingDirectory path
  match tree.get? location with
  | some (.file _ content) => .ok content
  | _ => .error .isADirectory

/-- The last step of a path that is to be created, replaced or removed. -/
inductive LastStep where
  | name (text : String)
  | here
  | up
  | root
deriving DecidableEq, Repr

/-- The directory in which a path ends, and its last step. -/
def resolveParent (tree : FileTree) (workingDirectory : Location) (path : String) :
    Except FileFault (Location × LastStep) := do
  checkPath path
  let all := names path
  match all.getLast? with
  | none => .ok ([], .root)
  | some last =>
      let directory ← tree.walk (start workingDirectory path) all.dropLast
      match tree.get? directory with
      | none => .error .notFound
      | some (.file ..) => .error .notADirectory
      | some .directory =>
          .ok (directory, if last = "." then .here else if last = ".." then .up else .name last)

/-- Refuses a name that is too long for an entry. -/
def checkName (name : String) : Except FileFault Unit :=
  if nameLimit < name.utf8ByteSize then .error .nameTooLong else .ok ()

/-- Creates an empty file that was not there, and tells its location. -/
def create (tree : FileTree) (workingDirectory : Location) (path : String) (mode : Nat) :
    Except FileFault (Location × FileTree) := do
  match ← tree.resolveParent workingDirectory path with
  | (directory, .name name) =>
      checkName name
      let location := directory ++ [.text name]
      match tree.get? location with
      | some _ => .error .alreadyExists
      | none =>
          if wantsDirectory path then .error .isADirectory
          else .ok (location, tree.insert location (.file mode []))
  | _ => .error .isADirectory

/-- The tree with the content of the file at a location replaced. -/
def setContent (tree : FileTree) (location : Location) (content : List UInt8) : FileTree :=
  match tree.get? location with
  | some (.file mode _) => tree.insert location (.file mode content)
  | _ => tree

/-- The tree with the mode of the file at a location replaced. -/
def setMode (tree : FileTree) (location : Location) (mode : Nat) : FileTree :=
  match tree.get? location with
  | some (.file _ content) => tree.insert location (.file mode content)
  | _ => tree

/-- The number of characters in the name of a temporary file, as far as the length of paths goes. -/
def temporaryNameLength : Nat := 17

/-- A number that no temporary file in the tree has, and none above it. -/
def freshNumber (tree : FileTree) : Nat :=
  tree.entries.foldl (fun bound item =>
    item.1.foldl (fun bound name =>
      match name with
      | .temporary number => max bound (number + 1)
      | .text _ => bound) bound) 0

/-- The location of a directory in which a temporary file can stand. The directory is followed from
the root. -/
def resolveStaging (tree : FileTree) (workingDirectory : Location) (directory : String) :
    Except FileFault Location := do
  let full := Path.join workingDirectory.toPath directory
  checkPath full
  if pathLimit ≤ full.utf8ByteSize + 1 + temporaryNameLength then .error .nameTooLong
  else
    let location ← tree.walk [] (names full)
    match tree.get? location with
    | none => .error .notFound
    | some (.file ..) => .error .notADirectory
    | some .directory => .ok location

/-- Moves a temporary file of a directory over a destination, whose old file it replaces. A
directory is never replaced. -/
def rename (tree : FileTree) (workingDirectory : Location) (directory : String) (number : Nat)
    (destination : String) : Except FileFault FileTree := do
  checkPath destination
  let source ← tree.resolveStaging workingDirectory directory
  match ← tree.resolveParent workingDirectory destination with
  | (parent, .name name) =>
      match tree.get? (source ++ [.temporary number]) with
      | none => .error .notFound
      | some .directory => .error .invalidArgument
      | some (.file mode content) =>
          checkName name
          if wantsDirectory destination then .error .notADirectory
          else if tree.isDirectoryAt (parent ++ [.text name]) then .error .isADirectory
          else
            let moved := tree.erase (source ++ [.temporary number])
            .ok (moved.insert (parent ++ [.text name]) (.file mode content))
  | _ => .error .busy

/-- Removes a file. -/
def remove (tree : FileTree) (workingDirectory : Location) (path : String) :
    Except FileFault FileTree := do
  match ← tree.resolveParent workingDirectory path with
  | (directory, .name name) =>
      checkName name
      match tree.get? (directory ++ [.text name]) with
      | none => .error .notFound
      | some .directory => .error .isADirectory
      | some (.file ..) =>
          if wantsDirectory path then .error .notADirectory
          else .ok (tree.erase (directory ++ [.text name]))
  | _ => .error .isADirectory

end FileTree

end MailProvision
