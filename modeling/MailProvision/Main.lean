import MailProvision.CommandLine.Run
import Std.Time.DateTime.Timestamp

/-!
# The command

Takes what a run needs from the computer, lets the run happen on that copy, and carries out what
came of it: the clock, a secret seed, the variables and the part of the disk that the run looks at
go in; new directories and files, printed text and the exit code come out.
-/

namespace MailProvision

namespace Computer

/-- The packages that read the settings. -/
def library : Settings.Library :=
  .plain

/-- The variables of the environment. -/
def readEnvironment : IO (List (String × String)) := do
  let bytes ← IO.FS.readBinFile "/proc/self/environ"
  let text := (String.fromUTF8? bytes).getD ""
  return (Text.splitChars '\x00' text.toList).filterMap fun chars =>
    let name := chars.takeWhile (· ≠ '=')
    match chars.drop name.length with
    | _ :: value => some (String.ofList name, String.ofList value)
    | [] => none

/-- Nanoseconds from the start of 1970. -/
def clock : IO Int := do
  let moment ← Std.Time.Timestamp.now
  return moment.toNanosecondsSinceUnixEpoch.val

/-- The location that a list of steps leads to from another one. -/
def follow (location : Location) : List String → Location
  | [] => location
  | "." :: rest => follow location rest
  | ".." :: rest => follow location.dropLast rest
  | name :: rest => follow (location ++ [.text name]) rest

/-- Adds what stands at a location on the disk. -/
def observeAt (tree : FileTree) (location : Location) : IO FileTree := do
  match ← (IO.FS.readBinFile location.toPath).toBaseIO with
  | .ok bytes => return tree.insert location (.file 0o644 bytes.toList)
  | .error (.noFileOrDirectory ..) => return tree
  | .error _ => return tree.insert location .directory

/-- Adds what stands at a path and above it. -/
def observe (workingDirectory : Location) (tree : FileTree) (path : String) : IO FileTree := do
  let location := follow (FileTree.start workingDirectory path) (FileTree.names path)
  (List.range location.length).foldlM
    (fun tree n => observeAt tree (location.take (n + 1))) tree

/-- The paths that may hold the configuration. -/
def configPaths (path : Option String) : List String :=
  let places := path.elim Config.searchPaths fun path => [path]
  places.flatMap fun place =>
    place :: library.registered.map fun format =>
      Path.extendFileName place ("." ++ format.1)

/-- The path of the configuration that a request names. -/
def configPath? : Request → Option String
  | .script path | .provision _ path => path
  | .help _ | .version => none

/-- The part of the disk that a request may look at. -/
def survey (workingDirectory : Location) (environment : List (String × String))
    (request : Request) : IO FileTree := do
  let paths := workingDirectory.toPath :: configPaths (configPath? request)
  let tree ← paths.foldlM (observe workingDirectory) FileTree.empty
  match Config.load library tree workingDirectory environment (configPath? request) with
  | .error _ => return tree
  | .ok config =>
      [config.certificate.certificatePath, config.certificate.keyPath].foldlM
        (observe workingDirectory) tree

/-- Three bits of a mode. -/
def accessRight (bits : Nat) : IO.AccessRight :=
  { read := bits / 4 % 2 = 1, write := bits / 2 % 2 = 1, execution := bits % 2 = 1 }

/-- Writes a file under a name of its own and moves it to its place. -/
def writeFile (location : Location) (mode : Nat) (content : List UInt8) : IO Unit := do
  let bytes ← IO.getRandomBytes 8
  let number := Der.ofBigEndian bytes.toList
  let temporary := (Location.toPath (location.dropLast ++ [.temporary number]))
  let handle ← IO.FS.Handle.mk temporary .writeNew
  let right (bits : Nat) := accessRight (bits % 8)
  IO.setAccessRights temporary { user := accessRight 6 }
  handle.write ⟨content.toArray⟩
  handle.flush
  IO.setAccessRights temporary
    { user := right (mode / 64), group := right (mode / 8), other := right mode }
  IO.FS.rename temporary location.toPath

/-- Carries out what is new in a tree. -/
def carryOut (before after : FileTree) : IO Unit :=
  after.entries.forM fun (location, entry) =>
    if before.get? location = some entry then pure ()
    else
      match entry with
      | .directory => IO.FS.createDirAll location.toPath
      | .file mode content => writeFile location mode content

/-- Answers a request. -/
def answer (request : Request) : IO UInt32 := do
  let environment ← readEnvironment
  let directory ← IO.currentDir
  let workingDirectory := follow [] (FileTree.names (toString directory))
  let tree ← survey workingDirectory environment request
  let seed ← IO.getRandomBytes 64
  let moment ← clock
  let world : World Unit :=
    { cluster := ()
      workshop :=
        { disk := { tree, workingDirectory }, clock := moment, keys := { seed := seed.toList } } }
  let connector := Connector.unreachable "no node of the cluster answers" Unit
  let (report, after) := Command.run library connector environment request world
  carryOut tree after.workshop.disk.tree
  IO.print (report.outputText moment)
  IO.eprint report.errorText
  return UInt32.ofNat report.exitCode

end Computer

end MailProvision

open MailProvision in
/-- Provisions the schema and the certificate of a mail server, as the arguments ask. -/
def main (arguments : List String) : IO UInt32 := do
  match Arguments.parse arguments with
  | some request => Computer.answer request
  | none =>
      IO.eprintln ("error: unusable arguments\n\nUsage: " ++ Help.usage .command ++
        "\n\nFor more information, try '--help'.")
      return 2
