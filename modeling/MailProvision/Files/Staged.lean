import MailProvision.Files.Disk

/-!
# Staged files

A file is written in two moves. Staging writes the whole content to a temporary file in the
directory of the destination; committing moves that file over the destination. Until then nothing
changes at the destination, and at no moment does it hold a part of the content.

A temporary file goes away when its staged file is discarded or cannot be committed.
-/

namespace MailProvision

/-- A file with its content written, not yet visible at its destination. -/
structure StagedFile where
  destination : String
  /-- The directory of the temporary file. -/
  directory : String
  /-- The number of the temporary file. -/
  number : Nat
deriving DecidableEq, Repr

/-- Why a file is not written, and which. -/
structure WriteFault where
  path : String
  cause : FileFault
deriving DecidableEq, Repr

namespace StagedFile

/-- The mode of a file while it is being written. -/
def privateMode : Nat := 0o600

/-- The modes that a file can have. -/
def modeLimit : Nat := 0o10000

/-- The directory in which a path ends; a path of a single step ends in the working directory. -/
def directoryOf (path : String) : String :=
  match Path.parent? path with
  | some parent => if parent.isEmpty then "." else parent
  | none => "."

/-- The path of the temporary file. -/
def temporaryPath (workingDirectory : Location) (staged : StagedFile) : String :=
  Path.join (Path.join workingDirectory.toPath staged.directory)
    (Name.temporary staged.number).toText

/-- The disk without the temporary file, if it can still be reached. -/
def discard (staged : StagedFile) (disk : Disk) : Disk :=
  match disk.tree.resolveStaging disk.workingDirectory staged.directory with
  | .ok location => disk.replaceTree (disk.tree.erase (location ++ [.temporary staged.number]))
  | .error _ => disk

/-- Creates an empty temporary file in a directory, and tells its location and number. As in the
`tempfile` package it has a name that no other file has, and only its owner may read it. -/
def createTemporary (directory : String) : Action Disk FileFault (Location × Nat) := fun disk =>
  match disk.tree.resolveStaging disk.workingDirectory directory with
  | .error fault => { result := .error fault, state := disk, trace := [] }
  | .ok parent =>
      let number := max disk.drawn disk.tree.freshNumber
      let location := parent ++ [.temporary number]
      let created := disk.replaceTree (disk.tree.insert location (.file privateMode []))
      { result := .ok (location, number)
        state := { created with drawn := number + 1 }
        trace := [] }

/-- Completes a temporary file: its content and then its mode, as far as there is no obstacle. -/
def complete (location : Location) (content : List UInt8) (mode : Nat) :
    Option Obstacle → Action Disk FileFault Unit
  | none => do
      Disk.write location content
      Disk.setMode location (mode % modeLimit)
  | some obstacle => do
      Disk.write location (obstacle.written content)
      Action.fail obstacle.cause

/-- Completes the temporary file of a staged file, which is taken away again if it cannot be
completed. -/
def prepare (staged : StagedFile) (location : Location) (content : List UInt8) (mode : Nat) :
    Action Disk WriteFault StagedFile := do
  let obstacle? ← Action.gets (Disk.obstacle? · staged.destination)
  ((complete location content mode obstacle?).onFailure staged.discard).mapFailure
    fun cause => { path := staged.destination, cause }
  let workingDirectory ← Action.gets Disk.workingDirectory
  Action.report (.staged staged.destination (staged.temporaryPath workingDirectory))
  return staged

/-- Writes a content to a temporary file next to a destination. -/
def stage (destination : String) (content : List UInt8) (mode : Nat) :
    Action Disk WriteFault StagedFile := do
  let directory := directoryOf destination
  let (location, number) ←
    (createTemporary directory).mapFailure fun cause => { path := destination, cause }
  prepare { destination, directory, number } location content mode

/-- Moves the temporary file over the destination. -/
def commit (staged : StagedFile) : Action Disk WriteFault String := do
  let move := Disk.attempt fun tree workingDirectory =>
    tree.rename workingDirectory staged.directory staged.number staged.destination
  (move.onFailure staged.discard).mapFailure fun cause => { path := staged.destination, cause }
  return staged.destination

end StagedFile

end MailProvision
