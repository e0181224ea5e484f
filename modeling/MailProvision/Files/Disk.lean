import MailProvision.Action
import MailProvision.Files.Directories

/-!
# Disks

A file tree that is worked on from a working directory. A disk remembers every tree that stood on
it, so that one can speak of what others could see meanwhile. Which files it does not let be
written, although their directories are there, is part of the disk too.
-/

namespace MailProvision

/-- A file tree with its history. -/
structure Disk where
  tree : FileTree
  workingDirectory : Location
  /-- The trees that stood before, the last one first. -/
  past : List FileTree := []
  /-- Greater than the number of every temporary file made so far. -/
  drawn : Nat := 0
  /-- What writing a temporary file meets, by the destination of the file. -/
  obstacles : List (String × Obstacle) := []
deriving DecidableEq, Repr

namespace Disk

/-- Puts another tree in place of the one that stands. -/
def replaceTree (tree : FileTree) (disk : Disk) : Disk :=
  { disk with tree, past := disk.tree :: disk.past }

/-- Every tree that stood or stands, the last one first. -/
def states (disk : Disk) : List FileTree :=
  disk.tree :: disk.past

/-- Works on the tree by an operation that leaves it alone if it fails. -/
def attempt (operation : FileTree → Location → Except FileFault FileTree) :
    Action Disk FileFault Unit := fun disk =>
  match operation disk.tree disk.workingDirectory with
  | .ok tree => { result := .ok (), state := disk.replaceTree tree, trace := [] }
  | .error fault => { result := .error fault, state := disk, trace := [] }

/-- Works on the tree by an operation that may fail half-way. -/
def progress (operation : FileTree → Location → FileTree × Except FileFault Unit) :
    Action Disk FileFault Unit := fun disk =>
  let (tree, result) := operation disk.tree disk.workingDirectory
  { result, state := disk.replaceTree tree, trace := [] }

/-- What writing a temporary file for a destination meets. -/
def obstacle? (disk : Disk) (destination : String) : Option Obstacle :=
  disk.obstacles.lookup destination

/-- Puts another content into a file. -/
def write (location : Location) (content : List UInt8) : Action Disk FileFault Unit :=
  Action.modify fun disk => disk.replaceTree (disk.tree.setContent location content)

/-- Gives a file another mode. -/
def setMode (location : Location) (mode : Nat) : Action Disk FileFault Unit :=
  Action.modify fun disk => disk.replaceTree (disk.tree.setMode location mode)

/-- Creates a directory and all that is missing above it. -/
def makeDirectories (path : String) : Action Disk FileFault Unit :=
  progress fun tree workingDirectory => tree.makeDirectories workingDirectory path

/-- Removes a directory with everything below it. -/
def removeDirectories (path : String) : Action Disk FileFault Unit :=
  progress fun tree workingDirectory => tree.removeDirectories workingDirectory path

/-- Removes a file. -/
def remove (path : String) : Action Disk FileFault Unit :=
  attempt fun tree workingDirectory => tree.remove workingDirectory path

end Disk

end MailProvision
