import MailProvision.Files.Tree

/-!
# Making and removing directories

One directory, a directory with all that is missing above it, and a directory with all that is below
it. The last two can stop half-way, so they return the tree that they leave beside their answer.
-/

namespace MailProvision

namespace FileTree

/-- Creates one directory. -/
def makeDirectory (tree : FileTree) (workingDirectory : Location) (path : String) :
    Except FileFault FileTree := do
  match ← tree.resolveParent workingDirectory path with
  | (directory, .name name) =>
      checkName name
      match tree.get? (directory ++ [.text name]) with
      | some _ => .error .alreadyExists
      | none => .ok (tree.insert (directory ++ [.text name]) .directory)
  | _ => .error .alreadyExists

/-- Creates one directory and is content if it is there already. -/
def ensureDirectory (tree : FileTree) (workingDirectory : Location) (path : String) :
    FileTree × Except FileFault Unit :=
  match tree.makeDirectory workingDirectory path with
  | .ok made => (made, .ok ())
  | .error fault =>
      (tree, if tree.isDirectory workingDirectory path then .ok () else .error fault)

/-- Creates the first of a list of paths, each the parent of the one before it. Where a parent is
missing the rest of the list is created first. The empty path stands for the working directory. -/
def makeChain (workingDirectory : Location) :
    List String → FileTree → FileTree × Except FileFault Unit
  | [], tree => (tree, .error (.other "failed to create whole tree"))
  | path :: parents, tree =>
      if path = "" then (tree, .ok ())
      else
        match tree.makeDirectory workingDirectory path with
        | .ok made => (made, .ok ())
        | .error .notFound =>
            match makeChain workingDirectory parents tree with
            | (made, .ok ()) => made.ensureDirectory workingDirectory path
            | (made, .error fault) => (made, .error fault)
        | .error fault =>
            (tree, if tree.isDirectory workingDirectory path then .ok () else .error fault)

/-- Creates a directory and every directory above it that is missing. -/
def makeDirectories (tree : FileTree) (workingDirectory : Location) (path : String) :
    FileTree × Except FileFault Unit :=
  makeChain workingDirectory (Path.ancestors path) tree

/-- Removes a directory with everything below it. What is below goes even where the directory itself
cannot be removed by the name it was given; that name is followed anew once everything below is
gone. -/
def removeDirectories (tree : FileTree) (workingDirectory : Location) (path : String) :
    FileTree × Except FileFault Unit :=
  match tree.resolve workingDirectory path with
  | .error fault => (tree, .error fault)
  | .ok location =>
      if tree.isDirectoryAt location then
        let cleared := tree.eraseBelow location
        match cleared.resolveParent workingDirectory path with
        | .error fault => (cleared, .error fault)
        | .ok (_, .name _) => (cleared.erase location, .ok ())
        | .ok (_, .here) => (cleared, .error .invalidArgument)
        | .ok (_, .up) => (cleared, .error .notEmpty)
        | .ok (_, .root) => (cleared, .error .busy)
      else (tree, .error .notADirectory)

end FileTree

end MailProvision
