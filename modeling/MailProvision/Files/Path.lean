import MailProvision.Text.Blank

/-!
# Paths as text

A path is a text; the parts between slashes are its segments. A segment is significant if it names a
step: empty segments and a `.` after the first place only repeat where one already is. The parent of
a path is the text up to its last but one significant segment, so it keeps the spelling of what came
before.
-/

namespace MailProvision

namespace Path

/-- The parts of a path between its slashes. -/
def segments (path : String) : List String :=
  (Text.splitChars '/' path.toList).map String.ofList

/-- Whether the path starts at the root. -/
def isAbsolute (path : String) : Bool :=
  path.toList.head? = some '/'

/-- Whether a segment is a step, given whether it is the first one. -/
def isSignificant (first : Bool) (segment : String) : Bool :=
  segment ≠ "" && (first || segment ≠ ".")

/-- The steps of a path from its start. -/
def components (path : String) : List String :=
  match segments path with
  | [] => []
  | first :: rest =>
      (if isSignificant true first then [first] else []) ++ rest.filter (isSignificant false)

/-- How many segments there are up to the last significant one, that one included. -/
def bodyLength (segments : List String) : Nat :=
  match segments with
  | [] => 0
  | first :: rest =>
      let tail := (rest.reverse.dropWhile fun segment => !isSignificant false segment).length
      if tail = 0 then (if isSignificant true first then 1 else 0) else tail + 1

/-- The text of the first segments, or the root if nothing but the leading slash is left. -/
def ofSegments (absolute : Bool) (segments : List String) : String :=
  if absolute && segments.length ≤ 1 then "/" else "/".intercalate segments

/-- The path without its last step, in its own spelling; a path without steps has no parent. -/
def parent? (path : String) : Option String :=
  let all := segments path
  match bodyLength all with
  | 0 => none
  | n + 1 =>
      let before := all.take n
      some (ofSegments (isAbsolute path) (before.take (bodyLength before)))

/-- At most `limit` paths, each the parent of the one before, from the path itself on. -/
def ancestorsWithin : Nat → String → List String
  | 0, _ => []
  | limit + 1, path =>
      path ::
        match parent? path with
        | none => []
        | some parent => ancestorsWithin limit parent

/-- The path, its parent, the parent of that, and so on to the start. -/
def ancestors (path : String) : List String :=
  ancestorsWithin ((segments path).length + 1) path

/-- The last step of a path, unless it leads upwards or nowhere. -/
def fileName? (path : String) : Option String :=
  match (components path).getLast? with
  | some name => if name = "." || name = ".." then none else some name
  | none => none

/-- What follows the last dot of the file name, unless the name only starts with that dot. -/
def extension? (path : String) : Option String :=
  match fileName? path with
  | none => none
  | some name =>
      let afterDot := name.toList.reverse.takeWhile (· ≠ '.')
      if name.length ≤ afterDot.length + 1 then none
      else some (String.ofList afterDot.reverse)

/-- The path with a text added to its file name; whatever followed that name is dropped. -/
def extendFileName (path suffix : String) : String :=
  match fileName? path with
  | none => path
  | some _ =>
      let all := segments path
      ofSegments (isAbsolute path) (all.take (bodyLength all)) ++ suffix

/-- A path seen from a directory: the path itself if it is absolute. -/
def join (directory path : String) : String :=
  if isAbsolute path then path
  else if directory.isEmpty || directory.toList.getLast? = some '/' then directory ++ path
  else directory ++ "/" ++ path

/-- Drops the common start of two lists. -/
def dropCommon : List String → List String → List String × List String
  | a :: as, b :: bs => if a = b then dropCommon as bs else (a :: as, b :: bs)
  | as, bs => (as, bs)

/-- The steps from one absolute path to another. -/
def relativeTo (base path : String) : String :=
  let (forward, back) := dropCommon (components path) (components base)
  "/".intercalate (back.map (fun _ => "..") ++ forward)

example : parent? ".//d//f" = some ".//d" := by decide +kernel

example : parent? "a/./b" = some "a" := by decide +kernel

example : extension? ".json" = none := by decide +kernel

end Path

end MailProvision
