/-!
# Why a file operation fails

The causes that the operating system reports for operations on files and directories, and where they
are met while a temporary file is written.
-/

namespace MailProvision

/-- The cause of a failed file operation. -/
inductive FileFault where
  | notFound
  | notADirectory
  | isADirectory
  | alreadyExists
  | busy
  | nameTooLong
  | notEmpty
  /-- The path holds a character that no path can hold. -/
  | unusablePath
  /-- The operation has no meaning for this path. -/
  | invalidArgument
  /-- Any other cause, in words. -/
  | other (text : String)
deriving DecidableEq, Repr

namespace FileFault

/-- The cause in words. -/
def message : FileFault → String
  | notFound => "No such file or directory (os error 2)"
  | notADirectory => "Not a directory (os error 20)"
  | isADirectory => "Is a directory (os error 21)"
  | alreadyExists => "File exists (os error 17)"
  | busy => "Device or resource busy (os error 16)"
  | nameTooLong => "File name too long (os error 36)"
  | notEmpty => "Directory not empty (os error 39)"
  | unusablePath => "file name contained an unexpected NUL byte"
  | invalidArgument => "Invalid argument (os error 22)"
  | other text => text

end FileFault

/-- What keeps a temporary file from being completed once it was created. -/
inductive Obstacle where
  /-- Writing stops after some bytes. -/
  | write (written : Nat) (cause : FileFault)
  /-- What was written is not kept. -/
  | sync (cause : FileFault)
  | setMode (cause : FileFault)
deriving DecidableEq, Repr

namespace Obstacle

/-- The cause that is told. -/
def cause : Obstacle → FileFault
  | write _ cause | sync cause | setMode cause => cause

/-- How much of a content is written before the obstacle is met. -/
def written (content : List UInt8) : Obstacle → List UInt8
  | write written _ => content.take written
  | sync _ | setMode _ => content

end Obstacle

end MailProvision
