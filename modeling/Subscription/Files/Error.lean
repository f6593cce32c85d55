/-!
# Why a file operation fails

The causes for which reading, writing or removing a file can fail, with the number that the
operating system gives them.
-/

namespace Subscription

/-- A failed file operation. -/
inductive FileError where
  /-- A part of the path does not exist. -/
  | notFound
  /-- Something else already has the name. -/
  | nameTaken
  /-- A part of the path that should hold others is a file. -/
  | notDirectory
  /-- A directory stands where a file should be. -/
  | isDirectory
  /-- A part of the path is longer than a name may be. -/
  | nameTooLong
  /-- The user of the program may not do this with the file. -/
  | denied
  /-- The bytes of the file are not UTF-8. -/
  | notText
  deriving DecidableEq, Repr

/-- The failure in words, with its number where the operating system has one. -/
def FileError.message : FileError → String
  | .notFound => "No such file or directory (os error 2)"
  | .nameTaken => "File exists (os error 17)"
  | .notDirectory => "Not a directory (os error 20)"
  | .isDirectory => "Is a directory (os error 21)"
  | .nameTooLong => "File name too long (os error 36)"
  | .denied => "Permission denied (os error 13)"
  | .notText => "stream did not contain valid UTF-8"

end Subscription
