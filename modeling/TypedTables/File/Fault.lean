/-!
# File faults

Why a file operation fails.
-/

namespace TypedTables

/-- Why a file operation fails. -/
inductive FileFault where
  | notFound
  | notDirectory
  | isDirectory
  | alreadyExists
  | busy
  /-- A path, or a name in it, is longer than the system allows. -/
  | nameTooLong
  /-- A path holds the character that ends texts inside the system. -/
  | invalidName
  /-- The content is not UTF-8 text. -/
  | notText
  /-- Any other reason, as the system words it. -/
  | other (reason : String)
deriving DecidableEq, Repr

def FileFault.message : FileFault → String
  | notFound => "No such file or directory (os error 2)"
  | busy => "Device or resource busy (os error 16)"
  | alreadyExists => "File exists (os error 17)"
  | notDirectory => "Not a directory (os error 20)"
  | isDirectory => "Is a directory (os error 21)"
  | nameTooLong => "File name too long (os error 36)"
  | invalidName => "file name contained an unexpected NUL byte"
  | notText => "stream did not contain valid UTF-8"
  | other reason => reason

end TypedTables
