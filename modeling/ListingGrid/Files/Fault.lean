/-!
# What can go wrong with files

The causes for which reading or writing fails, with the words and numbers that
the system gives them.
-/

set_option autoImplicit false

namespace ListingGrid

inductive FileError where
  | notFound
  | alreadyExists
  | notADirectory
  | isADirectory
  | nameTooLong
  | nulByte
  | invalidText
  | interrupted
  | brokenPipe
  deriving DecidableEq, Repr

def FileError.message : FileError → String
  | .notFound => "No such file or directory (os error 2)"
  | .alreadyExists => "File exists (os error 17)"
  | .notADirectory => "Not a directory (os error 20)"
  | .isADirectory => "Is a directory (os error 21)"
  | .nameTooLong => "File name too long (os error 36)"
  | .nulByte => "file name contained an unexpected NUL byte"
  | .invalidText => "stream did not contain valid UTF-8"
  | .interrupted => "Interrupted system call (os error 4)"
  | .brokenPipe => "Broken pipe (os error 32)"

end ListingGrid
