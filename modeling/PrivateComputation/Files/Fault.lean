/-!
Why an operation on files fails.
-/

namespace PrivateComputation

inductive FileFault where
  | missing
  | exists
  | notDirectory
  | isDirectory
  | nameTooLong
  | notText
  deriving DecidableEq

def FileFault.message : FileFault → String
  | .missing => "No such file or directory (os error 2)"
  | .exists => "File exists (os error 17)"
  | .notDirectory => "Not a directory (os error 20)"
  | .isDirectory => "Is a directory (os error 21)"
  | .nameTooLong => "File name too long (os error 36)"
  | .notText => "stream did not contain valid UTF-8"

end PrivateComputation
