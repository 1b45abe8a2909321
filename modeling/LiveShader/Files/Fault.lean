/-!
# Faults of reading

Why a text cannot be read from a file.
-/
namespace LiveShader

/-- Why a file cannot be read, or a path not be followed. -/
inductive ReadFault where
  | notFound
  | notADirectory
  | isADirectory
  | nameTooLong
  /-- The path holds a character that no path may hold. -/
  | invalidPath
  /-- The file holds bytes that are no text. -/
  | invalidText
  /-- Any other fault, in the words of the system. -/
  | other (text : String)
  deriving DecidableEq

namespace ReadFault

/-- The words for a fault. -/
def message : ReadFault → String
  | .notFound => "No such file or directory (os error 2)"
  | .notADirectory => "Not a directory (os error 20)"
  | .isADirectory => "Is a directory (os error 21)"
  | .nameTooLong => "File name too long (os error 36)"
  | .invalidPath => "file name contained an unexpected NUL byte"
  | .invalidText => "stream did not contain valid UTF-8"
  | .other text => text

end ReadFault

end LiveShader
