/-!
Why a file cannot be read as text.
-/

namespace ScriptStack.Files

/-- Why a file cannot be read as text. -/
inductive Error where
  | notFound
  | notDirectory
  | isDirectory
  | nameTooLong
  | permissionDenied
  /-- The path holds the character that ends a path. -/
  | nulInPath
  /-- The bytes are not UTF-8. -/
  | notText
  /-- Any other fault, in the system's own words. -/
  | other (text : String)
  deriving DecidableEq, Repr

def Error.message : Error → String
  | .notFound => "No such file or directory (os error 2)"
  | .notDirectory => "Not a directory (os error 20)"
  | .isDirectory => "Is a directory (os error 21)"
  | .nameTooLong => "File name too long (os error 36)"
  | .permissionDenied => "Permission denied (os error 13)"
  | .nulInPath => "file name contained an unexpected NUL byte"
  | .notText => "stream did not contain valid UTF-8"
  | .other text => text

/-- How files are read: the content of the file at a path. -/
abbrev Reader := String → Except Error ByteArray

def readText (reader : Reader) (path : String) : Except Error String := do
  match String.fromUTF8? (← reader path) with
  | some text => .ok text
  | none => .error .notText

end ScriptStack.Files
