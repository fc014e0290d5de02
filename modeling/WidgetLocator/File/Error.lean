/-! Why a file cannot be read. -/

namespace WidgetLocator

inductive FileError where
  | notFound
  /-- The path leads on from something that is no directory. -/
  | notADirectory
  | isADirectory
  | nameTooLong
  /-- The bytes of the file are no UTF-8. -/
  | notText
  | other (reason : String)
deriving DecidableEq, Repr

namespace FileError

def reason : FileError → String
  | notFound => "No such file or directory (os error 2)"
  | notADirectory => "Not a directory (os error 20)"
  | isADirectory => "Is a directory (os error 21)"
  | nameTooLong => "File name too long (os error 36)"
  | notText => "stream did not contain valid UTF-8"
  | other reason => reason

def message (e : FileError) : String := s!"IO error: {e.reason}"

end FileError

abbrev Files := String → Except FileError String

end WidgetLocator
