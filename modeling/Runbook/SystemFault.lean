import Runbook.Text

/-! What a file system or the start of a program can refuse, each with the wording that
the system has for it. -/
namespace Runbook

inductive SystemFault
  /-- A place, or a program, that is not there. -/
  | missing
  | denied
  | busy
  | taken
  | notDirectory
  | isDirectory
  | nameTooLong
  | tooManyLinks
  /-- The character zero ends a name early. -/
  | zeroInName
  | zeroInArgument
  deriving DecidableEq, Repr

namespace SystemFault

def message : SystemFault → Text
  | .missing => "No such file or directory (os error 2)"
  | .denied => "Permission denied (os error 13)"
  | .busy => "Device or resource busy (os error 16)"
  | .taken => "File exists (os error 17)"
  | .notDirectory => "Not a directory (os error 20)"
  | .isDirectory => "Is a directory (os error 21)"
  | .nameTooLong => "File name too long (os error 36)"
  | .tooManyLinks => "Too many levels of symbolic links (os error 40)"
  | .zeroInName => "file name contained an unexpected NUL byte"
  | .zeroInArgument => "nul byte found in provided data"

end SystemFault
end Runbook
