import LineCoverage.Bytes

/-! # Failures of file operations -/

namespace LineCoverage

/-- Why a path cannot be used: what an operating system says, or that a walk came back to where it had been and would
go on for ever. -/
inductive SystemCause where
  | noEntry
  | notDirectory
  | isDirectory
  | exists
  | tooManyLinks
  | notPermitted
  | notExecutable
  | nameTooLong
  | invalid
  | endless
  deriving DecidableEq, Repr

def SystemCause.message : SystemCause → String
  | .noEntry => "no such file or directory"
  | .notDirectory => "not a directory"
  | .isDirectory => "is a directory"
  | .exists => "file exists"
  | .tooManyLinks => "too many levels of symbolic links"
  | .notPermitted => "permission denied"
  | .notExecutable => "exec format error"
  | .nameTooLong => "file name too long"
  | .invalid => "invalid argument"
  | .endless => "walk does not end"

inductive FileError where
  | fault (text : Bytes)
  | refused
  | absent (path : Bytes)
  | system (action : String) (path : Bytes) (cause : SystemCause)
  deriving DecidableEq, Repr

namespace FileError

def message : FileError → Bytes
  | .fault text => text
  | .refused => utf8 "operation not permitted"
  | .absent path => utf8 "open " ++ path ++ utf8 ": file does not exist"
  | .system action path cause => utf8 action ++ utf8 " " ++ path ++ utf8 ": " ++ utf8 cause.message

def isAbsence : FileError → Bool
  | .absent _ => true
  | .system _ _ cause => cause = .noEntry
  | _ => false

end FileError

end LineCoverage
