/-!
Why a file could not be used, with the system's wording.
-/

namespace StreamWidth

inductive FileError
  | notPermitted
  | notFound
  | badStream
  | accessDenied
  | fileExists
  | notDirectory
  | isDirectory
  | invalid
  | nameTooLong
  | notEmpty
  | tooManyLinks
  | notProgram
  | noDevice
  | noSpace
  | argumentsTooLong
  | nulInPath
  | nulInArgument
  | notUtf8
  deriving DecidableEq

namespace FileError

def text : FileError → String
  | notPermitted => "Operation not permitted"
  | notFound => "No such file or directory"
  | badStream => "Bad file descriptor"
  | accessDenied => "Permission denied"
  | fileExists => "File exists"
  | notDirectory => "Not a directory"
  | isDirectory => "Is a directory"
  | invalid => "Invalid argument"
  | nameTooLong => "File name too long"
  | notEmpty => "Directory not empty"
  | tooManyLinks => "Too many levels of symbolic links"
  | notProgram => "Exec format error"
  | noDevice => "No such device or address"
  | noSpace => "No space left on device"
  | argumentsTooLong => "Argument list too long"
  | nulInPath => "file name contained an unexpected NUL byte"
  | nulInArgument => "nul byte found in provided data"
  | notUtf8 => "stream did not contain valid UTF-8"

def number? : FileError → Option Nat
  | notPermitted => some 1
  | notFound => some 2
  | noDevice => some 6
  | argumentsTooLong => some 7
  | notProgram => some 8
  | badStream => some 9
  | accessDenied => some 13
  | fileExists => some 17
  | notDirectory => some 20
  | isDirectory => some 21
  | invalid => some 22
  | noSpace => some 28
  | nameTooLong => some 36
  | notEmpty => some 39
  | tooManyLinks => some 40
  | nulInPath | nulInArgument | notUtf8 => none

def message (error : FileError) : String :=
  match error.number? with
  | some number => error.text ++ " (os error " ++ toString number ++ ")"
  | none => error.text

end FileError

end StreamWidth
