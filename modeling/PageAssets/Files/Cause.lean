/-! Why an operation on files fails, with the wording that the operating system gives to it. -/

namespace PageAssets.Files

inductive Cause where
  | notFound
  | alreadyExists
  | notADirectory
  | isADirectory
  | busy
  | invalidArgument
  | nameTooLong
  | tooManyLinks
  /-- A path with a NUL character names nothing. -/
  | nulInPath
  /-- The bytes of a file are not UTF-8. -/
  | notText
  | stated (text : String)
  deriving DecidableEq, Repr

def Cause.message : Cause → String
  | notFound => "No such file or directory (os error 2)"
  | alreadyExists => "File exists (os error 17)"
  | notADirectory => "Not a directory (os error 20)"
  | isADirectory => "Is a directory (os error 21)"
  | busy => "Device or resource busy (os error 16)"
  | invalidArgument => "Invalid argument (os error 22)"
  | nameTooLong => "File name too long (os error 36)"
  | tooManyLinks => "Too many levels of symbolic links (os error 40)"
  | nulInPath => "file name contained an unexpected NUL byte"
  | notText => "stream did not contain valid UTF-8"
  | stated text => text

end PageAssets.Files
