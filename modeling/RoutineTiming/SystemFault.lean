/-!
# Why the system refuses

The reasons for which the system does not do what a process asks of it, such as to read a file or to
start a program. Most of them have a number beside their wording.

## Main definitions

* `SystemFault` : the reasons.
* `SystemFault.reason`, `SystemFault.message` : the wording without and with the number.
-/

namespace RoutineTiming

/-- Why the system refused. -/
inductive SystemFault where
  | noSuchFile
  /-- The arguments and variables of a program are longer than the system allows. -/
  | argumentsTooLong
  | badDescriptor
  | permissionDenied
  | fileExists
  | notADirectory
  | isADirectory
  /-- The file would be larger than the process may make it. -/
  | fileTooLarge
  | noSpace
  /-- Nobody reads from the pipe any more. -/
  | brokenPipe
  /-- A path or a part of it is longer than the system allows. -/
  | nameTooLong
  | directoryNotEmpty
  /-- Too many scripts are the interpreters of one another. -/
  | tooManyLinks
  /-- The file is neither a program nor a script that names its interpreter. -/
  | notExecutable
  /-- The file is not a UTF-8 text. -/
  | invalidText
  /-- The path of a file holds a NUL. -/
  | nulInPath
  /-- The name, an argument or a variable of a program holds a NUL. -/
  | nulInArgument
  /-- Any other reason, in words. -/
  | described (text : String)
  deriving DecidableEq, Repr

namespace SystemFault

/-- The wording of the fault without its number. -/
def reason : SystemFault → String
  | .noSuchFile => "No such file or directory"
  | .argumentsTooLong => "Argument list too long"
  | .badDescriptor => "Bad file descriptor"
  | .permissionDenied => "Permission denied"
  | .fileExists => "File exists"
  | .notADirectory => "Not a directory"
  | .isADirectory => "Is a directory"
  | .fileTooLarge => "File too large"
  | .noSpace => "No space left on device"
  | .brokenPipe => "Broken pipe"
  | .nameTooLong => "File name too long"
  | .directoryNotEmpty => "Directory not empty"
  | .tooManyLinks => "Too many levels of symbolic links"
  | .notExecutable => "Exec format error"
  | .invalidText => "stream did not contain valid UTF-8"
  | .nulInPath => "file name contained an unexpected NUL byte"
  | .nulInArgument => "nul byte found in provided data"
  | .described text => text

/-- The wording of the fault. -/
def message (fault : SystemFault) : String :=
  match fault with
  | .noSuchFile => fault.reason ++ " (os error 2)"
  | .argumentsTooLong => fault.reason ++ " (os error 7)"
  | .notExecutable => fault.reason ++ " (os error 8)"
  | .badDescriptor => fault.reason ++ " (os error 9)"
  | .permissionDenied => fault.reason ++ " (os error 13)"
  | .fileExists => fault.reason ++ " (os error 17)"
  | .notADirectory => fault.reason ++ " (os error 20)"
  | .isADirectory => fault.reason ++ " (os error 21)"
  | .fileTooLarge => fault.reason ++ " (os error 27)"
  | .noSpace => fault.reason ++ " (os error 28)"
  | .brokenPipe => fault.reason ++ " (os error 32)"
  | .nameTooLong => fault.reason ++ " (os error 36)"
  | .directoryNotEmpty => fault.reason ++ " (os error 39)"
  | .tooManyLinks => fault.reason ++ " (os error 40)"
  | _ => fault.reason

end SystemFault

end RoutineTiming
