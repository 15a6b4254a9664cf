import DetachedTasks.Path

/-!
# File system calls

Everything that touches a control directory goes through twelve self-contained calls: no
call leaves a handle open for the next one.  A call names its answer type, and the faults it
may answer with are causes whose wording is fixed here in one place.
-/

namespace DetachedTasks

/-- Why an operating system refuses a request. -/
inductive SystemFault where
  | noEntry
  | permissionDenied
  | busy
  | alreadyExists
  | notDirectory
  | isDirectory
  | invalidArgument
  | noSpace
  | brokenPipe
  | nameTooLong
  | notEmpty
  /-- A path holds a zero byte. -/
  | zeroByteInPath
  /-- An argument or variable of a process holds a zero byte. -/
  | zeroByteInArgument
  /-- Content that was to be read as text is not UTF-8. -/
  | notUtf8
  /-- An empty path has no absolute form. -/
  | emptyPath
  /-- A stand-in for an operating system finds no such program. -/
  | noSuchProgram
  deriving Repr, DecidableEq

/-- The wording of a system fault. -/
def SystemFault.message : SystemFault → Text
  | .noEntry => "No such file or directory (os error 2)".toList
  | .permissionDenied => "Permission denied (os error 13)".toList
  | .busy => "Device or resource busy (os error 16)".toList
  | .alreadyExists => "File exists (os error 17)".toList
  | .notDirectory => "Not a directory (os error 20)".toList
  | .isDirectory => "Is a directory (os error 21)".toList
  | .invalidArgument => "Invalid argument (os error 22)".toList
  | .noSpace => "No space left on device (os error 28)".toList
  | .brokenPipe => "Broken pipe (os error 32)".toList
  | .nameTooLong => "File name too long (os error 36)".toList
  | .notEmpty => "Directory not empty (os error 39)".toList
  | .zeroByteInPath => "file name contained an unexpected NUL byte".toList
  | .zeroByteInArgument => "nul byte found in provided data".toList
  | .notUtf8 => "stream did not contain valid UTF-8".toList
  | .emptyPath => "cannot make an empty path absolute".toList
  | .noSuchProgram => "no such file or directory".toList

/-- What was being done when the operating system refused. -/
inductive Activity where
  | reading
  | opening
  | seeking (offset : UInt64)
  | creatingFile
  | creatingDirectory
  | removingDirectory
  | removingFile
  | makingAbsolute
  deriving Repr, DecidableEq

/-- An activity on a path, as messages name it. -/
def Activity.message
    (activity : Activity)
    (path : Path) : Text :=
  match activity with
  | .reading => "reading file ".toList ++ path.quoted
  | .opening => "opening file ".toList ++ path.quoted
  | .seeking offset =>
      "seeking to ".toList ++ Text.natural offset.toNat ++ " in ".toList ++ path.quoted
  | .creatingFile => "creating file ".toList ++ path.quoted
  | .creatingDirectory => "creating dir ".toList ++ path.quoted
  | .removingDirectory => "removing dir ".toList ++ path.quoted
  | .removingFile => "removing file ".toList ++ path.quoted
  | .makingAbsolute => "making ".toList ++ path.quoted ++ " absolute".toList

/-- Why a file system call fails, or a write to standard output. -/
inductive FileFault where
  /-- There is no file at the path. -/
  | fileNotFound (path : Path)
  /-- There is no directory at the path. -/
  | directoryNotFound (path : Path)
  /-- The directory that was to hold the new entry is not there. -/
  | parentNotFound (parent : Path)
  /-- There is a directory where a file is needed. -/
  | isDirectory (path : Path)
  /-- There is a file where a directory is needed. -/
  | notDirectory (path : Path)
  /-- There is a file where a directory was to be made. -/
  | fileExists (path : Path)
  /-- The content that was to be read as text is not UTF-8. -/
  | invalidText (fault : Utf8.Fault)
  /-- A write that was made to fail. -/
  | refusedWrite
  /-- The operating system refused. -/
  | system (activity : Activity) (path : Path) (cause : SystemFault)
  /-- Standard output takes no more. -/
  | standardOutput (cause : SystemFault)
  deriving Repr, DecidableEq

/-- The wording of a fault, outermost part first and its cause behind it. -/
def FileFault.messages : FileFault → List Text
  | .fileNotFound path => ["File not found: ".toList ++ path.quoted]
  | .directoryNotFound path => ["Directory not found: ".toList ++ path.quoted]
  | .parentNotFound parent => ["Parent directory not found: ".toList ++ parent.quoted]
  | .isDirectory path => ["Is a directory: ".toList ++ path.quoted]
  | .notDirectory path => ["Not a directory: ".toList ++ path.quoted]
  | .fileExists path => ["File exists: ".toList ++ path.quoted]
  | .invalidText fault => ["Invalid UTF-8: ".toList ++ fault.message]
  | .refusedWrite => ["injected write failure".toList]
  | .system activity path cause => [activity.message path, cause.message]
  | .standardOutput cause => [cause.message]

/-- One self-contained call on a file system. -/
inductive FileCall where
  /-- The whole content of a file, as text. -/
  | readText (path : Path)
  /-- The whole content of a file. -/
  | read (path : Path)
  /-- The content of a file from an offset on; empty at or past the end. -/
  | readFrom (path : Path) (offset : UInt64)
  /-- Make a file or replace its content; the parent directory must be there. -/
  | write (path : Path) (content : Bytes)
  /-- Make a directory and all that lie above it. -/
  | createDirectories (path : Path)
  /-- Make exactly this directory; the answer is false if the name is taken. -/
  | createDirectory (path : Path)
  /-- Remove a directory with all that lies below it. -/
  | removeTree (path : Path)
  /-- Remove a file. -/
  | removeFile (path : Path)
  | exists (path : Path)
  | isFile (path : Path)
  | isDirectory (path : Path)
  /-- An absolute form of a path, without looking anything up. -/
  | absolute (path : Path)
  deriving Repr, DecidableEq

/-- The answer to a call. -/
@[reducible]
def FileCall.Answer : FileCall → Type
  | .readText _ => Except FileFault Text
  | .read _ => Except FileFault Bytes
  | .readFrom _ _ => Except FileFault Bytes
  | .write _ _ => Except FileFault Unit
  | .createDirectories _ => Except FileFault Unit
  | .createDirectory _ => Except FileFault Bool
  | .removeTree _ => Except FileFault Unit
  | .removeFile _ => Except FileFault Unit
  | .exists _ => Bool
  | .isFile _ => Bool
  | .isDirectory _ => Bool
  | .absolute _ => Except FileFault Path

end DetachedTasks
