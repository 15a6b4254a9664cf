import DetachedTasks.LiveLog
import DetachedTasks.Sandbox.Shell.Process
import DetachedTasks.Text.Order

/-!
# Programs of the small shell

The few programs that scripts use.  Everything runs to its end at once; time does not pass.
-/

namespace DetachedTasks.Sandbox.Shell

/-- The octal value of digits. -/
def octal (digits : Text) : UInt8 :=
  (((Text.readDigits? 8 digits).getD 0) % 256).toUInt8

/-- An octal digit. -/
def isOctal (character : Char) : Bool :=
  (Text.digitValue? 8 character).isSome

/-- The bytes that an escape behind a backslash stands for, and what follows. -/
def escapeBytes (text : Text) : Bytes × Text :=
  match text with
  | 'n' :: rest => ([10], rest)
  | 't' :: rest => ([9], rest)
  | 'r' :: rest => ([13], rest)
  | 'a' :: rest => ([7], rest)
  | 'b' :: rest => ([8], rest)
  | 'f' :: rest => ([12], rest)
  | 'v' :: rest => ([11], rest)
  | '\\' :: rest => ([92], rest)
  | first :: rest =>
      if isOctal first then
        let digits := (text.take 3).takeWhile isOctal
        ([octal digits], text.drop digits.length)
      else
        (Utf8.encode ['\\', first], rest)
  | [] => ([92], [])

/-- Text with its escapes resolved. -/
def unescape
    (fuel : Nat)
    (text : Text) : Bytes :=
  match fuel with
  | 0 => []
  | fuel + 1 =>
      match text with
      | [] => []
      | '\\' :: rest =>
          let (bytes, rest) := escapeBytes rest
          bytes ++ unescape fuel rest
      | character :: rest => Utf8.encode [character] ++ unescape fuel rest

/-- One pass of a format over its arguments: the bytes, and the arguments that are left. -/
def formatOnce
    (fuel : Nat)
    (format : Text)
    (arguments : List Text) : Bytes × List Text :=
  match fuel with
  | 0 => ([], arguments)
  | fuel + 1 =>
      match format with
      | [] => ([], arguments)
      | '\\' :: rest =>
          let (bytes, rest) := escapeBytes rest
          let (more, left) := formatOnce fuel rest arguments
          (bytes ++ more, left)
      | '%' :: '%' :: rest =>
          let (more, left) := formatOnce fuel rest arguments
          (Utf8.encode ['%'] ++ more, left)
      | '%' :: directive :: rest =>
          let argument := arguments.head?.getD []
          let bytes :=
            if directive = 'b' then unescape (argument.length + 1) argument
            else if directive = 'c' then Utf8.encode (argument.take 1)
            else if directive = 'd' || directive = 'i' then
              Utf8.encode (if argument.isEmpty then ['0'] else argument)
            else Utf8.encode argument
          let (more, left) := formatOnce fuel rest (arguments.drop 1)
          (bytes ++ more, left)
      | character :: rest =>
          let (more, left) := formatOnce fuel rest arguments
          (Utf8.encode [character] ++ more, left)

/-- A format applied again and again until its arguments are used up. -/
def formatAll
    (fuel : Nat)
    (format : Text)
    (arguments : List Text) : Bytes :=
  match fuel with
  | 0 => []
  | fuel + 1 =>
      let (bytes, left) := formatOnce (format.length + 1) format arguments
      if left.isEmpty || left.length = arguments.length then bytes
      else bytes ++ formatAll fuel format left

/-- The integer that a text holds. -/
def integer (text : Text) : Int :=
  match text with
  | '-' :: digits => -((Text.readDigits? 10 digits).getD 0 : Int)
  | digits => (Text.readDigits? 10 digits).getD 0

/-- Whether a test with one operand holds. -/
def holdsOf
    (system : Posix)
    (flag text : Text) : Bool :=
  if flag = "-n".toList then !text.isEmpty
  else if flag = "-z".toList then text.isEmpty
  else if flag = "-f".toList then system.isFile (Path.ofText text)
  else if flag = "-d".toList then system.isDirectory (Path.ofText text)
  else if flag = "-e".toList then system.hasEntry (Path.ofText text)
  else if flag = "-s".toList then
    match system.contentAt (Path.ofText text) with
    | .ok content => !content.isEmpty
    | .error _ => false
  else false

/-- Whether a test holds. -/
def holds
    (system : Posix) : List Text → Bool
  | [] => false
  | [text] => !text.isEmpty
  | [['!'], text] => text.isEmpty
  | [flag, text] => holdsOf system flag text
  | [['!'], flag, text] => !holdsOf system flag text
  | [left, operator, right] =>
      if operator = "=".toList then left = right
      else if operator = "!=".toList then left ≠ right
      else if operator = "-eq".toList then integer left = integer right
      else if operator = "-ne".toList then integer left ≠ integer right
      else if operator = "-lt".toList then integer left < integer right
      else if operator = "-le".toList then integer left ≤ integer right
      else if operator = "-gt".toList then integer right < integer left
      else if operator = "-ge".toList then integer right ≤ integer left
      else false
  | _ => false

/-- The numbers from one to another, each in a line. -/
def numberLines
    (first last : Int) : Bytes :=
  (List.range (last - first + 1).toNat).flatMap fun (index : Nat) =>
    Utf8.encode (Text.integer (first + index) ++ ['\n'])

/-- The programs that are always there. -/
def programs : List Text :=
  ["sh".toList, "printf".toList, "echo".toList, "true".toList, "false".toList,
   "pwd".toList, "cat".toList, "sleep".toList, "seq".toList, "env".toList,
   "printenv".toList, "test".toList, "[".toList, "touch".toList, "mkdir".toList,
   "rm".toList, "head".toList, "tail".toList, "wc".toList, "tr".toList, "ls".toList]

/-- The content of a file; of an endless one, as much as is asked for. -/
def fileContent
    (process : Process)
    (wanted : Nat)
    (path : Path) : Bytes :=
  if path = Path.ofText "/dev/zero".toList then
    List.replicate wanted 0
  else
    (process.system.contentAt path).toOption.getD []

/-- Print files, or what is left to be read if there are none. -/
def concatenate
    (process : Process)
    (files : List Text) : Process :=
  if files.isEmpty then
    { process.print process.input with input := [] }
  else
    files.foldl
      (fun process file =>
        match process.system.contentAt (Path.ofText file) with
        | .ok content => process.print content
        | .error _ =>
            process.complain
              ("cat: ".toList ++ file ++ ": No such file or directory".toList))
      process

/-- Print words in a line; a shell resolves their escapes. -/
def printWords
    (process : Process)
    (resolving : Bool)
    (arguments : List Text) : Process :=
  let (words, ending) : List Text × Bytes :=
    match arguments with
    | flag :: rest => if flag = "-n".toList then (rest, []) else (arguments, [10])
    | [] => ([], [10])
  let line := Text.joinWith [' '] words
  let content := if resolving then unescape (line.length + 1) line else Utf8.encode line
  (process.withStatus 0).print (content ++ ending)

/-- Cut bytes behind every line feed. -/
def linesOf (content : Bytes) : List Bytes :=
  let found := LiveLog.cut [] content
  if found.2.isEmpty then found.1 else found.1 ++ [found.2.reverse]

/-- A count and the files, from arguments such as `-n 3 file`; ten if there is no count.  The
letter tells what is counted. -/
def countArguments : List Text → Char × Nat × List Text
  | ['-', letter] :: count :: files => (letter, (Text.readDigits? 10 count).getD 0, files)
  | ('-' :: text) :: files =>
      (if text.head? = some 'c' then 'c' else 'n',
        (Text.readDigits? 10 (text.dropWhile (!Char.isDigit ·))).getD 0, files)
  | files => ('n', 10, files)

/-- Print the first lines or bytes, or the last ones. -/
def printPart
    (process : Process)
    (last : Bool)
    (arguments : List Text) : Process :=
  let (letter, count, files) := countArguments arguments
  let content :=
    match files with
    | [] => process.input
    | file :: _ => fileContent process count (Path.ofText file)
  let part {α : Type} (items : List α) : List α :=
    if last then items.drop (items.length - count) else items.take count
  (process.withStatus 0).print
    (if letter = 'c' then part content else (part (linesOf content)).flatten)

/-- Count the lines, words or bytes that are left to be read. -/
def countInput
    (process : Process)
    (flag : Text) : Nat :=
  if flag = "-l".toList then process.input.count 10
  else if flag = "-w".toList then
    ((Text.splitOn ' ' ((Utf8.decodeLossy process.input).map fun c =>
      if Text.isBlank c then ' ' else c)).filter (!List.isEmpty ·)).length
  else process.input.length

/-- Replace bytes of one set by those of another; without another set they go. -/
def replaceBytes
    (found wanted : Bytes)
    (content : Bytes) : Bytes :=
  content.flatMap fun octet =>
    match found.idxOf? octet with
    | none => [octet]
    | some index => ((wanted[index]?).or wanted.getLast?).toList

/-- The names in a directory, in order. -/
def namesIn
    (system : Posix)
    (directory : Path) : List Text :=
  match system.resolve directory with
  | .error _ => []
  | .ok .removed => []
  | .ok (.named place) =>
      Text.sortedUnique <|
        (system.entries.entries.filterMap fun pair =>
          if pair.1.dropLast = place && pair.1 ≠ place then
            pair.1.getLast?.map Utf8.decodeLossy
          else
            none)

/-- Run a program of the sandbox, other than the shell itself. -/
def runProgram
    (process : Process)
    (name : Text)
    (arguments : List Text) : Process :=
  let done := process.withStatus 0
  if name = "printf".toList then
    match arguments with
    | [] => process.withStatus 2
    | format :: rest => done.print (formatAll (rest.length + 1) format rest)
  else if name = "echo".toList then printWords process false arguments
  else if name = "true".toList || name = "sleep".toList then done
  else if name = "false".toList then process.withStatus 1
  else if name = "pwd".toList then
    done.print (process.system.currentDirectory.bytes ++ [10])
  else if name = "cat".toList then concatenate done arguments
  else if name = "seq".toList then
    match arguments with
    | [last] => done.print (numberLines 1 (integer last))
    | [first, last] => done.print (numberLines (integer first) (integer last))
    | _ => process.withStatus 1
  else if name = "printenv".toList then
    match arguments with
    | [wanted] =>
        if process.bindings.any (·.1 = wanted) then
          done.print (Utf8.encode (process.get wanted ++ ['\n']))
        else
          process.withStatus 1
    | _ => done
  else if name = "env".toList then
    done.print
      (process.bindings.reverse.flatMap fun pair =>
        Utf8.encode (pair.1 ++ '=' :: pair.2 ++ ['\n']))
  else if name = "test".toList then
    process.withStatus (if holds process.system arguments then 0 else 1)
  else if name = "[".toList then
    process.withStatus (if holds process.system arguments.dropLast then 0 else 1)
  else if name = "touch".toList then
    arguments.foldl
      (fun process file =>
        match process.system.rewriteFile (Path.ofText file) id with
        | .ok system => { process with system }
        | .error _ => process.withStatus 1)
      done
  else if name = "mkdir".toList then
    (arguments.filter fun argument => argument.head? != some '-').foldl
      (fun process directory =>
        { process with
          system := (process.system.makeDirectories (Path.ofText directory)).2 })
      done
  else if name = "rm".toList then
    (arguments.filter fun argument => argument.head? != some '-').foldl
      (fun process file =>
        match process.system.removeFile (Path.ofText file) with
        | .ok system => { process with system }
        | .error _ =>
            { process with system := (process.system.removeTree (Path.ofText file)).2 })
      done
  else if name = "head".toList then printPart process false arguments
  else if name = "tail".toList then printPart process true arguments
  else if name = "wc".toList then
    done.print (Utf8.encode
      (Text.natural (countInput process (arguments.head?.getD [])) ++ ['\n']))
  else if name = "tr".toList then
    let set (text : Text) : Bytes := unescape (text.length + 1) text
    match arguments with
    | [first, second] =>
        if first = "-d".toList then
          done.print (replaceBytes (set second) [] process.input)
        else
          done.print (replaceBytes (set first) (set second) process.input)
    | _ => process.withStatus 1
  else if name = "ls".toList then
    let directory := Path.ofText
      (((arguments.filter fun argument => argument.head? != some '-').head?).getD ['.'])
    done.print
      ((namesIn process.system directory).flatMap fun name => Utf8.encode (name ++ ['\n']))
  else
    (process.complain ("sh: 1: ".toList ++ name ++ ": not found".toList)).withStatus 127

end DetachedTasks.Sandbox.Shell
