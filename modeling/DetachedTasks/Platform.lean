import DetachedTasks.Text.LowerCase

/-!
# Platforms

The class of the machine that runs a script.  It decides which interpreter is started and
how script files are encoded, and it need not be the class of the machine that supervises
the script.
-/

namespace DetachedTasks

/-- A class of machines. -/
inductive Platform where
  | posix
  | windows
  deriving Repr, DecidableEq

namespace Platform

/-- The platform of the supervising machine. -/
def host : Platform := .posix

/-- The name of a platform. -/
def name : Platform → Text
  | .posix => "posix".toList
  | .windows => "windows".toList

/-- The names that are understood, in lower case. -/
def spellings : List (Text × Platform) :=
  [("posix".toList, .posix),
   ("unix".toList, .posix),
   ("linux".toList, .posix),
   ("macos".toList, .posix),
   ("windows".toList, .windows),
   ("win".toList, .windows)]

/-- A platform from a name in any case with blanks around it; a name that is not understood
comes back as it was compared. -/
def parse (text : Text) : Except Text Platform :=
  let spelling := Text.lowercase (Text.trim text)
  match spellings.find? (·.1 = spelling) with
  | some (_, platform) => .ok platform
  | none => .error spelling

/-- What is said of a name that is not understood. -/
def refusal (spelling : Text) : Text :=
  "invalid platform: ".toList ++ spelling
    ++ " (expected \"posix\" or \"windows\")".toList

/-- The name of a platform is understood as that platform. -/
theorem parse_name (platform : Platform) :
    parse platform.name = .ok platform := by
  cases platform <;> rfl

end Platform

end DetachedTasks
