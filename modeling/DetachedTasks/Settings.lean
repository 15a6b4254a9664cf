import DetachedTasks.Fault
import DetachedTasks.Platform
import DetachedTasks.Toml.Reader

/-!
# Settings

Settings come from a file in TOML.  All of them have defaults, so every key, every section
and the file itself may be left out; a key that is not known is refused.
-/

namespace DetachedTasks

/-- How a task is polled. -/
structure PollOptions where
  /-- The time between two polls. -/
  interval : Duration
  /-- Give up after this long without new log and without a result. -/
  staleAfter : Option Duration
  /-- Poll as well when the control directory changes. -/
  fileEvents : Bool
  deriving Repr, DecidableEq

/-- The options of a poller that nobody configured. -/
def PollOptions.default : PollOptions :=
  { interval := Duration.ofSeconds 1
    staleAfter := none
    fileEvents := false }

/-- The settings for launching tasks. -/
structure LaunchSettings where
  /-- The platform of the machine that runs the scripts, if it is not the host's. -/
  platform : Option Platform
  /-- What a followed task prints is relayed to the live log. -/
  relayOutput : Bool
  deriving Repr, DecidableEq

/-- The settings for polling tasks. -/
structure PollSettings where
  intervalMilliseconds : UInt64
  /-- Zero stands for never. -/
  staleAfterSeconds : UInt64
  fileEvents : Bool
  deriving Repr, DecidableEq

/-- The settings as they stand in a file. -/
structure Settings where
  launch : LaunchSettings
  poll : PollSettings
  deriving Repr, DecidableEq

/-! ### Default values

A key that is left out of a section has the default value of its field, and a section that is
left out has the default values of the section.  These are written down apart from each other,
and agree.
-/

/-- The value of a switch that is left out. -/
def defaultSwitch : Bool := true

/-- The milliseconds between two polls if they are left out. -/
def defaultInterval : UInt64 := 1000

namespace LaunchSettings

/-- The launch settings before the keys of their section are read. -/
def unread : LaunchSettings :=
  { platform := none
    relayOutput := defaultSwitch }

/-- The launch settings of a file without their section. -/
def default : LaunchSettings :=
  { platform := none
    relayOutput := true }

/-- A section without keys says what no section says. -/
theorem unread_eq_default : unread = default := rfl

end LaunchSettings

namespace PollSettings

/-- The poll settings before the keys of their section are read. -/
def unread : PollSettings :=
  { intervalMilliseconds := defaultInterval
    staleAfterSeconds := 0
    fileEvents := defaultSwitch }

/-- The poll settings of a file without their section. -/
def default : PollSettings :=
  { intervalMilliseconds := defaultInterval
    staleAfterSeconds := 0
    fileEvents := true }

/-- A section without keys says what no section says. -/
theorem unread_eq_default : unread = default := rfl

end PollSettings

namespace Settings

/-- The settings that hold where nothing else is said. -/
def default : Settings :=
  { launch := LaunchSettings.default
    poll := PollSettings.default }

/-- The file that settings are read from if no other is named. -/
def fileName : Text := "Durabletask.toml".toList

/-- The platform of the machine that runs the scripts. -/
def platform (settings : Settings) : Platform :=
  settings.launch.platform.getD Platform.host

/-- How a task is polled under these settings. -/
def pollOptions (settings : Settings) : PollOptions :=
  { interval := Duration.ofMilliseconds settings.poll.intervalMilliseconds.toNat
    staleAfter :=
      if settings.poll.staleAfterSeconds = 0 then
        none
      else
        some (Duration.ofSeconds settings.poll.staleAfterSeconds.toNat)
    fileEvents := settings.poll.fileEvents }

/-- A thousand times a number, or the greatest number of 64 bits if that is too much. -/
def thousandfold (number : UInt64) : Nat :=
  min (number.toNat * 1000) 18446744073709551615

/-- Refuse an interval that would hammer the file system, and a patience shorter than one
interval. -/
def check (settings : Settings) : Except SettingsFault Settings :=
  let poll := settings.poll
  if poll.intervalMilliseconds < shortestInterval then
    .error (.intervalTooShort poll.intervalMilliseconds)
  else if poll.staleAfterSeconds ≠ 0
      ∧ thousandfold poll.staleAfterSeconds < poll.intervalMilliseconds.toNat then
    .error (.staleBeforePoll poll.staleAfterSeconds poll.intervalMilliseconds)
  else
    .ok settings

/-- The names of platforms in a settings file. -/
def platformNames : List (Text × Platform) :=
  [(Platform.posix.name, .posix), (Platform.windows.name, .windows)]

/-- The fields of the launch settings. -/
def launchFields : List Text :=
  ["platform".toList, "mirror_output".toList]

/-- The fields of the poll settings. -/
def pollFields : List Text :=
  ["interval_ms".toList, "stale_after_secs".toList, "fs_events".toList]

/-- The sections of a settings file. -/
def sections : List Text :=
  ["launch".toList, "poll".toList]

/-- Read one field of the launch settings. -/
def readLaunchField
    (launch : LaunchSettings)
    (name : Text)
    (value : Toml.Value) : Except Toml.Misfit LaunchSettings :=
  if name = "platform".toList then do
    let platform ← value.readVariant platformNames
    pure { launch with platform := some platform }
  else if name = "mirror_output".toList then do
    let relayOutput ← value.readBoolean
    pure { launch with relayOutput }
  else
    .error (.unknownField name launchFields)

/-- Read one field of the poll settings. -/
def readPollField
    (poll : PollSettings)
    (name : Text)
    (value : Toml.Value) : Except Toml.Misfit PollSettings :=
  if name = "interval_ms".toList then do
    let intervalMilliseconds ← value.readWord
    pure { poll with intervalMilliseconds }
  else if name = "stale_after_secs".toList then do
    let staleAfterSeconds ← value.readWord
    pure { poll with staleAfterSeconds }
  else if name = "fs_events".toList then do
    let fileEvents ← value.readBoolean
    pure { poll with fileEvents }
  else
    .error (.unknownField name pollFields)

/-- Read one section. -/
def readSection
    (settings : Settings)
    (name : Text)
    (value : Toml.Value) : Except Toml.Misfit Settings :=
  if name = "launch".toList then do
    let launch ←
      value.readRecord "LaunchSection".toList launchFields LaunchSettings.unread
        readLaunchField
    pure { settings with launch }
  else if name = "poll".toList then do
    let poll ←
      value.readRecord "PollSection".toList pollFields PollSettings.unread readPollField
    pure { settings with poll }
  else
    .error (.unknownField name sections)

/-- The settings in a document. -/
def ofToml (text : Text) : Except Toml.Fault Settings :=
  match Toml.read? text with
  | none => .error .malformed
  | some table =>
      (table.readRecord "RawConfigFile".toList sections default readSection).mapError
        .misfit

/-- The settings in a file, as they stand there. -/
def loadRaw (file : Path) : TaskProgram Settings := do
  match ← TaskProgram.ask (.file (.readText file)) with
  | .error (.system _ _ cause) => throw (.unreadableSettings cause)
  | .error cause => throw (.files cause)
  | .ok text =>
      match ofToml text with
      | .error cause => throw (.document cause)
      | .ok settings => pure settings

/-- The settings in a file, checked. -/
def load (file : Path) : TaskProgram Settings := do
  let settings ← loadRaw file
  match settings.check with
  | .error cause => throw (.settings cause)
  | .ok checked => pure checked

/-- The settings in a file, checked, or the defaults if there is no such file. -/
def loadOrDefault (file : Path) : TaskProgram Settings := do
  if ← TaskProgram.exists? file then
    load file
  else
    TaskProgram.note .debug
    pure default

end Settings

end DetachedTasks
