import DetachedTasks.Proofs.RecordReading
import DetachedTasks.Settings
import Mathlib.Logic.Relation

/-!
# Settings that are left out

A document need not name every setting.  Leaving out a key that has its default value, or a
section in which no key is left, does not change what is read: neither the settings nor the
misfit that is reported.  What is compared is a view of the settings, because a platform that
is left out and the platform of the host that is written out have the same effect.

The values that a section without keys starts with and the values of a section that is left
out stand in different places; that they agree decides the case of a whole section.
-/

namespace DetachedTasks

open Toml.Value (Respects IsNeutral Shortens)

/-! ### Launch settings -/

namespace LaunchSettings

/-- The effect of launch settings: the platform, be it written or the host's, and whether the
output is relayed. -/
def view (launch : LaunchSettings) : Platform × Bool :=
  (launch.platform.getD Platform.host, launch.relayOutput)

/-- The keys of the section with their default values, as they are written. -/
def written : List (Text × Toml.Value) :=
  [("platform".toList, .string Platform.host.name), ("mirror_output".toList, .boolean true)]

theorem respects_readLaunchField : Respects view Settings.readLaunchField := by
  intro first second name value same
  obtain ⟨platforms, relays⟩ := Prod.mk.inj same
  rw [Settings.readLaunchField, Settings.readLaunchField]
  by_cases isPlatform : name = "platform".toList
  · rw [if_pos isPlatform, if_pos isPlatform]
    cases value.readVariant Settings.platformNames with
    | error cause => rfl
    | ok platform => exact congrArg (fun relay => Except.ok (platform, relay)) relays
  · rw [if_neg isPlatform, if_neg isPlatform]
    by_cases isRelay : name = "mirror_output".toList
    · rw [if_pos isRelay, if_pos isRelay]
      cases value.readBoolean with
      | error cause => rfl
      | ok relay => exact congrArg (fun platform => Except.ok (platform, relay)) platforms
    · rw [if_neg isRelay, if_neg isRelay]

/-- Reading a field leaves the other one alone. -/
theorem readLaunchField_frame
    {launch next : LaunchSettings}
    {name : Text}
    {value : Toml.Value}
    (read : Settings.readLaunchField launch name value = .ok next) :
    (name ≠ "platform".toList → next.platform = launch.platform) ∧
      (name ≠ "mirror_output".toList → next.relayOutput = launch.relayOutput) := by
  rw [Settings.readLaunchField] at read
  split_ifs at read with isPlatform isRelay
  · obtain ⟨platform, rfl⟩ := exists_of_bind_ok read
    exact ⟨fun other => absurd isPlatform other, fun _ => rfl⟩
  · obtain ⟨relay, rfl⟩ := exists_of_bind_ok read
    exact ⟨fun _ => rfl, fun other => absurd isRelay other⟩

/-- Every default value of the section is neutral. -/
theorem isNeutral_of_mem_written
    {entry : Text × Toml.Value}
    (member : entry ∈ written) :
    ∃ untouched, IsNeutral view Settings.readLaunchField entry.1 entry.2 untouched ∧
      untouched LaunchSettings.unread := by
  simp only [written, List.mem_cons, List.not_mem_nil, or_false] at member
  rcases member with rfl | rfl
  · refine ⟨fun launch => launch.platform = none, ⟨?_, ?_⟩, rfl⟩
    · rintro ⟨platform, relay⟩ rfl
      rfl
    · intro launch next name value isUntouched other read
      exact ((readLaunchField_frame read).1 other).trans isUntouched
  · refine ⟨fun launch => launch.relayOutput = true, ⟨?_, ?_⟩, rfl⟩
    · rintro ⟨platform, relay⟩ rfl
      rfl
    · intro launch next name value isUntouched other read
      exact ((readLaunchField_frame read).2 other).trans isUntouched

end LaunchSettings

/-! ### Poll settings -/

namespace PollSettings

/-- The keys of the section with their default values, as they are written. -/
def written : List (Text × Toml.Value) :=
  [("interval_ms".toList, .integer 1000), ("stale_after_secs".toList, .integer 0),
   ("fs_events".toList, .boolean true)]

theorem respects_readPollField : Respects id Settings.readPollField := by
  rintro first second name value rfl
  rfl

/-- Reading a field leaves the others alone. -/
theorem readPollField_frame
    {poll next : PollSettings}
    {name : Text}
    {value : Toml.Value}
    (read : Settings.readPollField poll name value = .ok next) :
    (name ≠ "interval_ms".toList →
        next.intervalMilliseconds = poll.intervalMilliseconds) ∧
      (name ≠ "stale_after_secs".toList →
        next.staleAfterSeconds = poll.staleAfterSeconds) ∧
      (name ≠ "fs_events".toList → next.fileEvents = poll.fileEvents) := by
  rw [Settings.readPollField] at read
  split_ifs at read with isInterval isStale isEvents
  · obtain ⟨interval, rfl⟩ := exists_of_bind_ok read
    exact ⟨fun other => absurd isInterval other, fun _ => rfl, fun _ => rfl⟩
  · obtain ⟨stale, rfl⟩ := exists_of_bind_ok read
    exact ⟨fun _ => rfl, fun other => absurd isStale other, fun _ => rfl⟩
  · obtain ⟨events, rfl⟩ := exists_of_bind_ok read
    exact ⟨fun _ => rfl, fun _ => rfl, fun other => absurd isEvents other⟩

/-- Every default value of the section is neutral. -/
theorem isNeutral_of_mem_written
    {entry : Text × Toml.Value}
    (member : entry ∈ written) :
    ∃ untouched, IsNeutral id Settings.readPollField entry.1 entry.2 untouched ∧
      untouched PollSettings.unread := by
  simp only [written, List.mem_cons, List.not_mem_nil, or_false] at member
  rcases member with rfl | rfl | rfl
  · refine ⟨fun poll => poll.intervalMilliseconds = 1000, ⟨?_, ?_⟩, rfl⟩
    · rintro ⟨interval, stale, events⟩ rfl
      rfl
    · intro poll next name value isUntouched other read
      exact ((readPollField_frame read).1 other).trans isUntouched
  · refine ⟨fun poll => poll.staleAfterSeconds = 0, ⟨?_, ?_⟩, rfl⟩
    · rintro ⟨interval, stale, events⟩ rfl
      rfl
    · intro poll next name value isUntouched other read
      exact ((readPollField_frame read).2.1 other).trans isUntouched
  · refine ⟨fun poll => poll.fileEvents = true, ⟨?_, ?_⟩, rfl⟩
    · rintro ⟨interval, stale, events⟩ rfl
      rfl
    · intro poll next name value isUntouched other read
      exact ((readPollField_frame read).2.2 other).trans isUntouched

end PollSettings

/-! ### Documents -/

namespace Settings

/-- The sections of a settings file, with the keys in them and their default values. -/
def written : List (Text × List (Text × Toml.Value)) :=
  [("launch".toList, LaunchSettings.written), ("poll".toList, PollSettings.written)]

/-- A document has one thing less in it: a section is written with one value less, or a section
in which nothing is left is left out itself. -/
inductive Omits : List (Text × Toml.Value) → List (Text × Toml.Value) → Prop where
  | inSection
      {name : Text}
      {defaults : List (Text × Toml.Value)}
      {value shorter : Toml.Value}
      {front back : List (Text × Toml.Value)}
      (isSection : (name, defaults) ∈ written)
      (shortens : Shortens defaults value shorter) :
      Omits (front ++ (name, value) :: back) (front ++ (name, shorter) :: back)
  | wholeSection
      {name : Text}
      {defaults : List (Text × Toml.Value)}
      {value : Toml.Value}
      {front back : List (Text × Toml.Value)}
      (isSection : (name, defaults) ∈ written)
      (isEmpty : value = .table [] ∨ value = .array []) :
      Omits (front ++ (name, value) :: back) (front ++ back)

/-- The effect of settings. -/
def view (settings : Settings) : (Platform × Bool) × PollSettings :=
  (settings.launch.view, settings.poll)

theorem map_view_readSection_launch
    (settings : Settings)
    (value : Toml.Value) :
    (readSection settings "launch".toList value).map view =
      ((value.readRecord "LaunchSection".toList launchFields LaunchSettings.unread
        readLaunchField).map LaunchSettings.view).map fun launch => (launch, settings.poll) := by
  rw [readSection, if_pos rfl]
  cases value.readRecord "LaunchSection".toList launchFields LaunchSettings.unread
      readLaunchField <;> rfl

theorem map_view_readSection_poll
    (settings : Settings)
    (value : Toml.Value) :
    (readSection settings "poll".toList value).map view =
      ((value.readRecord "PollSection".toList pollFields PollSettings.unread
        readPollField).map id).map fun poll => (settings.launch.view, poll) := by
  rw [readSection, if_neg (by decide), if_pos rfl]
  cases value.readRecord "PollSection".toList pollFields PollSettings.unread
      readPollField <;> rfl

theorem respects_readSection : Respects view readSection := by
  intro first second name value same
  obtain ⟨launches, polls⟩ := Prod.mk.inj same
  by_cases isLaunch : name = "launch".toList
  · rw [isLaunch, map_view_readSection_launch, map_view_readSection_launch, polls]
  by_cases isPoll : name = "poll".toList
  · rw [isPoll, map_view_readSection_poll, map_view_readSection_poll, launches]
  · rw [readSection, readSection, if_neg isLaunch, if_neg isPoll, if_neg isLaunch,
      if_neg isPoll]

/-- Reading a section leaves the other one alone. -/
theorem readSection_frame
    {settings next : Settings}
    {name : Text}
    {value : Toml.Value}
    (read : readSection settings name value = .ok next) :
    (name ≠ "launch".toList → next.launch = settings.launch) ∧
      (name ≠ "poll".toList → next.poll = settings.poll) := by
  rw [readSection] at read
  split_ifs at read with isLaunch isPoll
  · obtain ⟨launch, rfl⟩ := exists_of_bind_ok read
    exact ⟨fun other => absurd isLaunch other, fun _ => rfl⟩
  · obtain ⟨poll, rfl⟩ := exists_of_bind_ok read
    exact ⟨fun _ => rfl, fun other => absurd isPoll other⟩

/-- A section that is written with one value less is read alike. -/
theorem readSection_of_shortens
    {name : Text}
    {defaults : List (Text × Toml.Value)}
    (isSection : (name, defaults) ∈ written)
    {value shorter : Toml.Value}
    (shortens : Shortens defaults value shorter)
    (distinct : value.IsDistinct)
    (settings : Settings) :
    (readSection settings name value).map view =
      (readSection settings name shorter).map view := by
  simp only [written, List.mem_cons, List.not_mem_nil, or_false, Prod.mk.injEq] at isSection
  rcases isSection with ⟨rfl, rfl⟩ | ⟨rfl, rfl⟩
  · rw [map_view_readSection_launch, map_view_readSection_launch]
    exact congrArg (Except.map _)
      (shortens.readRecord LaunchSettings.respects_readLaunchField
        (fun _ => LaunchSettings.isNeutral_of_mem_written) (by decide) distinct)
  · rw [map_view_readSection_poll, map_view_readSection_poll]
    exact congrArg (Except.map _)
      (shortens.readRecord PollSettings.respects_readPollField
        (fun _ => PollSettings.isNeutral_of_mem_written) (by decide) distinct)

/-- A section in which nothing is left is neutral. -/
theorem isNeutral_of_isEmpty
    {name : Text}
    {defaults : List (Text × Toml.Value)}
    (isSection : (name, defaults) ∈ written)
    {value : Toml.Value}
    (isEmpty : value = .table [] ∨ value = .array []) :
    ∃ untouched, IsNeutral view readSection name value untouched ∧
      untouched Settings.default := by
  simp only [written, List.mem_cons, List.not_mem_nil, or_false, Prod.mk.injEq] at isSection
  rcases isSection with ⟨rfl, -⟩ | ⟨rfl, -⟩
  · refine ⟨fun settings => settings.launch = LaunchSettings.default, ⟨?_, ?_⟩, rfl⟩
    · rintro ⟨launch, poll⟩ rfl
      rw [map_view_readSection_launch, Toml.Value.readRecord_of_isEmpty isEmpty,
        LaunchSettings.unread_eq_default]
      rfl
    · intro settings next name value isUntouched other read
      exact ((readSection_frame read).1 other).trans isUntouched
  · refine ⟨fun settings => settings.poll = PollSettings.default, ⟨?_, ?_⟩, rfl⟩
    · rintro ⟨launch, poll⟩ rfl
      rw [map_view_readSection_poll, Toml.Value.readRecord_of_isEmpty isEmpty,
        PollSettings.unread_eq_default]
      rfl
    · intro settings next name value isUntouched other read
      exact ((readSection_frame read).2 other).trans isUntouched

variable {pairs others : List (Text × Toml.Value)}

theorem Omits.isDistinct
    (omits : Omits pairs others)
    (distinct : (Toml.Value.table pairs).IsDistinct) :
    (Toml.Value.table others).IsDistinct := by
  cases omits with
  | @inSection name defaults value shorter front back isSection shortens =>
      obtain ⟨-, each⟩ := Toml.Value.isDistinct_table.mp distinct
      have inside : value.IsDistinct :=
        each (name, value) (List.mem_append_right _ List.mem_cons_self)
      exact distinct.replace (shortens.isDistinct inside)
  | wholeSection _ _ => exact distinct.omit

/-- The settings in a table of a document. -/
def ofPairs (pairs : List (Text × Toml.Value)) : Except Toml.Misfit Settings :=
  (Toml.Value.table pairs).readRecord "RawConfigFile".toList sections default readSection

/-- With one thing less in it a document is read alike. -/
theorem Omits.ofPairs
    (omits : Omits pairs others)
    (distinct : (Toml.Value.table pairs).IsDistinct) :
    (ofPairs pairs).map view = (ofPairs others).map view := by
  cases omits with
  | @inSection name defaults value shorter front back isSection shortens =>
      refine Toml.Value.readRecord_replace respects_readSection ?_ front back
      have inside : value.IsDistinct :=
        (Toml.Value.isDistinct_table.mp distinct).2 (name, value)
          (List.mem_append_right _ List.mem_cons_self)
      exact readSection_of_shortens isSection shortens inside
  | wholeSection isSection isEmpty =>
      obtain ⟨untouched, isNeutral, isUntouched⟩ := isNeutral_of_isEmpty isSection isEmpty
      exact Toml.Value.readRecord_omit respects_readSection isNeutral isUntouched distinct.once

/-- With any number of things less in it a document is read alike. -/
theorem map_view_ofPairs_of_omits
    (omits : Relation.ReflTransGen Omits pairs others)
    (distinct : (Toml.Value.table pairs).IsDistinct) :
    (ofPairs pairs).map view = (ofPairs others).map view := by
  induction omits using Relation.ReflTransGen.head_induction_on with
  | refl => rfl
  | head first _ inductionHypothesis =>
      exact (first.ofPairs distinct).trans (inductionHypothesis (first.isDistinct distinct))

end Settings

end DetachedTasks
