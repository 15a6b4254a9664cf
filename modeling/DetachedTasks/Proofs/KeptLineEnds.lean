import DetachedTasks.Proofs.Footprints
import DetachedTasks.Proofs.LaunchOutcome
import DetachedTasks.Proofs.ScriptReading
import DetachedTasks.Proofs.TextPaths
import Mathlib.Data.List.Nodup

/-!
# What encoding and line ends leave of a text

Behind its byte order mark a source file holds the bytes of its text and nothing else.  To
convert line ends is to fold them and to expand them again; folding takes back what expanding
did, so a second conversion changes nothing, and a text and its conversion fold to the same.
An expanded text is written piece by piece, and in no piece, neither in its characters nor in
its bytes, does a line feed stand without its carriage return.

The scripts of a task are written accordingly: only the one of the user keeps its line ends.
-/

namespace DetachedTasks

open Sandbox (Starter Storage World)

/-! ## Items that follow another one -/

namespace Text

/-- An item stands nowhere but right behind another one. -/
def OnlyBehind
    (first second : α)
    (items : List α) : Prop :=
  ∀ front rest, items = front ++ second :: rest → front.getLast? = some first

namespace OnlyBehind

variable {first second : α} {items more : List α}

/-- What does not occur stands nowhere without its companion. -/
theorem of_not_mem
    (absent : second ∉ items) :
    OnlyBehind first second items := by
  rintro front rest rfl
  exact absurd List.mem_cons_self fun member => absent (List.mem_append_right front member)

/-- The companion and the item make a pair. -/
theorem pair
    (different : first ≠ second) :
    OnlyBehind first second [first, second] := by
  intro front rest shape
  match front with
  | [] => exact absurd (List.cons.inj shape).1 different
  | [item] => rw [List.getLast?_singleton, (List.cons.inj shape).1]
  | _ :: _ :: front =>
      have long := congrArg List.length shape
      simp at long

/-- Two lists in which it stands only behind its companion may be joined. -/
theorem append
    (behind : OnlyBehind first second items)
    (behindMore : OnlyBehind first second more) :
    OnlyBehind first second (items ++ more) := by
  intro front rest shape
  rcases List.append_eq_append_iff.mp shape with ⟨inner, rfl, inMore⟩ | ⟨inner, inItems, inMore⟩
  · rw [List.getLast?_append, behindMore inner rest inMore]
    rfl
  · cases inner with
    | nil => cases behindMore [] rest inMore.symm
    | cons item inner =>
        obtain ⟨rfl, _⟩ := List.cons.inj inMore
        exact behind front inner inItems

/-- Any number of lists in which it stands only behind its companion may be joined. -/
theorem flatMap
    {piece : β → List α}
    (behind : ∀ item, OnlyBehind first second (piece item))
    (source : List β) :
    OnlyBehind first second (source.flatMap piece) := by
  induction source with
  | nil => exact of_not_mem List.not_mem_nil
  | cons item source inductionHypothesis =>
      rw [List.flatMap_cons]
      exact (behind item).append inductionHypothesis

end OnlyBehind

end Text

open Text (OnlyBehind)

/-! ## Line ends -/

/-- The byte of a line feed stands for a line feed. -/
theorem Utf8.lineFeed_not_mem_encode
    {character : Char}
    (other : character ≠ '\n') :
    0x0A ∉ Utf8.encode [character] := by
  intro member
  have inCharacter : 0x0A ∈ String.utf8EncodeChar character := by
    rwa [encode_cons, encode, List.flatMap_nil, List.append_nil] at member
  rcases encodeChar_cases character with ⟨small, one⟩ | ⟨_, high⟩
  · rw [one, List.mem_singleton] at inCharacter
    have sameNumber := congrArg UInt8.toNat inCharacter
    rw [asciiByte, toNat_octet (by omega)] at sameNumber
    exact other (Char.toNat_inj.mp sameNumber.symm)
  · have large := high _ inCharacter
    revert large
    decide

namespace Interpreter

variable {interpreter : Interpreter} {text : Text}

/-- An expanded text does not begin with a bare line feed. -/
theorem head?_expandLineEnds (text : Text) :
    (expandLineEnds text).head? ≠ some '\n' := by
  cases text with
  | nil => nofun
  | cons character rest =>
      rw [Script.expandLineEnds_cons]
      split
      · simp
      · rename_i other
        simpa using other

/-- Folding takes back what expanding did. -/
theorem foldLineEnds_expandLineEnds (text : Text) :
    foldLineEnds (expandLineEnds text) = text := by
  induction text with
  | nil => rfl
  | cons character rest inductionHypothesis =>
      rw [Script.expandLineEnds_cons]
      split
      · rename_i isFeed
        subst isFeed
        exact congrArg ('\n' :: ·) inductionHypothesis
      · have alone : ∀ others, character = '\r' → expandLineEnds rest ≠ '\n' :: others := by
          intro others _ shape
          exact head?_expandLineEnds rest (congrArg List.head? shape)
        rw [List.singleton_append, foldLineEnds.eq_3 _ _ alone, inductionHypothesis]

/-- In an expanded text every line feed has its carriage return. -/
theorem onlyBehind_expandLineEnds (text : Text) :
    OnlyBehind '\r' '\n' (expandLineEnds text) := by
  apply OnlyBehind.flatMap
  intro character
  split
  · exact .pair (by decide)
  · rename_i other
    exact .of_not_mem fun member => other (List.mem_singleton.mp member).symm

/-- Encoding does not part a line feed from its carriage return. -/
theorem onlyBehind_encode_expandLineEnds (text : Text) :
    OnlyBehind 0x0D 0x0A (Utf8.encode (expandLineEnds text)) := by
  rw [Utf8.encode, expandLineEnds, Text.replaceChar, List.flatMap_assoc]
  apply OnlyBehind.flatMap
  intro character
  split
  · exact .pair (by decide)
  · rename_i other
    exact .of_not_mem (Utf8.lineFeed_not_mem_encode other)

/-- Line ends are brought to one form first and expanded then. -/
theorem withLineEnds_eq_expand
    (ends : interpreter.lineEnd = .carriageReturnLineFeed)
    (text : Text) :
    interpreter.withLineEnds text = expandLineEnds (foldLineEnds text) := by
  rw [withLineEnds, ends]

/-- A text is folded to the same whether its line ends are converted before or not. -/
theorem foldLineEnds_withLineEnds
    (ends : interpreter.lineEnd = .carriageReturnLineFeed)
    (text : Text) :
    foldLineEnds (interpreter.withLineEnds text) = foldLineEnds text := by
  rw [withLineEnds_eq_expand ends, foldLineEnds_expandLineEnds]

/-- Line ends that were set once are not set again. -/
theorem withLineEnds_idempotent
    (ends : interpreter.lineEnd = .carriageReturnLineFeed)
    (text : Text) :
    interpreter.withLineEnds (interpreter.withLineEnds text) = interpreter.withLineEnds text := by
  rw [withLineEnds_eq_expand ends (interpreter.withLineEnds text),
    foldLineEnds_withLineEnds ends, withLineEnds_eq_expand ends]

/-! ## Source files -/

/-- What a source file begins with. -/
def mark (interpreter : Interpreter) : Bytes :=
  if interpreter.marked then byteOrderMark else []

/-- Behind the mark stand the bytes of the text and nothing else. -/
theorem afterPrefix?_mark_encode
    (interpreter : Interpreter)
    (text : Text) :
    Text.afterPrefix? interpreter.mark (interpreter.encode text) = some (Utf8.encode text) :=
  Text.afterPrefix?_eq_some_iff.mpr rfl

/-- The bytes of a source file tell its text. -/
theorem encode_injective (interpreter : Interpreter) :
    Function.Injective interpreter.encode := by
  intro first second same
  exact Utf8.encode_injective (List.append_cancel_left same)

/-- There is no line feed in a mark. -/
theorem onlyBehind_encode
    (ends : interpreter.lineEnd = .carriageReturnLineFeed)
    (text : Text) :
    OnlyBehind 0x0D 0x0A (interpreter.encode (interpreter.withLineEnds text)) := by
  have noFeed : 0x0A ∉ interpreter.mark := by
    rw [mark]
    split
    · decide
    · exact List.not_mem_nil
  rw [withLineEnds_eq_expand ends]
  exact (OnlyBehind.of_not_mem noFeed).append (onlyBehind_encode_expandLineEnds _)

end Interpreter

/-- What the source files of a platform begin with. -/
def Platform.mark : Platform → Bytes
  | .posix => []
  | .windows => [0xEF, 0xBB, 0xBF]

theorem Platform.mark_interpreter (platform : Platform) :
    platform.interpreter.mark = platform.mark := by
  cases platform <;> rfl

/-- A source file is the mark of its platform and the bytes of the text. -/
theorem Platform.encode_interpreter
    (platform : Platform)
    (text : Text) :
    platform.interpreter.encode text = platform.mark ++ Utf8.encode text := by
  rw [← platform.mark_interpreter]
  rfl

/-! ## The files of a task -/

/-- What may be written into a file of a task: the script of the user as it is, and everything
else without bare line feeds, where line ends have a carriage return. -/
def TaskScript.MayHold
    (script : TaskScript)
    (platform : Platform)
    (name : Text)
    (content : Bytes) : Prop :=
  if name = Handle.scriptName then
    content = platform.mark ++ Utf8.encode script.body
  else
    platform = .windows → OnlyBehind 0x0D 0x0A content

section Files

variable {script : TaskScript} {workspace : Workspace} {handle : Handle} {platform : Platform}
  {files : List (Text × Bytes)} {before after : Storage}

/-- The script of the user is written as it is, and every other file with the line ends of its
platform. -/
theorem TaskScript.mayHold_of_mem
    {file : Text × Bytes}
    (member : file ∈ script.files workspace handle platform.interpreter) :
    script.MayHold platform file.1 file.2 := by
  have generated : ∀ text, platform = .windows →
      OnlyBehind 0x0D 0x0A
        (platform.interpreter.encode (platform.interpreter.withLineEnds text)) := by
    rintro text rfl
    exact Interpreter.onlyBehind_encode rfl text
  simp only [files, List.mem_cons, List.not_mem_nil, or_false] at member
  have others : Handle.helperName ≠ Handle.scriptName ∧
      Handle.wrapperName ≠ Handle.scriptName := by decide
  rcases member with rfl | rfl | rfl
  · rw [MayHold, if_neg others.1, Script.helper_eq_fill]
    exact generated _
  · rw [MayHold, if_pos rfl]
    exact platform.encode_interpreter script.body
  · rw [MayHold, if_neg others.2, Script.wrapper_eq_fill]
    exact generated _

namespace Handle

/-- Every file that was put into a control directory stands there. -/
theorem Fills.stands
    (scripts : AreScripts files)
    (fills : handle.Fills workspace files before after)
    {file : Text × Bytes}
    (member : file ∈ files) :
    after.standing (handle.file workspace file.1) = some (.file file.2) := by
  have isThere : (handle.placed workspace files before (handle.file workspace file.1)).isSome := by
    rw [placed, Option.isSome_map, List.find?_isSome]
    exact ⟨file, member, decide_eq_true rfl⟩
  obtain ⟨entry, placed⟩ := Option.isSome_iff_exists.mp isThere
  obtain ⟨found, isFound, rfl⟩ := Option.map_eq_some_iff.mp placed
  have foundMember := List.mem_of_find?_eq_some isFound
  have sameSpot := List.find?_some isFound
  rw [decide_eq_true_eq] at sameSpot
  have sameName := spot_file_injective (scripts.plain file member)
    (scripts.plain found foundMember) sameSpot
  have same := List.inj_on_of_nodup_map scripts.distinct member foundMember sameName
  rw [fills.standing, placed, same]
  rfl

/-- Where something has changed, a file was put. -/
theorem Fills.exists_file
    (fills : handle.Fills workspace files before after)
    {path : Path}
    (changed : after.standing path ≠ before.standing path) :
    ∃ file ∈ files, after.standing path = some (.file file.2) ∧
      after.spot path = after.spot (handle.file workspace file.1) := by
  cases placed : handle.placed workspace files before path with
  | none =>
      rw [fills.standing, placed] at changed
      exact absurd rfl changed
  | some entry =>
      obtain ⟨file, found, rfl⟩ := Option.map_eq_some_iff.mp placed
      refine ⟨file, List.mem_of_find?_eq_some found, ?_, ?_⟩
      · rw [fills.standing, placed]
        rfl
      · rw [fills.spot, fills.spot]
        have here := List.find?_some found
        rwa [decide_eq_true_eq] at here

end Handle

end Files

/-- To write files and to note events, and nothing else. -/
def Terms.writing : Terms where
  allowed := fun
    | .file (.write _ _) => True
    | .note _ => True
    | _ => False
  fair := fun _ _ => True

/-- Where no orders are given, it does not matter what would become of them. -/
theorem Program.run_withStarter
    {promise : α → Prop}
    {program : Program α}
    (meets : program.Meets Terms.writing promise)
    (supply : Nat → UInt32)
    (starter : Starter)
    (world : World) :
    program.run (World.drawing supply) { world with starter := starter } =
      ((program.run (World.drawing supply) world).1,
        { (program.run (World.drawing supply) world).2 with starter := starter }) := by
  induction program generalizing world with
  | done value => rfl
  | ask request resume inductionHypothesis =>
      obtain ⟨allowed, goesOn⟩ := meets
      have answered : World.drawing supply request { world with starter := starter } =
          ((World.drawing supply request world).1,
            { (World.drawing supply request world).2 with starter := starter }) := by
        match request, allowed with
        | .note level, _ => rfl
        | .file (.write path content), _ =>
            change World.answerFile { world with starter := starter } (.write path content) =
              ((world.answerFile (.write path content)).1,
                { (world.answerFile (.write path content)).2 with starter := starter })
            rw [World.answerFile, World.answerFile]
            simp only
            split
            · rfl
            · rfl
            · rfl
      rw [Program.run, answered]
      exact inductionHypothesis _ (goesOn _ trivial) _

namespace TaskScript

/-- The scripts are written one after another, all of them unless a write fails. -/
theorem writeFiles_fills
    (script : TaskScript)
    (workspace : Workspace)
    (handle : Handle)
    (interpreter : Interpreter)
    (supply : Nat → UInt32)
    (world : World) :
    let ended :=
      (script.writeFiles workspace handle interpreter).run.run (World.drawing supply) world
    let scripts := script.files workspace handle interpreter
    ∃ count, handle.Fills workspace (scripts.take count) world.storage ended.2.storage ∧
      ∀ files, ended.1 = .ok files → scripts.take count = scripts := by
  intro ended scripts
  have writes : (script.writeFiles workspace handle interpreter).Keeps Terms.writing := by
    refine TaskProgram.Meets.bind (TaskProgram.Meets.call trivial) fun _ _ => ?_
    refine TaskProgram.Meets.bind (TaskProgram.Meets.call trivial) fun _ _ => ?_
    refine TaskProgram.Meets.bind (TaskProgram.Meets.call trivial) fun _ _ => ?_
    exact TaskProgram.Meets.ask trivial fun _ _ => TaskProgram.Meets.pure trivial
  have shown : World.Shows { world with starter := .keeping } world.storage world.orders
      world.made :=
    ⟨rfl, rfl, rfl, rfl⟩
  have written : handle.Written workspace scripts world.storage world.orders world.made ended.1
      { ended.2 with starter := .keeping } := by
    have kept : (script.writeFiles workspace handle interpreter).Ensures (World.drawing supply)
        (handle.Written workspace scripts world.storage world.orders world.made)
        { world with starter := .keeping } :=
      script.ensures_writeFiles handle interpreter shown
    rw [TaskProgram.Ensures, Program.Ensures, Program.run_withStarter writes supply] at kept
    exact kept
  rcases written with ⟨_, after, _, fills, shows⟩ | ⟨count, _, fault, after, failed, fills, shows⟩
  · obtain rfl : ended.2.storage = after := shows.storage
    refine ⟨scripts.length, ?_, fun _ _ => List.take_length⟩
    rw [List.take_length]
    exact fills
  · obtain rfl : ended.2.storage = after := shows.storage
    refine ⟨count, fills, ?_⟩
    intro files succeeded
    rw [succeeded] at failed
    cases failed

/-- Encoding and the conversion of line ends keep a text.  Behind the mark of the platform
stand the bytes of the text, so no two texts are encoded alike.  Without carriage returns a
conversion changes nothing.  With them it changes nothing the second time, it leaves no bare
line feed, and it is taken back by folding as far as folding does not act on the text itself.
Whatever the files are and whichever write fails, the files of a task hold accordingly the
script of the user behind a mark, and otherwise no bare line feed. -/
theorem writeFiles_keeps_text
    (script : TaskScript)
    (workspace : Workspace)
    (handle : Handle)
    (platform : Platform)
    (supply : Nat → UInt32)
    (world : World) :
    let interpreter := platform.interpreter
    let ended :=
      (script.writeFiles workspace handle interpreter).run.run (World.drawing supply) world
    let names := [Handle.helperName, Handle.scriptName, Handle.wrapperName]
    let holds := fun (name : Text) =>
      ∃ content, script.MayHold platform name content ∧
        ended.2.storage.standing (handle.file workspace name) = some (.file content)
    (∀ text, Text.afterPrefix? platform.mark (interpreter.encode text) =
      some (Utf8.encode text)) ∧
    Function.Injective interpreter.encode ∧
    (platform = .posix → ∀ text, interpreter.withLineEnds text = text) ∧
    (platform = .windows → ∀ text,
      interpreter.withLineEnds (interpreter.withLineEnds text) =
        interpreter.withLineEnds text ∧
      OnlyBehind '\r' '\n' (interpreter.withLineEnds text) ∧
      Interpreter.foldLineEnds (interpreter.withLineEnds text) =
        Interpreter.foldLineEnds text) ∧
    (∀ path, ended.2.storage.standing path ≠ world.storage.standing path →
      ∃ name ∈ names, holds name ∧
        ended.2.storage.spot path = ended.2.storage.spot (handle.file workspace name)) ∧
    ∀ files, ended.1 = .ok files → ∀ name ∈ names, holds name := by
  intro interpreter ended names holds
  obtain ⟨count, fills, whole⟩ :=
    script.writeFiles_fills workspace handle interpreter supply world
  refine ⟨?_, interpreter.encode_injective, ?_, ?_, ?_, ?_⟩
  · intro text
    rw [← platform.mark_interpreter]
    exact interpreter.afterPrefix?_mark_encode text
  · rintro rfl text
    exact Script.withLineEnds_of_lineFeed rfl text
  · rintro rfl text
    exact ⟨Interpreter.withLineEnds_idempotent rfl text,
      Interpreter.onlyBehind_expandLineEnds _, Interpreter.foldLineEnds_withLineEnds rfl text⟩
  · intro path changed
    obtain ⟨file, member, stands, here⟩ := fills.exists_file changed
    have isFile := List.mem_of_mem_take member
    exact ⟨file.1, mem_files isFile, ⟨file.2, mayHold_of_mem isFile,
      (Storage.standing_congr here).symm.trans stands⟩, here⟩
  · intro files succeeded name isName
    rw [whole files succeeded] at fills
    obtain ⟨file, member, rfl⟩ : ∃ file ∈ script.files workspace handle interpreter,
        file.1 = name := List.mem_map.mp isName
    exact ⟨file.2, mayHold_of_mem member, fills.stands areScripts member⟩

end TaskScript

namespace LineEndSample

def workspace : Workspace :=
  ⟨Path.ofText "/a\nb".toList⟩

def handle : Handle :=
  Handle.attach (TaskId.ofWord 7) false

/-- A script with a byte order mark of its own and line ends of every kind. -/
def script : TaskScript :=
  ⟨"\uFEFFa\r\nb\nc\r\r\nd\r".toList, false⟩

/-- A world in which the control directory is there. -/
def world : World :=
  World.new
    ((Storage.inMemory Memory.new).answer
      (.createDirectories (handle.directory workspace))).2 workspace.root

def ended : Except TaskFault ScriptFiles × World :=
  world.run (script.writeFiles workspace handle Platform.windows.interpreter)

end LineEndSample

open LineEndSample in
/-- The mark of the script stands behind the one of the platform, and the line feed in the
root stands in the wrapper behind a carriage return. -/
theorem TaskScript.writeFiles_keeps_text_sample :
    ended.2.storage.standing (handle.scriptFile workspace) =
        some (.file ([0xEF, 0xBB, 0xBF] ++ Utf8.encode script.body)) ∧
      ∃ wrapper, OnlyBehind 0x0D 0x0A wrapper ∧
        ended.2.storage.standing (handle.wrapperFile workspace) = some (.file wrapper) := by
  have kept := TaskScript.writeFiles_keeps_text script workspace handle .windows World.drawWord
    world
  rw [World.drawing_drawWord] at kept
  have succeeded : ended.1 = .ok
      { helper := handle.helperFile workspace
        script := handle.scriptFile workspace
        wrapper := handle.wrapperFile workspace } := by
    decide +kernel
  have holds := kept.2.2.2.2.2 _ succeeded
  obtain ⟨content, same, stands⟩ := holds Handle.scriptName (by decide)
  obtain ⟨wrapper, behind, standsWrapper⟩ := holds Handle.wrapperName (by decide)
  rw [TaskScript.MayHold, if_pos rfl] at same
  subst same
  rw [TaskScript.MayHold, if_neg (by decide)] at behind
  exact ⟨stands, wrapper, behind rfl, standsWrapper⟩

end DetachedTasks
