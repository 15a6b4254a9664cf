import DetachedTasks.Proofs.LiveScene

/-!
# The life of a child

A child appends to its log, then writes the captured output if there is any, and writes its
result last.  So whoever finds a result finds the log and the output as they stay.
-/

namespace DetachedTasks

open Sandbox

/-- What a child does over its whole life. -/
structure Child where
  /-- What it appends to the log, piece by piece. -/
  chunks : List Bytes
  /-- The captured output, if it captures any. -/
  output : Option Bytes
  exitCode : Int32
  /-- What stands behind the exit code in the result file. -/
  lineEnd : Text
  deriving Repr

namespace Child

/-- The content of the result file. -/
def result (child : Child) : Bytes :=
  Utf8.encode (Text.integer child.exitCode.toInt ++ child.lineEnd)

/-- What the child does before it writes its result. -/
def deedsBefore (child : Child) : List Deed :=
  child.chunks.map .log ++ child.output.toList.map .output

/-- All that the child does, in order. -/
def deeds (child : Child) : List Deed :=
  child.deedsBefore ++ [.result child.result]

/-- The final log. -/
def log (child : Child) : Bytes :=
  child.chunks.flatten

end Child

namespace Deed

theorem heldAfter_append
    (name : Text)
    (held : Option Bytes)
    (first second : List Deed) :
    heldAfter name held (first ++ second) =
      heldAfter name (heldAfter name held first) second :=
  List.foldl_append

/-- Deeds on other files leave a file as it is. -/
theorem heldAfter_of_ne
    {name : Text}
    {deeds : List Deed}
    (different : ∀ deed ∈ deeds, name ≠ deed.fileName)
    (held : Option Bytes) :
    heldAfter name held deeds = held := by
  induction deeds with
  | nil => rfl
  | cons deed deeds inductionHypothesis =>
      rw [heldAfter, List.foldl_cons, if_neg (different deed List.mem_cons_self)]
      exact inductionHypothesis fun other member =>
        different other (List.mem_cons_of_mem deed member)

/-- A log holds all its pieces. -/
theorem heldAfter_log
    (chunks : List Bytes)
    (held : Option Bytes) :
    (heldAfter Handle.logName held (chunks.map .log)).getD [] =
      held.getD [] ++ chunks.flatten := by
  induction chunks generalizing held with
  | nil => exact (List.append_nil _).symm
  | cons chunk chunks inductionHypothesis =>
      have first :
          heldAfter Handle.logName held ((chunk :: chunks).map .log) =
            heldAfter Handle.logName (some (held.getD [] ++ chunk)) (chunks.map .log) := rfl
      rw [first, inductionHypothesis, List.flatten_cons, ← List.append_assoc]
      rfl

end Deed

namespace Child

open Deed

variable {child : Child}

/-- At the end the log holds all that was appended to it. -/
theorem heldAfter_logName (child : Child) :
    (heldAfter Handle.logName none child.deeds).getD [] = child.log := by
  have laterOther : ∀ deed ∈ child.output.toList.map .output ++ [.result child.result],
      Handle.logName ≠ fileName deed := by
    intro deed member
    rcases List.mem_append.mp member with isOutput | isResult
    · obtain ⟨content, _, same⟩ := List.mem_map.mp isOutput
      rw [← same]
      exact logName_ne_outputName
    · rw [List.mem_singleton.mp isResult]
      exact logName_ne_resultName
  rw [deeds, deedsBefore, List.append_assoc, heldAfter_append, heldAfter_of_ne laterOther,
    heldAfter_log]
  rfl

/-- At the end the output file holds the captured output. -/
theorem heldAfter_outputName (child : Child) :
    heldAfter Handle.outputName none child.deeds = child.output := by
  have logOther : ∀ deed ∈ child.chunks.map .log, Handle.outputName ≠ fileName deed := by
    intro deed member
    obtain ⟨chunk, _, same⟩ := List.mem_map.mp member
    rw [← same]
    exact logName_ne_outputName.symm
  have resultOther : ∀ deed ∈ [Deed.result child.result],
      Handle.outputName ≠ fileName deed := by
    intro deed member
    rw [List.mem_singleton.mp member]
    exact outputName_ne_resultName
  rw [deeds, deedsBefore, heldAfter_append, heldAfter_append, heldAfter_of_ne logOther,
    heldAfter_of_ne resultOther]
  cases child.output with
  | none => rfl
  | some content => rfl

theorem heldAfter_resultName_before
    {done : List Deed}
    (begun : done <+: child.deedsBefore) :
    heldAfter Handle.resultName none done = none := by
  apply heldAfter_of_ne
  intro deed member
  have inBefore := begun.subset member
  rcases List.mem_append.mp inBefore with isLog | isOutput
  · obtain ⟨chunk, _, same⟩ := List.mem_map.mp isLog
    rw [← same]
    exact logName_ne_resultName.symm
  · obtain ⟨content, _, same⟩ := List.mem_map.mp isOutput
    rw [← same]
    exact outputName_ne_resultName.symm

/-- At the end the result file holds the result. -/
theorem heldAfter_resultName (child : Child) :
    heldAfter Handle.resultName none child.deeds = some child.result := by
  rw [deeds, heldAfter_append, heldAfter_resultName_before (List.prefix_refl child.deedsBefore)]
  rfl

/-- Once there is a result, the child has done all it does, and the result is the whole one. -/
theorem all_done_of_result
    {done : List Deed}
    (begun : done <+: child.deeds)
    {held : Bytes}
    (found : heldAfter Handle.resultName none done = some held) :
    done = child.deeds ∧ held = child.result := by
  rcases List.prefix_concat_iff.mp begun with all | before
  · have whole := heldAfter_append Handle.resultName none child.deedsBefore
      [.result child.result]
    rw [heldAfter_resultName_before (List.prefix_refl child.deedsBefore)] at whole
    rw [all, whole] at found
    exact ⟨all, (Option.some.inj found).symm⟩
  · rw [heldAfter_resultName_before before] at found
    cases found

end Child

namespace Deed

variable {directory : Path} {storage : Storage}

/-- A file of the child stays a file. -/
theorem isFile_performAll
    {name : Text}
    (member : name ∈ fileNames)
    (isFile : ∃ held, storage.look (directory.joinText name) = some (.file held))
    (deeds : List Deed) :
    ∃ held,
      (performAll directory storage deeds).look (directory.joinText name) =
        some (.file held) := by
  induction deeds generalizing storage with
  | nil => exact isFile
  | cons deed deeds inductionHypothesis =>
      apply inductionHypothesis
      rcases deed.look_perform directory storage member with ⟨_, stands⟩ | ⟨_, same⟩
      · by_cases own : name = deed.fileName
        · rw [if_pos own] at stands
          exact ⟨_, stands⟩
        · rw [if_neg own] at stands
          rw [stands]
          exact isFile
      · rw [same]
        exact isFile

end Deed

/-- The control directory of a task right after its launch, with files that can be written. -/
structure IsLaid
    (directory : Path)
    (storage : Storage) : Prop where
  stands : storage.look directory = some .directory
  absent : ∀ name ∈ Deed.fileNames, storage.look (directory.joinText name) = none
  taken : ∀ name ∈ Deed.fileNames, storage.takes (directory.joinText name)

/-- After some deeds the files hold what the deeds have made of them. -/
theorem IsLaid.look_performAll
    {directory : Path}
    {laid : Storage}
    (isLaid : IsLaid directory laid)
    (deeds : List Deed)
    {name : Text}
    (member : name ∈ Deed.fileNames) :
    (Deed.performAll directory laid deeds).look (directory.joinText name) =
      (Deed.heldAfter name none deeds).map .file := by
  have before :
      laid.look (directory.joinText name) = (none : Option Bytes).map .file :=
    isLaid.absent name member
  exact Deed.look_performAll isLaid.taken member before deeds

/-- A scene in which a child has done a part of what it does, still has to do some or all of
the rest, and meets a sink that never refuses. -/
structure Child.Lives
    (child : Child)
    (directory : Path)
    (laid : Storage)
    (scene : Scene) : Prop where
  acted : ∃ done,
    done ++ scene.turns.flatten <+: child.deeds ∧
      scene.storage = Deed.performAll directory laid done
  calm : scene.moods = []

namespace Child.Lives

variable {child : Child} {directory : Path} {laid : Storage} {scene after : Scene}

/-- The child goes on with its life from one moment to the next. -/
theorem lead
    (lives : child.Lives directory laid scene)
    (leads : Scene.Leads directory scene after) :
    child.Lives directory laid after where
  acted := by
    obtain ⟨done, begun, storage⟩ := lives.acted
    obtain ⟨count, turns, storageAfter⟩ := leads.acted
    refine ⟨done ++ (scene.turns.take count).flatten, ?_, ?_⟩
    · rwa [turns, List.append_assoc, ← List.flatten_append, List.take_append_drop]
    · rw [storageAfter, storage, Deed.performAll_append]
  calm := by
    have suffix := leads.moods
    rwa [lives.calm, List.suffix_nil] at suffix

theorem look_directory
    (lives : child.Lives directory laid scene)
    (isLaid : IsLaid directory laid) :
    scene.storage.look directory = some .directory := by
  obtain ⟨done, _, storage⟩ := lives.acted
  rw [storage, Deed.look_directory_performAll]
  exact isLaid.stands

/-- The sink refuses nothing. -/
theorem willing
    (lives : child.Lives directory laid scene) :
    ∀ mood ∈ scene.moods, mood = .accepts := by
  rw [lives.calm]
  exact fun _ member => absurd member List.not_mem_nil

/-- The files hold what the deeds of the child have made of them. -/
theorem look_file
    (lives : child.Lives directory laid scene)
    (isLaid : IsLaid directory laid) :
    ∃ done, done <+: child.deeds ∧ ∀ name ∈ Deed.fileNames,
      scene.storage.look (directory.joinText name) =
        (Deed.heldAfter name none done).map .file := by
  obtain ⟨done, begun, storage⟩ := lives.acted
  refine ⟨done, (List.prefix_append done _).trans begun, ?_⟩
  intro name member
  rw [storage]
  exact isLaid.look_performAll done member

/-- Whatever stands in place of a file is a file. -/
theorem isFile_of_look
    (lives : child.Lives directory laid scene)
    (isLaid : IsLaid directory laid)
    {name : Text}
    (member : name ∈ Deed.fileNames)
    (stood : scene.storage.look (directory.joinText name) ≠ none) :
    ∃ held, scene.storage.look (directory.joinText name) = some (.file held) := by
  obtain ⟨done, _, files⟩ := lives.look_file isLaid
  rw [files name member] at stood ⊢
  cases held : Deed.heldAfter name none done with
  | none =>
      rw [held] at stood
      exact absurd rfl stood
  | some content => exact ⟨content, rfl⟩

/-- The log is a part of the final one. -/
theorem log_begun
    (lives : child.Lives directory laid scene)
    (isLaid : IsLaid directory laid) :
    scene.storage.content (directory.joinText Handle.logName) <+: child.log := by
  obtain ⟨done, begun, storage⟩ := lives.acted
  obtain ⟨rest, whole⟩ := (List.prefix_append done _).trans begun
  have final :
      (Deed.performAll directory laid child.deeds).content
        (directory.joinText Handle.logName) = child.log := by
    rw [Storage.content, isLaid.look_performAll child.deeds Deed.logName_mem,
      ← child.heldAfter_logName]
    cases Deed.heldAfter Handle.logName none child.deeds with
    | none => rfl
    | some held => rfl
  rw [storage, ← final, ← whole, Deed.performAll_append]
  exact Deed.log_prefix_performAll rest

/-- Where a result is, it is the whole one, and the log and the output are final. -/
theorem complete_of_result
    (lives : child.Lives directory laid scene)
    (isLaid : IsLaid directory laid)
    {held : Bytes}
    (isFile : scene.storage.look (directory.joinText Handle.resultName) = some (.file held)) :
    held = child.result ∧
      scene.storage.content (directory.joinText Handle.logName) = child.log ∧
      scene.storage.look (directory.joinText Handle.outputName) =
        child.output.map .file := by
  obtain ⟨done, begun, files⟩ := lives.look_file isLaid
  rw [files Handle.resultName Deed.resultName_mem] at isFile
  obtain ⟨content, found, same⟩ := Option.map_eq_some_iff.mp isFile
  cases same
  obtain ⟨all, whole⟩ := all_done_of_result begun found
  subst all
  refine ⟨whole, ?_, ?_⟩
  · rw [Storage.content, files Handle.logName Deed.logName_mem,
      ← child.heldAfter_logName]
    cases Deed.heldAfter Handle.logName none child.deeds with
    | none => rfl
    | some held => rfl
  · rw [files Handle.outputName Deed.outputName_mem, child.heldAfter_outputName]

end Child.Lives

/-- A file of the child stays a file from one moment to a later one. -/
theorem Scene.Leads.isFile
    {directory : Path}
    {scene after : Scene}
    (leads : Scene.Leads directory scene after)
    {name : Text}
    (member : name ∈ Deed.fileNames)
    (isFile : ∃ held, scene.storage.look (directory.joinText name) = some (.file held)) :
    ∃ held, after.storage.look (directory.joinText name) = some (.file held) := by
  obtain ⟨count, _, storage⟩ := leads.acted
  rw [storage]
  exact Deed.isFile_performAll member isFile _

end DetachedTasks
