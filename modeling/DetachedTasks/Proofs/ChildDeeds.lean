import DetachedTasks.Proofs.StorageFiles
import DetachedTasks.Task.Handle

/-!
# What a child does to its files

A child changes three files in its control directory: it appends to the log, and it writes
the captured output and the result in one piece each.  A change that the storage does not
take has no effect.
-/

namespace DetachedTasks

open Sandbox

/-- Something that a child does to the files of its task. -/
inductive Deed where
  /-- Append to the log. -/
  | log (chunk : Bytes)
  /-- Write the captured output. -/
  | output (content : Bytes)
  /-- Write the result. -/
  | result (content : Bytes)
  deriving Repr, DecidableEq

namespace Deed

/-- The names of the files that a child writes. -/
def fileNames : List Text :=
  [Handle.logName, Handle.outputName, Handle.resultName]

/-- The name of the file that a deed changes. -/
def fileName : Deed → Text
  | .log _ => Handle.logName
  | .output _ => Handle.outputName
  | .result _ => Handle.resultName

/-- The content that a deed gives to its file, made from what the file held. -/
def change : Deed → Bytes → Bytes
  | .log chunk, held => held ++ chunk
  | .output content, _ => content
  | .result content, _ => content

/-- Do a deed in a control directory. -/
def perform
    (directory : Path)
    (storage : Storage)
    (deed : Deed) : Storage :=
  storage.rewrite (directory.joinText deed.fileName) deed.change

/-- Do several deeds, one after another. -/
def performAll
    (directory : Path)
    (storage : Storage)
    (deeds : List Deed) : Storage :=
  deeds.foldl (perform directory) storage

/-- What a file holds after deeds, if all of them are taken. -/
def heldAfter
    (name : Text)
    (held : Option Bytes)
    (deeds : List Deed) : Option Bytes :=
  deeds.foldl
    (fun held deed =>
      if name = deed.fileName then some (deed.change (held.getD [])) else held)
    held

theorem logName_ne_outputName : Handle.logName ≠ Handle.outputName := by decide

theorem logName_ne_resultName : Handle.logName ≠ Handle.resultName := by decide

theorem outputName_ne_resultName : Handle.outputName ≠ Handle.resultName := by decide

theorem logName_mem : Handle.logName ∈ fileNames := by simp [fileNames]

theorem outputName_mem : Handle.outputName ∈ fileNames := by simp [fileNames]

theorem resultName_mem : Handle.resultName ∈ fileNames := by simp [fileNames]

theorem fileName_mem (deed : Deed) :
    deed.fileName ∈ fileNames := by
  cases deed with
  | log chunk => exact logName_mem
  | output content => exact outputName_mem
  | result content => exact resultName_mem

/-- The files of a child have plain names. -/
theorem isFileName_of_mem
    {name : Text}
    (member : name ∈ fileNames) :
    Path.IsFileName (Utf8.encode name) := by
  simp only [fileNames, List.mem_cons, List.not_mem_nil, or_false] at member
  rcases member with isLog | isOutput | isResult
  · subst isLog
    exact ⟨⟨by decide, by decide, by decide⟩, by decide⟩
  · subst isOutput
    exact ⟨⟨by decide, by decide, by decide⟩, by decide⟩
  · subst isResult
    exact ⟨⟨by decide, by decide, by decide⟩, by decide⟩

/-- The files of a child have different names. -/
theorem encode_eq_iff
    {first second : Text}
    (memberFirst : first ∈ fileNames)
    (memberSecond : second ∈ fileNames) :
    Utf8.encode first = Utf8.encode second ↔ first = second := by
  have allPairs : ∀ one ∈ fileNames, ∀ other ∈ fileNames,
      (Utf8.encode one = Utf8.encode other ↔ one = other) := by decide
  exact allPairs first memberFirst second memberSecond

/-! ### One deed -/

/-- A deed that is taken changes its own file and no other one. -/
theorem look_perform
    (directory : Path)
    (storage : Storage)
    (deed : Deed)
    {name : Text}
    (member : name ∈ fileNames) :
    (storage.takes (directory.joinText deed.fileName) ∧
        (deed.perform directory storage).look (directory.joinText name) =
          if name = deed.fileName then
            some (.file (deed.change
              (storage.content (directory.joinText deed.fileName))))
          else
            storage.look (directory.joinText name)) ∨
      (¬ storage.takes (directory.joinText deed.fileName) ∧
        deed.perform directory storage = storage) := by
  have step :=
    storage.look_rewrite directory
      (isFileName_of_mem deed.fileName_mem) (isFileName_of_mem member) deed.change
  simp only [encode_eq_iff member deed.fileName_mem] at step
  exact step

/-- A deed does not change what stands at the control directory. -/
theorem look_directory_perform
    (directory : Path)
    (storage : Storage)
    (deed : Deed) :
    (deed.perform directory storage).look directory = storage.look directory :=
  storage.look_directory_write (isFileName_of_mem deed.fileName_mem) _

/-- A deed does not change which files are taken. -/
theorem takes_perform
    (directory : Path)
    (storage : Storage)
    (deed : Deed)
    {name : Text}
    (member : name ∈ fileNames) :
    (deed.perform directory storage).takes (directory.joinText name) ↔
      storage.takes (directory.joinText name) :=
  storage.takes_write (isFileName_of_mem deed.fileName_mem) (isFileName_of_mem member) _

/-- A deed only adds to the log. -/
theorem log_prefix_perform
    (directory : Path)
    (storage : Storage)
    (deed : Deed) :
    storage.content (directory.joinText Handle.logName) <+:
      (deed.perform directory storage).content (directory.joinText Handle.logName) := by
  rcases deed.look_perform directory storage logName_mem with ⟨_, stands⟩ | ⟨_, same⟩
  · rw [Storage.content, Storage.content, stands]
    cases deed with
    | log chunk => exact ⟨chunk, rfl⟩
    | output content =>
        refine ⟨[], ?_⟩
        rw [List.append_nil, fileName, if_neg logName_ne_outputName]
    | result content =>
        refine ⟨[], ?_⟩
        rw [List.append_nil, fileName, if_neg logName_ne_resultName]
  · refine ⟨[], ?_⟩
    rw [List.append_nil, same]

/-! ### Several deeds -/

variable {directory : Path} {storage : Storage}

theorem performAll_append
    (first second : List Deed) :
    performAll directory storage (first ++ second) =
      performAll directory (performAll directory storage first) second :=
  List.foldl_append

theorem look_directory_performAll
    (deeds : List Deed) :
    (performAll directory storage deeds).look directory = storage.look directory := by
  induction deeds generalizing storage with
  | nil => rfl
  | cons deed deeds inductionHypothesis =>
      rw [performAll, List.foldl_cons, ← performAll, inductionHypothesis,
        look_directory_perform]

/-- Deeds only add to the log. -/
theorem log_prefix_performAll
    (deeds : List Deed) :
    storage.content (directory.joinText Handle.logName) <+:
      (performAll directory storage deeds).content (directory.joinText Handle.logName) := by
  induction deeds generalizing storage with
  | nil => exact List.prefix_refl _
  | cons deed deeds inductionHypothesis =>
      exact (deed.log_prefix_perform directory storage).trans inductionHypothesis

/-- Where all files of the child are taken, a file holds what the deeds have made of it. -/
theorem look_performAll
    (taken : ∀ name ∈ fileNames, storage.takes (directory.joinText name))
    {name : Text}
    (member : name ∈ fileNames)
    {held : Option Bytes}
    (before : storage.look (directory.joinText name) = held.map .file)
    (deeds : List Deed) :
    (performAll directory storage deeds).look (directory.joinText name) =
      (heldAfter name held deeds).map .file := by
  induction deeds generalizing storage held with
  | nil => exact before
  | cons deed deeds inductionHypothesis =>
      have takenAfter : ∀ other ∈ fileNames,
          (deed.perform directory storage).takes (directory.joinText other) := by
        intro other otherMember
        exact (deed.takes_perform directory storage otherMember).mpr
          (taken other otherMember)
      rw [performAll, List.foldl_cons, ← performAll, heldAfter, List.foldl_cons, ← heldAfter]
      refine inductionHypothesis takenAfter ?_
      rcases deed.look_perform directory storage member with ⟨_, stands⟩ | ⟨refused, _⟩
      · rw [stands]
        by_cases own : name = deed.fileName
        · subst own
          rw [if_pos rfl, if_pos rfl, Storage.content, before]
          cases held <;> rfl
        · rw [if_neg own, if_neg own, before]
      · exact absurd (taken _ deed.fileName_mem) refused

end Deed

end DetachedTasks
