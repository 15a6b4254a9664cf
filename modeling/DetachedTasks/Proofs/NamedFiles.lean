import DetachedTasks.Proofs.ScriptReading
import DetachedTasks.Proofs.TextPaths
import DetachedTasks.Task.Launch

/-!
# The files that scripts name

The command and the wrapper of a task name the very files that its handle looks for, unless
the root of the workspace has a single quote in it.  On Windows a wrapper also loses its way
at a line feed in the root that has no carriage return before it.
-/

namespace DetachedTasks

/-! ## What cannot stand in a script -/

namespace Flaw

/-- A single quote. -/
def quote : Flaw where
  shows := fun _ character => character == '\''
  rare := fun _ _ found => Or.inl (beq_iff_eq.mp found)
  afresh := fun _ => rfl

/-- A line feed without a carriage return before it. -/
def bareLineFeed : Flaw where
  shows := Script.isBareLineFeed
  rare := by
    intro before character found
    rw [Script.isBareLineFeed, Bool.and_eq_true, beq_iff_eq] at found
    exact Or.inr found.1
  afresh := fun _ => rfl

theorem quote_isIn_iff
    {before : Option Char}
    {text : Text} :
    quote.isIn before text = true ↔ '\'' ∈ text := by
  induction text generalizing before with
  | nil => simp [isIn]
  | cons character text inductionHypothesis =>
      rw [isIn, Bool.or_eq_true, inductionHypothesis, List.mem_cons]
      exact or_congr_left (beq_iff_eq.trans eq_comm)

/-- Mending changes exactly the texts with a bare line feed. -/
theorem mend_eq_self_iff
    {before : Option Char}
    {text : Text} :
    Script.mend before text = text ↔ bareLineFeed.isIn before text = false := by
  induction text generalizing before with
  | nil => simp [isIn, Script.mend]
  | cons character text inductionHypothesis =>
      rw [isIn, Bool.or_eq_false_iff, Script.mend, ← inductionHypothesis]
      cases bare : Script.isBareLineFeed before character with
      | false => simp [bareLineFeed, bare]
      | true =>
          have isFeed : character = '\n' := by
            rw [Script.isBareLineFeed, Bool.and_eq_true, beq_iff_eq] at bare
            exact bare.1
          subst isFeed
          simp [bareLineFeed, bare]

theorem withLineEnds_eq_self_iff
    {interpreter : Interpreter}
    {text : Text} :
    interpreter.withLineEnds text = text ↔
      interpreter.lineEnd = .carriageReturnLineFeed →
        bareLineFeed.isIn none text = false := by
  cases ends : interpreter.lineEnd with
  | lineFeed => simp [Script.withLineEnds_of_lineFeed ends]
  | carriageReturnLineFeed =>
      rw [Script.withLineEnds_of_carriageReturn ends, mend_eq_self_iff]
      simp

end Flaw

/-! ## The files of a task in a script -/

/-- A path that a text was written as, which can stand in a script exactly if another text
can. -/
structure Path.StandsLike
    (path : Path)
    (own text : Text) : Prop where
  written : path = ofText own
  quote : '\'' ∈ own ↔ '\'' ∈ text
  lineEnds : ∀ interpreter : Interpreter,
    interpreter.withLineEnds own = own ↔ interpreter.withLineEnds text = text

namespace Handle

/-- The names of the files that scripts name. -/
def namedFiles : List Text :=
  [helperName, scriptName, wrapperName, logName, outputName, resultName]

theorem file_standsLike
    {handle : Handle}
    (wellFormed : TaskId.isWellFormed handle.id = true)
    {name : Text}
    (member : name ∈ namedFiles)
    (text : Text) :
    ∃ own, (handle.file ⟨Path.ofText text⟩ name).StandsLike own text := by
  have plain : ∀ name ∈ namedFiles,
      (Path.isVoid (Utf8.encode name) = false ∧ Utf8.encode name ≠ [Path.dot, Path.dot] ∧
        Path.slash ∉ Utf8.encode name) ∧ '\'' ∉ name ∧ '\n' ∉ name := by
    decide
  obtain ⟨⟨notVoid, notUp, noSlash⟩, noQuote, noLineFeed⟩ := plain name member
  obtain ⟨own, written, flaws⟩ :=
    file_ofText wellFormed ⟨notVoid, notUp, noSlash⟩ noQuote noLineFeed text
  refine ⟨own, written, ?_, ?_⟩
  · rw [← @Flaw.quote_isIn_iff none own, flaws, Flaw.quote_isIn_iff]
  · intro interpreter
    rw [Flaw.withLineEnds_eq_self_iff, flaws, Flaw.withLineEnds_eq_self_iff]

/-- A file of a task can stand between single quotes if the root has none. -/
theorem isQuotable_file
    {handle : Handle}
    (wellFormed : TaskId.isWellFormed handle.id = true)
    {name : Text}
    (member : name ∈ namedFiles)
    {text : Text}
    (noQuote : '\'' ∉ text) :
    Script.IsQuotable (handle.file ⟨Path.ofText text⟩ name) := by
  obtain ⟨own, stands⟩ := file_standsLike wellFormed member text
  exact ⟨own, stands.written, fun inOwn => noQuote (stands.quote.mp inOwn)⟩

/-- Where a file of a task was read, the root has no single quote. -/
theorem noQuote_of_read_file
    {handle : Handle}
    (wellFormed : TaskId.isWellFormed handle.id = true)
    {name : Text}
    (named : name ∈ namedFiles)
    {text script : Text}
    {tokens : List Script.Token}
    (read : Script.read? script = some tokens)
    (member : .fragment (handle.file ⟨Path.ofText text⟩ name) ∈ tokens) :
    '\'' ∉ text := by
  obtain ⟨own, stands⟩ := file_standsLike wellFormed named text
  obtain ⟨other, written, noQuote⟩ := Script.isQuotable_of_read? read member
  have same : own = other :=
    Utf8.encode_injective (congrArg Path.bytes (stands.written.symm.trans written))
  exact fun inText => noQuote (same ▸ stands.quote.mpr inText)

end Handle

namespace TaskScript

section Reading

variable {handle : Handle}

/-- The command names the files of the task exactly if the root has no single quote. -/
theorem read_command_iff
    (wellFormed : TaskId.isWellFormed handle.id = true)
    (script : TaskScript)
    (text : Text) :
    Script.read? (Script.command (script.commandPaths ⟨Path.ofText text⟩ handle)) =
        some (script.commandPaths ⟨Path.ofText text⟩ handle).tokens ↔
      '\'' ∉ text := by
  constructor
  · intro read
    have helper : Handle.helperName ∈ Handle.namedFiles := by decide
    exact Handle.noQuote_of_read_file wellFormed helper read
      (List.mem_cons_of_mem _ List.mem_cons_self)
  · intro noQuote
    have file : ∀ name ∈ Handle.namedFiles,
        Script.IsQuotable (handle.file ⟨Path.ofText text⟩ name) :=
      fun name member => Handle.isQuotable_file wellFormed member noQuote
    apply Script.read_command
    refine
      { helper := file Handle.helperName (by decide)
        wrapper := file Handle.wrapperName (by decide)
        log := file Handle.logName (by decide)
        result := file Handle.resultName (by decide)
        output := ?_ }
    intro output captured
    simp only [commandPaths] at captured
    split at captured
    · cases captured
      exact file Handle.outputName (by decide)
    · cases captured

/-- The wrapper names the script of the task exactly if the root has no single quote, and has
the line ends of the interpreter. -/
theorem read_wrapper_iff
    (wellFormed : TaskId.isWellFormed handle.id = true)
    (platform : Platform)
    (text : Text) :
    Script.read? (Script.wrapper platform.interpreter
          (handle.scriptFile ⟨Path.ofText text⟩)) =
        some (Script.wrapperTokens platform.interpreter
          (handle.scriptFile ⟨Path.ofText text⟩)) ↔
      '\'' ∉ text ∧ platform.interpreter.withLineEnds text = text := by
  have named : Handle.scriptName ∈ Handle.namedFiles := by decide
  obtain ⟨own, stands⟩ := Handle.file_standsLike wellFormed named text
  have written : handle.scriptFile ⟨Path.ofText text⟩ = Path.ofText own := stands.written
  have same : ∀ noQuote : '\'' ∉ text,
      Script.read? (Script.wrapper platform.interpreter (Path.ofText own)) =
        some (Script.wrapperTokens platform.interpreter
          (Path.ofText (platform.interpreter.withLineEnds own))) :=
    fun noQuote => Script.read_wrapper platform fun inOwn => noQuote (stands.quote.mp inOwn)
  constructor
  · intro read
    have noQuote : '\'' ∉ text := by
      apply Handle.noQuote_of_read_file wellFormed named read
      simp [Script.wrapperTokens, Handle.scriptFile]
    rw [written, same noQuote, Option.some.injEq, Script.wrapperTokens, Script.wrapperTokens,
      List.append_cancel_left_eq, List.cons.injEq, List.cons.injEq] at read
    injection read.2.1 with samePath
    have sameText := Utf8.encode_injective (congrArg Path.bytes samePath)
    exact ⟨noQuote, (stands.lineEnds _).mp sameText⟩
  · rintro ⟨noQuote, lineEnds⟩
    rw [written, same noQuote, (stands.lineEnds _).mpr lineEnds]

/-- Where the root of a workspace is a text, the command and the wrapper of a task are read as
the words of their templates and the files of the task, the command exactly if the root has
no single quote, and the wrapper exactly if moreover the root has the line ends of the
interpreter. -/
theorem names_ownFiles
    (wellFormed : TaskId.isWellFormed handle.id = true)
    (script : TaskScript)
    (platform : Platform)
    (text : Text) :
    let workspace : Workspace := ⟨Path.ofText text⟩
    let interpreter := platform.interpreter
    let command := Script.command (script.commandPaths workspace handle)
    let wrapper := Script.wrapper interpreter (handle.scriptFile workspace)
    script.arguments workspace handle interpreter =
        interpreter.flags ++ ["-Command".toList, command] ∧
      (Script.read? command = some (script.commandPaths workspace handle).tokens ↔
        '\'' ∉ text) ∧
      (Script.read? wrapper =
          some (Script.wrapperTokens interpreter (handle.scriptFile workspace)) ↔
        '\'' ∉ text ∧ interpreter.withLineEnds text = text) :=
  ⟨rfl, read_command_iff wellFormed script text, read_wrapper_iff wellFormed platform text⟩

end Reading

namespace NamedSample

def handle : Handle :=
  Handle.attach (TaskId.ofWord 1) true

def script : TaskScript where
  body := "exit 1".toList
  capturing := true

/-- A root with dollar signs, a backtick, braces and a line end. -/
def root : Text :=
  "C:/$a\x60$b \x7b\x7blog\x7d\x7d\r\n;x".toList

end NamedSample

theorem names_ownFiles_sample :
    let workspace : Workspace := ⟨Path.ofText NamedSample.root⟩
    let interpreter := Platform.windows.interpreter
    let command :=
      Script.command (NamedSample.script.commandPaths workspace NamedSample.handle)
    let wrapper := Script.wrapper interpreter (NamedSample.handle.scriptFile workspace)
    NamedSample.script.arguments workspace NamedSample.handle interpreter =
        interpreter.flags ++ ["-Command".toList, command] ∧
      Script.read? command =
        some (NamedSample.script.commandPaths workspace NamedSample.handle).tokens ∧
      Script.read? wrapper =
        some (Script.wrapperTokens interpreter (NamedSample.handle.scriptFile workspace)) := by
  obtain ⟨arguments, command, wrapper⟩ :=
    @names_ownFiles NamedSample.handle (TaskId.isWellFormed_ofWord 1) NamedSample.script
      .windows NamedSample.root
  exact ⟨arguments, command.mpr (by decide), wrapper.mpr (by decide)⟩

/-- A single quote in the root ends a path too early, and a bare line feed in the root becomes
another line end. -/
theorem not_names_ownFiles :
    (¬ ∀ (handle : Handle) (script : TaskScript) (text : Text),
      TaskId.isWellFormed handle.id = true →
      let paths := script.commandPaths ⟨Path.ofText text⟩ handle
      Script.read? (Script.command paths) = some paths.tokens) ∧
    (¬ ∀ (handle : Handle) (text : Text),
      TaskId.isWellFormed handle.id = true → '\'' ∉ text →
      let script := handle.scriptFile ⟨Path.ofText text⟩
      let interpreter := Platform.windows.interpreter
      Script.read? (Script.wrapper interpreter script) =
        some (Script.wrapperTokens interpreter script)) := by
  constructor
  · intro named
    have read := named NamedSample.handle NamedSample.script "/it's".toList
      (TaskId.isWellFormed_ofWord 1)
    revert read
    decide +kernel
  · intro named
    have read := named NamedSample.handle "/a\nb".toList (TaskId.isWellFormed_ofWord 1)
      (by decide)
    revert read
    decide +kernel

end TaskScript

end DetachedTasks
