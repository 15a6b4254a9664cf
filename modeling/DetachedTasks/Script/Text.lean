import DetachedTasks.Interpreter
import DetachedTasks.Number.Checked
import DetachedTasks.Script.Template

/-!
# Generated scripts

Three texts are generated for a task.  The helper library runs inside the detached process:
it writes the log, the output file if one is wanted, and last of all the result file.  The
wrapper starts the interpreter on the script of the user.  The command loads the helper and
hands it the paths of the control directory, each between single quotes.

To render a template may fail, as it may ask for a name without a value.  None of these three
does, so each text is the value of its rendering.
-/

namespace DetachedTasks.Script

/-- The width that the helper wraps lines at. -/
def lineWidth : Nat := 192

/-- The name of the function that the command calls. -/
def entryPoint : Text := "Execute-AndWriteOutput".toList

/-- The lines of the helper library. -/
def helperLines : List String :=
  ["function New-StreamWriter \x7b",
   "[CmdletBinding()]",
   "param (",
   "  [Parameter(Mandatory=$true)] [string] $FilePath,",
   "  [Parameter(Mandatory=$true)] [System.Text.Encoding] $Encoding",
   ")",
   "  [string]$FullFilePath = [IO.Path]::GetFullPath( $FilePath );",
   "  [System.IO.StreamWriter]$writer = [System.IO.StreamWriter]::new( $FullFilePath, $true, $Encoding );",
   "  $writer.AutoFlush = $true;",
   "  return $writer;",
   "\x7d",
   "",
   "function Out-FileNoBom \x7b",
   "[CmdletBinding()]",
   "param(",
   "  [Parameter(Mandatory=$true, Position=0)] [System.IO.StreamWriter] $Writer,",
   "  [Parameter(ValueFromPipeline = $true)]   [object] $InputObject",
   ")",
   "  Process \x7b",
   "    $InputObject | Out-String -Stream -Width \x7b\x7bline_width\x7d\x7d | ForEach-Object \x7b $Writer.WriteLine( $_ ); \x7d",
   "  \x7d",
   "\x7d",
   "",
   "function Execute-AndWriteOutput \x7b",
   "[CmdletBinding()]",
   "param(",
   "  [Parameter(Mandatory=$true)]  [string]$MainScript,",
   "  [Parameter(Mandatory=$false)] [string]$OutputFile,",
   "  [Parameter(Mandatory=$true)]  [string]$LogFile,",
   "  [Parameter(Mandatory=$true)]  [string]$ResultFile,",
   "  [Parameter(Mandatory=$false)] [switch]$CaptureOutput",
   ")",
   "  $exceptionCaught = $null;",
   "  $LogWriter = $null;",
   "  $OutputWriter = $null;",
   "  try \x7b",
   "    [System.Text.Encoding] $encoding = [System.Text.UTF8Encoding]::new( $false );",
   "    [System.Console]::OutputEncoding = [System.Console]::InputEncoding = $encoding;",
   "    [System.IO.Directory]::SetCurrentDirectory( $PWD );",
   "    $null = New-Item $LogFile -ItemType File -Force;",
   "    $LogWriter = New-StreamWriter -FilePath $LogFile -Encoding $encoding;",
   "    if ($CaptureOutput -eq $true) \x7b",
   "      $null = New-Item $OutputFile -ItemType File -Force;",
   "      $OutputWriter = New-StreamWriter -FilePath $OutputFile -Encoding $encoding;",
   "    \x7d",
   "    & \x7b",
   "      if ($CaptureOutput -eq $true) \x7b",
   "        & $MainScript | ForEach-Object \x7b $_ | Out-FileNoBom -Writer $OutputWriter; $_ \x7d;",
   "      \x7d else \x7b",
   "        & $MainScript;",
   "      \x7d",
   "    \x7d *>&1 | Out-FileNoBom -Writer $LogWriter;",
   "  \x7d catch \x7b",
   "    $exceptionCaught = $_;",
   "    if ($LogWriter -ne $null) \x7b",
   "      $exceptionCaught | Out-String -Width \x7b\x7bline_width\x7d\x7d | Out-FileNoBom -Writer $LogWriter;",
   "    \x7d",
   "    $exceptionCaught = $true;",
   "  \x7d finally \x7b",
   "    $succeeded = $?;",
   "    $nativeExitCode = $LastExitCode;",
   "    $exitCode = 0;",
   "    if ($nativeExitCode -ne $null) \x7b",
   "      if ($nativeExitCode -eq 0 -and !$succeeded) \x7b",
   "        $exitCode = 1;",
   "      \x7d else \x7b",
   "        $exitCode = $nativeExitCode;",
   "      \x7d",
   "    \x7d elseif ($exceptionCaught -ne $null -or !$succeeded) \x7b",
   "      $exitCode = 1;",
   "    \x7d",
   "    if ($CaptureOutput -eq $true -and !(Test-Path $OutputFile)) \x7b",
   "      $null = New-Item $OutputFile -ItemType File -Force;",
   "    \x7d",
   "    if (!(Test-Path $LogFile)) \x7b",
   "      $null = New-Item $LogFile -ItemType File -Force;",
   "    \x7d",
   "    if ($OutputWriter -ne $null) \x7b",
   "      $OutputWriter.Flush();",
   "      $OutputWriter.Dispose();",
   "    \x7d",
   "    if ($LogWriter -ne $null) \x7b",
   "      $LogWriter.Flush();",
   "      $LogWriter.Dispose();",
   "    \x7d",
   "    $exitCode | Out-File -FilePath $ResultFile -Encoding ASCII;",
   "    exit $exitCode;",
   "  \x7d",
   "\x7d"]

/-- The helper library, as a template. -/
def helperTemplate : Text :=
  helperLines.flatMap fun line => line.toList ++ ['\n']

/-- The wrapper, as a template. -/
def wrapperTemplate : Text :=
  "[CmdletBinding()]\nparam()\n\x7b\x7bbinary\x7d\x7d \x7b\x7bflags\x7d\x7d -File '\x7b\x7bscript\x7d\x7d';\n".toList

/-- The command of a task whose output is not captured, as a template. -/
def commandTemplate : Text :=
  (". '\x7b\x7bhelper\x7d\x7d'; Execute-AndWriteOutput"
    ++ " -MainScript '\x7b\x7bwrapper\x7d\x7d'"
    ++ " -LogFile '\x7b\x7blog\x7d\x7d'"
    ++ " -ResultFile '\x7b\x7bresult\x7d\x7d';").toList

/-- The command of a task whose output is captured, as a template. -/
def capturingCommandTemplate : Text :=
  (". '\x7b\x7bhelper\x7d\x7d'; Execute-AndWriteOutput"
    ++ " -MainScript '\x7b\x7bwrapper\x7d\x7d'"
    ++ " -OutputFile '\x7b\x7boutput\x7d\x7d'"
    ++ " -LogFile '\x7b\x7blog\x7d\x7d'"
    ++ " -ResultFile '\x7b\x7bresult\x7d\x7d'"
    ++ " -CaptureOutput;").toList

/-- A line in front of a template, given by its characters. -/
theorem flatMap_line_cons
    {line : String}
    {lines : List String}
    {characters rest : Text}
    (first : line.toList = characters)
    (others : (lines.flatMap fun line => line.toList ++ ['\n']) = rest) :
    ((line :: lines).flatMap fun line => line.toList ++ ['\n']) =
      characters ++ '\n' :: rest := by
  rw [List.flatMap_cons, first, others, List.append_assoc]
  rfl

/-- The names in the template of the helper library. -/
theorem placeholders_helperTemplate :
    Template.placeholders helperTemplate = ["line_width".toList] := by
  -- The kernel is slow to take a long string apart, so the lines are spelled out before it
  -- looks for the names.
  have spelled : ∃ text, helperTemplate = text ∧
      Template.placeholders text = ["line_width".toList] := by
    dsimp only [helperTemplate, helperLines]
    apply Exists.intro
    constructor
    · repeat apply flatMap_line_cons String.toList_ofList
      exact List.flatMap_nil
    · decide +kernel
  obtain ⟨text, same, names⟩ := spelled
  rw [same, names]

/-- The names in the wrapper template. -/
theorem placeholders_wrapperTemplate :
    Template.placeholders wrapperTemplate =
      ["binary".toList, "flags".toList, "script".toList] := by
  decide +kernel

/-- The names in the command template. -/
theorem placeholders_commandTemplate :
    Template.placeholders commandTemplate =
      ["helper".toList, "log".toList, "result".toList, "wrapper".toList] := by
  decide +kernel

/-- The names in the template of a capturing command. -/
theorem placeholders_capturingCommandTemplate :
    Template.placeholders capturingCommandTemplate =
      ["helper".toList, "log".toList, "output".toList, "result".toList,
       "wrapper".toList] := by
  decide +kernel

/-! ### The helper library -/

/-- The value for the placeholder of the helper library. -/
def helperBindings : Bindings :=
  [("line_width".toList, Text.natural lineWidth)]

/-- The helper library for an interpreter, or the name that has no value. -/
def renderHelper (interpreter : Interpreter) : Except Text Text :=
  (Template.render helperTemplate helperBindings).map interpreter.withLineEnds

/-- Rendering the helper library does not fail. -/
theorem renderHelper_eq (interpreter : Interpreter) :
    renderHelper interpreter =
      .ok (interpreter.withLineEnds (Template.fill helperTemplate helperBindings)) := by
  have bound : ∀ name ∈ Template.placeholders helperTemplate,
      (Template.value? helperBindings name).isSome = true := by
    rw [placeholders_helperTemplate]
    simp [Template.value?, helperBindings]
  rw [renderHelper, Template.render_eq_ok bound]
  rfl

/-- The helper library for an interpreter. -/
def helper (interpreter : Interpreter) : Text :=
  Checked.value (renderHelper interpreter) (by rw [renderHelper_eq]; rfl)

theorem helper_eq_fill (interpreter : Interpreter) :
    helper interpreter =
      interpreter.withLineEnds (Template.fill helperTemplate helperBindings) :=
  Checked.value_of_eq (renderHelper_eq interpreter) _

/-! ### The wrapper -/

/-- The values for the placeholders of the wrapper. -/
def wrapperBindings
    (interpreter : Interpreter)
    (script : Path) : Bindings :=
  [("binary".toList, interpreter.program),
   ("flags".toList, interpreter.flagsLine),
   ("script".toList, script.fragment)]

/-- The wrapper that starts the interpreter on a script, or the name that has no value. -/
def renderWrapper
    (interpreter : Interpreter)
    (script : Path) : Except Text Text :=
  (Template.render wrapperTemplate (wrapperBindings interpreter script)).map
    interpreter.withLineEnds

/-- Rendering the wrapper does not fail. -/
theorem renderWrapper_eq
    (interpreter : Interpreter)
    (script : Path) :
    renderWrapper interpreter script =
      .ok (interpreter.withLineEnds
        (Template.fill wrapperTemplate (wrapperBindings interpreter script))) := by
  have bound : ∀ name ∈ Template.placeholders wrapperTemplate,
      (Template.value? (wrapperBindings interpreter script) name).isSome = true := by
    rw [placeholders_wrapperTemplate]
    simp [Template.value?, wrapperBindings]
  rw [renderWrapper, Template.render_eq_ok bound]
  rfl

/-- The wrapper that starts the interpreter on a script. -/
def wrapper
    (interpreter : Interpreter)
    (script : Path) : Text :=
  Checked.value (renderWrapper interpreter script) (by rw [renderWrapper_eq]; rfl)

theorem wrapper_eq_fill
    (interpreter : Interpreter)
    (script : Path) :
    wrapper interpreter script =
      interpreter.withLineEnds
        (Template.fill wrapperTemplate (wrapperBindings interpreter script)) :=
  Checked.value_of_eq (renderWrapper_eq interpreter script) _

/-! ### The command -/

/-- The paths that a command names. -/
structure CommandPaths where
  helper : Path
  wrapper : Path
  log : Path
  result : Path
  /-- The output file, if the output is captured. -/
  output : Option Path
  deriving Repr, DecidableEq

namespace CommandPaths

/-- The values for the placeholders of a command. -/
def bindings (paths : CommandPaths) : Bindings :=
  let output :=
    match paths.output with
    | some output => [("output".toList, output.fragment)]
    | none => []
  [("helper".toList, paths.helper.fragment),
   ("wrapper".toList, paths.wrapper.fragment),
   ("log".toList, paths.log.fragment),
   ("result".toList, paths.result.fragment)] ++ output

/-- The template of the command, which names an output file only if there is one. -/
def template (paths : CommandPaths) : Text :=
  if paths.output.isSome then capturingCommandTemplate else commandTemplate

end CommandPaths

/-- The command that runs a task, or the name that has no value. -/
def renderCommand (paths : CommandPaths) : Except Text Text :=
  Template.render paths.template paths.bindings

/-- Rendering the command does not fail. -/
theorem renderCommand_eq (paths : CommandPaths) :
    renderCommand paths = .ok (Template.fill paths.template paths.bindings) := by
  apply Template.render_eq_ok
  rw [CommandPaths.template, CommandPaths.bindings]
  cases paths.output with
  | none =>
      rw [Option.isSome_none, if_neg Bool.false_ne_true, placeholders_commandTemplate]
      simp [Template.value?]
  | some output =>
      rw [Option.isSome_some, if_pos rfl, placeholders_capturingCommandTemplate]
      simp [Template.value?]

/-- The command that runs a task. -/
def command (paths : CommandPaths) : Text :=
  Checked.value (renderCommand paths) (by rw [renderCommand_eq]; rfl)

theorem command_eq_fill (paths : CommandPaths) :
    command paths = Template.fill paths.template paths.bindings :=
  Checked.value_of_eq (renderCommand_eq paths) _

end DetachedTasks.Script
