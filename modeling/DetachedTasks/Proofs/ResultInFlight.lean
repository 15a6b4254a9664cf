import DetachedTasks.Proofs.LiveCalls
import DetachedTasks.Proofs.PartialResult

/-!
# A result that is still being written

The child writes its result in one piece, but a look at the file may fall into the middle of
the write and find only the first bytes.  Nothing is misread as long as no digit is there or
all digits are; in between the leading digits are taken for the exit code, and a sign alone
is taken for garbage.
-/

namespace DetachedTasks

open Sandbox

namespace ResultText

variable {code : Int32} {start : Bytes}

/-- The first bytes hold all digits exactly if they are long enough. -/
theorem encode_prefix_iff
    (begins : start <+: ofExitCode code) :
    Utf8.encode (Text.integer code.toInt) <+: start ↔
      (Text.integer code.toInt).length ≤ start.length := by
  have ascii : ∀ character ∈ Text.integer code.toInt, character.toNat < 0x80 :=
    fun character member => Text.toNat_lt_of_mem_integer member
  have bytes :
      (Utf8.encode (Text.integer code.toInt)).length = (Text.integer code.toInt).length := by
    rw [Utf8.encode_of_ascii ascii, List.length_map]
  constructor
  · intro digits
    rw [← bytes]
    exact digits.length_le
  · intro long
    have whole : Utf8.encode (Text.integer code.toInt) <+: ofExitCode code := by
      rw [ofExitCode, Utf8.encode_append]
      exact List.prefix_append _ _
    exact List.prefix_of_prefix_length_le whole begins (bytes ▸ long)

/-- Without its last digits a number is another number. -/
theorem tdiv_ne_self
    {number : Int}
    {missing : Nat}
    (some : 0 < missing)
    (digitsLeft : missing < (Text.natural number.natAbs).length) :
    number.tdiv (10 ^ missing) ≠ number := by
  intro same
  have positive : 0 < number.natAbs := by
    rcases Nat.eq_zero_or_pos number.natAbs with zero | positive
    · rw [zero] at digitsLeft
      exact absurd (Nat.lt_of_lt_of_le digitsLeft (by decide)) (Nat.not_lt.mpr some)
    · exact positive
  have smaller : number.natAbs / 10 ^ missing < number.natAbs :=
    Nat.div_lt_self positive (Nat.one_lt_pow (Nat.ne_of_gt some) (by decide))
  have absolute := Int.natAbs_tdiv number (10 ^ missing)
  rw [same, Int.natAbs_pow] at absolute
  exact absurd absolute.symm (Nat.ne_of_lt smaller)

/-- The verdict is no mistake exactly if no byte is there or all digits are. -/
theorem verdictAfter_iff (written : Nat) :
    (verdictAfter code written = .ok none ∨ verdictAfter code written = .ok (some code)) ↔
      written = 0 ∨ (Text.integer code.toInt).length ≤ written := by
  rw [verdictAfter]
  by_cases nothing : written = 0
  · simp only [nothing, if_true, true_or]
  · rw [if_neg nothing]
    have longer := Text.sign_length_lt code.toInt
    by_cases signOnly : written ≤ (Text.sign code.toInt).length
    · rw [if_pos signOnly]
      constructor
      · rintro (impossible | impossible) <;> cases impossible
      · rintro (zero | whole)
        · exact absurd zero nothing
        · omega
    · rw [if_neg signOnly]
      constructor
      · rintro (impossible | same)
        · cases impossible
        · right
          by_contra cut
          have parts := congrArg List.length (Text.integer_eq code.toInt)
          rw [List.length_append] at parts
          have missing : 0 < (Text.integer code.toInt).length - written := by omega
          have fits := inRange_tdiv (inRange_toInt code)
            ((Text.integer code.toInt).length - written)
          simp only [inRange, Bool.and_eq_true, decide_eq_true_eq] at fits
          injection same with same
          injection same with same
          have whole := congrArg Int32.toInt same
          rw [Int32.toInt_ofInt_of_le fits.1 fits.2] at whole
          exact tdiv_ne_self missing (by omega) whole
      · rintro (zero | whole)
        · exact absurd zero nothing
        · right
          rw [Nat.sub_eq_zero_of_le whole, pow_zero, Int.tdiv_one, Int32.ofInt_toInt]

end ResultText

namespace Scene

/-- A look at a result that is being written says what its first bytes say. -/
theorem run_status_quiet
    {handle : Handle}
    {workspace : Workspace}
    {scene : Scene}
    (quiet : scene.turns = [])
    (stands : scene.storage.look (handle.directory workspace) = some .directory)
    {held : Bytes}
    (isFile : scene.storage.look (handle.resultFile workspace) = some (.file held)) :
    (run (handle.directory workspace) (handle.status workspace).run scene).1 =
      ResultText.statusOf (handle.resultFile workspace) held := by
  have still : ∀ {after}, Leads (handle.directory workspace) scene after →
      after.storage = scene.storage := by
    intro after leads
    obtain ⟨count, _, storage⟩ := leads.acted
    rw [storage, quiet, List.take_nil]
    rfl
  have outcome := run_status handle workspace scene
  generalize
    run (handle.directory workspace) (handle.status workspace).run scene = both
      at outcome ⊢
  rcases both with ⟨answer, after⟩
  cases outcome with
  | directoryMissing leads _ gone =>
      rw [still leads] at gone
      exact absurd stands gone
  | noResult leads _ _ absent =>
      rw [still leads, isFile] at absent
      cases absent
  | unreadable leadsEarlier leads _ _ noFile =>
      rw [still (leadsEarlier.trans leads)] at noFile
      exact absurd isFile (noFile held)
  | read leadsMiddle _ _ _ found =>
      rw [still leadsMiddle, isFile] at found
      cases found
      rfl

end Scene

namespace ResultText

/-- What is read from the first bytes of a result, and when it is no mistake: neither the
parser nor a look at the task says anything wrong exactly if no byte is there yet or all
digits are. -/
theorem parse_begun
    (code : Int32)
    {start : Bytes}
    (begins : start <+: ofExitCode code) :
    parse start = verdictAfter code start.length ∧
      ((parse start = .ok none ∨ parse start = .ok (some code)) ↔
        start = [] ∨ Utf8.encode (Text.integer code.toInt) <+: start) ∧
      ∀ (handle : Handle) (workspace : Workspace) (scene : Scene),
        scene.turns = [] →
        scene.storage.look (handle.directory workspace) = some .directory →
        scene.storage.look (handle.resultFile workspace) = some (.file start) →
        (((Scene.run (handle.directory workspace) (handle.status workspace).run scene).1 =
              .ok .running ∨
            (Scene.run (handle.directory workspace) (handle.status workspace).run scene).1 =
              .ok (.complete code)) ↔
          start = [] ∨ Utf8.encode (Text.integer code.toInt) <+: start) := by
  have read : parse start = verdictAfter code start.length := by
    rw [← parse_take, ← List.prefix_iff_eq_take.mp begins]
  have faithful :
      (parse start = .ok none ∨ parse start = .ok (some code)) ↔
        start = [] ∨ Utf8.encode (Text.integer code.toInt) <+: start := by
    rw [read, verdictAfter_iff, encode_prefix_iff begins, List.length_eq_zero_iff]
  refine ⟨read, faithful, ?_⟩
  intro handle workspace scene quiet stands isFile
  rw [Scene.run_status_quiet quiet stands isFile, ← faithful, statusOf]
  cases parse start with
  | error text => simp
  | ok verdict =>
      cases verdict with
      | none => simp
      | some other => simp

/-- Files in memory with the first digit of a result. -/
def oneDigitFiles : Scene :=
  { storage := .inMemory
      (Memory.new.addFile
        ((Handle.attach "durable-00000001".toList false).resultFile
          ⟨Path.ofText "/w".toList⟩)
        [0x31])
    turns := []
    moods := []
    attempts := [] }

/-- One digit of two is read as an exit code of its own, and a look at the task takes the
task for complete with this code. -/
theorem parse_begun_twelve :
    ([0x31] : Bytes) <+: ofExitCode 12 ∧
      ¬ (parse [0x31] = .ok none ∨ parse [0x31] = .ok (some 12)) ∧
      ¬ ((Scene.run
            ((Handle.attach "durable-00000001".toList false).directory
              ⟨Path.ofText "/w".toList⟩)
            ((Handle.attach "durable-00000001".toList false).status
              ⟨Path.ofText "/w".toList⟩).run oneDigitFiles).1 = .ok .running ∨
          (Scene.run
            ((Handle.attach "durable-00000001".toList false).directory
              ⟨Path.ofText "/w".toList⟩)
            ((Handle.attach "durable-00000001".toList false).status
              ⟨Path.ofText "/w".toList⟩).run oneDigitFiles).1 = .ok (.complete 12)) := by
  have begins : ([0x31] : Bytes) <+: ofExitCode 12 := by decide
  have cut : ¬ (([0x31] : Bytes) = [] ∨
      Utf8.encode (Text.integer (12 : Int32).toInt) <+: [0x31]) := by decide
  have stands : oneDigitFiles.storage.look
      ((Handle.attach "durable-00000001".toList false).directory ⟨Path.ofText "/w".toList⟩) =
        some .directory := by decide
  have isFile : oneDigitFiles.storage.look
      ((Handle.attach "durable-00000001".toList false).resultFile
        ⟨Path.ofText "/w".toList⟩) = some (.file [0x31]) := by decide
  obtain ⟨_, parsed, looked⟩ := parse_begun 12 begins
  exact ⟨begins, fun faithful => cut (parsed.mp faithful),
    fun faithful => cut ((looked _ _ oneDigitFiles rfl stands isFile).mp faithful)⟩

/-- It is not so that a result in flight is never mistaken for another one. -/
theorem not_parse_begun_faithful :
    ¬ ∀ (code : Int32) (start : Bytes), start <+: ofExitCode code →
        parse start = .ok none ∨ parse start = .ok (some code) := by
  intro faithful
  rcases faithful 12 [0x31] (by decide) with waiting | complete
  · exact absurd waiting (by decide)
  · exact absurd complete (by decide)

end ResultText

end DetachedTasks
