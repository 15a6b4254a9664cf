import DetachedTasks.Proofs.OmittedSettings
import Mathlib

/-!
# Checked settings

Settings are accepted if the interval between two polls is long enough and a patience, if there
is one, lasts at least one interval.  The product that decides the second question is cut off
at the greatest number of 64 bits; that never changes the answer, because no interval is
longer.  What is accepted is kept as it is, and what is left out of a document counts as if
its default value were written there.
-/

namespace DetachedTasks

namespace Settings

/-! ### Which settings are accepted -/

/-- The cut-off product is less than a number of 64 bits exactly if the product itself is. -/
theorem thousandfold_lt_iff
    (number bound : UInt64) :
    thousandfold number < bound.toNat ↔ 1000 * number.toNat < bound.toNat := by
  have small := bound.toNat_lt
  rw [thousandfold]
  omega

/-- The interval is checked first. -/
theorem check_of_lt
    {settings : Settings}
    (short : settings.poll.intervalMilliseconds.toNat < 10) :
    settings.check = .error (.intervalTooShort settings.poll.intervalMilliseconds) :=
  if_pos (UInt64.lt_iff_toNat_lt.mpr short)

/-- With an interval that is long enough, the patience decides. -/
theorem check_of_le
    {settings : Settings}
    (longEnough : 10 ≤ settings.poll.intervalMilliseconds.toNat) :
    settings.check =
      if settings.poll.staleAfterSeconds.toNat ≠ 0 ∧
          1000 * settings.poll.staleAfterSeconds.toNat <
            settings.poll.intervalMilliseconds.toNat then
        .error (.staleBeforePoll settings.poll.staleAfterSeconds
          settings.poll.intervalMilliseconds)
      else
        .ok settings := by
  have notShort : ¬ settings.poll.intervalMilliseconds < shortestInterval :=
    fun short => absurd (UInt64.lt_iff_toNat_lt.mp short) (Nat.not_lt.mpr longEnough)
  have zero : settings.poll.staleAfterSeconds ≠ 0 ↔
      settings.poll.staleAfterSeconds.toNat ≠ 0 :=
    not_congr UInt64.toNat_inj.symm
  rw [check, if_neg notShort]
  simp only [zero, thousandfold_lt_iff]

/-- Settings are accepted, unchanged, exactly if both rules are kept. -/
theorem check_eq_ok_iff
    {settings accepted : Settings} :
    settings.check = .ok accepted ↔
      accepted = settings ∧ 10 ≤ settings.poll.intervalMilliseconds.toNat ∧
        (settings.poll.staleAfterSeconds.toNat = 0 ∨
          settings.poll.intervalMilliseconds.toNat ≤
            1000 * settings.poll.staleAfterSeconds.toNat) := by
  by_cases longEnough : 10 ≤ settings.poll.intervalMilliseconds.toNat
  · rw [check_of_le longEnough]
    split_ifs with impatient
    · constructor
      · intro refused
        cases refused
      · rintro ⟨-, -, none | patient⟩
        · exact absurd none impatient.1
        · exact absurd patient (Nat.not_le.mpr impatient.2)
    · rw [not_and_or, not_not, Nat.not_lt] at impatient
      exact ⟨fun same => ⟨(Except.ok.inj same).symm, longEnough, impatient⟩,
        fun same => congrArg Except.ok same.1.symm⟩
  · rw [check_of_lt (Nat.not_le.mp longEnough)]
    constructor
    · intro refused
      cases refused
    · rintro ⟨-, isLong, -⟩
      exact absurd isLong longEnough

/-- What accepted settings say about polling is what the numbers in them say. -/
theorem pollOptions_of_check_eq_ok
    {settings accepted : Settings}
    (isAccepted : settings.check = .ok accepted) :
    accepted.pollOptions.interval.nanoseconds =
        settings.poll.intervalMilliseconds.toNat * 1000000 ∧
      (accepted.pollOptions.staleAfter = none ↔
        settings.poll.staleAfterSeconds.toNat = 0) ∧
      ∀ patience, accepted.pollOptions.staleAfter = some patience →
        patience.nanoseconds = settings.poll.staleAfterSeconds.toNat * 1000000000 ∧
          accepted.pollOptions.interval.nanoseconds ≤ patience.nanoseconds := by
  obtain ⟨rfl, -, rule⟩ := check_eq_ok_iff.mp isAccepted
  have zero : accepted.poll.staleAfterSeconds = 0 ↔
      accepted.poll.staleAfterSeconds.toNat = 0 :=
    UInt64.toNat_inj.symm
  refine ⟨rfl, ?_, ?_⟩
  · rw [pollOptions, ← zero]
    exact ite_eq_left_iff.trans (by simp)
  · intro patience given
    simp only [pollOptions, zero] at given
    split_ifs at given with never
    cases given
    have lasts := rule.resolve_left never
    refine ⟨rfl, ?_⟩
    change accepted.poll.intervalMilliseconds.toNat * 1000000 ≤
      accepted.poll.staleAfterSeconds.toNat * 1000000000
    omega

/-! ### From a text to accepted settings -/

/-- The settings that a text stands for, checked. -/
def ofText (text : Text) : Except TaskFault Settings :=
  ((ofToml text).mapError .document).bind fun settings => settings.check.mapError .settings

/-- What loading makes of the content of a file, or of why there is none. -/
def ofAnswer : Except FileFault Text → Except TaskFault Settings
  | .error (.system _ _ cause) => .error (.unreadableSettings cause)
  | .error cause => .error (.files cause)
  | .ok text => ofText text

/-- To load a file is to read it once; all that follows depends on nothing but the answer. -/
theorem load_eq (file : Path) :
    load file = (do
      let answer ← TaskProgram.ask (.file (.readText file))
      ExceptT.mk (pure (ofAnswer answer))) := by
  refine congrArg (Program.ask (.file (.readText file))) (funext fun answer => ?_)
  cases answer with
  | error cause => cases cause <;> rfl
  | ok text =>
      dsimp only [Program.bind, Function.comp_apply, ExceptT.bindCont]
      rw [ofAnswer, ofText]
      cases ofToml text with
      | error cause => rfl
      | ok settings =>
          dsimp only [Except.mapError, Except.bind, Program.bind, ExceptT.bindCont, pure,
            ExceptT.pure, ExceptT.mk]
          cases settings.check <;> rfl

/-- What settings are good for: the platform, whether output is relayed, and how tasks are
polled. -/
def effect (settings : Settings) : Platform × Bool × PollOptions :=
  (settings.platform, settings.launch.relayOutput, settings.pollOptions)

/-- Settings that look the same are accepted or refused for the same reason, and have the same
effect. -/
theorem map_effect_check
    (first second : Settings)
    (same : first.view = second.view) :
    (first.check.mapError TaskFault.settings).map effect =
      (second.check.mapError TaskFault.settings).map effect := by
  obtain ⟨launches, polls⟩ := Prod.mk.inj same
  obtain ⟨platforms, relays⟩ := Prod.mk.inj launches
  have effects : first.effect = second.effect := by
    rw [effect, effect, platform, platform, platforms, relays, pollOptions, pollOptions, polls]
  rw [check, check, polls]
  split_ifs
  · rfl
  · rfl
  · exact congrArg Except.ok effects

/-- A document from which settings are left out that have their default values comes to the
same end. -/
theorem map_effect_ofText
    {text shorter : Text}
    {pairs others : List (Text × Toml.Value)}
    (read : Toml.read? text = some (.table pairs))
    (readShorter : Toml.read? shorter = some (.table others))
    (omits : Relation.ReflTransGen Omits pairs others) :
    (ofText text).map effect = (ofText shorter).map effect := by
  have alike := map_view_ofPairs_of_omits omits (Toml.isDistinct_of_read?_eq_some read)
  have ofToml_eq : ∀ {text pairs}, Toml.read? text = some (.table pairs) →
      ofToml text = (ofPairs pairs).mapError .misfit := by
    intro text pairs read
    rw [ofToml, read]
    rfl
  refine map_bind_congr map_effect_check ?_
  rw [ofToml_eq read, ofToml_eq readShorter]
  simp only [map_mapError, alike]

/-- A section in which only default values are written may be left out altogether. -/
theorem omits_section
    {name : Text}
    {defaults entries : List (Text × Toml.Value)}
    (isSection : (name, defaults) ∈ written)
    (areDefaults : ∀ entry ∈ entries, entry ∈ defaults)
    (front back : List (Text × Toml.Value)) :
    Relation.ReflTransGen Omits (front ++ (name, .table entries) :: back) (front ++ back) := by
  induction entries with
  | nil => exact .single (.wholeSection isSection (.inl rfl))
  | cons entry entries inductionHypothesis =>
      obtain ⟨isDefault, others⟩ := List.forall_mem_cons.mp areDefaults
      have first : Omits (front ++ (name, .table ([] ++ entry :: entries)) :: back)
          (front ++ (name, .table ([] ++ entries)) :: back) :=
        .inSection isSection (.key isDefault)
      exact .head first (inductionHypothesis others)

/-- Settings are accepted exactly if the interval is ten milliseconds at least and not longer
than the patience, if there is one, in whole numbers without a bound; of two broken rules the
one for the interval is reported.  Accepted settings are the settings that were given, and say
about polling what the numbers in them say.  And a file is loaded by what its text stands for,
which does not change for anything that is left out of a document and has its default value:
neither whether it is accepted, nor what is reported, nor the effect. -/
theorem check_exact_and_defaults_agree :
    (∀ settings : Settings,
      ((∃ accepted, settings.check = .ok accepted) ↔
          10 ≤ settings.poll.intervalMilliseconds.toNat ∧
            (settings.poll.staleAfterSeconds.toNat = 0 ∨
              settings.poll.intervalMilliseconds.toNat ≤
                1000 * settings.poll.staleAfterSeconds.toNat)) ∧
        (settings.poll.intervalMilliseconds.toNat < 10 →
          settings.check = .error (.intervalTooShort settings.poll.intervalMilliseconds)) ∧
        (10 ≤ settings.poll.intervalMilliseconds.toNat →
          settings.poll.staleAfterSeconds.toNat ≠ 0 →
          1000 * settings.poll.staleAfterSeconds.toNat <
            settings.poll.intervalMilliseconds.toNat →
          settings.check = .error (.staleBeforePoll settings.poll.staleAfterSeconds
            settings.poll.intervalMilliseconds)) ∧
        ∀ accepted, settings.check = .ok accepted →
          accepted = settings ∧
            accepted.pollOptions.interval.nanoseconds =
              settings.poll.intervalMilliseconds.toNat * 1000000 ∧
            (accepted.pollOptions.staleAfter = none ↔
              settings.poll.staleAfterSeconds.toNat = 0) ∧
            ∀ patience, accepted.pollOptions.staleAfter = some patience →
              patience.nanoseconds = settings.poll.staleAfterSeconds.toNat * 1000000000 ∧
                accepted.pollOptions.interval.nanoseconds ≤ patience.nanoseconds) ∧
      (∀ file, load file = (do
        let answer ← TaskProgram.ask (.file (.readText file))
        ExceptT.mk (pure (ofAnswer answer)))) ∧
      ∀ text shorter pairs others,
        Toml.read? text = some (.table pairs) →
        Toml.read? shorter = some (.table others) →
        Relation.ReflTransGen Omits pairs others →
        (ofText text).map effect = (ofText shorter).map effect := by
  refine ⟨fun settings => ⟨?_, check_of_lt, ?_, ?_⟩, load_eq,
    fun _ _ _ _ => map_effect_ofText⟩
  · constructor
    · rintro ⟨accepted, isAccepted⟩
      exact (check_eq_ok_iff.mp isAccepted).2
    · exact fun rules => ⟨settings, check_eq_ok_iff.mpr ⟨rfl, rules⟩⟩
  · intro longEnough given impatient
    rw [check_of_le longEnough, if_pos ⟨given, impatient⟩]
  · intro accepted isAccepted
    exact ⟨(check_eq_ok_iff.mp isAccepted).1, pollOptions_of_check_eq_ok isAccepted⟩

/-- With the longest interval the product of the patience is cut off, and one second less is
too little; and a default value that is written is as good as an empty document. -/
theorem check_exact_and_defaults_agree_sample :
    (∃ accepted,
      check ⟨LaunchSettings.default, ⟨18446744073709551615, 18446744073709552, true⟩⟩ =
        .ok accepted) ∧
      check ⟨LaunchSettings.default, ⟨18446744073709551615, 18446744073709551, true⟩⟩ =
        .error (.staleBeforePoll 18446744073709551 18446744073709551615) ∧
      (ofText "[poll]\nfs_events = true\n".toList).map effect = (ofText []).map effect := by
  obtain ⟨checks, -, documents⟩ := check_exact_and_defaults_agree
  refine ⟨(checks _).1.mpr (by decide),
    (checks _).2.2.1 (by decide) (by decide) (by decide), ?_⟩
  have isSection : ("poll".toList, PollSettings.written) ∈ written :=
    List.mem_cons_of_mem _ List.mem_cons_self
  have isDefault : ∀ entry ∈ [("fs_events".toList, Toml.Value.boolean true)],
      entry ∈ PollSettings.written :=
    List.forall_mem_singleton.mpr (List.mem_of_getLast? rfl)
  exact documents _ _ _ _ (by cbv) (by cbv) (omits_section isSection isDefault [] [])

end Settings

end DetachedTasks
