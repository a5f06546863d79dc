import Offload.Proofs.Settings.Environment

/-!
# Warnings about the environment

Reading the settings from the environment warns of what it does not adopt. A text that is no number
for its variable has a warning of its own. A number that is discarded together with all the others
has the warning that is about the settings as a whole. There are no other warnings.

What is asserted is about texts only: octets that are no text are as good as not set, and nothing is
said about them.
-/

namespace Offload

/-- The warning about a text that is no number for its variable. -/
def Variable.unread (key : Variable) (text : String) : Event :=
  ⟨.warn, s!"Ignoring {key.name}={Quoted.quote text}: not a valid value", []⟩

/-- The warning about settings that have been read and do not pass their check. -/
def Settings.discarded (failure : Failure) : Event :=
  ⟨.warn, s!"Ignoring invalid HCRT environment configuration: {failure.message}", []⟩

theorem Variable.default_lt_limit (key : Variable) : ({} : Settings).field key < key.limit := by
  cases key <;> decide

namespace Environment

variable {environment other : Environment} {key : Variable} {number : Nat} {text : String}
  {event : Event}

/-- Whether the settings adopt a variable: it is set, to a text that writes a number, and this is
the number in its field. -/
def Adopts (environment : Environment) (key : Variable) : Prop :=
  ∃ text, environment.value? key = some (Utf8.encode text) ∧
    Writes text (environment.settings.1.field key)

/-! ## What is adopted -/

/-- Every field of the settings has a number that it can hold. -/
theorem field_settings_lt_limit (environment : Environment) (key : Variable) :
    environment.settings.1.field key < key.limit := by
  by_cases hacceptable : environment.Acceptable
  · rw [settings_of_acceptable hacceptable]
    by_cases hheld : ∃ number, environment.Holds key number
    · obtain ⟨number, text, hvalue, hwrites, hlimit⟩ := hheld
      rwa [field_asRead_of_holds ⟨text, hvalue, hwrites, hlimit⟩]
    · rw [field_asRead_of_not_holds (not_exists.1 hheld)]
      exact key.default_lt_limit
  · rw [settings_of_not_acceptable hacceptable]
    exact key.default_lt_limit

/-- A variable that is adopted holds the number in its field. -/
theorem adopts_iff_holds :
    environment.Adopts key ↔ environment.Holds key (environment.settings.1.field key) := by
  constructor
  · rintro ⟨text, hvalue, hwrites⟩
    exact ⟨text, hvalue, hwrites, environment.field_settings_lt_limit key⟩
  · rintro ⟨text, hvalue, hwrites, -⟩
    exact ⟨text, hvalue, hwrites⟩

theorem Acceptable.adopts (hacceptable : environment.Acceptable)
    (hholds : environment.Holds key number) : environment.Adopts key := by
  rwa [adopts_iff_holds, settings_of_acceptable hacceptable, field_asRead_of_holds hholds]

/-- Where the numbers held are discarded, one of them is not adopted: the one that is not acceptable
cannot be the default. -/
theorem exists_not_adopts (hunacceptable : ¬ environment.Acceptable) :
    ∃ key number, environment.Holds key number ∧ ¬ environment.Adopts key := by
  obtain ⟨key, number, hholds, hrefused⟩ :
      ∃ key number, environment.Holds key number ∧ ¬ key.Accepts number := by
    simpa [Acceptable] using hunacceptable
  refine ⟨key, number, hholds, fun hadopts ↦ hrefused ?_⟩
  rw [adopts_iff_holds, settings_of_not_acceptable hunacceptable] at hadopts
  rw [hholds.unique hadopts]
  exact key.accepts_default

/-! ## The warnings there are -/

theorem mem_number?_iff : event ∈ (environment.number? key).2 ↔
    ∃ text, environment.value? key = some (Utf8.encode text) ∧
      (∀ number, ¬ environment.Holds key number) ∧ event = key.unread text := by
  simp only [← text?_eq_some_iff, ← number?_eq_some_iff]
  unfold number?
  cases environment.text? key with
  | none => simp
  | some text =>
    cases hread : readNumber? key.limit text <;> simp [hread, Variable.unread]

/-- What has been read of the variables is warned about first, and then what comes of it. -/
theorem settings_snd (environment : Environment) :
    environment.settings.2 = (environment.number? .gpuDevice).2 ++
      (environment.number? .maxPending).2 ++ (environment.number? .hostAlignment).2 ++
        match environment.asRead.validate with
        | .ok () => []
        | .error failure => [Settings.discarded failure] := by
  let warnings := (environment.number? .gpuDevice).2 ++ (environment.number? .maxPending).2 ++
    (environment.number? .hostAlignment).2
  show (match environment.asRead.validate with
    | .ok () => (environment.asRead, warnings)
    | .error failure => ({}, warnings ++ [Settings.discarded failure])).2 = _
  cases environment.asRead.validate with
  | ok => exact (List.append_nil _).symm
  | error failure => rfl

theorem mem_settings_iff : event ∈ environment.settings.2 ↔
    (∃ key text, environment.value? key = some (Utf8.encode text) ∧
      (∀ number, ¬ environment.Holds key number) ∧ event = key.unread text) ∨
    ∃ failure, environment.asRead.validate = .error failure ∧
      event = Settings.discarded failure := by
  have hread : (∃ key, event ∈ (environment.number? key).2) ↔
      event ∈ (environment.number? .gpuDevice).2 ++ (environment.number? .maxPending).2 ++
        (environment.number? .hostAlignment).2 := by
    rw [List.mem_append, List.mem_append]
    constructor
    · rintro ⟨_ | _ | _, hmem⟩
      · exact .inl (.inl hmem)
      · exact .inl (.inr hmem)
      · exact .inr hmem
    · rintro ((hmem | hmem) | hmem)
      · exact ⟨_, hmem⟩
      · exact ⟨_, hmem⟩
      · exact ⟨_, hmem⟩
  rw [settings_snd, List.mem_append, ← hread]
  simp only [mem_number?_iff]
  refine or_congr_right ?_
  cases environment.asRead.validate <;> simp

/-- The settings as a whole are warned about if they are discarded. -/
theorem exists_discarded_iff :
    (∃ failure, Settings.discarded failure ∈ environment.settings.2 ∧
      environment.asRead.validate = .error failure) ↔ ¬ environment.Acceptable := by
  rw [← validate_asRead_iff]
  constructor
  · rintro ⟨failure, -, hinvalid⟩ hvalid
    exact absurd (hinvalid.symm.trans hvalid) (by simp)
  · intro hinvalid
    cases hvalidate : environment.asRead.validate with
    | error failure => exact ⟨failure, mem_settings_iff.2 (.inr ⟨failure, hvalidate, rfl⟩), rfl⟩
    | ok => exact absurd hvalidate hinvalid

/-! ## Octets that are no text -/

/-- The settings and the warnings are a matter of the texts that variables are set to. -/
theorem settings_congr (htexts : ∀ key text, other.value? key = some (Utf8.encode text) ↔
    environment.value? key = some (Utf8.encode text)) :
    other.settings = environment.settings := by
  have hnumber (key : Variable) : other.number? key = environment.number? key := by
    have htext : other.text? key = environment.text? key := by
      apply Option.ext
      intro text
      rw [text?_eq_some_iff, text?_eq_some_iff, htexts]
    unfold number?
    rw [htext]
  unfold settings
  simp only [hnumber]

/-! ## No text is lost without a warning -/

/-- A text that is not adopted is warned about: by itself if it is no number for its variable, and
with all the numbers otherwise. -/
theorem warned_of_not_adopts (hvalue : environment.value? key = some (Utf8.encode text))
    (hnot : ¬ environment.Adopts key) :
    ((∀ number, ¬ environment.Holds key number) ∧ key.unread text ∈ environment.settings.2) ∨
      (∃ number, environment.Holds key number) ∧ ¬ environment.Acceptable ∧
        ∃ failure, Settings.discarded failure ∈ environment.settings.2 := by
  by_cases hheld : ∃ number, environment.Holds key number
  · have hunacceptable : ¬ environment.Acceptable := fun hacceptable ↦
      hheld.elim fun _ hholds ↦ hnot (hacceptable.adopts hholds)
    obtain ⟨failure, hmem, -⟩ := exists_discarded_iff.2 hunacceptable
    exact .inr ⟨hheld, hunacceptable, failure, hmem⟩
  · have hnone := not_exists.1 hheld
    exact .inl ⟨hnone, mem_settings_iff.2 (.inl ⟨key, text, hvalue, hnone, rfl⟩)⟩

/-- Whatever is warned about has not been adopted. -/
theorem not_adopts_of_warned (hmem : event ∈ environment.settings.2) :
    event.level = .warn ∧
      ((∃ key text, environment.value? key = some (Utf8.encode text) ∧
          ¬ environment.Adopts key ∧ event = key.unread text) ∨
        ∃ key number failure, environment.Holds key number ∧ ¬ environment.Adopts key ∧
          event = Settings.discarded failure) := by
  rcases mem_settings_iff.1 hmem with ⟨key, text, hvalue, hnone, rfl⟩ | ⟨failure, hinvalid, rfl⟩
  · exact ⟨rfl, .inl ⟨key, text, hvalue, fun hadopts ↦ hnone _ (adopts_iff_holds.1 hadopts), rfl⟩⟩
  · obtain ⟨key, number, hholds, hnot⟩ :=
      exists_not_adopts (exists_discarded_iff.1 ⟨failure, hmem, hinvalid⟩)
    exact ⟨rfl, .inr ⟨key, number, failure, hholds, hnot, rfl⟩⟩

theorem settings_snd_eq_nil_iff : environment.settings.2 = [] ↔ ∀ key text,
    environment.value? key = some (Utf8.encode text) → environment.Adopts key := by
  rw [List.eq_nil_iff_forall_not_mem]
  constructor
  · intro hnone key text hvalue
    by_contra hnot
    rcases warned_of_not_adopts hvalue hnot with ⟨-, hmem⟩ | ⟨-, -, failure, hmem⟩
    · exact hnone _ hmem
    · exact hnone _ hmem
  · intro hadopts event hmem
    rcases (not_adopts_of_warned hmem).2 with ⟨key, text, hvalue, hnot, -⟩ |
      ⟨key, number, failure, ⟨text, hvalue, -⟩, hnot, -⟩
    · exact hnot (hadopts key text hvalue)
    · exact hnot (hadopts key text hvalue)

/-- There is no warning exactly if every variable that is set to a text is adopted, so in particular
if every variable that is set at all is adopted.

A text that is not adopted is warned about: if it is no number for its variable, by a warning that
names the variable and quotes the text, and if it is one, by the warning that all numbers have been
discarded. Only such warnings are given. Octets that are no text are as good as not set, for the
settings and for the warnings. -/
theorem settings_warn_of_lost_texts (environment : Environment) :
    (environment.settings.2 = [] ↔ ∀ key text,
        environment.value? key = some (Utf8.encode text) → environment.Adopts key) ∧
      ((∀ key, (environment.value? key).isSome → environment.Adopts key) →
        environment.settings.2 = []) ∧
      (∀ key text, environment.value? key = some (Utf8.encode text) → ¬ environment.Adopts key →
        ((∀ number, ¬ environment.Holds key number) ∧ key.unread text ∈ environment.settings.2) ∨
          (∃ number, environment.Holds key number) ∧ ¬ environment.Acceptable ∧
            ∃ failure, Settings.discarded failure ∈ environment.settings.2) ∧
      (∀ event ∈ environment.settings.2, event.level = .warn ∧
        ((∃ key text, environment.value? key = some (Utf8.encode text) ∧
            ¬ environment.Adopts key ∧ event = key.unread text) ∨
          ∃ key number failure, environment.Holds key number ∧ ¬ environment.Adopts key ∧
            event = Settings.discarded failure)) ∧
      ∀ other : Environment, (∀ key text, other.value? key = some (Utf8.encode text) ↔
        environment.value? key = some (Utf8.encode text)) →
          other.settings = environment.settings := by
  refine ⟨settings_snd_eq_nil_iff, fun hadopts ↦ ?_, fun _ _ ↦ warned_of_not_adopts,
    fun _ ↦ not_adopts_of_warned, fun _ ↦ settings_congr⟩
  refine settings_snd_eq_nil_iff.2 fun key text hvalue ↦ hadopts key ?_
  rw [hvalue, Option.isSome_some]

/-- A variable that is set to an octet that is no text is not adopted, and there is no warning. -/
theorem settings_silent_on_octets :
    let environment : Environment := ⟨fun
      | .gpuDevice => some [0xff]
      | .maxPending => none
      | .hostAlignment => none⟩
    (environment.value? .gpuDevice).isSome ∧ ¬ environment.Adopts .gpuDevice ∧
      environment.settings.2 = [] := by
  intro environment
  refine ⟨rfl, fun hadopts ↦ ?_, by decide⟩
  have hnone : (environment.number? .gpuDevice).1 = none := rfl
  rw [number?_eq_some_iff.2 (adopts_iff_holds.1 hadopts)] at hnone
  exact absurd hnone (Option.some_ne_none _)

end Environment

end Offload
