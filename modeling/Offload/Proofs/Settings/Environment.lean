import Mathlib.Data.Nat.Log
import Offload.Proofs.Settings.Numerals
import Offload.Proofs.Text.Utf8

/-!
# Settings from the environment

Every variable is read by itself. It holds a number if its octets are a text that writes one, small
enough for its field. What has been read is then checked as a whole: if every number that a
variable holds is acceptable in its field, each field has the number of its own variable or its
default, and otherwise all of them have their defaults. So a number that is not acceptable discards
the numbers of the other variables, which is seen wherever one of these is acceptable and not the
default.
-/

namespace Offload

/-- The field that a variable is for. -/
def Settings.field (settings : Settings) : Variable → Nat
  | .gpuDevice => settings.gpuDevice
  | .maxPending => settings.maxPending
  | .hostAlignment => settings.hostAlignment

/-- Whether a number is acceptable in the field of a variable. -/
def Variable.Accepts : Variable → Nat → Prop
  | .gpuDevice, _ => True
  | .maxPending, number => 0 < number
  | .hostAlignment, number => ∃ exponent, number = 2 ^ exponent

theorem isPowerOfTwo_iff {number : Nat} :
    isPowerOfTwo number = true ↔ ∃ exponent, number = 2 ^ exponent := by
  rw [isPowerOfTwo, Bool.and_eq_true, bne_iff_ne, beq_iff_eq, Nat.one_shiftLeft]
  constructor
  · rintro ⟨-, hpower⟩
    exact ⟨_, hpower⟩
  · rintro ⟨exponent, rfl⟩
    rw [Nat.log2_two_pow]
    exact ⟨Nat.ne_of_gt (Nat.two_pow_pos exponent), rfl⟩

/-- The check of settings passes if every field has an acceptable number. -/
theorem Settings.validate_eq_ok_iff {settings : Settings} :
    settings.validate = .ok () ↔ ∀ key : Variable, key.Accepts (settings.field key) := by
  have hfields : (∀ key : Variable, key.Accepts (settings.field key)) ↔
      settings.maxPending ≠ 0 ∧ isPowerOfTwo settings.hostAlignment = true := by
    rw [isPowerOfTwo_iff, ← Nat.pos_iff_ne_zero]
    constructor
    · exact fun haccepts ↦ ⟨haccepts .maxPending, haccepts .hostAlignment⟩
    · rintro ⟨hpending, halignment⟩ (_ | _ | _)
      · trivial
      · exact hpending
      · exact halignment
  rw [hfields, validate]
  by_cases hpending : settings.maxPending = 0
  · simp [hpending]
  · cases isPowerOfTwo settings.hostAlignment <;> simp [hpending]

/-- Every default is acceptable. -/
theorem Variable.accepts_default (key : Variable) : key.Accepts (({} : Settings).field key) :=
  Settings.validate_eq_ok_iff.1 (by decide) key

namespace Environment

variable {environment other : Environment} {key : Variable} {number : Nat}

/-- Whether a variable holds a number: it is set, to the octets of a text that writes a number its
field can hold. -/
def Holds (environment : Environment) (key : Variable) (number : Nat) : Prop :=
  ∃ text, environment.value? key = some (Utf8.encode text) ∧ Writes text number ∧
    number < key.limit

theorem text?_eq_some_iff {text : String} :
    environment.text? key = some text ↔ environment.value? key = some (Utf8.encode text) := by
  unfold text?
  cases environment.value? key with
  | none => simp
  | some octets =>
    rw [Option.some.injEq, ← Utf8.decode_eq_ok_iff]
    cases hdecode : Utf8.decode octets <;> simp [Except.toOption, hdecode]

theorem number?_eq_some_iff :
    (environment.number? key).1 = some number ↔ environment.Holds key number := by
  unfold number? Holds
  simp only [← text?_eq_some_iff, ← readNumber?_eq_some_iff]
  cases environment.text? key with
  | none => simp
  | some text => cases hread : readNumber? key.limit text <;> simp [hread]

theorem Holds.unique {second : Nat} (hholds : environment.Holds key number)
    (hsecond : environment.Holds key second) : number = second :=
  Option.some.inj ((number?_eq_some_iff.2 hholds).symm.trans (number?_eq_some_iff.2 hsecond))

/-- Whether all numbers that the variables hold are acceptable in their fields. -/
def Acceptable (environment : Environment) : Prop :=
  ∀ key number, environment.Holds key number → key.Accepts number

/-- What a variable alone gives its field: the number it holds, if that is acceptable, and the
default otherwise. -/
def Resolves (environment : Environment) (key : Variable) (number : Nat) : Prop :=
  (environment.Holds key number ∧ key.Accepts number) ∨
    ((∀ held, environment.Holds key held → ¬ key.Accepts held) ∧
      number = ({} : Settings).field key)

/-- The numbers that have been read, and defaults for those that have not. -/
def asRead (environment : Environment) : Settings where
  gpuDevice := (environment.number? .gpuDevice).1.getD ({} : Settings).gpuDevice
  maxPending := (environment.number? .maxPending).1.getD ({} : Settings).maxPending
  hostAlignment := (environment.number? .hostAlignment).1.getD ({} : Settings).hostAlignment

theorem field_asRead : environment.asRead.field key =
    (environment.number? key).1.getD (({} : Settings).field key) := by
  cases key <;> rfl

theorem field_asRead_of_holds (hholds : environment.Holds key number) :
    environment.asRead.field key = number := by
  rw [field_asRead, number?_eq_some_iff.2 hholds, Option.getD_some]

theorem field_asRead_of_not_holds (hnone : ∀ number, ¬ environment.Holds key number) :
    environment.asRead.field key = ({} : Settings).field key := by
  rw [field_asRead, Option.eq_none_iff_forall_ne_some.2 fun number hnumber ↦
    hnone number (number?_eq_some_iff.1 hnumber), Option.getD_none]

theorem validate_asRead_iff : environment.asRead.validate = .ok () ↔ environment.Acceptable := by
  rw [Settings.validate_eq_ok_iff]
  constructor
  · intro haccepts key number hholds
    exact field_asRead_of_holds hholds ▸ haccepts key
  · intro hacceptable key
    by_cases hheld : ∃ number, environment.Holds key number
    · obtain ⟨number, hholds⟩ := hheld
      rw [field_asRead_of_holds hholds]
      exact hacceptable key number hholds
    · rw [field_asRead_of_not_holds (not_exists.1 hheld)]
      exact key.accepts_default

theorem settings_of_acceptable (hacceptable : environment.Acceptable) :
    environment.settings.1 = environment.asRead := by
  have hvalid := validate_asRead_iff.2 hacceptable
  unfold asRead at hvalid ⊢
  simp only [settings, hvalid]

theorem settings_of_not_acceptable (hunacceptable : ¬ environment.Acceptable) :
    environment.settings.1 = {} := by
  have hinvalid := mt validate_asRead_iff.1 hunacceptable
  unfold asRead at hinvalid
  unfold settings
  dsimp only
  split
  · next hvalid => exact absurd hvalid hinvalid
  · rfl

/-- Where all numbers held are acceptable, what was read of a variable is what it resolves to. -/
theorem resolves_asRead_iff (hacceptable : environment.Acceptable) :
    environment.Resolves key number ↔ environment.asRead.field key = number := by
  by_cases hheld : ∃ held, environment.Holds key held
  · obtain ⟨held, hholds⟩ := hheld
    rw [field_asRead_of_holds hholds]
    constructor
    · rintro (⟨hnumber, -⟩ | ⟨hnone, -⟩)
      · exact hholds.unique hnumber
      · exact absurd (hacceptable key held hholds) (hnone held hholds)
    · rintro rfl
      exact .inl ⟨hholds, hacceptable key held hholds⟩
  · have hnone := not_exists.1 hheld
    rw [field_asRead_of_not_holds hnone]
    constructor
    · rintro (⟨hnumber, -⟩ | ⟨-, rfl⟩)
      · exact absurd hnumber (hnone number)
      · rfl
    · rintro rfl
      exact .inr ⟨fun held hholds ↦ absurd hholds (hnone held), rfl⟩

/-- Whether a variable holds a number is a matter of that variable alone. -/
theorem resolves_congr (hvalue : other.value? key = environment.value? key) :
    other.Resolves key number ↔ environment.Resolves key number := by
  simp only [Resolves, Holds, hvalue]

/-- If all numbers held are acceptable, every field has the number of its own variable, or its
default. Otherwise every field has its default, whatever its own variable holds. So each variable
is resolved by itself in exactly the environments where all numbers are acceptable, and those where
every number that is acceptable is the default anyway; between environments of the first kind, a
field differs only with its own variable. -/
theorem settings_resolved_together (environment : Environment) :
    (environment.Acceptable →
        ∀ key, environment.Resolves key (environment.settings.1.field key)) ∧
      (¬ environment.Acceptable → environment.settings.1 = {}) ∧
      ((∀ key, environment.Resolves key (environment.settings.1.field key)) ↔
        environment.Acceptable ∨ ∀ key number, environment.Holds key number →
          key.Accepts number → number = ({} : Settings).field key) ∧
      (environment.Acceptable → ∀ other : Environment, other.Acceptable → ∀ key,
        other.value? key = environment.value? key →
          other.settings.1.field key = environment.settings.1.field key) := by
  have hresolves {environment : Environment} (hacceptable : environment.Acceptable)
      (key : Variable) : environment.Resolves key (environment.settings.1.field key) := by
    rw [resolves_asRead_iff hacceptable, settings_of_acceptable hacceptable]
  refine ⟨hresolves, settings_of_not_acceptable, ⟨?_, ?_⟩, ?_⟩
  · intro hevery
    by_cases hacceptable : environment.Acceptable
    · exact .inl hacceptable
    · refine .inr fun key number hholds haccepts ↦ ?_
      have hfield := hevery key
      rw [settings_of_not_acceptable hacceptable] at hfield
      rcases hfield with ⟨hdefault, -⟩ | ⟨hnone, -⟩
      · exact hholds.unique hdefault
      · exact absurd haccepts (hnone number hholds)
  · rintro (hacceptable | hdefaults) key
    · exact hresolves hacceptable key
    · by_cases hacceptable : environment.Acceptable
      · exact hresolves hacceptable key
      · rw [settings_of_not_acceptable hacceptable]
        by_cases hheld : ∃ number, environment.Holds key number ∧ key.Accepts number
        · obtain ⟨number, hholds, haccepts⟩ := hheld
          obtain rfl := hdefaults key number hholds haccepts
          exact .inl ⟨hholds, haccepts⟩
        · exact .inr ⟨fun held hholds haccepts ↦ hheld ⟨held, hholds, haccepts⟩, rfl⟩
  · intro hacceptable other hother key hvalue
    have hown := (resolves_congr hvalue).1 (hresolves hother key)
    rw [resolves_asRead_iff hacceptable, ← settings_of_acceptable hacceptable] at hown
    exact hown.symm

/-- An environment in which one number is below its limit, one has a sign and blanks, and the third
variable holds no number. -/
theorem settings_resolved_together_mixed :
    let environment : Environment := ⟨fun
      | .gpuDevice => some [0x33]
      | .maxPending => some [0x20, 0x2b, 0x38, 0x0a]
      | .hostAlignment => some [0x79]⟩
    environment.Acceptable ∧
      ∀ key, environment.Resolves key (environment.settings.1.field key) := by
  intro environment
  have hacceptable : environment.Acceptable := by
    intro key number hholds
    rw [← number?_eq_some_iff] at hholds
    cases key with
    | gpuDevice => trivial
    | maxPending =>
      obtain rfl : 8 = number := Option.some.inj hholds
      exact Nat.succ_pos 7
    | hostAlignment => exact absurd hholds (Option.some_ne_none number).symm
  exact ⟨hacceptable, (settings_resolved_together environment).1 hacceptable⟩

/-- A number that is not acceptable discards a number of another variable that is. -/
theorem settings_discards_acceptable :
    let environment : Environment := ⟨fun
      | .gpuDevice => some [0x33]
      | .maxPending => some [0x30]
      | .hostAlignment => none⟩
    environment.Holds .gpuDevice 3 ∧ Variable.gpuDevice.Accepts 3 ∧
      environment.settings.1.field .gpuDevice = 0 :=
  ⟨number?_eq_some_iff.1 rfl, trivial, by decide⟩

end Environment

end Offload
