import Offload.Proofs.Tracker.Registrations
import Mathlib.Tactic.Choose

/-!
# Classes of addresses

The tracker of a client classifies an address by the innermost of the registrations that the client
retains and that cover the address. There is at most one such registration, as two that start at the
same address differ in when they were asked for. Neither the order in which registrations are given
up nor the way their ranges overlap makes a difference.
-/

namespace Offload

variable {steps : List RangeStep} {client : RangeClient} {address : Nat}
  {registration other : Registration}

/-- The start and the size of a range that is asked for are machine words. -/
def RangeStep.InWords : RangeStep → Prop
  | track start size _ => start < wordLimit ∧ size < wordLimit
  | _ => True

instance (step : RangeStep) : Decidable step.InWords := by
  unfold RangeStep.InWords
  cases step <;> infer_instance

theorem Retains.size_lt (hretains : Retains steps registration)
    (hwords : ∀ step ∈ steps, step.InWords) : registration.size < wordLimit := by
  obtain ⟨before, after, rfl, -⟩ := hretains
  have hstep : (RangeStep.track registration.start registration.size registration.kind).InWords :=
    hwords _ (List.mem_append_right _ List.mem_cons_self)
  exact hstep.2

theorem Innermost.eq (hleft : Innermost steps address registration)
    (hright : Innermost steps address other) : other = registration := by
  rcases hleft.within other hright.retains hright.covers with heq | hwithin
  · exact heq
  · rcases hright.within registration hleft.retains hleft.covers with heq | hwithin'
    · exact heq.symm
    · rw [Registration.Within] at hwithin hwithin'
      omega

namespace Mirrors

/-- Every range of the tracker is that of a registration that is retained. -/
theorem retained (hmirrors : Mirrors steps client) {range : TrackedRange} {position : Nat}
    (hrange : range ∈ client.tracker.ranges)
    (hposition : client.held[position]? = some (some range.number)) :
    Retains steps ⟨position, range.start, range.size, range.kind⟩ :=
  hmirrors.held.2 ⟨range.number, hposition, hrange⟩

/-- The order of the tracker is that of the registrations. -/
theorem within_of_before (hmirrors : Mirrors steps client) {number found : Nat}
    (hnumber : client.held[registration.position]? = some (some number))
    (hfound : client.held[other.position]? = some (some found))
    (hbefore : (registration.range number).Before (other.range found)) :
    registration.Within other := by
  rw [TrackedRange.before_iff] at hbefore
  rcases hbefore with hstart | ⟨hstart, hless⟩
  · exact .inl hstart
  · refine .inr ⟨hstart, Nat.lt_of_not_le fun hle ↦ ?_⟩
    have hless : found < number := hless
    rcases Nat.lt_or_eq_of_le hle with hearlier | hsame
    · exact Nat.lt_asymm hless (hmirrors.ascending hearlier hnumber hfound)
    · rw [hsame, hfound] at hnumber
      exact Nat.ne_of_lt hless (Option.some.inj (Option.some.inj hnumber))

/-- The client still has a registration at a position exactly if one is retained there. -/
theorem holding_iff (hmirrors : Mirrors steps client) (position : Nat) :
    (∃ number, client.held[position]? = some (some number)) ↔
      ∃ registration, Retains steps registration ∧ registration.position = position := by
  constructor
  · rintro ⟨number, hposition⟩
    obtain ⟨range, hrange, rfl⟩ := hmirrors.present hposition
    exact ⟨_, hmirrors.retained hrange hposition, rfl⟩
  · rintro ⟨registration, hretains, rfl⟩
    obtain ⟨number, hnumber, -⟩ := hmirrors.held.1 hretains
    exact ⟨number, hnumber⟩

/-- The tracker has one range for each registration that is retained. -/
theorem size_eq (hmirrors : Mirrors steps client) :
    ∃ retained : List Registration, retained.Nodup ∧
      (∀ registration, registration ∈ retained ↔ Retains steps registration) ∧
        client.tracker.size = retained.length := by
  choose! position hposition using hmirrors.owned
  refine ⟨client.tracker.ranges.map fun range ↦
    ⟨position range, range.start, range.size, range.kind⟩, ?_, ?_, ?_⟩
  · refine List.Nodup.map_on ?_ hmirrors.sorted.nodup
    rintro ⟨start, number, size, kind⟩ hleft ⟨start', number', size', kind'⟩ hright hsame
    obtain ⟨hsame, rfl, rfl, rfl⟩ := Registration.mk.inj hsame
    have hnumber := hposition _ hleft
    rw [hsame, hposition _ hright] at hnumber
    obtain rfl : number' = number := Option.some.inj (Option.some.inj hnumber)
    rfl
  · intro registration
    rw [List.mem_map]
    constructor
    · rintro ⟨range, hrange, rfl⟩
      exact hmirrors.retained hrange (hposition range hrange)
    · intro hretains
      obtain ⟨number, hnumber, hrange⟩ := hmirrors.held.1 hretains
      refine ⟨_, hrange, ?_⟩
      have hsame := hmirrors.position_eq (hposition _ hrange) hnumber
      rw [hsame]
      rfl
  · rw [List.length_map]
    rfl

/-- Where a registration that is retained covers an address, the range that decides is that of the
innermost one. -/
theorem exists_deciding (hmirrors : Mirrors steps client) (hretains : Retains steps registration)
    (hcovers : registration.Covers address) :
    ∃ inner number, Innermost steps address inner ∧
      client.tracker.deciding? address = some (inner.range number) := by
  obtain ⟨number, -, hrange⟩ := hmirrors.held.1 hretains
  have hreached : (registration.range number).Covers address := hcovers
  obtain ⟨found, hfound, hreaches, hinnermost⟩ := hmirrors.sorted.exists_innermost hrange hreached
  obtain ⟨position, hposition⟩ := hmirrors.owned found hfound
  refine ⟨⟨position, found.start, found.size, found.kind⟩, found.number, ⟨?_, hreaches, ?_⟩, ?_⟩
  · exact hmirrors.retained hfound hposition
  · intro other hother hother'
    obtain ⟨number', hnumber', hrange'⟩ := hmirrors.held.1 hother
    rcases hinnermost (other.range number') hrange' hother' with rfl | hbefore
    · left
      have hsame : other.position = position := hmirrors.position_eq hnumber' hposition
      rw [← hsame]
      rfl
    · exact .inr (hmirrors.within_of_before hposition hnumber' hbefore)
  · exact hmirrors.sorted.deciding?_eq_some hfound hreaches hinnermost

theorem existsUnique_innermost (hmirrors : Mirrors steps client)
    (hretains : Retains steps registration) (hcovers : registration.Covers address) :
    ∃! inner, Innermost steps address inner := by
  obtain ⟨inner, -, hinner, -⟩ := hmirrors.exists_deciding hretains hcovers
  exact ⟨inner, hinner, fun other hother ↦ hinner.eq hother⟩

/-- The innermost registration decides the class of an address. -/
theorem classify_eq (hmirrors : Mirrors steps client)
    (hinnermost : Innermost steps address registration) :
    client.tracker.classify address = registration.kind := by
  obtain ⟨inner, number, hinner, hdeciding⟩ :=
    hmirrors.exists_deciding hinnermost.retains hinnermost.covers
  obtain rfl : inner = registration := hinnermost.eq hinner
  have haddress : address ≠ 0 := by
    obtain ⟨-, -, -, -, hstart, -⟩ := hinnermost.retains
    have hcovers := hinnermost.covers.1
    omega
  rw [RangeTracker.classify, if_neg haddress, hdeciding]
  rfl

/-- Where no registration that is retained covers an address, its class is not known. -/
theorem classify_eq_unknown (hmirrors : Mirrors steps client)
    (hnone : ∀ registration, Retains steps registration → ¬registration.Covers address) :
    client.tracker.classify address = .unknown := by
  have hdeciding : client.tracker.deciding? address = none := by
    refine hmirrors.sorted.deciding?_eq_none fun range hrange ↦ ?_
    obtain ⟨position, hposition⟩ := hmirrors.owned range hrange
    exact hnone _ (hmirrors.retained hrange hposition)
  rw [RangeTracker.classify, hdeciding]
  exact ite_self _

/-- The search for an address may be done on machine words. -/
theorem find?_reachesWord (hmirrors : Mirrors steps client)
    (hwords : ∀ step ∈ steps, step.InWords) (haddress : address < wordLimit) :
    (client.tracker.candidates address).find? (·.reachesWord address) =
      client.tracker.deciding? address := by
  have hdeciding : client.tracker.deciding? address =
      (client.tracker.candidates address).find? (·.reaches address) := rfl
  rw [hdeciding, ← List.head?_filter, ← List.head?_filter]
  refine congrArg List.head? (List.filter_congr fun range hrange ↦ ?_)
  have hstart := hmirrors.sorted.start_le hrange
  have hmem : range ∈ client.tracker.ranges := (List.dropWhile_sublist _).mem hrange
  obtain ⟨position, hposition⟩ := hmirrors.owned range hmem
  have hsize := (hmirrors.retained hmem hposition).size_lt hwords
  rw [Bool.eq_iff_iff, TrackedRange.reachesWord_iff_covers hstart haddress hsize,
    TrackedRange.reaches_iff_covers hstart]

end Mirrors

/-- After any steps in machine words, fewer than there are numbers, a client has exactly the
registrations that are retained, and its tracker one range for each of them under a number that is a
word. The tracker gives an address the kind of the innermost registration that covers it, of which
there is exactly one if any covers it, and knows no class for other addresses and for the null address.
The ranges its search looks at start at or below the address, so differences of words decide it. -/
theorem classify_innermost (steps : List RangeStep) (hfew : requests steps < wordLimit)
    (hwords : ∀ step ∈ steps, step.InWords) :
    let client := RangeClient.run {} steps
    (∀ position, (∃ number, client.held[position]? = some (some number)) ↔
      ∃ registration, Retains steps registration ∧ registration.position = position) ∧
    (∃ retained : List Registration, retained.Nodup ∧
      (∀ registration, registration ∈ retained ↔ Retains steps registration) ∧
        client.tracker.size = retained.length) ∧
    (client.tracker.nextNumber < wordLimit ∧
      ∀ range ∈ client.tracker.ranges, range.number < client.tracker.nextNumber) ∧
    ∀ address,
      (∀ registration, Innermost steps address registration →
        client.tracker.classify address = registration.kind) ∧
      ((∃ registration, Retains steps registration ∧ registration.Covers address) →
        ∃! registration, Innermost steps address registration) ∧
      ((∀ registration, Retains steps registration → ¬registration.Covers address) ∨
        address = 0 → client.tracker.classify address = .unknown) ∧
      (∀ range ∈ client.tracker.candidates address, range.start ≤ address) ∧
      (address < wordLimit →
        (client.tracker.candidates address).find? (·.reachesWord address) =
          client.tracker.deciding? address) := by
  intro client
  have hmirrors : Mirrors steps client := Mirrors.run steps
  refine ⟨hmirrors.holding_iff, hmirrors.size_eq, ⟨Nat.lt_of_le_of_lt hmirrors.few hfew,
    fun range hrange ↦ hmirrors.number_lt hrange⟩, fun address ↦ ⟨?_, ?_, ?_, ?_, ?_⟩⟩
  · exact fun registration hinnermost ↦ hmirrors.classify_eq hinnermost
  · rintro ⟨registration, hretains, hcovers⟩
    exact hmirrors.existsUnique_innermost hretains hcovers
  · rintro (hnone | rfl)
    · exact hmirrors.classify_eq_unknown hnone
    · rfl
  · exact fun range hrange ↦ hmirrors.sorted.start_le hrange
  · exact hmirrors.find?_reachesWord hwords

/-- A null range, two ranges from one address, a third inside the first, and one that ends past the
last address. The second is given up, and then once more. -/
def overlapping : List RangeStep :=
  [.track 0 16 .shared, .track 4096 256 .shared, .track 4096 64 .device, .track 4128 16 .device,
    .track (wordLimit - 32) 64 .device, .drop 2, .drop 2]

theorem classify_overlapping :
    requests overlapping < wordLimit ∧ (∀ step ∈ overlapping, step.InWords) ∧
      let tracker := (RangeClient.run {} overlapping).tracker
      (∃! registration, Innermost overlapping 4100 registration) ∧
        tracker.classify 4100 = .shared ∧ tracker.classify 4130 = .device ∧
          tracker.classify 4200 = .shared ∧ tracker.classify (wordLimit - 1) = .device ∧
            tracker.classify 16 = .unknown ∧ tracker.size = 3 := by
  have hfew : requests overlapping < wordLimit := by decide
  have hwords : ∀ step ∈ overlapping, step.InWords := by decide
  obtain ⟨-, -, -, hclasses⟩ := classify_innermost overlapping hfew hwords
  refine ⟨hfew, hwords, (hclasses 4100).2.1 ⟨⟨1, 4096, 256, .shared⟩, ?_, by decide, by decide⟩, ?_⟩
  · exact ⟨[.track 0 16 .shared], _, rfl, rfl, by decide, by decide, by decide⟩
  · decide

end Offload
