import Offload.Proofs.Tracker.Search
import Mathlib.Data.List.Induction

/-!
# Registrations of a client

A client asks a tracker for registrations and gives them up in any order. What is left at the end can
be told from the steps alone: a registration is held if its range is neither null nor empty and it
has not been given up since. The tracker has exactly the ranges of these, and an address has the class
of the innermost one that covers it.
-/

namespace Offload

/-- A registration that a client has asked for: how many it had asked for before, the range and its
kind. -/
structure Registration where
  position : Nat
  start : Nat
  size : Nat
  kind : AllocationKind
  deriving DecidableEq, Repr

namespace Registration

/-- A registration covers the addresses from its start up to its end, wherever that end lies. -/
def Covers (registration : Registration) (address : Nat) : Prop :=
  registration.start ≤ address ∧ address < registration.start + registration.size

/-- A registration lies further in than another: it starts later, or at the same address and has been
asked for later. -/
def Within (inner outer : Registration) : Prop :=
  outer.start < inner.start ∨ outer.start = inner.start ∧ outer.position < inner.position

/-- The range of a registration under its number. -/
def range (registration : Registration) (number : Nat) : TrackedRange :=
  ⟨registration.start, number, registration.size, registration.kind⟩

end Registration

/-- Whether a step asks for a registration. -/
def RangeStep.asks : RangeStep → Bool
  | track _ _ _ => true
  | _ => false

/-- How many registrations some steps ask for. -/
def requests (steps : List RangeStep) : Nat := steps.countP RangeStep.asks

/-- A registration that some steps have asked for, that is neither null nor empty, and that has not
been given up since. -/
def Retains (steps : List RangeStep) (registration : Registration) : Prop :=
  ∃ before after, steps = before ++
      .track registration.start registration.size registration.kind :: after ∧
    requests before = registration.position ∧ registration.start ≠ 0 ∧ registration.size ≠ 0 ∧
    .drop registration.position ∉ after

/-- The innermost of the registrations that are held and cover an address. -/
structure Innermost (steps : List RangeStep) (address : Nat) (registration : Registration) :
    Prop where
  retains : Retains steps registration
  covers : registration.Covers address
  within : ∀ other, Retains steps other → other.Covers address →
    other = registration ∨ registration.Within other

variable {steps : List RangeStep} {registration : Registration}

/-! ## One step more -/

theorem requests_concat (steps : List RangeStep) (step : RangeStep) :
    requests (steps ++ [step]) = requests steps + if step.asks then 1 else 0 := by
  simp [requests, List.countP_append, List.countP_singleton]

theorem Retains.position_lt (hretains : Retains steps registration) :
    registration.position < requests steps := by
  obtain ⟨before, after, rfl, hposition, -⟩ := hretains
  rw [← hposition, requests, requests, List.countP_append, List.countP_cons_of_pos rfl]
  omega

/-- What is held after one step more has been held before and is not given up by the step, or is what
the step asks for. -/
theorem retains_concat_iff (steps : List RangeStep) (step : RangeStep) :
    Retains (steps ++ [step]) registration ↔
      (Retains steps registration ∧ step ≠ .drop registration.position) ∨
        step = .track registration.start registration.size registration.kind ∧
          requests steps = registration.position ∧ registration.start ≠ 0 ∧
            registration.size ≠ 0 := by
  constructor
  · rintro ⟨before, after, hsteps, hposition, hstart, hsize, hkept⟩
    rcases List.eq_nil_or_concat after with rfl | ⟨rest, last, rfl⟩
    · obtain ⟨rfl, hlast⟩ := List.append_inj' hsteps rfl
      exact .inr ⟨List.singleton_injective hlast, hposition, hstart, hsize⟩
    · rw [List.concat_eq_append] at hsteps hkept
      have hsplit : steps ++ [step] = (before ++
          .track registration.start registration.size registration.kind :: rest) ++ [last] := by
        rw [hsteps, List.append_assoc, List.cons_append]
      obtain ⟨rfl, hlast⟩ := List.append_inj' hsplit rfl
      obtain rfl := List.singleton_injective hlast
      refine .inl ⟨⟨before, rest, rfl, hposition, hstart, hsize, ?_⟩, ?_⟩
      · exact fun hdropped ↦ hkept (List.mem_append_left _ hdropped)
      · exact fun hdrop ↦ hkept (List.mem_append_right _ (hdrop ▸ List.mem_singleton_self _))
  · rintro (⟨⟨before, after, rfl, hposition, hstart, hsize, hkept⟩, hstep⟩ |
      ⟨rfl, hposition, hstart, hsize⟩)
    · refine ⟨before, after ++ [step], by simp, hposition, hstart, hsize, ?_⟩
      intro hdropped
      rcases List.mem_append.1 hdropped with hdropped | hdropped
      · exact hkept hdropped
      · exact hstep (List.mem_singleton.1 hdropped).symm
    · exact ⟨steps, [], rfl, hposition, hstart, hsize, List.not_mem_nil⟩

/-! ## The tracker of a client -/

namespace RangeClient

/-- A client after some steps. -/
def run (client : RangeClient) (steps : List RangeStep) : RangeClient :=
  steps.foldl (fun client step ↦ (client.step step).1) client

theorem run_concat (client : RangeClient) (steps : List RangeStep) (step : RangeStep) :
    client.run (steps ++ [step]) = ((client.run steps).step step).1 := by
  rw [run, List.foldl_concat, run]

end RangeClient

/-- What a client holds at a position when it has asked for one thing more. -/
theorem getElem?_concat_eq_some_iff {held : List (Option Nat)} {last : Option Nat}
    {position number : Nat} :
    (held ++ [last])[position]? = some (some number) ↔
      held[position]? = some (some number) ∨ position = held.length ∧ last = some number := by
  rcases Nat.lt_trichotomy position held.length with hless | rfl | hmore
  · rw [List.getElem?_append_left hless]
    simp [Nat.ne_of_lt hless]
  · simp
  · rw [List.getElem?_eq_none (by simpa using Nat.succ_le_of_lt hmore),
      List.getElem?_eq_none (Nat.le_of_lt hmore)]
    simp [Nat.ne_of_gt hmore]

/-- A client whose tracker has the ranges of the registrations that are held, under numbers that ascend
with their positions. -/
structure Mirrors (steps : List RangeStep) (client : RangeClient) : Prop where
  asked : client.held.length = requests steps
  few : client.tracker.nextNumber ≤ requests steps
  sorted : client.tracker.Sorted
  numbered : ∀ {position number : Nat}, client.held[position]? = some (some number) →
    number < client.tracker.nextNumber
  ascending : ∀ {earlier later number other : Nat}, earlier < later →
    client.held[earlier]? = some (some number) → client.held[later]? = some (some other) →
      number < other
  owned : ∀ range ∈ client.tracker.ranges, ∃ position : Nat,
    client.held[position]? = some (some range.number)
  present : ∀ {position number : Nat}, client.held[position]? = some (some number) →
    ∃ range ∈ client.tracker.ranges, range.number = number
  held : ∀ {registration : Registration}, Retains steps registration ↔
    ∃ number : Nat, client.held[registration.position]? = some (some number) ∧
      registration.range number ∈ client.tracker.ranges

namespace Mirrors

variable {client : RangeClient}

theorem start : Mirrors [] {} where
  asked := rfl
  few := Nat.le_refl _
  sorted := List.Pairwise.nil
  numbered := by simp
  ascending := by simp
  owned := by simp
  present := by simp
  held := by
    intro registration
    constructor
    · rintro ⟨before, after, hnil, -⟩
      exact absurd hnil (by simp)
    · rintro ⟨number, hnumber, -⟩
      exact absurd hnumber (by simp)

theorem number_lt (hmirrors : Mirrors steps client) {range : TrackedRange}
    (hrange : range ∈ client.tracker.ranges) : range.number < client.tracker.nextNumber := by
  obtain ⟨position, hheld⟩ := hmirrors.owned range hrange
  exact hmirrors.numbered hheld

/-- Two positions with one number are the same. -/
theorem position_eq (hmirrors : Mirrors steps client) {position other number : Nat}
    (hleft : client.held[position]? = some (some number))
    (hright : client.held[other]? = some (some number)) : position = other := by
  rcases Nat.lt_trichotomy position other with hless | heq | hmore
  · exact absurd (hmirrors.ascending hless hleft hright) (Nat.lt_irrefl _)
  · exact heq
  · exact absurd (hmirrors.ascending hmore hright hleft) (Nat.lt_irrefl _)

/-- A null or an empty range is asked for and not registered. -/
theorem pass (hmirrors : Mirrors steps client) {start size : Nat} (kind : AllocationKind)
    (hnull : start = 0 ∨ size = 0) :
    Mirrors (steps ++ [.track start size kind]) ⟨client.tracker, client.held ++ [none]⟩ := by
  have hold {position number : Nat} :
      (client.held ++ [none])[position]? = some (some number) ↔
        client.held[position]? = some (some number) := by
    simp [getElem?_concat_eq_some_iff]
  constructor
  case asked => simp [hmirrors.asked, requests_concat, RangeStep.asks]
  case few =>
    rw [requests_concat]
    exact Nat.le_trans hmirrors.few (Nat.le_add_right _ _)
  case sorted => exact hmirrors.sorted
  case numbered => exact fun hheld ↦ hmirrors.numbered (hold.1 hheld)
  case ascending =>
    exact fun hless hleft hright ↦ hmirrors.ascending hless (hold.1 hleft) (hold.1 hright)
  case owned =>
    intro range hrange
    obtain ⟨position, hheld⟩ := hmirrors.owned range hrange
    exact ⟨position, hold.2 hheld⟩
  case present => exact fun hheld ↦ hmirrors.present (hold.1 hheld)
  case held =>
    intro registration
    rw [retains_concat_iff]
    simp only [hold, ← hmirrors.held, ne_eq, reduceCtorEq, not_false_eq_true, and_true,
      or_iff_left_iff_imp]
    rintro ⟨hstep, -, hstart, hsize⟩
    obtain ⟨rfl, rfl, -⟩ := RangeStep.track.inj hstep
    exact absurd hnull (by simp [hstart, hsize])

/-- Another range is registered under the next number. -/
theorem enter (hmirrors : Mirrors steps client) {start size : Nat} (kind : AllocationKind)
    (hstart : start ≠ 0) (hsize : size ≠ 0) :
    Mirrors (steps ++ [.track start size kind])
      ⟨(client.tracker.track start size kind).1,
        client.held ++ [(client.tracker.track start size kind).2]⟩ := by
  have htrack : client.tracker.track start size kind =
      (⟨client.tracker.nextNumber + 1, RangeTracker.place
          ⟨start, client.tracker.nextNumber, size, kind⟩ client.tracker.ranges⟩,
        some client.tracker.nextNumber) := by
    rw [RangeTracker.track, if_neg (by simp [hstart, hsize])]
  have hheld {position number : Nat} :
      (client.held ++ [some client.tracker.nextNumber])[position]? = some (some number) ↔
        client.held[position]? = some (some number) ∨
          position = requests steps ∧ number = client.tracker.nextNumber := by
    rw [← hmirrors.asked, getElem?_concat_eq_some_iff, Option.some.injEq, @eq_comm _ _ number]
  have hsorted := hmirrors.sorted.track start size kind fun range hrange ↦ hmirrors.number_lt hrange
  rw [htrack] at hsorted ⊢
  constructor
  case asked => simp [hmirrors.asked, requests_concat, RangeStep.asks]
  case few =>
    rw [requests_concat]
    exact Nat.succ_le_succ hmirrors.few
  case sorted => exact hsorted
  case numbered =>
    intro position number hposition
    rcases hheld.1 hposition with hold | ⟨-, rfl⟩
    · exact Nat.lt_succ_of_lt (hmirrors.numbered hold)
    · exact Nat.lt_succ_self _
  case ascending =>
    intro earlier later number other hless hleft hright
    have hfits {position number : Nat} (hposition : client.held[position]? = some (some number)) :
        position < requests steps := by
      rw [← hmirrors.asked]
      exact (List.getElem?_eq_some_iff.1 hposition).1
    rcases hheld.1 hleft with holdleft | ⟨rfl, rfl⟩ <;> rcases hheld.1 hright with holdright | ⟨rfl, rfl⟩
    · exact hmirrors.ascending hless holdleft holdright
    · exact hmirrors.numbered holdleft
    · exact absurd (hfits holdright) (Nat.lt_asymm hless)
    · exact absurd hless (Nat.lt_irrefl _)
  case owned =>
    intro range hrange
    rcases (RangeTracker.mem_place_iff _ _ _).1 hrange with rfl | hold
    · exact ⟨requests steps, hheld.2 (.inr ⟨rfl, rfl⟩)⟩
    · obtain ⟨position, hposition⟩ := hmirrors.owned range hold
      exact ⟨position, hheld.2 (.inl hposition)⟩
  case present =>
    intro position number hposition
    rcases hheld.1 hposition with hold | ⟨-, rfl⟩
    · obtain ⟨range, hrange, hnumber⟩ := hmirrors.present hold
      exact ⟨range, (RangeTracker.mem_place_iff _ _ _).2 (.inr hrange), hnumber⟩
    · exact ⟨_, (RangeTracker.mem_place_iff _ _ _).2 (.inl rfl), rfl⟩
  case held =>
    intro registration
    rw [retains_concat_iff, hmirrors.held]
    simp only [hheld, RangeTracker.mem_place_iff]
    constructor
    · rintro (⟨⟨number, hposition, hrange⟩, -⟩ | ⟨hstep, hposition, -⟩)
      · exact ⟨number, .inl hposition, .inr hrange⟩
      · obtain ⟨hfirst, hsecond, hthird⟩ := RangeStep.track.inj hstep
        refine ⟨client.tracker.nextNumber, .inr ⟨hposition.symm, rfl⟩, .inl ?_⟩
        rw [Registration.range, hfirst, hsecond, hthird]
    · rintro ⟨number, hposition | ⟨hposition, rfl⟩, hrange | hrange⟩
      · -- No number that was given out before is the next one.
        have hnumber : number = client.tracker.nextNumber := congrArg TrackedRange.number hrange
        exact absurd (hmirrors.numbered hposition) (hnumber ▸ Nat.lt_irrefl _)
      · exact .inl ⟨⟨number, hposition, hrange⟩, by simp⟩
      · obtain ⟨hfirst, -, hsecond, hthird⟩ := TrackedRange.mk.inj hrange
        rw [hfirst, hsecond, hthird]
        exact .inr ⟨rfl, hposition.symm, hstart, hsize⟩
      · exact absurd (hmirrors.number_lt hrange) (Nat.lt_irrefl _)

/-- A registration that is there is given up. -/
theorem giveUp (hmirrors : Mirrors steps client) {position number : Nat}
    (hposition : client.held[position]? = some (some number)) :
    Mirrors (steps ++ [.drop position])
      ⟨client.tracker.forget number, client.held.set position none⟩ := by
  have hheld {other found : Nat} :
      (client.held.set position none)[other]? = some (some found) ↔
        other ≠ position ∧ client.held[other]? = some (some found) := by
    rw [List.getElem?_set]
    split
    · next heq =>
      subst heq
      split <;> simp
    · next hne => simp [Ne.symm hne]
  constructor
  case asked => simp [hmirrors.asked, requests_concat, RangeStep.asks]
  case few =>
    rw [requests_concat]
    exact Nat.le_trans hmirrors.few (Nat.le_add_right _ _)
  case sorted => exact hmirrors.sorted.forget number
  case numbered => exact fun hother ↦ hmirrors.numbered (hheld.1 hother).2
  case ascending =>
    exact fun hless hleft hright ↦ hmirrors.ascending hless (hheld.1 hleft).2 (hheld.1 hright).2
  case owned =>
    intro range hrange
    obtain ⟨hrange, hnumber⟩ := (RangeTracker.mem_forget_iff _ _ _).1 hrange
    obtain ⟨other, hother⟩ := hmirrors.owned range hrange
    refine ⟨other, hheld.2 ⟨?_, hother⟩⟩
    rintro rfl
    rw [hposition] at hother
    exact hnumber (Option.some.inj (Option.some.inj hother)).symm
  case present =>
    intro other found hfound
    obtain ⟨hother, hfound⟩ := hheld.1 hfound
    obtain ⟨range, hrange, rfl⟩ := hmirrors.present hfound
    refine ⟨range, (RangeTracker.mem_forget_iff _ _ _).2 ⟨hrange, ?_⟩, rfl⟩
    intro (hsame : range.number = number)
    exact hother (hmirrors.position_eq hfound (hsame ▸ hposition))
  case held =>
    intro registration
    rw [retains_concat_iff, hmirrors.held]
    simp only [hheld, RangeTracker.mem_forget_iff, reduceCtorEq, false_and, or_false, ne_eq,
      RangeStep.drop.injEq]
    constructor
    · rintro ⟨⟨found, hfound, hrange⟩, hother⟩
      refine ⟨found, ⟨Ne.symm hother, hfound⟩, hrange, ?_⟩
      intro (hsame : found = number)
      exact hother (hmirrors.position_eq hposition (hsame ▸ hfound))
    · rintro ⟨found, ⟨hother, hfound⟩, hrange, -⟩
      exact ⟨⟨found, hfound, hrange⟩, Ne.symm hother⟩

/-- A step that asks for nothing and gives nothing up. -/
theorem idle (hmirrors : Mirrors steps client) {step : RangeStep} (hasks : step.asks = false)
    (hkept : ∀ registration, Retains steps registration → step ≠ .drop registration.position) :
    Mirrors (steps ++ [step]) client := by
  have hsame : requests (steps ++ [step]) = requests steps := by
    simp [requests_concat, hasks]
  refine ⟨hsame ▸ hmirrors.asked, hsame ▸ hmirrors.few, hmirrors.sorted, hmirrors.numbered,
    hmirrors.ascending, hmirrors.owned, hmirrors.present, ?_⟩
  intro registration
  rw [retains_concat_iff, ← hmirrors.held]
  constructor
  · rintro (⟨hretains, -⟩ | ⟨rfl, -⟩)
    · exact hretains
    · exact absurd hasks (by simp [RangeStep.asks])
  · exact fun hretains ↦ .inl ⟨hretains, hkept registration hretains⟩

/-- One step of the client. -/
theorem step (hmirrors : Mirrors steps client) (step : RangeStep) :
    Mirrors (steps ++ [step]) (client.step step).1 := by
  cases step with
  | track start size kind =>
    by_cases hnull : start = 0 ∨ size = 0
    · have htrack : client.tracker.track start size kind = (client.tracker, none) :=
        if_pos hnull
      have hstep : (client.step (.track start size kind)).1 =
          ⟨client.tracker, client.held ++ [none]⟩ := by
        simp only [RangeClient.step, htrack]
      exact hstep ▸ hmirrors.pass kind hnull
    · rw [not_or] at hnull
      exact hmirrors.enter kind hnull.1 hnull.2
  | drop position =>
    unfold RangeClient.step
    simp only
    split
    · next number hposition => exact hmirrors.giveUp hposition
    · next habsent =>
      -- What is retained has a number, so its position is another one.
      refine hmirrors.idle rfl ?_
      rintro registration hretains hdrop
      obtain ⟨number, hnumber, -⟩ := hmirrors.held.1 hretains
      exact habsent number (RangeStep.drop.inj hdrop ▸ hnumber)
  | classify address => exact hmirrors.idle rfl (by simp)

/-- Any number of steps of the client. -/
theorem run (steps : List RangeStep) : Mirrors steps (RangeClient.run {} steps) := by
  induction steps using List.reverseRecOn with
  | nil => exact .start
  | append_singleton steps step ih =>
    rw [RangeClient.run_concat]
    exact ih.step step

end Mirrors

end Offload
