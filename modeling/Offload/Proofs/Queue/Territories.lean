import Offload.Proofs.Session.Work

/-!
# Territories of jobs

A territory is a part of the host state: some addresses, and the static data of some libraries. A
job keeps to it if it ends in the same way wherever the territory looks the same, and changes
nothing outside. Jobs of two territories that are apart can neither see nor disturb each other. A
territory also says how the gate stands, which may be seen by all jobs and is changed by none.

The calls that routines record are a log for the outside. No territory holds them, so a job that
keeps to one may add to them but cannot depend on them.
-/

namespace Offload

/-- Some addresses, the static data of some libraries, and how the gate stands. -/
structure Territory where
  holds : Nat → Prop
  files : List String
  gateOpen : Bool

namespace Territory

variable {territory left right : Territory} {first second third before after last : HostState}

/-- Two host states with the same in a territory, and the same gate. -/
structure Agree (territory : Territory) (left right : HostState) : Prop where
  memory : ∀ address, territory.holds address →
    left.memory.byteAt address = right.memory.byteAt address
  statics : ∀ file ∈ territory.files, left.static file = right.static file
  gate : left.gateOpen = right.gateOpen

/-- Nothing changes outside a territory. -/
structure Spares (territory : Territory) (before after : HostState) : Prop where
  memory : ∀ address, ¬territory.holds address →
    after.memory.byteAt address = before.memory.byteAt address
  statics : ∀ file ∉ territory.files, after.static file = before.static file
  gate : after.gateOpen = before.gateOpen

/-- Two territories that share nothing. -/
structure Apart (left right : Territory) : Prop where
  memory : ∀ address, left.holds address → ¬right.holds address
  statics : ∀ file ∈ left.files, file ∉ right.files

namespace Agree

theorem refl (territory : Territory) (host : HostState) : territory.Agree host host :=
  ⟨fun _ _ ↦ rfl, fun _ _ ↦ rfl, rfl⟩

theorem symm (hagree : territory.Agree first second) : territory.Agree second first :=
  ⟨fun address hheld ↦ (hagree.memory address hheld).symm,
    fun file hfile ↦ (hagree.statics file hfile).symm, hagree.gate.symm⟩

theorem trans (hfirst : territory.Agree first second) (hsecond : territory.Agree second third) :
    territory.Agree first third :=
  ⟨fun address hheld ↦ (hfirst.memory address hheld).trans (hsecond.memory address hheld),
    fun file hfile ↦ (hfirst.statics file hfile).trans (hsecond.statics file hfile),
    hfirst.gate.trans hsecond.gate⟩

end Agree

namespace Spares

theorem refl (territory : Territory) (host : HostState) : territory.Spares host host :=
  ⟨fun _ _ ↦ rfl, fun _ _ ↦ rfl, rfl⟩

theorem trans (hfirst : territory.Spares before after) (hsecond : territory.Spares after last) :
    territory.Spares before last :=
  ⟨fun address hfree ↦ (hsecond.memory address hfree).trans (hfirst.memory address hfree),
    fun file hfree ↦ (hsecond.statics file hfree).trans (hfirst.statics file hfree),
    hsecond.gate.trans hfirst.gate⟩

/-- What is spared outside a territory looks the same in one that is apart. -/
theorem agree (hspares : left.Spares before after) (hapart : left.Apart right) :
    right.Agree after before :=
  ⟨fun address hheld ↦ hspares.memory address fun hother ↦ hapart.memory address hother hheld,
    fun file hfile ↦ hspares.statics file fun hother ↦ hapart.statics file hother hfile,
    hspares.gate⟩

end Spares

theorem Apart.symm (hapart : left.Apart right) : right.Apart left :=
  ⟨fun address hright hleft ↦ hapart.memory address hleft hright,
    fun file hright hleft ↦ hapart.statics file hleft hright⟩

end Territory

/-! ## Jobs that keep to a territory -/

/-- A job that ends in the same way wherever its territory looks the same, and changes nothing
outside of it. As the gate stands it does not wait. -/
def Job.KeepsTo (routine : Entry → Routine) (territory : Territory) (job : Job) : Prop :=
  ∀ left right, left.gateOpen = territory.gateOpen → territory.Agree left right →
    ∃ failure after other, job.Runs routine left after failure ∧
      job.Runs routine right other failure ∧ territory.Agree after other ∧
      territory.Spares left after

/-- A routine that ends in the same way wherever a territory looks the same, and changes nothing
outside of it. -/
def Routine.KeepsTo (territory : Territory) (routine : Routine) (invocation : Invocation) : Prop :=
  ∀ left right, left.gateOpen = territory.gateOpen → territory.Agree left right →
    ∃ after other, territory.Agree after other ∧ territory.Spares left after ∧
      (routine invocation left = .returned after ∧ routine invocation right = .returned other ∨
        ∃ text, routine invocation left = .panicked text after ∧
          routine invocation right = .panicked text other)

section Jobs

variable {routine : Entry → Routine} {territory : Territory} {job : Job}

/-- A job like another one, with the same work, keeps to the same territory. -/
theorem Job.KeepsTo.congr {other : Job} (hjob : job.KeepsTo routine territory)
    (hoperation : other.operation = job.operation) (hwork : other.work = job.work) :
    other.KeepsTo routine territory := by
  unfold Job.KeepsTo Job.Runs at hjob ⊢
  rw [hoperation, hwork]
  exact hjob

/-- A job that keeps to a territory and has run has changed nothing outside of it. -/
theorem Job.KeepsTo.spares (hjob : job.KeepsTo routine territory) {before after : HostState}
    {failure : Option Failure} (hgate : before.gateOpen = territory.gateOpen)
    (hruns : job.Runs routine before after failure) : territory.Spares before after := by
  obtain ⟨failed, last, other, hlast, -, -, hspares⟩ :=
    hjob before before hgate (.refl territory before)
  obtain ⟨rfl, -⟩ := hruns.unique hlast
  exact hspares

/-- A transfer has nothing to do, as host and device memory are one. -/
theorem Job.keepsTo_transfer (hwork : job.work = .transfer) : job.KeepsTo routine territory := by
  intro left right _ hagree
  refine ⟨none, left, right, ?_, ?_, hagree, .refl territory left⟩
  all_goals
    unfold Job.Runs
    rw [hwork]
    rfl

/-- A copy keeps to where it reads and where it writes. -/
theorem Job.keepsTo_move {destination source size : Nat}
    (hwork : job.work = .move destination source size)
    (hsource : ∀ offset < size, territory.holds (source + offset))
    (hdestination : ∀ offset < size, territory.holds (destination + offset)) :
    job.KeepsTo routine territory := by
  intro left right _ hagree
  by_cases hnull : destination = 0 ∨ source = 0
  · refine ⟨some (.execution "copy between unallocated views"), left, right, ?_, ?_, hagree,
      .refl territory left⟩
    all_goals
      unfold Job.Runs
      rw [hwork]
      exact if_pos hnull
  · have hruns (host : HostState) : job.Runs routine host
        { host with memory := host.memory.move destination source size } none := by
      unfold Job.Runs
      rw [hwork]
      exact if_neg hnull
    refine ⟨none, _, _, hruns left, hruns right, ?agree, ?spares⟩
    case agree =>
      refine ⟨fun address hheld ↦ ?_, hagree.statics, hagree.gate⟩
      simp only [Memory.move]
      split
      · next hrange =>
        have hoffset : address - destination < size := by omega
        exact hagree.memory _ (hsource _ hoffset)
      · exact hagree.memory address hheld
    case spares =>
      refine ⟨fun address hfree ↦ ?_, fun _ _ ↦ rfl, rfl⟩
      refine if_neg fun hrange ↦ hfree ?_
      have hheld := hdestination (address - destination) (by omega)
      rwa [Nat.add_sub_cancel' hrange.1] at hheld

/-- A launch keeps to where its routine does. -/
theorem Job.keepsTo_enter {entry : Entry} {invocation : Invocation}
    (hwork : job.work = .enter entry invocation)
    (hroutine : (routine entry).KeepsTo territory invocation) : job.KeepsTo routine territory := by
  intro left right hgate hagree
  obtain ⟨after, other, hafter, hspares, ⟨hleft, hright⟩ | ⟨text, hleft, hright⟩⟩ :=
    hroutine left right hgate hagree
  · refine ⟨none, after, other, ?_, ?_, hafter, hspares⟩
    · simp only [Job.Runs, hwork, Work.run, hleft]
    · simp only [Job.Runs, hwork, Work.run, hright]
  · refine ⟨some (.execution
      s!"{job.operation.name} panicked: {text.getD Work.run.unknownPanic}"), after, other, ?_, ?_,
      hafter, hspares⟩
    · simp only [Job.Runs, hwork, Work.run, hleft]
    · simp only [Job.Runs, hwork, Work.run, hright]

end Jobs

end Offload
