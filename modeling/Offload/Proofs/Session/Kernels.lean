import Offload.Proofs.Heap.Resolution
import Offload.Proofs.Queue.LaunchEnds
import Offload.Proofs.Session.Lifetime

/-!
# Kernels

A kernel of the host is an entry in the code of its owner, and the owner may be a module that the
module it was asked from only names as a peer. The kernel keeps its owner alive, the owner its parts,
and those the library that the entry is in. So the library stays loaded as long as the kernel is
there, and the entry stays where it was when the kernel was made.
-/

namespace Offload

/-- Two heaps in a row leave an entry where it is: it is a routine of the host program, or its library
is loaded in both. -/
def Entry.Stays (entry : Entry) (before after : Heap) : Prop :=
  ∀ file, entry.file? = some file → file ∈ before.files ∧ file ∈ after.files

namespace Session

open Heap Deciding

/-- A history with the addresses of entries. The loader may put a library anywhere whenever it loads
it, but an entry does not move while its library stays loaded. -/
inductive Placed (platform : Platform) (allowed : Session → Prop) (start : Session)
    (first : Entry → Nat) : List Happening → Session → List Stage → (Entry → Nat) → Prop where
  | start : Placed platform allowed start first [] start [] first
  | change {log more : List Happening} {before after : Session} {flight last : List Stage}
    {place next : Entry → Nat} (hplaced : Placed platform allowed start first log before flight place)
    (hchange : Change platform before flight more after last)
    (hfixed : ∀ entry, entry.Stays before.heap after.heap → next entry = place entry) :
    Placed platform allowed start first (log ++ more) after last next
  | outside {log : List Happening} {before : Session} {place : Entry → Nat}
    (hplaced : Placed platform allowed start first log before [] place)
    (ambient : Ambient) (memory : Memory) (calls : List CallRecord) (gateOpen : Bool)
    (hallowed : allowed
      { before with ambient, host := { before.host with memory, calls, gateOpen } }) :
    Placed platform allowed start first log
      { before with ambient, host := { before.host with memory, calls, gateOpen } } [] place

variable {platform : Platform} {program : Program} {allowed : Session → Prop}
  {start session before after : Session} {flight last : List Stage} {place next : Entry → Nat}
  {job : Job} {failure : Option Failure} {log later more : List Happening} {id queue : ObjectId}
  {kernel : HostKernel}

theorem Placed.history (hplaced : Placed platform allowed start place log session flight next) :
    History platform allowed start log session flight := by
  induction hplaced with
  | start => exact .refl
  | change _ hchange _ ih => exact ih.change hchange
  | outside _ ambient memory calls gateOpen hallowed ih =>
    exact ih.outside ambient memory calls gateOpen hallowed

/-- A loader that has one place for each entry goes with every history. -/
theorem History.placed (hhistory : History platform allowed start log session flight)
    (place : Entry → Nat) : Placed platform allowed start place log session flight place := by
  induction hhistory with
  | refl => exact .start
  | change _ hchange ih => exact ih.change hchange fun _ _ ↦ rfl
  | outside _ ambient memory calls gateOpen hallowed ih =>
    exact ih.outside ambient memory calls gateOpen hallowed

/-! ## Kernels that stay -/

/-- As long as a kernel is there, it is the same one. -/
theorem History.kernel?_eq (hhistory : History platform allowed start log session flight)
    (hsound : start.Sound []) (hkernel : start.heap.kernel? id = some (.host kernel))
    (hcontains : session.heap.contains id = true) :
    session.heap.kernel? id = some (.host kernel) := by
  obtain ⟨object, hget⟩ := Table.contains_iff.1 hcontains
  have houtline := hhistory.outline_eq hsound (kernel?_eq_some.1 hkernel) hget
  obtain rfl := Object.eq_of_outline_kernel houtline
  exact kernel?_eq_some.2 hget

/-- As long as a kernel is there, its owner has the code it had. -/
theorem History.ownerCode (hhistory : History platform allowed start log session flight)
    (hsound : start.Sound []) (hkernel : session.heap.kernel? id = some (.host kernel))
    {owner : HostModule} (howner : start.heap.hostModule? kernel.owner = some owner) :
    ∃ other, session.heap.hostModule? kernel.owner = some other ∧ other.code = owner.code := by
  obtain ⟨other, hother, -⟩ := ((hhistory.sound hsound).rooted.sound.backs hkernel).owner
  refine ⟨other, hother, ?_⟩
  have houtline := hhistory.outline_eq hsound (hostModule?_eq_some.1 howner)
    (hostModule?_eq_some.1 hother)
  obtain ⟨peers, hsame⟩ := Object.eq_of_outline_hostModule houtline
  obtain rfl := CodeModule.host.inj (Object.module.inj hsame)
  rfl

/-- As long as a kernel is there, its entry does not move. The library it is in, if it is in one, is
loaded the whole time, because the kernel is backed before and after each change. -/
theorem Placed.address_eq (hplaced : Placed platform allowed start place log session flight next)
    (hsound : start.Sound []) (hkernel : start.heap.kernel? id = some (.host kernel))
    (hcontains : session.heap.contains id = true) : next kernel.entry = place kernel.entry := by
  have hid := hsound.rooted.ordered.lt_next (kernel?_eq_some.1 hkernel)
  induction hplaced with
  | start => rfl
  | @change log more before after flight last _ _ hbefore hchange hfixed ih =>
    have hhistory := hbefore.history
    have hearlier := hchange.contains_before (hhistory.sound hsound)
      (Nat.lt_of_lt_of_le hid hhistory.next_le) hcontains
    have hold := (hhistory.sound hsound).rooted.sound.backs
      (hhistory.kernel?_eq hsound hkernel hearlier)
    have hnew := ((hhistory.change hchange).sound hsound).rooted.sound.backs
      ((hhistory.change hchange).kernel?_eq hsound hkernel hcontains)
    exact (hfixed _ fun file hfile ↦ ⟨hold.loaded file hfile, hnew.loaded file hfile⟩).trans
      (ih hearlier)
  | outside _ _ _ _ _ _ ih => exact ih hcontains

/-! ## Launches of kernels -/

/-- A launch that holds a kernel enters the entry of that kernel. -/
theorem entry_of_launches {heap : Heap} {extent : Extent} {entry : Entry} {invocation : Invocation}
    (hlaunches : job.Launches heap.get? extent) (hwork : job.work = .enter entry invocation)
    (hheld : id ∈ job.holds) (hkernel : heap.kernel? id = some (.host kernel)) :
    entry = kernel.entry := by
  obtain ⟨launched, own, parameters, hown, hview, -, henter, hholds⟩ := hlaunches
  rw [hwork] at henter
  obtain ⟨rfl, -⟩ := Work.enter.inj henter
  have hget := kernel?_eq_some.1 hkernel
  rw [hholds] at hheld
  rcases List.mem_cons.1 hheld with rfl | hparameters
  · rw [hown] at hget
    rw [Kernel.host.inj (Object.kernel.inj (Option.some.inj hget))]
  · obtain ⟨found, hfound, rfl⟩ := Option.map_eq_some_iff.1 (Option.mem_toList.1 hparameters)
    rw [hview found hfound] at hget
    exact absurd hget (by simp)

/-- Every job that enters an entry is a launch of a kernel. -/
theorem History.launches (hhistory : History platform allowed start log session flight)
    (hfresh : start.Fresh) (hholds : session.Holds flight job) {entry : Entry}
    {invocation : Invocation} (hwork : job.work = .enter entry invocation) :
    ∃ extent, job.Launches session.heap.get? extent := by
  rcases hhistory.formed hfresh hholds with ⟨-, hother⟩ | ⟨-, hlaunches⟩
  · exact absurd hwork (hother entry invocation)
  · exact hlaunches

/-- A job that has just been finished was held until then, and has run. -/
theorem Change.finished (hchange : Change platform before flight more after last)
    (hfinished : .queued queue (.finished job failure) ∈ more) :
    before.Holds flight job ∧ ∃ host, job.Runs platform.routine before.host host failure := by
  cases hchange with
  | finish hqueue hjobs hruns =>
    obtain ⟨rfl, hevent⟩ := Happening.queued.inj (List.mem_singleton.1 hfinished)
    obtain ⟨rfl, rfl⟩ := QueueEvent.finished.inj hevent
    refine ⟨.inl ⟨queue, ?_⟩, _, hruns⟩
    simp only [Heap.jobsOf, hqueue, hjobs]
    exact List.mem_cons_self
  | _ => simp at hfinished

/-- What has become of a kernel of the host that was there before. -/
structure KernelKept (program : Program) (before : Heap) (place : Entry → Nat) (session : Session)
    (flight : List Stage) (next : Entry → Nat) (id : ObjectId) (kernel : HostKernel) : Prop where
  /-- As long as it is there, it is the same kernel, and it is backed. -/
  same : session.heap.contains id = true → session.heap.kernel? id = some (.host kernel)
  backed : session.heap.contains id = true → session.heap.Backs kernel
  /-- Its owner has the code it had, and its entry is where it was. -/
  code : session.heap.contains id = true → ∀ owner, before.hostModule? kernel.owner = some owner →
    ∃ other, session.heap.hostModule? kernel.owner = some other ∧ other.code = owner.code
  address : session.heap.contains id = true → next kernel.entry = place kernel.entry
  /-- It is there as long as a job holds it, and a launch of it enters its entry. -/
  held : ∀ job, session.Holds flight job → id ∈ job.holds → session.heap.contains id = true ∧
    ∀ entry invocation, job.work = .enter entry invocation → entry = kernel.entry
  /-- A launch of it that has just ended was the call of its routine. -/
  runs : ∀ more after last queue job failure entry invocation,
    Change program.toPlatform session flight more after last →
      .queued queue (.finished job failure) ∈ more → id ∈ job.holds →
        job.work = .enter entry invocation → session.heap.contains id = true ∧ entry = kernel.entry ∧
          ∃ host, (program.routine kernel.entry invocation session.host = .returned host ∧
              failure = none) ∨
            ∃ text found, program.routine kernel.entry invocation session.host = .panicked text host ∧
              failure = some found

theorem Placed.kernelKept
    (hplaced : Placed program.toPlatform allowed before place later session flight next)
    (hhistory : History program.toPlatform allowed start log before []) (hfresh : start.Fresh)
    (hkernel : before.heap.kernel? id = some (.host kernel)) :
    KernelKept program before.heap place session flight next id kernel := by
  have hbefore := hhistory.sound (sound_fresh hfresh)
  have hwhole := hhistory.trans hplaced.history
  have hsound := hwhole.sound (sound_fresh hfresh)
  have hsame := hplaced.history.kernel?_eq hbefore hkernel
  have hheld (job : Job) (hholds : session.Holds flight job) (hid : id ∈ job.holds) :
      session.heap.contains id = true ∧
        ∀ entry invocation, job.work = .enter entry invocation → entry = kernel.entry := by
    obtain ⟨object, hget, -⟩ := (supported_of_holds hsound hholds).holds id hid
    have hcontains := Table.contains_iff.2 ⟨object, hget⟩
    refine ⟨hcontains, fun entry invocation hwork ↦ ?_⟩
    obtain ⟨extent, hlaunches⟩ := hwhole.launches hfresh hholds hwork
    exact entry_of_launches hlaunches hwork hid (hsame hcontains)
  refine ⟨hsame, fun hcontains ↦ hsound.rooted.sound.backs (hsame hcontains),
    fun hcontains owner ↦ hplaced.history.ownerCode hbefore (hsame hcontains),
    hplaced.address_eq hbefore hkernel, hheld, ?_⟩
  intro more after last queue job failure entry invocation hchange hfinished hid hwork
  obtain ⟨hholds, host, hruns⟩ := hchange.finished hfinished
  obtain ⟨hcontains, hentry⟩ := hheld job hholds hid
  obtain rfl := hentry entry invocation hwork
  refine ⟨hcontains, rfl, host, ?_⟩
  rcases runs_enter hruns hwork with hreturned | hpanicked
  · exact .inl hreturned
  · exact .inr hpanicked

/-! ## Kernels never dangle -/

/-- A decision that launches decides on a job that holds the kernel of a handle and enters its entry, at
the device address of the parameters or at null without any. -/
def LaunchesKernel (session : Session) (kernel parameters : Handle) (extent : Extent)
    (decide : Deciding Decision) : Prop :=
  decide.Ensures fun decision ↦ ∀ target job, decision.effect = .launch target job →
    ∃ id own found, session.kernel kernel = .ok (id, .host own) ∧
      session.parameters parameters = .ok found ∧
      job = ⟨.launch, .enter own.entry ⟨(found.map (·.2.report.deviceAddress)).getD 0, extent⟩,
        id :: (found.map (·.1)).toList, none⟩

/-- A kernel of the host never dangles.

In a session that comes about, an object is there exactly when something keeps it alive, and then the
owner of a kernel is kept alive as well. At any moment, also in the middle of an operation or in an
error handler, every kernel is backed, and a job that enters an entry is a launch of a kernel. A kernel
that was there once is the same one as long as it is there, however long that is and whatever was
released, linked or loaded in between: it is backed, its owner has the same code, and its entry is at
the same address, if the loader does not move what is loaded. Every launch of it, whenever it ends,
was a call of that entry. A launch is one of the kernel that its handle names. -/
theorem kernels_never_dangle (hfresh : start.Fresh) :
    (∀ session, Runs program start session →
      (∃ log, History program.toPlatform (fun _ ↦ True) start log session []) ∧
      (∀ id, session.heap.contains id = true ↔ session.KeptAlive id) ∧
      ∀ id kernel, session.heap.kernel? id = some (.host kernel) →
        session.KeptAlive kernel.owner) ∧
    (∀ log session flight, History program.toPlatform (fun _ ↦ True) start log session flight →
      (∀ id kernel, session.heap.kernel? id = some (.host kernel) → session.heap.Backs kernel) ∧
      ∀ job entry invocation, session.Holds flight job → job.work = .enter entry invocation →
        ∃ extent, job.Launches session.heap.get? extent) ∧
    (∀ log before id kernel, History program.toPlatform (fun _ ↦ True) start log before [] →
      before.heap.kernel? id = some (.host kernel) → ∀ place later session flight next,
        Placed program.toPlatform (fun _ ↦ True) before place later session flight next →
          KernelKept program before.heap place session flight next id kernel) ∧
    ∀ (session : Session) (queue kernel parameters : Handle) (extent : Extent),
      session.LaunchesKernel kernel parameters extent
        ((Call.launch queue kernel parameters extent).decide program.toPlatform session) ∧
      session.LaunchesKernel kernel parameters extent
        ((Request.launch queue kernel parameters extent).decide program.toPlatform session) := by
  refine ⟨fun session hruns ↦ ?_, fun log session flight hhistory ↦ ⟨fun id kernel hkernel ↦ ?_, ?_⟩,
    fun log before id kernel hhistory hkernel place later session flight next hplaced ↦
      hplaced.kernelKept hhistory hfresh hkernel,
    fun session queue kernel parameters extent ↦
      ⟨launch_ensures program.toPlatform session queue kernel parameters extent,
        launch_ensures program.toPlatform session queue kernel parameters extent⟩⟩
  · obtain ⟨hsettled, hhistory⟩ := hruns.history (settled_fresh hfresh)
    have halive (id : ObjectId) : session.heap.contains id = true ↔ session.KeptAlive id :=
      contains_iff_keptAlive hsettled.kept
    refine ⟨hhistory, halive, fun id kernel hkernel ↦ ?_⟩
    have hget := kernel?_eq_some.1 hkernel
    exact ((halive id).1 (Table.contains_iff.2 ⟨_, hget⟩)).along (.owner hget)
  · exact (hhistory.sound (sound_fresh hfresh)).rooted.sound.backs hkernel
  · exact fun job entry invocation hholds hwork ↦ hhistory.launches hfresh hholds hwork

/-! ## A kernel from a part of a peer -/

/-- A program with a library whose only routine waits for the gate. -/
def recalling : Program :=
  { exports? := fun file ↦ if file = "peer.so" then some ["run"] else none
    routine := fun _ _ host ↦ if host.gateOpen then .returned host else .waiting }

/-- A kernel that was asked from a module without code. Its entry is in the library that a peer was
linked from, and the handles of all three modules are gone. -/
def recalled : Session :=
  startAll recalling {} [.queueWithCapacity 2, .hostDevice 0, .loadModule 2 "peer.so" {},
    .linkStatic 2 [3], .symbolModule "caller" [], .linkDynamic 2 [5, 4], .newKernel 2 5 "run",
    .release 3, .release 4, .release 5]

/-- Later on only a launch holds the kernel, and the library has been loaded once more. -/
def reloaded : Session :=
  recalled.startAll recalling [.launch 1 6 0 (.line 1), .release 6, .loadModule 2 "peer.so" {}]

/-- The kernel is backed by the peer and by its part, which nothing else keeps alive, and the launch
that is left enters its entry, where it always was. -/
theorem kernels_never_dangle_reloaded :
    recalled.heap.kernel? 8 = some (.host ⟨"run", .library "peer.so" "run", 7, 6⟩) ∧
      recalled.KeptAlive 6 ∧ reloaded.heap.contains 8 = true ∧
      reloaded.heap.Backs ⟨"run", .library "peer.so" "run", 7, 6⟩ ∧
      ∀ place, KernelKept recalling recalled.heap place reloaded [] place 8
        ⟨"run", .library "peer.so" "run", 7, 6⟩ := by
  have hfresh : Fresh ({} : Session) := ⟨rfl, rfl, rfl, rfl, rfl⟩
  have hkernel : recalled.heap.kernel? 8 =
      some (.host ⟨"run", .library "peer.so" "run", 7, 6⟩) := by decide +kernel
  have hcontains : reloaded.heap.contains 8 = true := by decide +kernel
  have hruns : Runs recalling {} recalled := runs_startAll recalling {} _
  have hlater : Runs recalling recalled reloaded := runs_startAll recalling recalled _
  obtain ⟨hhistories, -, hkept, -⟩ := @kernels_never_dangle recalling {} hfresh
  obtain ⟨⟨log, hhistory⟩, -, howner⟩ := hhistories recalled hruns
  obtain ⟨later, hreloaded⟩ := (hlater.history (hruns.history (settled_fresh hfresh)).1).2
  have hkernelKept (place : Entry → Nat) :=
    hkept log recalled 8 _ hhistory hkernel place later reloaded [] place (hreloaded.placed place)
  exact ⟨hkernel, howner 8 _ hkernel, hcontains, (hkernelKept fun _ ↦ 0).backed hcontains,
    hkernelKept⟩

end Session

end Offload
