import Offload.Proofs.Queue.Admission
import Offload.Proofs.Queue.LaunchEnds
import Offload.Proofs.Queue.Territories
import Offload.Proofs.Session.Classes
import Offload.Proofs.Session.Nameable

/-!
# Copies

A copy between two views of the host that is not larger than either of them is accepted as one job,
and that job does what was asked for whenever it runs: it holds both views, so they are still there with
the memory they had, and a view that is not empty has an address. What the job does is a matter of bytes:
the first bytes of the destination become those that the source had, wherever the two lie, and nothing
else is touched.
-/

namespace Offload

/-! ## Bytes of a copy -/

/-- The first bytes of one range are those that another range had, and no other byte has changed. -/
structure Memory.Copied (destination source size : Nat) (before after : Memory) : Prop where
  copied : ∀ offset < size, after.byteAt (destination + offset) = before.byteAt (source + offset)
  kept : ∀ address, ¬(destination ≤ address ∧ address < destination + size) →
    after.byteAt address = before.byteAt address

theorem Memory.copied_move (memory : Memory) (destination source size : Nat) :
    Memory.Copied destination source size memory (memory.move destination source size) where
  copied := by
    intro offset hoffset
    have hrange : destination ≤ destination + offset ∧
        destination + offset < destination + size := by omega
    have hmoved : (memory.move destination source size).byteAt (destination + offset) =
        memory.byteAt (source + (destination + offset - destination)) := if_pos hrange
    rw [hmoved, Nat.add_sub_cancel_left]
  kept := fun _ hfree ↦ if_neg hfree

/-- The addresses of a view. -/
def HostView.Spans (view : HostView) (address : Nat) : Prop :=
  view.address ≤ address ∧ address < view.address + view.size

/-- The memory of two views. -/
def viewTerritory (left right : HostView) (gateOpen : Bool) : Territory where
  holds address := left.Spans address ∨ right.Spans address
  files := []
  gateOpen := gateOpen

/-- The job of a copy between two views. -/
def copyJob (target origin : ObjectId × HostView) (size : Nat) : Job :=
  ⟨.copy, .move target.2.address origin.2.address size, [target.1, origin.1], none⟩

section Jobs

variable {routine : Entry → Routine} {target origin : ObjectId × HostView} {size : Nat}

/-- Between views with memory, the job ends without a failure, and with the bytes copied. -/
theorem runs_copyJob_iff (htarget : target.2.address ≠ 0) (horigin : origin.2.address ≠ 0)
    {before after : HostState} {failure : Option Failure} :
    (copyJob target origin size).Runs routine before after failure ↔
      failure = none ∧ after = { before with
        memory := before.memory.move target.2.address origin.2.address size } := by
  have hruns : (copyJob target origin size).Runs routine before { before with
      memory := before.memory.move target.2.address origin.2.address size } none :=
    if_neg (by simp [htarget, horigin])
  constructor
  · intro hother
    obtain ⟨rfl, rfl⟩ := hother.unique hruns
    exact ⟨rfl, rfl⟩
  · rintro ⟨rfl, rfl⟩
    exact hruns

/-- The job reads and writes only memory of the two views. -/
theorem keepsTo_copyJob (htarget : size ≤ target.2.size) (horigin : size ≤ origin.2.size)
    (gateOpen : Bool) :
    (copyJob target origin size).KeepsTo routine (viewTerritory target.2 origin.2 gateOpen) := by
  refine Job.keepsTo_move rfl (fun offset hoffset ↦ .inr ?_) fun offset hoffset ↦ .inl ?_
  all_goals
    unfold HostView.Spans
    omega

end Jobs

namespace Session

open Heap

variable {platform : Platform} {program : Program} {allowed : Session → Prop}
  {start session now : Session} {flight : List Stage} {log later : List Happening}
  {id : ObjectId} {job : Job} {found : ObjectId × HostQueue}
  {target origin : ObjectId × HostView} {size : Nat}

/-! ## Memory of views -/

/-- A view that is not empty has memory. -/
theorem History.address_ne (hhistory : ValidHistory platform start log session flight)
    (hfresh : start.Fresh) (hproper : start.Proper) {view : HostView}
    (hview : session.heap.view? id = some (.host view)) (hsize : view.size ≠ 0) :
    view.address ≠ 0 := by
  refine hhistory.induct (motive := fun _ session _ ↦ ∀ {view : HostView},
    session.heap.view? id = some (.host view) → view.size ≠ 0 → view.address ≠ 0)
    (sound_fresh hfresh) ?_ ?_ (fun _ _ _ _ _ haddress ↦ haddress) hview hsize
  · intro view hview
    rw [hfresh.heap] at hview
    exact absurd hview (by simp [Heap.view?, Table.get?])
  · intro log before flight more after last hbefore hsound haddress hchange view hview hsize
    rcases hchange.origin hsound (view?_eq_some.1 hview) with ⟨old, hold, houtline⟩ |
      ⟨-, hmade | ⟨hfuture, -⟩⟩
    · obtain rfl := Object.eq_of_outline_view houtline.symm
      exact haddress (view?_eq_some.2 hold) hsize
    · cases hchange with
      | place _ hnoView | create _ hnoView =>
        exact absurd (Happening.made.inj (List.mem_singleton.1 hmade)).2.symm (hnoView view)
      | createView _ _ hmemory =>
        obtain ⟨-, hobject⟩ := Happening.made.inj (List.mem_singleton.1 hmade)
        obtain rfl := View.host.inj (Object.view.inj hobject)
        exact hmemory ((hbefore.proper hproper).sane platform) hsize
      | _ => simp at hmade
    · exact absurd hfuture (by simp)

/-- The views of a job that is held are those that they were. -/
theorem History.view_of_holds (hlater : History platform allowed session later now flight)
    (hsound : session.Sound []) {view : View} (hview : session.heap.view? id = some view)
    (hholds : now.Holds flight job) (hid : id ∈ job.holds) : now.heap.view? id = some view := by
  obtain ⟨object, hget, -⟩ :=
    (supported_of_holds (hlater.sound hsound) hholds).holds id hid
  have houtline := hlater.outline_eq hsound (view?_eq_some.1 hview) hget
  exact view?_eq_some.2 (Object.eq_of_outline_view houtline ▸ hget)

/-! ## Accepting a copy -/

/-- A session in which a queue that a handle names has accepted a job has nothing to collect. -/
theorem kept_accept {queue : HostQueue} {progress : Progress} (hkept : session.Kept [.room id job])
    (hnames : session.registry.Names id) (hqueue : session.heap.hostQueue? id = some queue)
    (hroom : queue.progress.acquire? queue.capacity = some progress) :
    (session.accept id progress job).Kept [] := by
  obtain ⟨hless, rfl⟩ := Progress.acquire?_eq_some.1 hroom
  have hsound : (session.accept id { queue.progress with pending := queue.progress.pending + 1 }
      job).Sound [.discarded id (.ok .nothing)] := sound_accept hkept.toSound hqueue hless
  have htidy : Tidy session.registry (session.stages [.discarded id (.ok .nothing)])
      (session.accept id { queue.progress with pending := queue.progress.pending + 1 } job).heap :=
    tidy_accept hkept.toSound hqueue hkept.tidy
  have hnumbered : session.registry.Ordered := hkept.rooted.numbered
  refine ⟨sound_part hsound (refersTo_of_names hnames),
    Tidy.of_alike htidy (.refl _) fun root hroot ↦ ?_⟩
  rw [mem_anchors_iff hnumbered] at hroot
  refine (mem_anchors_iff hnumbered).2 (hroot.imp_left ?_)
  rintro (hhandle | ⟨stage, hstage, hreference⟩)
  · exact .inl hhandle
  · rcases List.mem_cons.1 hstage with rfl | hwaiting
    · obtain rfl := List.mem_singleton.1 hreference
      exact refers_of_names hnumbered hnames _
    · exact .inr ⟨stage, hwaiting, hreference⟩

/-- A job without a future is accepted if there is room, and otherwise the client waits. -/
theorem pursue_unsettling {queue : HostQueue} (hkept : session.Kept [.room id job])
    (hfuture : job.future = none) (hnames : session.registry.Names id)
    (hqueue : session.heap.hostQueue? id = some queue) :
    session.pursue (.waits (.room id job)) =
      match queue.progress.acquire? queue.capacity with
      | some progress => (session.accept id progress job, .reply .nothing)
      | none => (session, .waits (.room id job)) := by
  cases hroom : queue.progress.acquire? queue.capacity with
  | none =>
    have hadvance : session.advance? (.room id job) = none := by
      simp [advance?, hqueue, hroom]
    simp only [pursue, hadvance]
  | some progress =>
    have hrefers : (session.accept id progress job).refersTo id = true := refersTo_of_names hnames
    have hadvance : session.advance? (.room id job) =
        some (session.accept id progress job, .ended (.ok .nothing)) := by
      rw [← Errand.leave_of_refersTo hrefers]
      simp [advance?, hqueue, hroom, hfuture, accept]
    simp only [pursue, hadvance]
    exact congrArg (·, Progressed.reply .nothing)
      (kept_accept hkept hnames hqueue hroom).collect_eq_self

/-- The queue and the two views of the host that a copy is asked for. -/
structure Copies (session : Session) (queue destination source : Handle)
    (found : ObjectId × HostQueue) (target origin : ObjectId × HostView) : Prop where
  queue : session.queue queue = .ok (found.1, .host found.2)
  destination : session.view destination = .ok (target.1, .host target.2)
  source : session.view source = .ok (origin.1, .host origin.2)

namespace Copies

variable {queue destination source : Handle}

theorem hostQueue? (hcopies : session.Copies queue destination source found target origin) :
    session.heap.hostQueue? found.1 = some found.2 :=
  hostQueue?_eq_some.2 (queue?_eq_some.1 (lookup_eq_ok hcopies.queue).2)

theorem view?_target (hcopies : session.Copies queue destination source found target origin) :
    session.heap.view? target.1 = some (.host target.2) :=
  (lookup_eq_ok hcopies.destination).2

theorem view?_origin (hcopies : session.Copies queue destination source found target origin) :
    session.heap.view? origin.1 = some (.host origin.2) :=
  (lookup_eq_ok hcopies.source).2

theorem supported (hcopies : session.Copies queue destination source found target origin) :
    (Stage.room found.1 (copyJob target origin size)).Supported session.heap.get? := by
  have hviews : ∀ view ∈ [(target.1, View.host target.2), (origin.1, View.host origin.2)],
      session.heap.view? view.1 = some view.2 := by
    intro view hview
    rcases List.mem_cons.1 hview with rfl | hview
    · exact hcopies.view?_target
    · obtain rfl := List.mem_singleton.1 hview
      exact hcopies.view?_origin
  exact ⟨⟨found.2, hostQueue?_eq_some.1 hcopies.hostQueue?⟩, supported_views hviews nofun⟩

end Copies

/-- What a session comes to when a copy is asked for. -/
def copyOutcome (session : Session) (found : ObjectId × HostQueue)
    (target origin : ObjectId × HostView) (size : Nat) : Session × Progressed :=
  if target.2.size < size then (session, .failed (.copyExceedsDestination size target.2.size))
  else if origin.2.size < size then (session, .failed (.copyExceedsSource size origin.2.size))
  else if size = 0 then (session, .reply .nothing)
  else
    let job := copyJob target origin size
    match found.2.progress.acquire? found.2.capacity with
    | some progress => (session.accept found.1 progress job, .reply .nothing)
    | none => (session, .waits (.room found.1 job))

/-- What is decided when a copy between views of the host is asked for. -/
def copyDecision (found : ObjectId × HostQueue) (target origin : ObjectId × HostView) (size : Nat) :
    Except Failure Decision :=
  if target.2.size < size then .error (.copyExceedsDestination size target.2.size)
  else if origin.2.size < size then .error (.copyExceedsSource size origin.2.size)
  else if size = 0 then .ok (.answer .nothing)
  else .ok { effect := .submit found.1 (copyJob target origin size) }

theorem copyView_host (found : ObjectId × HostQueue) (target origin : ObjectId × HostView)
    (size : Nat) :
    Session.copyView (found.1, .host found.2) (target.1, .host target.2) (origin.1, .host origin.2)
      size = liftM (copyDecision found target origin size) := by
  have hconditions : (hooks (found.1, .host found.2)).conditions
      (.copy (target.1, .host target.2) (origin.1, .host origin.2) size) =
        [(decide (size ≤ target.2.size), .copyExceedsDestination size target.2.size),
          (decide (size ≤ origin.2.size), .copyExceedsSource size origin.2.size),
          (true, .familyMismatch .cpu .cpu), (true, .familyMismatch .cpu .cpu)] := rfl
  rw [copyView_eq, decideOn, QueueHooks.ask_eq, hconditions]
  simp only [provided_cons, provided_nil, copyDecision, decide_eq_true_eq, ← Nat.not_lt, ite_not,
    if_true]
  split
  · rfl
  · split
    · rfl
    · unfold QueueHooks.handed
      simp only
      split <;> rfl

/-- Both ways of asking for a copy decide the same. -/
theorem Copies.decide {queue destination source : Handle}
    (hcopies : session.Copies queue destination source found target origin) (platform : Platform)
    (size : Nat) :
    (Call.copyView queue destination source size).decide platform session =
        liftM (copyDecision found target origin size) ∧
      (Request.copyView queue destination source size).decide platform session =
        liftM (copyDecision found target origin size) := by
  rw [← copyView_host]
  have hcall : (Call.copyView queue destination source size).decide platform session =
      Session.copyView (found.1, .host found.2) (target.1, .host target.2)
        (origin.1, .host origin.2) size := by
    show (liftM (session.queue queue) >>= fun found ↦ liftM (session.view destination) >>=
      fun target ↦ liftM (session.view source) >>= fun origin ↦
        Session.copyView found target origin size : Deciding Decision) = _
    rw [hcopies.queue, hcopies.destination, hcopies.source]
    rfl
  exact ⟨hcall, hcall⟩

/-- What is decided on a copy is done. -/
theorem perform_copy {queue destination source : Handle} (hkept : session.Kept [])
    (hcopies : session.Copies queue destination source found target origin) :
    session.perform (liftM (copyDecision found target origin size)) =
      session.copyOutcome found target origin size := by
  unfold copyDecision copyOutcome
  split
  · rfl
  split
  · rfl
  split
  · exact congrArg (·, Progressed.reply .nothing) hkept.collect_eq_self
  have hnames := names_of_lookup hcopies.queue
  have hwaits : session.Kept [.room found.1 (copyJob target origin size)] :=
    ⟨hkept.toSound.add _ hcopies.supported,
      tidy_add hkept.tidy hkept.rooted.numbered (List.subset_cons_self _ _)⟩
  exact pursue_unsettling hwaits rfl hnames hcopies.hostQueue?

/-- Asking for a copy is part of a history. -/
theorem history_copy {queue destination source : Handle} (hsettled : session.Settled)
    (hcopies : session.Copies queue destination source found target origin) :
    ∃ more, ValidHistory platform session more (session.copyOutcome found target origin size).1
      (session.copyOutcome found target origin size).2.flight := by
  have hevolves : Evolves platform session [] _ _ :=
    evolves_perform (Call.ensures_decide (.copyView queue destination source size))
      (Call.drawn_decide hsettled.kept.toSound (.copyView queue destination source size))
  rw [(hcopies.decide platform size).1, perform_copy hsettled.kept hcopies] at hevolves
  obtain ⟨more, hchanges⟩ := hevolves
  exact ⟨[] ++ more, History.refl.changes hchanges⟩

/-! ## Running a copy -/

theorem memory_finish (session : Session) (id : ObjectId) (queue : HostQueue) (job : Job)
    (rest : List Job) (failure : Option Failure) :
    (session.finish id queue job rest failure).host.memory = session.host.memory := by
  rw [finish_eq]
  rfl

/-- A worker runs a copy between views with memory at once. -/
theorem work?_copyJob (htarget : target.2.address ≠ 0) (horigin : origin.2.address ≠ 0)
    {queue : HostQueue} {rest : List Job} (hqueue : now.heap.hostQueue? id = some queue)
    (hjobs : queue.jobs = copyJob target origin size :: rest) :
    now.work? platform id = some (finish
      { now with host := { now.host with
        memory := now.host.memory.move target.2.address origin.2.address size } }
      id queue (copyJob target origin size) rest none) := by
  have hruns : (copyJob target origin size).Runs platform.routine now.host _ none :=
    (runs_copyJob_iff htarget horigin).2 ⟨rfl, rfl⟩
  unfold Job.Runs at hruns
  simp only [work?, hqueue, hjobs, hruns]

/-- What the worker makes of it is an exact copy. -/
theorem exists_work?_copyJob (htarget : target.2.address ≠ 0) (horigin : origin.2.address ≠ 0)
    {queue : HostQueue} {rest : List Job} (hqueue : now.heap.hostQueue? id = some queue)
    (hjobs : queue.jobs = copyJob target origin size :: rest) :
    ∃ memory, now.work? platform id = some (finish
        { now with host := { now.host with memory } } id queue (copyJob target origin size) rest none) ∧
      ∀ after, now.work? platform id = some after →
        Memory.Copied target.2.address origin.2.address size now.host.memory after.host.memory := by
  have hwork : now.work? platform id = some _ := work?_copyJob htarget horigin hqueue hjobs
  refine ⟨_, hwork, fun after hafter ↦ ?_⟩
  obtain rfl := Option.some.inj (hwork.symm.trans hafter)
  rw [memory_finish]
  exact Memory.copied_move _ _ _ _

/-- A copy between two views is exact.

However the views were made and wherever they lie, asking a queue of the host for a copy is refused
without any effect if it is larger than one of the views, does nothing if it is empty, and otherwise
puts one job into the queue, or waits with that job until there is room. Whatever happens then: as long
as the job is held, both views are there as they were, also without handles; when it is the next of its
queue the worker can run it, and it copies the bytes that the source had and changes no others; it
reads and writes only memory of the two views; and it never ends with a failure. -/
theorem copy_exact (hfresh : start.Fresh) (hproper : start.Proper)
    (hhistory : ValidHistory program.toPlatform start log session []) (hsettled : session.Settled)
    {queue destination source : Handle}
    (hcopies : session.Copies queue destination source found target origin) (size : Nat) :
    let outcome := session.copyOutcome found target origin size
    (session.perform ((Call.copyView queue destination source size).decide program.toPlatform
          session) = outcome ∧
        session.perform ((Request.copyView queue destination source size).decide
          program.toPlatform session) = outcome ∧
        ∃ more, ValidHistory program.toPlatform session more outcome.1 outcome.2.flight) ∧
      (0 < size → size ≤ target.2.size → size ≤ origin.2.size →
        let job := copyJob target origin size
        (∀ gateOpen,
          job.KeepsTo program.toPlatform.routine (viewTerritory target.2 origin.2 gateOpen)) ∧
        ∀ later now flight, ValidHistory program.toPlatform session later now flight →
          (now.Holds flight job → now.heap.view? target.1 = some (.host target.2) ∧
            now.heap.view? origin.1 = some (.host origin.2)) ∧
          (∀ id ordered rest, now.heap.hostQueue? id = some ordered → ordered.jobs = job :: rest →
            ∃ memory, now.work? program.toPlatform id =
                some (finish { now with host := { now.host with memory } } id ordered job rest none) ∧
              ∀ after, now.work? program.toPlatform id = some after →
                Memory.Copied target.2.address origin.2.address size now.host.memory
                  after.host.memory) ∧
          ∀ id failure, .queued id (.finished job failure) ∈ later → failure = none) := by
  intro outcome
  obtain ⟨hcall, hrequest⟩ := hcopies.decide program.toPlatform size
  have hperform : session.perform (liftM (copyDecision found target origin size)) = outcome :=
    perform_copy hsettled.kept hcopies
  refine ⟨⟨hcall ▸ hperform, hrequest ▸ hperform, history_copy hsettled hcopies⟩,
    fun hbusy hfirst hsecond ↦ ?_⟩
  have htarget := hhistory.address_ne hfresh hproper hcopies.view?_target
    (Nat.ne_of_gt (Nat.lt_of_lt_of_le hbusy hfirst))
  have horigin := hhistory.address_ne hfresh hproper hcopies.view?_origin
    (Nat.ne_of_gt (Nat.lt_of_lt_of_le hbusy hsecond))
  refine ⟨keepsTo_copyJob hfirst hsecond, fun later now flight hlater ↦ ⟨?_, ?_, ?_⟩⟩
  · intro hholds
    have hsound := hsettled.kept.toSound
    exact ⟨hlater.view_of_holds hsound hcopies.view?_target hholds List.mem_cons_self,
      hlater.view_of_holds hsound hcopies.view?_origin hholds
        (List.mem_cons_of_mem _ List.mem_cons_self)⟩
  · exact fun id ordered rest hqueue hjobs ↦ exists_work?_copyJob htarget horigin hqueue hjobs
  · intro id failure hfinished
    obtain ⟨before, after, hruns⟩ :=
      (hhistory.trans hlater).ran hfresh (List.mem_append_right _ hfinished)
    exact ((runs_copyJob_iff htarget horigin).1 hruns).1

/-- A queue, and two views of a client's memory that overlap. -/
def overlappingViews : Session :=
  startAll {} {} [.queueWithCapacity 2, .hostDevice 0, .newView 2 4096 16 0 0,
    .newView 2 4104 16 0 0]

/-- A copy between the two has been queued, and then their handles have been released. -/
def overlappingCopy : Session :=
  overlappingViews.startAll {} [.copyView 1 4 3 12, .release 3, .release 4]

theorem copy_exact_overlapping :
    overlappingCopy.refersTo 5 = false ∧ overlappingCopy.refersTo 6 = false ∧
      ∃ after, overlappingCopy.work? {} 2 = some after ∧
        Memory.Copied 4104 4096 12 overlappingCopy.host.memory after.host.memory := by
  have hfresh : Fresh ({} : Session) := ⟨rfl, rfl, rfl, rfl, rfl⟩
  have hproper : Proper ({} : Session) := ⟨by decide, fun _ hsome ↦ absurd hsome (by simp)⟩
  have hruns : ValidRuns {} {} overlappingViews :=
    validRuns_startAll {} (settled_fresh hfresh) hproper.valid _
  obtain ⟨hsettled, log, hhistory⟩ := hruns.history (settled_fresh hfresh)
  have hreleased : ValidRuns {} overlappingViews overlappingCopy :=
    validRuns_startAll {} hsettled (hhistory.proper hproper).valid _
  obtain ⟨-, later, hlater⟩ := hreleased.history hsettled
  have hcopies : overlappingViews.Copies 1 4 3 (2, ⟨1, 2, {}, []⟩)
      (6, ⟨4104, 16, .shared, .none, false, 3, some 1⟩)
      (5, ⟨4096, 16, .shared, .none, false, 3, some 0⟩) := ⟨rfl, rfl, rfl⟩
  obtain ⟨-, hexact⟩ := copy_exact hfresh hproper hhistory hsettled hcopies 12
  obtain ⟨-, hlasting⟩ := hexact (by decide) (by decide) (by decide)
  obtain ⟨-, hworks, -⟩ := hlasting later overlappingCopy [] hlater
  obtain ⟨memory, hwork, hcopied⟩ := hworks 2 _ [] rfl rfl
  exact ⟨rfl, rfl, _, hwork, hcopied _ hwork⟩

end Session

end Offload
