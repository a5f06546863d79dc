import Offload.Proofs.Queue.Launches

/-!
# Ends of launches

A launch enters the kernel it holds, and ends as the call of the kernel ends. Everything that a queue
has accepted has ended when the queue is drained.
-/

namespace Offload

/-- A job is a launch with a future of its own, or no launch. -/
def Job.Formed (find? : ObjectId → Option Object) (job : Job) : Prop :=
  (job.future = none ∧ ∀ entry invocation, job.work ≠ .enter entry invocation) ∨
    job.future.isSome ∧ ∃ extent, job.Launches find? extent

namespace Session

open Heap Deciding

variable {platform : Platform} {program : Program} {allowed : Session → Prop}
  {start session before after : Session} {flight last : List Stage} {queue future : ObjectId}
  {job : Job} {failure : Option Failure} {log more : List Happening}

/-! ## What launches enter -/

/-- A job is in a queue or waits for room in one. -/
def Holds (session : Session) (flight : List Stage) (job : Job) : Prop :=
  (∃ queue, job ∈ session.heap.jobsOf queue) ∨ ∃ queue, .room queue job ∈ session.stages flight

theorem supported_of_holds (hsound : session.Sound flight) (hholds : session.Holds flight job) :
    job.Supported session.heap.get? := by
  rcases hholds with ⟨queue, hjob⟩ | ⟨queue, hstage⟩
  · unfold Heap.jobsOf at hjob
    split at hjob
    · exact absurd hjob List.not_mem_nil
    · next found hfound => exact (hsound.rooted.sound.queues hfound).jobs job hjob
  · exact (hsound.rooted.supported _ hstage).2

/-- What a launch enters does not change. -/
theorem Change.launches_transfer (hchange : Change platform before flight more after last)
    (hsound : before.Sound flight) {extent : Extent} (hsupported : job.Supported after.heap.get?)
    (hlaunches : job.Launches before.heap.get? extent) :
    job.Launches after.heap.get? extent := by
  obtain ⟨id, own, parameters, hkernel, hview, hoperation, hwork, hholds⟩ := hlaunches
  have hstays {held : ObjectId} {old : Object} (hheld : held ∈ job.holds)
      (hold : before.heap.get? held = some old) :
      ∃ object, after.heap.get? held = some object ∧ object.outline = old.outline := by
    obtain ⟨object, hget, -⟩ := hsupported.holds held hheld
    exact ⟨object, hget, hchange.outline_eq hsound hold hget⟩
  refine ⟨id, own, parameters, ?_, ?_, hoperation, hwork, hholds⟩
  · obtain ⟨object, hget, houtline⟩ := hstays (hholds ▸ List.mem_cons_self) hkernel
    exact Object.eq_of_outline_kernel houtline ▸ hget
  · intro found hfound
    have hheld : found.1 ∈ job.holds := by
      rw [hholds, hfound]
      exact List.mem_cons_of_mem _ List.mem_cons_self
    obtain ⟨object, hget, houtline⟩ := hstays hheld (hview found hfound)
    exact Object.eq_of_outline_view houtline ▸ hget

/-- A job that waits for room after a change did so before, or the change begins with it. -/
theorem Change.room_cases (hchange : Change platform before flight more after last)
    (hsound : before.Sound flight) (hstage : .room queue job ∈ after.stages last) :
    .room queue job ∈ before.stages flight ∨ job.Formed after.heap.get? := by
  have hsupported := (hchange.sound hsound).rooted.supported _ hstage
  rcases hchange.stage_cases hstage with hbefore | hdemand |
    ⟨target, other, hroom, -, extent, hlaunches⟩ | ⟨id, outcome, hdiscarded, -⟩
  · exact .inl hbefore
  · exact .inr (.inl (hdemand.job queue job rfl))
  · obtain ⟨rfl, rfl⟩ := Stage.room.inj hroom
    exact .inr (.inr ⟨rfl, extent, hchange.launches_transfer hsound hsupported.2 hlaunches⟩)
  · exact absurd hdiscarded (by simp)

/-- A job that a session holds after a change was held before, or the change begins with it. -/
theorem Change.holds_cases (hchange : Change platform before flight more after last)
    (hsound : before.Sound flight) (hholds : after.Holds last job) :
    before.Holds flight job ∨ job.Formed after.heap.get? := by
  rcases hholds with ⟨queue, hjob⟩ | ⟨queue, hstage⟩
  · have hmem : job ∈ before.heap.jobsOf queue ++ acceptedJobs queue more := by
      rw [hchange.jobsOf hsound queue]
      exact List.mem_append_right _ hjob
    rcases List.mem_append.1 hmem with hmem | hmem
    · exact .inl (.inl ⟨queue, hmem⟩)
    · cases hchange with
      | accept =>
        obtain ⟨rfl, hevent⟩ := Happening.queued.inj
          (List.mem_singleton.1 (mem_acceptedJobs_iff.1 hmem))
        obtain rfl := QueueEvent.accepted.inj hevent
        exact .inl (.inr ⟨queue, List.mem_cons_self⟩)
      | _ => exact absurd hmem (by simp [acceptedJobs, Happening.accepted?])
  · exact (hchange.room_cases hsound hstage).imp_left fun hmem ↦ .inr ⟨queue, hmem⟩

/-- Every job that a session holds is a launch of the kernel it holds, or no launch. -/
theorem History.formed (hhistory : History platform allowed start log session flight)
    (hfresh : start.Fresh) (hholds : session.Holds flight job) :
    job.Formed session.heap.get? := by
  refine hhistory.induct (motive := fun _ session flight ↦ session.Holds flight job →
    job.Formed session.heap.get?) (sound_fresh hfresh) ?_ ?_ (fun _ _ _ _ _ hformed ↦ hformed) hholds
  · rintro (⟨queue, hjob⟩ | ⟨queue, hstage⟩)
    · rw [hfresh.heap] at hjob
      exact absurd hjob List.not_mem_nil
    · simp [stages, hfresh.waiting] at hstage
  · intro log before flight more after last _ hsound hformed hchange hholds
    rcases hchange.holds_cases hsound hholds with hbefore | hnew
    · have hsupported := supported_of_holds (hchange.sound hsound) hholds
      rcases hformed hbefore with hother | ⟨hsome, extent, hlaunches⟩
      · exact .inl hother
      · exact .inr ⟨hsome, extent, hchange.launches_transfer hsound hsupported hlaunches⟩
    · exact hnew

/-! ## Ends of launches -/

/-- A job that has been finished has run. -/
theorem History.ran (hhistory : History platform allowed start log session flight)
    (hfresh : start.Fresh) (hfinished : .queued queue (.finished job failure) ∈ log) :
    ∃ before after, job.Runs platform.routine before after failure := by
  refine hhistory.induct (motive := fun log _ _ ↦
    Happening.queued queue (.finished job failure) ∈ log →
      ∃ before after, job.Runs platform.routine before after failure) (sound_fresh hfresh)
    (fun hmem ↦ absurd hmem List.not_mem_nil) ?_ (fun _ _ _ _ _ hran ↦ hran) hfinished
  intro log before flight more after last _ _ hran hchange hmem
  rcases List.mem_append.1 hmem with hmem | hmem
  · exact hran hmem
  · cases hchange with
    | finish hqueue hjobs hruns =>
      obtain ⟨-, hevent⟩ := Happening.queued.inj (List.mem_singleton.1 hmem)
      obtain ⟨rfl, rfl⟩ := QueueEvent.finished.inj hevent
      exact ⟨_, _, hruns⟩
    | _ => simp at hmem

/-- When a queue has been drained, everything it had accepted until then has been finished. -/
theorem History.drained (hhistory : History platform allowed start log session flight)
    (hfresh : start.Fresh) {earlier later : List Happening} {event : QueueEvent}
    (hlog : log = earlier ++ .queued queue event :: later) (hdrain : event.IsDrain) :
    acceptedJobs queue earlier = (finishedJobs queue earlier).map (·.1) := by
  refine hhistory.induct (motive := fun log _ _ ↦ ∀ later,
    log = earlier ++ Happening.queued queue event :: later →
      acceptedJobs queue earlier = (finishedJobs queue earlier).map (·.1)) (sound_fresh hfresh) ?_ ?_
    (fun _ _ _ _ _ hdrained ↦ hdrained) later hlog
  · intro later hnil
    exact absurd hnil.symm (by simp)
  · intro log before flight more after last hbefore hsound hdrained hchange later happend
    rcases List.append_eq_append_iff.1 happend with ⟨middle, rfl, hmore⟩ | ⟨rest, hlog, hrest⟩
    · have hmem : .queued queue event ∈ more := by
        rw [hmore]
        exact List.mem_append_right _ List.mem_cons_self
      obtain ⟨hsingle, hnone⟩ := hchange.jobsOf_of_drain hsound hdrain hmem
      obtain rfl : middle = [] := by
        cases middle with
        | nil => rfl
        | cons first rest => simp [hsingle] at hmore
      rw [List.append_nil, hbefore.ledger hfresh queue, hnone, List.append_nil]
    · cases rest with
      | nil =>
        have hmem : .queued queue event ∈ more := by
          rw [List.nil_append] at hrest
          exact hrest ▸ List.mem_cons_self
        obtain ⟨-, hnone⟩ := hchange.jobsOf_of_drain hsound hdrain hmem
        rw [List.append_nil] at hlog
        rw [← hlog, hbefore.ledger hfresh queue, hnone, List.append_nil]
      | cons first rest =>
        obtain ⟨rfl, -⟩ := List.cons.inj hrest
        exact hdrained rest hlog

/-- A routine that a job has entered has returned or panicked. -/
theorem runs_enter {routine : Entry → Routine} {entry : Entry} {invocation : Invocation}
    {before after : HostState} (hruns : job.Runs routine before after failure)
    (hwork : job.work = .enter entry invocation) :
    (routine entry invocation before = .returned after ∧ failure = none) ∨
      ∃ text found, routine entry invocation before = .panicked text after ∧
        failure = some found := by
  unfold Job.Runs at hruns
  rw [hwork, Work.run] at hruns
  cases hending : routine entry invocation before with
  | returned last =>
    rw [hending] at hruns
    cases failure with
    | none => exact .inl ⟨congrArg _ (WorkEnding.done.inj hruns), rfl⟩
    | some found => exact absurd hruns (by simp)
  | panicked text last =>
    rw [hending] at hruns
    cases failure with
    | none => exact absurd hruns (by simp)
    | some found =>
      exact .inr ⟨text, found, congrArg _ (WorkEnding.failed.inj hruns).2, rfl⟩
  | waiting =>
    rw [hending] at hruns
    cases failure <;> exact absurd hruns (by simp)

/-- A launch that decides on a job for a queue of the host enters the kernel of its handle, at the
device address of its parameters or at null without any, and over its extent. -/
theorem launch_ensures (platform : Platform) (session : Session)
    (queue kernel parameters : Handle) (extent : Extent) :
    ((Call.launch queue kernel parameters extent).decide platform session).Ensures fun decision ↦
      ∀ target job, decision.effect = .launch target job →
        ∃ id own found, session.kernel kernel = .ok (id, .host own) ∧
          session.parameters parameters = .ok found ∧
          job = ⟨.launch, .enter own.entry
            ⟨(found.map (·.2.report.deviceAddress)).getD 0, extent⟩,
              id :: (found.map (·.1)).toList, none⟩ := by
  refine ensures_of_remarks fun resolved ↦
    (?_ : Deciding.Remarks platform.environment resolved _ _)
  refine remarks_found fun owner _ ↦ remarks_found fun entered hkernel ↦
    remarks_found fun found hparameters ↦
      remarks_weaken (remarks_launch_eq owner entered found extent) fun decision hdecision ↦ ?_
  intro target job heffect
  rcases hdecision with ⟨_, _, _, creation, hcreate, -⟩ | ⟨_, own, -, hown, hlaunch⟩
  · rw [heffect] at hcreate
    exact absurd hcreate (by simp)
  · rw [heffect] at hlaunch
    obtain ⟨-, rfl⟩ := Effect.launch.inj hlaunch
    obtain ⟨id, kernel⟩ := entered
    obtain rfl : kernel = .host own := hown
    exact ⟨id, own, found, hkernel, hparameters, rfl⟩

end Session

end Offload
