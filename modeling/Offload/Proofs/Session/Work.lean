import Offload.Proofs.Session.Preservation
import Offload.Session.Worker

/-!
# Workers preserve soundness

A worker takes the oldest job of its queue, runs it and gives up what the job held. Whatever the
job did to the host state, the session is kept afterwards.
-/

namespace Offload

/-- A job ends with a host state and, if it failed, a failure. -/
def Job.Runs (routine : Entry → Routine) (job : Job) (before after : HostState)
    (failure : Option Failure) : Prop :=
  job.work.run routine job.operation before =
    match failure with
    | none => .done after
    | some failure => .failed failure after

/-- A job ends in one way. -/
theorem Job.Runs.unique {routine : Entry → Routine} {job : Job} {before after last : HostState}
    {failure other : Option Failure} (hfirst : job.Runs routine before after failure)
    (hsecond : job.Runs routine before last other) : after = last ∧ failure = other := by
  unfold Runs at hfirst hsecond
  rw [hfirst] at hsecond
  cases failure <;> cases other <;> simp_all

@[simp]
theorem Progress.pending_finish (progress : Progress) (failure : Option Failure) :
    (progress.finish failure).1.pending = progress.pending - 1 := by
  unfold finish
  split <;> rfl

namespace Session

open Heap

variable {platform : Platform} {session after : Session} {flight : List Stage} {id : ObjectId}

/-- What is noted of a failure that no drain will take. -/
def additional : Option Failure → Journal
  | none => []
  | some failure =>
    [⟨.warn, "Dropping additional CPU queue failure until next sync",
      [("error", failure.message)]⟩]

/-- The heap in which the future of a job is settled. -/
def settled (heap : Heap) (job : Job) (failure : Option Failure) : Heap :=
  match job.future with
  | none => heap
  | some future => heap.settleFuture future (futureOutcome failure)

/-- The session in which a queue has counted a job as finished. -/
def retire (session : Session) (id : ObjectId) (queue : HostQueue) (job : Job) (rest : List Job)
    (failure : Option Failure) : Session :=
  { session with
    heap := (settled session.heap job failure).modifyQueue id
      ({ · with progress := (queue.progress.finish failure).1, jobs := rest }) }

theorem finish_eq (session : Session) (id : ObjectId) (queue : HostQueue) (job : Job)
    (rest : List Job) (failure : Option Failure) :
    session.finish id queue job rest failure =
      (((session.retire id queue job rest failure).note
        (additional (queue.progress.finish failure).2)).collect).wake id := by
  unfold finish retire settled
  generalize queue.progress.finish failure = result
  obtain ⟨progress, dropped⟩ := result
  cases dropped <;> rfl

/-- The worker of a queue has run its oldest job. -/
theorem work?_eq_some (hwork : session.work? platform id = some after) :
    ∃ queue job rest host failure, session.heap.hostQueue? id = some queue ∧
      queue.jobs = job :: rest ∧ job.Runs platform.routine session.host host failure ∧
      after = ({ session with host } : Session).finish id queue job rest failure := by
  unfold work? at hwork
  split at hwork
  · exact absurd hwork (by simp)
  · next queue hqueue =>
    split at hwork
    · exact absurd hwork (by simp)
    · next job rest hjobs =>
      split at hwork
      · next host hrun =>
        exact ⟨queue, job, rest, host, none, hqueue, hjobs, hrun, (Option.some.inj hwork).symm⟩
      · next failure host hrun =>
        exact ⟨queue, job, rest, host, some failure, hqueue, hjobs, hrun,
          (Option.some.inj hwork).symm⟩
      · exact absurd hwork (by simp)

/-! ## Settled futures -/

theorem alike_settled (heap : Heap) (job : Job) (failure : Option Failure) :
    Alike heap (settled heap job failure) := by
  unfold settled
  split
  · exact Alike.refl _
  · exact alike_settleFuture _ _ _

@[simp]
theorem hostQueue?_settled (heap : Heap) (job : Job) (failure : Option Failure)
    (other : ObjectId) : (settled heap job failure).hostQueue? other = heap.hostQueue? other := by
  unfold settled
  split
  · rfl
  · exact hostQueue?_settleFuture _ _ _ _

theorem sameViews_retire (session : Session) (id : ObjectId) (queue : HostQueue) (job : Job)
    (rest : List Job) (failure : Option Failure) :
    SameViews session.heap (session.retire id queue job rest failure).heap := by
  have hsettled : SameViews session.heap (settled session.heap job failure) := by
    unfold settled
    split
    · exact .refl _
    · exact sameViews_settleFuture _ _ _
  exact hsettled.trans (sameViews_modifyQueue _ _ _)

/-! ## Workers -/

/-- A queue that retires a job is referred to as long as it has others. -/
theorem rooted_retire {registry : Registry ObjectId} {stages : List Stage} {queue : HostQueue}
    {job : Job} {rest : List Job} (hrooted : Rooted registry stages session.heap)
    (hqueue : session.heap.hostQueue? id = some queue) (hjobs : queue.jobs = job :: rest)
    (failure : Option Failure) :
    Rooted registry stages (session.retire id queue job rest failure).heap := by
  have hsettled := hrooted.of_alike (alike_settled session.heap job failure)
    (hostQueue?_settled session.heap job failure)
  have hqueue' : (settled session.heap job failure).hostQueue? id = some queue := by
    rw [hostQueue?_settled, hqueue]
  have hbefore := hsettled.sound.queues hqueue'
  refine hsettled.modifyQueue (fun _ ↦ (queue.progress.finish failure).1) (fun _ ↦ rest) hqueue'
    ⟨?_, ?_, hbefore.positive, ?_⟩ ?_
  · rw [Progress.pending_finish, hbefore.pending, hjobs]
    rfl
  · rw [Progress.pending_finish]
    exact Nat.le_trans (Nat.sub_le _ _) hbefore.bounded
  · exact fun other hother ↦ hbefore.jobs other (hjobs ▸ List.mem_cons_of_mem _ hother)
  · intro _
    exact hrooted.busy hqueue
      ((hrooted.sound.queues hqueue).progress_ne (hjobs ▸ List.mem_cons_self))

theorem map_stage_wake (waiting : List Waiting) (id : ObjectId) :
    (waiting.map (·.wake id)).map (·.stage) = waiting.map (·.stage) := by
  rw [List.map_map]
  apply List.map_congr_left
  intro client _
  simp only [Function.comp_apply, Waiting.wake]
  split <;> rfl

theorem stages_wake (session : Session) (id : ObjectId) (flight : List Stage) :
    (session.wake id).stages flight = session.stages flight := by
  unfold stages wake
  rw [map_stage_wake]

theorem Kept.wake (hkept : session.Kept flight) (id : ObjectId) : (session.wake id).Kept flight := by
  refine ⟨⟨?_, hkept.tracked, hkept.loaded⟩, ?_⟩
  · rw [stages_wake]
    exact hkept.rooted
  · rw [stages_wake]
    exact hkept.tidy

theorem kept_finish {queue : HostQueue} {job : Job} {rest : List Job}
    (hrooted : Rooted session.registry (session.stages []) session.heap)
    (htracked : session.heap.Tracked) (hqueue : session.heap.hostQueue? id = some queue)
    (hjobs : queue.jobs = job :: rest) (failure : Option Failure) :
    (session.finish id queue job rest failure).Kept [] := by
  rw [finish_eq]
  apply Kept.wake
  apply kept_collect
  · exact rooted_retire hrooted hqueue hjobs failure
  · exact htracked.of_same (sameViews_retire session id queue job rest failure)

theorem Kept.work (hkept : session.Kept []) (hwork : session.work? platform id = some after) :
    after.Kept [] := by
  obtain ⟨queue, job, rest, host, failure, hqueue, hjobs, -, rfl⟩ := work?_eq_some hwork
  apply kept_finish
  · exact hkept.rooted
  · exact hkept.tracked
  · exact hqueue
  · exact hjobs

end Session

end Offload
