import Offload.Proofs.Queue.Logs

/-!
# Launches

A launch brings a future of its own. From the moment its queue accepts it until its worker has run
it, the launch is counted in the queue and its future is pending; then the future is settled for ever,
as the call of the kernel has ended. Whoever drains the queue, or gives it up, waits for that.
-/

namespace Offload

/-! ## Logs in which futures differ -/

variable {queue id : ObjectId} {job : Job} {failure : Option Failure} {log more : List Happening}

/-- No client has settled a future. -/
def LeftAlone (future : ObjectId) (log : List Happening) : Prop :=
  ∀ next, Happening.settled future next ∉ log

theorem settlings_eq_nil (halone : LeftAlone id log)
    (hended : id ∉ endedFutures log) : settlings id log = [] := by
  unfold settlings
  rw [List.filterMap_eq_nil_iff]
  intro happening hmem
  unfold Happening.settles?
  split
  · next other next =>
    split
    · next hid => exact absurd (hid ▸ hmem) (halone next)
    · rfl
  · next queue job failure =>
    split
    · next hfuture => exact absurd (mem_endedFutures_iff.2 ⟨_, _, _, hmem, hfuture⟩) hended
    · rfl
  · rfl

namespace Session

open Heap

variable {platform : Platform} {program : Program} {allowed : Session → Prop}
  {start session before after : Session} {flight last : List Stage} {future : ObjectId}

/-! ## Futures of launches -/

/-- The futures of all launches: the accepted ones, and those that wait for room. -/
def launches (log : List Happening) (session : Session) (flight : List Stage) : List ObjectId :=
  launchedFutures log ++ session.launching flight

/-- Launches have different futures, which nobody has made for a client. -/
structure Distinct (log : List Happening) (session : Session) (flight : List Stage) : Prop where
  nodup : (launches log session flight).Nodup
  older : ∀ future ∈ launches log session flight, future < session.heap.next
  made : ∀ id object, .made id object ∈ log →
    id < session.heap.next ∧ id ∉ launches log session flight

theorem Change.launches (hchange : Change platform before flight more after last)
    (log : List Happening) :
    ∃ fresh, (fresh = [] ∨ fresh = [before.heap.next] ∧ before.heap.next < after.heap.next ∧
        more = []) ∧
      (launches (log ++ more) after last).Perm (fresh ++ launches log before flight) := by
  obtain ⟨fresh, hfresh, hperm⟩ := hchange.launching
  refine ⟨fresh, hfresh, ?_⟩
  have hmiddle : (Session.launches (log ++ more) after last).Perm
      (launchedFutures log ++ (fresh ++ before.launching flight)) := by
    unfold Session.launches launchedFutures at *
    rw [List.filterMap_append, List.append_assoc]
    exact hperm.append_left _
  refine hmiddle.trans ?_
  unfold Session.launches
  rw [← List.append_assoc, ← List.append_assoc]
  exact List.perm_append_comm.append_right _

theorem Distinct.change (hdistinct : Distinct log before flight)
    (hchange : Change platform before flight more after last) :
    Distinct (log ++ more) after last := by
  obtain ⟨fresh, hfresh, hperm⟩ := hchange.launches log
  have hnext := hchange.next_le
  have hnew : before.heap.next ∉ launches log before flight :=
    fun hmem ↦ Nat.lt_irrefl _ (hdistinct.older _ hmem)
  have hold {future : ObjectId} (hmem : future ∈ launches log before flight) :
      future < after.heap.next := Nat.lt_of_lt_of_le (hdistinct.older _ hmem) hnext
  constructor
  case nodup =>
    rw [hperm.nodup_iff]
    rcases hfresh with rfl | ⟨rfl, -, -⟩
    · exact hdistinct.nodup
    · exact List.nodup_cons.2 ⟨hnew, hdistinct.nodup⟩
  case older =>
    intro future hmem
    rcases hfresh with rfl | ⟨rfl, hlater, -⟩
    · exact hold (hperm.mem_iff.1 hmem)
    · rcases List.mem_cons.1 (hperm.mem_iff.1 hmem) with rfl | hmem
      · exact hlater
      · exact hold hmem
  case made =>
    intro id object hmade
    rw [hperm.mem_iff]
    rcases List.mem_append.1 hmade with hmade | hmade
    · obtain ⟨hid, habsent⟩ := hdistinct.made id object hmade
      refine ⟨Nat.lt_of_lt_of_le hid hnext, ?_⟩
      rcases hfresh with rfl | ⟨rfl, -, -⟩
      · exact habsent
      · exact List.not_mem_cons_of_ne_of_not_mem (Nat.ne_of_lt hid) habsent
    · obtain ⟨rfl, hid, -⟩ := hchange.made_next hmade
      refine ⟨hid, ?_⟩
      rcases hfresh with rfl | ⟨-, -, rfl⟩
      · exact hnew
      · exact absurd hmade List.not_mem_nil

theorem launches_fresh (hfresh : start.Fresh) : launches [] start [] = [] := by
  unfold launches launching stages
  rw [hfresh.waiting]
  rfl

theorem History.distinct (hhistory : History platform allowed start log session flight)
    (hfresh : start.Fresh) : Distinct log session flight := by
  apply hhistory.induct (sound_fresh hfresh)
  · have hnone := launches_fresh hfresh
    refine ⟨hnone ▸ List.nodup_nil, ?_, ?_⟩
    · intro future hmem
      rw [hnone] at hmem
      exact absurd hmem List.not_mem_nil
    · exact fun id object hmade ↦ absurd hmade List.not_mem_nil
  · exact fun _ _ hdistinct hchange ↦ hdistinct.change hchange
  · exact fun _ _ _ _ _ hdistinct ↦ ⟨hdistinct.nodup, hdistinct.older, hdistinct.made⟩

/-! ## Jobs of a queue -/

/-- A queue has the jobs it has accepted and not finished, in the same order. -/
theorem History.ledger (hhistory : History platform allowed start log session flight)
    (hfresh : start.Fresh) (queue : ObjectId) :
    acceptedJobs queue log = (finishedJobs queue log).map (·.1) ++ session.heap.jobsOf queue := by
  have hnone : start.heap.jobsOf queue = [] := by
    rw [hfresh.heap]
    rfl
  have hjobs := hhistory.jobsOf (sound_fresh hfresh) queue
  rwa [hnone] at hjobs

theorem Change.ended (hchange : Change platform before flight more after last) :
    endedFutures more = [] ∨ ∃ queue job failure, more = [.queued queue (.finished job failure)] ∧
      job ∈ before.heap.jobsOf queue := by
  cases hchange with
  | @finish _ queue found job rest host failure hfound hjobs _ hafter =>
    refine .inr ⟨queue, job, failure, rfl, ?_⟩
    unfold Heap.jobsOf
    rw [hfound]
    show job ∈ found.jobs
    rw [hjobs]
    exact List.mem_cons_self
  | _ => exact .inl rfl

/-- The future of a launch is what its settlings have made of it. -/
theorem History.state (hhistory : History platform allowed start log session flight)
    (hfresh : start.Fresh) (hlaunch : future ∈ launches log session flight)
    (halone : LeftAlone future log) {found : Future}
    (hfound : session.heap.future? future = some found) :
    found = (Future.cell .pending).settleAll (settlings future log) := by
  refine hhistory.induct (motive := fun log session flight ↦ ∀ found,
    future ∈ launches log session flight → LeftAlone future log →
      session.heap.future? future = some found →
        found = (Future.cell .pending).settleAll (settlings future log)) (sound_fresh hfresh) ?_ ?_
    (fun _ _ _ _ _ hstates ↦ hstates) found hlaunch halone hfound
  · intro found hmem
    rw [launches_fresh hfresh] at hmem
    exact absurd hmem List.not_mem_nil
  · intro log before flight more after last hbefore hsound hstates hchange found hmem halone hfound
    have hdistinct := hbefore.distinct hfresh
    have hearlier : LeftAlone future log :=
      fun next hnext ↦ halone next (List.mem_append_left _ hnext)
    have happend : settlings future (log ++ more) = settlings future log ++ settlings future more :=
      List.filterMap_append
    obtain ⟨fresh, hfresh', hperm⟩ := hchange.launches log
    have hcases := List.mem_append.1 (hperm.mem_iff.1 hmem)
    rcases hchange.future hsound hfound with ⟨old, hold, rfl⟩ | ⟨hid, hnew⟩
    · have hnumber := hsound.rooted.ordered.lt_next (future?_eq_some.1 hold)
      have hlaunched : future ∈ launches log before flight := by
        rcases hcases with hmem | hmem
        · rcases hfresh' with rfl | ⟨rfl, -, -⟩
          · exact absurd hmem List.not_mem_nil
          · exact absurd (List.mem_singleton.1 hmem) (Nat.ne_of_lt hnumber)
        · exact hmem
      rw [happend, Future.settleAll_append, ← hstates old hlaunched hearlier hold]
    · -- A future that has just been made for a launch has had no settling.
      have hunknown : future ∉ launches log before flight := fun hmem ↦
        absurd (hdistinct.older future hmem) (hid ▸ Nat.lt_irrefl _)
      obtain rfl : more = [] := by
        rcases hcases with hmem | hmem
        · rcases hfresh' with rfl | ⟨-, -, hnone⟩
          · exact absurd hmem List.not_mem_nil
          · exact hnone
        · exact absurd hmem hunknown
      obtain ⟨rfl, -⟩ := hnew.resolve_left List.not_mem_nil
      have hended : future ∉ endedFutures log := by
        intro hended
        obtain ⟨target, other, failure, hfinished, hother⟩ := mem_endedFutures_iff.1 hended
        refine hunknown (List.mem_append_left _ (mem_launchedFutures_iff.2 ⟨target, other, ?_, hother⟩))
        rw [← mem_acceptedJobs_iff, hbefore.ledger hfresh]
        exact List.mem_append_left _ (List.mem_map.2 ⟨_, mem_finishedJobs_iff.2 hfinished, rfl⟩)
      rw [List.append_nil, settlings_eq_nil hearlier hended]
      rfl

/-- A settling leaves no future pending that it finds pending, unless it leaves it so. -/
theorem settleAll_eq_pending {old : Future} {states : List FutureState}
    (hpending : old.settleAll states = .cell .pending) :
    old = .cell .pending ∧ ∀ state ∈ states, state = .pending := by
  induction states generalizing old with
  | nil => exact ⟨hpending, fun _ hmem ↦ absurd hmem List.not_mem_nil⟩
  | cons state rest ih =>
    rw [Future.settleAll, List.foldl_cons] at hpending
    obtain ⟨hfirst, hrest⟩ := ih hpending
    cases old with
    | foreign => exact absurd hfirst (by simp [Future.settle])
    | cell before =>
      have hstate : before.settle state = .pending := by simpa [Future.settle] using hfirst
      cases before with
      | pending =>
        refine ⟨rfl, fun other hother ↦ ?_⟩
        rcases List.mem_cons.1 hother with rfl | hother
        · exact hstate
        · exact hrest other hother
      | _ => exact absurd hstate (by simp)

theorem futureOutcome_ne (failure : Option Failure) : futureOutcome failure ≠ .pending := by
  cases failure <;> simp [futureOutcome]

/-- Every pending future was made for a client, or belongs to a job that its queue still has, or to a
launch that waits for room. -/
theorem History.pending (hhistory : History platform allowed start log session flight)
    (hfresh : start.Fresh) (hpending : session.heap.future? future = some (.cell .pending)) :
    (∃ object, Happening.made future object ∈ log) ∨
      (∃ queue, ∃ job ∈ session.heap.jobsOf queue, job.future = some future) ∨
        future ∈ session.launching flight := by
  refine hhistory.induct (motive := fun log session flight ↦
    session.heap.future? future = some (.cell .pending) →
      (∃ object, Happening.made future object ∈ log) ∨
        (∃ queue, ∃ job ∈ session.heap.jobsOf queue, job.future = some future) ∨
          future ∈ session.launching flight) (sound_fresh hfresh) ?_ ?_ (fun _ _ _ _ _ hbelongs ↦ hbelongs) hpending
  · intro hsome
    rw [hfresh.heap] at hsome
    exact absurd hsome (by simp [Heap.future?, Table.get?])
  · intro log before flight more after last _ hsound hbelongs hchange hfound
    have hmade {object : Object} (hmem : .made future object ∈ more) :
        ∃ object, Happening.made future object ∈ log ++ more := ⟨object, List.mem_append_right _ hmem⟩
    rcases hchange.future hsound hfound with ⟨old, hold, hsettled⟩ | ⟨-, hmem | ⟨-, hlaunch⟩⟩
    · obtain ⟨rfl, hstates⟩ := settleAll_eq_pending hsettled.symm
      -- A job that has been finished would have settled the future.
      have hunfinished (queue : ObjectId) (job : Job) (hfuture : job.future = some future) :
          job ∉ (finishedJobs queue more).map (·.1) := by
        intro hmem
        obtain ⟨⟨other, failure⟩, hfinished, rfl⟩ := List.mem_map.1 hmem
        have hsettles : futureOutcome failure ∈ settlings future more :=
          List.mem_filterMap.2 ⟨_, mem_finishedJobs_iff.1 hfinished, if_pos hfuture⟩
        exact futureOutcome_ne failure (hstates _ hsettles)
      have hstays {queue : ObjectId} {job : Job} (hfuture : job.future = some future)
          (hmem : job ∈ before.heap.jobsOf queue ++ acceptedJobs queue more) :
          job ∈ after.heap.jobsOf queue := by
        rw [hchange.jobsOf hsound queue] at hmem
        exact (List.mem_append.1 hmem).resolve_left (hunfinished queue job hfuture)
      rcases hbelongs hold with ⟨object, hmem⟩ | ⟨queue, job, hjob, hfuture⟩ | hmem
      · exact .inl ⟨object, List.mem_append_left _ hmem⟩
      · exact .inr (.inl ⟨queue, job, hstays hfuture (List.mem_append_left _ hjob), hfuture⟩)
      · obtain ⟨fresh, -, hperm⟩ := hchange.launching
        rcases List.mem_append.1 (hperm.mem_iff.2 (List.mem_append_right _ hmem)) with hmem | hmem
        · obtain ⟨queue, job, haccepted, hfuture⟩ := mem_launchedFutures_iff.1 hmem
          exact .inr (.inl ⟨queue, job, hstays hfuture
            (List.mem_append_right _ (mem_acceptedJobs_iff.2 haccepted)), hfuture⟩)
        · exact .inr (.inr hmem)
    · exact .inl (hmade hmem)
    · obtain ⟨queue, job, rfl, hfuture⟩ := hlaunch
      refine .inr (.inr (List.mem_filterMap.2 ⟨.room queue job, ?_, hfuture⟩))
      exact List.mem_cons_self

end Session

end Offload
