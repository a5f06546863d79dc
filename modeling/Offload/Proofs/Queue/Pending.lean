import Offload.Proofs.Queue.Logs
import Offload.Proofs.Queue.Waking
import Offload.Proofs.Session.Creating
import Offload.Proofs.Session.Handles

/-!
# Pending operations

A queue that was asked for with some capacity, also with none, has room for that many operations and
for one at least. It counts as pending what it has accepted and not finished, never more than it has
room for, and a worker that finishes a job finds it counted. What waits for the queue sleeps for a
reason: while it sleeps the queue is full, or not idle.
-/

namespace Offload

namespace Session

open Heap

variable {program : Program} {platform : Platform} {session start before after : Session}
  {flight last : List Stage} {log more : List Happening} {allowed : Session → Prop} {id : ObjectId}

/-! ## Queues are made empty -/

/-- A queue that can come on the heap is new, for as many operations as it has room for. -/
theorem eq_new_of_makeable {find? : ObjectId → Option Object} {queue : HostQueue}
    (hmakeable : (Object.queue (.host queue)).Makeable find?) :
    queue = HostQueue.new queue.device queue.capacity := by
  obtain ⟨hsound, hprogress⟩ := hmakeable.idle queue rfl
  have hpending := hsound.pending
  rw [hprogress] at hpending
  have hjobs : queue.jobs = [] := List.length_eq_zero_iff.1 hpending.symm
  have hcapacity : max queue.capacity 1 = queue.capacity := Nat.max_eq_left hsound.positive
  obtain ⟨device, capacity, progress, jobs⟩ := queue
  simp only at hprogress hjobs hcapacity
  simp [HostQueue.new, hprogress, hjobs, hcapacity]

theorem Change.made_queue (hchange : Change platform before flight more after last)
    {queue : HostQueue} (hmade : .made id (.queue (.host queue)) ∈ more) :
    queue = HostQueue.new queue.device queue.capacity := by
  cases hchange with
  | place hmakeable | create hmakeable =>
    obtain ⟨-, rfl⟩ := Happening.made.inj (List.mem_singleton.1 hmade)
    exact eq_new_of_makeable hmakeable
  | createView => exact absurd (List.mem_singleton.1 hmade) (by simp)
  | _ => simp at hmade

/-- Every queue was made for some number of operations, and has room for that many, and for one at
least. -/
theorem History.opened (hhistory : History platform allowed start log session flight)
    (hfresh : start.Fresh) {queue : HostQueue} (hqueue : session.heap.hostQueue? id = some queue) :
    ∃ requested, .made id (.queue (.host (HostQueue.new queue.device requested))) ∈ log ∧
      queue.capacity = max requested 1 := by
  refine hhistory.induct (motive := fun log session _ ↦ ∀ queue,
    session.heap.hostQueue? id = some queue →
      ∃ requested, .made id (.queue (.host (HostQueue.new queue.device requested))) ∈ log ∧
        queue.capacity = max requested 1) (sound_fresh hfresh) ?_ ?_ ?_ queue hqueue
  · intro queue hqueue
    rw [hfresh.heap] at hqueue
    exact absurd hqueue (by simp [hostQueue?, Table.get?])
  · intro log before flight more after last _ hsound ih hchange queue hqueue
    rcases hchange.origin hsound (hostQueue?_eq_some.1 hqueue) with ⟨old, hold, houtline⟩ |
      ⟨-, hmade | ⟨hfuture, -⟩⟩
    · obtain ⟨progress, jobs, rfl⟩ := Object.eq_of_outline_hostQueue houtline.symm
      obtain ⟨requested, hmade, hcapacity⟩ := ih _ (hostQueue?_eq_some.2 hold)
      exact ⟨requested, List.mem_append_left _ hmade, hcapacity⟩
    · have hnew := hchange.made_queue hmade
      refine ⟨queue.capacity, List.mem_append_right _ (hnew ▸ hmade), ?_⟩
      exact congrArg HostQueue.capacity hnew
    · exact absurd hfuture (by simp)
  · exact fun _ _ _ _ _ ih ↦ ih

/-- What is pending has been accepted and not finished. -/
theorem History.pending_add_finished (hhistory : History platform allowed start log session flight)
    (hfresh : start.Fresh) {queue : HostQueue} (hqueue : session.heap.hostQueue? id = some queue) :
    queue.progress.pending + (finishedJobs id log).length = (acceptedJobs id log).length := by
  have hsound := sound_fresh hfresh
  have hjobs := hhistory.jobsOf hsound id
  have hnone : start.heap.jobsOf id = [] := by
    rw [hfresh.heap]
    rfl
  have hlength := congrArg List.length hjobs
  rw [hnone, Heap.jobsOf, hqueue] at hlength
  simp only [List.nil_append, List.length_append, List.length_map] at hlength
  rw [((hhistory.sound hsound).rooted.sound.queues hqueue).pending, hlength, Nat.add_comm]

/-! ## Asking for a queue -/

/-- An operation that makes a queue ends with a handle for it. -/
theorem perform_createQueue {decide : Deciding Decision} {creation : Creation} {ambient : Ambient}
    {made : HostQueue} (hkept : session.Kept []) (hregistry : 0 < session.registry.next)
    (hdecide : decide.Ensures (Decision.Supported session.heap.get?))
    (hkind : creation.kind = .taskQueue)
    (hrun : decide.run.run session.ambient = (.ok (.create creation), ambient))
    (hmade : ∀ other : Session, other.heap = session.heap →
      (other.placeCreation creation).1.heap.hostQueue? (other.placeCreation creation).2 =
        some made) :
    ∃ after handle id, session.perform decide = (after, .reply (.handle handle)) ∧
      after.queue handle = .ok (id, .host made) := by
  have hfound := queue?_eq_some.2 (hostQueue?_eq_some.1 (hmade { session with ambient } rfl))
  have hlookup := @found_create { session with ambient } _ _ _ creation hregistry hfound
  rw [hkind] at hlookup
  exact ⟨_, _, _, perform_creates hkept hdecide hrun, hlookup⟩

/-- A queue with a device of its own has room for as many operations as it was asked for with, and
for one at least. -/
theorem enter_queueWithCapacity (platform : Platform) (hkept : session.Kept [])
    (hregistry : 0 < session.registry.next) (requested : Nat) :
    ∃ after handle id device,
      (Request.queueWithCapacity requested).enter platform session = (after, .reply (.handle handle)) ∧
        after.queue handle = .ok (id, .host (HostQueue.new device requested)) := by
  have hmade (other : Session) (hheap : other.heap = session.heap) :
      (other.placeCreation (.queueWithDevice requested)).1.heap.hostQueue?
        (other.placeCreation (.queueWithDevice requested)).2 =
          some (HostQueue.new (session.heap.next + 1) requested) := by
    rw [hostQueue?_eq_some, ← hheap]
    exact Sound.get?_place _ _
  have hrun : ((Request.queueWithCapacity requested).decide platform session).run.run
      session.ambient = (.ok (.create (.queueWithDevice requested)), _) := rfl
  obtain ⟨after, handle, id, henter, hqueue⟩ := perform_createQueue hkept hregistry
    (Request.ensures_decide hkept.toSound _) rfl hrun hmade
  exact ⟨after, handle, id, _, henter, hqueue⟩

/-- A queue of a device has room for as many operations as the settings say, and for one at
least. -/
theorem enter_newQueue (platform : Platform) (hkept : session.Kept [])
    (hregistry : 0 < session.registry.next) {device : Handle} {owner : ObjectId} {index : Nat}
    {context : ObjectId} (hdevice : session.device device = .ok (owner, .host index context)) :
    ∃ after handle id,
      (Call.newQueue device).enter platform session = (after, .reply (.handle handle)) ∧
        after.queue handle = .ok (id, .host (HostQueue.new owner
          (session.ambient.resolve platform.environment).1.maxPending)) := by
  have hmade (requested : Nat) (other : Session) (_ : other.heap = session.heap) :
      (other.placeCreation (.queue (.host (HostQueue.new owner requested)))).1.heap.hostQueue?
        (other.placeCreation (.queue (.host (HostQueue.new owner requested)))).2 =
          some (HostQueue.new owner requested) := by
    rw [hostQueue?_eq_some]
    exact Sound.get?_place _ _
  have hrun : ∃ ambient, ((Call.newQueue device).decide platform session).run.run session.ambient =
      (.ok (.create (.queue (.host (HostQueue.new owner
        (session.ambient.resolve platform.environment).1.maxPending)))), ambient) := by
    have hdecide : (Call.newQueue device).decide platform session =
        ((liftM (session.device device) : Deciding _) >>= fun found ↦
          Session.newQueue platform found.1 found.2) := rfl
    rw [hdecide, hdevice, Deciding.lift_ok_bind]
    exact ⟨_, rfl⟩
  obtain ⟨ambient, hrun⟩ := hrun
  exact perform_createQueue hkept hregistry (Call.ensures_decide _) rfl hrun (hmade _)

/-! ## Bounds and sleep -/

/-- A worker that has run a job finds it counted, and wakes every client of its queue. -/
theorem pending_work {queue : HostQueue} (hkept : session.Kept [])
    (hqueue : session.heap.hostQueue? id = some queue)
    (hwork : session.work? platform id = some after) :
    0 < queue.progress.pending ∧
      (∃ left, after.heap.hostQueue? id = some left ∧
        left.progress.pending + 1 = queue.progress.pending) ∧
      ∀ client ∈ after.waiting, client.stage.queue = id → client.awake = true := by
  obtain ⟨found, job, rest, host, failure, hfound, hjobs, -, retired, hheap, hregistry, hwaiting, -,
    hrooted, -, rfl⟩ := work_retires hkept hwork
  obtain rfl := Option.some.inj (hqueue.symm.trans hfound)
  have hsound := hkept.rooted.sound.queues hqueue
  have hpositive : 0 < queue.progress.pending := by
    rw [hsound.pending, hjobs]
    exact Nat.succ_pos _
  refine ⟨hpositive, ⟨{ queue with progress := (queue.progress.finish failure).1, jobs := rest },
    ?_, ?_⟩, ?_⟩
  · have hretired : retired.heap.hostQueue? id = some
        { queue with progress := (queue.progress.finish failure).1, jobs := rest } := by
      rw [hheap, hostQueue?_modifyQueue, if_pos rfl, hostQueue?_settled, hqueue]
      rfl
    have hrefers : Refers retired.registry (retired.stages []) id := by
      unfold stages
      rw [hregistry, hwaiting]
      exact hkept.rooted.busy hqueue (hsound.progress_ne (hjobs ▸ List.mem_cons_self))
    exact hostQueue?_collect_of_refers hrooted hretired hrefers
  · rw [Progress.pending_finish]
    exact Nat.sub_add_cancel hpositive
  · intro client hclient htarget
    obtain ⟨other, -, rfl⟩ := List.mem_map.1 hclient
    unfold Waiting.wake at htarget ⊢
    split at htarget
    · next hother => rw [if_pos hother]
    · next hother => exact absurd htarget hother

/-- Queues stay within their room, and no wake-up is lost.

This holds of every session in which a call is made, also inside an error handler, whatever clients
and workers have done before. A queue has room for as many operations as it was asked for with, and
for one at least. What it counts as pending it has accepted and not finished, and that is never more
than it has room for; a worker that finishes a job counts it off and wakes every client of the queue.
A client goes on exactly if its queue has room, or is idle for a client that drains it. No client
sleeps that could go on, nor does an operation that has to wait inside a handler while the workers
run. -/
theorem no_wakeup_lost (hvisited : Visited program session) :
    (∀ requested, ∃ after handle id device,
      (Request.queueWithCapacity requested).enter program.toPlatform session =
          (after, .reply (.handle handle)) ∧
        after.queue handle = .ok (id, .host (HostQueue.new device requested))) ∧
    (∀ device owner index context, session.device device = .ok (owner, .host index context) →
      ∃ after handle id,
        (Call.newQueue device).enter program.toPlatform session =
            (after, .reply (.handle handle)) ∧
          after.queue handle = .ok (id, .host (HostQueue.new owner
            (session.ambient.resolve program.environment).1.maxPending))) ∧
    (∃ start log, start.Fresh ∧ History program.toPlatform (fun _ ↦ True) start log session [] ∧
      ∀ id queue, session.heap.hostQueue? id = some queue →
        (∃ requested, .made id (.queue (.host (HostQueue.new queue.device requested))) ∈ log ∧
          queue.capacity = max requested 1) ∧
        queue.progress.pending + (finishedJobs id log).length = (acceptedJobs id log).length ∧
        queue.progress.pending = queue.jobs.length ∧
        queue.progress.pending ≤ queue.capacity) ∧
    (∀ id queue after, session.heap.hostQueue? id = some queue →
      session.work? program.toPlatform id = some after →
        0 < queue.progress.pending ∧
        (∃ left, after.heap.hostQueue? id = some left ∧
          left.progress.pending + 1 = queue.progress.pending) ∧
        ∀ client ∈ after.waiting, client.stage.queue = id → client.awake = true) ∧
    (∀ stage queue, session.heap.hostQueue? stage.queue = some queue →
      (session.advance? stage = none ↔ queue.Delays stage)) ∧
    session.Alert ∧
    ∀ (call : Call) (entered : Session) (stage : Stage),
      call.enter program.toPlatform session = (entered, .waits stage) →
        stage.Unmet entered.heap ∧
        ∀ fuel, ((entered.parked stage).workAll program.toPlatform fuel).Alert := by
  have hsettled := hvisited.settled
  have hkept := hsettled.kept
  obtain ⟨start, log, hfresh, hhistory⟩ := hvisited.history
  have hregistry := hvisited.next_pos
  refine ⟨enter_queueWithCapacity _ hkept hregistry, ?_, ⟨start, log, hfresh, hhistory, ?_⟩, ?_, ?_,
    hvisited.alert, ?_⟩
  · intro device owner index context hdevice
    exact enter_newQueue _ hkept hregistry hdevice
  · intro id queue hqueue
    have hsound := hkept.rooted.sound.queues hqueue
    exact ⟨hhistory.opened hfresh hqueue, hhistory.pending_add_finished hfresh hqueue,
      hsound.pending, hsound.bounded⟩
  · intro id queue after hqueue hwork
    exact pending_work hkept hqueue hwork
  · intro stage queue hqueue
    rw [advance?_eq_none_iff ⟨queue, hqueue⟩]
    simp [Stage.Unmet, hqueue]
  · intro call entered stage henter
    have hdecide : (call.decide program.toPlatform session).Ensures _ := Call.ensures_decide call
    have hperform : session.perform (call.decide program.toPlatform session) =
      (entered, .waits stage) := henter
    obtain ⟨hentered, hticketed, -⟩ := hsettled.enter hdecide
    obtain ⟨hundisturbed, hunmet⟩ := undisturbed_perform hkept hdecide
    rw [hperform] at hentered hticketed hundisturbed hunmet
    have hunmet := hunmet stage rfl
    have hparked := (await_cases program.toPlatform hentered hticketed).1
    exact ⟨hunmet, fun fuel ↦
      ((hvisited.alert.undisturbed hundisturbed).parked hunmet).workAll hparked _ fuel⟩

/-- Two launches on a queue that was asked for without any room: it takes the first. -/
def crowded : Session :=
  startAll {} {} [.queueWithCapacity 0, .hostDevice 0, .symbolModule "routines" [("idle", "idle")],
    .newKernel 2 3 "idle", .launch 1 4 0 (.line 1), .launch 1 4 0 (.line 1)]

/-- The second launch sleeps, and the queue has room for one operation, which is pending. -/
theorem no_wakeup_lost_crowded :
    ∃ client queue, crowded.waiting = [client] ∧ client.awake = false ∧
      crowded.heap.hostQueue? client.stage.queue = some queue ∧
      queue.capacity = 1 ∧ queue.progress.pending = 1 ∧ queue.Delays client.stage := by
  have hvisited : Visited {} crowded :=
    .reachable ((runs_startAll {} {} _).reachable (.fresh ⟨rfl, rfl, rfl, rfl, rfl⟩))
  obtain ⟨-, -, -, -, -, halert, -⟩ := no_wakeup_lost hvisited
  obtain ⟨queue, hqueue, hdelays⟩ := halert _ List.mem_cons_self rfl
  obtain rfl := Option.some.inj hqueue
  exact ⟨_, _, rfl, rfl, rfl, rfl, rfl, hdelays⟩

end Session

end Offload
