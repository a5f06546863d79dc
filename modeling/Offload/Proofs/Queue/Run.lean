import Offload.Proofs.Session.Work

/-!
# Runs of a queue

What happens to one queue while a session goes on: it accepts jobs, its worker finishes them, clients
drain it, and the client with the last reference to it drains it for the last time. Everything else
leaves the queue as it is. A queue goes only when nothing is pending or recorded in it.
-/

namespace Offload

/-- What happens to a queue. -/
inductive QueueEvent where
  | accepted (job : Job)
  | finished (job : Job) (failure : Option Failure)
  /-- A client that waited for the queue gets an outcome. -/
  | synced (outcome : Outcome)
  /-- The client with the last reference has drained the queue. -/
  | dropped

/-- Something that happened to a queue, with the warnings that were noted meanwhile. -/
structure QueueEntry where
  event : QueueEvent
  warnings : Journal

namespace Session

open Heap

variable {platform : Platform} {id : ObjectId} {session start before after last : Session}
  {history more : List QueueEntry} {stage : Stage} {progressed : Progressed}

/-- The warnings a session has noted since it was another one. -/
def warningsSince (before after : Session) : Journal :=
  (after.ambient.journal.drop before.ambient.journal.length).filter (·.level == .warn)

/-- A move of a session that is something that happens to a queue. -/
inductive QueueMove (platform : Platform) (id : ObjectId) :
    Session → QueueEvent → Session → Prop where
  | accept {before after : Session} {job : Job} {progressed : Progressed}
    (hadvance : before.advance? (.room id job) = some (after, progressed)) :
    QueueMove platform id before (.accepted job) after
  | finish {before after : Session} {queue : HostQueue} {job : Job} {rest : List Job}
    {host : HostState} {failure : Option Failure}
    (hqueue : before.heap.hostQueue? id = some queue) (hjobs : queue.jobs = job :: rest)
    (hruns : job.Runs platform.routine before.host host failure)
    (hwork : before.work? platform id = some after)
    (hstays : after.heap.hostQueue? id = some
      { queue with progress := (queue.progress.finish failure).1, jobs := rest }) :
    QueueMove platform id before (.finished job failure) after
  | sync {before after : Session} {progressed : Progressed} {outcome : Outcome}
    (hadvance : before.advance? (.drained id) = some (after, progressed))
    (hverdict : progressed.verdict = some outcome) :
    QueueMove platform id before (.synced outcome) after
  | drop {before after : Session} {progressed : Progressed} {outcome : Outcome}
    (hadvance : before.advance? (.discarded id outcome) = some (after, progressed)) :
    QueueMove platform id before .dropped after

/-- A move of a session that leaves a queue as it is, or in which an idle queue goes. -/
def Aside (id : ObjectId) (before after : Session) : Prop :=
  after.heap.hostQueue? id = before.heap.hostQueue? id ∨
    (∃ queue, before.heap.hostQueue? id = some queue ∧ queue.progress = {}) ∧
      after.heap.hostQueue? id = none

/-- What has happened to a queue from one session to another, oldest first. -/
inductive QueueRun (platform : Platform) (id : ObjectId) :
    Session → List QueueEntry → Session → Prop where
  | refl (session : Session) : QueueRun platform id session [] session
  | move {start before after : Session} {history : List QueueEntry} {event : QueueEvent}
    (hrun : QueueRun platform id start history before)
    (hmove : QueueMove platform id before event after) :
    QueueRun platform id start (history ++ [⟨event, before.warningsSince after⟩]) after
  | aside {start before after : Session} {history : List QueueEntry}
    (hrun : QueueRun platform id start history before) (haside : Aside id before after) :
    QueueRun platform id start history after

theorem QueueRun.trans (hfirst : QueueRun platform id start history before)
    (hsecond : QueueRun platform id before more after) :
    QueueRun platform id start (history ++ more) after := by
  induction hsecond with
  | refl =>
    rw [List.append_nil]
    exact hfirst
  | move _ hmove ih =>
    rw [← List.append_assoc]
    exact ih.move hmove
  | aside _ haside ih => exact ih.aside haside

theorem heap_deliver (session : Session) (job : Job) :
    (session.deliver job).1.heap = session.heap := by
  unfold deliver
  split <;> rfl

/-- A client that moves on changes the queue it waits for and nothing else on the heap. -/
theorem heap_advance (hadvance : session.advance? stage = some (after, progressed)) :
    ∃ (progress : HostQueue → Progress) (jobs : HostQueue → List Job),
      after.heap = session.heap.modifyQueue stage.queue fun queue ↦
        { queue with progress := progress queue, jobs := jobs queue } := by
  cases stage with
  | room id job =>
    obtain ⟨queue, -, -, hresult⟩ := advance?_room hadvance
    have hafter : after = (leave _ _ _).1 := congrArg Prod.fst hresult
    rw [hafter, (leave_eq _ _ _).1, heap_deliver]
    exact ⟨fun _ ↦ { queue.progress with pending := queue.progress.pending + 1 },
      fun queue ↦ queue.jobs ++ [job], rfl⟩
  | drained id =>
    obtain ⟨queue, -, -, hresult⟩ := advance?_drained hadvance
    have hafter : after = (leave _ _ _).1 := congrArg Prod.fst hresult
    rw [hafter, (leave_eq _ _ _).1]
    exact ⟨fun _ ↦ {}, (·.jobs), rfl⟩
  | discarded id outcome =>
    obtain ⟨queue, -, -, rfl, -⟩ := advance?_discarded hadvance
    exact ⟨fun _ ↦ {}, (·.jobs), rfl⟩

theorem host_advance (hadvance : session.advance? stage = some (after, progressed)) :
    after.host = session.host := by
  cases stage with
  | room id job =>
    obtain ⟨queue, -, -, hresult⟩ := advance?_room hadvance
    have hafter : after = (leave _ _ _).1 := congrArg Prod.fst hresult
    rw [hafter, (leave_eq _ _ _).1]
    unfold deliver
    split <;> rfl
  | drained id =>
    obtain ⟨queue, -, -, hresult⟩ := advance?_drained hadvance
    have hafter : after = (leave _ _ _).1 := congrArg Prod.fst hresult
    rw [hafter, (leave_eq _ _ _).1]
    rfl
  | discarded id outcome =>
    obtain ⟨queue, -, -, rfl, -⟩ := advance?_discarded hadvance
    rfl

/-- A collection leaves a queue alone that something outside the heap refers to. -/
theorem hostQueue?_collect_of_refers {queue : HostQueue}
    (hrooted : Rooted session.registry (session.stages []) session.heap)
    (hqueue : session.heap.hostQueue? id = some queue)
    (hrefers : Refers session.registry (session.stages []) id) :
    session.collect.heap.hostQueue? id = some queue := by
  have hheap : session.collect.heap = session.heap.collect session.roots := rfl
  rw [hheap, hostQueue?_collect_eq_some hrooted.sound.layered]
  refine ⟨hqueue, .root ?_⟩
  rw [roots_eq_anchors]
  exact (mem_anchors_iff hrooted.numbered).2 (.inl hrefers)

/-- A collection takes away only queues with nothing pending or recorded. -/
theorem aside_collect (hrooted : Rooted session.registry (session.stages []) session.heap)
    (id : ObjectId) : Aside id session session.collect := by
  have hlayered := hrooted.sound.layered
  have hheap : session.collect.heap = session.heap.collect session.roots := rfl
  cases hbefore : session.heap.hostQueue? id with
  | none =>
    refine .inl ?_
    rw [hbefore, hheap]
    apply Option.eq_none_iff_forall_ne_some.2
    intro queue hqueue
    have hthere := ((hostQueue?_collect_eq_some hlayered).1 hqueue).1
    rw [hbefore] at hthere
    exact absurd hthere (by simp)
  | some queue =>
    by_cases hprogress : queue.progress = {}
    · cases hafter : session.collect.heap.hostQueue? id with
      | none => exact .inr ⟨⟨queue, hbefore, hprogress⟩, hafter⟩
      | some other =>
        rw [hheap] at hafter
        refine .inl ?_
        rw [hheap, hafter, hbefore, ← ((hostQueue?_collect_eq_some hlayered).1 hafter).1, hbefore]
    · refine .inl ?_
      rw [hbefore]
      exact hostQueue?_collect_of_refers hrooted hbefore (hrooted.busy hbefore hprogress)

/-- A worker retires its job, and then there is a collection. -/
theorem work_retires (hkept : session.Kept []) (hwork : session.work? platform id = some after) :
    ∃ queue job rest host failure, session.heap.hostQueue? id = some queue ∧
      queue.jobs = job :: rest ∧ job.Runs platform.routine session.host host failure ∧
      ∃ retired : Session, retired.heap = (settled session.heap job failure).modifyQueue id
          ({ · with progress := (queue.progress.finish failure).1, jobs := rest }) ∧
        retired.registry = session.registry ∧ retired.waiting = session.waiting ∧
        retired.host = host ∧ Rooted retired.registry (retired.stages []) retired.heap ∧
        retired.heap.Tracked ∧ after = retired.collect.wake id := by
  obtain ⟨queue, job, rest, host, failure, hqueue, hjobs, hruns, hafter⟩ := work?_eq_some hwork
  rw [finish_eq] at hafter
  refine ⟨queue, job, rest, host, failure, hqueue, hjobs, hruns,
    (({ session with host } : Session).retire id queue job rest failure).note
      (additional (queue.progress.finish failure).2), rfl, rfl, rfl, rfl, ?_, ?_, hafter⟩
  · exact rooted_retire hkept.rooted hqueue hjobs failure
  · exact hkept.tracked.of_same (sameViews_retire { session with host } id queue job rest failure)

/-- A worker leaves other queues aside. -/
theorem aside_work {queue : ObjectId} (hkept : session.Kept []) (hother : id ≠ queue)
    (hwork : session.work? platform queue = some after) : Aside id session after := by
  obtain ⟨ordered, job, rest, host, failure, -, -, -, retired, hheap, -, -, -, hrooted, -, rfl⟩ :=
    work_retires hkept hwork
  have hqueue : retired.heap.hostQueue? id = session.heap.hostQueue? id := by
    rw [hheap, hostQueue?_modifyQueue, if_neg hother, hostQueue?_settled]
  have haside := aside_collect hrooted id
  unfold Aside at haside
  rw [hqueue] at haside
  exact haside

/-! ## Coverage -/

/-- One session comes from another by a run of a queue that was made before. -/
def Covers (platform : Platform) (id : ObjectId) (before after : Session) : Prop :=
  id < before.heap.next →
    id < after.heap.next ∧ ∃ history, QueueRun platform id before history after

namespace Covers

theorem refl (session : Session) : Covers platform id session session :=
  fun hid ↦ ⟨hid, [], .refl session⟩

theorem trans (hfirst : Covers platform id before after) (hsecond : Covers platform id after last) :
    Covers platform id before last := by
  intro hid
  obtain ⟨hmiddle, history, hrun⟩ := hfirst hid
  obtain ⟨hlast, more, hmore⟩ := hsecond hmiddle
  exact ⟨hlast, history ++ more, hrun.trans hmore⟩

theorem move {event : QueueEvent} (hnext : after.heap.next = before.heap.next)
    (hmove : QueueMove platform id before event after) : Covers platform id before after :=
  fun hid ↦ ⟨hnext ▸ hid, _, (QueueRun.refl before).move hmove⟩

theorem aside (hnext : before.heap.next ≤ after.heap.next)
    (haside : id < before.heap.next → Aside id before after) : Covers platform id before after :=
  fun hid ↦ ⟨Nat.lt_of_lt_of_le hid hnext, _, (QueueRun.refl before).aside (haside hid)⟩

/-- What leaves the heap alone leaves its queues alone. -/
theorem of_heap_eq (hheap : after.heap = before.heap) : Covers platform id before after := by
  apply aside
  · exact Nat.le_of_eq (congrArg Table.next hheap.symm)
  · exact fun _ ↦ .inl (congrArg (Heap.hostQueue? · id) hheap)

/-- A change of other objects in place leaves a queue alone. -/
theorem of_alike (halike : Alike before.heap after.heap)
    (hqueue : after.heap.hostQueue? id = before.heap.hostQueue? id) :
    Covers platform id before after := by
  apply aside
  · exact Nat.le_of_eq halike.next
  · exact fun _ ↦ .inl hqueue

/-- Queues that are there stay as they are when objects are made. -/
theorem place (session : Session) (object : Object) :
    Covers platform id session (session.place object).1 := by
  apply aside
  · exact Nat.le_succ _
  · intro hid
    refine .inl ?_
    show hostQueue? (session.heap.insert object).1 id = _
    rw [hostQueue?_insert, if_neg (Nat.ne_of_lt hid)]

theorem placeView (session : Session) (view : View) :
    Covers platform id session (session.placeView view).1 := by
  cases view with
  | foreign => exact place session _
  | host view =>
    unfold Session.placeView
    simp only
    split
    · next adopted ranges hcontext =>
      generalize ranges.track view.address view.size view.kind = tracked
      obtain ⟨after, registration⟩ := tracked
      have halike := alike_modifyContext session.heap view.context fun _ ↦ after
      have hqueue := hostQueue?_modifyContext session.heap view.context
        (·.mapRanges fun _ ↦ after) id
      refine Covers.trans ?_ (place _ _)
      exact Covers.of_alike halike hqueue
    · refine Covers.trans ?_ (place _ _)
      exact Covers.of_heap_eq rfl

theorem placeCreation (session : Session) (creation : Creation) :
    Covers platform id session (session.placeCreation creation).1 := by
  cases creation with
  | view view => exact placeView session view
  | deviceWithContext index => exact (place session _).trans (place _ _)
  | queueWithDevice capacity => exact ((place session _).trans (place _ _)).trans (place _ _)
  | _ => exact place session _

/-- A collection moves no queue. -/
theorem collect (hrooted : Rooted session.registry (session.stages []) session.heap) :
    Covers platform id session session.collect := by
  apply aside
  · exact Nat.le_of_eq (next_collect _ _).symm
  · exact fun _ ↦ aside_collect hrooted id

end Covers

end Session

end Offload
