import Offload.Proofs.Queue.Coverage
import Offload.Proofs.Queue.Ledger

/-!
# Every failure is accounted for once

A queue records the first failure of a job until a drain takes it. Each move of a queue keeps its
ledger in order, so each drain gets the first failure since the drain before it, every other failure
is warned about when its job finishes, and no failure is told of twice or forgotten.
-/

namespace Offload

open Session (additional unreported drainOutcome)

/-- What a queue becomes in a move, and what is noted meanwhile. -/
def HostQueue.Becomes (queue : HostQueue) : QueueEvent → HostQueue → Journal → Prop
  | .accepted job, after, warnings =>
    after = { queue with
        progress := { queue.progress with pending := queue.progress.pending + 1 }
        jobs := queue.jobs ++ [job] } ∧ warnings = []
  | .finished job failure, after, warnings =>
    ∃ rest, queue.jobs = job :: rest ∧
      after = { queue with progress := (queue.progress.finish failure).1, jobs := rest } ∧
      warnings = additional (queue.progress.finish failure).2
  | .synced outcome, after, warnings =>
    queue.progress.pending = 0 ∧ after = { queue with progress := {} } ∧
      outcome = drainOutcome queue.progress.failure ∧ warnings = []
  | .dropped, after, warnings =>
    queue.progress.pending = 0 ∧ after = { queue with progress := {} } ∧
      warnings = unreported queue.progress.failure

namespace Session

open Heap

variable {program : Program} {platform : Platform} {id : ObjectId}
  {start before after final : Session} {history : List QueueEntry} {event : QueueEvent}

/-! ## What moves note -/

theorem warningsSince_eq {events : Journal}
    (hjournal : after.ambient.journal = before.ambient.journal ++ events) :
    before.warningsSince after = events.filter (·.level == .warn) := by
  rw [warningsSince, hjournal, List.drop_left]

/-- An accepted job may get a handle for its future, and that is not worth a warning. -/
theorem warnings_deliver (session : Session) (job : Job) :
    session.warningsSince (session.deliver job).1 = [] := by
  unfold deliver
  split
  · exact warningsSince_eq (List.append_nil _).symm
  · next future _ =>
    have hjournal : (session.expose .future future).1.ambient.journal =
        session.ambient.journal ++ [⟨.trace, "Handle created",
          [("handle", toString session.registry.next),
            ("kind", Quoted.quote Kind.future.name)]⟩] := rfl
    exact warningsSince_eq hjournal

theorem filter_additional (failure : Option Failure) :
    (additional failure).filter (·.level == .warn) = additional failure := by
  cases failure <;> rfl

theorem filter_unreported (failure : Option Failure) :
    (unreported failure).filter (·.level == .warn) = unreported failure := by
  cases failure <;> rfl

/-! ## What moves do to their queue -/

theorem QueueMove.becomes (hmove : QueueMove platform id before event after) :
    ∃ queue next, before.heap.hostQueue? id = some queue ∧
      after.heap.hostQueue? id = some next ∧
      queue.Becomes event next (before.warningsSince after) := by
  cases hmove with
  | accept hadvance =>
    obtain ⟨queue, hqueue, -, hresult⟩ := advance?_room hadvance
    have hafter : after = (leave _ _ _).1 := congrArg Prod.fst hresult
    rw [(leave_eq _ _ _).1] at hafter
    rw [hafter]
    refine ⟨queue, _, hqueue, ?_, rfl, ?_⟩
    · rw [heap_deliver, Session.accept, hostQueue?_modifyQueue, if_pos rfl, hqueue]
      rfl
    · exact warnings_deliver (before.accept id _ _) _
  | finish hqueue hjobs hruns hwork hstays =>
    obtain ⟨queue, job, rest, host, failure, hfound, hfoundJobs, hfoundRuns, hafter⟩ :=
      work?_eq_some hwork
    rw [hqueue] at hfound
    obtain rfl := (Option.some.inj hfound).symm
    obtain ⟨rfl, rfl⟩ := List.cons.inj (hfoundJobs.symm.trans hjobs)
    obtain ⟨-, rfl⟩ := hfoundRuns.unique hruns
    rw [finish_eq] at hafter
    have hjournal : after.ambient.journal =
        before.ambient.journal ++ additional (queue.progress.finish failure).2 := by
      rw [hafter]
      rfl
    refine ⟨queue, _, hqueue, hstays, rest, hjobs, rfl, ?_⟩
    calc before.warningsSince after =
          (additional (queue.progress.finish failure).2).filter (·.level == .warn) :=
          warningsSince_eq hjournal
      _ = additional (queue.progress.finish failure).2 := filter_additional _
  | sync hadvance hverdict =>
    obtain ⟨queue, hqueue, hidle, hresult⟩ := advance?_drained hadvance
    have hafter : after = (leave _ _ _).1 := congrArg Prod.fst hresult
    rw [(leave_eq _ _ _).1] at hafter
    have hprogressed := congrArg Prod.snd hresult
    simp only at hprogressed
    rw [hprogressed, (leave_eq _ _ _).2] at hverdict
    rw [hafter]
    refine ⟨queue, _, hqueue, ?_, hidle, rfl, (Option.some.inj hverdict).symm, ?_⟩
    · rw [drain, hostQueue?_modifyQueue, if_pos rfl, hqueue]
      rfl
    · exact warningsSince_eq (List.append_nil _).symm
  | drop hadvance =>
    obtain ⟨queue, hqueue, hidle, hafter, -⟩ := advance?_discarded hadvance
    rw [hafter]
    refine ⟨queue, _, hqueue, ?_, hidle, rfl, ?_⟩
    · rw [note, drain, hostQueue?_modifyQueue, if_pos rfl, hqueue]
      rfl
    · exact (warningsSince_eq rfl).trans (filter_unreported _)

end Session

/-! ## Moves keep accounts -/

variable {history : List QueueEntry} {queue next : HostQueue} {entry : QueueEntry}

/-- A queue that has recorded the first of some failures records the first of them and the next. -/
theorem Progress.finish_head (pending : Nat) (earlier : List Failure) (failure : Option Failure) :
    (Progress.mk (pending + 1) earlier.head?).finish failure =
      (⟨pending, (earlier ++ failure.toList).head?⟩, if earlier = [] then none else failure) := by
  cases earlier <;> cases failure <;> rfl

/-- A drain of a queue with nothing pending closes a stretch. -/
theorem Accounted.drain (haccounted : Accounted history (some queue))
    (hidle : queue.progress.pending = 0) (hdrains : entry.event.drains = true)
    (hsettles : entry.Settles (failures (Ledger.ofHistory history).since).head?) :
    Accounted (history ++ [entry]) (some { queue with progress := {} }) := by
  obtain ⟨hjobs, hprogress⟩ := haccounted.present queue rfl
  have hnone : queue.jobs = [] := by
    rw [hprogress] at hidle
    exact List.length_eq_zero_iff.1 hidle
  rw [hnone, List.append_nil] at hjobs
  have hadd := Ledger.ofHistory_concat history entry
  rw [Ledger.add_of_drains hdrains] at hadd
  refine ⟨?_, ?_, ?_, fun hgone ↦ absurd hgone (by simp)⟩
  · rw [hadd]
    intro stretch hstretch
    rcases List.mem_append.1 hstretch with hold | hnew
    · exact haccounted.closed stretch hold
    · rw [List.mem_singleton.1 hnew]
      exact ⟨hjobs, haccounted.warned, hsettles⟩
  · rw [hadd]
    exact Warned.nil
  · rintro _ ⟨⟩
    rw [hadd]
    simp [hnone, accepted, finished, failures]

theorem Accounted.move (haccounted : Accounted history (some queue))
    (hbecomes : queue.Becomes entry.event next entry.warnings) :
    Accounted (history ++ [entry]) (some next) := by
  obtain ⟨hjobs, hprogress⟩ := haccounted.present queue rfl
  have hclosed := haccounted.closed
  have hwarned := haccounted.warned
  obtain ⟨event, warnings⟩ := entry
  cases event with
  | accepted job =>
    obtain ⟨rfl, hwarnings⟩ := hbecomes
    have hadd := Ledger.ofHistory_concat history ⟨.accepted job, warnings⟩
    rw [Ledger.add_of_not_drains rfl] at hadd
    refine ⟨?_, ?_, ?_, fun hgone ↦ absurd hgone (by simp)⟩
    · rw [hadd]
      exact hclosed
    · rw [hadd]
      apply hwarned.concat
      simp only at hwarnings
      rw [hwarnings]
      cases failures (Ledger.ofHistory history).since <;> rfl
    · rintro _ ⟨⟩
      rw [hadd]
      simp [hjobs, hprogress, QueueEvent.accepted?, QueueEvent.finished?, QueueEvent.failure?]
  | finished job failure =>
    obtain ⟨rest, hrest, rfl, hwarnings⟩ := hbecomes
    have hadd := Ledger.ofHistory_concat history ⟨.finished job failure, warnings⟩
    rw [Ledger.add_of_not_drains rfl] at hadd
    refine ⟨?_, ?_, ?_, fun hgone ↦ absurd hgone (by simp)⟩
    · rw [hadd]
      exact hclosed
    · rw [hadd]
      apply hwarned.concat
      simp only at hwarnings
      rw [hwarnings, hprogress, hrest, List.length_cons, Progress.finish_head]
      cases failures (Ledger.ofHistory history).since <;> rfl
    · rintro _ ⟨⟩
      rw [hadd]
      rw [hrest] at hjobs
      refine ⟨?_, ?_⟩
      · simp [hjobs, QueueEvent.accepted?, QueueEvent.finished?]
      · rw [hprogress, hrest, failures_concat, List.length_cons, Progress.finish_head]
        rfl
  | synced outcome =>
    obtain ⟨hidle, rfl, houtcome, hwarnings⟩ := hbecomes
    rw [hprogress] at houtcome
    exact haccounted.drain hidle rfl ⟨houtcome, hwarnings⟩
  | dropped =>
    obtain ⟨hidle, rfl, hwarnings⟩ := hbecomes
    simp only [hprogress] at hwarnings
    exact haccounted.drain hidle rfl hwarnings

theorem Accounted.refl (hprogress : queue.progress = {}) (hjobs : queue.jobs = []) :
    Accounted [] (some queue) := by
  refine ⟨fun _ hstretch ↦ absurd hstretch List.not_mem_nil, Warned.nil, ?_,
    fun hgone ↦ absurd hgone (by simp)⟩
  rintro _ ⟨⟩
  exact ⟨hjobs.symm, by rw [hprogress, hjobs]; rfl⟩

/-- A queue that goes idle leaves nothing behind. -/
theorem Accounted.leave (haccounted : Accounted history (some queue))
    (hprogress : queue.progress = {}) : Accounted history none := by
  obtain ⟨hjobs, hrecorded⟩ := haccounted.present queue rfl
  rw [hprogress] at hrecorded
  obtain ⟨hpending, hfailure⟩ := Progress.mk.inj hrecorded
  have hnone : queue.jobs = [] := List.length_eq_zero_iff.1 hpending.symm
  rw [hnone, List.append_nil] at hjobs
  refine ⟨haccounted.closed, haccounted.warned, fun _ hsome ↦ absurd hsome (by simp),
    fun _ ↦ ⟨hjobs, ?_⟩⟩
  exact List.head?_eq_none_iff.1 hfailure.symm

namespace Session

variable {program : Program} {platform : Platform} {id : ObjectId}
  {start before after final : Session}

/-- Whatever happens to a queue that starts empty keeps its ledger in order. -/
theorem QueueRun.accounted (hrun : QueueRun platform id start history final)
    (hqueue : start.heap.hostQueue? id = some queue) (hprogress : queue.progress = {})
    (hjobs : queue.jobs = []) : Accounted history (final.heap.hostQueue? id) := by
  induction hrun with
  | refl =>
    rw [hqueue]
    exact Accounted.refl hprogress hjobs
  | move _ hmove ih =>
    obtain ⟨queue, next, hbefore, hafter, hbecomes⟩ := hmove.becomes
    rw [hbefore] at ih
    rw [hafter]
    exact ih.move hbecomes
  | aside _ haside ih =>
    rcases haside with hsame | ⟨⟨queue, hbefore, hidle⟩, hgone⟩
    · rw [hsame]
      exact ih
    · rw [hbefore] at ih
      rw [hgone]
      exact ih.leave hidle

/-- A queue that starts with nothing pending or recorded accounts for every failure once.

Whatever the session does, it is a run of the queue. Split at its drains, such a run has the first
failure of each stretch in the outcome of the `sync` that ends it, or in a warning of the client
that gives the queue up, and a warning for every other failure when its job finishes. The jobs of a
stretch are the accepted ones in order. All in all each failure is told of once, or recorded. -/
theorem failures_accounted_once (hreachable : Reachable program start)
    (hqueue : start.heap.hostQueue? id = some queue) (hprogress : queue.progress = {})
    (hruns : Runs program start final) :
    (∃ history, QueueRun program.toPlatform id start history final) ∧
      ∀ history, QueueRun program.toPlatform id start history final →
        Accounted history (final.heap.hostQueue? id) ∧
          ((failures history).map (·.message)).Perm (history.flatMap (·.reports) ++
            (recorded (final.heap.hostQueue? id)).toList.map (·.message)) := by
  have hrooted := hreachable.settled.kept.rooted
  have hid : id < start.heap.next := hrooted.ordered.lt_next (Heap.hostQueue?_eq_some.1 hqueue)
  obtain ⟨-, hhistory⟩ := hruns.covers hreachable hid
  refine ⟨hhistory, ?_⟩
  intro history hrun
  have hpending := (hrooted.sound.queues hqueue).pending
  rw [hprogress] at hpending
  have hjobs : queue.jobs = [] := List.length_eq_zero_iff.1 hpending.symm
  have haccounted := hrun.accounted hqueue hprogress hjobs
  exact ⟨haccounted, haccounted.reports_perm⟩

/-! ## Two failures -/

/-- A program whose routines all panic. -/
def losing : Program := { routine := fun _ _ host ↦ .panicked (some "lost") host }

/-- A new queue with room for two operations. -/
def twoQueued : Session := startAll losing {} [.queueWithCapacity 2]

/-- Two launches on that queue, both of which its worker has run, and a drain. -/
def twoLost : Session :=
  startAll losing
    (workAll losing.toPlatform 2
      (startAll losing twoQueued
        [.hostDevice 0, .symbolModule "routines" [("lose", "lose")], .newKernel 2 3 "lose",
          .launch 1 4 0 (.line 1), .launch 1 4 0 (.line 1)]))
    [.sync 1]

/-- The drain gets one of the failures, and the other one is warned about. -/
theorem failures_accounted_once_losing :
    twoLost.answer? 6 = some ⟨.error (.failure (.execution "launch panicked: lost")), []⟩ ∧
      ∃ history, QueueRun losing.toPlatform 2 twoQueued history twoLost ∧
        ((failures history).map (·.message)).Perm (history.flatMap (·.reports)) := by
  have hfresh : Fresh ({} : Session) := ⟨rfl, rfl, rfl, rfl, rfl⟩
  have hopened : Reachable losing twoQueued := (runs_startAll losing {} _).reachable (.fresh hfresh)
  have hruns : Runs losing twoQueued twoLost :=
    ((runs_startAll losing twoQueued _).trans (runs_workAll losing _ 2)).trans
      (runs_startAll losing _ [.sync 1])
  have hqueue : twoQueued.heap.hostQueue? 2 = some (HostQueue.new 1 2) := rfl
  obtain ⟨⟨history, hrun⟩, haccounted⟩ := failures_accounted_once hopened hqueue rfl hruns
  obtain ⟨-, hreports⟩ := haccounted history hrun
  have hrecorded : recorded (twoLost.heap.hostQueue? 2) = none := rfl
  rw [hrecorded] at hreports
  exact ⟨rfl, history, hrun, hreports.trans (List.append_nil _ ▸ List.Perm.refl _)⟩

end Session

end Offload
