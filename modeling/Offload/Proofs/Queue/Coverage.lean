import Offload.Proofs.Queue.Run
import Offload.Proofs.Session.Steps

/-!
# Every session runs its queues

Whatever a session does, it is a run of each of its queues. Clients that wait move the queue they
wait for, workers move their own queue, and everything else leaves queues aside.
-/

namespace Offload.Session

open Heap

variable {program : Program} {platform : Platform} {id : ObjectId}
  {session before after last : Session} {progressed : Progressed} {stage : Stage}
  {decision : Decision}

/-! ## Moves -/

theorem covers_advance (hadvance : session.advance? stage = some (after, progressed)) :
    Covers platform id session after := by
  obtain ⟨progress, jobs, hheap⟩ := heap_advance hadvance
  have hnext : after.heap.next = session.heap.next := by
    rw [hheap]
    rfl
  by_cases hstage : stage.queue = id
  · cases stage with
    | room queue job =>
      obtain rfl : queue = id := hstage
      exact .move hnext (.accept hadvance)
    | drained queue =>
      obtain rfl : queue = id := hstage
      obtain ⟨found, -, -, hresult⟩ := advance?_drained hadvance
      have hprogressed : progressed = (leave _ _ _).2 := congrArg Prod.snd hresult
      have hverdict : progressed.verdict = some (drainOutcome found.progress.failure) := by
        rw [hprogressed, (leave_eq _ _ _).2]
      exact .move hnext (.sync hadvance hverdict)
    | discarded queue outcome =>
      obtain rfl : queue = id := hstage
      exact .move hnext (.drop hadvance)
  · apply Covers.aside
    · exact Nat.le_of_eq hnext.symm
    · intro _
      refine .inl ?_
      rw [hheap, hostQueue?_modifyQueue, if_neg (Ne.symm hstage)]

/-- A worker finishes the oldest job of its queue, and a queue with a job does not go. -/
theorem covers_work {queue : ObjectId} (hkept : session.Kept [])
    (hwork : session.work? platform queue = some after) : Covers platform id session after := by
  obtain ⟨ordered, job, rest, host, failure, hqueue, hjobs, hruns, retired, hheap, hregistry,
    hwaiting, -, hrooted, -, hafter⟩ := work_retires hkept hwork
  have hcollected : after.heap = retired.collect.heap := by
    rw [hafter]
    rfl
  have hnext : after.heap.next = session.heap.next := by
    rw [hcollected]
    refine (next_collect _ _).trans ?_
    rw [hheap]
    exact (alike_settled session.heap job failure).next.symm
  by_cases hsame : id = queue
  · obtain rfl := hsame
    have hbusy := (hkept.rooted.sound.queues hqueue).progress_ne (hjobs ▸ List.mem_cons_self)
    have hrefers : Refers retired.registry (retired.stages []) id := by
      unfold stages
      rw [hregistry, hwaiting]
      exact hkept.rooted.busy hqueue hbusy
    have hleft : retired.heap.hostQueue? id = some
        { ordered with progress := (ordered.progress.finish failure).1, jobs := rest } := by
      rw [hheap, hostQueue?_modifyQueue, if_pos rfl, hostQueue?_settled, hqueue]
      rfl
    refine .move hnext (.finish hqueue hjobs hruns hwork ?_)
    rw [hcollected]
    exact hostQueue?_collect_of_refers hrooted hleft hrefers
  · exact .aside (Nat.le_of_eq hnext.symm) fun _ ↦ aside_work hkept hsame hwork

/-! ## Operations -/

theorem covers_collect (hsound : session.Sound []) : Covers platform id session session.collect :=
  Covers.collect hsound.rooted

theorem covers_pursue (hsteady : session.Steady progressed) :
    Covers platform id session (session.pursue progressed).1 := by
  rcases session.pursue_cases progressed with ⟨outcome, rfl, hpursue⟩ | ⟨stage, rfl, hcases⟩
  · rw [hpursue]
    exact covers_collect hsteady.sound
  · rcases hcases with ⟨-, hpursue⟩ | ⟨after, outcome, hadvance, hpursue⟩ |
      ⟨middle, last, hadvance, hcases⟩
    · rw [hpursue]
      exact Covers.refl session
    · rw [hpursue]
      have hafter := hsteady.advance hadvance
      exact (covers_advance hadvance).trans (covers_collect hafter.sound)
    · have hmiddle := hsteady.advance hadvance
      have hcovers : Covers platform id session middle := covers_advance hadvance
      rcases hcases with ⟨after, outcome, hadvance, hpursue⟩ | hpursue
      · rw [hpursue]
        have hafter := hmiddle.advance hadvance
        exact hcovers.trans ((covers_advance hadvance).trans (covers_collect hafter.sound))
      · rw [hpursue]
        exact hcovers

theorem covers_release (session : Session) (handle : Handle) :
    Covers platform id session (session.release handle).1 := by
  apply Covers.of_heap_eq
  rcases session.release_cases handle with ⟨failure, hrelease⟩ | hrelease |
    ⟨slot, hslot, events, hrelease⟩
  · rw [hrelease]
  · rw [hrelease]
  · simp only at hrelease
    rw [hrelease]
    split
    · rw [(leave_eq _ _ _).1]
      rfl
    · rfl

/-- Committing a decision moves no queue. -/
theorem covers_commit (session : Session) (decision : Decision) :
    Covers platform id session (session.commit decision).1 := by
  obtain ⟨records, effect⟩ := decision
  have hrecord : Covers platform id session
      { session with host := records.foldl .record session.host } := Covers.of_heap_eq rfl
  cases effect with
  | create creation =>
    exact hrecord.trans ((Covers.placeCreation _ creation).trans (Covers.of_heap_eq rfl))
  | retain handle =>
    apply Covers.of_heap_eq
    simp only [commit]
    split <;> rfl
  | release handle => exact hrecord.trans (covers_release _ handle)
  | link modules =>
    exact Covers.of_alike (alike_link session.heap modules) (hostQueue?_link _ _ _)
  | launch queue job => exact hrecord.trans (Covers.place _ _)
  | settle future next =>
    exact Covers.of_alike (alike_settleFuture session.heap future next)
      (hostQueue?_settleFuture _ _ _ _)
  | _ => exact Covers.of_heap_eq rfl

theorem covers_perform {decide : Deciding Decision} (hkept : session.Kept [])
    (hdecide : decide.Ensures (Decision.Supported session.heap.get?)) :
    Covers platform id session (session.perform decide).1 := by
  unfold Session.perform
  cases hrun : decide.run.run session.ambient with
  | mk outcome ambient =>
    have hambient : Kept { session with ambient } [] :=
      ⟨⟨hkept.rooted, hkept.tracked, hkept.loaded⟩, hkept.tidy⟩
    have hcovers : Covers platform id session { session with ambient } := Covers.of_heap_eq rfl
    cases outcome with
    | error interruption => exact hcovers
    | ok decision =>
      have hdecision : decision.Supported session.heap.get? :=
        hdecide session.ambient decision (by rw [hrun])
      have hsteady := hambient.commit hdecision
      exact hcovers.trans ((covers_commit _ decision).trans (covers_pursue hsteady))

/-! ## Clients -/

theorem covers_workAll (hsettled : session.Settled) (fuel : Nat) :
    Covers platform id session (session.workAll platform fuel) := by
  induction fuel generalizing session with
  | zero => exact Covers.refl session
  | succ fuel ih =>
    unfold Session.workAll
    split
    · exact Covers.refl session
    · next after hsome =>
      obtain ⟨queue, -, hwork⟩ := List.exists_of_findSome?_eq_some hsome
      exact (covers_work hsettled.kept hwork).trans (ih (hsettled.work hwork))

/-- A client that goes on moves the queue it has waited for. -/
theorem covers_pursueClient {client : Waiting} (hsettled : session.Settled)
    (hclient : client ∈ session.waiting) :
    Covers platform id session
      ((session.withoutClient client.ticket).pursue (.waits client.stage)).1 := by
  obtain ⟨hkept, -, -⟩ := kept_withoutClient hsettled hclient
  have hcovers : Covers platform id session (session.withoutClient client.ticket) :=
    Covers.of_heap_eq rfl
  exact hcovers.trans (covers_pursue (steady_waits hkept.toSound hkept.tidy))

theorem covers_await (hkept : session.Kept progressed.flight) (hticketed : session.Ticketed) :
    Covers platform id session (session.await platform progressed).1 := by
  cases progressed with
  | ended outcome => exact Covers.refl session
  | waits stage =>
    obtain ⟨hparked, fuel, client, hclient, rfl, hcases⟩ := await_cases platform hkept hticketed
    obtain ⟨hworked, -⟩ := hparked.workAll platform fuel
    have hopened : Covers platform id session (session.parked client.stage) := .of_heap_eq rfl
    have hcovers := hopened.trans (covers_workAll hparked fuel)
    rcases hcases with ⟨after, outcome, hpursue, hawait⟩ | hawait
    · have hpursued : Covers platform id ((session.parked client.stage).workAll platform fuel) _ :=
        covers_pursueClient hworked hclient
      rw [hpursue] at hpursued
      rw [hawait]
      exact hcovers.trans hpursued
    · rw [hawait]
      exact hcovers

/-- Everything a handler does runs the queues. -/
theorem handles_covers (program : Program) (id : ObjectId) :
    Handles program fun before after ↦
      after.Settled ∧ Covers program.toPlatform id before after where
  settled := fun hrelated ↦ hrelated.1
  refl := fun hsettled ↦ ⟨hsettled, Covers.refl _⟩
  trans := fun hfirst hsecond ↦ ⟨hsecond.1, hfirst.2.trans hsecond.2⟩
  remark := fun hsettled ambient handler exit ↦
    ⟨(Continues.remark hsettled ambient handler exit).settled, Covers.of_heap_eq rfl⟩
  call := by
    intro session hsettled call
    have hdecide : (call.decide program.toPlatform session).Ensures _ := Call.ensures_decide call
    obtain ⟨hkept, hticketed, -⟩ := hsettled.enter hdecide
    exact ⟨(continues_call program hsettled call).settled,
      (covers_perform hsettled.kept hdecide).trans (covers_await hkept hticketed)⟩

theorem covers_report (depth : Nat) (kind : FailureKind) (message : String)
    (hsettled : session.Settled) :
    Covers program.toPlatform id session (session.report program depth kind message).1 :=
  ((handles_covers program id).report depth kind message hsettled).2

theorem covers_file {ticket : Ticket} (hkept : session.Kept progressed.flight)
    (hticketed : session.Ticketed) (manner : Manner) :
    Covers program.toPlatform id session (session.file program ticket manner progressed) := by
  cases progressed with
  | waits stage => exact Covers.of_heap_eq rfl
  | ended outcome =>
    cases manner with
    | direct => exact Covers.of_heap_eq rfl
    | guarded sentinel =>
      cases outcome with
      | ok reply => exact Covers.of_heap_eq rfl
      | error interruption =>
        exact (covers_report nesting interruption.kind interruption.message
          ⟨hkept, hticketed⟩).trans (Covers.of_heap_eq rfl)

theorem covers_start {decide : Session → Deciding Decision} (hsettled : session.Settled)
    (hdecide : ∀ session : Session, session.Sound [] →
      (decide session).Ensures (Decision.Supported session.heap.get?)) (manner : Manner) :
    Covers program.toPlatform id session
      ((session.takeTicket.1.perform (decide session.takeTicket.1)).1.file program
        session.takeTicket.2 manner
        (session.takeTicket.1.perform (decide session.takeTicket.1)).2) := by
  obtain ⟨hkept, hticketed, -⟩ := kept_takeTicket hsettled.kept hsettled.ticketed
  have hensures := hdecide _ hkept.toSound
  have hframe := frame_perform session.takeTicket.1 (decide session.takeTicket.1)
  have htake : Covers program.toPlatform id session session.takeTicket.1 := Covers.of_heap_eq rfl
  exact htake.trans ((covers_perform hkept hensures).trans
    (covers_file (hkept.perform hensures) (hticketed.frame hframe) manner))

theorem covers_resume {client : Waiting} (hsettled : session.Settled)
    (hclient : client ∈ session.waiting)
    (hresume : session.resume? program client = some after) :
    Covers program.toPlatform id session after := by
  rcases resume?_cases hresume with ⟨-, rfl⟩ | ⟨moved, progressed, hpursue, rfl⟩
  · exact Covers.of_heap_eq rfl
  · obtain ⟨hkept, hticketed, -, -⟩ := hsettled.pursueClient hclient hpursue
    have hpursued : Covers program.toPlatform id session _ :=
      covers_pursueClient hsettled hclient
    rw [hpursue] at hpursued
    exact hpursued.trans (covers_file hkept hticketed _)

/-! ## Steps -/

/-- A step of a session is a run of each of its queues. -/
theorem Step.covers (hstep : Step program before after) (hsettled : before.Settled) :
    Covers program.toPlatform id before after := by
  cases hstep with
  | call call => exact covers_start hsettled (fun _ _ ↦ Call.ensures_decide call) _
  | request request =>
    exact covers_start hsettled (fun _ hsound ↦ Request.ensures_decide hsound request) _
  | work queue hwork => exact covers_work hsettled.kept hwork
  | resume hclient hresume => exact covers_resume hsettled hclient hresume
  | report kind message => exact covers_report nesting kind message hsettled
  | outside ambient memory calls gateOpen => exact Covers.of_heap_eq rfl

/-- What comes of a session by steps. -/
inductive Runs (program : Program) : Session → Session → Prop where
  | refl (session : Session) : Runs program session session
  | step {start before after : Session} (hruns : Runs program start before)
    (hstep : Step program before after) : Runs program start after

theorem Runs.reachable {start final : Session} (hruns : Runs program start final)
    (hreachable : Reachable program start) : Reachable program final := by
  induction hruns with
  | refl => exact hreachable
  | step _ hstep ih => exact .step ih hstep

theorem Runs.trans {start middle final : Session} (hfirst : Runs program start middle)
    (hsecond : Runs program middle final) : Runs program start final := by
  induction hsecond with
  | refl => exact hfirst
  | step _ hstep ih => exact .step ih hstep

/-- The session after a client has started some requests. -/
def startAll (program : Program) (session : Session) (requests : List Request) : Session :=
  requests.foldl (fun session request ↦ (session.startRequest program request).1) session

theorem runs_startAll (program : Program) (session : Session) (requests : List Request) :
    Runs program session (session.startAll program requests) := by
  induction requests generalizing session with
  | nil => exact .refl session
  | cons request requests ih => exact (Runs.step (.refl session) (.request _ _)).trans (ih _)

theorem runs_workAll (program : Program) (session : Session) (fuel : Nat) :
    Runs program session (session.workAll program.toPlatform fuel) := by
  induction fuel generalizing session with
  | zero => exact .refl session
  | succ fuel ih =>
    unfold Session.workAll
    split
    · exact .refl session
    · next after hsome =>
      obtain ⟨queue, -, hwork⟩ := List.exists_of_findSome?_eq_some hsome
      exact (Runs.step (.refl session) (.work queue hwork)).trans (ih _)

/-- Whatever happens to a session happens to each of its queues as a run of the queue. -/
theorem Runs.covers {start final : Session} (hruns : Runs program start final)
    (hreachable : Reachable program start) : Covers program.toPlatform id start final := by
  induction hruns with
  | refl => exact Covers.refl _
  | step hbefore hstep ih =>
    exact ih.trans (hstep.covers (hbefore.reachable hreachable).settled)

end Offload.Session
