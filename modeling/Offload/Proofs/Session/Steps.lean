import Offload.Clients
import Offload.Proofs.Session.Decisions
import Offload.Proofs.Session.Work
import Mathlib.Data.List.Nodup

/-!
# Reachable sessions

A session starts with nothing on its heap. From there on clients start operations, workers run
jobs, clients that were woken look again, and the host program changes its own state, in any order.
Every session that comes about is kept and numbers its clients properly. This holds inside error
handlers as well, which may make calls of their own and wait for them.
-/

namespace Offload

/-- A decision whose effect is not to install an error handler. -/
def Decision.Keeps (decision : Decision) : Prop :=
  match decision.effect with
  | .install _ => False
  | _ => True

namespace Session

open Heap

variable {program : Program} {platform : Platform} {session before after last : Session}
  {flight : List Stage} {progressed : Progressed} {id : ObjectId}

/-! ## What operations leave alone -/

/-- A waiting client without whether it is awake. -/
def claim (client : Waiting) : Ticket × Manner × Stage :=
  (client.ticket, client.manner, client.stage)

/-- Neither the waiting clients nor the numbers given out change. -/
structure Frame (before after : Session) : Prop where
  claims : after.waiting.map claim = before.waiting.map claim
  nextTicket : after.nextTicket = before.nextTicket
  answers : after.answers = before.answers

namespace Frame

theorem refl (session : Session) : Frame session session := ⟨rfl, rfl, rfl⟩

theorem trans (hfirst : Frame before after) (hsecond : Frame after last) : Frame before last :=
  ⟨hsecond.claims.trans hfirst.claims, hsecond.nextTicket.trans hfirst.nextTicket,
    hsecond.answers.trans hfirst.answers⟩

theorem tickets (hframe : Frame before after) :
    after.waiting.map (·.ticket) = before.waiting.map (·.ticket) := by
  have htickets := congrArg (List.map Prod.fst) hframe.claims
  simpa [List.map_map, Function.comp_def, claim] using htickets

theorem stages (hframe : Frame before after) (flight : List Stage) :
    after.stages flight = before.stages flight := by
  have hstages := congrArg (List.map (·.2.2)) hframe.claims
  unfold Session.stages
  congr 1
  simpa [List.map_map, Function.comp_def, claim] using hstages

theorem idle (hframe : Frame before after) (hidle : before.waiting = []) : after.waiting = [] := by
  have hclaims := hframe.claims
  rw [hidle] at hclaims
  exact List.map_eq_nil_iff.1 hclaims

end Frame

/-- Neither the clients nor the error handler and the end of the process change. -/
structure Still (before after : Session) : Prop extends Frame before after where
  handler : after.handler = before.handler
  exit : after.exit = before.exit

namespace Still

theorem refl (session : Session) : Still session session := ⟨Frame.refl session, rfl, rfl⟩

theorem trans (hfirst : Still before after) (hsecond : Still after last) : Still before last :=
  ⟨hfirst.toFrame.trans hsecond.toFrame, hsecond.handler.trans hfirst.handler,
    hsecond.exit.trans hfirst.exit⟩

end Still

/-- The settings do not become resolved either. -/
structure Quiet (before after : Session) : Prop extends Still before after where
  settings : after.ambient.settings = before.ambient.settings

namespace Quiet

theorem refl (session : Session) : Quiet session session := ⟨Still.refl session, rfl⟩

theorem trans (hfirst : Quiet before after) (hsecond : Quiet after last) : Quiet before last :=
  ⟨hfirst.toStill.trans hsecond.toStill, hsecond.settings.trans hfirst.settings⟩

end Quiet

theorem quiet_leave (session : Session) (id : ObjectId) (outcome : Outcome) :
    Quiet session (session.leave id outcome).1 := by
  rcases session.leave_cases id outcome with ⟨-, hleave⟩ | ⟨-, hleave⟩
  all_goals
    rw [hleave]
    exact Quiet.refl session

theorem quiet_deliver (session : Session) (job : Job) : Quiet session (session.deliver job).1 := by
  unfold deliver
  split <;> exact ⟨⟨⟨rfl, rfl, rfl⟩, rfl, rfl⟩, rfl⟩

theorem quiet_advance {stage : Stage}
    (hadvance : session.advance? stage = some (after, progressed)) : Quiet session after := by
  cases stage with
  | room id job =>
    obtain ⟨queue, -, -, hresult⟩ := advance?_room hadvance
    obtain ⟨rfl, -⟩ := Prod.mk.inj hresult
    have haccept : Quiet session (session.accept id
      { queue.progress with pending := queue.progress.pending + 1 } job) :=
      ⟨⟨⟨rfl, rfl, rfl⟩, rfl, rfl⟩, rfl⟩
    exact (haccept.trans (quiet_deliver _ job)).trans (quiet_leave _ id _)
  | drained id =>
    obtain ⟨queue, -, -, hresult⟩ := advance?_drained hadvance
    obtain ⟨rfl, -⟩ := Prod.mk.inj hresult
    have hdrain : Quiet session (session.drain id {}) := ⟨⟨⟨rfl, rfl, rfl⟩, rfl, rfl⟩, rfl⟩
    exact hdrain.trans (quiet_leave _ id _)
  | discarded id outcome =>
    obtain ⟨queue, -, -, rfl, -⟩ := advance?_discarded hadvance
    exact ⟨⟨⟨rfl, rfl, rfl⟩, rfl, rfl⟩, rfl⟩

theorem quiet_pursue (session : Session) (progressed : Progressed) :
    Quiet session (session.pursue progressed).1 := by
  have hcollect (session : Session) : Quiet session session.collect :=
    ⟨⟨⟨rfl, rfl, rfl⟩, rfl, rfl⟩, rfl⟩
  rcases session.pursue_cases progressed with ⟨outcome, rfl, hpursue⟩ | ⟨stage, rfl, hcases⟩
  · rw [hpursue]
    exact hcollect session
  · rcases hcases with ⟨-, hpursue⟩ | ⟨after, outcome, hadvance, hpursue⟩ |
      ⟨middle, last, hadvance, ⟨after, outcome, hlast, hpursue⟩ | hpursue⟩
    · rw [hpursue]
      exact Quiet.refl session
    · rw [hpursue]
      exact (quiet_advance hadvance).trans (hcollect after)
    · rw [hpursue]
      exact ((quiet_advance hadvance).trans (quiet_advance hlast)).trans (hcollect after)
    · rw [hpursue]
      exact quiet_advance hadvance

theorem frame_pursue (session : Session) (progressed : Progressed) :
    Frame session (session.pursue progressed).1 :=
  (quiet_pursue session progressed).toFrame

theorem quiet_placeCreation (session : Session) (creation : Creation) :
    Quiet session (session.placeCreation creation).1 := by
  cases creation with
  | view view =>
    cases view with
    | foreign => exact ⟨⟨⟨rfl, rfl, rfl⟩, rfl, rfl⟩, rfl⟩
    | host view =>
      simp only [placeCreation, placeView]
      split <;> exact ⟨⟨⟨rfl, rfl, rfl⟩, rfl, rfl⟩, rfl⟩
  | _ => exact ⟨⟨⟨rfl, rfl, rfl⟩, rfl, rfl⟩, rfl⟩

theorem frame_placeCreation (session : Session) (creation : Creation) :
    Frame session (session.placeCreation creation).1 :=
  (quiet_placeCreation session creation).toFrame

theorem quiet_release (session : Session) (handle : Handle) :
    Quiet session (session.release handle).1 := by
  rcases session.release_cases handle with ⟨failure, hrelease⟩ | hrelease |
    ⟨slot, hslot, events, hrelease⟩
  · rw [hrelease]
    exact Quiet.refl session
  · rw [hrelease]
    exact ⟨⟨⟨rfl, rfl, rfl⟩, rfl, rfl⟩, rfl⟩
  · simp only at hrelease
    rw [hrelease]
    split
    · have herase : Quiet session
          { session.note events with registry := session.registry.erase handle } :=
        ⟨⟨⟨rfl, rfl, rfl⟩, rfl, rfl⟩, rfl⟩
      exact herase.trans (quiet_leave _ _ _)
    · exact ⟨⟨⟨rfl, rfl, rfl⟩, rfl, rfl⟩, rfl⟩

theorem quiet_commit {decision : Decision} (session : Session) (hkeeps : decision.Keeps) :
    Quiet session (session.commit decision).1 := by
  obtain ⟨records, effect⟩ := decision
  have hrecord : Quiet session { session with host := records.foldl .record session.host } :=
    ⟨⟨⟨rfl, rfl, rfl⟩, rfl, rfl⟩, rfl⟩
  cases effect with
  | create creation =>
    have hplace := hrecord.trans (quiet_placeCreation _ creation)
    exact ⟨⟨⟨hplace.claims, hplace.nextTicket, hplace.answers⟩, hplace.handler, hplace.exit⟩,
      hplace.settings⟩
  | retain handle =>
    simp only [commit]
    split <;> exact ⟨⟨⟨rfl, rfl, rfl⟩, rfl, rfl⟩, rfl⟩
  | release handle => exact hrecord.trans (quiet_release _ handle)
  | install handler => exact hkeeps.elim
  | _ => exact ⟨⟨⟨rfl, rfl, rfl⟩, rfl, rfl⟩, rfl⟩

theorem frame_commit (session : Session) (decision : Decision) :
    Frame session (session.commit decision).1 := by
  obtain ⟨records, effect⟩ := decision
  cases effect with
  | install handler => exact ⟨rfl, rfl, rfl⟩
  | _ => exact Still.toFrame (Quiet.toStill (quiet_commit session (by trivial)))

theorem settings_commit (session : Session) (decision : Decision) :
    (session.commit decision).1.ambient.settings = session.ambient.settings := by
  obtain ⟨records, effect⟩ := decision
  cases effect with
  | install handler => rfl
  | _ => exact Quiet.settings (quiet_commit session (by trivial))

theorem frame_perform (session : Session) (decide : Deciding Decision) :
    Frame session (session.perform decide).1 := by
  unfold perform
  obtain ⟨outcome, ambient⟩ := decide.run.run session.ambient
  cases outcome with
  | error interruption => exact ⟨rfl, rfl, rfl⟩
  | ok decision =>
    have hambient : Frame session { session with ambient } := ⟨rfl, rfl, rfl⟩
    exact (hambient.trans (frame_commit _ decision)).trans (frame_pursue _ _)

/-- Only the decision of an operation resolves the settings. -/
theorem settings_perform (session : Session) (decide : Deciding Decision) :
    (session.perform decide).1.ambient.settings =
      (decide.run.run session.ambient).2.settings := by
  unfold perform
  cases decide.run.run session.ambient with
  | mk outcome ambient =>
    cases outcome with
    | error interruption => rfl
    | ok decision => exact (quiet_pursue _ _).settings.trans (settings_commit _ decision)

theorem quiet_work (hwork : session.work? platform id = some after) : Quiet session after := by
  obtain ⟨queue, job, rest, host, failure, -, -, -, rfl⟩ := work?_eq_some hwork
  rw [finish_eq]
  refine ⟨⟨⟨?_, rfl, rfl⟩, rfl, rfl⟩, rfl⟩
  simp only [wake, List.map_map]
  apply List.map_congr_left
  intro client _
  simp only [Function.comp_apply, Waiting.wake]
  split <;> rfl

theorem frame_work (hwork : session.work? platform id = some after) : Frame session after :=
  (quiet_work hwork).toFrame

theorem quiet_workAll (platform : Platform) (fuel : Nat) (session : Session) :
    Quiet session (session.workAll platform fuel) := by
  induction fuel generalizing session with
  | zero => exact Quiet.refl session
  | succ fuel ih =>
    unfold workAll
    split
    · exact Quiet.refl session
    · next after hsome =>
      obtain ⟨id, -, hwork⟩ := List.exists_of_findSome?_eq_some hsome
      exact (quiet_work hwork).trans (ih after)

/-! ## Kept sessions under operations -/

theorem Kept.congr_stages {more : List Stage} (hkept : session.Kept flight)
    (hheap : after.heap = session.heap) (hregistry : after.registry = session.registry)
    (hstatics : after.host.statics = session.host.statics)
    (hsame : ∀ stage, stage ∈ session.stages flight ↔ stage ∈ after.stages more) :
    after.Kept more := by
  have hrefers (id : ObjectId) :
      Refers session.registry (session.stages flight) id →
        Refers session.registry (after.stages more) id :=
    Refers.mono fun stage ↦ (hsame stage).1
  refine ⟨⟨?_, ?_, ?_⟩, ?_⟩
  · rw [hheap, hregistry]
    exact hkept.rooted.congr_stages hsame
  · rw [hheap]
    exact hkept.tracked
  · rw [hheap, hstatics]
    exact hkept.loaded
  · rw [hheap, hregistry]
    apply Tidy.of_alike hkept.tidy (Alike.refl _)
    intro root hroot
    rw [mem_anchors_iff hkept.rooted.numbered] at hroot ⊢
    exact hroot.imp_left (hrefers root)

/-- An operation whose decision relies on what is there leads to a kept session. -/
theorem Kept.perform {decide : Deciding Decision} (hkept : session.Kept [])
    (hdecide : decide.Ensures (Decision.Supported session.heap.get?)) :
    (session.perform decide).1.Kept (session.perform decide).2.flight := by
  unfold Session.perform
  cases hrun : decide.run.run session.ambient with
  | mk outcome ambient =>
    have hambient : Kept { session with ambient } [] :=
      ⟨⟨hkept.rooted, hkept.tracked, hkept.loaded⟩, hkept.tidy⟩
    cases outcome with
    | error interruption => exact hambient
    | ok decision =>
      have hdecision : decision.Supported session.heap.get? :=
        hdecide session.ambient decision (by rw [hrun])
      exact (hambient.commit hdecision).pursue

/-! ## Numbered clients -/

/-- Waiting clients have different tickets, and all tickets have been given out. -/
structure Ticketed (session : Session) : Prop where
  distinct : (session.waiting.map (·.ticket)).Nodup
  waiting : ∀ client ∈ session.waiting, client.ticket < session.nextTicket
  answered : ∀ entry ∈ session.answers, entry.1 < session.nextTicket

theorem Ticketed.frame (hticketed : before.Ticketed) (hframe : Frame before after) :
    after.Ticketed where
  distinct := hframe.tickets ▸ hticketed.distinct
  waiting := by
    intro client hclient
    have hmem : client.ticket ∈ before.waiting.map (·.ticket) :=
      hframe.tickets ▸ List.mem_map_of_mem hclient
    obtain ⟨other, hother, heq⟩ := List.mem_map.1 hmem
    rw [← heq, hframe.nextTicket]
    exact hticketed.waiting other hother
  answered := by
    intro entry hentry
    rw [hframe.nextTicket]
    exact hticketed.answered entry (hframe.answers ▸ hentry)

/-- A ticket that has been given out to a client that does not wait. -/
structure Free (session : Session) (ticket : Ticket) : Prop where
  given : ticket < session.nextTicket
  absent : ticket ∉ session.waiting.map (·.ticket)

theorem Free.frame {ticket : Ticket} (hfree : before.Free ticket) (hframe : Frame before after) :
    after.Free ticket where
  given := hframe.nextTicket ▸ hfree.given
  absent := hframe.tickets ▸ hfree.absent

/-- A session between operations. -/
structure Settled (session : Session) : Prop where
  kept : session.Kept []
  ticketed : session.Ticketed

theorem Kept.steady (hkept : session.Kept progressed.flight) : session.Steady progressed := by
  refine ⟨hkept.toSound, ?_⟩
  rintro stage rfl
  exact hkept.tidy

theorem kept_takeTicket (hkept : session.Kept flight) (hticketed : session.Ticketed) :
    session.takeTicket.1.Kept flight ∧ session.takeTicket.1.Ticketed ∧
      session.takeTicket.1.Free session.takeTicket.2 := by
  refine ⟨⟨⟨hkept.rooted, hkept.tracked, hkept.loaded⟩, hkept.tidy⟩, ?_, ?_⟩
  · exact ⟨hticketed.distinct,
      fun client hclient ↦ Nat.lt_succ_of_lt (hticketed.waiting client hclient),
      fun entry hentry ↦ Nat.lt_succ_of_lt (hticketed.answered entry hentry)⟩
  · refine ⟨Nat.lt_succ_self _, ?_⟩
    intro hmem
    obtain ⟨client, hclient, heq⟩ := List.mem_map.1 hmem
    exact absurd (hticketed.waiting client hclient) (by rw [heq]; exact Nat.lt_irrefl _)

/-- An operation in flight may wait under a ticket of its own. -/
theorem settled_withClient (client : Waiting) (hkept : session.Kept [client.stage])
    (hticketed : session.Ticketed) (hfree : session.Free client.ticket) :
    (session.withClient client).Settled where
  kept := by
    refine hkept.congr_stages rfl rfl rfl fun stage ↦ ?_
    simp [stages, withClient, or_comm]
  ticketed := by
    refine ⟨?_, ?_, hticketed.answered⟩
    · simp only [withClient, List.map_append, List.map_cons, List.map_nil]
      rw [List.nodup_append]
      refine ⟨hticketed.distinct, List.nodup_singleton _, ?_⟩
      intro ticket hticket other hother heq
      rw [List.mem_singleton.1 hother] at heq
      exact hfree.absent (heq ▸ hticket)
    · intro other hother
      rcases List.mem_append.1 hother with hold | hnew
      · exact hticketed.waiting other hold
      · rw [List.mem_singleton.1 hnew]
        exact hfree.given

/-- A waiting client may go on with its operation in flight. -/
theorem kept_withoutClient {client : Waiting} (hsettled : session.Settled)
    (hclient : client ∈ session.waiting) :
    (session.withoutClient client.ticket).Kept [client.stage] ∧
      (session.withoutClient client.ticket).Ticketed ∧
      (session.withoutClient client.ticket).Free client.ticket := by
  have hdistinct := hsettled.ticketed.distinct
  refine ⟨?_, ⟨?_, ?_, hsettled.ticketed.answered⟩, ?_, ?_⟩
  · refine hsettled.kept.congr_stages rfl rfl rfl fun stage ↦ ?_
    simp only [stages, withoutClient, List.nil_append, List.cons_append, List.mem_cons,
      List.mem_map, List.mem_filter, bne_iff_ne, ne_eq]
    constructor
    · rintro ⟨other, hother, rfl⟩
      by_cases hticket : other.ticket = client.ticket
      · have hsame := List.inj_on_of_nodup_map hdistinct hother hclient hticket
        exact .inl (hsame ▸ rfl)
      · exact .inr ⟨other, ⟨hother, hticket⟩, rfl⟩
    · rintro (rfl | ⟨other, ⟨hother, -⟩, rfl⟩)
      · exact ⟨client, hclient, rfl⟩
      · exact ⟨other, hother, rfl⟩
  · exact hdistinct.sublist (List.filter_sublist.map _)
  · exact fun other hother ↦ hsettled.ticketed.waiting other (List.mem_filter.1 hother).1
  · exact hsettled.ticketed.waiting client hclient
  · intro hmem
    obtain ⟨other, hother, hticket⟩ := List.mem_map.1 hmem
    have hne := (List.mem_filter.1 hother).2
    simp [hticket] at hne

/-! ## Workers -/

theorem Settled.work (hsettled : session.Settled) (hwork : session.work? platform id = some after) :
    after.Settled :=
  ⟨hsettled.kept.work hwork, hsettled.ticketed.frame (frame_work hwork)⟩

theorem Settled.workAll (hsettled : session.Settled) (platform : Platform) (fuel : Nat) :
    (session.workAll platform fuel).Settled ∧ Frame session (session.workAll platform fuel) := by
  refine ⟨?_, (quiet_workAll platform fuel session).toFrame⟩
  induction fuel generalizing session with
  | zero => exact hsettled
  | succ fuel ih =>
    unfold Session.workAll
    split
    · exact hsettled
    · next after hsome =>
      obtain ⟨id, -, hwork⟩ := List.exists_of_findSome?_eq_some hsome
      exact ih (hsettled.work hwork)

/-! ## Error handlers -/

/-- What comes after a session between operations: another one that has given out no fewer
tickets. -/
structure Continues (before after : Session) : Prop where
  settled : after.Settled
  later : before.nextTicket ≤ after.nextTicket

theorem Continues.refl (hsettled : session.Settled) : Continues session session :=
  ⟨hsettled, Nat.le_refl _⟩

theorem Continues.trans (hfirst : Continues before after) (hsecond : Continues after last) :
    Continues before last :=
  ⟨hsecond.settled, Nat.le_trans hfirst.later hsecond.later⟩

/-- The settings, the journal, the handler and the end of the process do not matter. -/
theorem Continues.remark (hsettled : session.Settled) (ambient : Ambient)
    (handler : Option Handler) (exit : Option Exit) :
    Continues session { session with ambient, handler, exit } := by
  have hkept := hsettled.kept
  have hticketed := hsettled.ticketed
  exact ⟨⟨⟨⟨hkept.rooted, hkept.tracked, hkept.loaded⟩, hkept.tidy⟩,
    ⟨hticketed.distinct, hticketed.waiting, hticketed.answered⟩⟩, Nat.le_refl _⟩

/-- A client that goes on leads to a kept session, and its ticket stays its own. -/
theorem Settled.pursueClient {client : Waiting} (hsettled : session.Settled)
    (hclient : client ∈ session.waiting) {after : Session}
    (hpursue : (session.withoutClient client.ticket).pursue (.waits client.stage) =
      (after, progressed)) :
    after.Kept progressed.flight ∧ after.Ticketed ∧ after.Free client.ticket ∧
      after.nextTicket = session.nextTicket := by
  obtain ⟨hkept, hticketed, hfree⟩ := kept_withoutClient hsettled hclient
  have hsteady : (session.withoutClient client.ticket).Steady (.waits client.stage) :=
    steady_waits hkept.toSound hkept.tidy
  have hafter := hsteady.pursue
  have hframe := frame_pursue (session.withoutClient client.ticket) (.waits client.stage)
  rw [hpursue] at hafter hframe
  exact ⟨hafter, hticketed.frame hframe, hfree.frame hframe, hframe.nextTicket⟩

/-- An operation in flight that is served by nobody else waits under a ticket of its own. -/
def parked (session : Session) (stage : Stage) : Session :=
  session.takeTicket.1.withClient ⟨session.takeTicket.2, .direct, stage, false⟩

/-- What has become of an operation that no one else serves: it has ended, or hangs for ever. -/
def awaited (hung : Session) : Session × Progressed → Session × Option Outcome
  | (after, .ended outcome) => (after, some outcome)
  | (_, .waits _) => (hung, none)

theorem await_waits (platform : Platform) (session : Session) (stage : Stage) :
    session.await platform (.waits stage) =
      awaited ((session.parked stage).workAll platform (session.parked stage).heap.jobs.length)
        ((((session.parked stage).workAll platform
          (session.parked stage).heap.jobs.length).withoutClient session.takeTicket.2).pursue
          (.waits stage)) :=
  rfl

/-- Whatever happens while an operation is awaited, the error handler, the end of the process, the
answers and the settings stay as they are. -/
theorem await_keeps (platform : Platform) (session : Session) (progressed : Progressed) :
    (session.await platform progressed).1.handler = session.handler ∧
      (session.await platform progressed).1.exit = session.exit ∧
      (session.await platform progressed).1.answers = session.answers ∧
      (session.await platform progressed).1.ambient.settings = session.ambient.settings := by
  cases progressed with
  | ended outcome => exact ⟨rfl, rfl, rfl, rfl⟩
  | waits stage =>
    have hworked := quiet_workAll platform (session.parked stage).heap.jobs.length
      (session.parked stage)
    have hpursued := quiet_pursue (((session.parked stage).workAll platform
      (session.parked stage).heap.jobs.length).withoutClient session.takeTicket.2) (.waits stage)
    rw [await_waits]
    generalize Session.pursue _ _ = result at hpursued ⊢
    obtain ⟨after, last | last⟩ := result
    · exact ⟨hpursued.handler.trans hworked.handler, hpursued.exit.trans hworked.exit,
        hpursued.answers.trans hworked.answers, hpursued.settings.trans hworked.settings⟩
    · exact ⟨hworked.handler, hworked.exit, hworked.answers, hworked.settings⟩

/-- It lets the workers run, and then looks again. -/
theorem await_cases (platform : Platform) {stage : Stage} (hkept : session.Kept [stage])
    (hticketed : session.Ticketed) :
    (session.parked stage).Settled ∧ ∃ (fuel : Nat) (client : Waiting),
      client ∈ ((session.parked stage).workAll platform fuel).waiting ∧ client.stage = stage ∧
      ((∃ (after : Session) (outcome : Outcome),
          (((session.parked stage).workAll platform fuel).withoutClient client.ticket).pursue
            (.waits stage) = (after, .ended outcome) ∧
          session.await platform (.waits stage) = (after, some outcome)) ∨
        session.await platform (.waits stage) =
          ((session.parked stage).workAll platform fuel, none)) := by
  obtain ⟨htaken, hticketed', hfree⟩ := kept_takeTicket hkept hticketed
  have hfiled : (session.parked stage).Settled :=
    settled_withClient ⟨session.takeTicket.2, .direct, stage, false⟩ htaken hticketed' hfree
  refine ⟨hfiled, (session.parked stage).heap.jobs.length, ?_⟩
  obtain ⟨hworked, hframe⟩ := hfiled.workAll platform (session.parked stage).heap.jobs.length
  -- The client may have been woken meanwhile, but it still waits with its ticket and stage.
  have hmem : (session.takeTicket.2, Manner.direct, stage) ∈
      ((session.parked stage).workAll platform
        (session.parked stage).heap.jobs.length).waiting.map claim := by
    rw [hframe.claims]
    simp [parked, withClient, claim]
  obtain ⟨client, hclient, hclaim⟩ := List.mem_map.1 hmem
  simp only [claim, Prod.mk.injEq] at hclaim
  obtain ⟨hticket, -, hstage⟩ := hclaim
  refine ⟨client, hclient, hstage, ?_⟩
  rw [hticket, await_waits]
  cases hpursue : (((session.parked stage).workAll platform
      (session.parked stage).heap.jobs.length).withoutClient session.takeTicket.2).pursue
      (.waits stage) with
  | mk after progressed =>
    cases progressed with
    | ended outcome => exact .inl ⟨after, outcome, rfl, rfl⟩
    | waits last => exact .inr rfl

theorem continues_await (platform : Platform) (hkept : session.Kept progressed.flight)
    (hticketed : session.Ticketed) :
    Continues session (session.await platform progressed).1 := by
  cases progressed with
  | ended outcome => exact ⟨⟨hkept, hticketed⟩, Nat.le_refl _⟩
  | waits stage =>
    obtain ⟨hparked, fuel, client, hclient, rfl, hcases⟩ := await_cases platform hkept hticketed
    obtain ⟨hworked, hframe⟩ := hparked.workAll platform fuel
    have hlater : session.nextTicket ≤ (session.parked client.stage).nextTicket := Nat.le_succ _
    have hnext := Nat.le_trans hlater (Nat.le_of_eq hframe.nextTicket.symm)
    rcases hcases with ⟨after, outcome, hpursue, hawait⟩ | hawait
    · obtain ⟨hafter, hticketed, -, hsame⟩ := hworked.pursueClient hclient hpursue
      rw [hawait]
      exact ⟨⟨hafter, hticketed⟩, Nat.le_trans hnext (Nat.le_of_eq hsame.symm)⟩
    · rw [hawait]
      exact ⟨hworked, hnext⟩

theorem Settled.enter {decide : Deciding Decision} (hsettled : session.Settled)
    (hdecide : decide.Ensures (Decision.Supported session.heap.get?)) :
    (session.perform decide).1.Kept (session.perform decide).2.flight ∧
      (session.perform decide).1.Ticketed ∧
      (session.perform decide).1.nextTicket = session.nextTicket :=
  ⟨hsettled.kept.perform hdecide, hsettled.ticketed.frame (frame_perform session decide),
    (frame_perform session decide).nextTicket⟩

/-- A call inside a handler that has waited for its outcome. -/
theorem continues_call (program : Program) (hsettled : session.Settled) (call : Call) :
    Continues session ((call.enter program.toPlatform session).1.await program.toPlatform
      (call.enter program.toPlatform session).2).1 := by
  obtain ⟨hkept, hticketed, hnext⟩ := hsettled.enter
    (Call.ensures_decide call : (call.decide program.toPlatform session).Ensures _)
  have hawait := continues_await program.toPlatform hkept hticketed
  exact ⟨hawait.settled, Nat.le_trans (Nat.le_of_eq hnext.symm) hawait.later⟩

/-- A relation between sessions that everything a handler does is an instance of. -/
structure Conducts (program : Program) (relation : Session → Session → Prop) : Prop where
  settled : ∀ {before after : Session}, relation before after → after.Settled
  refl : ∀ {session : Session}, session.Settled → relation session session
  trans : ∀ {before after last : Session}, relation before after → relation after last →
    relation before last
  turn : ∀ {session : Session}, session.Settled → ∀ (ambient : Ambient)
    (handler : Option Handler) (exit : Option Exit),
    (∃ events, ambient = session.ambient.note events) →
      relation session { session with ambient, handler, exit }
  call : ∀ {session : Session}, session.Settled → ∀ call : Call,
    relation session ((call.enter program.toPlatform session).1.await program.toPlatform
      (call.enter program.toPlatform session).2).1

/-- Whatever handlers do, what each deed is an instance of holds of all of it. -/
theorem Conducts.report {relation : Session → Session → Prop}
    (hconducts : Conducts program relation) (depth : Nat) (kind : FailureKind) (message : String)
    (hsettled : session.Settled) :
    relation session (session.report program depth kind message).1 := by
  have hsilent (session : Session) : ∃ events, session.ambient = session.ambient.note events :=
    ⟨[], session.ambient.note_nil.symm⟩
  induction depth generalizing session kind message with
  | zero =>
    unfold Session.report
    split
    · exact hconducts.refl hsettled
    · exact hconducts.turn hsettled _ _ _ ⟨_, rfl⟩
    · exact hconducts.turn hsettled _ _ _ (hsilent _)
  | succ depth ih =>
    unfold Session.report
    split
    · exact hconducts.refl hsettled
    · exact hconducts.turn hsettled _ _ _ ⟨_, rfl⟩
    · next name hname =>
      simp only
      -- The deeds of a handler are done one after the other, from any session that is related.
      suffices hdeeds : ∀ (deeds : List Deed) (state : Session × List Note),
          relation session state.1 → relation session (deeds.foldl _ state).1 from
        hdeeds (program.script name) (session, []) (hconducts.refl hsettled)
      intro deeds
      induction deeds with
      | nil => exact fun state hstate ↦ hstate
      | cons deed rest ihrest =>
        rintro ⟨current, notes⟩ hcurrent
        rw [List.foldl_cons]
        apply ihrest
        have hnow : current.Settled := hconducts.settled hcurrent
        simp only
        split
        · exact hcurrent
        · exact hconducts.trans hcurrent (hconducts.turn hnow _ _ _ (hsilent _))
        · exact hcurrent
        · next call hexit =>
          have hcall := hconducts.trans hcurrent (hconducts.call hnow call)
          generalize call.enter program.toPlatform current = entered at hcall ⊢
          obtain ⟨entered, progressed⟩ := entered
          simp only at hcall ⊢
          generalize entered.await program.toPlatform progressed = awaited at hcall ⊢
          obtain ⟨awaited, outcome⟩ := awaited
          have hlater : awaited.Settled := hconducts.settled hcall
          cases outcome with
          | none => exact hconducts.trans hcall (hconducts.turn hlater _ _ _ (hsilent _))
          | some outcome =>
            cases outcome with
            | ok reply => exact hcall
            | error interruption => exact hconducts.trans hcall (ih _ _ hlater)

/-- The same for a relation that does not look at the settings and the journal. -/
structure Handles (program : Program) (relation : Session → Session → Prop) : Prop where
  settled : ∀ {before after : Session}, relation before after → after.Settled
  refl : ∀ {session : Session}, session.Settled → relation session session
  trans : ∀ {before after last : Session}, relation before after → relation after last →
    relation before last
  remark : ∀ {session : Session}, session.Settled → ∀ (ambient : Ambient)
    (handler : Option Handler) (exit : Option Exit),
    relation session { session with ambient, handler, exit }
  call : ∀ {session : Session}, session.Settled → ∀ call : Call,
    relation session ((call.enter program.toPlatform session).1.await program.toPlatform
      (call.enter program.toPlatform session).2).1

theorem handles_continues (program : Program) : Handles program Continues where
  settled := Continues.settled
  refl := Continues.refl
  trans := Continues.trans
  remark := Continues.remark
  call := continues_call program

theorem Handles.conducts {relation : Session → Session → Prop}
    (hhandles : Handles program relation) : Conducts program relation where
  settled := hhandles.settled
  refl := hhandles.refl
  trans := hhandles.trans
  turn := fun hsettled ambient handler exit _ ↦ hhandles.remark hsettled ambient handler exit
  call := hhandles.call

theorem Handles.report {relation : Session → Session → Prop} (hhandles : Handles program relation)
    (depth : Nat) (kind : FailureKind) (message : String) (hsettled : session.Settled) :
    relation session (session.report program depth kind message).1 :=
  hhandles.conducts.report depth kind message hsettled

/-- Whatever handlers do, the session continues. -/
theorem continues_report (depth : Nat) (kind : FailureKind) (message : String)
    (hsettled : session.Settled) :
    Continues session (session.report program depth kind message).1 :=
  (handles_continues program).report depth kind message hsettled

/-! ## Ends of operations -/

theorem continues_guard (program : Program) (hsettled : session.Settled) (depth : Nat)
    (sentinel : Reply) (outcome : Outcome) :
    Continues session (session.guard program depth sentinel outcome).1 := by
  cases outcome with
  | ok reply => exact Continues.refl hsettled
  | error interruption => exact continues_report depth _ _ hsettled

theorem settled_answer {ticket : Ticket} (hsettled : session.Settled)
    (hticket : ticket < session.nextTicket) (answer : Answer) :
    Settled { session with answers := session.answers ++ [(ticket, answer)] } := by
  have hkept := hsettled.kept
  refine ⟨⟨⟨hkept.rooted, hkept.tracked, hkept.loaded⟩, hkept.tidy⟩,
    hsettled.ticketed.distinct, hsettled.ticketed.waiting, ?_⟩
  intro entry hentry
  rcases List.mem_append.1 hentry with hold | hnew
  · exact hsettled.ticketed.answered entry hold
  · rw [List.mem_singleton.1 hnew]
    exact hticket

/-- An operation that has ended is answered, and one that waits keeps waiting. -/
theorem settled_file {ticket : Ticket} (hkept : session.Kept progressed.flight)
    (hticketed : session.Ticketed) (hfree : session.Free ticket) (manner : Manner) :
    (session.file program ticket manner progressed).Settled := by
  cases progressed with
  | waits stage => exact settled_withClient ⟨ticket, manner, stage, false⟩ hkept hticketed hfree
  | ended outcome =>
    cases manner with
    | direct => exact settled_answer ⟨hkept, hticketed⟩ hfree.given _
    | guarded sentinel =>
      have hguard := continues_guard program ⟨hkept, hticketed⟩ nesting sentinel
        outcome
      exact settled_answer hguard.settled (Nat.lt_of_lt_of_le hfree.given hguard.later) _

theorem settled_start (program : Program) {decide : Session → Deciding Decision}
    (hsettled : session.Settled)
    (hdecide : ∀ session : Session, session.Sound [] →
      (decide session).Ensures (Decision.Supported session.heap.get?)) (manner : Manner) :
    ((session.takeTicket.1.perform (decide session.takeTicket.1)).1.file program
      session.takeTicket.2 manner
      (session.takeTicket.1.perform (decide session.takeTicket.1)).2).Settled := by
  obtain ⟨hkept, hticketed, hfree⟩ := kept_takeTicket hsettled.kept hsettled.ticketed
  have hframe := frame_perform session.takeTicket.1 (decide session.takeTicket.1)
  exact settled_file (hkept.perform (hdecide _ hkept.toSound)) (hticketed.frame hframe)
    (hfree.frame hframe) manner

theorem frame_putToSleep (session : Session) (ticket : Ticket) :
    Frame session (session.putToSleep ticket) := by
  refine ⟨?_, rfl, rfl⟩
  simp only [putToSleep, List.map_map]
  apply List.map_congr_left
  intro client _
  simp only [Function.comp_apply]
  split <;> rfl

theorem settled_putToSleep (hsettled : session.Settled) (ticket : Ticket) :
    (session.putToSleep ticket).Settled := by
  have hframe := frame_putToSleep session ticket
  refine ⟨?_, hsettled.ticketed.frame hframe⟩
  exact hsettled.kept.congr_stages rfl rfl rfl fun stage ↦ by rw [hframe.stages]

/-- A client that looks again sleeps again or moves on. -/
theorem resume?_cases {client : Waiting} (hresume : session.resume? program client = some after) :
    ((session.withoutClient client.ticket).advance? client.stage = none ∧
        after = session.putToSleep client.ticket) ∨
      ∃ moved progressed,
        (session.withoutClient client.ticket).pursue (.waits client.stage) = (moved, progressed) ∧
          after = moved.file program client.ticket client.manner progressed := by
  unfold resume? at hresume
  split at hresume
  · simp only at hresume
    split at hresume
    · next hnone => exact .inl ⟨hnone, (Option.some.inj hresume).symm⟩
    · exact .inr ⟨_, _, rfl, (Option.some.inj hresume).symm⟩
  · exact absurd hresume (by simp)

theorem settled_resume {client : Waiting} (hsettled : session.Settled)
    (hclient : client ∈ session.waiting)
    (hresume : session.resume? program client = some after) : after.Settled := by
  rcases resume?_cases hresume with ⟨-, rfl⟩ | ⟨moved, progressed, hpursue, rfl⟩
  · exact settled_putToSleep hsettled client.ticket
  · obtain ⟨hkept, hticketed, hfree, -⟩ := hsettled.pursueClient hclient hpursue
    exact settled_file hkept hticketed hfree client.manner

/-! ## Steps -/

/-- A session at the start of the process: no handle, no object, no client and no loaded
library. -/
structure Fresh (session : Session) : Prop where
  registry : session.registry = Registry.empty
  heap : session.heap = {}
  waiting : session.waiting = []
  answers : session.answers = []
  statics : session.host.statics = []

/-- One step of a session. -/
inductive Step (program : Program) : Session → Session → Prop where
  | call (session : Session) (call : Call) : Step program session (session.startCall program call).1
  | request (session : Session) (request : Request) :
    Step program session (session.startRequest program request).1
  | work {session after : Session} (id : ObjectId)
    (hwork : session.work? program.toPlatform id = some after) : Step program session after
  | resume {session after : Session} {client : Waiting} (hclient : client ∈ session.waiting)
    (hresume : session.resume? program client = some after) : Step program session after
  /-- The host program reports a failure of its own. -/
  | report (session : Session) (kind : FailureKind) (message : String) :
    Step program session (session.report program nesting kind message).1
  /-- The host program changes the settings, the journal, the memory, the calls or the gate. -/
  | outside (session : Session) (ambient : Ambient) (memory : Memory) (calls : List CallRecord)
    (gateOpen : Bool) :
    Step program session
      { session with ambient, host := { session.host with memory, calls, gateOpen } }

/-- The sessions that come about. -/
inductive Reachable (program : Program) : Session → Prop where
  | fresh {session : Session} (hfresh : session.Fresh) : Reachable program session
  | step {before after : Session} (hreachable : Reachable program before)
    (hstep : Step program before after) : Reachable program after

theorem settled_fresh (hfresh : session.Fresh) : session.Settled := by
  have hget (id : ObjectId) : session.heap.get? id = none := by
    rw [hfresh.heap]
    rfl
  have hhandle (handle : Handle) : session.registry.get? handle = none := by
    rw [hfresh.registry]
    rfl
  have hqueue (id : ObjectId) : session.heap.hostQueue? id = none := by
    unfold hostQueue?
    rw [hget]
  have hstages : session.stages [] = [] := by
    simp [stages, hfresh.waiting]
  refine ⟨⟨⟨⟨⟨⟨?_, ?_⟩, ?_, ?_⟩, ?_, ?_, ?_, ?_⟩, ?_, ?_⟩, ?_⟩, ⟨?_, ?_, ?_⟩⟩
  · exact Table.ordered_of_entries_eq_nil (by rw [hfresh.heap])
  · intro id object hsome
    rw [hget] at hsome
    exact absurd hsome (by simp)
  · intro id object hsome
    rw [hget] at hsome
    exact absurd hsome (by simp)
  · intro id queue hsome
    rw [hqueue] at hsome
    exact absurd hsome (by simp)
  · exact Table.ordered_of_entries_eq_nil (by rw [hfresh.registry]; rfl)
  · intro handle slot hsome
    rw [hhandle] at hsome
    exact absurd hsome (by simp)
  · intro stage hstage
    rw [hstages] at hstage
    exact absurd hstage List.not_mem_nil
  · intro id queue hsome
    rw [hqueue] at hsome
    exact absurd hsome (by simp)
  · exact Tracked.of_entries_eq_nil (by rw [hfresh.heap])
  · intro entry hentry
    rw [hfresh.statics] at hentry
    exact absurd hentry List.not_mem_nil
  · intro id object hsome
    rw [hget] at hsome
    exact absurd hsome (by simp)
  · simp [hfresh.waiting]
  · simp [hfresh.waiting]
  · simp [hfresh.answers]

/-- A step leads from a session between operations to another one. -/
theorem Step.settled (hstep : Step program before after) (hsettled : before.Settled) :
    after.Settled := by
  cases hstep with
  | call call => exact settled_start program hsettled (fun _ _ ↦ Call.ensures_decide call) _
  | request request =>
    exact settled_start program hsettled
      (fun _ hsound ↦ Request.ensures_decide hsound request) _
  | work id hwork => exact hsettled.work hwork
  | resume hclient hresume => exact settled_resume hsettled hclient hresume
  | report kind message => exact (continues_report nesting kind message hsettled).settled
  | outside ambient memory calls gateOpen =>
    have hkept := hsettled.kept
    have hticketed := hsettled.ticketed
    exact ⟨⟨⟨hkept.rooted, hkept.tracked, hkept.loaded⟩, hkept.tidy⟩,
      ⟨hticketed.distinct, hticketed.waiting, hticketed.answered⟩⟩

theorem Reachable.settled (hreachable : Reachable program session) : session.Settled := by
  induction hreachable with
  | fresh hfresh => exact settled_fresh hfresh
  | step _ hstep ih => exact hstep.settled ih

end Session

end Offload
