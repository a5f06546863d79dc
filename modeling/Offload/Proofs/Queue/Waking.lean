import Offload.Proofs.Session.Failing

/-!
# No wake-up is lost

A client sleeps only as long as what it waits for has not come: a full queue for one that wants room
in it, a pending operation for one that drains it. Only a worker that finishes a job takes a pending
operation away, and it wakes every client of its queue in the same step. A client that looks again
goes on or finds, in that step, that it still has to wait. So whatever clients and workers do, nobody
sleeps who could go on.
-/

namespace Offload

/-- A queue does not let a client go on: it is full for one that wants room, and not idle for one that
drains it. -/
def HostQueue.Delays (queue : HostQueue) : Stage → Prop
  | .room _ _ => queue.capacity ≤ queue.progress.pending
  | .drained _ | .discarded _ _ => 0 < queue.progress.pending

/-- What a client waits for has not come. -/
def Stage.Unmet (heap : Heap) (stage : Stage) : Prop :=
  ∃ queue, heap.hostQueue? stage.queue = some queue ∧ queue.Delays stage

namespace Session

open Heap

variable {program : Program} {platform : Platform} {session before after last : Session}
  {stage other : Stage} {progressed : Progressed} {id : ObjectId}

/-- A client goes on at once unless its queue delays it. -/
theorem advance?_eq_none_iff (hqueue : ∃ queue, session.heap.hostQueue? stage.queue = some queue) :
    session.advance? stage = none ↔ stage.Unmet session.heap := by
  obtain ⟨queue, hqueue⟩ := hqueue
  have hunmet : stage.Unmet session.heap ↔ queue.Delays stage := by
    simp [Stage.Unmet, hqueue]
  rw [hunmet]
  cases stage with
  | room id job =>
    have hfound : session.heap.hostQueue? id = some queue := hqueue
    by_cases hroom : queue.progress.pending < queue.capacity
    · simp only [advance?, hfound, Progress.acquire?, if_pos hroom, HostQueue.Delays,
        Nat.not_le.2 hroom, bind, Option.bind_some, iff_false]
      split <;> simp
    · simp [advance?, hfound, Progress.acquire?, hroom, HostQueue.Delays, Nat.not_lt.1 hroom]
  | drained id | discarded id outcome =>
    have hfound : session.heap.hostQueue? id = some queue := hqueue
    by_cases hidle : queue.progress.pending = 0
    · simp [advance?, hfound, Progress.drain?, hidle, HostQueue.Delays]
    · simp [advance?, hfound, Progress.drain?, hidle, HostQueue.Delays, Nat.pos_of_ne_zero hidle]

/-- A queue that delays a client has something pending: every queue has some room. -/
theorem pending_pos_of_delays {heap : Heap} {queue : HostQueue} (hsound : heap.Sound)
    (hqueue : heap.hostQueue? id = some queue) (hdelays : queue.Delays stage) :
    0 < queue.progress.pending := by
  have hpositive := (hsound.queues hqueue).positive
  cases stage with
  | room => exact Nat.lt_of_lt_of_le hpositive hdelays
  | drained | discarded => exact hdelays

theorem unmet_of_hostQueue? (hunmet : stage.Unmet before.heap)
    (hkeeps : ∀ id queue, before.heap.hostQueue? id = some queue →
      after.heap.hostQueue? id = some queue) : stage.Unmet after.heap := by
  obtain ⟨queue, hqueue, hdelays⟩ := hunmet
  exact ⟨queue, hkeeps _ queue hqueue, hdelays⟩

/-! ## What disturbs no sleeping client -/

/-- The waiting clients are the same, and what none of them could have is still out of reach. -/
structure Undisturbed (before after : Session) : Prop where
  waiting : after.waiting = before.waiting
  unmet : ∀ stage : Stage, stage.Unmet before.heap → stage.Unmet after.heap

namespace Undisturbed

theorem refl (session : Session) : Undisturbed session session := ⟨rfl, fun _ hunmet ↦ hunmet⟩

theorem trans (hfirst : Undisturbed before after) (hsecond : Undisturbed after last) :
    Undisturbed before last :=
  ⟨hsecond.waiting.trans hfirst.waiting, fun stage ↦ hsecond.unmet stage ∘ hfirst.unmet stage⟩

theorem of_hostQueue? (hwaiting : after.waiting = before.waiting)
    (hkeeps : ∀ id queue, before.heap.hostQueue? id = some queue →
      after.heap.hostQueue? id = some queue) : Undisturbed before after :=
  ⟨hwaiting, fun _ hunmet ↦ unmet_of_hostQueue? hunmet hkeeps⟩

theorem of_heap_eq (hwaiting : after.waiting = before.waiting) (hheap : after.heap = before.heap) :
    Undisturbed before after :=
  of_hostQueue? hwaiting fun _ _ hqueue ↦ hheap ▸ hqueue

end Undisturbed

theorem undisturbed_place (hordered : session.heap.Ordered) (object : Object) :
    Undisturbed session (session.place object).1 := by
  refine .of_hostQueue? rfl fun id queue hqueue ↦ ?_
  have hlt := hordered.lt_next (hostQueue?_eq_some.1 hqueue)
  show hostQueue? (session.heap.insert object).1 id = some queue
  rw [hostQueue?_insert, if_neg (Nat.ne_of_lt hlt), hqueue]

/-- A collection takes no queue away that has something pending. -/
theorem undisturbed_collect
    (hrooted : Rooted session.registry (session.stages []) session.heap) :
    Undisturbed session session.collect := by
  refine ⟨rfl, ?_⟩
  rintro stage ⟨queue, hqueue, hdelays⟩
  have hbusy : queue.progress ≠ {} := by
    intro hidle
    have hpending := pending_pos_of_delays hrooted.sound hqueue hdelays
    rw [hidle] at hpending
    exact absurd hpending (Nat.lt_irrefl _)
  exact ⟨queue, hostQueue?_collect_of_refers hrooted hqueue (hrooted.busy hqueue hbusy), hdelays⟩

theorem waiting_deliver (session : Session) (job : Job) :
    (session.deliver job).1.waiting = session.waiting := by
  unfold deliver
  split <;> rfl

/-- A drain gives nobody what it waits for: the queue is idle already. -/
theorem unmet_drain {queue : HostQueue} (hsound : session.heap.Sound)
    (hqueue : session.heap.hostQueue? id = some queue) (hidle : queue.progress.pending = 0)
    (hunmet : stage.Unmet session.heap) : stage.Unmet (session.drain id {}).heap := by
  obtain ⟨found, hfound, hdelays⟩ := hunmet
  have hother : stage.queue ≠ id := by
    intro hsame
    rw [hsame, hqueue] at hfound
    obtain rfl := Option.some.inj hfound
    exact absurd hidle (Nat.ne_of_gt (pending_pos_of_delays hsound hqueue hdelays))
  refine ⟨found, ?_, hdelays⟩
  rw [Session.drain, hostQueue?_modifyQueue, if_neg hother, hfound]

/-- A client that goes on gives nobody else what it waits for: it takes room, or finds the queue
idle. -/
theorem undisturbed_advance (hsound : session.heap.Sound)
    (hadvance : session.advance? stage = some (after, progressed)) :
    Undisturbed session after := by
  cases stage with
  | room id job =>
    obtain ⟨queue, hqueue, hroom, hresult⟩ := advance?_room hadvance
    have hafter : after = (leave _ _ _).1 := congrArg Prod.fst hresult
    rw [hafter, (leave_eq _ _ _).1]
    refine ⟨waiting_deliver _ job, ?_⟩
    rintro other ⟨found, hfound, hdelays⟩
    unfold Stage.Unmet
    rw [heap_deliver]
    simp only [Session.accept, hostQueue?_modifyQueue]
    by_cases hother : other.queue = id
    · rw [hother, hqueue] at hfound
      obtain rfl := Option.some.inj hfound
      refine ⟨_, by rw [if_pos hother, hother, hqueue]; rfl, ?_⟩
      cases other with
      | room => exact absurd hroom (Nat.not_lt.2 hdelays)
      | drained | discarded => exact Nat.succ_pos _
    · exact ⟨found, by rw [if_neg hother, hfound], hdelays⟩
  | drained id =>
    obtain ⟨queue, hqueue, hidle, hresult⟩ := advance?_drained hadvance
    have hafter : after = (leave _ _ _).1 := congrArg Prod.fst hresult
    rw [hafter, (leave_eq _ _ _).1]
    exact ⟨rfl, fun _ ↦ unmet_drain hsound hqueue hidle⟩
  | discarded id outcome =>
    obtain ⟨queue, hqueue, hidle, rfl, -⟩ := advance?_discarded hadvance
    exact ⟨rfl, fun _ ↦ unmet_drain hsound hqueue hidle⟩

theorem undisturbed_pursue (hsteady : session.Steady progressed) :
    Undisturbed session (session.pursue progressed).1 := by
  rcases session.pursue_cases progressed with ⟨outcome, rfl, hpursue⟩ | ⟨stage, rfl, hcases⟩
  · rw [hpursue]
    exact undisturbed_collect hsteady.sound.rooted
  · rcases hcases with ⟨-, hpursue⟩ | ⟨after, outcome, hadvance, hpursue⟩ |
      ⟨middle, last, hadvance, hcases⟩
    · rw [hpursue]
      exact .refl session
    · rw [hpursue]
      have hafter := hsteady.advance hadvance
      exact (undisturbed_advance hsteady.sound.rooted.sound hadvance).trans
        (undisturbed_collect hafter.sound.rooted)
    · have hmiddle := hsteady.advance hadvance
      have hmoved := undisturbed_advance hsteady.sound.rooted.sound hadvance
      rcases hcases with ⟨after, outcome, hlast, hpursue⟩ | hpursue
      · rw [hpursue]
        have hafter := hmiddle.advance hlast
        exact hmoved.trans ((undisturbed_advance hmiddle.sound.rooted.sound hlast).trans
          (undisturbed_collect hafter.sound.rooted))
      · rw [hpursue]
        exact hmoved

/-- An operation that has to wait waits for something that has not come. -/
theorem advance?_eq_none_of_pursue
    (hpursue : session.pursue progressed = (after, .waits stage)) :
    after.advance? stage = none := by
  unfold pursue at hpursue
  split at hpursue
  · exact absurd (congrArg Prod.snd hpursue) (by simp)
  · next first =>
    split at hpursue
    · next hnone =>
      obtain ⟨rfl, hstage⟩ := Prod.mk.inj hpursue
      exact Progressed.waits.inj hstage ▸ hnone
    · exact absurd (congrArg Prod.snd hpursue) (by simp)
    · next middle last hadvance =>
      split at hpursue
      · exact absurd (congrArg Prod.snd hpursue) (by simp)
      · next hnot =>
        obtain ⟨rfl, hstage⟩ := Prod.mk.inj hpursue
        obtain rfl := Progressed.waits.inj hstage
        cases hlast : middle.advance? last with
        | none => rfl
        | some result =>
          obtain ⟨final, ended⟩ := result
          obtain ⟨outcome, -, hverdict⟩ := verdict_advance hadvance
          obtain ⟨queue, rfl⟩ := eq_discarded_of_verdict hverdict
          obtain ⟨-, -, -, -, rfl⟩ := advance?_discarded hlast
          exact absurd hlast (hnot final outcome)

/-- An operation that has to wait waits for something that has not come. -/
theorem unmet_of_pursue (hsteady : session.Steady progressed)
    (hpursue : session.pursue progressed = (after, .waits stage)) : stage.Unmet after.heap := by
  have hkept := hsteady.pursue
  rw [hpursue] at hkept
  obtain ⟨queue, hqueue⟩ := (hkept.rooted.supported stage List.mem_cons_self).queue
  exact (advance?_eq_none_iff ⟨queue, hostQueue?_eq_some.2 hqueue⟩).1
    (advance?_eq_none_of_pursue hpursue)

/-! ## Commits -/

theorem undisturbed_placeView (hordered : session.heap.Ordered) (view : View) :
    Undisturbed session (session.placeView view).1 := by
  cases view with
  | foreign => exact undisturbed_place hordered _
  | host view =>
    unfold placeView
    simp only
    split
    · next adopted ranges hcontext =>
      generalize ranges.track view.address view.size view.kind = tracked
      obtain ⟨ranges, registration⟩ := tracked
      have halike := alike_modifyContext session.heap view.context fun _ ↦ ranges
      refine .trans ?_ (undisturbed_place ?_ _)
      · refine .of_hostQueue? rfl fun id queue hqueue ↦ ?_
        rw [← hqueue]
        exact hostQueue?_modifyContext session.heap view.context (·.mapRanges fun _ ↦ ranges) id
      · exact halike.ordered hordered
    · refine .trans (.of_heap_eq ?_ ?_) (undisturbed_place ?_ _)
      · rfl
      · rfl
      · exact hordered

theorem undisturbed_placeCreation (hordered : session.heap.Ordered) (creation : Creation) :
    Undisturbed session (session.placeCreation creation).1 := by
  have hplaced {session : Session} (hordered : session.heap.Ordered) (object : Object) :
      (session.place object).1.heap.Ordered := hordered.insert object
  cases creation with
  | view view => exact undisturbed_placeView hordered view
  | deviceWithContext index =>
    exact .trans (undisturbed_place hordered _) (undisturbed_place (hplaced hordered _) _)
  | queueWithDevice capacity =>
    exact .trans (undisturbed_place hordered _) (.trans (undisturbed_place (hplaced hordered _) _)
      (undisturbed_place (hplaced (hplaced hordered _) _) _))
  | _ => exact undisturbed_place hordered _

theorem undisturbed_release (session : Session) (handle : Handle) :
    Undisturbed session (session.release handle).1 := by
  refine .of_heap_eq ?_ (session.release_keeps handle).1
  rcases session.release_cases handle with ⟨failure, hrelease⟩ | hrelease |
    ⟨slot, -, events, hrelease⟩
  · rw [hrelease]
  · rw [hrelease]
  · simp only at hrelease
    rw [hrelease]
    split
    · rw [(leave_eq _ _ _).1]
      rfl
    · rfl

/-- Committing a decision disturbs no sleeping client. -/
theorem undisturbed_commit (hordered : session.heap.Ordered) (decision : Decision) :
    Undisturbed session (session.commit decision).1 := by
  obtain ⟨records, effect⟩ := decision
  have hrecord : Undisturbed session
      { session with host := records.foldl .record session.host } := .of_heap_eq rfl rfl
  cases effect with
  | create creation =>
    refine hrecord.trans (.trans (undisturbed_placeCreation ?_ creation) (.of_heap_eq rfl rfl))
    exact hordered
  | retain handle =>
    simp only [commit]
    split <;> exact .of_heap_eq rfl rfl
  | release handle => exact hrecord.trans (undisturbed_release _ handle)
  | link modules =>
    exact .of_hostQueue? rfl fun id queue hqueue ↦ (hostQueue?_link _ _ id).trans hqueue
  | launch queue job =>
    refine hrecord.trans (undisturbed_place ?_ _)
    exact hordered
  | settle future next =>
    exact .of_hostQueue? rfl fun id queue hqueue ↦ (hostQueue?_settleFuture _ _ _ id).trans hqueue
  | _ => exact .of_heap_eq rfl rfl

/-- An operation disturbs no sleeping client, and waits only for something that has not come. -/
theorem undisturbed_perform {decide : Deciding Decision} (hkept : session.Kept [])
    (hdecide : decide.Ensures (Decision.Supported session.heap.get?)) :
    Undisturbed session (session.perform decide).1 ∧
      ∀ stage, (session.perform decide).2 = .waits stage →
        stage.Unmet (session.perform decide).1.heap := by
  unfold Session.perform
  cases hrun : decide.run.run session.ambient with
  | mk outcome ambient =>
    have hambient : Kept { session with ambient } [] :=
      ⟨⟨hkept.rooted, hkept.tracked, hkept.loaded⟩, hkept.tidy⟩
    have hnoted : Undisturbed session { session with ambient } := .of_heap_eq rfl rfl
    cases outcome with
    | error interruption => exact ⟨hnoted, fun stage hwaits ↦ nomatch hwaits⟩
    | ok decision =>
      have hdecision : decision.Supported session.heap.get? :=
        hdecide session.ambient decision (by rw [hrun])
      have hsteady := hambient.commit hdecision
      refine ⟨?_, fun stage hwaits ↦ unmet_of_pursue hsteady (Prod.ext rfl hwaits)⟩
      refine hnoted.trans (.trans (undisturbed_commit ?_ decision) (undisturbed_pursue hsteady))
      exact hkept.rooted.ordered

/-! ## Sleeping clients -/

/-- Nobody sleeps who could go on. -/
def Alert (session : Session) : Prop :=
  ∀ client ∈ session.waiting, client.awake = false → client.stage.Unmet session.heap

namespace Alert

theorem undisturbed (halert : before.Alert) (hundisturbed : Undisturbed before after) :
    after.Alert := fun client hclient hasleep ↦
  hundisturbed.unmet _ (halert client (hundisturbed.waiting ▸ hclient) hasleep)

theorem withClient (halert : session.Alert) {client : Waiting}
    (hunmet : client.stage.Unmet session.heap) : (session.withClient client).Alert := by
  intro other hother hasleep
  rcases List.mem_append.1 hother with hold | hnew
  · exact halert other hold hasleep
  · exact List.mem_singleton.1 hnew ▸ hunmet

theorem withoutClient (halert : session.Alert) (ticket : Ticket) :
    (session.withoutClient ticket).Alert :=
  fun other hother ↦ halert other (List.mem_filter.1 hother).1

/-- A worker that finishes a job wakes the clients of its queue; all others wait for queues that it
leaves alone. -/
theorem work (halert : session.Alert) (hkept : session.Kept [])
    (hwork : session.work? platform id = some after) : after.Alert := by
  obtain ⟨ordered, job, rest, host, failure, -, -, -, retired, hheap, -, hwaiting, -, hrooted,
    htracked, rfl⟩ := work_retires hkept hwork
  intro client hclient hasleep
  obtain ⟨other, hother, rfl⟩ := List.mem_map.1 hclient
  unfold Waiting.wake at hasleep ⊢
  split at hasleep
  · exact absurd hasleep (by simp)
  · next hqueue =>
    rw [if_neg hqueue]
    have hold : other.stage.Unmet session.heap := halert other (hwaiting ▸ hother) hasleep
    have hretired : other.stage.Unmet retired.heap := by
      obtain ⟨found, hfound, hdelays⟩ := hold
      refine ⟨found, ?_, hdelays⟩
      rw [hheap, hostQueue?_modifyQueue, if_neg hqueue, hostQueue?_settled, hfound]
    exact (undisturbed_collect hrooted).unmet _ hretired

theorem workAll (halert : session.Alert) (hsettled : session.Settled) (platform : Platform)
    (fuel : Nat) :
    (session.workAll platform fuel).Alert := by
  induction fuel generalizing session with
  | zero => exact halert
  | succ fuel ih =>
    unfold Session.workAll
    split
    · exact halert
    · next after hsome =>
      obtain ⟨queue, -, hwork⟩ := List.exists_of_findSome?_eq_some hsome
      exact ih (halert.work hsettled.kept hwork) (hsettled.work hwork)

/-- A client that goes on leaves the others as they are. -/
theorem pursueClient (halert : session.Alert) (hsettled : session.Settled) {client : Waiting}
    (hclient : client ∈ session.waiting) :
    ((session.withoutClient client.ticket).pursue (.waits client.stage)).1.Alert := by
  obtain ⟨hkept, -, -⟩ := kept_withoutClient hsettled hclient
  exact (halert.withoutClient client.ticket).undisturbed
    (undisturbed_pursue (steady_waits hkept.toSound hkept.tidy))

/-- A call of a handler that has to wait sleeps like any other client. -/
theorem parked (halert : session.Alert) (hunmet : stage.Unmet session.heap) :
    (session.parked stage).Alert := by
  have hopened : session.takeTicket.1.Alert := halert
  exact hopened.withClient hunmet

theorem await (halert : session.Alert) (hkept : session.Kept progressed.flight)
    (hticketed : session.Ticketed)
    (hunmet : ∀ stage, progressed = .waits stage → stage.Unmet session.heap) :
    (session.await platform progressed).1.Alert := by
  cases progressed with
  | ended outcome => exact halert
  | waits stage =>
    obtain ⟨hparked, fuel, client, hclient, rfl, hcases⟩ := await_cases platform hkept hticketed
    have hworked := (halert.parked (hunmet _ rfl)).workAll hparked platform fuel
    rcases hcases with ⟨after, outcome, hpursue, hawait⟩ | hawait
    · have hpursued := hworked.pursueClient (hparked.workAll platform fuel).1 hclient
      rw [hpursue] at hpursued
      rw [hawait]
      exact hpursued
    · rw [hawait]
      exact hworked

theorem call (halert : session.Alert) (hsettled : session.Settled) (call : Call) :
    ((call.enter platform session).1.await platform (call.enter platform session).2).1.Alert := by
  have hdecide : (call.decide platform session).Ensures _ := Call.ensures_decide call
  obtain ⟨hkept, hticketed, -⟩ := hsettled.enter hdecide
  obtain ⟨hundisturbed, hunmet⟩ := undisturbed_perform hsettled.kept hdecide
  exact (halert.undisturbed hundisturbed).await hkept hticketed hunmet

end Alert

/-- Handlers leave nobody asleep who could go on. -/
theorem handles_alert (program : Program) :
    Handles program fun before after ↦ after.Settled ∧ (before.Alert → after.Alert) where
  settled := fun hrelated ↦ hrelated.1
  refl := fun hsettled ↦ ⟨hsettled, id⟩
  trans := fun hfirst hsecond ↦ ⟨hsecond.1, hsecond.2 ∘ hfirst.2⟩
  remark := fun hsettled ambient handler exit ↦
    ⟨(Continues.remark hsettled ambient handler exit).settled, id⟩
  call := fun hsettled call ↦
    ⟨(continues_call program hsettled call).settled, fun halert ↦ halert.call hsettled call⟩

namespace Alert

theorem file {ticket : Ticket} {manner : Manner} (halert : session.Alert)
    (hkept : session.Kept progressed.flight) (hticketed : session.Ticketed)
    (hunmet : ∀ stage, progressed = .waits stage → stage.Unmet session.heap) :
    (session.file program ticket manner progressed).Alert := by
  cases progressed with
  | waits stage => exact halert.withClient (hunmet stage rfl)
  | ended outcome =>
    cases manner with
    | direct => exact halert
    | guarded sentinel =>
      cases outcome with
      | ok reply => exact halert
      | error interruption =>
        exact ((handles_alert program).report nesting interruption.kind interruption.message
          ⟨hkept, hticketed⟩).2 halert

theorem start (program : Program) {decide : Session → Deciding Decision}
    (halert : session.Alert) (hsettled : session.Settled)
    (hdecide : ∀ session : Session, session.Sound [] →
      (decide session).Ensures (Decision.Supported session.heap.get?)) (manner : Manner) :
    ((session.takeTicket.1.perform (decide session.takeTicket.1)).1.file program
      session.takeTicket.2 manner
      (session.takeTicket.1.perform (decide session.takeTicket.1)).2).Alert := by
  obtain ⟨hkept, hticketed, -⟩ := kept_takeTicket hsettled.kept hsettled.ticketed
  have hensures := hdecide _ hkept.toSound
  obtain ⟨hundisturbed, hunmet⟩ := undisturbed_perform hkept hensures
  have hopened : session.takeTicket.1.Alert := halert
  exact (hopened.undisturbed hundisturbed).file (hkept.perform hensures)
    (hticketed.frame (frame_perform _ _)) hunmet

/-- A client that looks again goes on, or sleeps on while it still has to wait. -/
theorem resume {client : Waiting} (halert : session.Alert) (hsettled : session.Settled)
    (hclient : client ∈ session.waiting)
    (hresume : session.resume? program client = some after) : after.Alert := by
  obtain ⟨hopened, -, -⟩ := kept_withoutClient hsettled hclient
  rcases resume?_cases hresume with ⟨hnone, rfl⟩ | ⟨moved, progressed, hpursue, rfl⟩
  · obtain ⟨queue, hqueue⟩ := (hopened.rooted.supported _ List.mem_cons_self).queue
    have hunmet : client.stage.Unmet session.heap :=
      (advance?_eq_none_iff ⟨queue, hostQueue?_eq_some.2 hqueue⟩).1 hnone
    intro other hother hasleep
    obtain ⟨old, hold, rfl⟩ := List.mem_map.1 hother
    split at hasleep
    · next hticket =>
      obtain rfl := List.inj_on_of_nodup_map hsettled.ticketed.distinct hold hclient hticket
      rw [if_pos hticket]
      exact hunmet
    · next hticket =>
      rw [if_neg hticket]
      exact halert old hold hasleep
  · have hpursued := halert.pursueClient hsettled hclient
    obtain ⟨hkept, hticketed, -⟩ := hsettled.pursueClient hclient hpursue
    have hsteady := steady_waits hopened.toSound hopened.tidy
    rw [hpursue] at hpursued
    refine hpursued.file hkept hticketed fun stage hwaits ↦ ?_
    exact unmet_of_pursue hsteady (hwaits ▸ hpursue)

/-- No step leaves anybody asleep who could go on. -/
theorem step (halert : before.Alert) (hsettled : before.Settled)
    (hstep : Step program before after) : after.Alert := by
  cases hstep with
  | call call => exact halert.start program hsettled (fun _ _ ↦ Call.ensures_decide call) _
  | request request =>
    exact halert.start program hsettled (fun _ hsound ↦ Request.ensures_decide hsound request) _
  | work id hwork => exact halert.work hsettled.kept hwork
  | resume hclient hresume => exact halert.resume hsettled hclient hresume
  | report kind message => exact ((handles_alert program).report _ _ _ hsettled).2 halert
  | outside ambient memory calls gateOpen => exact halert

theorem passage (halert : before.Alert) (hsettled : before.Settled)
    (hpassage : Passage program before after) : after.Alert := by
  cases hpassage with
  | step hstep => exact halert.step hsettled hstep
  | ticket => exact halert
  | @interrupted _ call interruption henter =>
    have hdecide : (call.decide program.toPlatform before).Ensures _ := Call.ensures_decide call
    have hperform : before.perform (call.decide program.toPlatform before) = (after, _) := henter
    have hundisturbed := (undisturbed_perform hsettled.kept hdecide).1
    rw [hperform] at hundisturbed
    exact halert.undisturbed hundisturbed
  | resumed hclient hpursue =>
    have hpursued := halert.pursueClient hsettled hclient
    rw [hpursue] at hpursued
    exact hpursued
  | deed ambient handler exit => exact halert
  | awaited call => exact halert.call hsettled call
  | answered hticket answer => exact halert

end Alert

theorem Reachable.alert (hreachable : Reachable program session) : session.Alert := by
  induction hreachable with
  | fresh hfresh => exact fun client hclient ↦ absurd (hfresh.waiting ▸ hclient) List.not_mem_nil
  | step hbefore hstep ih => exact ih.step hbefore.settled hstep

theorem Visited.alert (hvisited : Visited program session) : session.Alert :=
  (hvisited.induct Reachable.alert fun hsettled hpassage halert ↦
    halert.passage hsettled hpassage).2

end Session

end Offload
