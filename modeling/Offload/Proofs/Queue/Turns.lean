import Offload.Proofs.Queue.Performing

/-!
# Turns keep step

A turn of the worker or a wait changes nothing about what an errand comes to once it has caught up,
and a command changes it as it changes the immediate run. So after any number of turns an errand keeps
step with the immediate run that has seen as much.
-/

namespace Offload

open Heap

variable {program : Program} {platform : Platform} {id : ObjectId} {queue : Handle}
  {session after : Session} {command : Command} {errand : Errand} {base : Immediate}
  {client : Client}

namespace Errand

/-! ## How far a command has come -/

/-- How far an errand has come with its client's command, next to the immediate run that has seen as
much. -/
inductive Phase (program : Program) (queue : Handle) (id : ObjectId) (client : Client)
    (base : Immediate) (errand : Errand) : Prop where
  /-- No command has been started. -/
  | idle (hflight : errand.inFlight = none) (hidle : errand.session.waiting = [])
    (hserves : base.session.Serves queue id)
    (hsame : Immediate.Same errand.session.heap.files
      (errand.caughtUp program.toPlatform.routine id) base)
  /-- The command has its outcome. -/
  | arrived {command : Command} {ticket : Ticket} {answer : Answer}
    (hflight : errand.inFlight = some (command, ticket)) (hnext : client base.seen = some command)
    (hserves : (base.perform program.toPlatform id
      (command.request queue)).1.session.Serves queue id)
    (hanswer : errand.session.answer? ticket = some answer)
    (houtcome : answer.outcome =
      (base.perform program.toPlatform id (command.request queue)).2)
    (harrived : errand.Arrived program.toPlatform queue id command
      (base.perform program.toPlatform id (command.request queue)).1)
  /-- The client waits. -/
  | waits {command : Command} {ticket : Ticket} {stage : Stage} {awake : Bool}
    (hflight : errand.inFlight = some (command, ticket)) (hnext : client base.seen = some command)
    (hserves : (base.perform program.toPlatform id
      (command.request queue)).1.session.Serves queue id)
    (hwaiting : errand.session.waiting = [⟨ticket, .direct, stage, awake⟩])
    (hunanswered : ∀ entry ∈ errand.session.answers, entry.1 ≠ ticket)
    (hbusy : awake = true ∨ errand.session.heap.jobsOf stage.queue ≠ [])
    (hwaits : errand.Waits program.toPlatform id command stage
      (base.perform program.toPlatform id (command.request queue)))

/-- An errand that keeps step with the immediate run that has seen as much. -/
structure Tracks (program : Program) (queue : Handle) (id : ObjectId) (client : Client)
    (start : Immediate) (errand : Errand) : Prop where
  settled : errand.session.Settled
  gateOpen : errand.session.host.gateOpen = true
  seen : errand.seen = (start.run program.toPlatform queue id client errand.seen.length).seen
  phase : errand.Phase program queue id client
    (start.run program.toPlatform queue id client errand.seen.length)

/-! ## Turns -/

/-- An operation that ends is answered under its ticket. -/
theorem answer?_append {ticket : Ticket} (answer : Answer)
    (hunanswered : ∀ entry ∈ session.answers, entry.1 ≠ ticket) :
    ({ session with answers := session.answers ++ [(ticket, answer)] } : Session).answer? ticket =
      some answer := by
  have hnone : session.answers.find? (·.1 == ticket) = none := by
    rw [List.find?_eq_none]
    intro entry hentry
    simpa using hunanswered entry hentry
  unfold Session.answer?
  rw [List.find?_append, hnone]
  simp

/-- A turn of the worker leaves an errand in its phase. -/
theorem Phase.work (hlocal : ∀ entry, (program.routine entry).Local entry.file?)
    (hsettled : errand.session.Settled) (hgate : errand.session.host.gateOpen = true)
    {ordered : HostQueue} {job : Job} {rest : List Job}
    (hqueue : errand.session.heap.hostQueue? id = some ordered) (hjobs : ordered.jobs = job :: rest)
    (hwork : errand.session.work? program.toPlatform id = some after)
    (hphase : errand.Phase program queue id client base) :
    { errand with
        session := after
        entered := errand.entered ++ job.work.entered }.Phase program queue id client base ∧
      after.host.gateOpen = true := by
  have hanswers := (Session.frame_work hwork).answers
  obtain ⟨-, -, -, -, -, -, -, -, retired, -, hregistry, hwaiting, -, -, -, hafter⟩ :=
    Session.work_retires hsettled.kept hwork
  have hregistry : after.registry = errand.session.registry := by
    rw [hafter]
    exact hregistry
  have hwaiting : after.waiting = errand.session.waiting.map (·.wake id) := by
    rw [hafter, ← hwaiting]
    rfl
  have hmoved {target : Immediate} (hsame : Immediate.Same errand.session.heap.files
      (errand.caughtUp program.toPlatform.routine id) target) :=
    work_same hlocal hsettled.kept hgate hqueue hjobs hwork hsame
  cases hphase with
  | idle hflight hnobody hserves hsame =>
    rw [hnobody] at hwaiting
    obtain ⟨hopen, hsame⟩ := hmoved hsame
    exact ⟨.idle hflight hwaiting hserves hsame, hopen⟩
  | arrived hflight hnext hserves hanswer houtcome harrived =>
    rw [harrived.idle] at hwaiting
    obtain ⟨hopen, hsame⟩ := hmoved harrived.same
    have hkept : after.answer? = errand.session.answer? := by
      unfold Session.answer?
      rw [hanswers]
    refine ⟨.arrived hflight hnext hserves (hkept ▸ hanswer) houtcome ⟨hwaiting, hsame, ?_⟩, hopen⟩
    intro hcommand hthere
    have hnone := harrived.synced hcommand hthere
    rw [jobsOf, hqueue] at hnone
    exact absurd (hjobs.symm.trans hnone) (by simp)
  | @waits _ ticket stage awake hflight hnext hserves hclient hunanswered hbusy hwaits =>
    obtain ⟨before, hsame, hattend⟩ := hwaits.before
    obtain ⟨hopen, hsame⟩ := hmoved hsame
    rw [← hanswers] at hunanswered
    have hawaits := hwaits.awaits
    rw [← hregistry] at hawaits
    rw [hclient] at hwaiting
    by_cases hown : stage.queue = id
    · have hwoken : after.waiting = [⟨ticket, .direct, stage, true⟩] := by
        simpa [Waiting.wake, hown] using hwaiting
      exact ⟨.waits hflight hnext hserves hwoken hunanswered (.inl rfl)
        ⟨⟨before, hsame, hattend⟩, hawaits, hwaits.synced⟩, hopen⟩
    · have hasleep : after.waiting = [⟨ticket, .direct, stage, awake⟩] := by
        simpa [Waiting.wake, hown] using hwaiting
      have hothers := Session.jobsOf_work hown hsettled.kept hwork
      rw [← hothers] at hbusy
      exact ⟨.waits hflight hnext hserves hasleep hunanswered hbusy
        ⟨⟨before, hsame, hattend⟩, hawaits, hwaits.synced⟩, hopen⟩

/-- What a command has reached is kept for its client, as its answer or as what it waits for. -/
theorem Reaches.file {ticket : Ticket} {reached : Session × Progressed}
    (hflight : errand.inFlight = some (command, ticket)) (hnext : client base.seen = some command)
    (hserves : (base.perform program.toPlatform id
      (command.request queue)).1.session.Serves queue id)
    (hunanswered : ∀ entry ∈ reached.1.answers, entry.1 ≠ ticket)
    (hreached : errand.Reaches program.toPlatform queue id command
      (base.perform program.toPlatform id (command.request queue)) reached) :
    { errand with session := reached.1.file program ticket .direct reached.2 }.Phase program queue
        id client base ∧
      (reached.1.file program ticket .direct reached.2).host.gateOpen = true := by
  obtain ⟨after, progressed⟩ := reached
  cases progressed with
  | ended outcome =>
    obtain ⟨houtcome, hopen, harrived⟩ := hreached
    have hfiled := congr_same (after.file program ticket .direct (.ended outcome)) harrived.same
      rfl rfl rfl
    exact ⟨.arrived hflight hnext hserves (answer?_append _ hunanswered) houtcome
      ⟨harrived.idle, hfiled, harrived.synced⟩, hopen⟩
  | waits stage =>
    obtain ⟨hopen, hidle, hbusy, hwaits⟩ := hreached
    obtain ⟨before, hsame, hattend⟩ := hwaits.before
    have hfiled := congr_same (after.withClient ⟨ticket, .direct, stage, false⟩) hsame rfl rfl rfl
    have hwaiting : (after.withClient ⟨ticket, .direct, stage, false⟩).waiting =
        [⟨ticket, .direct, stage, false⟩] := by
      unfold Session.withClient
      rw [hidle, List.nil_append]
    exact ⟨.waits hflight hnext hserves hwaiting hunanswered (.inr hbusy)
      ⟨⟨before, hfiled, hattend⟩, hwaits.awaits, hwaits.synced⟩, hopen⟩

/-- A command that is started comes to its end or leaves its client waiting. -/
theorem Phase.start (hlocal : ∀ entry, (program.routine entry).Local entry.file?)
    (hsettled : errand.session.Settled) (hgate : errand.session.host.gateOpen = true)
    (hnone : errand.inFlight = none) (hnext : client errand.seen = some command)
    (hphase : errand.Phase program queue id client base) :
    let started := errand.session.startRequest program (command.request queue)
    { errand with
        session := started.1
        inFlight := some (command, started.2) }.Phase program queue id client base ∧
      started.1.host.gateOpen = true := by
  cases hphase with
  | arrived hflight => exact absurd (hnone.symm.trans hflight) (by simp)
  | waits hflight => exact absurd (hnone.symm.trans hflight) (by simp)
  | idle hflight hidle hserves hsame =>
    obtain ⟨htaken, -, -⟩ := Session.kept_takeTicket hsettled.kept hsettled.ticketed
    let opened : Errand :=
      { errand with
        session := errand.session.takeTicket.1
        inFlight := some (command, errand.session.nextTicket) }
    have hopened : Immediate.Same opened.session.heap.files
        (opened.caughtUp program.toPlatform.routine id) base :=
      congr_same errand.session.takeTicket.1 hsame rfl rfl rfl
    obtain ⟨hserved, hreached⟩ :=
      perform_same opened hlocal htaken hgate hidle hserves hopened command
    have hframe := Session.frame_perform errand.session.takeTicket.1
      ((command.request queue).decide program.toPlatform errand.session.takeTicket.1)
    have hunanswered : ∀ entry ∈ ((command.request queue).enter program.toPlatform
        errand.session.takeTicket.1).1.answers, entry.1 ≠ errand.session.nextTicket := by
      intro entry hentry
      have hbefore : entry ∈ errand.session.answers := hframe.answers ▸ hentry
      exact Nat.ne_of_lt (hsettled.ticketed.answered entry hbefore)
    exact hreached.file rfl (seen_eq hsame ▸ hnext) hserved hunanswered

/-- A client that looks again comes to the end of its command or goes on waiting. -/
theorem Phase.resume (hlocal : ∀ entry, (program.routine entry).Local entry.file?)
    (hsettled : errand.session.Settled) (hgate : errand.session.host.gateOpen = true)
    {waiting : Waiting} (hclient : waiting ∈ errand.session.waiting)
    (hresume : errand.session.resume? program waiting = some after)
    (hphase : errand.Phase program queue id client base) :
    { errand with session := after }.Phase program queue id client base ∧
      after.host.gateOpen = true := by
  cases hphase with
  | idle hflight hidle => exact absurd hclient (by simp [hidle])
  | arrived hflight hnext hserves hanswer houtcome harrived =>
    exact absurd hclient (by simp [harrived.idle])
  | @waits command ticket stage awake hflight hnext hserves hwaiting hunanswered hbusy hwaits =>
    obtain rfl : waiting = ⟨ticket, .direct, stage, awake⟩ := by simpa [hwaiting] using hclient
    obtain ⟨before, hsame, hattend⟩ := hwaits.before
    obtain ⟨hkept, -, -⟩ := Session.kept_withoutClient hsettled hclient
    rcases Session.resume?_cases hresume with ⟨hnone, rfl⟩ | ⟨moved, progressed, hpursue, rfl⟩
    · have hasleep : (errand.session.putToSleep ticket).waiting =
          [⟨ticket, .direct, stage, false⟩] := by
        simp [Session.putToSleep, hwaiting]
      have hjobs := Session.jobsOf_ne_nil_of_advance?_eq_none hkept.toSound hnone
      exact ⟨.waits hflight hnext hserves hasleep hunanswered (.inr hjobs)
        ⟨⟨before, congr_same _ hsame rfl rfl rfl, hattend⟩, hwaits.awaits, hwaits.synced⟩, hgate⟩
    · have hidle : (errand.session.withoutClient ticket).waiting = [] := by
        simp [Session.withoutClient, hwaiting]
      have hothers := congr_same (errand.session.withoutClient ticket) hsame rfl rfl rfl
      have hsteady : (errand.session.withoutClient ticket).Steady (.waits stage) :=
        Session.Kept.steady hkept
      have hreached := pursue_reaches
        { errand with session := errand.session.withoutClient ticket } queue hlocal hsteady hgate
        hidle (fun other hother ↦ Progressed.waits.inj hother ▸ hwaits.awaits) hothers
        (fun hcommand ↦ congrArg Progressed.waits (hwaits.synced hcommand))
      have hfollow : before.follow program.toPlatform.routine id (.waits stage) =
          base.perform program.toPlatform id (command.request queue) := hattend
      have hframe := Session.frame_pursue (errand.session.withoutClient ticket) (.waits stage)
      rw [hpursue] at hframe
      rw [hfollow, hpursue] at hreached
      exact hreached.file hflight hnext hserves fun entry hentry ↦
        hunanswered entry (hframe.answers ▸ hentry)

/-- A client that has seen the outcome of its command is as far as the immediate run that has
performed it. -/
theorem Phase.see {ticket : Ticket} {answer : Answer}
    (hflight : errand.inFlight = some (command, ticket))
    (hanswer : errand.session.answer? ticket = some answer)
    (hphase : errand.Phase program queue id client base) :
    { errand with
      inFlight := none
      seen := errand.seen ++
        [errand.session.sight errand.entered queue command answer.outcome] }.Phase program queue id
          client (base.next program.toPlatform queue id client) := by
  cases hphase with
  | idle hnone => exact absurd (hnone.symm.trans hflight) (by simp)
  | waits hsome hnext hserves hwaiting hunanswered hbusy hwaits =>
    obtain ⟨rfl, rfl⟩ := Prod.mk.inj (Option.some.inj (hsome.symm.trans hflight))
    unfold Session.answer? at hanswer
    rw [List.find?_eq_none.2 (by simpa using hunanswered)] at hanswer
    exact absurd hanswer (by simp)
  | @arrived started _ given hsome hnext hserves hfound houtcome harrived =>
    obtain ⟨rfl, rfl⟩ := Prod.mk.inj (Option.some.inj (hsome.symm.trans hflight))
    obtain rfl := Option.some.inj (hfound.symm.trans hanswer)
    have hsight := sight_eq hserves harrived given.outcome
    have hstep : base.next program.toPlatform queue id client =
        (base.perform program.toPlatform id (started.request queue)).1.witness queue started
          (base.perform program.toPlatform id (started.request queue)).2 := by
      unfold Immediate.next
      rw [hnext]
    rw [houtcome] at hsight ⊢
    rw [hstep]
    generalize base.perform program.toPlatform id (started.request queue) = target at *
    obtain ⟨target, outcome⟩ := target
    simp only at hsight harrived hserves ⊢
    rw [hsight, seen_eq harrived.same]
    refine .idle rfl harrived.idle hserves ?_
    refine recast_same errand.session target.session _ harrived.same (registry_eq harrived.same) ?_
      rfl rfl rfl rfl
    intro handle slot hslot
    rw [← registry_caughtUp errand id] at hslot
    exact harrived.same.exposed hslot

/-- Between commands an errand has seen what the immediate run has seen. -/
theorem Phase.seen (hnone : errand.inFlight = none)
    (hphase : errand.Phase program queue id client base) : errand.seen = base.seen := by
  cases hphase with
  | idle hflight hidle hserves hsame => exact seen_eq hsame
  | arrived hflight => exact absurd (hnone.symm.trans hflight) (by simp)
  | waits hflight => exact absurd (hnone.symm.trans hflight) (by simp)

/-- A turn keeps an errand in step. -/
theorem Turn.tracks {start : Immediate} {next : Errand}
    (hlocal : ∀ entry, (program.routine entry).Local entry.file?)
    (hturn : Turn program queue id client errand next)
    (htracks : errand.Tracks program queue id client start) :
    next.Tracks program queue id client start := by
  obtain ⟨hsettled, hgate, hseen, hphase⟩ := htracks
  cases hturn with
  | start hidle hnext =>
    obtain ⟨hphase, hopen⟩ := hphase.start hlocal hsettled hgate hidle hnext
    exact ⟨(Session.Step.request _ _).settled hsettled, hopen, hseen, hphase⟩
  | work hqueue hjobs hwork =>
    obtain ⟨hphase, hopen⟩ := hphase.work hlocal hsettled hgate hqueue hjobs hwork
    exact ⟨hsettled.work hwork, hopen, hseen, hphase⟩
  | resume hclient hresume =>
    obtain ⟨hphase, hopen⟩ := hphase.resume hlocal hsettled hgate hclient hresume
    exact ⟨Session.settled_resume hsettled hclient hresume, hopen, hseen, hphase⟩
  | see hflight hanswer =>
    have hafter := hphase.see hflight hanswer
    refine ⟨hsettled, hgate, ?_, ?_⟩
    · simp only [List.length_append, List.length_singleton]
      exact hafter.seen rfl
    · simp only [List.length_append, List.length_singleton]
      exact hafter

theorem Turns.tracks {start : Immediate} {first last : Errand}
    (hlocal : ∀ entry, (program.routine entry).Local entry.file?)
    (hturns : Turns program queue id client first last)
    (htracks : first.Tracks program queue id client start) :
    last.Tracks program queue id client start := by
  induction hturns with
  | refl => exact htracks
  | turn _ hturn ih => exact hturn.tracks hlocal ih

end Errand

end Offload
