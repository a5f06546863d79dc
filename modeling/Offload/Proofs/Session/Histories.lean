import Offload.Proofs.Allocation
import Offload.Proofs.Queue.Coverage
import Offload.Proofs.Session.Changes

/-!
# Histories

Every operation, every move of a worker and everything an error handler does is a sequence of
elementary changes. So a run of a session has a history: what its changes tell, in their order.
Between operations the host program may change the settings, the journal and its own state.
-/

namespace Offload.Session

open Heap

variable {platform : Platform} {program : Program} {session start before after last : Session}
  {flight more : List Stage} {progressed : Progressed} {stage : Stage} {id : ObjectId}
  {resolved : Settings}

/-- Some changes lead from one session to another. -/
def Evolves (platform : Platform) (before : Session) (flight : List Stage) (after : Session)
    (last : List Stage) : Prop :=
  ∃ log, Changes platform before flight log after last

namespace Evolves

theorem refl (session : Session) (flight : List Stage) :
    Evolves platform session flight session flight :=
  ⟨[], .refl session flight⟩

theorem trans {final : List Stage} (hfirst : Evolves platform before flight after more)
    (hsecond : Evolves platform after more last final) :
    Evolves platform before flight last final := by
  obtain ⟨_, hfirst⟩ := hfirst
  obtain ⟨_, hsecond⟩ := hsecond
  exact ⟨_, hfirst.trans hsecond⟩

theorem change {log : List Happening} (hchange : Change platform before flight log after more) :
    Evolves platform before flight after more :=
  ⟨log, hchange.changes⟩

end Evolves

/-! ## Waiting for queues -/

theorem evolves_leave (session : Session) (id : ObjectId) (outcome : Outcome) :
    Evolves platform session [.discarded id outcome] (session.leave id outcome).1
      (session.leave id outcome).2.flight := by
  rcases session.leave_cases id outcome with ⟨hrefers, hleave⟩ | ⟨-, hleave⟩
  · rw [hleave]
    exact .change (.part hrefers)
  · rw [hleave]
    exact .refl _ _

theorem evolves_advance (hadvance : session.advance? stage = some (after, progressed)) :
    Evolves platform session [stage] after progressed.flight := by
  cases stage with
  | room id job =>
    obtain ⟨queue, hqueue, hroom, hresult⟩ := advance?_room hadvance
    obtain ⟨rfl, rfl⟩ := Prod.mk.inj hresult
    exact .trans (.change (.accept hqueue hroom)) (evolves_leave _ id _)
  | drained id =>
    obtain ⟨queue, hqueue, hidle, hresult⟩ := advance?_drained hadvance
    obtain ⟨rfl, rfl⟩ := Prod.mk.inj hresult
    exact .trans (.change (.sync hqueue hidle)) (evolves_leave _ id _)
  | discarded id outcome =>
    obtain ⟨queue, hqueue, hidle, rfl, rfl⟩ := advance?_discarded hadvance
    exact .change (.drop hqueue hidle)

theorem evolves_pursue (session : Session) (progressed : Progressed) :
    Evolves platform session progressed.flight (session.pursue progressed).1
      (session.pursue progressed).2.flight := by
  have hcollect (session : Session) : Evolves platform session [] session.collect [] :=
    .change .collect
  rcases session.pursue_cases progressed with ⟨outcome, rfl, hpursue⟩ | ⟨stage, rfl, hcases⟩
  · rw [hpursue]
    exact hcollect session
  · rcases hcases with ⟨-, hpursue⟩ | ⟨after, outcome, hadvance, hpursue⟩ |
      ⟨middle, last, hadvance, ⟨after, outcome, hlast, hpursue⟩ | hpursue⟩
    · rw [hpursue]
      exact .refl _ _
    · rw [hpursue]
      exact .trans (evolves_advance hadvance) (hcollect after)
    · rw [hpursue]
      exact .trans (evolves_advance hadvance) (.trans (evolves_advance hlast) (hcollect after))
    · rw [hpursue]
      exact evolves_advance hadvance

/-! ## Commits -/

/-- An address that the allocator gives is not null where settings and allocator are sane. -/
theorem Sane.address_ne (hsane : session.Sane platform)
    (hresolved : (session.ambient.resolve platform.environment).1 = resolved) :
    alignUp session.allocator.frontier resolved.hostAlignment ≠ 0 := by
  have halignment := hsane.alignment
  rw [hresolved] at halignment
  exact Nat.ne_of_gt (Nat.lt_of_lt_of_le hsane.frontier (le_alignUp _ halignment))

theorem evolves_create {creation : Creation}
    (hsupported : creation.Supported session.heap.get?)
    (hdrawn : (Effect.create creation).Drawn session resolved)
    (hresolved : (session.ambient.resolve platform.environment).1 = resolved) :
    Evolves platform session [] (session.create creation).1 [] := by
  have hcontext (session : Session) : Evolves platform session []
      (session.place (.context (.host false {}))).1 [] :=
    .change (.place (Sound.makeable trivial rfl (by decide)) (by simp) (by simp))
  have hdevice (session : Session) (index : Nat) (context : ObjectId) (ranges : RangeTracker)
      (hget : session.heap.get? context = some (.context (.host false ranges))) :
      (Object.device (.host index context)).Makeable session.heap.get? :=
    Sound.makeable ⟨false, ranges, hget⟩ trivial (by simp [Object.kind])
  cases creation with
  | context context => exact .change (.create (hsupported _ rfl) (by simp))
  | device device => exact .change (.create (hsupported _ rfl) (by simp))
  | deviceWithContext index =>
    refine .trans (hcontext session) (.change (.create (hdevice _ index _ {} ?_) (by simp)))
    exact Sound.get?_place session _
  | view view =>
    cases view with
    | foreign => exact .change (.create (hsupported _ rfl) (by simp))
    | host view =>
      obtain ⟨⟨adopted, ranges, hcontext⟩, haddress⟩ := hdrawn
      have hblank : view.registration = none := (hsupported _ rfl).blank
      have hmade : Evolves platform session []
          ((session.placeView (.host view)).1.expose .memoryView session.heap.next).1 [] := by
        refine .change (.createView hcontext hblank fun hsane hsize ↦ ?_)
        rcases haddress hsize with hgiven | hlocated
        · exact hgiven
        · rw [hlocated]
          exact hsane.address_ne hresolved
      rwa [← placeView_snd session (.host view)] at hmade
  | module module => exact .change (.create (hsupported _ rfl) (by simp))
  | kernel kernel => exact .change (.create (hsupported _ rfl) (by simp))
  | queue queue => exact .change (.create (hsupported _ rfl) (by simp))
  | queueWithDevice capacity =>
    refine .trans (hcontext session) (.trans (.change (.place (hdevice _ 0 _ {}
      (Sound.get?_place session _)) (by simp) (by simp))) (.change (.create ?_
      (by simp))))
    refine ⟨⟨0, _, Sound.get?_place _ _⟩, trivial, ?_⟩
    rintro queue heq
    obtain rfl := TaskQueue.host.inj (Object.queue.inj heq)
    exact ⟨HostQueue.sound_new _ _ _, rfl⟩
  | future future => exact .change (.create (hsupported _ rfl) (by simp))

theorem evolves_release (session : Session) (handle : Handle) :
    Evolves platform session [] (session.release handle).1 (session.release handle).2.flight := by
  rcases session.release_cases handle with ⟨failure, hrelease⟩ | hrelease |
    ⟨slot, hslot, events, hrelease⟩
  · rw [hrelease]
    exact .refl _ _
  · rw [hrelease]
    exact .change (.recount handle (·.count - 1))
  · simp only at hrelease
    have herase : Evolves platform session [] _ _ := .change (.erase hslot events)
    rw [hrelease]
    split
    · next hqueue =>
      rw [if_pos hqueue] at herase
      exact herase.trans (evolves_leave _ _ _)
    · next hqueue =>
      rw [if_neg hqueue] at herase
      exact herase

/-- What changes nothing but the journal, the settings and the host's own state is aside. -/
theorem evolves_aside (hheap : after.heap = before.heap)
    (hregistry : after.registry = before.registry)
    (hclaims : after.waiting.map claim = before.waiting.map claim)
    (hstatics : after.host.statics = before.host.statics)
    (hallocator : after.allocator = before.allocator)
    (hlater : before.ambient.Later platform.environment after.ambient) :
    Evolves platform before flight after flight :=
  .change (.aside hheap hregistry hclaims hstatics hallocator hlater)

theorem evolves_record (session : Session) (records : List CallRecord) :
    Evolves platform session flight
      { session with host := records.foldl .record session.host } flight :=
  evolves_aside rfl rfl rfl (statics_foldl_record records session.host) rfl (.refl _)

theorem evolves_commit {decision : Decision}
    (hsupported : decision.effect.Supported session.heap.get?)
    (hdrawn : decision.Drawn session resolved)
    (hresolved : (session.ambient.resolve platform.environment).1 = resolved) :
    Evolves platform session [] (session.commit decision).1
      (session.commit decision).2.flight := by
  obtain ⟨records, effect⟩ := decision
  refine (evolves_record session records).trans ?_
  cases effect with
  | answer reply => exact .refl _ _
  | refuse failure => exact .refl _ _
  | create creation => exact evolves_create hsupported hdrawn hresolved
  | expose kind id =>
    obtain ⟨object, hget, rfl⟩ := hsupported
    exact .change (.expose hget hdrawn)
  | retain handle =>
    unfold commit
    cases hretain : session.registry.retain handle with
    | error failure =>
      simp only [hretain]
      exact .refl _ _
    | ok registry =>
      simp only [hretain]
      obtain rfl := Registry.retain_eq_ok hretain
      exact .change (.recount handle (·.count + 1))
  | release handle => exact evolves_release _ handle
  | link modules => exact .change (.link modules)
  | submit queue job =>
    obtain ⟨hqueue, hholds, hfuture, hwork⟩ := hdrawn
    refine .change (.demand ⟨hsupported, ?_, ?_, by simp⟩)
    · intro id hid
      have hreferences : id ∈ queue :: job.holds := by
        simpa [Stage.references, Job.references, hfuture] using hid
      rcases List.mem_cons.1 hreferences with rfl | hheld
      · exact hqueue
      · exact hholds id hheld
    · intro other found heq
      obtain ⟨rfl, rfl⟩ := Stage.room.inj heq
      exact ⟨hfuture, hwork⟩
  | launch queue job =>
    obtain ⟨hqueue, hholds, hlaunches⟩ := hdrawn
    refine .change (.launch hsupported ?_ hlaunches)
    intro id hid
    rcases List.mem_cons.1 hid with rfl | hheld
    · exact hqueue
    · exact hholds id hheld
  | drain queue =>
    refine .change (.demand ⟨hsupported, ?_, by simp, by simp⟩)
    intro id hid
    obtain rfl := List.mem_singleton.1 hid
    exact hdrawn
  | settle future next => exact .change (.settle future next)
  | install handler => exact evolves_aside rfl rfl rfl rfl rfl (.refl _)

/-- What a decision draws on does not depend on the settings and the journal. -/
theorem evolves_perform {decide : Deciding Decision}
    (hsupported : decide.Ensures (Decision.Supported session.heap.get?))
    (hremarks : decide.Remarks platform.environment
      (session.ambient.resolve platform.environment).1
      (Decision.Drawn session (session.ambient.resolve platform.environment).1)) :
    Evolves platform session [] (session.perform decide).1 (session.perform decide).2.flight := by
  obtain ⟨hlater, hdrawn⟩ := hremarks session.ambient rfl
  have hensures := hsupported session.ambient
  unfold perform
  cases hrun : decide.run.run session.ambient with
  | mk outcome ambient =>
    rw [hrun] at hlater hdrawn hensures
    have hnoted : Evolves platform session [] { session with ambient } [] :=
      evolves_aside rfl rfl rfl rfl rfl hlater
    cases outcome with
    | error interruption => exact hnoted
    | ok decision =>
      have hcommit : Evolves platform { session with ambient } [] _ _ :=
        evolves_commit (hensures decision rfl) (hdrawn decision rfl) hlater.resolve_eq
      exact hnoted.trans (hcommit.trans (evolves_pursue _ _))

/-! ## Workers and waiting clients -/

theorem evolves_work (hwork : session.work? platform id = some after) :
    Evolves platform session [] after [] := by
  obtain ⟨queue, job, rest, host, failure, hqueue, hjobs, hruns, hafter⟩ := work?_eq_some hwork
  exact .change (.finish hqueue hjobs hruns hafter)

theorem evolves_workAll (platform : Platform) (fuel : Nat) (session : Session) :
    Evolves platform session [] (session.workAll platform fuel) [] := by
  induction fuel generalizing session with
  | zero => exact .refl _ _
  | succ fuel ih =>
    unfold workAll
    split
    · exact .refl _ _
    · next after hsome =>
      obtain ⟨id, -, hwork⟩ := List.exists_of_findSome?_eq_some hsome
      exact (evolves_work hwork).trans (ih after)

/-- A client that is there goes on as far as it can. -/
theorem evolves_unpark {client : Waiting} (hsettled : session.Settled)
    (hclient : client ∈ session.waiting) :
    Evolves platform session []
      ((session.withoutClient client.ticket).pursue (.waits client.stage)).1
      ((session.withoutClient client.ticket).pursue (.waits client.stage)).2.flight :=
  .trans (.change (.unpark hclient hsettled.ticketed.distinct))
    (evolves_pursue _ (.waits client.stage))

theorem evolves_takeTicket (session : Session) (flight : List Stage) :
    Evolves platform session flight session.takeTicket.1 flight :=
  evolves_aside rfl rfl rfl rfl rfl (.refl _)

theorem evolves_await (hkept : session.Kept progressed.flight) (hticketed : session.Ticketed) :
    Evolves platform session progressed.flight (session.await platform progressed).1 [] := by
  cases progressed with
  | ended outcome => exact .refl _ _
  | waits stage =>
    obtain ⟨hparked, fuel, client, hclient, rfl, hcases⟩ := await_cases platform hkept hticketed
    have hopened : Evolves platform session [client.stage] (session.parked client.stage) [] :=
      (evolves_takeTicket session _).trans
        (.change (.park ⟨session.takeTicket.2, .direct, client.stage, false⟩))
    have hbefore := hopened.trans (evolves_workAll platform fuel _)
    rcases hcases with ⟨after, outcome, hpursue, hawait⟩ | hawait
    · have hunpark : Evolves platform _ [] _ _ :=
        evolves_unpark (hparked.workAll platform fuel).1 hclient
      rw [hpursue] at hunpark
      rw [hawait]
      exact hbefore.trans hunpark
    · rw [hawait]
      exact hbefore

/-! ## Error handlers -/

/-- Everything a handler does is made of changes. -/
theorem conducts_evolves (program : Program) :
    Conducts program fun before after ↦
      after.Settled ∧ Evolves program.toPlatform before [] after [] where
  settled := fun hrelated ↦ hrelated.1
  refl := fun hsettled ↦ ⟨hsettled, .refl _ _⟩
  trans := fun hfirst hsecond ↦ ⟨hsecond.1, hfirst.2.trans hsecond.2⟩
  turn := by
    rintro session hsettled _ handler exit ⟨events, rfl⟩
    exact ⟨(Continues.remark hsettled _ handler exit).settled,
      evolves_aside rfl rfl rfl rfl rfl (.note _ events)⟩
  call := by
    intro session hsettled call
    have hdecide : (call.decide program.toPlatform session).Ensures _ := Call.ensures_decide call
    obtain ⟨hkept, hticketed, -⟩ := hsettled.enter hdecide
    exact ⟨(continues_call program hsettled call).settled,
      (evolves_perform hdecide (Call.drawn_decide hsettled.kept.toSound call)).trans
        (evolves_await hkept hticketed)⟩

theorem evolves_report (depth : Nat) (kind : FailureKind) (message : String)
    (hsettled : session.Settled) :
    Evolves program.toPlatform session [] (session.report program depth kind message).1 [] :=
  ((conducts_evolves program).report depth kind message hsettled).2

/-! ## Steps -/

theorem evolves_file {ticket : Ticket} {manner : Manner} (hkept : session.Kept progressed.flight)
    (hticketed : session.Ticketed) :
    Evolves program.toPlatform session progressed.flight
      (session.file program ticket manner progressed) [] := by
  have hanswer (session : Session) (answer : Answer) :
      Evolves program.toPlatform session []
        { session with answers := session.answers ++ [(ticket, answer)] } [] :=
    evolves_aside rfl rfl rfl rfl rfl (.refl _)
  cases progressed with
  | waits stage => exact .change (.park ⟨ticket, manner, stage, false⟩)
  | ended outcome =>
    cases manner with
    | direct => exact hanswer session _
    | guarded sentinel =>
      cases outcome with
      | ok reply => exact hanswer session _
      | error interruption =>
        have hreport : Evolves program.toPlatform session [] _ [] :=
          evolves_report nesting interruption.kind interruption.message ⟨hkept, hticketed⟩
        exact hreport.trans (hanswer _ _)

theorem evolves_start (program : Program) {decide : Session → Deciding Decision}
    (hsettled : session.Settled)
    (hsupported : ∀ session : Session, session.Sound [] →
      (decide session).Ensures (Decision.Supported session.heap.get?))
    (hremarks : ∀ (session : Session) (resolved : Settings), session.Sound [] →
      (decide session).Remarks program.environment resolved (Decision.Drawn session resolved))
    (manner : Manner) :
    Evolves program.toPlatform session []
      ((session.takeTicket.1.perform (decide session.takeTicket.1)).1.file program
        session.takeTicket.2 manner
        (session.takeTicket.1.perform (decide session.takeTicket.1)).2) [] := by
  obtain ⟨hkept, hticketed, -⟩ := kept_takeTicket hsettled.kept hsettled.ticketed
  have hdecide := hsupported _ hkept.toSound
  have hperform : Evolves program.toPlatform session.takeTicket.1 [] _ _ :=
    evolves_perform hdecide (hremarks _ _ hkept.toSound)
  exact (evolves_takeTicket session []).trans (hperform.trans
    (evolves_file (hkept.perform hdecide) (hticketed.frame (frame_perform _ _))))

theorem evolves_resume {client : Waiting} (hsettled : session.Settled)
    (hclient : client ∈ session.waiting)
    (hresume : session.resume? program client = some after) :
    Evolves program.toPlatform session [] after [] := by
  rcases resume?_cases hresume with ⟨-, rfl⟩ | ⟨moved, progressed, hpursue, rfl⟩
  · exact evolves_aside rfl rfl (frame_putToSleep session client.ticket).claims rfl rfl (.refl _)
  · have hunpark : Evolves program.toPlatform session [] _ _ := evolves_unpark hsettled hclient
    obtain ⟨hkept, hticketed, -⟩ := hsettled.pursueClient hclient hpursue
    rw [hpursue] at hunpark
    exact hunpark.trans (evolves_file hkept hticketed)

theorem evolves_startRequest (program : Program) (hsettled : session.Settled) (request : Request) :
    Evolves program.toPlatform session [] (session.startRequest program request).1 [] :=
  evolves_start program hsettled (fun _ hsound ↦ Request.ensures_decide hsound request)
    (fun _ _ hsound ↦ Request.drawn_decide hsound request) _

/-- A step is made of changes, unless the host program changes its own state. -/
theorem Step.evolves (hstep : Step program before after) (hsettled : before.Settled) :
    Evolves program.toPlatform before [] after [] ∨
      ∃ ambient memory calls gateOpen, after =
        { before with ambient, host := { before.host with memory, calls, gateOpen } } := by
  cases hstep with
  | call call =>
    exact .inl (evolves_start program hsettled (fun _ _ ↦ Call.ensures_decide call)
      (fun _ _ hsound ↦ Call.drawn_decide hsound call) _)
  | request request => exact .inl (evolves_startRequest program hsettled request)
  | work id hwork => exact .inl (evolves_work hwork)
  | resume hclient hresume => exact .inl (evolves_resume hsettled hclient hresume)
  | report kind message => exact .inl (evolves_report nesting kind message hsettled)
  | outside ambient memory calls gateOpen => exact .inr ⟨ambient, memory, calls, gateOpen, rfl⟩

/-! ## Histories -/

/-- The history of a session since the start of the process: what its changes tell. Between operations
the host program may bring the session into one that is allowed. -/
inductive History (platform : Platform) (allowed : Session → Prop) (start : Session) :
    List Happening → Session → List Stage → Prop where
  | refl : History platform allowed start [] start []
  | change {log more : List Happening} {before after : Session} {flight last : List Stage}
    (hhistory : History platform allowed start log before flight)
    (hchange : Change platform before flight more after last) :
    History platform allowed start (log ++ more) after last
  | outside {log : List Happening} {before : Session}
    (hhistory : History platform allowed start log before [])
    (ambient : Ambient) (memory : Memory) (calls : List CallRecord) (gateOpen : Bool)
    (hallowed : allowed
      { before with ambient, host := { before.host with memory, calls, gateOpen } }) :
    History platform allowed start log
      { before with ambient, host := { before.host with memory, calls, gateOpen } } []

variable {allowed : Session → Prop} {log later : List Happening}

theorem History.changes (hhistory : History platform allowed start log before flight)
    (hchanges : Changes platform before flight later after more) :
    History platform allowed start (log ++ later) after more := by
  induction hchanges with
  | refl =>
    rw [List.append_nil]
    exact hhistory
  | change _ hchange ih =>
    rw [← List.append_assoc]
    exact (ih hhistory).change hchange

theorem History.trans (hfirst : History platform allowed start log before [])
    (hsecond : History platform allowed before later after flight) :
    History platform allowed start (log ++ later) after flight := by
  induction hsecond with
  | refl =>
    rw [List.append_nil]
    exact hfirst
  | change _ hchange ih =>
    rw [← List.append_assoc]
    exact ih.change hchange
  | outside _ ambient memory calls gateOpen hallowed ih =>
    exact ih.outside ambient memory calls gateOpen hallowed

theorem History.sound (hhistory : History platform allowed start log after flight)
    (hsound : start.Sound []) : after.Sound flight := by
  induction hhistory with
  | refl => exact hsound
  | change _ hchange ih => exact hchange.sound ih
  | outside _ ambient memory calls gateOpen _ ih => exact ⟨ih.rooted, ih.tracked, ih.loaded⟩

/-- What holds at a sound start, and is kept by every change, holds of every history. -/
theorem History.induct {motive : List Happening → Session → List Stage → Prop}
    (hhistory : History platform allowed start log session flight) (hsound : start.Sound [])
    (hstart : motive [] start [])
    (hchange : ∀ {log before flight more after last},
      History platform allowed start log before flight → before.Sound flight →
      motive log before flight → Change platform before flight more after last →
      motive (log ++ more) after last)
    (houtside : ∀ {log before} (ambient : Ambient) (memory : Memory) (calls : List CallRecord)
      (gateOpen : Bool),
      allowed { before with ambient, host := { before.host with memory, calls, gateOpen } } →
      motive log before [] → motive log
        { before with ambient, host := { before.host with memory, calls, gateOpen } } []) :
    motive log session flight := by
  induction hhistory with
  | refl => exact hstart
  | change hbefore hmore ih => exact hchange hbefore (hbefore.sound hsound) ih hmore
  | outside _ ambient memory calls gateOpen hallowed ih =>
    exact houtside ambient memory calls gateOpen hallowed ih

theorem sound_fresh (hfresh : start.Fresh) : start.Sound [] := (settled_fresh hfresh).kept.toSound

theorem Step.history (hstep : Step program before after) (hsettled : before.Settled)
    (hallowed : allowed after) :
    ∃ log, History program.toPlatform allowed before log after [] := by
  rcases hstep.evolves hsettled with ⟨log, hchanges⟩ | ⟨ambient, memory, calls, gateOpen, rfl⟩
  · exact ⟨[] ++ log, History.refl.changes hchanges⟩
  · exact ⟨[], History.refl.outside ambient memory calls gateOpen hallowed⟩

/-- A run whose steps lead to sessions that are allowed. -/
inductive RunsWithin (program : Program) (allowed : Session → Prop) (start : Session) :
    Session → Prop where
  | refl : RunsWithin program allowed start start
  | step {before after : Session} (hruns : RunsWithin program allowed start before)
    (hstep : Step program before after) (hallowed : allowed after) :
    RunsWithin program allowed start after

/-- Every run has a history. -/
theorem RunsWithin.history (hruns : RunsWithin program allowed start after)
    (hsettled : start.Settled) :
    after.Settled ∧ ∃ log, History program.toPlatform allowed start log after [] := by
  induction hruns with
  | refl => exact ⟨hsettled, [], .refl⟩
  | step _ hstep hallowed ih =>
    obtain ⟨hbefore, log, hhistory⟩ := ih
    obtain ⟨more, hmore⟩ := hstep.history hbefore hallowed
    exact ⟨hstep.settled hbefore, log ++ more, hhistory.trans hmore⟩

theorem Runs.within (hruns : Runs program start after) :
    RunsWithin program (fun _ ↦ True) start after := by
  induction hruns with
  | refl => exact .refl
  | step _ hstep ih => exact ih.step hstep trivial

theorem Runs.history (hruns : Runs program start after) (hsettled : start.Settled) :
    after.Settled ∧ ∃ log, History program.toPlatform (fun _ ↦ True) start log after [] :=
  hruns.within.history hsettled

end Offload.Session
