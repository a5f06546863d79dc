import Offload.Proofs.Queue.Coverage
import Offload.Proofs.Queue.Locality
import Offload.Proofs.Queue.Turns

/-!
# A queue refines immediate execution

Whatever turns a client and the worker of its queue take, and however much the queue accepts, the
client sees what it sees of a run in which every job is executed at once. And it sees all of it: a
client that is not done and a worker that has jobs left can always take another turn.
-/

namespace Offload

open Heap

variable {program : Program} {platform : Platform} {id other : ObjectId} {queue : Handle}
  {session after : Session} {command : Command} {errand next : Errand} {base : Immediate}
  {client : Client}

/-! ## Nobody waits for ever -/

/-- A worker can run the oldest job of its queue. -/
theorem Session.exists_work (hlocal : ∀ entry, (platform.routine entry).Local entry.file?)
    (hkept : session.Kept []) (hgate : session.host.gateOpen = true)
    (hjobs : session.heap.jobsOf id ≠ []) :
    ∃ ordered job rest after, session.heap.hostQueue? id = some ordered ∧
      ordered.jobs = job :: rest ∧ session.work? platform id = some after := by
  cases hqueue : session.heap.hostQueue? id with
  | none =>
    rw [jobsOf, hqueue] at hjobs
    exact absurd rfl hjobs
  | some ordered =>
    have hordered : ordered.jobs ≠ [] := by
      rw [jobsOf, hqueue] at hjobs
      exact hjobs
    obtain ⟨job, rest, hordered⟩ := List.exists_cons_of_ne_nil hordered
    have hwithin : job.Within session.heap.files :=
      hkept.rooted.sound.within ((hkept.rooted.sound.queues hqueue).jobs job
        (hordered ▸ List.mem_cons_self))
    have hends := Job.run_agree hlocal hwithin hgate
      (HostState.Agree.refl session.heap.files session.host)
    have hwork : ∃ after, session.work? platform id = some after := by
      unfold work?
      simp only [hqueue, hordered]
      cases hrun : job.work.run platform.routine job.operation session.host with
      | done host => exact ⟨_, rfl⟩
      | failed failure host => exact ⟨_, rfl⟩
      | waiting =>
        rw [hrun] at hends
        exact hends.elim
    obtain ⟨after, hwork⟩ := hwork
    exact ⟨ordered, job, rest, after, rfl, hordered, hwork⟩

namespace Errand

/-- A command gives no other queue a job. -/
theorem jobsOf_enter (platform : Platform) (hkept : session.Kept [])
    (hresembles : session.Resembles base.session) (hserves : base.session.Serves queue id) (hother : other ≠ id) (command : Command) :
    ((command.request queue).enter platform session).1.heap.jobsOf other =
      session.heap.jobsOf other := by
  obtain ⟨outcome, hrun, hconcerns⟩ :=
    Command.plainly_decide platform hresembles hserves command
  have henter : (command.request queue).enter platform session = _ := Session.perform_eq hrun
  rw [henter]
  cases outcome with
  | error interruption => rfl
  | ok decision =>
    have hsupported : decision.effect.Supported session.heap.get? :=
      Request.ensures_decide hkept.toSound (command.request queue) {} decision (by rw [hrun])
    obtain ⟨hcommit, hroom⟩ :=
      Session.jobsOf_commit other hkept.rooted.ordered (hconcerns decision rfl)
    exact (Session.jobsOf_pursue hother (hkept.commit hsupported) hroom).trans hcommit

/-- A turn gives no other queue a job. -/
theorem Turn.jobsOf_other {start : Immediate}
    (htracks : errand.Tracks program queue id client start)
    (hturn : Turn program queue id client errand next) (hother : other ≠ id) :
    next.session.heap.jobsOf other = errand.session.heap.jobsOf other := by
  have hfile (session : Session) (ticket : Ticket) (progressed : Progressed) :
      (session.file program ticket .direct progressed).heap = session.heap := by
    cases progressed <;> rfl
  obtain ⟨hsettled, -, -, hphase⟩ := htracks
  cases hturn with
  | @start command hnone hnext =>
    cases hphase with
    | arrived hflight => exact absurd (hnone.symm.trans hflight) (by simp)
    | waits hflight => exact absurd (hnone.symm.trans hflight) (by simp)
    | idle hflight hidle hserves hsame =>
      obtain ⟨htaken, -, -⟩ := Session.kept_takeTicket hsettled.kept hsettled.ticketed
      have hresembles := resembles hsame
      have hopened : errand.session.takeTicket.1.Resembles _ :=
        ⟨hresembles.registry, hresembles.exposed⟩
      have henter := jobsOf_enter program.toPlatform htaken hopened hserves hother command
      calc (errand.session.startRequest program (command.request queue)).1.heap.jobsOf other =
            ((command.request queue).enter program.toPlatform
              errand.session.takeTicket.1).1.heap.jobsOf other :=
            congrArg (Heap.jobsOf · other) (hfile _ _ _)
        _ = errand.session.heap.jobsOf other := henter
  | work hqueue hjobs hwork => exact Session.jobsOf_work hother hsettled.kept hwork
  | @resume waiting after hclient hresume =>
    cases hphase with
    | idle hflight hidle => exact absurd hclient (by simp [hidle])
    | arrived hflight hnext hserves hanswer houtcome harrived =>
      exact absurd hclient (by simp [harrived.idle])
    | @waits _ ticket stage awake hflight hnext hserves hwaiting hunanswered hbusy hwaits =>
      obtain rfl : waiting = ⟨ticket, .direct, stage, awake⟩ := by simpa [hwaiting] using hclient
      obtain ⟨hkept, -, -⟩ := Session.kept_withoutClient hsettled hclient
      have hsteady : (errand.session.withoutClient ticket).Steady (.waits stage) :=
        Session.Kept.steady hkept
      have hroom : ∀ target job, Progressed.waits stage = .waits (.room target job) →
          target = id := by
        intro target job hstage
        have hawaits := hwaits.awaits
        rw [Progressed.waits.inj hstage] at hawaits
        exact hawaits.1
      rcases Session.resume?_cases hresume with ⟨-, rfl⟩ | ⟨moved, progressed, hpursue, rfl⟩
      · rfl
      · have hpursued := Session.jobsOf_pursue hother hsteady hroom
        rw [hpursue] at hpursued
        calc (moved.file program ticket .direct progressed).heap.jobsOf other =
              moved.heap.jobsOf other := congrArg (Heap.jobsOf · other) (hfile _ _ _)
          _ = errand.session.heap.jobsOf other := hpursued
  | see hflight hanswer => rfl

theorem Turns.jobsOf_other {start : Immediate} {first : Errand}
    (hlocal : ∀ entry, (program.routine entry).Local entry.file?)
    (htracks : first.Tracks program queue id client start)
    (hturns : Turns program queue id client first errand) (hother : other ≠ id) :
    errand.session.heap.jobsOf other = first.session.heap.jobsOf other := by
  induction hturns with
  | refl => rfl
  | @turn middle last hbefore hturn ih =>
    calc last.session.heap.jobsOf other = middle.session.heap.jobsOf other :=
          hturn.jobsOf_other (hbefore.tracks hlocal htracks) hother
      _ = first.session.heap.jobsOf other := ih

/-- An errand whose client is not done or whose worker has jobs left can take another turn. -/
theorem Tracks.goes_on {start : Immediate}
    (hlocal : ∀ entry, (program.routine entry).Local entry.file?)
    (htracks : errand.Tracks program queue id client start)
    (hquiet : ∀ other, other ≠ id → errand.session.heap.jobsOf other = []) :
    (client errand.seen = none ∧ errand.inFlight = none ∧ errand.session.heap.jobsOf id = []) ∨
      ∃ next, Turn program queue id client errand next := by
  obtain ⟨hsettled, hgate, -, hphase⟩ := htracks
  by_cases hjobs : errand.session.heap.jobsOf id = []
  · cases hphase with
    | idle hflight hidle hserves hsame =>
      cases hnext : client errand.seen with
      | none => exact .inl ⟨rfl, hflight, hjobs⟩
      | some command => exact .inr ⟨_, .start hflight hnext⟩
    | arrived hflight hnext hserves hanswer houtcome harrived =>
      exact .inr ⟨_, .see hflight hanswer⟩
    | @waits _ ticket stage awake hflight hnext hserves hwaiting hunanswered hbusy hwaits =>
      have hawake : awake = true := by
        rcases hbusy with hawake | hbusy
        · exact hawake
        · by_cases hown : stage.queue = id
          · exact absurd (hown ▸ hjobs) hbusy
          · exact absurd (hquiet _ hown) hbusy
      have hresume : ∃ after, errand.session.resume? program ⟨ticket, .direct, stage, awake⟩ =
          some after := by
        unfold Session.resume?
        rw [if_pos hawake]
        simp only
        split <;> exact ⟨_, rfl⟩
      obtain ⟨after, hresume⟩ := hresume
      exact .inr ⟨_, .resume (by rw [hwaiting]; exact List.mem_singleton_self _) hresume⟩
  · obtain ⟨ordered, job, rest, after, hqueue, hordered, hwork⟩ :=
      Session.exists_work hlocal hsettled.kept hgate hjobs
    exact .inr ⟨_, .work hqueue hordered hwork⟩

/-! ## Refinement -/

/-- An errand without jobs looks like the immediate run it may be compared with. -/
theorem tracks_start {start : Session} {ordered : HostQueue} (hreachable : start.Reachable program)
    (hidle : start.waiting = []) (hjobs : start.heap.jobsOf id = [])
    (hgate : start.host.gateOpen = true) (hqueue : start.queue queue = .ok (id, .host ordered))
    (client : Client) (capacity : Nat) :
    ({ session := start } : Errand).Tracks program queue id client
      (start.immediately id ordered capacity) := by
  have hrooted := hreachable.settled.kept.rooted
  obtain ⟨hlookup, hfound⟩ := Session.lookup_eq_ok hqueue
  obtain ⟨slot, hslot, -, hobject⟩ := Registry.lookup_eq_ok hlookup
  have hhost : start.heap.hostQueue? id = some ordered :=
    hostQueue?_eq_some.2 (queue?_eq_some.1 hfound)
  have hdevice : ∀ queue : HostQueue, ({ queue with capacity } : HostQueue).device =
      queue.device := fun _ ↦ rfl
  have hserves : (start.immediately id ordered capacity).session.Serves queue id := by
    constructor
    case waiting => exact hidle
    case host =>
      show ∃ found, (start.heap.modifyQueue id _).hostQueue? id = some found
      rw [hostQueue?_modifyQueue, if_pos rfl, hhost]
      exact ⟨_, rfl⟩
    case made => exact hrooted.ordered.lt_next (hostQueue?_eq_some.1 hhost)
    case named =>
      intro other hother
      rw [← Option.some.inj (hslot.symm.trans hother)]
      exact hobject
    case given => exact hrooted.numbered.lt_next hslot
  have hsame : Immediate.Same start.heap.files (({ session := start } : Errand).asIs id)
      (start.immediately id ordered capacity) := by
    constructor
    case registry => rfl
    case next => rfl
    case exposed =>
      intro handle found hfound
      obtain ⟨object, hget, -⟩ := hrooted.exposed hfound
      exact ⟨object, hget⟩
    case shows => exact (shows_modifyQueue start.heap id hdevice).1
    case host => exact HostState.Agree.refl _ _
    case gateOpen => exact hgate
    case failure =>
      show start.heap.failureOf id = ordered.progress.failure
      rw [failureOf, hhost, Option.bind_some]
    case entered => rfl
    case seen => rfl
  refine ⟨hreachable.settled, hgate, rfl, .idle rfl hidle hserves ?_⟩
  unfold caughtUp
  rw [show ({ session := start } : Errand).session.heap.jobsOf id = [] from hjobs]
  exact hsame

/-- A client of a queue sees what it sees of a run in which each job is executed at once.

It starts when nobody waits and no job is left, and from then on it and the worker of its queue take
turns in any order. What it sees are the outcomes of its commands and, at every `sync` of its queue,
the memory, the futures and the calls of entries. Neither the turns nor the number of jobs the
queue accepts makes a difference. When the worker has run everything, the memory, the futures and the
calls are the same as well. The client can always go on until it is done. -/
theorem refines_immediate {start : Session} {ordered : HostQueue}
    (hreachable : start.Reachable program) (hidle : start.waiting = [])
    (hjobs : start.heap.jobs = []) (hgate : start.host.gateOpen = true)
    (hlocal : ∀ entry, (program.routine entry).Local entry.file?)
    (hqueue : start.queue queue = .ok (id, .host ordered))
    (hturns : Turns program queue id client { session := start } errand) (capacity : Nat) :
    let immediate := (start.immediately id ordered capacity).run program.toPlatform queue id client
      errand.seen.length
    errand.seen = immediate.seen ∧
      (errand.inFlight = none → errand.session.heap.jobsOf id = [] →
        errand.session.snapshot errand.entered = immediate.session.snapshot immediate.entered) ∧
      ((client errand.seen = none ∧ errand.inFlight = none ∧
          errand.session.heap.jobsOf id = []) ∨
        ∃ next, Turn program queue id client errand next) := by
  intro immediate
  have hnothing (other : ObjectId) : start.heap.jobsOf other = [] := by
    rw [List.eq_nil_iff_forall_not_mem]
    intro job hjob
    unfold jobsOf at hjob
    split at hjob
    · exact absurd hjob List.not_mem_nil
    · next found hfound =>
      have hmem := (mem_jobs_iff hreachable.settled.kept.rooted.ordered).2
        ⟨other, found, hfound, hjob⟩
      rw [hjobs] at hmem
      exact absurd hmem List.not_mem_nil
  have hstart := tracks_start hreachable hidle (hnothing id) hgate hqueue client capacity
  have hquiet : ∀ other, other ≠ id → errand.session.heap.jobsOf other = [] :=
    fun other hother ↦ (hturns.jobsOf_other hlocal hstart hother).trans (hnothing other)
  have htracks := hturns.tracks hlocal hstart
  refine ⟨htracks.seen, ?_, htracks.goes_on hlocal hquiet⟩
  intro hnone hempty
  cases htracks.phase with
  | arrived hflight => exact absurd (hnone.symm.trans hflight) (by simp)
  | waits hflight => exact absurd (hnone.symm.trans hflight) (by simp)
  | idle hflight hidle hserves hsame =>
    unfold caughtUp at hsame
    rw [hempty] at hsame
    exact hsame.snapshot_eq

/-! ## Two launches on a queue with room for one -/

/-- A program with the routines on hand. -/
def marking : Program := { routine := Catalog.routine }

/-- A queue with room for one job, and a kernel that records its calls. -/
def oneQueued : Session :=
  Session.startAll marking { host := { gateOpen := true } }
    [.queueWithCapacity 1, .hostDevice 0, .symbolModule "routines" [("mark", "mark")],
      .newKernel 2 3 "mark"]

/-- A client that launches twice and then waits for both. -/
def twice : Client := fun seen ↦
  match seen.length with
  | 0 | 1 => some (.launch 4 0 (.line 1))
  | 2 => some .sync
  | _ => none

/-- The second launch waits for room, and the `sync` for the second job. -/
def waitingTwice : List Move :=
  [.start, .see, .start, .work, .resume, .see, .start, .work, .resume, .see]

theorem refines_immediate_twice :
    ∃ errand, Turns marking 1 2 twice { session := oneQueued } errand ∧ errand.seen.length = 3 ∧
      errand.seen = ((oneQueued.immediately 2 (HostQueue.new 1 1) 7).run marking.toPlatform 1 2
        twice 3).seen := by
  have hfresh : Session.Fresh { host := { gateOpen := true } } := ⟨rfl, rfl, rfl, rfl, rfl⟩
  have hopened : oneQueued.Reachable marking :=
    (Session.runs_startAll marking _ _).reachable (.fresh hfresh)
  have hlength : (({ session := oneQueued } : Errand).moves? marking 1 2 twice waitingTwice).map
      (·.seen.length) = some 3 := rfl
  obtain ⟨errand, hmoves, hthree⟩ := Option.map_eq_some_iff.1 hlength
  have hturns := turns_of_moves? hmoves
  have hrefines := refines_immediate hopened rfl rfl rfl Catalog.local_routine rfl hturns 7
  rw [hthree] at hrefines
  exact ⟨errand, hturns, hthree, hrefines.1⟩

end Errand

end Offload
