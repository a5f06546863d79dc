import Offload.Proofs.Queue.Others
import Offload.Proofs.Session.Objects

/-!
# Jobs and futures in a history

A history tells which jobs a queue has accepted and finished, and which settlings of a future there
were. What is on the heap follows from it: a queue has the jobs that it has accepted and not
finished, and a future is what its settlings have made of it.
-/

namespace Offload

/-- A queue is drained when a client that syncs it goes on, and when it is given up. -/
def QueueEvent.IsDrain : QueueEvent → Prop
  | .synced _ | .dropped => True
  | _ => False

namespace Happening

/-- The job that a queue has accepted. -/
def accepted? (queue : ObjectId) : Happening → Option Job
  | queued id (.accepted job) => if id = queue then some job else none
  | _ => none

/-- The job that a queue has finished, with its failure. -/
def finished? (queue : ObjectId) : Happening → Option (Job × Option Failure)
  | queued id (.finished job failure) => if id = queue then some (job, failure) else none
  | _ => none

/-- The future of a launch that some queue has accepted. -/
def launched? : Happening → Option ObjectId
  | queued _ (.accepted job) => job.future
  | _ => none

/-- The future of a launch that some queue has finished. -/
def ended? : Happening → Option ObjectId
  | queued _ (.finished job _) => job.future
  | _ => none

/-- What a future is settled to. -/
def settles? (future : ObjectId) : Happening → Option FutureState
  | settled id next => if id = future then some next else none
  | queued _ (.finished job failure) =>
    if job.future = some future then some (Session.futureOutcome failure) else none
  | _ => none

end Happening

/-- The jobs that a queue has accepted, oldest first. -/
def acceptedJobs (queue : ObjectId) (log : List Happening) : List Job :=
  log.filterMap (·.accepted? queue)

/-- The jobs that a queue has finished, with their failures, oldest first. -/
def finishedJobs (queue : ObjectId) (log : List Happening) : List (Job × Option Failure) :=
  log.filterMap (·.finished? queue)

/-- The futures of all launches that were accepted. -/
def launchedFutures (log : List Happening) : List ObjectId := log.filterMap Happening.launched?

/-- The futures of all launches that were finished. -/
def endedFutures (log : List Happening) : List ObjectId := log.filterMap Happening.ended?

/-- What a future has been settled to, the first settling first. -/
def settlings (future : ObjectId) (log : List Happening) : List FutureState :=
  log.filterMap (·.settles? future)

/-- A future after settlings, the first one first. -/
def Future.settleAll (future : Future) (states : List FutureState) : Future :=
  states.foldl (fun future state ↦ future.settle state) future

theorem Future.settleAll_append (future : Future) (states more : List FutureState) :
    future.settleAll (states ++ more) = (future.settleAll states).settleAll more :=
  List.foldl_append

/-- The future of a launch that waits for room. -/
def Stage.launch? : Stage → Option ObjectId
  | room _ job => job.future
  | _ => none

@[simp]
theorem Stage.launch?_room (queue : ObjectId) (job : Job) : (room queue job).launch? = job.future :=
  rfl

@[simp]
theorem Stage.launch?_drained (queue : ObjectId) : (drained queue).launch? = none := rfl

@[simp]
theorem Stage.launch?_discarded (queue : ObjectId) (outcome : Outcome) :
    (discarded queue outcome).launch? = none := rfl

section

variable {queue id : ObjectId} {job : Job} {failure : Option Failure} {log : List Happening}

theorem mem_acceptedJobs_iff :
    job ∈ acceptedJobs queue log ↔ .queued queue (.accepted job) ∈ log := by
  unfold acceptedJobs
  rw [List.mem_filterMap]
  constructor
  · rintro ⟨happening, hmem, haccepted⟩
    unfold Happening.accepted? at haccepted
    split at haccepted
    · split at haccepted
      · next hqueue => exact Option.some.inj haccepted ▸ hqueue ▸ hmem
      · exact absurd haccepted (by simp)
    · exact absurd haccepted (by simp)
  · exact fun hmem ↦ ⟨_, hmem, if_pos rfl⟩

theorem mem_finishedJobs_iff :
    (job, failure) ∈ finishedJobs queue log ↔ .queued queue (.finished job failure) ∈ log := by
  unfold finishedJobs
  rw [List.mem_filterMap]
  constructor
  · rintro ⟨happening, hmem, hfinished⟩
    unfold Happening.finished? at hfinished
    split at hfinished
    · split at hfinished
      · next hqueue =>
        obtain ⟨rfl, rfl⟩ := Prod.mk.inj (Option.some.inj hfinished)
        exact hqueue ▸ hmem
      · exact absurd hfinished (by simp)
    · exact absurd hfinished (by simp)
  · exact fun hmem ↦ ⟨_, hmem, if_pos rfl⟩

theorem mem_launchedFutures_iff :
    id ∈ launchedFutures log ↔
      ∃ queue job, .queued queue (.accepted job) ∈ log ∧ job.future = some id := by
  unfold launchedFutures
  rw [List.mem_filterMap]
  constructor
  · rintro ⟨happening, hmem, hlaunched⟩
    unfold Happening.launched? at hlaunched
    split at hlaunched
    · exact ⟨_, _, hmem, hlaunched⟩
    · exact absurd hlaunched (by simp)
  · rintro ⟨queue, job, hmem, hfuture⟩
    exact ⟨_, hmem, hfuture⟩

theorem mem_endedFutures_iff :
    id ∈ endedFutures log ↔
      ∃ queue job failure, .queued queue (.finished job failure) ∈ log ∧ job.future = some id := by
  unfold endedFutures
  rw [List.mem_filterMap]
  constructor
  · rintro ⟨happening, hmem, hended⟩
    unfold Happening.ended? at hended
    split at hended
    · exact ⟨_, _, _, hmem, hended⟩
    · exact absurd hended (by simp)
  · rintro ⟨queue, job, failure, hmem, hfuture⟩
    exact ⟨_, hmem, hfuture⟩

end

namespace Session

open Heap

variable {platform : Platform} {session before after : Session} {flight last : List Stage}
  {more : List Happening} {id : ObjectId}

/-! ## Jobs -/

/-- No queue has a number that no object has got yet. -/
theorem hostQueue?_next (hsound : session.Sound flight) :
    session.heap.hostQueue? session.heap.next = none := by
  unfold hostQueue?
  rw [hsound.rooted.ordered.get?_eq_none (Nat.le_refl _)]

/-- An object that is made brings no jobs. -/
theorem jobsOf_place (hsound : session.Sound flight) {object : Object}
    (hmakeable : object.Makeable session.heap.get?) (queue : ObjectId) :
    (session.place object).1.heap.jobsOf queue = session.heap.jobsOf queue := by
  have hplaced : (session.place object).1.heap = (session.heap.insert object).1 := rfl
  by_cases hqueue : queue = session.heap.next
  · unfold jobsOf
    rw [hqueue, hostQueue?_next hsound, hplaced, hostQueue?_insert, if_pos rfl]
    rcases object with _ | _ | _ | _ | _ | (found | _) | _
    case queue.host =>
      obtain ⟨hfound, hprogress⟩ := hmakeable.idle found rfl
      have hpending := hfound.pending
      rw [hprogress] at hpending
      exact List.length_eq_zero_iff.1 hpending.symm
    all_goals rfl
  · apply jobsOf_congr
    rw [hplaced, hostQueue?_insert, if_neg hqueue]

theorem jobsOf_placeView (hsound : session.Sound flight) {view : HostView} {adopted : Bool}
    {ranges : RangeTracker}
    (hcontext : session.heap.context? view.context = some (.host adopted ranges))
    (queue : ObjectId) :
    (session.placeView (.host view)).1.heap.jobsOf queue = session.heap.jobsOf queue := by
  apply jobsOf_congr
  rw [heap_placeView hcontext, hostQueue?_insert, hostQueue?_modifyContext]
  split
  · next hqueue =>
    rw [show queue = session.heap.next from hqueue]
    exact (hostQueue?_next hsound).symm
  · rfl

theorem jobsOf_collect (hrooted : Rooted session.registry (session.stages []) session.heap)
    (queue : ObjectId) : session.collect.heap.jobsOf queue = session.heap.jobsOf queue :=
  ((aside_collect hrooted queue).jobsOf_eq hrooted.sound).1

/-- What a queue has and is given to do is what it has done and still has. -/
theorem Change.jobsOf (hchange : Change platform before flight more after last)
    (hsound : before.Sound flight) (queue : ObjectId) :
    before.heap.jobsOf queue ++ acceptedJobs queue more =
      (finishedJobs queue more).map (·.1) ++ after.heap.jobsOf queue := by
  have hkeeps (happenings : List Happening) (hheap : after.heap.jobsOf queue =
      before.heap.jobsOf queue) (haccepted : acceptedJobs queue happenings = [])
      (hfinished : finishedJobs queue happenings = []) :
      before.heap.jobsOf queue ++ acceptedJobs queue happenings =
        (finishedJobs queue happenings).map (·.1) ++ after.heap.jobsOf queue := by
    rw [hheap, haccepted, hfinished, List.append_nil, List.map_nil, List.nil_append]
  have hdrained {target : ObjectId} {found : HostQueue}
      (hfound : before.heap.hostQueue? target = some found) :
      (before.drain target {}).heap.jobsOf queue = before.heap.jobsOf queue := by
    unfold drain Heap.jobsOf
    rw [hostQueue?_modifyQueue]
    by_cases hqueue : queue = target
    · rw [if_pos hqueue, hqueue, hfound]
      rfl
    · rw [if_neg hqueue]
  cases hchange with
  | aside hheap => exact hkeeps _ (congrArg (Heap.jobsOf · queue) hheap) rfl rfl
  | place hmakeable => exact hkeeps _ (jobsOf_place hsound hmakeable queue) rfl rfl
  | create hmakeable => exact hkeeps _ (jobsOf_place hsound hmakeable queue) rfl rfl
  | createView hcontext => exact hkeeps _ (jobsOf_placeView hsound hcontext queue) rfl rfl
  | launch =>
    have hmakeable : (Object.future (.cell .pending)).Makeable before.heap.get? :=
      Sound.makeable trivial trivial (by decide)
    exact hkeeps _ (jobsOf_place hsound hmakeable queue) rfl rfl
  | @accept id job found hfound _ =>
    rw [heap_deliver]
    by_cases hqueue : id = queue
    · subst hqueue
      have haccepted : acceptedJobs id [.queued id (.accepted job)] = [job] := by
        simp [acceptedJobs, Happening.accepted?]
      rw [haccepted]
      unfold Session.accept
      rw [jobsOf_modifyQueue hfound]
      unfold Heap.jobsOf
      rw [hfound]
      rfl
    · have haccepted : acceptedJobs queue [.queued id (.accepted job)] = [] := by
        simp [acceptedJobs, Happening.accepted?, hqueue]
      have hsame : (before.accept id { found.progress with
          pending := found.progress.pending + 1 } job).heap.jobsOf queue =
            before.heap.jobsOf queue := by
        apply jobsOf_congr
        unfold Session.accept
        rw [hostQueue?_modifyQueue, if_neg (Ne.symm hqueue)]
      rw [haccepted, hsame, List.append_nil]
      rfl
  | sync hfound => exact hkeeps _ (hdrained hfound) rfl rfl
  | drop hfound => exact hkeeps _ (hdrained hfound) rfl rfl
  | link modules => exact hkeeps _ (jobsOf_congr (hostQueue?_link _ _ _)) rfl rfl
  | settle future next => exact hkeeps _ (jobsOf_congr (hostQueue?_settleFuture _ _ _ _)) rfl rfl
  | @finish _ id found job rest host failure hfound hjobs _ hafter =>
    obtain ⟨retired, hheap, hretired, hregistry, hwaiting⟩ :=
      heap_finish { before with host } id found job rest failure
    have hrooted := retired_rooted hsound hfound hjobs hretired hregistry hwaiting
    rw [hafter, hheap, jobsOf_collect hrooted, hretired]
    by_cases hqueue : id = queue
    · subst hqueue
      have hfinished : (finishedJobs id [.queued id (.finished job failure)]).map (·.1) = [job] := by
        simp [finishedJobs, Happening.finished?]
      have hsettled : (settled before.heap job failure).hostQueue? id = some found := by
        rw [hostQueue?_settled]
        exact hfound
      have hrest : (retire { before with host } id found job rest failure).heap.jobsOf id = rest :=
        jobsOf_modifyQueue hsettled
      rw [hfinished, hrest]
      unfold Heap.jobsOf
      rw [hfound]
      exact (List.append_nil _).trans hjobs
    · have hfinished : finishedJobs queue [.queued id (.finished job failure)] = [] := by
        simp [finishedJobs, Happening.finished?, hqueue]
      have hsame : (retire { before with host } id found job rest failure).heap.jobsOf queue =
          before.heap.jobsOf queue := by
        apply jobsOf_congr
        unfold retire
        rw [hostQueue?_modifyQueue, if_neg (Ne.symm hqueue)]
        exact hostQueue?_settled before.heap job failure queue
      rw [hfinished, hsame]
      exact List.append_nil _
  | collect => exact hkeeps _ (jobsOf_collect hsound.rooted queue) rfl rfl
  | _ => exact hkeeps _ rfl rfl rfl

theorem Change.jobsOf_of_drain (hchange : Change platform before flight more after last)
    (hsound : before.Sound flight) {queue : ObjectId} {event : QueueEvent} (hdrain : event.IsDrain)
    (hevent : .queued queue event ∈ more) :
    more = [.queued queue event] ∧ before.heap.jobsOf queue = [] := by
  have hidle {found : HostQueue} (hfound : before.heap.hostQueue? queue = some found)
      (hpending : found.progress.pending = 0) : before.heap.jobsOf queue = [] := by
    unfold Heap.jobsOf
    rw [hfound]
    exact List.length_eq_zero_iff.1 ((hsound.rooted.sound.queues hfound).pending ▸ hpending)
  cases hchange with
  | sync hfound hpending | drop hfound hpending =>
    obtain ⟨rfl, rfl⟩ := Happening.queued.inj (List.mem_singleton.1 hevent)
    exact ⟨rfl, hidle hfound hpending⟩
  | accept | finish =>
    obtain ⟨-, rfl⟩ := Happening.queued.inj (List.mem_singleton.1 hevent)
    exact absurd hdrain (by simp [QueueEvent.IsDrain])
  | _ => simp at hevent

theorem History.jobsOf {start : Session} {allowed : Session → Prop} {log : List Happening}
    (hhistory : History platform allowed start log session flight) (hsound : start.Sound [])
    (queue : ObjectId) : start.heap.jobsOf queue ++ acceptedJobs queue log =
      (finishedJobs queue log).map (·.1) ++ session.heap.jobsOf queue := by
  refine hhistory.induct (motive := fun log session _ ↦ start.heap.jobsOf queue ++
    acceptedJobs queue log = (finishedJobs queue log).map (·.1) ++ session.heap.jobsOf queue)
    hsound (List.append_nil _) ?_ fun _ _ _ _ _ hjobs ↦ hjobs
  intro log before flight more after last _ hsound hjobs hchange
  have hmore := hchange.jobsOf hsound queue
  unfold acceptedJobs finishedJobs at *
  rw [List.filterMap_append, List.filterMap_append, ← List.append_assoc, hjobs, List.append_assoc,
    hmore, List.map_append, List.append_assoc]

/-! ## Launches that wait for room -/

/-- The futures of launches that wait for room. -/
def launching (session : Session) (flight : List Stage) : List ObjectId :=
  (session.stages flight).filterMap Stage.launch?

theorem launching_congr (hclaims : after.waiting.map claim = before.waiting.map claim)
    (flight : List Stage) : after.launching flight = before.launching flight := by
  unfold launching
  rw [stages_eq_of_claims hclaims]

/-- Only a launch that begins brings a future, with the next number; when its queue accepts it, it
waits no longer. -/
theorem Change.launching (hchange : Change platform before flight more after last) :
    ∃ fresh, (fresh = [] ∨ fresh = [before.heap.next] ∧ before.heap.next < after.heap.next ∧
        more = []) ∧
      (launchedFutures more ++ after.launching last).Perm (fresh ++ before.launching flight) := by
  have hkeeps (hsame : (launchedFutures more ++ after.launching last).Perm
      (before.launching flight)) : ∃ fresh, (fresh = [] ∨ fresh = [before.heap.next] ∧
        before.heap.next < after.heap.next ∧ more = []) ∧
      (launchedFutures more ++ after.launching last).Perm (fresh ++ before.launching flight) :=
    ⟨[], .inl rfl, hsame⟩
  cases hchange with
  | aside _ _ hclaims => exact hkeeps (List.Perm.of_eq (launching_congr hclaims flight))
  | createView hcontext =>
    refine hkeeps (List.Perm.of_eq (launching_congr ?_ []))
    exact (frame_placeCreation before (.view (.host _))).claims
  | erase hslot events =>
    refine hkeeps (List.Perm.of_eq ?_)
    unfold Session.launching stages
    split <;> rfl
  | @demand stage hdemand =>
    refine hkeeps (List.Perm.of_eq ?_)
    have hnone : stage.launch? = none := by
      cases stage with
      | room queue job => exact (hdemand.job queue job rfl).1
      | drained => rfl
      | discarded => rfl
    unfold Session.launching stages
    exact List.filterMap_cons_none hnone
  | launch => exact ⟨[before.heap.next], .inr ⟨rfl, Nat.lt_succ_self _, rfl⟩, List.Perm.refl _⟩
  | @accept id job queue hqueue hroom =>
    have hwaiting : ((before.accept id { queue.progress with
        pending := queue.progress.pending + 1 } job).deliver job).1.waiting = before.waiting := by
      unfold deliver
      split <;> rfl
    refine hkeeps (List.Perm.of_eq ?_)
    generalize Session.deliver _ job = delivered at hwaiting ⊢
    unfold Session.launching stages launchedFutures
    rw [hwaiting]
    cases hfuture : job.future with
    | none => simp [List.filterMap_cons, Happening.launched?, hfuture]
    | some future => simp [List.filterMap_cons, Happening.launched?, hfuture]
  | @finish _ id queue job rest host failure _ _ _ hafter =>
    refine hkeeps (List.Perm.of_eq ?_)
    rw [hafter, finish_eq]
    unfold Session.launching
    rw [stages_wake]
    rfl
  | park client =>
    exact hkeeps ((stages_withClient_perm before client).symm.filterMap Stage.launch?)
  | unpark hclient hdistinct =>
    exact hkeeps ((stages_withoutClient_perm hclient hdistinct).symm.filterMap Stage.launch?)
  | _ => exact hkeeps (List.Perm.refl _)

/-! ## Futures -/

/-- A future on the heap after a change is what its settlings have made of it, or has been made
for a client or for the launch that the change begins. -/
theorem Change.future (hchange : Change platform before flight more after last)
    (hsound : before.Sound flight) {future : Future}
    (hfuture : after.heap.future? id = some future) :
    (∃ old, before.heap.future? id = some old ∧
        future = old.settleAll (settlings id more)) ∨
      id = before.heap.next ∧ (.made id (.future future) ∈ more ∨
        future = .cell .pending ∧ ∃ queue job, last = [.room queue job] ∧
          job.future = some id) := by
  have hkeeps (happenings : List Happening) (hbefore : before.heap.future? id = some future)
      (hsettlings : settlings id happenings = []) :
      ∃ old, before.heap.future? id = some old ∧
        future = old.settleAll (settlings id happenings) :=
    ⟨future, hbefore, by rw [hsettlings]; rfl⟩
  cases hchange with
  | aside hheap => exact .inl (hkeeps _ (hheap ▸ hfuture) rfl)
  | @place object | @create object =>
    change Heap.future? (before.heap.insert object).1 id = _ at hfuture
    rw [future?_insert] at hfuture
    split at hfuture
    · next hid =>
      refine .inr ⟨hid, .inl ?_⟩
      cases object with
      | future found => exact Option.some.inj hfuture ▸ hid ▸ List.mem_cons_self
      | _ => exact absurd hfuture (by simp)
    · exact .inl (hkeeps _ hfuture rfl)
  | createView hcontext =>
    change (before.placeView _).1.heap.future? id = _ at hfuture
    rw [heap_placeView hcontext, future?_insert, future?_modifyContext] at hfuture
    split at hfuture
    · exact absurd hfuture (by simp)
    · exact .inl (hkeeps _ hfuture rfl)
  | launch =>
    change Heap.future? (before.heap.insert _).1 id = _ at hfuture
    rw [future?_insert] at hfuture
    split at hfuture
    · next hid =>
      exact .inr ⟨hid, .inr ⟨(Option.some.inj hfuture).symm, _, _, rfl, congrArg some hid.symm⟩⟩
    · exact .inl (hkeeps _ hfuture rfl)
  | accept =>
    rw [heap_deliver] at hfuture
    exact .inl (hkeeps _ ((future?_modifyQueue _ _ _ _).symm.trans hfuture) rfl)
  | sync | drop => exact .inl (hkeeps _ ((future?_modifyQueue _ _ _ _).symm.trans hfuture) rfl)
  | link modules => exact .inl (hkeeps _ ((future?_link _ _ _).symm.trans hfuture) rfl)
  | settle target next =>
    change (before.heap.settleFuture target next).future? id = _ at hfuture
    rw [future?_settleFuture] at hfuture
    split at hfuture
    · next hid =>
      obtain ⟨old, hold, rfl⟩ := Option.map_eq_some_iff.1 hfuture
      refine .inl ⟨old, hold, ?_⟩
      simp [settlings, Happening.settles?, Future.settleAll, hid]
    · next hid =>
      refine .inl (hkeeps _ hfuture ?_)
      simp [settlings, Happening.settles?, Ne.symm hid]
  | @finish _ queue found job rest host failure hfound hjobs _ hafter =>
    obtain ⟨retired, hheap, hretired, hregistry, hwaiting⟩ :=
      heap_finish { before with host } queue found job rest failure
    have hrooted := retired_rooted hsound hfound hjobs hretired hregistry hwaiting
    rw [hafter, hheap] at hfuture
    have hmiddle := future?_of_collect hrooted.sound.layered hfuture
    rw [hretired] at hmiddle
    have hsettled : (settled before.heap job failure).future? id = some future :=
      (future?_modifyQueue _ _ _ _).symm.trans hmiddle
    unfold settled at hsettled
    split at hsettled
    · next hnone =>
      refine .inl (hkeeps _ hsettled ?_)
      simp [settlings, Happening.settles?, hnone]
    · next target hsome =>
      rw [future?_settleFuture] at hsettled
      split at hsettled
      · next hid =>
        obtain ⟨old, hold, rfl⟩ := Option.map_eq_some_iff.1 hsettled
        refine .inl ⟨old, hold, ?_⟩
        simp [settlings, Happening.settles?, Future.settleAll, hsome, hid]
      · next hid =>
        refine .inl (hkeeps _ hsettled ?_)
        simp [settlings, Happening.settles?, hsome, Ne.symm hid]
  | collect => exact .inl (hkeeps _ (future?_of_collect hsound.rooted.sound.layered hfuture) rfl)
  | _ => exact .inl (hkeeps _ hfuture rfl)

end Session

end Offload
