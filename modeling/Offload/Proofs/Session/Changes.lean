import Offload.Proofs.Queue.Run
import Offload.Proofs.Session.Sources
import Offload.Proofs.Session.Steps

/-!
# Changes of a session

Whatever happens to a session is made up of a few elementary changes. A change tells what is worth
remembering of it: an object that was made, a handle that is gone, a future that was settled from
outside, and what happened to a queue. A property that each of these changes keeps holds in every
session that comes about, also inside error handlers.
-/

namespace Offload

/-- What a change of a session tells. -/
inductive Happening where
  /-- An object has come on the heap. -/
  | made (id : ObjectId) (object : Object)
  /-- A handle of an object has lost its last reference. -/
  | released (id : ObjectId)
  /-- A client has settled a future. -/
  | settled (future : ObjectId) (next : FutureState)
  | queued (queue : ObjectId) (event : QueueEvent)

/-- The memory that views get is not null: the allocator is past the null address, and the alignment
that the settings give, or will give once they are resolved, is positive. -/
structure Session.Sane (platform : Platform) (session : Session) : Prop where
  frontier : 0 < session.allocator.frontier
  alignment : 0 < (session.ambient.resolve platform.environment).1.hostAlignment

namespace Session

open Heap

/-- A stage in which an operation begins to wait: for room for a job that is no launch, or for a
drain. What it refers to is named by handles. -/
structure Demand (session : Session) (stage : Stage) : Prop where
  supported : stage.Supported session.heap.get?
  names : ∀ id ∈ stage.references, session.registry.Names id
  job : ∀ queue job, stage = .room queue job → job.future = none ∧
    ∀ entry invocation, job.work ≠ .enter entry invocation
  undecided : ∀ queue outcome, stage ≠ .discarded queue outcome

/-- An elementary change of a session, with the operation in flight before and after it. -/
inductive Change (platform : Platform) :
    Session → List Stage → List Happening → Session → List Stage → Prop where
  /-- Neither objects nor references to them change. -/
  | aside {before after : Session} {flight : List Stage} (hheap : after.heap = before.heap)
    (hregistry : after.registry = before.registry)
    (hclaims : after.waiting.map claim = before.waiting.map claim)
    (hstatics : after.host.statics = before.host.statics)
    (hallocator : after.allocator = before.allocator)
    (hlater : before.ambient.Later platform.environment after.ambient) :
    Change platform before flight [] after flight
  /-- An object is made for another one that will hold it. -/
  | place {session : Session} {object : Object}
    (hmakeable : object.Makeable session.heap.get?) (hview : ∀ view, object ≠ .view (.host view))
    (hfuture : ∀ state, object ≠ .future (.cell state)) :
    Change platform session [] [.made session.heap.next object] (session.place object).1 []
  /-- An object is made for a client. -/
  | create {session : Session} {object : Object}
    (hmakeable : object.Makeable session.heap.get?) (hview : ∀ view, object ≠ .view (.host view)) :
    Change platform session [] [.made session.heap.next object]
      ((session.place object).1.expose object.kind session.heap.next).1 []
  /-- A view of the host is made for a client. -/
  | createView {session : Session} {view : HostView} {adopted : Bool} {ranges : RangeTracker}
    (hcontext : session.heap.context? view.context = some (.host adopted ranges))
    (hblank : view.registration = none)
    (haddress : session.Sane platform → view.size ≠ 0 → view.address ≠ 0) :
    Change platform session []
      [.made session.heap.next (.view (.host { view with
        registration := (ranges.track view.address view.size view.kind).2 }))]
      ((session.placeView (.host view)).1.expose .memoryView session.heap.next).1 []
  /-- Another handle is given out. -/
  | expose {session : Session} {id : ObjectId} {object : Object}
    (hget : session.heap.get? id = some object) (hnames : session.registry.Names id) :
    Change platform session [] [] (session.expose object.kind id).1 []
  /-- The count of a handle changes. -/
  | recount {session : Session} (handle : Handle) (count : Slot ObjectId → Nat) :
    Change platform session [] [] { session with
      registry := session.registry.modify handle fun slot ↦ { slot with count := count slot } } []
  /-- A handle goes; its client is left with the reference to a queue. -/
  | erase {session : Session} {handle : Handle} {slot : Slot ObjectId}
    (hslot : session.registry.get? handle = some slot) (events : Journal) :
    Change platform session [] [.released slot.object]
      { session.note events with registry := session.registry.erase handle }
      (if (session.heap.hostQueue? slot.object).isSome then
        [.discarded slot.object (.ok .nothing)] else [])
  /-- A client leaves a queue that something else refers to. -/
  | part {session : Session} {id : ObjectId} {outcome : Outcome}
    (hrefers : session.refersTo id = true) :
    Change platform session [.discarded id outcome] [] session []
  /-- An operation begins to wait. -/
  | demand {session : Session} {stage : Stage} (hdemand : session.Demand stage) :
    Change platform session [] [] session [stage]
  /-- A launch begins to wait for room, with a future of its own. -/
  | launch {session : Session} {queue : ObjectId} {job : Job}
    (hsupported : (Stage.room queue job).Supported session.heap.get?)
    (hnames : ∀ id ∈ queue :: job.holds, session.registry.Names id)
    (hlaunches : ∃ extent, job.Launches session.heap.get? extent) :
    Change platform session [] [] (session.place (.future (.cell .pending))).1
      [.room queue { job with future := some session.heap.next }]
  /-- A queue accepts a job, and the client gets a handle for its future. -/
  | accept {session : Session} {id : ObjectId} {job : Job} {queue : HostQueue}
    (hqueue : session.heap.hostQueue? id = some queue)
    (hroom : queue.progress.pending < queue.capacity) :
    Change platform session [.room id job] [.queued id (.accepted job)]
      ((session.accept id { queue.progress with pending := queue.progress.pending + 1 }
        job).deliver job).1
      [.discarded id ((session.accept id
        { queue.progress with pending := queue.progress.pending + 1 } job).deliver job).2]
  /-- A client drains a queue with nothing pending. -/
  | sync {session : Session} {id : ObjectId} {queue : HostQueue}
    (hqueue : session.heap.hostQueue? id = some queue) (hidle : queue.progress.pending = 0) :
    Change platform session [.drained id]
      [.queued id (.synced (drainOutcome queue.progress.failure))] (session.drain id {})
      [.discarded id (drainOutcome queue.progress.failure)]
  /-- The client with the last reference to a queue has waited for its end. -/
  | drop {session : Session} {id : ObjectId} {outcome : Outcome} {queue : HostQueue}
    (hqueue : session.heap.hostQueue? id = some queue) (hidle : queue.progress.pending = 0) :
    Change platform session [.discarded id outcome] [.queued id .dropped]
      ((session.drain id {}).note (unreported queue.progress.failure)) []
  | link {session : Session} (modules : List ObjectId) :
    Change platform session [] [] { session with heap := session.heap.link modules } []
  | settle {session : Session} (future : ObjectId) (next : FutureState) :
    Change platform session [] [.settled future next]
      { session with heap := session.heap.settleFuture future next } []
  /-- The worker of a queue has run its oldest job, and what only the job held is given up. -/
  | finish {before after : Session} {id : ObjectId} {queue : HostQueue} {job : Job}
    {rest : List Job} {host : HostState} {failure : Option Failure}
    (hqueue : before.heap.hostQueue? id = some queue) (hjobs : queue.jobs = job :: rest)
    (hruns : job.Runs platform.routine before.host host failure)
    (hafter : after = ({ before with host } : Session).finish id queue job rest failure) :
    Change platform before [] [.queued id (.finished job failure)] after []
  /-- What nothing refers to any more is given up. -/
  | collect {session : Session} : Change platform session [] [] session.collect []
  /-- The operation in flight waits as a client. -/
  | park {session : Session} (client : Waiting) :
    Change platform session [client.stage] [] (session.withClient client) []
  /-- A waiting client goes on. -/
  | unpark {session : Session} {client : Waiting} (hclient : client ∈ session.waiting)
    (hdistinct : (session.waiting.map (·.ticket)).Nodup) :
    Change platform session [] [] (session.withoutClient client.ticket) [client.stage]

/-- Changes one after the other, with all they tell. -/
inductive Changes (platform : Platform) :
    Session → List Stage → List Happening → Session → List Stage → Prop where
  | refl (session : Session) (flight : List Stage) :
    Changes platform session flight [] session flight
  | change {start before after : Session} {first flight last : List Stage}
    {log more : List Happening} (hchanges : Changes platform start first log before flight)
    (hchange : Change platform before flight more after last) :
    Changes platform start first (log ++ more) after last

variable {platform : Platform} {program : Program} {session start before middle after : Session}
  {first flight last : List Stage} {log more : List Happening} {progressed : Progressed}
  {stage : Stage} {id : ObjectId}

theorem Changes.trans (hfirst : Changes platform start first log middle flight)
    (hsecond : Changes platform middle flight more after last) :
    Changes platform start first (log ++ more) after last := by
  induction hsecond with
  | refl =>
    rw [List.append_nil]
    exact hfirst
  | change _ hchange ih =>
    rw [← List.append_assoc]
    exact (ih hfirst).change hchange

theorem Change.changes (hchange : Change platform before flight more after last) :
    Changes platform before flight more after last :=
  (Changes.refl before flight).change hchange

/-- A change tells one thing at most. -/
theorem Change.length_le (hchange : Change platform before flight more after last) :
    more.length ≤ 1 := by
  cases hchange <;> simp

/-! ## Changes keep sessions sound -/

theorem Sound.congr_stages {more : List Stage} (hsound : before.Sound flight)
    (hheap : after.heap = before.heap) (hregistry : after.registry = before.registry)
    (hstatics : after.host.statics = before.host.statics)
    (hsame : ∀ stage, stage ∈ before.stages flight ↔ stage ∈ after.stages more) :
    after.Sound more := by
  refine ⟨?_, hheap ▸ hsound.tracked, ?_⟩
  · rw [hheap, hregistry]
    exact hsound.rooted.congr_stages hsame
  · rw [hheap, hstatics]
    exact hsound.loaded

theorem stages_eq_of_claims (hclaims : after.waiting.map claim = before.waiting.map claim)
    (flight : List Stage) : after.stages flight = before.stages flight := by
  have hstages := congrArg (List.map (·.2.2)) hclaims
  unfold stages
  congr 1
  simpa [List.map_map, Function.comp_def, claim] using hstages

/-- A client that waits takes its stage with it. -/
theorem stages_withClient_perm (session : Session) (client : Waiting) :
    (session.stages [client.stage]).Perm ((session.withClient client).stages []) := by
  simpa [stages, withClient] using (List.perm_append_singleton client.stage _).symm

/-- A client that goes on brings its stage with it. -/
theorem stages_withoutClient_perm {client : Waiting} (hclient : client ∈ session.waiting)
    (hdistinct : (session.waiting.map (·.ticket)).Nodup) :
    (session.stages []).Perm ((session.withoutClient client.ticket).stages [client.stage]) := by
  obtain ⟨older, newer, hwaiting⟩ := List.append_of_mem hclient
  rw [hwaiting, List.map_append, List.map_cons, List.nodup_append] at hdistinct
  obtain ⟨-, hnewer, holder⟩ := hdistinct
  have hothers : session.waiting.filter (·.ticket != client.ticket) = older ++ newer := by
    rw [hwaiting, List.filter_append, List.filter_cons_of_neg (by simp)]
    congr 1
    · refine List.filter_eq_self.2 fun other hother ↦ ?_
      simpa using holder _ (List.mem_map_of_mem hother) _ List.mem_cons_self
    · refine List.filter_eq_self.2 fun other hother ↦ ?_
      have hne := (List.nodup_cons.1 hnewer).1
      simp only [bne_iff_ne, ne_eq]
      exact fun hsame ↦ hne (hsame ▸ List.mem_map_of_mem hother)
  have hperm : session.waiting.Perm (client :: (older ++ newer)) := hwaiting ▸ List.perm_middle
  have hstages := hperm.map (·.stage)
  simpa [stages, withoutClient, hothers] using hstages

/-- An operation in flight after a change was in flight before, begins to wait, or has come to wait
for the end of a queue that was referred to. -/
theorem Change.stage_cases (hchange : Change platform before flight more after last)
    (hstage : stage ∈ after.stages last) :
    stage ∈ before.stages flight ∨ before.Demand stage ∨
      (∃ (queue : ObjectId) (job : Job),
        stage = .room queue { job with future := some before.heap.next } ∧
        (∀ id ∈ queue :: job.holds, before.registry.Names id) ∧
        ∃ extent, job.Launches before.heap.get? extent) ∨
      ∃ id outcome, stage = .discarded id outcome ∧
        Refers before.registry (before.stages flight) id := by
  -- The stages of waiting clients are those of before; what is left is the operation itself.
  have hcases {ahead : List Stage}
      (hsame : after.waiting.map (·.stage) = before.waiting.map (·.stage))
      (hstage : stage ∈ after.stages ahead) : stage ∈ ahead ∨ stage ∈ before.stages flight := by
    unfold stages at *
    rw [hsame] at hstage
    exact (List.mem_append.1 hstage).imp_right fun hmem ↦ List.mem_append_right _ hmem
  have hends {id : ObjectId} {first : Stage} (hfirst : first ∈ flight)
      (hid : id ∈ first.references) : Refers before.registry (before.stages flight) id :=
    .inr ⟨first, List.mem_append_left _ hfirst, hid⟩
  cases hchange with
  | aside _ _ hclaims =>
    rw [stages_eq_of_claims hclaims] at hstage
    exact .inl hstage
  | @createView view _ _ hcontext =>
    have hclaims := (frame_placeCreation before (.view (.host view))).claims
    exact .inl (stages_eq_of_claims hclaims [] ▸ hstage)
  | erase hslot =>
    refine (hcases rfl hstage).elim (fun hnew ↦ .inr (.inr (.inr ?_))) .inl
    split at hnew
    · exact ⟨_, _, List.mem_singleton.1 hnew, .inl ⟨_, _, hslot, rfl⟩⟩
    · exact absurd hnew List.not_mem_nil
  | demand hdemand =>
    refine (hcases rfl hstage).elim (fun hnew ↦ .inr (.inl ?_)) .inl
    exact List.mem_singleton.1 hnew ▸ hdemand
  | launch _ hnames hlaunches =>
    refine (hcases rfl hstage).elim (fun hnew ↦ .inr (.inr (.inl ?_))) .inl
    exact ⟨_, _, List.mem_singleton.1 hnew, hnames, hlaunches⟩
  | @accept id job queue =>
    have hwaiting : ((before.accept id { queue.progress with
        pending := queue.progress.pending + 1 } job).deliver job).1.waiting = before.waiting := by
      unfold deliver
      split <;> rfl
    refine (hcases (congrArg (List.map _) hwaiting) hstage).elim
      (fun hnew ↦ .inr (.inr (.inr ?_))) .inl
    exact ⟨id, _, List.mem_singleton.1 hnew, hends List.mem_cons_self List.mem_cons_self⟩
  | sync =>
    refine (hcases rfl hstage).elim (fun hnew ↦ .inr (.inr (.inr ?_))) .inl
    exact ⟨_, _, List.mem_singleton.1 hnew, hends List.mem_cons_self List.mem_cons_self⟩
  | @finish _ _ queue job rest host failure _ _ _ hafter =>
    rw [hafter, finish_eq, stages_wake] at hstage
    exact .inl hstage
  | park client => exact .inl ((stages_withClient_perm before client).mem_iff.2 hstage)
  | unpark hclient hdistinct =>
    exact .inl ((stages_withoutClient_perm hclient hdistinct).mem_iff.2 hstage)
  | _ => exact .inl ((hcases rfl hstage).resolve_left List.not_mem_nil)

theorem sound_erase (hsound : session.Sound []) {handle : Handle} {slot : Slot ObjectId}
    (hslot : session.registry.get? handle = some slot) (events : Journal) :
    Sound { session.note events with registry := session.registry.erase handle }
      (if (session.heap.hostQueue? slot.object).isSome then
        [.discarded slot.object (.ok .nothing)] else []) := by
  cases hqueue : session.heap.hostQueue? slot.object with
  | none =>
    refine ⟨hsound.rooted.erase hslot ?_, hsound.tracked, hsound.loaded⟩
    intro queue hsome
    rw [hqueue] at hsome
    exact absurd hsome (by simp)
  | some queue =>
    have hwaits := hsound.add (.discarded slot.object (.ok .nothing))
      ⟨queue, hostQueue?_eq_some.1 hqueue⟩
    refine ⟨hwaits.rooted.erase hslot ?_, hsound.tracked, hsound.loaded⟩
    intro _ _ _
    exact .inr ⟨_, List.mem_cons_self, List.mem_cons_self⟩

theorem sound_part {outcome : Outcome} (hsound : session.Sound [.discarded id outcome])
    (hrefers : session.refersTo id = true) : session.Sound [] := by
  refine ⟨hsound.rooted.drop ?_, hsound.tracked, hsound.loaded⟩
  intro other hother queue _ _
  obtain rfl : other = id := by simpa [Stage.references] using hother
  exact (refersTo_iff hsound.rooted.numbered).1 hrefers

theorem sound_launch {queue : ObjectId} {job : Job} (hsound : session.Sound [])
    (hstage : (Stage.room queue job).Supported session.heap.get?) :
    (session.place (.future (.cell .pending))).1.Sound
      [.room queue { job with future := some session.heap.next }] := by
  have hplaced := hsound.place (Sound.makeable trivial trivial (by decide) :
    (Object.future (.cell .pending)).Makeable session.heap.get?)
  apply hplaced.add
  obtain ⟨hqueue, hjob⟩ := hstage.transfer fun id _ ↦
    carries_insert hsound.rooted.ordered (.future (.cell .pending)) id
  refine ⟨hqueue, hjob.holds, ?_, hjob.entry⟩
  rintro id hid
  obtain rfl := Option.some.inj hid
  exact ⟨.pending, Sound.get?_place session _⟩

theorem sound_deliver {job : Job} (hjob : job.Supported session.heap.get?)
    (hsound : ∀ outcome, session.Sound [.discarded id outcome]) :
    (session.deliver job).1.Sound [.discarded id (session.deliver job).2] := by
  unfold deliver
  split
  · exact hsound _
  · next future hfuture =>
    obtain ⟨state, hget⟩ := hjob.future future hfuture
    exact (hsound _).expose hget rfl

theorem sound_drop {outcome : Outcome} {queue : HostQueue}
    (hsound : session.Sound [.discarded id outcome])
    (hqueue : session.heap.hostQueue? id = some queue) (hidle : queue.progress.pending = 0)
    (events : Journal) : ((session.drain id {}).note events).Sound [] := by
  have hdrained := sound_drain hsound hqueue hidle
  refine ⟨hdrained.rooted.drop ?_, hdrained.tracked, hdrained.loaded⟩
  intro other hother found hfound hbusy
  obtain rfl : other = id := by simpa [Stage.references] using hother
  rw [drain, hostQueue?_modifyQueue, if_pos rfl, hqueue] at hfound
  obtain rfl := Option.some.inj hfound
  exact absurd rfl hbusy

theorem sound_alike (hsound : session.Sound flight) {heap : Heap} (halike : Alike session.heap heap)
    (hqueues : ∀ id, heap.hostQueue? id = session.heap.hostQueue? id) (htracked : heap.Tracked) :
    Sound { session with heap } flight :=
  ⟨hsound.rooted.of_alike halike hqueues, htracked, fun entry hentry ↦
    halike.files_eq ▸ hsound.loaded entry hentry⟩

theorem makeable_hostView {find? : ObjectId → Option Object} {view : HostView}
    (hblank : view.registration = none) : (Object.view (.host view)).Makeable find? :=
  Sound.makeable trivial hblank (by simp [Object.kind])

/-- A view is placed under the next number. -/
theorem placeView_snd (session : Session) (view : View) :
    (session.placeView view).2 = session.heap.next := by
  cases view with
  | foreign => rfl
  | host view =>
    unfold placeView
    simp only
    split <;> rfl

/-- Placing a view changes the heap and the allocator, which takes memory and gives none back. -/
theorem placeView_fst (session : Session) (view : View) :
    ∃ heap allocator, (session.placeView view).1 = { session with heap, allocator } ∧
      session.allocator.frontier ≤ allocator.frontier := by
  cases view with
  | foreign => exact ⟨_, _, rfl, Nat.le_refl _⟩
  | host view =>
    have hcommit : session.allocator.frontier ≤ (if view.owned then
        session.allocator.commit view.address view.size else session.allocator).frontier := by
      split
      · exact Nat.le_max_left _ _
      · exact Nat.le_refl _
    unfold placeView
    simp only
    split <;> exact ⟨_, _, rfl, hcommit⟩

theorem Change.sound (hchange : Change platform before flight more after last)
    (hsound : before.Sound flight) : after.Sound last := by
  cases hchange with
  | aside hheap hregistry hclaims hstatics hallocator hlater =>
    apply hsound.congr_stages hheap hregistry hstatics
    intro stage
    rw [stages_eq_of_claims hclaims]
  | place hmakeable => exact hsound.place hmakeable
  | create hmakeable =>
    exact (hsound.place hmakeable).expose (Sound.get?_place before _) rfl
  | createView hcontext hblank =>
    obtain ⟨hplaced, object, hget, hkind⟩ :=
      hsound.placeView (makeable_hostView hblank)
    rw [placeView_snd] at hget
    exact hplaced.expose hget hkind
  | expose hget hnames => exact hsound.expose hget rfl
  | recount handle count =>
    exact ⟨hsound.rooted.recount handle count, hsound.tracked, hsound.loaded⟩
  | erase hslot events => exact sound_erase hsound hslot events
  | part hrefers => exact sound_part hsound hrefers
  | demand hdemand => exact hsound.add _ hdemand.supported
  | launch hsupported => exact sound_launch hsound hsupported
  | @accept id job queue hqueue hroom =>
    have hjob := (hsound.rooted.supported (.room id job) List.mem_cons_self).2
    have halike := alike_modifyQueue before.heap id
      (fun _ ↦ { queue.progress with pending := queue.progress.pending + 1 })
      (fun queue ↦ queue.jobs ++ [job])
    apply sound_deliver
    · exact hjob.transfer fun other _ ↦ halike.carries other
    · exact fun outcome ↦ sound_accept hsound hqueue hroom
  | @sync id queue hqueue hidle =>
    have hwaits : before.Sound [.discarded id (drainOutcome queue.progress.failure)] :=
      hsound.replace _ ⟨queue, hostQueue?_eq_some.1 hqueue⟩ fun _ hother _ _ ↦ hother
    exact sound_drain hwaits hqueue hidle
  | drop hqueue hidle => exact sound_drop hsound hqueue hidle _
  | link modules =>
    exact sound_alike hsound (alike_link before.heap modules) (hostQueue?_link _ _)
      (hsound.tracked.of_same (sameViews_link _ _))
  | settle future next =>
    exact sound_alike hsound (alike_settleFuture before.heap future next)
      (hostQueue?_settleFuture _ _ _) (hsound.tracked.of_same (sameViews_settleFuture _ _ _))
  | @finish _ id queue job rest host failure hqueue hjobs hruns hafter =>
    generalize hworked : ({ before with host } : Session) = worked at hafter
    have hrooted : Rooted worked.registry (worked.stages []) worked.heap := hworked ▸ hsound.rooted
    have htracked : worked.heap.Tracked := hworked ▸ hsound.tracked
    have hfound : worked.heap.hostQueue? id = some queue := hworked ▸ hqueue
    exact hafter ▸ (kept_finish hrooted htracked hfound hjobs failure).toSound
  | collect => exact (kept_collect hsound.rooted hsound.tracked).toSound
  | park client =>
    exact hsound.congr_stages rfl rfl rfl fun stage ↦
      (stages_withClient_perm before client).mem_iff
  | unpark hclient hdistinct =>
    exact hsound.congr_stages rfl rfl rfl fun stage ↦
      (stages_withoutClient_perm hclient hdistinct).mem_iff

theorem Changes.sound (hchanges : Changes platform before flight more after last)
    (hsound : before.Sound flight) : after.Sound last := by
  induction hchanges with
  | refl => exact hsound
  | change _ hchange ih => exact hchange.sound (ih hsound)

end Session

end Offload
