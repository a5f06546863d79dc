import Offload.Proofs.Queue.Attending
import Offload.Proofs.Queue.Logs
import Offload.Proofs.Session.Failing

/-!
# Sessions with nothing to collect

A collection takes away what nothing refers to. As long as handles name whatever the jobs of a queue
and the clients that wait for it refer to, nothing is given up when one of these jobs has run or one
of these clients goes on, so the collection at the end of the operation takes nothing away. The
futures of launches that wait for room are the one exception: they get their handles when there is
room.
-/

namespace Offload

namespace Session

open Heap

variable {platform : Platform} {session after : Session} {flight : List Stage} {stage : Stage}
  {id : ObjectId} {queues : List ObjectId} {job : Job} {queue : HostQueue}

/-- A collection gives up nothing of a tidy heap, only static data of libraries that are not
loaded. -/
theorem collect_of_tidy (hlayered : session.heap.Layered)
    (htidy : Tidy session.registry (session.stages []) session.heap) :
    session.collect = { session with host := session.host.keepStatics session.heap.files } := by
  have hheap : session.heap.collect session.roots = session.heap := by
    rw [roots_eq_anchors]
    exact collect_eq_self hlayered fun _ _ hget ↦ htidy hget
  unfold collect
  simp only [hheap]

/-! ## What handles name -/

/-- A session in which handles name whatever the jobs of some queues and the operations that wait
for them refer to, except for the futures of launches that wait for room. -/
structure Nameable (queues : List ObjectId) (session : Session) (flight : List Stage) : Prop where
  jobs : ∀ queue ∈ queues, ∀ job ∈ session.heap.jobsOf queue, ∀ id ∈ job.references,
    session.registry.Names id
  stages : ∀ stage ∈ session.stages flight, stage.queue ∈ queues → ∀ id ∈ stage.references,
    session.registry.Names id ∨ stage.launch? = some id

/-- A new future is no queue. -/
theorem hostQueue?_place (horder : session.heap.Ordered) (state : FutureState) (other : ObjectId) :
    (session.place (.future (.cell state))).1.heap.hostQueue? other =
      session.heap.hostQueue? other := by
  show hostQueue? (session.heap.insert _).1 other = _
  rw [hostQueue?_insert]
  split
  · next hnew =>
    unfold hostQueue?
    rw [horder.get?_eq_none (Nat.le_of_eq hnew.symm)]
  · rfl

theorem names_register {registry : Registry ObjectId} {named : ObjectId} (kind : Kind)
    (hnames : registry.Names named) (id : ObjectId) :
    (registry.register kind id).1.Names named := by
  obtain ⟨slot, hslot, hobject⟩ := hnames
  exact ⟨slot, List.mem_cons_of_mem _ hslot, hobject⟩

/-- A queue accepts a job, and the client gets a handle for its future. -/
def enlist (session : Session) (id : ObjectId) (queue : HostQueue) (job : Job) :
    Session × Outcome :=
  (session.accept id { queue.progress with pending := queue.progress.pending + 1 } job).deliver job

theorem heap_enlist (session : Session) (id : ObjectId) (queue : HostQueue) (job : Job) :
    (session.enlist id queue job).1.heap = session.heap.modifyQueue id fun found ↦
      { found with
        progress := { queue.progress with pending := queue.progress.pending + 1 }
        jobs := found.jobs ++ [job] } :=
  heap_deliver _ _

@[simp]
theorem waiting_enlist (session : Session) (id : ObjectId) (queue : HostQueue) (job : Job) :
    (session.enlist id queue job).1.waiting = session.waiting := by
  unfold enlist deliver
  split <;> rfl

@[simp]
theorem host_enlist (session : Session) (id : ObjectId) (queue : HostQueue) (job : Job) :
    (session.enlist id queue job).1.host = session.host := by
  unfold enlist deliver
  split <;> rfl

/-- A queue that accepts a job leaves the handles there are, and a launch gets a new one. -/
theorem registry_enlist (session : Session) (id : ObjectId) (queue : HostQueue) (job : Job) :
    (session.enlist id queue job).1.registry =
      match job.future with
      | none => session.registry
      | some future => (session.registry.register .future future).1 := by
  unfold enlist deliver
  split <;> simp_all [expose] <;> rfl

theorem names_enlist {named : ObjectId} (hnames : session.registry.Names named) (id : ObjectId)
    (queue : HostQueue) (job : Job) : (session.enlist id queue job).1.registry.Names named := by
  rw [registry_enlist]
  split
  · exact hnames
  · exact names_register .future hnames _

namespace Nameable

theorem start (hidle : ∀ client ∈ session.waiting, client.stage.queue ∉ queues)
    (hjobs : ∀ queue ∈ queues, session.heap.jobsOf queue = []) : session.Nameable queues [] where
  jobs := by
    intro queue hqueue job hjob
    rw [hjobs queue hqueue] at hjob
    exact absurd hjob List.not_mem_nil
  stages := by
    intro stage hstage hqueue
    obtain ⟨client, hclient, rfl⟩ := List.mem_map.1 hstage
    exact absurd hqueue (hidle client hclient)

/-- Handles go on naming what they name if nothing new is referred to. -/
theorem of_subset {more : List Stage} (hnameable : session.Nameable queues flight)
    (hregistry : after.registry = session.registry)
    (hjobs : ∀ queue, after.heap.jobsOf queue ⊆ session.heap.jobsOf queue)
    (hstages : after.stages more ⊆ session.stages flight) : after.Nameable queues more where
  jobs := fun queue hqueue job hjob id hid ↦
    hregistry ▸ hnameable.jobs queue hqueue job (hjobs queue hjob) id hid
  stages := fun stage hstage hqueue id hid ↦
    hregistry ▸ hnameable.stages stage (hstages hstage) hqueue id hid

/-- An operation begins to wait for what handles name. -/
theorem demand (hnameable : session.Nameable queues [])
    (hnames : ∀ id ∈ stage.references, session.registry.Names id) :
    session.Nameable queues [stage] where
  jobs := hnameable.jobs
  stages := by
    intro other hother hqueue id hid
    rcases List.mem_cons.1 hother with rfl | hold
    · exact .inl (hnames id hid)
    · exact hnameable.stages other hold hqueue id hid

/-- A launch begins to wait, with a future that has no handle yet. -/
theorem launch (hnameable : session.Nameable queues []) (horder : session.heap.Ordered)
    (hnames : ∀ held ∈ id :: job.holds, session.registry.Names held) :
    (session.place (.future (.cell .pending))).1.Nameable queues
      [.room id { job with future := some session.heap.next }] where
  jobs := by
    intro queue hqueue other hother
    rw [jobsOf_congr (hostQueue?_place horder .pending queue)] at hother
    exact hnameable.jobs queue hqueue other hother
  stages := by
    intro other hother hqueue held hheld
    rcases List.mem_cons.1 hother with rfl | hold
    · rcases List.mem_cons.1 hheld with rfl | hheld
      · exact .inl (hnames held List.mem_cons_self)
      · rcases List.mem_cons.1 hheld with rfl | hheld
        · exact .inr rfl
        · exact .inl (hnames held (List.mem_cons_of_mem _ hheld))
    · exact hnameable.stages other hold hqueue held hheld

/-- What an accepted job refers to is named: its future has got a handle. -/
theorem enlist (hnameable : session.Nameable queues [.room id job])
    (hqueue : session.heap.hostQueue? id = some queue) :
    (session.enlist id queue job).1.Nameable queues [] where
  jobs := by
    intro target htarget other hother held hheld
    have hold (hmem : other ∈ session.heap.jobsOf target) :
        (session.enlist id queue job).1.registry.Names held :=
      names_enlist (hnameable.jobs target htarget other hmem held hheld) id queue job
    by_cases hid : target = id
    · rw [hid, heap_enlist, jobsOf_modifyQueue hqueue] at hother
      rcases List.mem_append.1 hother with hmem | hnew
      · refine hold ?_
        rw [hid, jobsOf, hqueue]
        exact hmem
      · obtain rfl := List.mem_singleton.1 hnew
        rcases hnameable.stages (.room id other) List.mem_cons_self (hid ▸ htarget) held
          (List.mem_cons_of_mem _ hheld) with hnames | hfuture
        · exact names_enlist hnames id queue other
        · rw [registry_enlist, show other.future = some held from hfuture]
          exact ⟨_, List.mem_cons_self, rfl⟩
    · refine hold ?_
      rwa [heap_enlist, jobsOf, hostQueue?_modifyQueue, if_neg hid] at hother
  stages := by
    intro stage hstage htarget held hheld
    unfold Session.stages at hstage
    rw [waiting_enlist] at hstage
    exact (hnameable.stages stage (List.mem_cons_of_mem _ hstage) htarget held hheld).imp_left
      fun hnames ↦ names_enlist hnames id queue job

/-- A queue that is drained has the jobs it had. -/
theorem drain (hnameable : session.Nameable queues (stage :: flight))
    (hqueue : session.heap.hostQueue? id = some queue) :
    (session.drain id {}).Nameable queues flight := by
  refine hnameable.of_subset rfl (fun target job hjob ↦ ?_) (List.subset_cons_self _ _)
  have hheap : (session.drain id {}).heap = session.heap.modifyQueue id
      ({ · with progress := {} }) := rfl
  rw [hheap] at hjob
  by_cases hid : target = id
  · rw [hid, jobsOf_modifyQueue hqueue] at hjob
    rw [hid, jobsOf, hqueue]
    exact hjob
  · rw [jobsOf, hostQueue?_modifyQueue, if_neg hid] at hjob
    exact hjob

/-- A queue that retires a job has its other jobs left. -/
theorem retire {rest : List Job} (hnameable : session.Nameable queues flight)
    (hqueue : session.heap.hostQueue? id = some queue) (hjobs : queue.jobs = job :: rest)
    (failure : Option Failure) :
    (session.retire id queue job rest failure).Nameable queues flight := by
  have hsettled := hostQueue?_settled session.heap job failure
  refine hnameable.of_subset rfl (fun target other hother ↦ ?_) (List.Subset.refl _)
  have hheap : (session.retire id queue job rest failure).heap =
      (settled session.heap job failure).modifyQueue id
        ({ · with progress := (queue.progress.finish failure).1, jobs := rest }) := rfl
  rw [hheap] at hother
  by_cases hid : target = id
  · rw [hid, jobsOf_modifyQueue ((hsettled id).trans hqueue)] at hother
    rw [hid, jobsOf, hqueue]
    show other ∈ queue.jobs
    rw [hjobs]
    exact List.mem_cons_of_mem _ hother
  · rw [jobsOf, hostQueue?_modifyQueue, if_neg hid, hsettled] at hother
    exact hother

end Nameable

/-! ## Operations without a collection -/

/-- A job is one of a certain queue, or it stays as long as other queues do. -/
theorem mem_jobsOf_or_mem_jobs {before after : Heap} (hbefore : before.Ordered)
    (hafter : after.Ordered)
    (hothers : ∀ other, other ≠ id → after.hostQueue? other = before.hostQueue? other)
    (hjob : job ∈ before.jobs) : job ∈ before.jobsOf id ∨ job ∈ after.jobs := by
  obtain ⟨target, found, hfound, hmem⟩ := (mem_jobs_iff hbefore).1 hjob
  by_cases hid : target = id
  · left
    rw [← hid, jobsOf, hfound]
    exact hmem
  · exact .inr ((mem_jobs_iff hafter).2 ⟨target, found, (hothers target hid).trans hfound, hmem⟩)

/-- As long as handles name what the jobs of a queue refer to, it makes no difference to a tidy heap
which of them there are. -/
theorem tidy_of_nameable {more : List Stage} (hkept : session.Kept flight)
    (hnameable : session.Nameable queues flight) (hmem : id ∈ queues)
    (hnumbered : after.registry.Ordered) (halike : Alike session.heap after.heap)
    (hothers : ∀ other, other ≠ id → after.heap.hostQueue? other = session.heap.hostQueue? other)
    (hrefers : ∀ id, Refers session.registry (session.stages flight) id →
      Refers after.registry (after.stages more) id) :
    Tidy after.registry (after.stages more) after.heap := by
  have horder := hkept.rooted.ordered
  apply Tidy.of_alike hkept.tidy halike
  intro root hroot
  rw [mem_anchors_iff hkept.rooted.numbered] at hroot
  rw [mem_anchors_iff hnumbered]
  rcases hroot with hroot | ⟨job, hjob, hreferred⟩
  · exact .inl (hrefers root hroot)
  · rcases mem_jobsOf_or_mem_jobs horder (halike.ordered horder) hothers hjob with hown | hstays
    · have hnames := hnameable.jobs id hmem job hown root hreferred
      exact .inl (hrefers root (refers_of_names hkept.rooted.numbered hnames _))
    · exact .inr ⟨job, hstays, hreferred⟩

/-- A session in which a queue has accepted a job has nothing to collect. -/
theorem kept_enlist (hkept : session.Kept [.room id job])
    (hnameable : session.Nameable queues [.room id job]) (hmem : id ∈ queues)
    (hnames : session.registry.Names id) (hqueue : session.heap.hostQueue? id = some queue)
    (hroom : queue.progress.pending < queue.capacity) :
    (session.enlist id queue job).1.Kept [] := by
  have hsound := hkept.toSound
  have hjob := (hsound.rooted.supported (.room id job) List.mem_cons_self).2
  have halike := alike_modifyQueue session.heap id
    (fun _ ↦ { queue.progress with pending := queue.progress.pending + 1 })
    (fun queue ↦ queue.jobs ++ [job])
  have henlistted : (session.enlist id queue job).1.Sound
      [.discarded id (session.enlist id queue job).2] :=
    sound_deliver (hjob.transfer fun other _ ↦ halike.carries other)
      fun outcome ↦ sound_accept hsound hqueue hroom
  have hnumbered := henlistted.rooted.numbered
  have hnamed {named : ObjectId} (hnamed : session.registry.Names named) :
      Refers (session.enlist id queue job).1.registry ((session.enlist id queue job).1.stages [])
        named :=
    refers_of_names hnumbered (names_enlist hnamed id queue job) _
  refine ⟨sound_part henlistted (refersTo_of_names (names_enlist hnames id queue job)), ?_⟩
  refine tidy_of_nameable hkept hnameable hmem hnumbered
    (heap_enlist session id queue job ▸ halike) (fun other hother ↦ ?_) ?_
  · rw [heap_enlist, hostQueue?_modifyQueue, if_neg hother]
  rintro other (⟨handle, slot, hslot, rfl⟩ | ⟨stage, hstage, hreferred⟩)
  · exact hnamed (Registry.names_of_get? hslot)
  · rcases List.mem_cons.1 hstage with rfl | hwaiting
    · rcases hnameable.stages (.room id job) List.mem_cons_self hmem other hreferred with
        hother | hfuture
      · exact hnamed hother
      · refine refers_of_names hnumbered ?_ _
        rw [registry_enlist, show job.future = some other from hfuture]
        exact ⟨_, List.mem_cons_self, rfl⟩
    · unfold Session.stages
      rw [waiting_enlist]
      exact .inr ⟨stage, hwaiting, hreferred⟩

/-- A session in which a queue has been drained has nothing to collect. -/
theorem kept_drain (hkept : session.Kept [.drained id])
    (hnameable : session.Nameable queues [.drained id]) (hmem : id ∈ queues)
    (hnames : session.registry.Names id) (hqueue : session.heap.hostQueue? id = some queue)
    (hidle : queue.progress.pending = 0) : (session.drain id {}).Kept [] := by
  have hdrained := sound_drain hkept.toSound hqueue hidle
  have hnumbered := hdrained.rooted.numbered
  have hnamed : ∀ other ∈ (Stage.drained id).references,
      Refers session.registry (session.stages []) other := by
    intro other hother
    obtain rfl := List.mem_singleton.1 hother
    exact refers_of_names hnumbered hnames _
  refine ⟨⟨hdrained.rooted.drop fun other hother _ _ _ ↦ hnamed other hother, hdrained.tracked,
    hdrained.loaded⟩, ?_⟩
  refine tidy_of_nameable hkept hnameable hmem hnumbered
    (alike_modifyQueue session.heap id (fun _ ↦ {}) (·.jobs)) (fun other hother ↦ ?_) ?_
  · exact (hostQueue?_modifyQueue _ _ _ _).trans (if_neg hother)
  rintro other (hhandle | ⟨stage, hstage, hreferred⟩)
  · exact .inl hhandle
  · rcases List.mem_cons.1 hstage with rfl | hwaiting
    · exact hnamed other hreferred
    · exact .inr ⟨stage, hwaiting, hreferred⟩

/-- A client whose operation ends as soon as it goes on ends it without a collection, or waits on.
-/
theorem pursue_ending
    (hends : ∀ {after progressed}, session.advance? stage = some (after, progressed) →
      after.Kept [] ∧ ∃ outcome, progressed = .ended outcome) :
    (session.advance? stage = none ∧
        session.pursue (.waits stage) = (session, .waits stage)) ∨
      ∃ after outcome, session.advance? stage = some (after, .ended outcome) ∧
        session.pursue (.waits stage) = (after, .ended outcome) := by
  rcases session.pursue_cases (.waits stage) with ⟨outcome, hended, -⟩ | ⟨found, hstage, hcases⟩
  · exact absurd hended (by simp)
  · obtain rfl := Progressed.waits.inj hstage
    rcases hcases with hnone | ⟨after, outcome, hadvance, hpursue⟩ | ⟨middle, last, hadvance, -⟩
    · exact .inl hnone
    · rw [(hends hadvance).1.collect_eq_self] at hpursue
      exact .inr ⟨after, outcome, hadvance, hpursue⟩
    · obtain ⟨-, outcome, hended⟩ := hends hadvance
      exact absurd hended (by simp)

/-- A client that waits for room goes on when there is some, and otherwise waits on. -/
theorem pursue_room (hkept : session.Kept [.room id job])
    (hnameable : session.Nameable queues [.room id job]) (hmem : id ∈ queues)
    (hnames : session.registry.Names id) :
    (session.advance? (.room id job) = none ∧
        session.pursue (.waits (.room id job)) = (session, .waits (.room id job))) ∨
      ∃ queue, session.heap.hostQueue? id = some queue ∧ queue.progress.pending < queue.capacity ∧
        session.pursue (.waits (.room id job)) =
          ((session.enlist id queue job).1, .ended (session.enlist id queue job).2) := by
  have henlists {after : Session} {progressed : Progressed}
      (hadvance : session.advance? (.room id job) = some (after, progressed)) :
      ∃ queue, session.heap.hostQueue? id = some queue ∧
        queue.progress.pending < queue.capacity ∧ after = (session.enlist id queue job).1 ∧
        progressed = .ended (session.enlist id queue job).2 := by
    obtain ⟨queue, hqueue, hroom, hresult⟩ := advance?_room hadvance
    have hrefers : (session.enlist id queue job).1.refersTo id = true :=
      refersTo_of_names (names_enlist hnames id queue job)
    have hleave := Errand.leave_of_refersTo hrefers (session.enlist id queue job).2
    have henlistted := hresult.trans hleave
    exact ⟨queue, hqueue, hroom, congrArg Prod.fst henlistted, congrArg Prod.snd henlistted⟩
  refine (pursue_ending fun hadvance ↦ ?_).imp_right ?_
  · obtain ⟨queue, hqueue, hroom, rfl, hended⟩ := henlists hadvance
    exact ⟨kept_enlist hkept hnameable hmem hnames hqueue hroom, _, hended⟩
  · rintro ⟨after, outcome, hadvance, hpursue⟩
    obtain ⟨queue, hqueue, hroom, rfl, hended⟩ := henlists hadvance
    exact ⟨queue, hqueue, hroom, hended ▸ hpursue⟩

/-- A client that drains a queue goes on when nothing is pending, and otherwise waits on. -/
theorem pursue_drained (hkept : session.Kept [.drained id])
    (hnameable : session.Nameable queues [.drained id]) (hmem : id ∈ queues)
    (hnames : session.registry.Names id) :
    (session.advance? (.drained id) = none ∧
        session.pursue (.waits (.drained id)) = (session, .waits (.drained id))) ∨
      ∃ queue, session.heap.hostQueue? id = some queue ∧ queue.progress.pending = 0 ∧
        session.pursue (.waits (.drained id)) =
          (session.drain id {}, .ended (drainOutcome queue.progress.failure)) := by
  have hdrains {after : Session} {progressed : Progressed}
      (hadvance : session.advance? (.drained id) = some (after, progressed)) :
      ∃ queue, session.heap.hostQueue? id = some queue ∧ queue.progress.pending = 0 ∧
        after = session.drain id {} ∧
        progressed = .ended (drainOutcome queue.progress.failure) := by
    obtain ⟨queue, hqueue, hidle, hresult⟩ := advance?_drained hadvance
    have hrefers : (session.drain id {}).refersTo id = true := refersTo_of_names hnames
    have hdrained := hresult.trans (Errand.leave_of_refersTo hrefers _)
    exact ⟨queue, hqueue, hidle, congrArg Prod.fst hdrained, congrArg Prod.snd hdrained⟩
  refine (pursue_ending fun hadvance ↦ ?_).imp_right ?_
  · obtain ⟨queue, hqueue, hidle, rfl, hended⟩ := hdrains hadvance
    exact ⟨kept_drain hkept hnameable hmem hnames hqueue hidle, _, hended⟩
  · rintro ⟨after, outcome, hadvance, hpursue⟩
    obtain ⟨queue, hqueue, hidle, rfl, hended⟩ := hdrains hadvance
    exact ⟨queue, hqueue, hidle, hended ▸ hpursue⟩

/-- A worker that has run a job changes the host state, the future of the job and its queue, and
nothing else. -/
theorem work_changes (hkept : session.Kept []) (hnameable : session.Nameable queues [])
    (hmem : id ∈ queues) (hwork : session.work? platform id = some after) :
    ∃ queue job rest host failure, session.heap.hostQueue? id = some queue ∧
      queue.jobs = job :: rest ∧ job.Runs platform.routine session.host host failure ∧
      after.heap = (settled session.heap job failure).modifyQueue id
        ({ · with progress := (queue.progress.finish failure).1, jobs := rest }) ∧
      after.registry = session.registry ∧ after.waiting = session.waiting.map (·.wake id) ∧
      after.host = host.keepStatics session.heap.files ∧ after.Nameable queues [] := by
  obtain ⟨queue, job, rest, host, failure, hqueue, hjobs, hruns, retired, hheap, hregistry,
    hwaiting, hhost, hrooted, -, hafter⟩ := work_retires hkept hwork
  have halike : Alike session.heap retired.heap := by
    rw [hheap]
    exact (alike_settled session.heap job failure).trans (alike_modifyQueue _ id _ _)
  have hstages : retired.stages [] = session.stages [] := by
    unfold Session.stages
    rw [hwaiting]
  have htidy : Tidy retired.registry (retired.stages []) retired.heap := by
    refine tidy_of_nameable hkept hnameable hmem hrooted.numbered halike (fun other hother ↦ ?_)
      fun other hrefers ↦ ?_
    · rw [hheap, hostQueue?_modifyQueue, if_neg hother, hostQueue?_settled]
    · rw [hregistry, hstages]
      exact hrefers
  rw [collect_of_tidy hrooted.sound.layered htidy] at hafter
  refine ⟨queue, job, rest, host, failure, hqueue, hjobs, hruns, ?_, ?_, ?_, ?_, ?_⟩
  · rw [hafter]
    exact hheap
  · rw [hafter]
    exact hregistry
  · rw [hafter, ← hwaiting]
    rfl
  · rw [hafter, halike.files_eq, ← hhost]
    rfl
  · have hretired := hnameable.retire hqueue hjobs failure
    refine hretired.of_subset ?_ (fun target ↦ ?_) ?_
    · rw [hafter]
      exact hregistry
    · rw [hafter]
      show retired.heap.jobsOf target ⊆ _
      rw [hheap]
      exact List.Subset.refl _
    · rw [hafter, stages_wake]
      show retired.stages [] ⊆ session.stages []
      rw [hstages]
      exact List.Subset.refl _

end Session

end Offload
