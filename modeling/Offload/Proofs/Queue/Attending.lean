import Offload.Proofs.Queue.CatchingUp

/-!
# Waiting makes no difference

When a client of a queue gets what it has waited for, the errand has come to what an immediate run
does at once: its job is accepted behind the ones that are still to be caught up with, or the queue
is empty and gives up its failure.
-/

namespace Offload

open Heap

variable {platform : Platform} {routine : Entry → Routine} {files : List String} {job : Job}
  {jobs : List Job} {stages flight : List Stage} {id : ObjectId}

theorem Session.refersTo_of_names {session : Session} (hnames : session.registry.Names id) :
    session.refersTo id = true := by
  obtain ⟨slot, hslot, rfl⟩ := hnames
  unfold refersTo
  rw [Bool.or_eq_true, List.any_eq_true]
  exact .inl ⟨slot, hslot, beq_self_eq_true _⟩

namespace Errand

variable {errand : Errand} {base : Immediate} {after : Session}

/-- A client gets the same handle for the future of its job. -/
theorem deliver_same (hsame : Immediate.Same files (errand.caughtUp routine id) base)
    (hfuture : ∀ future, job.future = some future →
      ∃ object, errand.session.heap.get? future = some object) :
    Immediate.Same files
        ({ errand with session := (errand.session.deliver job).1 }.caughtUp routine id)
        { base with session := (base.session.deliver job).1 } ∧
      (errand.session.deliver job).2 = (base.session.deliver job).2 := by
  have hregistry := registry_eq hsame
  unfold Session.deliver
  cases hjob : job.future with
  | none => exact ⟨hsame, rfl⟩
  | some future =>
    obtain ⟨object, hget⟩ := hfuture future hjob
    constructor
    · refine handles_same (errand.session.expose .future future).1
        (base.session.expose .future future).1 hsame ?_ ?_ rfl rfl rfl rfl
      · show (errand.session.registry.register .future future).1 =
          (base.session.registry.register .future future).1
        rw [hregistry]
      · intro handle slot hslot
        change (Table.insert errand.session.registry _).1.get? handle = some slot at hslot
        rw [Table.get?_insert] at hslot
        split at hslot
        · obtain rfl := Option.some.inj hslot
          obtain ⟨other, hother, -⟩ := (Immediate.alike_executeAll (errand.asIs id)
            (errand.session.heap.jobsOf id)).get?_eq_some hget
          exact ⟨other, hother⟩
        · exact hsame.exposed (registry_caughtUp errand id ▸ hslot)
    · show (.ok (.handle errand.session.registry.next) : Outcome) =
        .ok (.handle base.session.registry.next)
      rw [hregistry]

/-! ## Moving on -/

/-- A queue may change without being seen to, apart from the failure it has recorded. -/
theorem modifyQueue_same (errand : Errand)
    (hrooted : Rooted errand.session.registry stages errand.session.heap)
    (hgate : errand.session.host.gateOpen = true) (queue : ObjectId)
    {change : HostQueue → HostQueue} (hdevice : ∀ queue, (change queue).device = queue.device)
    (hregistry : after.registry = errand.session.registry)
    (hheap : after.heap = errand.session.heap.modifyQueue queue change)
    (hhost : after.host = errand.session.host) :
    Immediate.Same files ({ errand with session := after }.asIs id)
      { errand.asIs id with failure := after.heap.failureOf id } := by
  have hshows := shows_modifyQueue errand.session.heap queue hdevice
  rw [← hheap] at hshows
  exact asIs_same errand after id hrooted hgate hregistry (by rw [hheap]; rfl) hshows.1
    hshows.2 hhost

/-- A job that is accepted is caught up with last. -/
theorem accept_same (hlocal : ∀ entry, (routine entry).Local entry.file?)
    (hsound : errand.session.Sound [.room id job]) (hgate : errand.session.host.gateOpen = true)
    (hsame : Immediate.Same errand.session.heap.files (errand.caughtUp routine id) base)
    {queue : HostQueue} (hqueue : errand.session.heap.hostQueue? id = some queue) :
    Immediate.Same errand.session.heap.files
      ({ errand with
          session := errand.session.accept id
            { queue.progress with pending := queue.progress.pending + 1 } job }.caughtUp routine id)
      (base.execute routine job) := by
  have hjob := hsound.rooted.sound.within
    (hsound.rooted.supported (.room id job) List.mem_cons_self).2
  have hfailure : errand.session.heap.failureOf id = queue.progress.failure := by
    rw [failureOf, hqueue, Option.bind_some]
  have hjobs : errand.session.heap.jobsOf id = queue.jobs := by
    rw [jobsOf, hqueue]
  have haccept : Immediate.Same errand.session.heap.files
      ({ errand with
          session := errand.session.accept id
            { queue.progress with pending := queue.progress.pending + 1 } job }.asIs id)
      { errand.asIs id with failure := _ } :=
    modifyQueue_same errand hsound.rooted hgate id
      (fun _ ↦ rfl : ∀ found : HostQueue, ({ found with
        progress := { queue.progress with pending := queue.progress.pending + 1 }
        jobs := found.jobs ++ [job] } : HostQueue).device = found.device) rfl rfl rfl
  have hkeeps : (errand.session.accept id { queue.progress with
      pending := queue.progress.pending + 1 } job).heap.failureOf id =
        errand.session.heap.failureOf id := (failureOf_modifyQueue hqueue).trans hfailure.symm
  rw [hkeeps] at haccept
  have hcaught := (haccept.executeAll hlocal hsound.within_jobsOf).trans hsame
  have hexecute := hcaught.execute hlocal hjob
  rw [hjobs, ← Immediate.executeAll_concat] at hexecute
  have hmore : (errand.session.accept id
      { queue.progress with pending := queue.progress.pending + 1 } job).heap.jobsOf id =
        queue.jobs ++ [job] := jobsOf_modifyQueue hqueue
  unfold caughtUp
  rw [hmore]
  exact hexecute

/-- A client that is given a handle keeps the ones it has. -/
theorem refersTo_deliver {session : Session} (hrefers : session.refersTo id = true) (job : Job) :
    (session.deliver job).1.refersTo id = true := by
  unfold Session.deliver
  split
  · exact hrefers
  · next future _ =>
    have hvalues : (session.expose .future future).1.registry.values =
        ⟨1, .future, future⟩ :: session.registry.values := rfl
    have hwaiting : (session.expose .future future).1.waiting = session.waiting := rfl
    unfold Session.refersTo at hrefers ⊢
    rw [hvalues, hwaiting, List.any_cons, Bool.or_assoc, hrefers, Bool.or_true]

/-- A queue that is referred to is left at once. -/
theorem leave_of_refersTo {session : Session} (hrefers : session.refersTo id = true)
    (outcome : Outcome) : session.leave id outcome = (session, .ended outcome) := by
  unfold Session.leave
  rw [if_pos hrefers]

/-- A client that finds room leads an errand to what an immediate run comes to at once. -/
theorem room_same (hlocal : ∀ entry, (routine entry).Local entry.file?)
    (hsound : errand.session.Sound [.room id job]) (hgate : errand.session.host.gateOpen = true)
    (hrefers : errand.session.refersTo id = true)
    (hsame : Immediate.Same errand.session.heap.files (errand.caughtUp routine id) base)
    {progressed : Progressed}
    (hadvance : errand.session.advance? (.room id job) = some (after, progressed)) :
    Immediate.Same errand.session.heap.files ({ errand with session := after }.caughtUp routine id)
        (base.attend routine id (.room id job)).1 ∧
      progressed = .ended (base.attend routine id (.room id job)).2 := by
  obtain ⟨queue, hqueue, -, hresult⟩ := Session.advance?_room hadvance
  have hkept : (errand.session.accept id
      { queue.progress with pending := queue.progress.pending + 1 } job).refersTo id = true := hrefers
  rw [leave_of_refersTo (refersTo_deliver hkept job)] at hresult
  have hafter : after = (Session.deliver _ job).1 := congrArg Prod.fst hresult
  have hprogressed : progressed = .ended _ := congrArg Prod.snd hresult
  have hfuture : ∀ future, job.future = some future → ∃ object,
      (errand.session.accept id { queue.progress with pending := queue.progress.pending + 1 }
        job).heap.get? future = some object := by
    intro future hjob
    obtain ⟨state, hget⟩ :=
      (hsound.rooted.supported (.room id job) List.mem_cons_self).2.future future hjob
    have halike := alike_modifyQueue errand.session.heap id
      (fun _ ↦ { queue.progress with pending := queue.progress.pending + 1 })
      (fun queue ↦ queue.jobs ++ [job])
    obtain ⟨other, hother, -⟩ := halike.get?_eq_some hget
    exact ⟨other, hother⟩
  have haccept := accept_same hlocal hsound hgate hsame hqueue
  obtain ⟨hdeliver, houtcome⟩ := deliver_same haccept hfuture
  rw [hafter, hprogressed]
  exact ⟨hdeliver, congrArg Progressed.ended houtcome⟩

/-- A queue that is drained has nothing to catch up with, and gives up its failure. -/
theorem drain_same (hsound : errand.session.Sound flight)
    (hgate : errand.session.host.gateOpen = true)
    (hsame : Immediate.Same files (errand.caughtUp routine id) base) {queue : HostQueue}
    (hqueue : errand.session.heap.hostQueue? id = some queue)
    (hidle : queue.progress.pending = 0) (hregistry : after.registry = errand.session.registry)
    (hheap : after.heap = (errand.session.drain id {}).heap)
    (hhost : after.host = errand.session.host) :
    after.heap.jobsOf id = [] ∧
      Immediate.Same files ({ errand with session := after }.caughtUp routine id)
        { base with failure := none } ∧
      queue.progress.failure = base.failure := by
  have hjobs : errand.session.heap.jobsOf id = [] := by
    rw [jobsOf, hqueue]
    exact List.length_eq_zero_iff.1 ((hsound.rooted.sound.queues hqueue).pending ▸ hidle)
  have hleft : after.heap.jobsOf id = [] := by
    rw [hheap]
    refine (jobsOf_modifyQueue hqueue).trans ?_
    rw [jobsOf, hqueue] at hjobs
    exact hjobs
  have hnone : after.heap.failureOf id = none := by
    rw [hheap]
    exact failureOf_modifyQueue hqueue
  have hdevice : ∀ found : HostQueue, ({ found with progress := {} } : HostQueue).device =
      found.device := fun _ ↦ rfl
  have hdrain : Immediate.Same files ({ errand with session := after }.asIs id)
      { errand.asIs id with failure := after.heap.failureOf id } :=
    modifyQueue_same errand hsound.rooted hgate id hdevice hregistry hheap hhost
  unfold caughtUp at hsame ⊢
  rw [hjobs] at hsame
  refine ⟨hleft, ?_, ?_⟩
  · rw [hleft]
    rw [hnone] at hdrain
    have hcleared : Immediate.Same files { errand.asIs id with failure := none }
        { base with failure := none } := { hsame with failure := rfl }
    exact hdrain.trans hcleared
  · have hfailure := hsame.failure
    rw [← hfailure]
    show _ = errand.session.heap.failureOf id
    rw [failureOf, hqueue, Option.bind_some]

/-- A queue of its own is all an errand depends on. -/
theorem drain_other_same (hlocal : ∀ entry, (routine entry).Local entry.file?)
    (hsound : errand.session.Sound flight) (hgate : errand.session.host.gateOpen = true)
    {queue : ObjectId} (hother : queue ≠ id) {progress : Progress}
    (hregistry : after.registry = errand.session.registry)
    (hheap : after.heap = (errand.session.drain queue progress).heap)
    (hhost : after.host = errand.session.host) :
    Immediate.Same errand.session.heap.files
      ({ errand with session := after }.caughtUp routine id) (errand.caughtUp routine id) := by
  have hqueues : after.heap.hostQueue? id = errand.session.heap.hostQueue? id := by
    rw [hheap]
    show Heap.hostQueue? (Heap.modifyQueue _ _ _) id = _
    rw [hostQueue?_modifyQueue, if_neg (Ne.symm hother)]
  have hdevice : ∀ found : HostQueue, ({ found with progress } : HostQueue).device =
      found.device := fun _ ↦ rfl
  have hdrain : Immediate.Same errand.session.heap.files
      ({ errand with session := after }.asIs id)
      { errand.asIs id with failure := after.heap.failureOf id } :=
    modifyQueue_same errand hsound.rooted hgate queue hdevice hregistry hheap hhost
  have hfailure : after.heap.failureOf id = errand.session.heap.failureOf id := by
    unfold failureOf
    rw [hqueues]
  rw [hfailure] at hdrain
  apply caughtUp_same hlocal hdrain
  · unfold jobsOf
    rw [hqueues]
  · exact hsound.within_jobsOf

/-- What a client waits for: for a queue it still has a handle of, or for any queue it has given
up. -/
def Awaits (registry : Registry ObjectId) (id : ObjectId) : Stage → Prop
  | .room queue _ | .drained queue => queue = id ∧ registry.Names id
  | .discarded _ _ => True

/-- A client that gets what it waits for leads an errand to what an immediate run comes to at
once. -/
theorem advance_same (hlocal : ∀ entry, (routine entry).Local entry.file?) {stage : Stage}
    (hsound : errand.session.Sound [stage]) (hgate : errand.session.host.gateOpen = true)
    (hawaits : Awaits errand.session.registry id stage)
    (hsame : Immediate.Same errand.session.heap.files (errand.caughtUp routine id) base)
    {progressed : Progressed}
    (hadvance : errand.session.advance? stage = some (after, progressed)) :
    Immediate.Same errand.session.heap.files ({ errand with session := after }.caughtUp routine id)
        (base.attend routine id stage).1 ∧
      progressed = .ended (base.attend routine id stage).2 ∧
      (stage = .drained id → after.heap.jobsOf id = []) := by
  cases stage with
  | room queue job =>
    obtain ⟨rfl, hnames⟩ := hawaits
    obtain ⟨hroom, hprogressed⟩ := room_same hlocal hsound hgate
      (Session.refersTo_of_names hnames) hsame hadvance
    exact ⟨hroom, hprogressed, fun heq ↦ absurd heq (by simp)⟩
  | drained queue =>
    obtain ⟨rfl, hnames⟩ := hawaits
    obtain ⟨ordered, hqueue, hidle, hresult⟩ := Session.advance?_drained hadvance
    have hkept : (errand.session.drain queue {}).refersTo queue = true :=
      Session.refersTo_of_names hnames
    rw [leave_of_refersTo hkept] at hresult
    have hafter : after = errand.session.drain queue {} := congrArg Prod.fst hresult
    have hprogressed : progressed = .ended _ := congrArg Prod.snd hresult
    have hregistry : after.registry = errand.session.registry := by rw [hafter]; rfl
    have hhost : after.host = errand.session.host := by rw [hafter]; rfl
    obtain ⟨hjobs, hdrain, hfailure⟩ := drain_same hsound hgate hsame hqueue hidle hregistry
      (hafter ▸ rfl) hhost
    rw [hprogressed, hfailure]
    exact ⟨hdrain, rfl, fun _ ↦ hjobs⟩
  | discarded queue outcome =>
    obtain ⟨ordered, hqueue, hidle, hafter, hprogressed⟩ := Session.advance?_discarded hadvance
    refine ⟨?_, hprogressed, fun heq ↦ absurd heq (by simp)⟩
    have hregistry : after.registry = errand.session.registry := by rw [hafter]; rfl
    have hheap : after.heap = (errand.session.drain queue {}).heap := by rw [hafter]; rfl
    have hhost : after.host = errand.session.host := by rw [hafter]; rfl
    by_cases hown : queue = id
    · rw [hown] at hqueue hheap
      simp only [Immediate.attend, if_pos hown]
      exact (drain_same hsound hgate hsame hqueue hidle hregistry hheap hhost).2.1
    · simp only [Immediate.attend, if_neg hown]
      exact (drain_other_same hlocal hsound hgate hown hregistry hheap hhost).trans hsame

/-- An operation that comes to its end leads an errand to what an immediate run comes to at once.
One that does not has changed nothing. -/
theorem pursue_same (errand : Errand) (hlocal : ∀ entry, (routine entry).Local entry.file?)
    {progressed : Progressed} (hsteady : errand.session.Steady progressed)
    (hgate : errand.session.host.gateOpen = true)
    (hawaits : ∀ stage, progressed = .waits stage → Awaits errand.session.registry id stage)
    (hsame : Immediate.Same errand.session.heap.files (errand.caughtUp routine id) base) :
    (∃ stage, progressed = .waits stage ∧ errand.session.advance? stage = none ∧
        errand.session.pursue progressed = (errand.session, .waits stage)) ∨
      ∃ after, errand.session.pursue progressed =
          (after, .ended (base.follow routine id progressed).2) ∧
        Immediate.Same after.heap.files ({ errand with session := after }.caughtUp routine id)
          (base.follow routine id progressed).1 ∧
        (progressed = .waits (.drained id) → after.heap.jobsOf id = []) := by
  rcases errand.session.pursue_cases progressed with ⟨outcome, rfl, hpursue⟩ |
    ⟨stage, rfl, hcases⟩
  · right
    refine ⟨_, hpursue, ?_, fun heq ↦ absurd heq (by simp)⟩
    have hrooted := hsteady.sound.rooted
    have hcollect := collect_same errand id hlocal hrooted hsteady.sound.tracked hgate
    exact hcollect.trans (hsame.mono (files_collect_subset hrooted.sound.layered _))
  · have hawaits := hawaits stage rfl
    have hmoved {after : Session} {last : Progressed}
        (hadvance : errand.session.advance? stage = some (after, last)) :=
      advance_same hlocal hsteady.sound hgate hawaits hsame hadvance
    rcases hcases with ⟨hnone, hpursue⟩ | ⟨after, outcome, hadvance, hpursue⟩ |
      ⟨middle, last, hadvance, -⟩
    · exact .inl ⟨stage, rfl, hnone, hpursue⟩
    · right
      obtain ⟨hafter, hended, hidle⟩ := hmoved hadvance
      have houtcome : outcome = (base.attend routine id stage).2 := Progressed.ended.inj hended
      have hsteadyAfter := hsteady.advance hadvance
      have hrooted := hsteadyAfter.sound.rooted
      have hopen : after.host.gateOpen = true := by
        rw [Session.host_advance hadvance]
        exact hgate
      have hfiles : after.heap.files = errand.session.heap.files := by
        obtain ⟨progress, jobs, hheap⟩ := Session.heap_advance hadvance
        rw [hheap]
        exact (alike_modifyQueue _ _ progress jobs).files_eq.symm
      have hcollect := collect_same { errand with session := after } id hlocal hrooted
        hsteadyAfter.sound.tracked hopen
      have hsub := files_collect_subset hrooted.sound.layered after.roots
      rw [hfiles] at hsub
      refine ⟨_, houtcome ▸ hpursue, hcollect.trans (hafter.mono hsub), ?_⟩
      intro hdrained
      rw [((Session.aside_collect hrooted id).jobsOf_eq hrooted.sound).1]
      exact hidle (Progressed.waits.inj hdrained)
    · obtain ⟨-, hended, -⟩ := hmoved hadvance
      exact absurd hended (by simp)

end Errand

end Offload
