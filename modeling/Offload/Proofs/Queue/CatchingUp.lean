import Offload.Proofs.Queue.Agreement
import Offload.Proofs.Queue.Run

/-!
# Catching up with a queue

An errand catches up when the jobs that are still in its queue are executed at once. What the
worker, a collection or the end of a command does to an errand then makes no difference: the errand
that has caught up looks the same before and after.
-/

namespace Offload

open Heap

variable {routine : Entry → Routine} {files more : List String} {job : Job} {jobs : List Job}

namespace Immediate

/-- Two runs with the same handles, host state, recorded failure, calls and sights. Everything
on the left is on the right as well; the right one may keep more. -/
structure Same (files : List String) (left right : Immediate) : Prop where
  registry : left.session.registry = right.session.registry
  next : left.session.heap.next = right.session.heap.next
  /-- The objects of handles are there. -/
  exposed : ∀ {handle slot}, left.session.registry.get? handle = some slot →
    ∃ object, left.session.heap.get? slot.object = some object
  shows : left.session.heap.Shows right.session.heap
  host : left.session.host.Agree files right.session.host
  gateOpen : left.session.host.gateOpen = true
  failure : left.failure = right.failure
  entered : left.entered = right.entered
  seen : left.seen = right.seen

variable {left right last state : Immediate}

theorem Same.trans (hfirst : Same files left right) (hsecond : Same files right last) :
    Same files left last where
  registry := hfirst.registry.trans hsecond.registry
  next := hfirst.next.trans hsecond.next
  exposed := hfirst.exposed
  shows := Heap.Shows.trans hfirst.shows hsecond.shows
  host := hfirst.host.trans hsecond.host
  gateOpen := hfirst.gateOpen
  failure := hfirst.failure.trans hsecond.failure
  entered := hfirst.entered.trans hsecond.entered
  seen := hfirst.seen.trans hsecond.seen

theorem Same.mono (hsub : files ⊆ more) (hsame : Same more left right) : Same files left right :=
  { hsame with host := hsame.host.mono hsub }

/-! ## Executing jobs -/

theorem alike_conclude (state : Immediate) (job : Job) (host : HostState)
    (failure : Option Failure) :
    Alike state.session.heap (state.conclude job host failure).session.heap :=
  Session.alike_settled _ _ _

theorem shows_settled {left right : Heap} (hshows : left.Shows right) (job : Job)
    (failure : Option Failure) :
    (Session.settled left job failure).Shows (Session.settled right job failure) := by
  unfold Session.settled
  split
  · exact hshows
  · exact hshows.settleFuture _ _

theorem Same.conclude {first second : HostState} (hsame : Same files left right) (job : Job)
    (hgate : first.gateOpen = true) (hagree : first.Agree files second)
    (failure : Option Failure) :
    Same files (left.conclude job first failure) (right.conclude job second failure) where
  registry := hsame.registry
  next := by
    rw [← (alike_conclude left job first failure).next,
      ← (alike_conclude right job second failure).next, hsame.next]
  exposed := by
    intro handle slot hslot
    obtain ⟨object, hget⟩ := hsame.exposed hslot
    obtain ⟨other, hother, -⟩ := (alike_conclude left job first failure).get?_eq_some hget
    exact ⟨other, hother⟩
  shows := shows_settled hsame.shows job failure
  host := hagree
  gateOpen := hgate
  failure := congrArg (·.or failure) hsame.failure
  entered := congrArg (· ++ job.work.entered) hsame.entered
  seen := hsame.seen

/-- Executing a job keeps two runs in agreement. -/
theorem Same.execute (hlocal : ∀ entry, (routine entry).Local entry.file?)
    (hsame : Same files left right) (hjob : job.Within files) :
    Same files (left.execute routine job) (right.execute routine job) := by
  have hrun := Job.run_agree hlocal hjob hsame.gateOpen hsame.host
  unfold Immediate.execute
  cases hleft : job.work.run routine job.operation left.session.host <;>
    cases hright : job.work.run routine job.operation right.session.host <;>
    rw [hleft, hright] at hrun
  case done.done => exact hsame.conclude job hrun.1 hrun.2 none
  case failed.failed =>
    obtain ⟨rfl, hopen, hafter⟩ := hrun
    exact hsame.conclude job hopen hafter _
  all_goals exact hrun.elim

/-- Executes some jobs, oldest first. -/
def executeAll (routine : Entry → Routine) (jobs : List Job) (state : Immediate) : Immediate :=
  jobs.foldl (execute routine) state

theorem executeAll_concat (jobs : List Job) (job : Job) (state : Immediate) :
    executeAll routine (jobs ++ [job]) state =
      (executeAll routine jobs state).execute routine job := by
  unfold executeAll
  rw [List.foldl_append]
  rfl

theorem Same.executeAll (hlocal : ∀ entry, (routine entry).Local entry.file?)
    (hsame : Same files left right) (hjobs : ∀ job ∈ jobs, job.Within files) :
    Same files (left.executeAll routine jobs) (right.executeAll routine jobs) := by
  induction jobs generalizing left right with
  | nil => exact hsame
  | cons job rest ih =>
    apply ih
    · exact hsame.execute hlocal (hjobs job List.mem_cons_self)
    · exact fun other hother ↦ hjobs other (List.mem_cons_of_mem _ hother)

/-! ## What jobs leave alone -/

theorem alike_execute (state : Immediate) (job : Job) :
    Alike state.session.heap (state.execute routine job).session.heap := by
  unfold execute
  split
  · exact alike_conclude _ _ _ _
  · exact alike_conclude _ _ _ _
  · exact Alike.refl _

theorem alike_executeAll (state : Immediate) (jobs : List Job) :
    Alike state.session.heap (state.executeAll routine jobs).session.heap := by
  induction jobs generalizing state with
  | nil => exact Alike.refl _
  | cons job rest ih => exact (alike_execute state job).trans (ih _)

theorem registry_executeAll (state : Immediate) (jobs : List Job) :
    (state.executeAll routine jobs).session.registry = state.session.registry := by
  induction jobs generalizing state with
  | nil => rfl
  | cons job rest ih =>
    refine (ih (state.execute routine job)).trans ?_
    unfold execute
    split <;> rfl

/-- A run put into another session, with other sights. Its objects and the host state stay. -/
def recast (state : Immediate) (session : Session) (seen : List Sight) : Immediate :=
  { state with
    session := { session with heap := state.session.heap, host := state.session.host }
    seen }

theorem execute_recast (state : Immediate) (job : Job) (session : Session) (seen : List Sight) :
    (state.recast session seen).execute routine job =
      (state.execute routine job).recast session seen := by
  have hhost : (state.recast session seen).session.host = state.session.host := rfl
  unfold execute
  rw [hhost]
  cases job.work.run routine job.operation state.session.host <;> rfl

/-- Jobs look at nothing but the objects and the host state. -/
theorem executeAll_recast (state : Immediate) (jobs : List Job) (session : Session)
    (seen : List Sight) :
    (state.recast session seen).executeAll routine jobs =
      (state.executeAll routine jobs).recast session seen := by
  induction jobs generalizing state with
  | nil => rfl
  | cons job rest ih =>
    show ((state.recast session seen).execute routine job).executeAll routine rest = _
    rw [execute_recast, ih]
    rfl

end Immediate

/-! ## Errands that catch up -/

/-- The jobs in a queue, oldest first. -/
def Heap.jobsOf (heap : Heap) (id : ObjectId) : List Job :=
  match heap.hostQueue? id with
  | none => []
  | some queue => queue.jobs

/-- The failure a queue has recorded. -/
def Heap.failureOf (heap : Heap) (id : ObjectId) : Option Failure :=
  (heap.hostQueue? id).bind (·.progress.failure)

/-- A queue keeps a failure if it has kept none before. -/
theorem Progress.failure_finish (progress : Progress) (failure : Option Failure) :
    (progress.finish failure).1.failure = progress.failure.or failure := by
  unfold finish
  cases progress.failure <;> rfl

theorem Heap.jobsOf_modifyQueue {heap : Heap} {id : ObjectId} {queue : HostQueue}
    {change : HostQueue → HostQueue} (hqueue : heap.hostQueue? id = some queue) :
    (heap.modifyQueue id change).jobsOf id = (change queue).jobs := by
  rw [jobsOf, hostQueue?_modifyQueue, if_pos rfl, hqueue]
  rfl

theorem Heap.failureOf_modifyQueue {heap : Heap} {id : ObjectId} {queue : HostQueue}
    {change : HostQueue → HostQueue} (hqueue : heap.hostQueue? id = some queue) :
    (heap.modifyQueue id change).failureOf id = (change queue).progress.failure := by
  rw [failureOf, hostQueue?_modifyQueue, if_pos rfl, hqueue]
  rfl

namespace Errand

variable {errand : Errand} {id : ObjectId} {session after : Session}

/-- An errand as it is, without the jobs that are still in its queue. -/
def asIs (errand : Errand) (id : ObjectId) : Immediate where
  session := errand.session
  failure := errand.session.heap.failureOf id
  entered := errand.entered
  seen := errand.seen

/-- An errand whose queue has executed all its jobs. -/
def caughtUp (routine : Entry → Routine) (id : ObjectId) (errand : Errand) : Immediate :=
  (errand.asIs id).executeAll routine (errand.session.heap.jobsOf id)

theorem registry_caughtUp (errand : Errand) (id : ObjectId) :
    (errand.caughtUp routine id).session.registry = errand.session.registry :=
  Immediate.registry_executeAll _ _

/-- An errand and an immediate run that look the same have the same handles. -/
theorem registry_eq {base : Immediate}
    (hsame : Immediate.Same files (errand.caughtUp routine id) base) :
    errand.session.registry = base.session.registry :=
  (registry_caughtUp errand id).symm.trans hsame.registry

/-- An errand put into another session comes to the same, put into that session. -/
theorem caughtUp_recast (errand : Errand) (id : ObjectId) {session : Session} (seen : List Sight)
    (hheap : session.heap = errand.session.heap) (hhost : session.host = errand.session.host) :
    { errand with session, seen }.caughtUp routine id =
      (errand.caughtUp routine id).recast session seen := by
  have hasIs : { errand with session, seen }.asIs id = (errand.asIs id).recast session seen := by
    unfold asIs Immediate.recast
    simp only [hheap, ← hhost]
    rw [← hheap]
  unfold caughtUp
  rw [hasIs, Immediate.executeAll_recast]
  show ((errand.asIs id).executeAll routine (session.heap.jobsOf id)).recast session seen = _
  rw [hheap]

theorem seen_eq {base : Immediate} (hsame : Immediate.Same files (errand.caughtUp routine id) base) :
    errand.seen = base.seen := by
  have hcaught : (errand.caughtUp routine id).seen = errand.seen :=
    congrArg Immediate.seen (caughtUp_recast errand id errand.seen rfl rfl)
  exact hcaught.symm.trans hsame.seen

/-- Both sides may be put into sessions with the same handles, if the objects of these are there,
and may have seen the same more. -/
theorem recast_same {base : Immediate} (first second : Session) (seen : List Sight)
    (hsame : Immediate.Same files (errand.caughtUp routine id) base)
    (hregistry : first.registry = second.registry)
    (hexposed : ∀ {handle slot}, first.registry.get? handle = some slot →
      ∃ object, (errand.caughtUp routine id).session.heap.get? slot.object = some object)
    (hheap : first.heap = errand.session.heap) (hhost : first.host = errand.session.host)
    (hbaseHeap : second.heap = base.session.heap) (hbaseHost : second.host = base.session.host) :
    Immediate.Same files ({ errand with session := first, seen }.caughtUp routine id)
      { base with session := second, seen } := by
  rw [caughtUp_recast errand id seen hheap hhost]
  constructor
  case registry => exact hregistry
  case next => exact hbaseHeap ▸ hsame.next
  case exposed => exact hexposed
  case shows => exact hbaseHeap ▸ hsame.shows
  case host => exact hbaseHost ▸ hsame.host
  case gateOpen => exact hsame.gateOpen
  case failure => exact hsame.failure
  case entered => exact hsame.entered
  case seen => rfl

/-- Both sides may be given the same handles, if the objects of these are there. -/
theorem handles_same {base : Immediate} (first second : Session)
    (hsame : Immediate.Same files (errand.caughtUp routine id) base)
    (hregistry : first.registry = second.registry)
    (hexposed : ∀ {handle slot}, first.registry.get? handle = some slot →
      ∃ object, (errand.caughtUp routine id).session.heap.get? slot.object = some object)
    (hheap : first.heap = errand.session.heap) (hhost : first.host = errand.session.host)
    (hbaseHeap : second.heap = base.session.heap) (hbaseHost : second.host = base.session.host) :
    Immediate.Same files ({ errand with session := first }.caughtUp routine id)
      { base with session := second } := by
  have hrecast := recast_same first second errand.seen hsame hregistry hexposed hheap hhost
    hbaseHeap hbaseHost
  have hbase : ({ base with session := second, seen := errand.seen } : Immediate) =
      { base with session := second } := by
    rw [seen_eq hsame]
  rw [hbase] at hrecast
  exact hrecast

/-- The clients, the settings and the journal make no difference to what an errand comes to. -/
theorem congr_same {base : Immediate} (after : Session)
    (hsame : Immediate.Same files (errand.caughtUp routine id) base)
    (hregistry : after.registry = errand.session.registry)
    (hheap : after.heap = errand.session.heap) (hhost : after.host = errand.session.host) :
    Immediate.Same files ({ errand with session := after }.caughtUp routine id) base := by
  refine handles_same after base.session hsame (hregistry.trans (registry_eq hsame)) ?_ hheap hhost
    rfl rfl
  intro handle slot hslot
  rw [hregistry, ← registry_caughtUp errand id] at hslot
  exact hsame.exposed hslot

/-- What does not change how an errand looks and keeps its jobs changes nothing about what it comes
to. -/
theorem caughtUp_same (hlocal : ∀ entry, (routine entry).Local entry.file?) {other : Errand}
    (hsame : Immediate.Same files (other.asIs id) (errand.asIs id))
    (hjobs : other.session.heap.jobsOf id = errand.session.heap.jobsOf id)
    (hwithin : ∀ job ∈ errand.session.heap.jobsOf id, job.Within files) :
    Immediate.Same files (other.caughtUp routine id) (errand.caughtUp routine id) := by
  unfold caughtUp
  rw [hjobs]
  exact hsame.executeAll hlocal hwithin

end Errand

namespace Session

variable {session after : Session} {id : ObjectId} {flight : List Stage}

/-- The libraries that the jobs of a queue enter are loaded. -/
theorem Sound.within_jobsOf (hsound : session.Sound flight) :
    ∀ job ∈ session.heap.jobsOf id, job.Within session.heap.files := by
  intro job hjob
  unfold Heap.jobsOf at hjob
  split at hjob
  · exact absurd hjob List.not_mem_nil
  · next queue hqueue =>
    exact hsound.rooted.sound.within ((hsound.rooted.sound.queues hqueue).jobs job hjob)

/-- A queue that is left aside keeps its jobs and its failure. -/
theorem Aside.jobsOf_eq (haside : Aside id session after) (hsound : session.heap.Sound) :
    after.heap.jobsOf id = session.heap.jobsOf id ∧
      after.heap.failureOf id = session.heap.failureOf id := by
  unfold Heap.jobsOf Heap.failureOf
  rcases haside with hsame | ⟨⟨queue, hqueue, hprogress⟩, hgone⟩
  · rw [hsame]
    exact ⟨rfl, rfl⟩
  · have hpending := (hsound.queues hqueue).pending
    rw [hprogress] at hpending
    rw [hgone, hqueue]
    refine ⟨(List.length_eq_zero_iff.1 hpending.symm).symm, ?_⟩
    rw [Option.bind_some, hprogress]
    rfl

end Session

namespace Errand

variable {errand : Errand} {id : ObjectId} {session after : Session} {stages flight : List Stage}

/-- A change of the heap that can only be seen from the failure its queue has recorded. -/
theorem asIs_same (errand : Errand) (after : Session) (id : ObjectId)
    (hrooted : Rooted errand.session.registry stages errand.session.heap)
    (hgate : errand.session.host.gateOpen = true)
    (hregistry : after.registry = errand.session.registry)
    (hnext : after.heap.next = errand.session.heap.next)
    (hthere : errand.session.heap.Shows after.heap) (hshows : after.heap.Shows errand.session.heap)
    (hhost : after.host = errand.session.host) :
    Immediate.Same files ({ errand with session := after }.asIs id)
      { errand.asIs id with failure := after.heap.failureOf id } where
  registry := hregistry
  next := hnext
  exposed := by
    intro handle slot hslot
    obtain ⟨object, hget, -⟩ := hrooted.exposed (hregistry ▸ hslot)
    obtain ⟨other, hother, -⟩ := hthere _ _ hget
    exact ⟨other, hother⟩
  shows := hshows
  host := hhost.symm ▸ HostState.Agree.refl files after.host
  gateOpen := hhost.symm ▸ hgate
  failure := rfl
  entered := rfl
  seen := rfl

/-- A collection makes no difference to what an errand comes to. -/
theorem collect_same (errand : Errand) (id : ObjectId)
    (hlocal : ∀ entry, (routine entry).Local entry.file?)
    (hrooted : Rooted errand.session.registry (errand.session.stages []) errand.session.heap)
    (htracked : errand.session.heap.Tracked) (hgate : errand.session.host.gateOpen = true) :
    Immediate.Same errand.session.collect.heap.files
      ({ errand with session := errand.session.collect }.caughtUp routine id)
      (errand.caughtUp routine id) := by
  have hkept := Session.kept_collect hrooted htracked
  obtain ⟨hjobs, hfailure⟩ :=
    (Session.aside_collect hrooted id).jobsOf_eq hrooted.sound
  apply caughtUp_same hlocal
  · constructor
    case registry => rfl
    case next => exact next_collect _ _
    case exposed =>
      intro handle slot hslot
      obtain ⟨object, hget, -⟩ := hkept.rooted.exposed hslot
      exact ⟨object, hget⟩
    case shows => exact shows_collect hrooted.sound.layered _
    case host => exact HostState.agree_keepStatics _ _
    case gateOpen => exact hgate
    case failure => exact hfailure
    case entered => rfl
    case seen => rfl
  · exact hjobs
  · rw [← hjobs]
    exact hkept.toSound.within_jobsOf

/-- Executing a job as its runs go. -/
theorem execute_of_runs {state : Immediate} {host : HostState} {failure : Option Failure}
    (hruns : job.Runs routine state.session.host host failure) :
    state.execute routine job = state.conclude job host failure := by
  unfold Job.Runs at hruns
  unfold Immediate.execute
  rw [hruns]
  cases failure <;> rfl

/-- A job leaves the gate open that it finds open. -/
theorem gateOpen_of_runs (hlocal : ∀ entry, (routine entry).Local entry.file?)
    (hjob : job.Within files) {before host : HostState} {failure : Option Failure}
    (hgate : before.gateOpen = true) (hruns : job.Runs routine before host failure) :
    host.gateOpen = true := by
  have hagree := Job.run_agree hlocal hjob hgate (HostState.Agree.refl files before)
  unfold Job.Runs at hruns
  rw [hruns] at hagree
  cases failure with
  | none => exact hagree.1
  | some failure => exact hagree.2.1

/-- A queue that has retired a job looks as if the job had been executed. -/
theorem retire_same {retired : Session} {ordered : HostQueue} {rest : List Job} {host : HostState}
    {failure : Option Failure}
    (hrooted : Rooted errand.session.registry (errand.session.stages []) errand.session.heap)
    (hqueue : errand.session.heap.hostQueue? id = some ordered)
    (hheap : retired.heap = (Session.settled errand.session.heap job failure).modifyQueue id
      ({ · with progress := (ordered.progress.finish failure).1, jobs := rest }))
    (hregistry : retired.registry = errand.session.registry) (hhost : retired.host = host)
    (hgate : host.gateOpen = true) :
    Immediate.Same files
      ({ errand with
          session := retired
          entered := errand.entered ++ job.work.entered }.asIs id)
      ((errand.asIs id).conclude job host failure) := by
  have hsettled := Session.alike_settled errand.session.heap job failure
  have hdevice : ∀ queue : HostQueue, ({ queue with
      progress := (ordered.progress.finish failure).1, jobs := rest } : HostQueue).device =
        queue.device := fun _ ↦ rfl
  have hshows := shows_modifyQueue (Session.settled errand.session.heap job failure) id hdevice
  rw [← hheap] at hshows
  constructor
  case registry => exact hregistry
  case next =>
    show retired.heap.next = _
    rw [hheap]
    rfl
  case exposed =>
    intro handle slot hslot
    obtain ⟨object, hget, -⟩ := hrooted.exposed (hregistry ▸ hslot)
    obtain ⟨other, hother, -⟩ := hsettled.get?_eq_some hget
    obtain ⟨found, hfound, -⟩ := hshows.1 _ _ hother
    exact ⟨found, hfound⟩
  case shows => exact hshows.2
  case host => exact hhost ▸ HostState.Agree.refl _ _
  case gateOpen => exact hhost.symm ▸ hgate
  case failure =>
    have hsame := Session.hostQueue?_settled errand.session.heap job failure id
    show retired.heap.failureOf id = (errand.session.heap.failureOf id).or failure
    rw [hheap, failureOf_modifyQueue (hsame.trans hqueue), failureOf, hqueue, Option.bind_some]
    exact Progress.failure_finish _ _
  case entered => rfl
  case seen => rfl

/-- A worker that runs a job does what the errand had to catch up with. -/
theorem work_same {platform : Platform}
    (hlocal : ∀ entry, (platform.routine entry).Local entry.file?)
    (hkept : errand.session.Kept []) (hgate : errand.session.host.gateOpen = true)
    {ordered : HostQueue} {rest : List Job}
    (hqueue : errand.session.heap.hostQueue? id = some ordered)
    (hjobs : ordered.jobs = job :: rest)
    (hwork : errand.session.work? platform id = some after) {base : Immediate}
    (hsame : Immediate.Same errand.session.heap.files (errand.caughtUp platform.routine id) base) :
    after.host.gateOpen = true ∧
      Immediate.Same after.heap.files
        ({ errand with
            session := after
            entered := errand.entered ++ job.work.entered }.caughtUp platform.routine id) base := by
  obtain ⟨found, other, others, host, failure, hfound, hothers, hruns, retired, hheap, hregistry, -,
    hhost, hrooted, htracked, hafter⟩ := Session.work_retires hkept hwork
  rw [hqueue] at hfound
  obtain rfl := Option.some.inj hfound
  obtain ⟨rfl, rfl⟩ := List.cons.inj (hjobs.symm.trans hothers)
  have hwithin : ∀ job ∈ errand.session.heap.jobsOf id, job.Within errand.session.heap.files :=
    hkept.toSound.within_jobsOf
  have hjobsOf : errand.session.heap.jobsOf id = job :: rest := by
    rw [Heap.jobsOf, hqueue]
    exact hjobs
  have hopen := gateOpen_of_runs hlocal (hwithin job (hjobsOf ▸ List.mem_cons_self)) hgate hruns
  have hgate' : retired.host.gateOpen = true := hhost ▸ hopen
  have hcatch : Immediate.Same errand.session.heap.files
      ({ errand with
          session := retired
          entered := errand.entered ++ job.work.entered }.caughtUp platform.routine id)
      (errand.caughtUp platform.routine id) := by
    have hrest : retired.heap.jobsOf id = rest := by
      rw [hheap]
      exact jobsOf_modifyQueue (Session.hostQueue?_settled _ _ _ _ ▸ hqueue)
    have hretire : Immediate.Same errand.session.heap.files _
        ((errand.asIs id).conclude job host failure) :=
      retire_same hkept.rooted hqueue hheap hregistry hhost hopen
    unfold caughtUp
    rw [hjobsOf]
    show Immediate.Same _ (Immediate.executeAll _ (retired.heap.jobsOf id) _)
      (((errand.asIs id).execute platform.routine job).executeAll platform.routine rest)
    rw [hrest, execute_of_runs hruns]
    apply hretire.executeAll hlocal
    exact fun other hother ↦ hwithin other (hjobsOf ▸ List.mem_cons_of_mem _ hother)
  have hcollect := collect_same
    { errand with session := retired, entered := errand.entered ++ job.work.entered } id
    hlocal hrooted htracked hgate'
  have hfiles : retired.collect.heap.files ⊆ errand.session.heap.files := by
    have hretiredFiles : retired.heap.files = errand.session.heap.files := by
      rw [hheap]
      exact ((Session.alike_settled errand.session.heap job failure).trans
        (alike_modifyQueue _ id _ _)).files_eq.symm
    rw [← hretiredFiles]
    exact files_collect_subset hrooted.sound.layered _
  rw [hafter]
  exact ⟨hgate', congr_same (retired.collect.wake id)
    (hcollect.trans ((hcatch.trans hsame).mono hfiles)) rfl rfl rfl⟩

end Errand

end Offload
