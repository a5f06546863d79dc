import Offload.Proofs.Queue.Growing

/-!
# What a queue owes to an account

A queue owes to an account the jobs it has accepted and not run: once they have run, the host state,
the failure it has recorded and the futures of its launches are what the account says. The debt is a
matter of the queue, its futures and its territory alone, so what leaves these as they are leaves
the debt as it is. Accepting a job adds to it what running the job adds to the account, and running
a job pays it back.
-/

namespace Offload

open Heap

variable {routine : Entry → Routine} {territory : Territory} {session after : Session}
  {id : ObjectId} {claims : List ObjectId} {balance : Balance} {job : Job} {queue : HostQueue}

namespace Session

/-- How a queue stands with an account. The launches that it has accepted have the futures `claims`,
in this order. The first ones of them have ended, with `endings`; those of its jobs are pending. -/
structure Owing (routine : Entry → Routine) (territory : Territory) (session : Session)
    (id : ObjectId) (claims : List ObjectId) (balance : Balance) (queue : HostQueue)
    (past : List ObjectId) (endings : List FutureState) : Prop where
  found : session.heap.hostQueue? id = some queue
  launched : claims = past ++ queue.jobs.filterMap (·.future)
  ended : past.map session.heap.future? = endings.map fun ending ↦ some (.cell ending)
  pending : ∀ job ∈ queue.jobs, ∀ future, job.future = some future →
    session.heap.future? future = some (.cell .pending)
  keep : ∀ job ∈ queue.jobs, job.KeepsTo routine territory
  same : Balance.Same territory
    (Balance.runAll routine ⟨session.host, queue.progress.failure, endings⟩ queue.jobs) balance

/-- A queue that comes to what an account says once its jobs have run. -/
def Owes (routine : Entry → Routine) (territory : Territory) (session : Session) (id : ObjectId)
    (claims : List ObjectId) (balance : Balance) : Prop :=
  ∃ queue past endings, session.Owing routine territory id claims balance queue past endings

/-- What leaves a queue, its futures and its territory as they are. -/
structure Leaves (territory : Territory) (id : ObjectId) (claims : List ObjectId)
    (before after : Session) : Prop where
  queue : after.heap.hostQueue? id = before.heap.hostQueue? id
  futures : ∀ future ∈ claims, after.heap.future? future = before.heap.future? future
  host : territory.Agree after.host before.host

theorem Leaves.of_eq (hheap : after.heap = session.heap) (hhost : after.host = session.host) :
    Leaves territory id claims session after :=
  ⟨by rw [hheap], fun _ _ ↦ by rw [hheap], hhost ▸ .refl territory after.host⟩

namespace Owes

/-- A queue without jobs owes nothing. -/
theorem start (hqueue : session.heap.hostQueue? id = some queue) (hjobs : queue.jobs = [])
    (hgate : session.host.gateOpen = territory.gateOpen) :
    session.Owes routine territory id [] ⟨session.host, queue.progress.failure, []⟩ := by
  refine ⟨queue, [], [], hqueue, ?_, rfl, ?_, ?_, ?_⟩
  · rw [hjobs]
    rfl
  · simp [hjobs]
  · simp [hjobs]
  · rw [hjobs]
    exact ⟨.refl territory _, hgate, rfl, rfl⟩

/-- The futures of accepted launches are there. -/
theorem future (howes : session.Owes routine territory id claims balance) {future : ObjectId}
    (hmem : future ∈ claims) : ∃ state, session.heap.future? future = some (.cell state) := by
  obtain ⟨queue, past, endings, howing⟩ := howes
  rw [howing.launched] at hmem
  rcases List.mem_append.1 hmem with hsettled | hqueued
  · have hstate : session.heap.future? future ∈ past.map session.heap.future? :=
      List.mem_map_of_mem hsettled
    rw [howing.ended] at hstate
    obtain ⟨ending, -, hending⟩ := List.mem_map.1 hstate
    exact ⟨ending, hending.symm⟩
  · obtain ⟨job, hjob, hfuture⟩ := List.mem_filterMap.1 hqueued
    exact ⟨.pending, howing.pending job hjob future hfuture⟩

/-- A debt is a matter of the queue, its futures and its territory. -/
theorem leave (howes : session.Owes routine territory id claims balance)
    (hgate : session.host.gateOpen = territory.gateOpen)
    (hleaves : Leaves territory id claims session after) :
    after.Owes routine territory id claims balance := by
  obtain ⟨queue, past, endings, howing⟩ := howes
  have hclaims {future : ObjectId} (hmem : future ∈ past ++ queue.jobs.filterMap (·.future)) :
      after.heap.future? future = session.heap.future? future :=
    hleaves.futures future (howing.launched ▸ hmem)
  refine ⟨queue, past, endings, hleaves.queue.trans howing.found, howing.launched, ?_, ?_,
    howing.keep, ?_⟩
  · rw [← howing.ended]
    exact List.map_congr_left fun future hmem ↦ hclaims (List.mem_append_left _ hmem)
  · intro job hjob future hfuture
    rw [hclaims (List.mem_append_right _ (List.mem_filterMap.2 ⟨job, hjob, hfuture⟩))]
    exact howing.pending job hjob future hfuture
  · have hhost : Balance.Same territory
        ⟨after.host, queue.progress.failure, endings⟩
        ⟨session.host, queue.progress.failure, endings⟩ :=
      ⟨hleaves.host, hleaves.host.gate.trans hgate, rfl, rfl⟩
    exact (hhost.runAll howing.keep).trans howing.same

/-- A job that is accepted adds to the debt what it adds to the account. -/
theorem enlist (howes : session.Owes routine territory id claims balance)
    (hqueue : session.heap.hostQueue? id = some queue) (hjob : job.KeepsTo routine territory)
    (hfuture : ∀ future, job.future = some future →
      session.heap.future? future = some (.cell .pending)) :
    (session.enlist id queue job).1.Owes routine territory id (claims ++ job.future.toList)
      (balance.run routine job) := by
  obtain ⟨found, past, endings, howing⟩ := howes
  obtain rfl := Option.some.inj (howing.found.symm.trans hqueue)
  have hfutures (future : ObjectId) : (session.enlist id found job).1.heap.future? future =
      session.heap.future? future := by
    rw [heap_enlist]
    exact future?_modifyQueue _ _ _ _
  refine ⟨{ found with
    progress := { found.progress with pending := found.progress.pending + 1 }
    jobs := found.jobs ++ [job] }, past, endings, ?_, ?_, ?_, ?_, ?_, ?_⟩
  · rw [heap_enlist, hostQueue?_modifyQueue, if_pos rfl, hqueue]
    rfl
  · rw [howing.launched, List.filterMap_append, List.append_assoc]
    cases hown : job.future <;> simp [hown]
  · rw [← howing.ended]
    exact List.map_congr_left fun future _ ↦ hfutures future
  · intro other hother future hsome
    rw [hfutures]
    rcases List.mem_append.1 hother with hold | hnew
    · exact howing.pending other hold future hsome
    · exact hfuture future (List.mem_singleton.1 hnew ▸ hsome)
  · intro other hother
    rcases List.mem_append.1 hother with hold | hnew
    · exact howing.keep other hold
    · exact List.mem_singleton.1 hnew ▸ hjob
  · rw [host_enlist, Balance.runAll_concat]
    exact howing.same.run hjob

/-- A queue with nothing pending owes nothing, and the failure it gives up is that of the account.
-/
theorem drain (howes : session.Owes routine territory id claims balance)
    (hqueue : session.heap.hostQueue? id = some queue) (hjobs : queue.jobs = []) :
    (session.drain id {}).Owes routine territory id claims { balance with failure := none } ∧
      queue.progress.failure = balance.failure := by
  obtain ⟨found, past, endings, howing⟩ := howes
  obtain rfl := Option.some.inj (howing.found.symm.trans hqueue)
  have hfutures (future : ObjectId) : (session.drain id {}).heap.future? future =
      session.heap.future? future := future?_modifyQueue _ _ _ _
  have hsame := howing.same
  rw [hjobs] at hsame
  refine ⟨⟨{ found with progress := {} }, past, endings, ?_, howing.launched, ?_, ?_, howing.keep,
    ?_⟩, hsame.failure⟩
  · show (session.heap.modifyQueue id _).hostQueue? id = _
    rw [hostQueue?_modifyQueue, if_pos rfl, hqueue]
    rfl
  · rw [← howing.ended]
    exact List.map_congr_left fun future _ ↦ hfutures future
  · exact fun job hjob future hfuture ↦ (hfutures future).trans
      (howing.pending job hjob future hfuture)
  · rw [hjobs]
    exact { hsame with failure := rfl }

end Owes

/-- Only the future of the job that has ended is settled. -/
theorem future?_settled_of_ne {heap : Heap} {future : ObjectId}
    (hother : job.future ≠ some future) (failure : Option Failure) :
    (settled heap job failure).future? future = heap.future? future := by
  unfold settled
  split
  · rfl
  · next own hown =>
    have hne : future ≠ own := fun hsame ↦ hother (hsame ▸ hown)
    rw [future?_settleFuture, if_neg hne]

theorem future?_settled_self {heap : Heap} {future : ObjectId} (hfuture : job.future = some future)
    (hpending : heap.future? future = some (.cell .pending)) (failure : Option Failure) :
    (settled heap job failure).future? future = some (.cell (futureOutcome failure)) := by
  unfold settled
  rw [hfuture]
  simp only [future?_settleFuture, if_pos, hpending]
  rfl

/-- A queue that has run its oldest job still comes to what the account says. -/
theorem Owes.work {rest : List Job} {host : HostState} {failure : Option Failure}
    (howes : session.Owes routine territory id claims balance) (hdistinct : claims.Nodup)
    (hgate : session.host.gateOpen = territory.gateOpen)
    (hqueue : session.heap.hostQueue? id = some queue) (hjobs : queue.jobs = job :: rest)
    (hruns : job.Runs routine session.host host failure)
    (hheap : after.heap = (settled session.heap job failure).modifyQueue id
      ({ · with progress := (queue.progress.finish failure).1, jobs := rest }))
    (hhost : territory.Agree after.host host) :
    after.Owes routine territory id claims balance := by
  obtain ⟨found, past, endings, howing⟩ := howes
  obtain rfl := Option.some.inj (howing.found.symm.trans hqueue)
  have hjob : job ∈ found.jobs := hjobs ▸ List.mem_cons_self
  have hrest {other : Job} (hother : other ∈ rest) : other ∈ found.jobs :=
    hjobs ▸ List.mem_cons_of_mem _ hother
  have hlaunched : claims = past ++ job.future.toList ++ rest.filterMap (·.future) := by
    rw [howing.launched, hjobs, List.append_assoc]
    cases hown : job.future <;> simp [hown]
  rw [hlaunched, List.nodup_append] at hdistinct
  obtain ⟨hended, -, hqueued⟩ := hdistinct
  rw [List.nodup_append] at hended
  have hfuture (future : ObjectId) : after.heap.future? future =
      (settled session.heap job failure).future? future := by
    rw [hheap]
    exact future?_modifyQueue _ _ _ _
  refine ⟨{ found with progress := (found.progress.finish failure).1, jobs := rest },
    past ++ job.future.toList,
    endings ++ (job.future.map fun _ ↦ futureOutcome failure).toList, ?_, hlaunched, ?_, ?_, ?_, ?_⟩
  · rw [hheap, hostQueue?_modifyQueue, if_pos rfl, hostQueue?_settled, hqueue]
    rfl
  · rw [List.map_append, List.map_append, ← howing.ended]
    congr 1
    · refine List.map_congr_left fun future hmem ↦ ?_
      rw [hfuture, future?_settled_of_ne]
      intro hown
      exact hended.2.2 future hmem future (by simp [hown]) rfl
    · cases hown : job.future with
      | none => rfl
      | some own =>
        have hpending := howing.pending job hjob own hown
        simp [hfuture, future?_settled_self hown hpending]
  · intro other hother future hsome
    rw [hfuture, future?_settled_of_ne]
    · exact howing.pending other (hrest hother) future hsome
    · intro hown
      refine hqueued future (by simp [hown]) future ?_ rfl
      exact List.mem_filterMap.2 ⟨other, hother, hsome⟩
  · exact fun other hother ↦ howing.keep other (hrest hother)
  · -- The account has the oldest job run first, so it may as well begin after it.
    have hsame := howing.same
    rw [hjobs, Balance.runAll, List.foldl_cons, Balance.run_eq hruns] at hsame
    have hafter : host.gateOpen = territory.gateOpen :=
      ((howing.keep job hjob).spares hgate hruns).gate.trans hgate
    have hretired : Balance.Same territory
        ⟨after.host, (found.progress.finish failure).1.failure,
          endings ++ (job.future.map fun _ ↦ futureOutcome failure).toList⟩
        (Balance.conclude ⟨session.host, found.progress.failure, endings⟩ job host failure) :=
      ⟨hhost, hhost.gate.trans hafter, Progress.failure_finish _ _, rfl⟩
    exact (hretired.runAll fun other hother ↦ howing.keep other (hrest hother)).trans hsame

/-- Once a queue has run its jobs, its launches have ended and the host state is as the account
says. -/
theorem Owes.paid (howes : session.Owes routine territory id claims balance)
    (hjobs : session.heap.jobsOf id = []) :
    claims.map session.heap.future? = balance.endings.map (fun ending ↦ some (.cell ending)) ∧
      territory.Agree session.host balance.host := by
  obtain ⟨queue, past, endings, howing⟩ := howes
  rw [Heap.jobsOf, howing.found] at hjobs
  have hnothing : queue.jobs = [] := hjobs
  have hsame := howing.same
  rw [hnothing] at hsame
  have hendings : endings = balance.endings := hsame.endings
  rw [howing.launched, hnothing, ← hendings, ← howing.ended]
  exact ⟨by simp, hsame.host⟩

end Session

end Offload
