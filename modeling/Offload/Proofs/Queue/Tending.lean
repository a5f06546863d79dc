import Offload.Proofs.Queue.Debts

/-!
# What using a queue leaves alone

A client that gives commands on a queue and the worker of that queue change the queue, the futures
of its launches and the territory of its jobs. All else they leave alone: other queues and futures,
what is outside the territory, clients that wait for other queues, and the answers clients have got.
-/

namespace Offload.Session

open Heap

variable {program : Program} {platform : Platform} {territory : Territory}
  {session before middle after : Session} {id : ObjectId} {own : List ObjectId} {job : Job}
  {queues : List ObjectId} {queue : HostQueue} {ticket : Ticket} {progressed : Progressed}
  {client : Waiting}

/-- What the use of a queue leaves alone. `own` are the futures of its launches so far. -/
structure Tends (territory : Territory) (id : ObjectId) (own : List ObjectId)
    (before after : Session) : Prop where
  grows : before.Grows after
  queues : ∀ other, other ≠ id → after.heap.hostQueue? other = before.heap.hostQueue? other
  futures : ∀ future, future ∉ own → ∀ state, before.heap.future? future = some state →
    after.heap.future? future = some state
  host : territory.Spares before.host after.host
  waiting : ∀ client ∈ before.waiting, client.stage.queue ≠ id →
    ∃ other ∈ after.waiting, claim other = claim client
  answers : before.answers <+: after.answers
  tickets : before.nextTicket ≤ after.nextTicket

/-- A client that waits for the same as another one, under the same ticket. -/
theorem claim_eq_iff {other : Waiting} : claim other = claim client ↔
    other.ticket = client.ticket ∧ other.manner = client.manner ∧ other.stage = client.stage := by
  simp [claim]

/-! ## New futures -/

theorem future?_place {future : ObjectId} {found : Future} (horder : session.heap.Ordered)
    (state : FutureState) (hold : session.heap.future? future = some found) :
    (session.place (.future (.cell state))).1.heap.future? future = some found := by
  show future? (session.heap.insert _).1 future = _
  rw [future?_insert, if_neg (Nat.ne_of_lt (horder.lt_next (future?_eq_some.1 hold))), hold]

namespace Tends

theorem trans (hfirst : Tends territory id own before middle)
    (hsecond : Tends territory id own middle after) : Tends territory id own before after where
  grows := hfirst.grows.trans hsecond.grows
  queues := fun other hother ↦ (hsecond.queues other hother).trans (hfirst.queues other hother)
  futures := fun future hother state hstate ↦
    hsecond.futures future hother state (hfirst.futures future hother state hstate)
  host := hfirst.host.trans hsecond.host
  waiting := by
    intro client hclient hqueue
    obtain ⟨other, hother, hsame⟩ := hfirst.waiting client hclient hqueue
    obtain ⟨last, hlast, hlater⟩ :=
      hsecond.waiting other hother ((claim_eq_iff.1 hsame).2.2 ▸ hqueue)
    exact ⟨last, hlast, hlater.trans hsame⟩
  answers := hfirst.answers.trans hsecond.answers
  tickets := Nat.le_trans hfirst.tickets hsecond.tickets

/-- Only the clients and their answers change. -/
theorem of_clients (hnumbered : before.registry.Ordered) (hheap : after.heap = before.heap)
    (hregistry : after.registry = before.registry) (hhost : after.host = before.host)
    (hwaiting : ∀ client ∈ before.waiting, client.stage.queue ≠ id →
      ∃ other ∈ after.waiting, claim other = claim client)
    (hanswers : before.answers <+: after.answers)
    (htickets : before.nextTicket ≤ after.nextTicket) :
    Tends territory id own before after where
  grows := .of_alike hnumbered hregistry (hheap ▸ Alike.refl _)
  queues := fun _ _ ↦ by rw [hheap]
  futures := fun _ _ _ hstate ↦ hheap ▸ hstate
  host := hhost ▸ .refl territory _
  waiting := hwaiting
  answers := hanswers
  tickets := htickets

theorem refl (hnumbered : session.registry.Ordered) :
    Tends territory id own session session :=
  of_clients hnumbered rfl rfl rfl (fun client hclient _ ↦ ⟨client, hclient, rfl⟩)
    (List.prefix_refl _) (Nat.le_refl _)

theorem takeTicket (hnumbered : session.registry.Ordered) :
    Tends territory id own session session.takeTicket.1 :=
  of_clients hnumbered rfl rfl rfl (fun client hclient _ ↦ ⟨client, hclient, rfl⟩)
    (List.prefix_refl _) (Nat.le_succ _)

/-- A client of the queue goes on. -/
theorem withoutClient (hsettled : session.Settled) (hclient : client ∈ session.waiting)
    (hqueue : client.stage.queue = id) :
    Tends territory id own session (session.withoutClient client.ticket) := by
  refine of_clients hsettled.kept.rooted.numbered rfl rfl rfl (fun other hother hne ↦ ?_)
    (List.prefix_refl _) (Nat.le_refl _)
  refine ⟨other, List.mem_filter.2 ⟨hother, ?_⟩, rfl⟩
  rw [bne_iff_ne]
  intro hticket
  obtain rfl := List.inj_on_of_nodup_map hsettled.ticketed.distinct hother hclient hticket
  exact hne hqueue

/-- A client sleeps again. -/
theorem putToSleep (hnumbered : session.registry.Ordered) (ticket : Ticket) :
    Tends territory id own session (session.putToSleep ticket) := by
  refine of_clients hnumbered rfl rfl rfl (fun client hclient _ ↦ ?_) (List.prefix_refl _)
    (Nat.le_refl _)
  refine ⟨_, List.mem_map_of_mem hclient, ?_⟩
  split <;> rfl

/-- A client is answered, or begins to wait. -/
theorem file (hnumbered : session.registry.Ordered) (program : Program) (ticket : Ticket)
    (progressed : Progressed) :
    Tends territory id own session (session.file program ticket .direct progressed) := by
  cases progressed with
  | ended outcome =>
    exact of_clients hnumbered rfl rfl rfl (fun client hclient _ ↦ ⟨client, hclient, rfl⟩)
      (List.prefix_append _ _) (Nat.le_refl _)
  | waits stage =>
    exact of_clients hnumbered rfl rfl rfl
      (fun client hclient _ ↦ ⟨client, List.mem_append_left _ hclient, rfl⟩) (List.prefix_refl _)
      (Nat.le_refl _)

/-- A launch gets a future. -/
theorem place (hnumbered : session.registry.Ordered) (horder : session.heap.Ordered)
    (state : FutureState) :
    Tends territory id own session (session.place (.future (.cell state))).1 where
  grows := .place hnumbered _
  queues := fun other _ ↦ hostQueue?_place horder state other
  futures := fun _ _ _ hold ↦ future?_place horder state hold
  host := .refl territory _
  waiting := fun client hclient _ ↦ ⟨client, hclient, rfl⟩
  answers := List.prefix_refl _
  tickets := Nat.le_refl _

/-- The queue accepts a job. -/
theorem enlist (hnumbered : session.registry.Ordered) (queue : HostQueue) (job : Job) :
    Tends territory id own session (session.enlist id queue job).1 where
  grows := .enlist hnumbered id queue job
  queues := by
    intro other hother
    rw [heap_enlist, hostQueue?_modifyQueue, if_neg hother]
  futures := by
    intro future _ state hstate
    rw [heap_enlist, future?_modifyQueue, hstate]
  host := by
    rw [host_enlist]
    exact .refl territory _
  waiting := fun client hclient _ ↦ ⟨client, (waiting_enlist _ _ _ _).symm ▸ hclient, rfl⟩
  answers := by
    unfold Session.enlist deliver
    split <;> exact List.prefix_refl _
  tickets := by
    unfold Session.enlist deliver
    split <;> exact Nat.le_refl _

/-- The queue gives up the failure it has recorded. -/
theorem drain (hnumbered : session.registry.Ordered) :
    Tends territory id own session (session.drain id {}) where
  grows := .of_alike hnumbered rfl (alike_modifyQueue session.heap id (fun _ ↦ {}) (·.jobs))
  queues := by
    intro other hother
    show hostQueue? (modifyQueue _ _ _) other = _
    rw [hostQueue?_modifyQueue, if_neg hother]
  futures := fun _ _ _ hstate ↦ (future?_modifyQueue _ _ _ _).trans hstate
  host := .refl territory _
  waiting := fun client hclient _ ↦ ⟨client, hclient, rfl⟩
  answers := List.prefix_refl _
  tickets := Nat.le_refl _

end Tends

/-! ## Static data of loaded libraries -/

theorem static_keepStatics {files : List String} {host : HostState} {file : String}
    (hfile : file ∈ files) : (host.keepStatics files).static file = host.static file :=
  (HostState.agree_keepStatics files host).statics file hfile

/-- A library that is not loaded has no static data. -/
theorem static_eq_zero {host : HostState} {file : String}
    (hfile : ∀ entry ∈ host.statics, entry.1 ≠ file) : host.static file = 0 := by
  unfold HostState.static
  rw [List.find?_eq_none.2 fun entry hentry ↦ by simpa using hfile entry hentry]
  rfl

/-- Where libraries stay loaded, a territory looks the same when the data of the others are dropped.
-/
theorem agree_keepStatics {files : List String} {host : HostState}
    (hfiles : territory.files ⊆ files) : territory.Agree (host.keepStatics files) host :=
  ⟨fun _ _ ↦ rfl, fun _ hfile ↦ static_keepStatics (hfiles hfile), rfl⟩

/-- Nothing is lost outside of a territory when the data of libraries that are not loaded are
dropped: there were none. -/
theorem spares_keepStatics {host : HostState} (hkept : session.Kept [])
    (hspares : territory.Spares session.host host) :
    territory.Spares session.host (host.keepStatics session.heap.files) := by
  refine ⟨hspares.memory, fun file hfree ↦ ?_, hspares.gate⟩
  by_cases hloaded : file ∈ session.heap.files
  · rw [static_keepStatics hloaded]
    exact hspares.statics file hfree
  · rw [static_eq_zero, static_eq_zero]
    · rintro entry hentry rfl
      exact hloaded (hkept.loaded entry hentry)
    · rintro entry hentry rfl
      exact hloaded (List.contains_iff_mem.1 (List.mem_filter.1 hentry).2)

/-! ## Workers -/

theorem Tends.mono {more : List ObjectId} (htends : Tends territory id own before after)
    (hsub : own ⊆ more) : Tends territory id more before after :=
  { htends with futures := fun future hother ↦
      htends.futures future fun hmem ↦ hother (hsub hmem) }

/-- A worker that runs a job pays back what the queue owes, and leaves alone what the queue has
nothing to do with. -/
theorem Owes.tends {claims : List ObjectId} {balance : Balance}
    (howes : session.Owes platform.routine territory id claims balance)
    (hsettled : session.Settled) (hnameable : session.Nameable queues []) (hmem : id ∈ queues)
    (hgate : session.host.gateOpen = territory.gateOpen) (hdistinct : claims.Nodup)
    (hfiles : territory.files ⊆ session.heap.files)
    (hwork : session.work? platform id = some after) :
    after.Owes platform.routine territory id claims balance ∧
      Tends territory id claims session after ∧ after.Nameable queues [] := by
  have hframe := frame_work hwork
  obtain ⟨queue, job, rest, host, failure, hqueue, hjobs, hruns, hheap, hregistry, hwaiting, hhost,
    hnamed⟩ := work_changes hsettled.kept hnameable hmem hwork
  have hspares : territory.Spares session.host host ∧
      ∀ future, job.future = some future → future ∈ claims := by
    obtain ⟨found, past, endings, howing⟩ := howes
    obtain rfl := Option.some.inj (howing.found.symm.trans hqueue)
    have hjob : job ∈ found.jobs := hjobs ▸ List.mem_cons_self
    refine ⟨(howing.keep job hjob).spares hgate hruns, fun future hfuture ↦ ?_⟩
    rw [howing.launched]
    exact List.mem_append_right _ (List.mem_filterMap.2 ⟨job, hjob, hfuture⟩)
  have halike : Alike session.heap after.heap := by
    rw [hheap]
    exact (alike_settled session.heap job failure).trans (alike_modifyQueue _ id _ _)
  refine ⟨howes.work hdistinct hgate hqueue hjobs hruns hheap ?_, ?_, hnamed⟩
  · rw [hhost]
    exact agree_keepStatics hfiles
  constructor
  case grows => exact .of_alike hsettled.kept.rooted.numbered hregistry halike
  case queues =>
    intro other hother
    rw [hheap, hostQueue?_modifyQueue, if_neg hother, hostQueue?_settled]
  case futures =>
    intro future hother state hstate
    rw [hheap, future?_modifyQueue,
      future?_settled_of_ne (fun hfuture ↦ hother (hspares.2 future hfuture)), hstate]
  case host =>
    rw [hhost]
    exact spares_keepStatics hsettled.kept hspares.1
  case waiting =>
    intro client hclient _
    refine ⟨client.wake id, hwaiting ▸ List.mem_map_of_mem hclient, ?_⟩
    unfold Waiting.wake
    split <;> rfl
  case answers => exact hframe.answers ▸ List.prefix_refl _
  case tickets => exact Nat.le_of_eq hframe.nextTicket.symm

/-- A queue that owes jobs can run the oldest one. -/
theorem Owes.works {claims : List ObjectId} {balance : Balance}
    (howes : session.Owes platform.routine territory id claims balance)
    (hkept : session.Kept []) (hnameable : session.Nameable queues []) (hmem : id ∈ queues)
    (hgate : session.host.gateOpen = territory.gateOpen) (hjobs : session.heap.jobsOf id ≠ []) :
    ∃ after, session.work? platform id = some after ∧
      after.heap.jobsOf id = (session.heap.jobsOf id).tail := by
  obtain ⟨queue, past, endings, howing⟩ := howes
  obtain ⟨job, rest, hqueued⟩ : ∃ job rest, queue.jobs = job :: rest := by
    rw [jobsOf, howing.found] at hjobs
    exact List.exists_cons_of_ne_nil hjobs
  obtain ⟨failure, host, -, hruns, -⟩ := howing.keep job (hqueued ▸ List.mem_cons_self)
    session.host session.host hgate (.refl territory session.host)
  have hwork : ∃ after, session.work? platform id = some after := by
    unfold Job.Runs at hruns
    simp only [work?, howing.found, hqueued, hruns]
    cases failure <;> exact ⟨_, rfl⟩
  obtain ⟨after, hwork⟩ := hwork
  obtain ⟨found, oldest, others, last, failed, hfound, hothers, -, hheap, -⟩ :=
    work_changes hkept hnameable hmem hwork
  refine ⟨after, hwork, ?_⟩
  rw [hheap, jobsOf, hostQueue?_modifyQueue, if_pos rfl, hostQueue?_settled, jobsOf, hfound]
  exact (congrArg List.tail hothers).symm

/-! ## Clients that are answered -/

/-- Clients that have got their tickets since some ticket and have been answered do not wait. -/
def Unanswered (since : Ticket) (session : Session) : Prop :=
  ∀ client ∈ session.waiting, since ≤ client.ticket →
    ∀ entry ∈ session.answers, entry.1 ≠ client.ticket

namespace Unanswered

variable {since : Ticket}

/-- No client waits yet that has got its ticket since now. -/
theorem now (hticketed : session.Ticketed) : session.Unanswered session.nextTicket :=
  fun client hclient hlater ↦
    absurd (hticketed.waiting client hclient) (Nat.not_lt.2 hlater)

theorem frame (hunanswered : before.Unanswered since) (hframe : Frame before after) :
    after.Unanswered since := by
  intro client hclient hlater entry hentry
  have hticket : client.ticket ∈ before.waiting.map (·.ticket) :=
    hframe.tickets ▸ List.mem_map_of_mem hclient
  obtain ⟨other, hother, hsame⟩ := List.mem_map.1 hticket
  rw [← hsame] at hlater ⊢
  exact hunanswered other hother hlater entry (hframe.answers ▸ hentry)

/-- A client that does not wait is answered, or one that is not answered begins to wait. -/
theorem file (hunanswered : session.Unanswered since) (hfree : session.Free ticket)
    (hnone : ∀ entry ∈ session.answers, entry.1 ≠ ticket) (program : Program)
    (progressed : Progressed) :
    (session.file program ticket .direct progressed).Unanswered since := by
  intro client hclient hlater entry hentry
  cases progressed with
  | ended outcome =>
    rcases List.mem_append.1 hentry with hold | hnew
    · exact hunanswered client hclient hlater entry hold
    · rw [List.mem_singleton.1 hnew]
      intro hticket
      exact hfree.absent (List.mem_map.2 ⟨client, hclient, hticket.symm⟩)
  | waits stage =>
    rcases List.mem_append.1 hclient with hold | hnew
    · exact hunanswered client hold hlater entry hentry
    · rw [List.mem_singleton.1 hnew]
      exact hnone entry hentry

/-- A client that starts an operation has not been answered, and does not wait yet. -/
theorem start (hunanswered : session.Unanswered since) (hsettled : session.Settled)
    (program : Program) (request : Request) :
    (session.startRequest program request).1.Unanswered since := by
  obtain ⟨-, -, hfree⟩ := kept_takeTicket hsettled.kept hsettled.ticketed
  have hframe := frame_perform session.takeTicket.1
    (request.decide program.toPlatform session.takeTicket.1)
  have hopened : session.takeTicket.1.Unanswered since := hunanswered
  refine (hopened.frame hframe).file (hfree.frame hframe) (fun entry hentry ↦ ?_) program _
  have hbefore : entry ∈ session.answers := hframe.answers ▸ hentry
  exact Nat.ne_of_lt (hsettled.ticketed.answered entry hbefore)

/-- A client that looks again is answered, or waits on. -/
theorem resume (hunanswered : session.Unanswered since) (hsettled : session.Settled)
    (hclient : client ∈ session.waiting) (hlater : since ≤ client.ticket)
    (hmanner : client.manner = .direct)
    (hresume : session.resume? program client = some after) : after.Unanswered since := by
  rcases resume?_cases hresume with ⟨-, rfl⟩ | ⟨moved, progressed, hpursue, rfl⟩
  · exact hunanswered.frame (frame_putToSleep session client.ticket)
  · obtain ⟨-, -, hfree⟩ := kept_withoutClient hsettled hclient
    have hframe := frame_pursue (session.withoutClient client.ticket) (.waits client.stage)
    rw [hpursue] at hframe
    have hothers : (session.withoutClient client.ticket).Unanswered since := fun other hother ↦
      hunanswered other (List.mem_filter.1 hother).1
    rw [hmanner]
    refine (hothers.frame hframe).file (hfree.frame hframe) (fun entry hentry ↦ ?_) program _
    exact hunanswered client hclient hlater entry (hframe.answers ▸ hentry)

end Unanswered

end Offload.Session
