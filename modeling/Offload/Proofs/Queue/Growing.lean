import Offload.Proofs.Queue.Accounts
import Offload.Proofs.Queue.Performing
import Offload.Proofs.Session.Nameable

/-!
# Sessions that grow

While clients use queues, a session keeps the handles and the objects it has. What is new are
futures, and they are neither views nor kernels. So a command decides on the same whenever it is
given, or is refused whenever it is given: a handle that is not there yet names nothing the command
could use later.
-/

namespace Offload

open Heap Deciding

variable {platform : Platform} {session start before middle after : Session} {id : ObjectId}
  {queue handle : Handle} {command : Command}

/-! ## Objects and handles that stay -/

/-- A later session that has the handles and objects of an earlier one. Its new handles are those of
futures. -/
structure Session.Grows (before after : Session) : Prop where
  registry : before.registry.next ≤ after.registry.next
  handles : ∀ handle < before.registry.next,
    after.registry.get? handle = before.registry.get? handle
  fresh : ∀ {handle slot}, before.registry.next ≤ handle →
    after.registry.get? handle = some slot → slot.kind = .future
  heap : before.heap.next ≤ after.heap.next
  objects : ∀ id < before.heap.next,
    (after.heap.get? id).map Object.outline = (before.heap.get? id).map Object.outline

namespace Session.Grows

theorem refl (hnumbered : session.registry.Ordered) : session.Grows session where
  registry := Nat.le_refl _
  handles := fun _ _ ↦ rfl
  fresh := fun hnew hslot ↦ absurd (hnumbered.lt_next hslot) (Nat.not_lt.2 hnew)
  heap := Nat.le_refl _
  objects := fun _ _ ↦ rfl

theorem trans (hfirst : before.Grows middle) (hsecond : middle.Grows after) :
    before.Grows after where
  registry := Nat.le_trans hfirst.registry hsecond.registry
  handles := fun handle hold ↦
    (hsecond.handles handle (Nat.lt_of_lt_of_le hold hfirst.registry)).trans
      (hfirst.handles handle hold)
  fresh := by
    intro handle slot hnew hslot
    by_cases hold : handle < middle.registry.next
    · exact hfirst.fresh hnew ((hsecond.handles handle hold).symm.trans hslot)
    · exact hsecond.fresh (Nat.not_lt.1 hold) hslot
  heap := Nat.le_trans hfirst.heap hsecond.heap
  objects := fun id hold ↦
    (hsecond.objects id (Nat.lt_of_lt_of_le hold hfirst.heap)).trans (hfirst.objects id hold)

/-- Changes in place. -/
theorem of_alike (hnumbered : before.registry.Ordered)
    (hregistry : after.registry = before.registry)
    (halike : Alike before.heap after.heap) : before.Grows after where
  registry := Nat.le_of_eq (congrArg Table.next hregistry).symm
  handles := fun _ _ ↦ by rw [hregistry]
  fresh := fun hnew hslot ↦
    absurd (hnumbered.lt_next (hregistry ▸ hslot)) (Nat.not_lt.2 hnew)
  heap := Nat.le_of_eq halike.next
  objects := fun id _ ↦ (halike.outline_get? id).symm

/-- A new object. -/
theorem place (hnumbered : session.registry.Ordered) (object : Object) :
    session.Grows (session.place object).1 where
  registry := Nat.le_refl _
  handles := fun _ _ ↦ rfl
  fresh := fun hnew hslot ↦ absurd (hnumbered.lt_next hslot) (Nat.not_lt.2 hnew)
  heap := Nat.le_succ _
  objects := by
    intro id hold
    show (Table.get? (session.heap.insert object).1 id).map _ = _
    rw [Table.get?_insert, if_neg (Nat.ne_of_lt hold)]

/-- A job that is accepted, with the handle of its future. -/
theorem enlist (hnumbered : session.registry.Ordered) (id : ObjectId) (queue : HostQueue)
    (job : Job) : session.Grows (session.enlist id queue job).1 := by
  have halike : Alike session.heap (session.enlist id queue job).1.heap := by
    rw [heap_enlist]
    exact alike_modifyQueue _ id (fun _ ↦ { queue.progress with
      pending := queue.progress.pending + 1 }) fun queue ↦ queue.jobs ++ [job]
  cases hfuture : job.future with
  | none =>
    apply of_alike hnumbered _ halike
    rw [registry_enlist, hfuture]
  | some future =>
    have hregistry : (session.enlist id queue job).1.registry =
        (session.registry.register .future future).1 := by
      rw [registry_enlist, hfuture]
    constructor
    case registry =>
      rw [hregistry]
      exact Nat.le_succ _
    case handles =>
      intro handle hold
      rw [hregistry, Registry.register, Table.get?_insert, if_neg (Nat.ne_of_lt hold)]
    case fresh =>
      intro handle slot hnew hslot
      rw [hregistry, Registry.register, Table.get?_insert] at hslot
      split at hslot
      · rw [← Option.some.inj hslot]
      · exact absurd (hnumbered.lt_next hslot) (Nat.not_lt.2 hnew)
    case heap => exact Nat.le_of_eq halike.next
    case objects => exact fun id _ ↦ (halike.outline_get? id).symm

/-- A handle goes on naming its object. -/
theorem get? (hgrows : before.Grows after) (hnumbered : before.registry.Ordered)
    {slot : Slot ObjectId} (hslot : before.registry.get? handle = some slot) :
    after.registry.get? handle = some slot :=
  (hgrows.handles handle (hnumbered.lt_next hslot)).trans hslot

theorem names (hgrows : before.Grows after) (hnumbered : before.registry.Ordered)
    (hnames : before.registry.Names id) : after.registry.Names id := by
  obtain ⟨slot, hslot, rfl⟩ := hnames
  obtain ⟨handle, hget⟩ := hnumbered.mem_values_iff.1 hslot
  exact Registry.names_of_get? (hgrows.get? hnumbered hget)

/-- Libraries stay loaded. -/
theorem files (hgrows : before.Grows after) (hbefore : before.heap.Ordered)
    (hafter : after.heap.Ordered) : before.heap.files ⊆ after.heap.files := by
  intro file hfile
  obtain ⟨id, module, hget, hloaded⟩ := (mem_files_iff hbefore).1 hfile
  have houtline := hgrows.objects id (hbefore.lt_next hget)
  rw [hget, Option.map_some] at houtline
  obtain ⟨other, hother, hsame⟩ := Option.map_eq_some_iff.1 houtline
  obtain ⟨peers, rfl⟩ := Object.eq_of_outline_hostModule hsame
  exact (mem_files_iff hafter).2 ⟨id, _, hother, hloaded⟩

end Session.Grows

/-! ## Results that are the same or both errors -/

/-- Two results that are the same, or both errors. -/
def Concur {ε α : Type} (left right : Except ε α) : Prop :=
  left = right ∨ (∃ error, left = .error error) ∧ ∃ error, right = .error error

/-- Two computations that neither look at the settings nor note anything, and come to results that
concur. -/
def Deciding.Concur {α : Type} (left right : Deciding α) : Prop :=
  ∃ outcome other, (∀ ambient, left.run.run ambient = (outcome, ambient)) ∧
    (∀ ambient, right.run.run ambient = (other, ambient)) ∧ Offload.Concur outcome other

namespace Deciding

variable {α β : Type}

theorem concur_of_plainly {body : Deciding α} (hbody : body.Plainly fun _ ↦ True) :
    body.Concur body := by
  obtain ⟨outcome, hrun, -⟩ := hbody
  exact ⟨outcome, outcome, hrun, hrun, .inl rfl⟩

/-- What goes on in the same way with what has been looked up concurs if the lookups do. -/
theorem concur_lift_bind {left right : Except Failure α} {first second : α → Deciding β}
    (hfound : Offload.Concur left right)
    (hrest : ∀ value, right = .ok value → (first value).Concur (second value)) :
    (liftM left >>= first : Deciding β).Concur (liftM right >>= second) := by
  have herrors (failure other : Failure) : (liftM (Except.error failure : Except Failure α) >>=
      first : Deciding β).Concur (liftM (Except.error other : Except Failure α) >>= second) :=
    ⟨.error (.failure failure), .error (.failure other), fun _ ↦ rfl, fun _ ↦ rfl,
      .inr ⟨⟨_, rfl⟩, _, rfl⟩⟩
  rcases hfound with rfl | ⟨⟨failure, rfl⟩, other, rfl⟩
  · cases left with
    | error failure => exact herrors failure failure
    | ok value =>
      rw [lift_ok_bind, lift_ok_bind]
      exact hrest value rfl
  · exact herrors failure other

end Deciding

namespace Session.Grows

/-! ## Lookups -/

/-- Looking up what is not a future finds the same later, or nothing then and now. -/
theorem lookup_concur {α : Type} {kind : Kind} {find? : Heap → ObjectId → Option α}
    (hgrows : start.Grows session) (hrooted : Rooted start.registry (start.stages []) start.heap)
    (hkind : kind ≠ .future)
    (hfind : ∀ {left right : Heap} {id : ObjectId},
      (left.get? id).map Object.outline = (right.get? id).map Object.outline →
        find? left id = find? right id) (handle : Handle) :
    Concur (session.lookup kind find? handle) (start.lookup kind find? handle) := by
  by_cases hold : handle < start.registry.next
  · left
    have hlookup : session.registry.lookup kind handle = start.registry.lookup kind handle := by
      unfold Registry.lookup Registry.locate
      rw [hgrows.handles handle hold]
    unfold Session.lookup
    rw [hlookup]
    cases hfound : start.registry.lookup kind handle with
    | error failure => rfl
    | ok id =>
      obtain ⟨slot, hslot, -, rfl⟩ := Registry.lookup_eq_ok hfound
      obtain ⟨object, hget, -⟩ := hrooted.exposed hslot
      have hthere := hrooted.ordered.lt_next hget
      simp only [bind, Except.bind, hfind (hgrows.objects slot.object hthere)]
  · right
    have herror {other : Session} (hnone : ∀ slot, other.registry.get? handle = some slot →
        slot.kind = .future) : ∃ error, other.lookup kind find? handle = .error error := by
      cases hlookup : other.lookup kind find? handle with
      | error failure => exact ⟨failure, rfl⟩
      | ok found =>
        obtain ⟨slot, hslot, hsame, -⟩ := Registry.lookup_eq_ok (lookup_eq_ok hlookup).1
        exact absurd (hsame.symm.trans (hnone slot hslot)) hkind
    exact ⟨herror fun _ hslot ↦ hgrows.fresh (Nat.not_lt.1 hold) hslot,
      herror fun _ hslot ↦ absurd (hrooted.numbered.lt_next hslot) hold⟩

section

variable (hgrows : start.Grows session)
  (hrooted : Rooted start.registry (start.stages []) start.heap)

include hgrows hrooted

theorem view_concur (handle : Handle) : Concur (session.view handle) (start.view handle) := by
  refine hgrows.lookup_concur hrooted (by decide) (fun {left right id} houtline ↦ ?_) handle
  ext view
  have hview (heap : Heap) : heap.view? id = some view ↔
      (heap.get? id).map Object.outline = some (.view view) := by
    rw [view?_eq_some]
    cases heap.get? id with
    | none => simp
    | some object =>
      rcases object with (_ | _) | _ | _ | (_ | _) | _ | (_ | _) | (_ | _)
      all_goals simp [Object.outline]
  rw [hview, hview, houtline]

theorem kernel_concur (handle : Handle) : Concur (session.kernel handle) (start.kernel handle) := by
  refine hgrows.lookup_concur hrooted (by decide) (fun {left right id} houtline ↦ ?_) handle
  ext kernel
  have hkernel (heap : Heap) : heap.kernel? id = some kernel ↔
      (heap.get? id).map Object.outline = some (.kernel kernel) := by
    rw [kernel?_eq_some]
    cases heap.get? id with
    | none => simp
    | some object =>
      rcases object with (_ | _) | _ | _ | (_ | _) | _ | (_ | _) | (_ | _)
      all_goals simp [Object.outline]
  rw [hkernel, hkernel, houtline]

theorem parameters_concur (handle : Handle) :
    Concur (session.parameters handle) (start.parameters handle) := by
  unfold Session.parameters
  split
  · exact .inl rfl
  · rcases hgrows.view_concur hrooted handle with hsame | ⟨⟨failure, hleft⟩, other, hright⟩
    · rw [hsame]
      exact .inl rfl
    · rw [hleft, hright]
      exact .inr ⟨⟨_, rfl⟩, _, rfl⟩

/-- A queue of the host is found again. -/
theorem finds_queue {ordered : HostQueue} (hqueue : start.queue queue = .ok (id, .host ordered)) :
    ∃ found, session.heap.hostQueue? id = some found ∧
      session.queue queue = .ok (id, .host found) := by
  obtain ⟨hlookup, hfound⟩ := lookup_eq_ok hqueue
  obtain ⟨slot, hslot, hkind, hobject⟩ := Registry.lookup_eq_ok hlookup
  have hget := queue?_eq_some.1 hfound
  have houtline := hgrows.objects id (hrooted.ordered.lt_next hget)
  rw [hget, Option.map_some] at houtline
  obtain ⟨other, hother, hsame⟩ := Option.map_eq_some_iff.1 houtline
  obtain ⟨progress, jobs, rfl⟩ := Object.eq_of_outline_hostQueue hsame
  refine ⟨_, hostQueue?_eq_some.2 hother, ?_⟩
  have hagain : session.registry.lookup .taskQueue queue =
      start.registry.lookup .taskQueue queue := by
    unfold Registry.lookup Registry.locate
    rw [hgrows.handles queue (hrooted.numbered.lt_next hslot)]
  unfold Session.queue Session.lookup
  rw [hagain, hlookup]
  simp only [bind, Except.bind, queue?_eq_some.2 hother]

end

end Session.Grows

/-! ## Commands -/

namespace Command

/-- A command that is no `sync` submits a job, or has nothing to wait for. -/
inductive Submits (id : ObjectId) : Decision → Prop where
  | answer : Submits id (.answer .nothing)
  | submit (job : Job) (hfuture : job.future = none) : Submits id { effect := .submit id job }
  | launch (job : Job) : Submits id { effect := .launch id job }

/-- A `sync` drains its queue, and other commands submit to it. -/
theorem plainly_submits {ordered : HostQueue} (platform : Platform)
    (hqueue : start.queue queue = .ok (id, .host ordered))
    (hrelease : ∀ handle, command ≠ .release handle) :
    ((command.request queue).decide platform start).Plainly fun decision ↦
      if command = .sync then decision = { effect := .drain id } else Submits id decision := by
  have hfound {found : ObjectId × TaskQueue} (hsome : start.queue queue = .ok found) :
      ∃ ordered, found = (id, .host ordered) :=
    ⟨ordered, (Except.ok.inj (hqueue.symm.trans hsome)).symm⟩
  cases command with
  | release handle => exact absurd rfl (hrelease handle)
  | copyToDevice view =>
    exact plainly_lift_bind fun found hsome ↦ plainly_lift_bind fun view _ ↦
      (plainly_transfer (hfound hsome) .submit view).1
  | copyToHost view =>
    exact plainly_lift_bind fun found hsome ↦ plainly_lift_bind fun view _ ↦
      (plainly_transfer (hfound hsome) .submit view).2
  | copy destination source size =>
    exact plainly_lift_bind fun found hsome ↦ plainly_lift_bind fun target _ ↦
      plainly_lift_bind fun origin _ ↦
        plainly_copyView (hfound hsome) .answer .submit target origin size
  | launch kernel parameters extent =>
    exact plainly_lift_bind fun found hsome ↦ plainly_lift_bind fun kernel _ ↦
      plainly_lift_bind fun parameters _ ↦
        plainly_launch (hfound hsome) .launch kernel parameters extent
  | barrier =>
    refine plainly_lift_bind fun found hsome ↦ ?_
    obtain ⟨ordered, rfl⟩ := hfound hsome
    exact plainly_pure .answer
  | sync =>
    refine plainly_lift_bind fun found hsome ↦ ?_
    obtain ⟨ordered, rfl⟩ := hfound hsome
    exact plainly_pure rfl

/-- What a command decides on, next to what it asked for earlier. -/
inductive Meets (session : Session) (id : ObjectId) (command : Command) :
    Action → Except Interruption Decision → Prop where
  | refuse (hsync : command ≠ .sync) (earlier later : Interruption) :
    Meets session id command (.refuse earlier) (.error later)
  | answer (hsync : command ≠ .sync) :
    Meets session id command (.answer .nothing) (.ok (.answer .nothing))
  | submit (hsync : command ≠ .sync) {job : Job} (hfuture : job.future = none)
    (hnames : ∀ held ∈ job.holds, session.registry.Names held) :
    Meets session id command (.submit job) (.ok { effect := .submit id job })
  | launch (hsync : command ≠ .sync) {job : Job} (future : ObjectId)
    (hnames : ∀ held ∈ job.holds, session.registry.Names held) :
    Meets session id command (.submit { job with future := some future })
      (.ok { effect := .launch id job })
  | drain (hsync : command = .sync) :
    Meets session id command .drain (.ok { effect := .drain id })

section

variable {ordered : HostQueue} (hgrows : start.Grows session)
  (hrooted : Rooted start.registry (start.stages []) start.heap)
  (hqueue : start.queue queue = .ok (id, .host ordered))

include hgrows hrooted hqueue

/-- A command decides on the same later, or is refused then and now. -/
theorem decide_concur (platform : Platform) (hrelease : ∀ handle, command ≠ .release handle) :
    ((command.request queue).decide platform session).Concur
      ((command.request queue).decide platform start) := by
  obtain ⟨found, -, hfound⟩ := hgrows.finds_queue hrooted hqueue
  have hhost : ∃ ordered, (id, TaskQueue.host found) = (id, .host ordered) := ⟨found, rfl⟩
  cases command with
  | release handle => exact absurd rfl (hrelease handle)
  | copyToDevice view =>
    simp only [Command.request, Request.decide, hfound, hqueue, lift_ok_bind]
    exact concur_lift_bind (hgrows.view_concur hrooted view) fun view _ ↦
      concur_of_plainly (plainly_transfer hhost (fun _ _ ↦ trivial) view).1
  | copyToHost view =>
    simp only [Command.request, Request.decide, hfound, hqueue, lift_ok_bind]
    exact concur_lift_bind (hgrows.view_concur hrooted view) fun view _ ↦
      concur_of_plainly (plainly_transfer hhost (fun _ _ ↦ trivial) view).2
  | copy destination source size =>
    simp only [Command.request, Request.decide, hfound, hqueue, lift_ok_bind]
    exact concur_lift_bind (hgrows.view_concur hrooted destination) fun target _ ↦
      concur_lift_bind (hgrows.view_concur hrooted source) fun origin _ ↦
        concur_of_plainly (plainly_copyView hhost trivial (fun _ _ ↦ trivial) target
          origin size)
  | launch kernel parameters extent =>
    simp only [Command.request, Request.decide, hfound, hqueue, lift_ok_bind]
    exact concur_lift_bind (hgrows.kernel_concur hrooted kernel) fun kernel _ ↦
      concur_lift_bind (hgrows.parameters_concur hrooted parameters) fun parameters _ ↦
        concur_of_plainly (plainly_launch hhost (fun _ ↦ trivial) kernel parameters extent)
  | barrier =>
    simp only [Command.request, Request.decide, hfound, hqueue, lift_ok_bind]
    exact concur_of_plainly (plainly_pure trivial)
  | sync =>
    simp only [Command.request, Request.decide, hfound, hqueue, lift_ok_bind]
    exact concur_of_plainly (plainly_pure trivial)

/-- A command comes to what it asked for earlier. The jobs it submits refer to nothing but what
handles name. -/
theorem meets (platform : Platform) (hsound : session.Sound [])
    (hrelease : ∀ handle, command ≠ .release handle) :
    ∃ outcome, (∀ ambient, ((command.request queue).decide platform session).run.run ambient =
        (outcome, ambient)) ∧
      Meets session id command (command.action platform start queue) outcome := by
  obtain ⟨outcome, other, hrun, hstart, hconcur⟩ :=
    decide_concur hgrows hrooted hqueue platform hrelease
  obtain ⟨same, hsame, hshape⟩ := plainly_submits platform hqueue hrelease
  obtain rfl : same = other := congrArg Prod.fst ((hsame {}).symm.trans (hstart {}))
  have hdrawn (decision : Decision) (hok : outcome = .ok decision) :
      decision.effect.Drawn session _ :=
    (Request.drawn_decide hsound (command.request queue) {} rfl).2 decision (by rw [hrun, hok])
  refine ⟨outcome, hrun, ?_⟩
  unfold Command.action
  rw [hstart]
  cases same with
  | error interruption =>
    have hsync : command ≠ .sync := by
      rintro rfl
      have hdrains := hstart {}
      simp only [Command.request, Request.decide, hqueue, lift_ok_bind] at hdrains
      exact absurd (congrArg Prod.fst hdrains) (by simp [Session.sync])
    rcases hconcur with rfl | ⟨⟨later, rfl⟩, -⟩
    · exact .refuse hsync interruption interruption
    · exact .refuse hsync interruption later
  | ok decision =>
    obtain rfl : outcome = .ok decision := by
      rcases hconcur with hsame | ⟨-, interruption, herror⟩
      · exact hsame
      · exact absurd herror (by simp)
    have hdecided := hshape decision rfl
    split at hdecided
    · next hsync =>
      rw [hdecided]
      exact .drain hsync
    · next hsync =>
      cases hdecided with
      | answer => exact .answer hsync
      | submit job hfuture => exact .submit hsync hfuture (hdrawn _ rfl).2.1
      | launch job => exact .launch hsync _ (hdrawn _ rfl).2.1

end

end Command

end Offload
