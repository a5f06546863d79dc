import Offload.Proofs.Queue.Attending
import Offload.Proofs.Session.Decisions

/-!
# Commands come to the same

What a command does is decided by what handles name, and not by how far a queue has come. So a client
whose queue has jobs left and a client whose jobs have all been executed decide alike, commit to the
same, and wait for the same.
-/

namespace Offload

open Heap Deciding

variable {platform : Platform} {routine : Entry → Routine} {files : List String} {job : Job}
  {jobs : List Job} {id : ObjectId} {queue : Handle} {left right session after : Session}

/-! ## Sessions that resemble each other -/

/-- What cannot be seen and what changes may be forgotten in either order. -/
theorem Object.outline_face (object : Object) : object.face.outline = object.outline.face := by
  rcases object with (_ | _) | _ | _ | (_ | _) | _ | (_ | _) | (_ | _) <;> rfl

/-- Objects that differ at most in what cannot be seen or in what changes. -/
def Object.Resembles (left right : Object) : Prop := left.face.outline = right.face.outline

namespace Object.Resembles

variable {object other : Object}

theorem view {view : View} (hresembles : object.Resembles (.view view)) : object = .view view := by
  unfold Object.Resembles at hresembles
  rcases object with (_ | _) | _ | _ | (_ | _) | _ | (_ | _) | (_ | _)
  all_goals simp_all [Object.face, Object.outline]

theorem kernel {kernel : Kernel} (hresembles : object.Resembles (.kernel kernel)) :
    object = .kernel kernel := by
  unfold Object.Resembles at hresembles
  rcases object with (_ | _) | _ | _ | (_ | _) | _ | (_ | _) | (_ | _)
  all_goals simp_all [Object.face, Object.outline]

theorem hostQueue {ordered : HostQueue} (hresembles : object.Resembles (.queue (.host ordered))) :
    ∃ found, object = .queue (.host found) := by
  unfold Object.Resembles at hresembles
  rcases object with (_ | _) | _ | _ | (_ | _) | _ | (_ | found) | (_ | _)
  all_goals simp_all [Object.face, Object.outline]

end Object.Resembles

namespace Session

/-- Two sessions whose handles name objects that resemble each other. -/
structure Resembles (left right : Session) : Prop where
  registry : left.registry = right.registry
  exposed : ∀ {handle slot}, left.registry.get? handle = some slot →
    ∃ object other, left.heap.get? slot.object = some object ∧
      right.heap.get? slot.object = some other ∧ object.Resembles other

/-- A session in which nobody waits, and in which a handle names a host queue as long as it names
anything. -/
structure Serves (session : Session) (queue : Handle) (id : ObjectId) : Prop where
  waiting : session.waiting = []
  host : ∃ ordered, session.heap.hostQueue? id = some ordered
  made : id < session.heap.next
  named : ∀ {slot}, session.registry.get? queue = some slot → slot.object = id
  given : queue < session.registry.next

/-- Looking a handle up finds the same in two sessions where handles name the same. -/
theorem lookup_eq {α : Type} {kind : Kind} {find? : Heap → ObjectId → Option α}
    (hregistry : left.registry = right.registry)
    (hfind : ∀ {handle slot}, left.registry.get? handle = some slot →
      find? left.heap slot.object = find? right.heap slot.object) (handle : Handle) :
    left.lookup kind find? handle = right.lookup kind find? handle := by
  unfold Session.lookup
  rw [hregistry]
  cases hlookup : right.registry.lookup kind handle with
  | error failure => rfl
  | ok id =>
    obtain ⟨slot, hslot, -, rfl⟩ := Registry.lookup_eq_ok hlookup
    simp only [bind, Except.bind, hfind (hregistry ▸ hslot)]

namespace Resembles

theorem view (hresembles : left.Resembles right) (handle : Handle) :
    left.view handle = right.view handle := by
  refine lookup_eq hresembles.registry (fun {_ slot} hslot ↦ ?_) handle
  obtain ⟨object, other, hobject, hother, hsame⟩ := hresembles.exposed hslot
  ext view
  rw [view?_eq_some, view?_eq_some, hobject, hother, Option.some_inj, Option.some_inj]
  constructor
  · rintro rfl
    exact Object.Resembles.view hsame.symm
  · rintro rfl
    exact Object.Resembles.view hsame

theorem kernel (hresembles : left.Resembles right) (handle : Handle) :
    left.kernel handle = right.kernel handle := by
  refine lookup_eq hresembles.registry (fun {_ slot} hslot ↦ ?_) handle
  obtain ⟨object, other, hobject, hother, hsame⟩ := hresembles.exposed hslot
  ext kernel
  rw [kernel?_eq_some, kernel?_eq_some, hobject, hother, Option.some_inj, Option.some_inj]
  constructor
  · rintro rfl
    exact Object.Resembles.kernel hsame.symm
  · rintro rfl
    exact Object.Resembles.kernel hsame

theorem parameters (hresembles : left.Resembles right) (handle : Handle) :
    left.parameters handle = right.parameters handle := by
  unfold Session.parameters
  rw [hresembles.view]

/-- A handle names a host queue on both sides or on none. -/
theorem isSome_hostQueue? (hresembles : left.Resembles right) {handle : Handle}
    {slot : Slot ObjectId} (hslot : left.registry.get? handle = some slot) :
    (left.heap.hostQueue? slot.object).isSome = (right.heap.hostQueue? slot.object).isSome := by
  obtain ⟨object, other, hobject, hother, hsame⟩ := hresembles.exposed hslot
  rw [Bool.eq_iff_iff, Option.isSome_iff_exists, Option.isSome_iff_exists]
  simp only [hostQueue?_eq_some, hobject, hother, Option.some_inj]
  constructor
  · rintro ⟨ordered, rfl⟩
    exact Object.Resembles.hostQueue hsame.symm
  · rintro ⟨ordered, rfl⟩
    exact Object.Resembles.hostQueue hsame

/-- A queue is found on both sides, though it may have come further on one of them. -/
theorem hostQueue (hresembles : left.Resembles right) (hserves : right.Serves queue id) :
    (∃ failure, left.queue queue = .error failure ∧ right.queue queue = .error failure) ∨
      (∃ slot, left.registry.get? queue = some slot ∧ slot.object = id) ∧
        ∃ first second, left.queue queue = .ok (id, .host first) ∧
          right.queue queue = .ok (id, .host second) := by
  unfold Session.queue Session.lookup
  rw [hresembles.registry]
  cases hlookup : right.registry.lookup .taskQueue queue with
  | error failure => exact .inl ⟨failure, rfl, rfl⟩
  | ok found =>
    right
    obtain ⟨slot, hslot, -, rfl⟩ := Registry.lookup_eq_ok hlookup
    have hid := hserves.named hslot
    obtain ⟨ordered, hhost⟩ := hserves.host
    obtain ⟨object, other, hobject, hother, hsame⟩ :=
      hresembles.exposed (hresembles.registry ▸ hslot)
    rw [hid] at hobject hother
    obtain rfl : other = .queue (.host ordered) := by
      rw [hostQueue?_eq_some, hother] at hhost
      exact Option.some.inj hhost
    obtain ⟨first, rfl⟩ := Object.Resembles.hostQueue hsame
    refine ⟨⟨slot, hslot, hid⟩, first, ordered, ?_, ?_⟩
    · simp only [bind, Except.bind, hid, queue?_eq_some.2 hobject]
    · simp only [bind, Except.bind, hid, queue?_eq_some.2 hother]

end Resembles

end Session

/-! ## Decisions -/

namespace Command

/-- What goes on in the same way with a queue, however far it has come, goes on in the same way in
sessions that resemble each other. -/
theorem bind_queue_eq (hresembles : left.Resembles right) (hserves : right.Serves queue id)
    {rest : ObjectId × TaskQueue → Deciding Decision}
    (hrest : ∀ first second, rest (id, .host first) = rest (id, .host second)) :
    (liftM (left.queue queue) >>= rest : Deciding Decision) = liftM (right.queue queue) >>= rest := by
  rcases hresembles.hostQueue hserves with ⟨failure, hleft, hright⟩ |
    ⟨-, first, second, hleft, hright⟩
  · rw [hleft, hright]
  · rw [hleft, hright, lift_ok_bind, lift_ok_bind]
    exact hrest first second

/-- A command decides the same in sessions that resemble each other. -/
theorem decide_eq (platform : Platform) (hresembles : left.Resembles right)
    (hserves : right.Serves queue id) (command : Command) :
    (command.request queue).decide platform left =
      (command.request queue).decide platform right := by
  cases command with
  | release handle => rfl
  | copyToDevice view =>
    simp only [Command.request, Request.decide, hresembles.view]
    exact bind_queue_eq hresembles hserves fun _ _ ↦ rfl
  | copyToHost view =>
    simp only [Command.request, Request.decide, hresembles.view]
    exact bind_queue_eq hresembles hserves fun _ _ ↦ rfl
  | copy destination source size =>
    simp only [Command.request, Request.decide, hresembles.view]
    exact bind_queue_eq hresembles hserves fun _ _ ↦ rfl
  | launch kernel parameters extent =>
    simp only [Command.request, Request.decide, hresembles.kernel, hresembles.parameters]
    exact bind_queue_eq hresembles hserves fun _ _ ↦ rfl
  | barrier => exact bind_queue_eq hresembles hserves fun _ _ ↦ rfl
  | sync => exact bind_queue_eq hresembles hserves fun _ _ ↦ rfl

/-- What commands on a queue decide to do. -/
inductive Concerns (session : Session) (id : ObjectId) : Decision → Prop where
  | answer (reply : Reply) : Concerns session id (.answer reply)
  | submit (job : Job) (hnames : session.registry.Names id) :
    Concerns session id { effect := .submit id job }
  | launch (job : Job) (hnames : session.registry.Names id) :
    Concerns session id { effect := .launch id job }
  | drain (hnames : session.registry.Names id) : Concerns session id { effect := .drain id }
  | release (handle : Handle) : Concerns session id { effect := .release handle }

variable {found : ObjectId × TaskQueue} {goal : Decision → Prop}

/-- A transfer submits a job, unless it is refused. -/
theorem plainly_transfer (hfound : ∃ ordered, found = (id, .host ordered))
    (hsubmit : ∀ job, job.future = none → goal { effect := .submit id job })
    (view : ObjectId × View) :
    (Session.copyToDevice found view).Plainly goal ∧
      (Session.copyToHost found view).Plainly goal := by
  obtain ⟨ordered, rfl⟩ := hfound
  constructor
  · refine plainly_lift_bind fun result hresult ↦ ?_
    obtain rfl := QueueHooks.transferToDevice_eq_ok hresult
    exact plainly_pure (hsubmit _ rfl)
  · refine plainly_lift_bind fun result hresult ↦ ?_
    obtain rfl := QueueHooks.transferToHost_eq_ok hresult
    exact plainly_pure (hsubmit _ rfl)

/-- A copy submits a job, unless it copies nothing or is refused. -/
theorem plainly_copyView (hfound : ∃ ordered, found = (id, .host ordered))
    (hanswer : goal (.answer .nothing))
    (hsubmit : ∀ job, job.future = none → goal { effect := .submit id job })
    (destination source : ObjectId × View) (size : Nat) :
    (Session.copyView found destination source size).Plainly goal := by
  obtain ⟨ordered, rfl⟩ := hfound
  refine plainly_lift_bind fun result hresult ↦ ?_
  obtain rfl := QueueHooks.copyView_eq_ok hresult
  by_cases hsize : size = 0
  · rw [if_pos hsize]
    exact plainly_pure hanswer
  · rw [if_neg hsize]
    exact plainly_pure (hsubmit _ rfl)

/-- A launch submits a job with a future, unless it is refused. -/
theorem plainly_launch (hfound : ∃ ordered, found = (id, .host ordered))
    (hlaunch : ∀ job, goal { effect := .launch id job }) (kernel : ObjectId × Kernel)
    (parameters : Option (ObjectId × View)) (extent : Extent) :
    (Session.launch found kernel parameters extent).Plainly goal := by
  obtain ⟨ordered, rfl⟩ := hfound
  refine plainly_lift_bind fun result hresult ↦ ?_
  obtain rfl := QueueHooks.launchKernel_eq_ok hresult
  obtain ⟨held, kernel⟩ := kernel
  cases kernel with
  | foreign => exact plainly_refuse _
  | host kernel => exact plainly_pure (hlaunch _)

/-- Whatever a command decides on, it concerns no other queue. -/
theorem plainly_decide (platform : Platform) (hresembles : left.Resembles right)
    (hserves : right.Serves queue id) (command : Command) :
    ((command.request queue).decide platform left).Plainly (Concerns left id) := by
  have hqueue : ∀ found, left.queue queue = .ok found →
      (∃ ordered, found = (id, .host ordered)) ∧ left.registry.Names id := by
    intro found hfound
    rcases hresembles.hostQueue hserves with
      ⟨failure, hleft, -⟩ | ⟨⟨slot, hslot, rfl⟩, first, -, hleft, -⟩
    · rw [hleft] at hfound
      exact absurd hfound (by simp)
    · rw [hleft] at hfound
      exact ⟨⟨first, (Except.ok.inj hfound).symm⟩, Registry.names_of_get? hslot⟩
  cases command with
  | release handle => exact plainly_pure (.release handle)
  | copyToDevice view =>
    refine plainly_lift_bind fun found hfound ↦ plainly_lift_bind fun view _ ↦ ?_
    obtain ⟨hhost, hnames⟩ := hqueue found hfound
    exact (plainly_transfer hhost (fun job _ ↦ .submit job hnames) view).1
  | copyToHost view =>
    refine plainly_lift_bind fun found hfound ↦ plainly_lift_bind fun view _ ↦ ?_
    obtain ⟨hhost, hnames⟩ := hqueue found hfound
    exact (plainly_transfer hhost (fun job _ ↦ .submit job hnames) view).2
  | copy destination source size =>
    refine plainly_lift_bind fun found hfound ↦ plainly_lift_bind fun target _ ↦
      plainly_lift_bind fun origin _ ↦ ?_
    obtain ⟨hhost, hnames⟩ := hqueue found hfound
    exact plainly_copyView hhost (.answer _) (fun job _ ↦ .submit job hnames) target origin size
  | launch kernel parameters extent =>
    refine plainly_lift_bind fun found hfound ↦ plainly_lift_bind fun kernel _ ↦
      plainly_lift_bind fun parameters _ ↦ ?_
    obtain ⟨hhost, hnames⟩ := hqueue found hfound
    exact plainly_launch hhost (fun job ↦ .launch job hnames) kernel parameters extent
  | barrier =>
    refine plainly_lift_bind fun found hfound ↦ ?_
    obtain ⟨⟨ordered, rfl⟩, -⟩ := hqueue found hfound
    exact plainly_pure (.answer _)
  | sync =>
    refine plainly_lift_bind fun found hfound ↦ ?_
    obtain ⟨⟨ordered, rfl⟩, hnames⟩ := hqueue found hfound
    exact plainly_pure (.drain hnames)

end Command

end Offload
