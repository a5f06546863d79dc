import Offload.Proofs.Heap.Reachability

/-!
# Sound heaps

Objects rely on the objects they hold: a device on a host context, a composite on modules with the
code of its parts, a kernel on a module whose own code defines its entry, and a job on the views,
the kernel and the future of its operation. A heap is sound when everything its objects rely on is
there. What an object relies on is part of outlines, so changes in place keep a heap sound, and so
does a collection that starts from everything the jobs of its queues refer to.
-/

namespace Offload

/-! ## Outlines of each kind -/

namespace Object

variable {object : Object}

theorem eq_of_outline_context {adopted : Bool} {ranges : RangeTracker}
    (houtline : object.outline = (context (.host adopted ranges)).outline) :
    ∃ ranges', object = context (.host adopted ranges') := by
  rcases object with (⟨_, _⟩ | _) | _ | _ | (_ | _) | _ | (_ | _) | (_ | _)
  all_goals simp_all [outline]

theorem eq_of_outline_device {found : Device}
    (houtline : object.outline = (device found).outline) : object = device found := by
  rcases object with (_ | _) | _ | _ | (_ | _) | _ | (_ | _) | (_ | _)
  all_goals simp_all [outline]

theorem eq_of_outline_view {found : View}
    (houtline : object.outline = (view found).outline) : object = view found := by
  rcases object with (_ | _) | _ | _ | (_ | _) | _ | (_ | _) | (_ | _)
  all_goals simp_all [outline]

theorem eq_of_outline_kernel {found : Kernel}
    (houtline : object.outline = (kernel found).outline) : object = kernel found := by
  rcases object with (_ | _) | _ | _ | (_ | _) | _ | (_ | _) | (_ | _)
  all_goals simp_all [outline]

theorem eq_of_outline_hostModule {loaded : HostModule}
    (houtline : object.outline = (module (.host loaded)).outline) :
    ∃ peers, object = module (.host { loaded with peers }) := by
  rcases object with (_ | _) | _ | _ | (found | _) | _ | (_ | _) | (_ | _)
  case module.host =>
    refine ⟨found.peers, ?_⟩
    simp only [outline, module.injEq, CodeModule.host.injEq, HostModule.mk.injEq] at houtline
    obtain ⟨hname, hcode, hoptions, -⟩ := houtline
    rw [← hname, ← hcode, ← hoptions]
  all_goals simp_all [outline]

theorem eq_of_outline_module {found : CodeModule}
    (houtline : object.outline = (module found).outline) : ∃ other, object = module other := by
  rcases object with (_ | _) | _ | _ | (_ | _) | _ | (_ | _) | (_ | _)
  case module.host => exact ⟨_, rfl⟩
  case module.foreign => exact ⟨_, rfl⟩
  all_goals cases found <;> simp_all [outline]

theorem eq_of_outline_hostQueue {ordered : HostQueue}
    (houtline : object.outline = (queue (.host ordered)).outline) :
    ∃ progress jobs, object = queue (.host { ordered with progress, jobs }) := by
  rcases object with (_ | _) | _ | _ | (_ | _) | _ | (found | _) | (_ | _)
  case queue.host =>
    refine ⟨found.progress, found.jobs, ?_⟩
    simp only [outline, queue.injEq, TaskQueue.host.injEq, HostQueue.mk.injEq] at houtline
    obtain ⟨hdevice, hcapacity, -⟩ := houtline
    rw [← hdevice, ← hcapacity]
  all_goals simp_all [outline]

theorem eq_of_outline_cell {state : FutureState}
    (houtline : object.outline = (future (.cell state)).outline) :
    ∃ state', object = future (.cell state') := by
  rcases object with (_ | _) | _ | _ | (_ | _) | _ | (_ | _) | (_ | _)
  all_goals simp_all [outline]

end Object

/-! ## What objects and jobs rely on -/

/-- Whether only libraries bring entries of library files. -/
def Code.Plain : Code → Prop
  | .symbols routines => ∀ routine ∈ routines, ∃ name, routine.2 = .host name
  | _ => True

/-- What an object relies on, where `find?` reads the objects it holds. -/
def Object.Supported (find? : ObjectId → Option Object) : Object → Prop
  | .device (.host _ parent) =>
    ∃ adopted ranges, find? parent = some (.context (.host adopted ranges))
  | .module (.host loaded) =>
    loaded.code.Plain ∧
      ∀ part ∈ loaded.code.parts, ∃ source, find? part.1 = some (.module (.host source)) ∧
        source.name = part.2.1 ∧ source.code = part.2.2
  | .kernel (.host resolved) =>
    (∃ asked, find? resolved.module = some (.module (.host asked))) ∧
      ∃ owner, find? resolved.owner = some (.module (.host owner)) ∧
        owner.code.resolve resolved.name = some resolved.entry
  | .kernel (.foreign _ _ parent) => ∃ asked, find? parent = some (.module asked)
  | .queue (.host ordered) =>
    ∃ index parent, find? ordered.device = some (.device (.host index parent))
  | _ => True

/-- What a job relies on until it has run. -/
structure Job.Supported (find? : ObjectId → Option Object) (job : Job) : Prop where
  /-- It holds views and kernels only. -/
  holds : ∀ id ∈ job.holds, ∃ object, find? id = some object ∧
    (object.kind = .memoryView ∨ object.kind = .kernel)
  future : ∀ id, job.future = some id → ∃ state, find? id = some (.future (.cell state))
  /-- A launch holds a kernel with the entry it enters. -/
  entry : ∀ entry invocation, job.work = .enter entry invocation →
    ∃ id ∈ job.holds, ∃ kernel, find? id = some (.kernel (.host kernel)) ∧ kernel.entry = entry

/-- The jobs of a queue are counted, fit its capacity and have what they rely on. -/
structure HostQueue.Sound (find? : ObjectId → Option Object) (queue : HostQueue) : Prop where
  pending : queue.progress.pending = queue.jobs.length
  bounded : queue.progress.pending ≤ queue.capacity
  positive : 0 < queue.capacity
  jobs : ∀ job ∈ queue.jobs, job.Supported find?

theorem HostQueue.sound_new (find? : ObjectId → Option Object) (device : ObjectId)
    (capacity : Nat) : (HostQueue.new device capacity).Sound find? where
  pending := rfl
  bounded := Nat.zero_le _
  positive := Nat.lt_of_lt_of_le Nat.zero_lt_one (Nat.le_max_right _ _)
  jobs := by simp [HostQueue.new]

/-- A queue with a job counts it. -/
theorem HostQueue.Sound.progress_ne {find? : ObjectId → Option Object} {queue : HostQueue}
    {job : Job} (hsound : queue.Sound find?) (hjob : job ∈ queue.jobs) : queue.progress ≠ {} := by
  intro hprogress
  have hpending := hsound.pending
  rw [hprogress] at hpending
  exact absurd (List.length_eq_zero_iff.1 hpending.symm) (List.ne_nil_of_mem hjob)

namespace Heap

variable {heap left right : Heap} {roots : List ObjectId} {id : ObjectId}

/-- What is under a number on the left is there on the right as well, with the same outline. -/
def Carries (left right : Heap) (id : ObjectId) : Prop :=
  ∀ object, left.get? id = some object →
    ∃ other, right.get? id = some other ∧ other.outline = object.outline

theorem Alike.carries (halike : Alike left right) (id : ObjectId) : Carries left right id :=
  fun _ hget ↦ halike.get?_eq_some hget

theorem carries_insert (horder : heap.Ordered) (object : Object) (id : ObjectId) :
    Carries heap (heap.insert object).1 id := by
  intro found hget
  have hne : id ≠ heap.next := Nat.ne_of_lt (horder.lt_next hget)
  exact ⟨found, by rw [Table.get?_insert, if_neg hne, hget], rfl⟩

theorem carries_collect (hlayered : heap.Layered) (hreach : Reach heap roots id) :
    Carries heap (heap.collect roots) id :=
  fun _ hget ↦ get?_collect_of_reach hlayered hreach hget

end Heap

open Heap

theorem Object.Supported.transfer {left right : Heap} {object : Object}
    (hcarries : ∀ id ∈ object.holds, Carries left right id)
    (hsupported : object.Supported left.get?) : object.Supported right.get? := by
  rcases object with _ | (⟨_, parent⟩ | _) | _ | (loaded | _) | (resolved | ⟨_, _, parent⟩) |
    (ordered | _) | _
  case device.host =>
    obtain ⟨adopted, ranges, hget⟩ := hsupported
    obtain ⟨other, hother, houtline⟩ := hcarries parent (by simp [Object.holds]) _ hget
    obtain ⟨ranges', rfl⟩ := Object.eq_of_outline_context houtline
    exact ⟨adopted, ranges', hother⟩
  case module.host =>
    refine ⟨hsupported.1, ?_⟩
    intro part hpart
    obtain ⟨source, hget, hname, hcode⟩ := hsupported.2 part hpart
    have hheld : part.1 ∈ (Object.module (.host loaded)).holds := List.mem_map_of_mem hpart
    obtain ⟨other, hother, houtline⟩ := hcarries _ hheld _ hget
    obtain ⟨peers, rfl⟩ := Object.eq_of_outline_hostModule houtline
    exact ⟨_, hother, hname, hcode⟩
  case kernel.host =>
    obtain ⟨⟨asked, hasked⟩, owner, howner, hresolve⟩ := hsupported
    obtain ⟨other, hother, houtline⟩ := hcarries resolved.module (by simp [Object.holds]) _ hasked
    obtain ⟨peers, rfl⟩ := Object.eq_of_outline_hostModule houtline
    obtain ⟨other', hother', houtline'⟩ :=
      hcarries resolved.owner (by simp [Object.holds]) _ howner
    obtain ⟨peers', rfl⟩ := Object.eq_of_outline_hostModule houtline'
    exact ⟨⟨_, hother⟩, _, hother', hresolve⟩
  case kernel.foreign =>
    obtain ⟨asked, hget⟩ := hsupported
    obtain ⟨other, hother, houtline⟩ := hcarries parent (by simp [Object.holds]) _ hget
    obtain ⟨found, rfl⟩ := Object.eq_of_outline_module houtline
    exact ⟨found, hother⟩
  case queue.host =>
    obtain ⟨index, parent, hget⟩ := hsupported
    obtain ⟨other, hother, houtline⟩ := hcarries ordered.device (by simp [Object.holds]) _ hget
    exact ⟨index, parent, (Object.eq_of_outline_device houtline) ▸ hother⟩
  all_goals trivial

theorem Job.Supported.transfer {left right : Heap} {job : Job}
    (hcarries : ∀ id ∈ job.references, Carries left right id)
    (hsupported : job.Supported left.get?) : job.Supported right.get? where
  holds := by
    intro id hid
    obtain ⟨object, hget, hkind⟩ := hsupported.holds id hid
    obtain ⟨other, hother, houtline⟩ := hcarries id (List.mem_append_right _ hid) _ hget
    exact ⟨other, hother, (Object.kind_eq_of_outline_eq houtline) ▸ hkind⟩
  future := by
    intro id hid
    obtain ⟨state, hget⟩ := hsupported.future id hid
    have hmem : id ∈ job.references := List.mem_append_left _ (by simp [hid])
    obtain ⟨other, hother, houtline⟩ := hcarries id hmem _ hget
    obtain ⟨state', rfl⟩ := Object.eq_of_outline_cell houtline
    exact ⟨state', hother⟩
  entry := by
    intro entry invocation hwork
    obtain ⟨id, hid, kernel, hget, hentry⟩ := hsupported.entry entry invocation hwork
    obtain ⟨other, hother, houtline⟩ := hcarries id (List.mem_append_right _ hid) _ hget
    exact ⟨id, hid, kernel, (Object.eq_of_outline_kernel houtline) ▸ hother, hentry⟩

theorem HostQueue.Sound.transfer {left right : Heap} {queue : HostQueue}
    (hcarries : ∀ job ∈ queue.jobs, ∀ id ∈ job.references, Carries left right id)
    (hsound : queue.Sound left.get?) : queue.Sound right.get? :=
  { hsound with jobs := fun job hjob ↦ (hsound.jobs job hjob).transfer (hcarries job hjob) }

/-! ## Sound heaps -/

/-- A heap in which all objects have what they rely on. -/
structure Heap.Sound (heap : Heap) : Prop where
  layered : heap.Layered
  supported : ∀ {id object}, heap.get? id = some object → object.Supported heap.get?
  queues : ∀ {id queue}, heap.hostQueue? id = some queue → queue.Sound heap.get?

namespace Heap.Sound

variable {heap left right : Heap} {roots : List ObjectId} {id : ObjectId}

theorem outline_supported {object other : Object} {find? : ObjectId → Option Object}
    (houtline : object.outline = other.outline) (hsupported : object.Supported find?) :
    other.Supported find? := by
  rcases object with (_ | _) | _ | _ | (_ | _) | _ | (_ | _) | (_ | _)
  all_goals
    rcases other with (_ | _) | _ | _ | (_ | _) | _ | (_ | _) | (_ | _)
    all_goals simp_all [Object.outline, Object.Supported]

/-- Changes in place that leave the queues alone keep a heap sound. -/
theorem of_alike (hsound : left.Sound) (halike : Alike left right)
    (hqueues : ∀ id, right.hostQueue? id = left.hostQueue? id) : right.Sound where
  layered := hsound.layered.of_alike halike
  supported := by
    intro id object hget
    obtain ⟨other, hother, houtline⟩ := halike.symm.get?_eq_some hget
    exact outline_supported houtline
      ((hsound.supported hother).transfer fun held _ ↦ halike.carries held)
  queues := by
    intro id queue hqueue
    rw [hqueues] at hqueue
    exact (hsound.queues hqueue).transfer fun _ _ held _ ↦ halike.carries held

/-- A change of a queue that keeps the queue sound keeps the heap sound. -/
theorem modifyQueue (hsound : heap.Sound) {queue : HostQueue} (progress : HostQueue → Progress)
    (jobs : HostQueue → List Job) (hqueue : heap.hostQueue? id = some queue)
    (hafter : HostQueue.Sound heap.get?
      { queue with progress := progress queue, jobs := jobs queue }) :
    (heap.modifyQueue id fun queue ↦
      { queue with progress := progress queue, jobs := jobs queue }).Sound := by
  have halike := alike_modifyQueue heap id progress jobs
  constructor
  case layered => exact hsound.layered.of_alike halike
  case supported =>
    intro other object hget
    obtain ⟨before, hbefore, houtline⟩ := halike.symm.get?_eq_some hget
    exact outline_supported houtline
      ((hsound.supported hbefore).transfer fun held _ ↦ halike.carries held)
  case queues =>
    intro other found hfound
    rw [hostQueue?_modifyQueue] at hfound
    split at hfound
    · next hother =>
      rw [hother, hqueue, Option.map_some] at hfound
      obtain rfl := Option.some.inj hfound
      exact hafter.transfer fun _ _ held _ ↦ halike.carries held
    · exact (hsound.queues hfound).transfer fun _ _ held _ ↦ halike.carries held

/-- What an object holds is on the heap if the object has what it relies on. No object holds a
view. -/
theorem exists_of_mem_holds {object : Object} (hsupported : object.Supported heap.get?)
    {held : ObjectId} (hheld : held ∈ object.holds) :
    ∃ other, heap.get? held = some other ∧ other.kind ≠ .memoryView := by
  rcases object with _ | (⟨_, parent⟩ | _) | _ | (loaded | _) | (resolved | ⟨_, _, parent⟩) |
    (ordered | _) | _
  case device.host =>
    obtain ⟨adopted, ranges, hget⟩ := hsupported
    obtain rfl : held = parent := by simpa [Object.holds] using hheld
    exact ⟨_, hget, by simp [Object.kind]⟩
  case module.host =>
    obtain ⟨part, hpart, rfl⟩ := List.mem_map.1 hheld
    obtain ⟨source, hget, -⟩ := hsupported.2 part hpart
    exact ⟨_, hget, by simp [Object.kind]⟩
  case kernel.host =>
    obtain ⟨⟨asked, hasked⟩, owner, howner, -⟩ := hsupported
    rcases (by simpa [Object.holds] using hheld : held = resolved.module ∨ held = resolved.owner)
      with rfl | rfl
    · exact ⟨_, hasked, by simp [Object.kind]⟩
    · exact ⟨_, howner, by simp [Object.kind]⟩
  case kernel.foreign =>
    obtain ⟨asked, hget⟩ := hsupported
    obtain rfl : held = parent := by simpa [Object.holds] using hheld
    exact ⟨_, hget, by simp [Object.kind]⟩
  case queue.host =>
    obtain ⟨index, parent, hget⟩ := hsupported
    obtain rfl : held = ordered.device := by simpa [Object.holds] using hheld
    exact ⟨_, hget, by simp [Object.kind]⟩
  all_goals exact absurd hheld List.not_mem_nil

theorem insert (hsound : heap.Sound) {object : Object} (hsupported : object.Supported heap.get?)
    (hqueue : ∀ queue, object = .queue (.host queue) → queue.Sound heap.get?) :
    Heap.Sound (heap.insert object).1 := by
  have horder := hsound.layered.ordered
  constructor
  case layered =>
    apply hsound.layered.insert
    intro held hheld
    obtain ⟨other, hother, -⟩ := exists_of_mem_holds hsupported hheld
    exact horder.lt_next hother
  case supported =>
    intro id found hget
    rw [Table.get?_insert] at hget
    split at hget
    · obtain rfl := Option.some.inj hget
      exact hsupported.transfer fun held _ ↦ carries_insert horder object held
    · exact (hsound.supported hget).transfer fun held _ ↦ carries_insert horder object held
  case queues =>
    intro id found hfound
    rw [hostQueue?_eq_some, Table.get?_insert] at hfound
    split at hfound
    · exact (hqueue found (Option.some.inj hfound)).transfer
        fun _ _ held _ ↦ carries_insert horder object held
    · exact (hsound.queues (hostQueue?_eq_some.2 hfound)).transfer
        fun _ _ held _ ↦ carries_insert horder object held

/-- A collection that starts from all that jobs refer to keeps a heap sound. -/
theorem collect (hsound : heap.Sound)
    (hjobs : ∀ job ∈ heap.jobs, ∀ id ∈ job.references, id ∈ roots) :
    (heap.collect roots).Sound := by
  have hlayered := hsound.layered
  constructor
  case layered => exact layered_collect hlayered roots
  case supported =>
    intro id object hget
    obtain ⟨hreach, before, hbefore, houtline⟩ := get?_of_get?_collect hlayered hget
    apply outline_supported houtline
    exact (hsound.supported hbefore).transfer fun held hheld ↦
      carries_collect hlayered (hreach.held hbefore hheld)
  case queues =>
    intro id queue hqueue
    obtain ⟨hbefore, -⟩ := (hostQueue?_collect_eq_some hlayered).1 hqueue
    apply (hsound.queues hbefore).transfer
    intro job hjob held hheld
    have hmem : job ∈ heap.jobs :=
      (mem_jobs_iff hlayered.ordered).2 ⟨id, queue, hbefore, hjob⟩
    exact carries_collect hlayered (.root (hjobs job hmem held hheld))

end Heap.Sound

end Offload
