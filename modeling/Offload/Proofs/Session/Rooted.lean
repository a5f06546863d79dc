import Offload.Proofs.Heap.Soundness
import Offload.Session.Basic

/-!
# What keeps objects alive

Handles, operations in flight and jobs refer to objects. The invariant of a session ties the three
together: whatever they refer to is on the heap and of the right kind, and a queue with something
pending or recorded is referred to from outside the heap. The last part is what makes it safe to
give a queue up: one that nothing refers to has neither jobs nor a failure. The invariant is stated
over the stages of the operations in flight, so that it can be used in the middle of an operation.
-/

namespace Offload

/-! ## References from outside the heap -/

/-- A handle names an object. -/
def Registry.Names (registry : Registry ObjectId) (id : ObjectId) : Prop :=
  ∃ slot ∈ registry.values, slot.object = id

theorem Registry.names_of_get? {registry : Registry ObjectId} {handle : Handle}
    {slot : Slot ObjectId} (hslot : registry.get? handle = some slot) :
    registry.Names slot.object := by
  obtain ⟨entry, hentry, rfl⟩ := Option.map_eq_some_iff.1 hslot
  exact ⟨entry.2, List.mem_map_of_mem (List.mem_of_find?_eq_some hentry), rfl⟩

/-- A handle or an operation in flight refers to an object. -/
def Refers (registry : Registry ObjectId) (stages : List Stage) (id : ObjectId) : Prop :=
  (∃ handle slot, registry.get? handle = some slot ∧ slot.object = id) ∨
    ∃ stage ∈ stages, id ∈ stage.references

/-- What keeps objects alive: handles, operations in flight and jobs. -/
def anchors (registry : Registry ObjectId) (stages : List Stage) (heap : Heap) : List ObjectId :=
  registry.values.map (·.object) ++ stages.flatMap (·.references) ++
    heap.jobs.flatMap (·.references)

theorem mem_anchors_iff {registry : Registry ObjectId} {stages : List Stage} {heap : Heap}
    (hregistry : registry.Ordered) {id : ObjectId} :
    id ∈ anchors registry stages heap ↔
      Refers registry stages id ∨ ∃ job ∈ heap.jobs, id ∈ job.references := by
  unfold anchors Refers
  simp only [List.mem_append, List.mem_map, List.mem_flatMap, hregistry.mem_values_iff]
  constructor
  · rintro ((⟨slot, ⟨handle, hslot⟩, hobject⟩ | hstage) | hjob)
    · exact .inl (.inl ⟨handle, slot, hslot, hobject⟩)
    · exact .inl (.inr hstage)
    · exact .inr hjob
  · rintro ((⟨handle, slot, hslot, hobject⟩ | hstage) | hjob)
    · exact .inl (.inl ⟨slot, ⟨handle, hslot⟩, hobject⟩)
    · exact .inl (.inr hstage)
    · exact .inr hjob

theorem Refers.mono {registry : Registry ObjectId} {stages more : List Stage} {id : ObjectId}
    (hsub : stages ⊆ more) (hrefers : Refers registry stages id) : Refers registry more id :=
  hrefers.imp_right fun ⟨stage, hstage, hid⟩ ↦ ⟨stage, hsub hstage, hid⟩

/-- What an operation in flight relies on. -/
def Stage.Supported (find? : ObjectId → Option Object) : Stage → Prop
  | .room id job => (∃ queue, find? id = some (.queue (.host queue))) ∧ job.Supported find?
  | .drained id => ∃ queue, find? id = some (.queue (.host queue))
  | .discarded id _ => ∃ queue, find? id = some (.queue (.host queue))

theorem Stage.Supported.queue {find? : ObjectId → Option Object} {stage : Stage}
    (hsupported : stage.Supported find?) :
    ∃ queue, find? stage.queue = some (.queue (.host queue)) := by
  cases stage with
  | room id job => exact hsupported.1
  | drained id => exact hsupported
  | discarded id outcome => exact hsupported

open Heap

theorem Stage.Supported.transfer {left right : Heap} {stage : Stage}
    (hcarries : ∀ id ∈ stage.references, Carries left right id)
    (hsupported : stage.Supported left.get?) : stage.Supported right.get? := by
  have hqueue (id : ObjectId) (hid : id ∈ stage.references)
      (hget : ∃ queue, left.get? id = some (.queue (.host queue))) :
      ∃ queue, right.get? id = some (.queue (.host queue)) := by
    obtain ⟨queue, hget⟩ := hget
    obtain ⟨other, hother, houtline⟩ := hcarries id hid _ hget
    obtain ⟨progress, jobs, rfl⟩ := Object.eq_of_outline_hostQueue houtline
    exact ⟨_, hother⟩
  cases stage with
  | room id job =>
    refine ⟨hqueue id List.mem_cons_self hsupported.1, hsupported.2.transfer ?_⟩
    intro held hheld
    exact hcarries held (List.mem_cons_of_mem _ hheld)
  | drained id => exact hqueue id List.mem_cons_self hsupported
  | discarded id outcome => exact hqueue id List.mem_cons_self hsupported

/-! ## The invariant -/

/-- The handles and the operations in flight have what they refer to on the heap, and the heap is
sound. -/
structure Rooted (registry : Registry ObjectId) (stages : List Stage) (heap : Heap) : Prop where
  sound : heap.Sound
  numbered : registry.Ordered
  /-- A handle names an object of its kind. -/
  exposed : ∀ {handle slot}, registry.get? handle = some slot →
    ∃ object, heap.get? slot.object = some object ∧ object.kind = slot.kind
  supported : ∀ stage ∈ stages, stage.Supported heap.get?
  /-- A queue with something pending or recorded is referred to. -/
  busy : ∀ {id queue}, heap.hostQueue? id = some queue → queue.progress ≠ {} →
    Refers registry stages id

/-- Nothing is on the heap but what handles, operations in flight and jobs keep alive. -/
def Tidy (registry : Registry ObjectId) (stages : List Stage) (heap : Heap) : Prop :=
  ∀ {id object}, heap.get? id = some object → Reach heap (anchors registry stages heap) id

namespace Rooted

variable {registry : Registry ObjectId} {stages more : List Stage} {heap left right : Heap}

theorem ordered (hrooted : Rooted registry stages heap) : heap.Ordered :=
  hrooted.sound.layered.ordered

/-- More operations may come in flight. -/
theorem weaken (hrooted : Rooted registry stages heap) (hsub : stages ⊆ more)
    (hmore : ∀ stage ∈ more, stage ∉ stages → stage.Supported heap.get?) :
    Rooted registry more heap where
  sound := hrooted.sound
  numbered := hrooted.numbered
  exposed := hrooted.exposed
  supported := by
    intro stage hstage
    by_cases hold : stage ∈ stages
    · exact hrooted.supported stage hold
    · exact hmore stage hstage hold
  busy := fun hqueue hjobs ↦ (hrooted.busy hqueue hjobs).mono hsub

theorem congr_stages (hrooted : Rooted registry stages heap)
    (hsame : ∀ stage, stage ∈ stages ↔ stage ∈ more) : Rooted registry more heap :=
  hrooted.weaken (fun stage ↦ (hsame stage).1) fun stage hstage hnew ↦
    absurd ((hsame stage).2 hstage) hnew

/-- An operation may end if the queues it refers to have nothing pending or recorded or are
referred to otherwise. -/
theorem drop {stage : Stage} (hrooted : Rooted registry (stage :: stages) heap)
    (hbusy : ∀ id ∈ stage.references, ∀ queue, heap.hostQueue? id = some queue →
      queue.progress ≠ {} → Refers registry stages id) : Rooted registry stages heap where
  sound := hrooted.sound
  numbered := hrooted.numbered
  exposed := hrooted.exposed
  supported := fun other hother ↦ hrooted.supported other (List.mem_cons_of_mem _ hother)
  busy := by
    intro id queue hqueue hjobs
    rcases hrooted.busy hqueue hjobs with hhandle | ⟨other, hother, hid⟩
    · exact .inl hhandle
    · rcases List.mem_cons.1 hother with rfl | hother
      · exact hbusy id hid queue hqueue hjobs
      · exact .inr ⟨other, hother, hid⟩

/-! ## Changes of the heap -/

theorem of_alike (hrooted : Rooted registry stages left) (halike : Alike left right)
    (hqueues : ∀ id, right.hostQueue? id = left.hostQueue? id) :
    Rooted registry stages right where
  sound := hrooted.sound.of_alike halike hqueues
  numbered := hrooted.numbered
  exposed := by
    intro handle slot hslot
    obtain ⟨object, hget, hkind⟩ := hrooted.exposed hslot
    obtain ⟨other, hother, houtline⟩ := halike.get?_eq_some hget
    exact ⟨other, hother, (Object.kind_eq_of_outline_eq houtline).trans hkind⟩
  supported := fun stage hstage ↦
    (hrooted.supported stage hstage).transfer fun id _ ↦ halike.carries id
  busy := fun hqueue hjobs ↦ hrooted.busy ((hqueues _) ▸ hqueue) hjobs

/-- A queue may change if it stays sound and is referred to while something is pending or
recorded. -/
theorem modifyQueue (hrooted : Rooted registry stages heap) {id : ObjectId} {queue : HostQueue}
    (progress : HostQueue → Progress) (jobs : HostQueue → List Job)
    (hqueue : heap.hostQueue? id = some queue)
    (hafter : HostQueue.Sound heap.get?
      { queue with progress := progress queue, jobs := jobs queue })
    (hbusy : progress queue ≠ {} → Refers registry stages id) :
    Rooted registry stages (heap.modifyQueue id fun queue ↦
      { queue with progress := progress queue, jobs := jobs queue }) where
  sound := hrooted.sound.modifyQueue progress jobs hqueue hafter
  numbered := hrooted.numbered
  exposed := by
    intro handle slot hslot
    obtain ⟨object, hget, hkind⟩ := hrooted.exposed hslot
    obtain ⟨other, hother, houtline⟩ :=
      (alike_modifyQueue heap id progress jobs).get?_eq_some hget
    exact ⟨other, hother, (Object.kind_eq_of_outline_eq houtline).trans hkind⟩
  supported := fun stage hstage ↦ (hrooted.supported stage hstage).transfer fun id _ ↦
    (alike_modifyQueue heap _ progress jobs).carries id
  busy := by
    intro other found hfound hjobs
    rw [hostQueue?_modifyQueue] at hfound
    split at hfound
    · next hother =>
      rw [hother, hqueue, Option.map_some] at hfound
      obtain rfl := Option.some.inj hfound
      exact hother ▸ hbusy hjobs
    · exact hrooted.busy hfound hjobs

/-- A new object may come if it has what it relies on. -/
theorem insert (hrooted : Rooted registry stages heap) {object : Object}
    (hsupported : object.Supported heap.get?)
    (hidle : ∀ queue, object = .queue (.host queue) →
      queue.Sound heap.get? ∧ queue.progress = {}) :
    Rooted registry stages (heap.insert object).1 where
  sound := hrooted.sound.insert hsupported fun queue hqueue ↦ (hidle queue hqueue).1
  numbered := hrooted.numbered
  exposed := by
    intro handle slot hslot
    obtain ⟨found, hget, hkind⟩ := hrooted.exposed hslot
    obtain ⟨other, hother, houtline⟩ := carries_insert hrooted.ordered object _ _ hget
    exact ⟨other, hother, (Object.kind_eq_of_outline_eq houtline).trans hkind⟩
  supported := fun stage hstage ↦ (hrooted.supported stage hstage).transfer fun id _ ↦
    carries_insert hrooted.ordered object id
  busy := by
    intro id queue hqueue hjobs
    rw [hostQueue?_eq_some, Table.get?_insert] at hqueue
    split at hqueue
    · exact absurd (hidle queue (Option.some.inj hqueue)).2 hjobs
    · exact hrooted.busy (hostQueue?_eq_some.2 hqueue) hjobs

/-! ## Changes of the registry -/

/-- Another handle may be given out for an object that is there. -/
theorem register (hrooted : Rooted registry stages heap) {kind : Kind} {id : ObjectId}
    {object : Object} (hget : heap.get? id = some object) (hkind : object.kind = kind) :
    Rooted (registry.register kind id).1 stages heap where
  sound := hrooted.sound
  numbered := hrooted.numbered.insert _
  exposed := by
    intro handle slot hslot
    rw [Registry.register, Table.get?_insert] at hslot
    split at hslot
    · obtain rfl := Option.some.inj hslot
      exact ⟨object, hget, hkind⟩
    · exact hrooted.exposed hslot
  supported := hrooted.supported
  busy := by
    intro other queue hqueue hjobs
    rcases hrooted.busy hqueue hjobs with ⟨handle, slot, hslot, hobject⟩ | hstage
    · have hne : handle ≠ registry.next := Nat.ne_of_lt (hrooted.numbered.lt_next hslot)
      exact .inl ⟨handle, slot, by rw [Registry.register, Table.get?_insert, if_neg hne, hslot],
        hobject⟩
    · exact .inr hstage

/-- The count of a handle does not matter. -/
theorem recount (hrooted : Rooted registry stages heap) (handle : Handle)
    (count : Slot ObjectId → Nat) :
    Rooted (registry.modify handle fun slot ↦ { slot with count := count slot }) stages heap where
  sound := hrooted.sound
  numbered := Table.Ordered.modify hrooted.numbered handle fun slot ↦
    { slot with count := count slot }
  exposed := by
    intro other slot hslot
    rw [Table.get?_modify] at hslot
    split at hslot
    · obtain ⟨before, hbefore, rfl⟩ := Option.map_eq_some_iff.1 hslot
      obtain ⟨object, hget, hkind⟩ := hrooted.exposed hbefore
      exact ⟨object, hget, hkind⟩
    · exact hrooted.exposed hslot
  supported := hrooted.supported
  busy := by
    intro id queue hqueue hjobs
    rcases hrooted.busy hqueue hjobs with ⟨other, slot, hslot, hobject⟩ | hstage
    · rw [← hobject]
      by_cases hother : other = handle
      · exact .inl ⟨other, { slot with count := count slot },
          by rw [Table.get?_modify, if_pos hother, hslot, Option.map_some], rfl⟩
      · exact .inl ⟨other, slot, by rw [Table.get?_modify, if_neg hother, hslot], rfl⟩
    · exact .inr hstage

/-- A handle may go if a queue it names has nothing pending or recorded or is referred to
otherwise. -/
theorem erase (hrooted : Rooted registry stages heap) {handle : Handle} {slot : Slot ObjectId}
    (hslot : registry.get? handle = some slot)
    (hbusy : ∀ queue, heap.hostQueue? slot.object = some queue → queue.progress ≠ {} →
      Refers (registry.erase handle) stages slot.object) :
    Rooted (registry.erase handle) stages heap where
  sound := hrooted.sound
  numbered := hrooted.numbered.erase handle
  exposed := by
    intro other found hfound
    rw [Table.get?_erase] at hfound
    split at hfound
    · exact absurd hfound (by simp)
    · exact hrooted.exposed hfound
  supported := hrooted.supported
  busy := by
    intro id queue hqueue hjobs
    rcases hrooted.busy hqueue hjobs with ⟨other, found, hfound, hobject⟩ | hstage
    · by_cases hother : other = handle
      · rw [hother, hslot] at hfound
        obtain rfl := Option.some.inj hfound
        exact hobject ▸ hbusy queue (hobject ▸ hqueue) hjobs
      · exact .inl ⟨other, found, by rw [Table.get?_erase, if_neg hother, hfound], hobject⟩
    · exact .inr hstage

/-! ## Collection -/

theorem collect (hrooted : Rooted registry stages heap) :
    Rooted registry stages (heap.collect (anchors registry stages heap)) := by
  have hlayered := hrooted.sound.layered
  have hkept {id : ObjectId} (hrefers : Refers registry stages id) :
      Carries heap (heap.collect (anchors registry stages heap)) id :=
    carries_collect hlayered (.root ((mem_anchors_iff hrooted.numbered).2 (.inl hrefers)))
  constructor
  case sound =>
    apply hrooted.sound.collect
    intro job hjob id hid
    exact (mem_anchors_iff hrooted.numbered).2 (.inr ⟨job, hjob, hid⟩)
  case numbered => exact hrooted.numbered
  case exposed =>
    intro handle slot hslot
    obtain ⟨object, hget, hkind⟩ := hrooted.exposed hslot
    obtain ⟨other, hother, houtline⟩ := hkept (.inl ⟨handle, slot, hslot, rfl⟩) _ hget
    exact ⟨other, hother, (Object.kind_eq_of_outline_eq houtline).trans hkind⟩
  case supported =>
    intro stage hstage
    exact (hrooted.supported stage hstage).transfer fun id hid ↦ hkept (.inr ⟨stage, hstage, hid⟩)
  case busy =>
    intro id queue hqueue hjobs
    exact hrooted.busy ((hostQueue?_collect_eq_some hlayered).1 hqueue).1 hjobs

/-- A collection forgets no job: a queue it takes away has none. -/
theorem mem_jobs_collect_iff (hrooted : Rooted registry stages heap) {job : Job} :
    job ∈ (heap.collect (anchors registry stages heap)).jobs ↔ job ∈ heap.jobs := by
  have hlayered := hrooted.sound.layered
  have horder := (layered_collect hlayered (anchors registry stages heap)).ordered
  rw [mem_jobs_iff horder, mem_jobs_iff hrooted.ordered]
  simp only [hostQueue?_collect_eq_some hlayered]
  constructor
  · rintro ⟨id, queue, ⟨hqueue, -⟩, hjob⟩
    exact ⟨id, queue, hqueue, hjob⟩
  · rintro ⟨id, queue, hqueue, hjob⟩
    have hrefers := hrooted.busy hqueue ((hrooted.sound.queues hqueue).progress_ne hjob)
    exact ⟨id, queue,
      ⟨hqueue, .root ((mem_anchors_iff hrooted.numbered).2 (.inl hrefers))⟩, hjob⟩

/-- After a collection nothing is left to collect. -/
theorem tidy_collect (hrooted : Rooted registry stages heap) :
    Tidy registry stages (heap.collect (anchors registry stages heap)) := by
  have hlayered := hrooted.sound.layered
  intro id object hget
  obtain ⟨hreach, -⟩ := get?_of_get?_collect hlayered hget
  apply Reach.subset _ ((reach_collect_iff hlayered).2 hreach)
  intro root hroot
  rw [mem_anchors_iff hrooted.numbered] at hroot ⊢
  simpa only [hrooted.mem_jobs_collect_iff] using hroot

end Rooted

/-! ## What is referred to -/

/-- What an anchor names is on the heap. -/
theorem Rooted.exists_of_mem_anchors {registry : Registry ObjectId} {stages : List Stage}
    {heap : Heap} {id : ObjectId} (hrooted : Rooted registry stages heap)
    (hid : id ∈ anchors registry stages heap) : ∃ object, heap.get? id = some object := by
  have hjob {job : Job} (hjob : job.Supported heap.get?) (hid : id ∈ job.references) :
      ∃ object, heap.get? id = some object := by
    rcases List.mem_append.1 hid with hfuture | hheld
    · obtain ⟨state, hget⟩ := hjob.future id (Option.mem_toList.1 hfuture)
      exact ⟨_, hget⟩
    · obtain ⟨object, hget, -⟩ := hjob.holds id hheld
      exact ⟨_, hget⟩
  rcases (mem_anchors_iff hrooted.numbered).1 hid with
    (⟨handle, slot, hslot, rfl⟩ | ⟨stage, hstage, hmem⟩) | ⟨job, hmem, hreference⟩
  · obtain ⟨object, hget, -⟩ := hrooted.exposed hslot
    exact ⟨object, hget⟩
  · have hsupported := hrooted.supported stage hstage
    cases stage with
    | room queue job =>
      rcases List.mem_cons.1 hmem with rfl | hmem
      · obtain ⟨queue, hget⟩ := hsupported.1
        exact ⟨_, hget⟩
      · exact hjob hsupported.2 hmem
    | drained queue =>
      obtain rfl := List.mem_singleton.1 hmem
      obtain ⟨queue, hget⟩ := hsupported
      exact ⟨_, hget⟩
    | discarded queue outcome =>
      obtain rfl := List.mem_singleton.1 hmem
      obtain ⟨queue, hget⟩ := hsupported
      exact ⟨_, hget⟩
  · obtain ⟨queue, ordered, hqueue, hmem⟩ := (mem_jobs_iff hrooted.ordered).1 hmem
    exact hjob ((hrooted.sound.queues hqueue).jobs job hmem) hreference

theorem refers_of_names {registry : Registry ObjectId} {id : ObjectId} (hnumbered : registry.Ordered)
    (hnames : registry.Names id) (stages : List Stage) : Refers registry stages id := by
  obtain ⟨slot, hslot, hobject⟩ := hnames
  obtain ⟨handle, hget⟩ := hnumbered.mem_values_iff.1 hslot
  exact .inl ⟨handle, slot, hget, hobject⟩

/-! ## Tidiness under changes -/

/-- Changes in place keep a heap tidy as long as no anchor is lost. -/
theorem Tidy.of_alike {registry registry' : Registry ObjectId} {stages stages' : List Stage}
    {left right : Heap} (htidy : Tidy registry stages left) (halike : Alike left right)
    (hsub : anchors registry stages left ⊆ anchors registry' stages' right) :
    Tidy registry' stages' right := by
  intro id object hget
  obtain ⟨other, hother, -⟩ := halike.symm.get?_eq_some hget
  exact (Reach.of_alike halike (htidy hother)).subset hsub

end Offload
