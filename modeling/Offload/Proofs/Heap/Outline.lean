import Offload.Heap
import Offload.Proofs.Table

/-!
# What changes on the heap

Objects keep most of what they are made with. Only the ranges of a context, the peers of a module,
the jobs of a queue and the state of a future change later. The outline of an object is what is left
without these. Two heaps are alike when their objects have the same numbers and outlines, and
every change in place leaves a heap alike to what it was.
-/

namespace Offload

namespace Object

/-- An object without the parts that change. -/
def outline : Object → Object
  | context (.host adopted _) => context (.host adopted {})
  | module (.host loaded) => module (.host { loaded with peers := [] })
  | queue (.host ordered) => queue (.host { ordered with progress := {}, jobs := [] })
  | future (.cell _) => future (.cell .pending)
  | other => other

@[simp]
theorem holds_outline (object : Object) : object.outline.holds = object.holds := by
  unfold outline
  split <;> rfl

@[simp]
theorem kind_outline (object : Object) : object.outline.kind = object.kind := by
  unfold outline
  split <;> rfl

theorem kind_eq_of_outline_eq {left right : Object} (houtline : left.outline = right.outline) :
    left.kind = right.kind := by
  rw [← kind_outline left, houtline, kind_outline]

theorem holds_eq_of_outline_eq {left right : Object} (houtline : left.outline = right.outline) :
    left.holds = right.holds := by
  rw [← holds_outline left, houtline, holds_outline]

end Object

namespace Heap

variable {heap left right : Heap} {id : ObjectId}

/-! ## Reading objects of one kind -/

theorem context?_eq_some {context : Context} :
    heap.context? id = some context ↔ heap.get? id = some (.context context) := by
  unfold context?
  split <;> simp_all

theorem device?_eq_some {device : Device} :
    heap.device? id = some device ↔ heap.get? id = some (.device device) := by
  unfold device?
  split <;> simp_all

theorem view?_eq_some {view : View} :
    heap.view? id = some view ↔ heap.get? id = some (.view view) := by
  unfold view?
  split <;> simp_all

theorem module?_eq_some {module : CodeModule} :
    heap.module? id = some module ↔ heap.get? id = some (.module module) := by
  unfold module?
  split <;> simp_all

theorem hostModule?_eq_some {module : HostModule} :
    heap.hostModule? id = some module ↔ heap.get? id = some (.module (.host module)) := by
  unfold hostModule?
  split <;> simp_all

theorem kernel?_eq_some {kernel : Kernel} :
    heap.kernel? id = some kernel ↔ heap.get? id = some (.kernel kernel) := by
  unfold kernel?
  split <;> simp_all

theorem queue?_eq_some {queue : TaskQueue} :
    heap.queue? id = some queue ↔ heap.get? id = some (.queue queue) := by
  unfold queue?
  split <;> simp_all

theorem hostQueue?_eq_some {queue : HostQueue} :
    heap.hostQueue? id = some queue ↔ heap.get? id = some (.queue (.host queue)) := by
  unfold hostQueue?
  split <;> simp_all

theorem future?_eq_some {future : Future} :
    heap.future? id = some future ↔ heap.get? id = some (.future future) := by
  unfold future?
  split <;> simp_all

theorem mem_jobs_iff (horder : heap.Ordered) {job : Job} :
    job ∈ heap.jobs ↔ ∃ id queue, heap.hostQueue? id = some queue ∧ job ∈ queue.jobs := by
  simp only [jobs, List.mem_flatMap, horder.mem_values_iff]
  constructor
  · rintro ⟨object, ⟨id, hget⟩, hjob⟩
    split at hjob
    · next queue => exact ⟨id, queue, hostQueue?_eq_some.2 hget, hjob⟩
    · exact absurd hjob (List.not_mem_nil)
  · rintro ⟨id, queue, hqueue, hjob⟩
    exact ⟨_, ⟨id, hostQueue?_eq_some.1 hqueue⟩, hjob⟩

/-! ## Heaps that are alike -/

/-- Two heaps with the same numbers and outlines. -/
structure Alike (left right : Heap) : Prop where
  next : left.next = right.next
  outlines : left.entries.map (fun entry ↦ (entry.1, entry.2.outline)) =
    right.entries.map (fun entry ↦ (entry.1, entry.2.outline))

namespace Alike

theorem refl (heap : Heap) : Alike heap heap := ⟨rfl, rfl⟩

theorem symm (halike : Alike left right) : Alike right left :=
  ⟨halike.next.symm, halike.outlines.symm⟩

theorem trans {third : Heap} (hfirst : Alike left right) (hsecond : Alike right third) :
    Alike left third :=
  ⟨hfirst.next.trans hsecond.next, hfirst.outlines.trans hsecond.outlines⟩

theorem numbers (halike : Alike left right) :
    left.entries.map (·.1) = right.entries.map (·.1) := by
  have hnumbers := congrArg (List.map Prod.fst) halike.outlines
  simpa [List.map_map, Function.comp_def] using hnumbers

theorem ordered (halike : Alike left right) (horder : left.Ordered) : right.Ordered :=
  horder.of_numbers right halike.next halike.numbers

theorem outline_get? (halike : Alike left right) (id : ObjectId) :
    (left.get? id).map Object.outline = (right.get? id).map Object.outline := by
  have hread (entries : List (ObjectId × Object)) :
      ((entries.find? (·.1 == id)).map (·.2)).map Object.outline =
        ((entries.map fun entry ↦ (entry.1, entry.2.outline)).find? (·.1 == id)).map (·.2) := by
    rw [List.find?_map, Option.map_map, Option.map_map]
    rfl
  unfold Table.get?
  rw [hread, hread, halike.outlines]

theorem get?_eq_some (halike : Alike left right) {object : Object}
    (hget : left.get? id = some object) :
    ∃ other, right.get? id = some other ∧ other.outline = object.outline := by
  have houtline := halike.outline_get? id
  rw [hget, Option.map_some] at houtline
  obtain ⟨other, hother, heq⟩ := Option.map_eq_some_iff.1 houtline.symm
  exact ⟨other, hother, heq⟩

theorem contains_eq (halike : Alike left right) (id : ObjectId) :
    left.contains id = right.contains id := by
  rw [Table.contains_eq_isSome, Table.contains_eq_isSome, ← Option.isSome_map (f := Object.outline),
    halike.outline_get?, Option.isSome_map]

end Alike

theorem alike_modify (heap : Heap) (id : ObjectId) {change : Object → Object}
    (hchange : ∀ object, (change object).outline = object.outline) :
    Alike heap (heap.modify id change) := by
  refine ⟨rfl, ?_⟩
  simp only [Table.modify, List.map_map]
  apply List.map_congr_left
  intro entry _
  simp only [Function.comp_apply]
  split
  · rw [hchange]
  · rfl

theorem alike_modifyContext (heap : Heap) (id : ObjectId) (change : RangeTracker → RangeTracker) :
    Alike heap (heap.modifyContext id (·.mapRanges change)) := by
  apply alike_modify
  intro object
  rcases object with context | _ | _ | _ | _ | _ | _
  · cases context <;> rfl
  all_goals rfl

theorem alike_modifyModule (heap : Heap) (id : ObjectId) (change : HostModule → List ObjectId) :
    Alike heap (heap.modifyModule id fun module ↦ { module with peers := change module }) := by
  apply alike_modify
  intro object
  rcases object with _ | _ | _ | module | _ | _ | _
  case module => cases module <;> rfl
  all_goals rfl

theorem alike_modifyQueue (heap : Heap) (id : ObjectId) (progress : HostQueue → Progress)
    (jobs : HostQueue → List Job) :
    Alike heap (heap.modifyQueue id fun queue ↦
      { queue with progress := progress queue, jobs := jobs queue }) := by
  apply alike_modify
  intro object
  rcases object with _ | _ | _ | _ | _ | queue | _
  case queue => cases queue <;> rfl
  all_goals rfl

theorem alike_settleFuture (heap : Heap) (id : ObjectId) (next : FutureState) :
    Alike heap (heap.settleFuture id next) := by
  apply alike_modify
  intro object
  rcases object with _ | _ | _ | _ | _ | _ | future
  case future => cases future <;> rfl
  all_goals rfl

/-- What every change of a module's peers keeps, linking keeps. -/
theorem link_induct {motive : Heap → Prop} (set : List ObjectId) (hstart : motive heap)
    (hstep : ∀ heap id (change : HostModule → List ObjectId), motive heap →
      motive (heap.modifyModule id fun module ↦ { module with peers := change module })) :
    motive (heap.link set) := by
  unfold link
  suffices hfold : ∀ (ids : List ObjectId) (heap : Heap), motive heap → motive
      (ids.foldl (fun (heap : Heap) id ↦ heap.modifyModule id fun module ↦
        { module with peers := Peers.link heap.contains id set module.peers }) heap) from
    hfold set heap hstart
  intro ids
  induction ids with
  | nil => exact fun _ hmotive ↦ hmotive
  | cons id rest ih => exact fun heap hmotive ↦ ih _ (hstep heap id _ hmotive)

theorem alike_link (heap : Heap) (set : List ObjectId) : Alike heap (heap.link set) :=
  link_induct (motive := Alike heap) set (.refl heap) fun changed id change halike ↦
    halike.trans (alike_modifyModule changed id change)

/-! ## Queues under changes of other objects -/

theorem hostQueue?_modify (heap : Heap) (id : ObjectId) {change : Object → Object}
    (hchange : ∀ object queue, change object = .queue (.host queue) ↔
      object = .queue (.host queue)) (other : ObjectId) :
    hostQueue? (heap.modify id change) other = heap.hostQueue? other := by
  apply Option.ext
  intro queue
  rw [hostQueue?_eq_some, hostQueue?_eq_some, Table.get?_modify]
  split
  · rw [Option.map_eq_some_iff]
    simp [hchange]
  · rfl

@[simp]
theorem hostQueue?_modifyContext (heap : Heap) (id : ObjectId) (change : Context → Context)
    (other : ObjectId) :
    (heap.modifyContext id change).hostQueue? other = heap.hostQueue? other := by
  apply hostQueue?_modify
  intro object queue
  cases object <;> simp

@[simp]
theorem hostQueue?_modifyModule (heap : Heap) (id : ObjectId) (change : HostModule → HostModule)
    (other : ObjectId) :
    (heap.modifyModule id change).hostQueue? other = heap.hostQueue? other := by
  apply hostQueue?_modify
  intro object queue
  rcases object with _ | _ | _ | module | _ | _ | _
  case module => cases module <;> simp
  all_goals simp

@[simp]
theorem hostQueue?_settleFuture (heap : Heap) (id : ObjectId) (next : FutureState)
    (other : ObjectId) :
    (heap.settleFuture id next).hostQueue? other = heap.hostQueue? other := by
  apply hostQueue?_modify
  intro object queue
  cases object <;> simp

@[simp]
theorem hostQueue?_modifyQueue (heap : Heap) (id : ObjectId) (change : HostQueue → HostQueue)
    (other : ObjectId) :
    (heap.modifyQueue id change).hostQueue? other =
      if other = id then (heap.hostQueue? other).map change else heap.hostQueue? other := by
  unfold hostQueue? modifyQueue
  rw [Table.get?_modify]
  by_cases hother : other = id
  · rw [if_pos hother, if_pos hother]
    cases heap.get? other with
    | none => rfl
    | some object =>
      rcases object with _ | _ | _ | _ | _ | queue | _
      case queue => cases queue <;> rfl
      all_goals rfl
  · rw [if_neg hother, if_neg hother]

/-- A new object is a host queue only if it was made as one. -/
theorem hostQueue?_insert (heap : Heap) (object : Object) (other : ObjectId) :
    hostQueue? (heap.insert object).1 other =
      if other = heap.next then
        match object with
        | .queue (.host queue) => some queue
        | _ => none
      else heap.hostQueue? other := by
  unfold hostQueue?
  rw [Table.get?_insert]
  by_cases hother : other = heap.next
  · rw [if_pos hother, if_pos hother]
    rcases object with _ | _ | _ | _ | _ | queue | _
    case queue => cases queue <;> rfl
    all_goals rfl
  · rw [if_neg hother, if_neg hother]

end Heap

end Offload
