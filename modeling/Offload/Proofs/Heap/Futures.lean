import Offload.Proofs.Heap.Soundness

/-!
# Futures on the heap

A future is what it was made as until something settles it. Changes of other objects leave it alone,
and so does a collection, unless it takes the future away.
-/

namespace Offload.Heap

variable {heap : Heap} {roots : List ObjectId} {id other : ObjectId} {future : Future}

theorem future?_modify (heap : Heap) (id : ObjectId) {change : Object → Object}
    (hchange : ∀ object future, change object = .future future ↔ object = .future future)
    (other : ObjectId) : future? (heap.modify id change) other = heap.future? other := by
  apply Option.ext
  intro future
  rw [future?_eq_some, future?_eq_some, Table.get?_modify]
  split
  · rw [Option.map_eq_some_iff]
    simp [hchange]
  · rfl

theorem future?_modifyContext (heap : Heap) (id : ObjectId) (change : Context → Context)
    (other : ObjectId) : (heap.modifyContext id change).future? other = heap.future? other := by
  apply future?_modify
  intro object future
  cases object <;> simp

theorem future?_modifyModule (heap : Heap) (id : ObjectId) (change : HostModule → HostModule)
    (other : ObjectId) : (heap.modifyModule id change).future? other = heap.future? other := by
  apply future?_modify
  intro object future
  rcases object with _ | _ | _ | module | _ | _ | _
  case module => cases module <;> simp
  all_goals simp

theorem future?_modifyQueue (heap : Heap) (id : ObjectId) (change : HostQueue → HostQueue)
    (other : ObjectId) : (heap.modifyQueue id change).future? other = heap.future? other := by
  apply future?_modify
  intro object future
  rcases object with _ | _ | _ | _ | _ | queue | _
  case queue => cases queue <;> simp
  all_goals simp

theorem future?_link (heap : Heap) (set : List ObjectId) (other : ObjectId) :
    (heap.link set).future? other = heap.future? other :=
  link_induct (motive := fun linked ↦ linked.future? other = heap.future? other) set rfl
    fun changed id _ hsame ↦ (future?_modifyModule changed id _ other).trans hsame

/-- A future is settled under its own number only. -/
theorem future?_settleFuture (heap : Heap) (id : ObjectId) (next : FutureState) (other : ObjectId) :
    (heap.settleFuture id next).future? other =
      if other = id then (heap.future? other).map (·.settle next) else heap.future? other := by
  unfold future? settleFuture
  rw [Table.get?_modify]
  by_cases hother : other = id
  · rw [if_pos hother, if_pos hother]
    cases heap.get? other with
    | none => rfl
    | some object => cases object <;> rfl
  · rw [if_neg hother, if_neg hother]

theorem future?_insert (heap : Heap) (object : Object) (other : ObjectId) :
    future? (heap.insert object).1 other =
      if other = heap.next then
        match object with
        | .future future => some future
        | _ => none
      else heap.future? other := by
  unfold future?
  rw [Table.get?_insert]
  by_cases hother : other = heap.next
  · rw [if_pos hother, if_pos hother]
    cases object <;> rfl
  · rw [if_neg hother, if_neg hother]

theorem future?_forgetRanges (kept : Heap) (objects : List (ObjectId × Object)) (other : ObjectId) :
    (forgetRanges kept objects).future? other = kept.future? other := by
  unfold forgetRanges
  generalize kept.contains = isKept
  induction objects generalizing kept with
  | nil => rfl
  | cons entry rest ih =>
    rw [List.foldl_cons, ih]
    split
    · split
      · split
        · rfl
        · exact future?_modifyContext _ _ _ _
      · rfl
    · rfl

/-- A collection changes no future that it leaves. -/
theorem future?_of_collect (hlayered : heap.Layered)
    (hfuture : (heap.collect roots).future? id = some future) : heap.future? id = some future := by
  unfold collect at hfuture
  rw [future?_forgetRanges, future?_eq_some] at hfuture
  exact future?_eq_some.2 ((get?_keep_eq_some hlayered).1 hfuture).1

end Offload.Heap
