import Offload.Proofs.Heap.Futures
import Offload.Proofs.Session.Histories

/-!
# Objects under changes

An object comes under a number that no object had before, and keeps its outline as long as it is
there. So nothing that is gone ever comes back.
-/

namespace Offload.Session

open Heap

variable {platform : Platform} {session before after : Session} {flight last : List Stage}
  {more : List Happening} {id : ObjectId}

/-- The heap with a new view of the host in it, whose range its context tracks. -/
theorem heap_placeView {view : HostView} {adopted : Bool} {ranges : RangeTracker}
    (hcontext : session.heap.context? view.context = some (.host adopted ranges)) :
    (session.placeView (.host view)).1.heap =
      ((session.heap.modifyContext view.context
        (·.mapRanges fun _ ↦ (ranges.track view.address view.size view.kind).1)).insert
          (.view (.host { view with
            registration := (ranges.track view.address view.size view.kind).2 }))).1 := by
  unfold placeView
  simp only [hcontext]
  rfl

theorem heap_finish (session : Session) (id : ObjectId) (queue : HostQueue) (job : Job)
    (rest : List Job) (failure : Option Failure) :
    ∃ retired : Session, (session.finish id queue job rest failure).heap = retired.collect.heap ∧
      retired.heap = (session.retire id queue job rest failure).heap ∧
      retired.registry = session.registry ∧ retired.waiting = session.waiting := by
  rw [finish_eq]
  exact ⟨_, rfl, rfl, rfl, rfl⟩

theorem alike_retire (session : Session) (id : ObjectId) (queue : HostQueue) (job : Job)
    (rest : List Job) (failure : Option Failure) :
    Alike session.heap (session.retire id queue job rest failure).heap :=
  (alike_settled session.heap job failure).trans (alike_modifyQueue _ id _ _)

/-- A worker's collection starts from a sound session. -/
theorem retired_rooted {retired : Session} {host : HostState} {queue : HostQueue} {job : Job}
    {rest : List Job} {failure : Option Failure} (hsound : session.Sound [])
    (hqueue : session.heap.hostQueue? id = some queue) (hjobs : queue.jobs = job :: rest)
    (hheap : retired.heap =
      (({ session with host } : Session).retire id queue job rest failure).heap)
    (hregistry : retired.registry = session.registry)
    (hwaiting : retired.waiting = session.waiting) :
    Rooted retired.registry (retired.stages []) retired.heap := by
  have hstages : retired.stages [] = session.stages [] := by
    unfold stages
    rw [hwaiting]
  rw [hheap, hregistry, hstages]
  exact rooted_retire (hsound.rooted : Rooted session.registry (session.stages [])
    ({ session with host } : Session).heap) hqueue hjobs failure

/-! ## Numbers -/

theorem Change.next_le (hchange : Change platform before flight more after last) :
    before.heap.next ≤ after.heap.next := by
  cases hchange with
  | aside hheap => exact Nat.le_of_eq (congrArg Table.next hheap.symm)
  | place | create | launch => exact Nat.le_succ _
  | createView hcontext =>
    show before.heap.next ≤ (before.placeView _).1.heap.next
    rw [heap_placeView hcontext]
    exact Nat.le_succ _
  | accept =>
    show before.heap.next ≤ (Session.deliver _ _).1.heap.next
    rw [heap_deliver]
    exact Nat.le_refl _
  | link modules => exact Nat.le_of_eq (alike_link before.heap modules).next
  | settle future next => exact Nat.le_of_eq (alike_settleFuture before.heap future next).next
  | @finish _ id queue job rest host failure _ _ _ hafter =>
    obtain ⟨retired, hheap, hretired, -⟩ :=
      heap_finish { before with host } id queue job rest failure
    rw [hafter, hheap]
    show _ ≤ (retired.heap.collect _).next
    rw [next_collect, hretired]
    exact Nat.le_of_eq (alike_retire { before with host } id queue job rest failure).next
  | collect => exact Nat.le_of_eq (next_collect _ _).symm
  | _ => exact Nat.le_refl _

/-- A change that makes an object gives it the next number. -/
theorem Change.made_next (hchange : Change platform before flight more after last)
    {object : Object} (hmade : .made id object ∈ more) :
    id = before.heap.next ∧ id < after.heap.next ∧ last = [] := by
  cases hchange with
  | place | create =>
    obtain ⟨rfl, -⟩ := Happening.made.inj (List.mem_singleton.1 hmade)
    exact ⟨rfl, Nat.lt_succ_self _, rfl⟩
  | createView hcontext =>
    obtain ⟨rfl, -⟩ := Happening.made.inj (List.mem_singleton.1 hmade)
    refine ⟨rfl, ?_, rfl⟩
    show before.heap.next < (before.placeView _).1.heap.next
    rw [heap_placeView hcontext]
    exact Nat.lt_succ_self _
  | _ => simp at hmade

/-! ## Outlines -/

theorem origin_of_alike {left right : Heap} (halike : Alike left right) {object : Object}
    (hget : right.get? id = some object) :
    ∃ old, left.get? id = some old ∧ object.outline = old.outline := by
  obtain ⟨old, hold, houtline⟩ := halike.symm.get?_eq_some hget
  exact ⟨old, hold, houtline.symm⟩

theorem origin_of_collect {roots : List ObjectId} {heap : Heap} (hlayered : heap.Layered)
    {object : Object} (hget : (heap.collect roots).get? id = some object) :
    ∃ old, heap.get? id = some old ∧ object.outline = old.outline := by
  obtain ⟨-, old, hold, houtline⟩ := get?_of_get?_collect hlayered hget
  exact ⟨old, hold, houtline.symm⟩

/-- An object on the heap after a change was there before, with the same outline, or has been made
for a client or for the launch that the change begins. -/
theorem Change.origin (hchange : Change platform before flight more after last)
    (hsound : before.Sound flight) {object : Object}
    (hget : after.heap.get? id = some object) :
    (∃ old, before.heap.get? id = some old ∧ object.outline = old.outline) ∨
      id = before.heap.next ∧ (.made id object ∈ more ∨
        object = .future (.cell .pending) ∧ ∃ queue job, last = [.room queue job] ∧
          job.future = some id) := by
  have hsame (heap : Heap) (hheap : heap = before.heap) (hobject : heap.get? id = some object) :
      ∃ old, before.heap.get? id = some old ∧ object.outline = old.outline :=
    ⟨object, hheap ▸ hobject, rfl⟩
  cases hchange with
  | aside hheap => exact .inl (hsame _ hheap hget)
  | place | create =>
    change Table.get? (before.heap.insert _).1 id = _ at hget
    rw [Table.get?_insert] at hget
    split at hget
    · next hid => exact .inr ⟨hid, .inl (hid ▸ Option.some.inj hget ▸ List.mem_cons_self)⟩
    · exact .inl (hsame _ rfl hget)
  | createView hcontext =>
    change Table.get? (before.placeView _).1.heap id = _ at hget
    rw [heap_placeView hcontext, Table.get?_insert] at hget
    split at hget
    · next hid => exact .inr ⟨hid, .inl (hid ▸ Option.some.inj hget ▸ List.mem_cons_self)⟩
    · exact .inl (origin_of_alike (alike_modifyContext _ _ _) hget)
  | launch =>
    change Table.get? (before.heap.insert _).1 id = _ at hget
    rw [Table.get?_insert] at hget
    split at hget
    · next hid =>
      exact .inr ⟨hid, .inr ⟨(Option.some.inj hget).symm, _, _, rfl, congrArg some hid.symm⟩⟩
    · exact .inl (hsame _ rfl hget)
  | accept =>
    rw [heap_deliver] at hget
    exact .inl (origin_of_alike (alike_modifyQueue _ _ _ _) hget)
  | sync | drop => exact .inl (origin_of_alike (alike_modifyQueue _ _ (fun _ ↦ {}) _) hget)
  | link modules => exact .inl (origin_of_alike (alike_link before.heap modules) hget)
  | settle future next =>
    exact .inl (origin_of_alike (alike_settleFuture before.heap future next) hget)
  | @finish _ id' queue job rest host failure hqueue hjobs _ hafter =>
    obtain ⟨retired, hheap, hretired, hregistry, hwaiting⟩ :=
      heap_finish { before with host } id' queue job rest failure
    have hrooted := retired_rooted hsound hqueue hjobs hretired hregistry hwaiting
    rw [hafter, hheap] at hget
    obtain ⟨middle, hmiddle, houtline⟩ := origin_of_collect hrooted.sound.layered hget
    rw [hretired] at hmiddle
    obtain ⟨old, hold, hsame⟩ := origin_of_alike (alike_retire _ id' queue job rest failure) hmiddle
    exact .inl ⟨old, hold, houtline.trans hsame⟩
  | collect => exact .inl (origin_of_collect hsound.rooted.sound.layered hget)
  | _ => exact .inl (hsame _ rfl hget)

/-- An object that stays keeps its outline. -/
theorem Change.outline_eq (hchange : Change platform before flight more after last)
    (hsound : before.Sound flight) {object old : Object} (hold : before.heap.get? id = some old)
    (hget : after.heap.get? id = some object) : object.outline = old.outline := by
  rcases hchange.origin hsound hget with ⟨other, hother, houtline⟩ | ⟨hid, -⟩
  · rw [hold] at hother
    exact Option.some.inj hother ▸ houtline
  · exact absurd (hsound.rooted.ordered.lt_next hold) (hid ▸ Nat.lt_irrefl _)

/-- An older object that is there after a change was there before. -/
theorem Change.contains_before (hchange : Change platform before flight more after last)
    (hsound : before.Sound flight) (hid : id < before.heap.next)
    (hcontains : after.heap.contains id = true) : before.heap.contains id = true := by
  obtain ⟨object, hget⟩ := Table.contains_iff.1 hcontains
  rcases hchange.origin hsound hget with ⟨old, hold, -⟩ | ⟨hnew, -⟩
  · exact Table.contains_iff.2 ⟨old, hold⟩
  · exact absurd hid (hnew ▸ Nat.lt_irrefl _)

/-! ## Objects over a history -/

theorem History.next_le {allowed : Session → Prop} {log : List Happening}
    (hhistory : History platform allowed session log after flight) :
    session.heap.next ≤ after.heap.next := by
  induction hhistory with
  | refl => exact Nat.le_refl _
  | change _ hchange ih => exact Nat.le_trans ih hchange.next_le
  | outside _ _ _ _ _ _ ih => exact ih

/-- As long as an object is there it keeps its outline, whatever happens. -/
theorem History.outline_eq {allowed : Session → Prop} {later : List Happening}
    (hlater : History platform allowed session later after flight) (hsound : session.Sound [])
    {object old : Object} (hold : session.heap.get? id = some old)
    (hget : after.heap.get? id = some object) : object.outline = old.outline := by
  have hid := hsound.rooted.ordered.lt_next hold
  refine hlater.induct (motive := fun _ after _ ↦ ∀ object,
    after.heap.get? id = some object → object.outline = old.outline) hsound ?_ ?_
    (fun _ _ _ _ _ hkept ↦ hkept) object hget
  · exact fun object hobject ↦
      congrArg Object.outline (Option.some.inj (hobject.symm.trans hold))
  · intro log before flight more after last hearlier hbefore hkept hchange object hobject
    rcases hchange.origin hbefore hobject with ⟨other, hother, houtline⟩ | ⟨hnew, -⟩
    · exact houtline.trans (hkept other hother)
    · -- A new object has a number past all those before.
      exact absurd hearlier.next_le (Nat.not_le_of_lt (hnew ▸ hid))

end Offload.Session
