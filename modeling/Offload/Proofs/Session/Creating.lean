import Offload.Proofs.Session.Failing
import Offload.Proofs.Session.Objects

/-!
# Objects that are made

An operation that makes an object ends with a handle for it. The handle keeps the object alive, and
with it all that came along, so the collection at the end of the operation takes nothing away: what
the operation does to the heap is to put the object on it.
-/

namespace Offload

/-- What a client may start: a call of the boundary, or a request. -/
inductive Inquiry where
  | call (call : Call)
  | request (request : Request)

namespace Inquiry

/-- What an inquiry decides to do in a session. -/
def decide (platform : Platform) (session : Session) : Inquiry → Deciding Decision
  | call asked => asked.decide platform session
  | request asked => asked.decide platform session

/-- Decides and commits an inquiry. -/
def enter (platform : Platform) (session : Session) (inquiry : Inquiry) :
    Session × Progressed :=
  session.perform (inquiry.decide platform session)

theorem ensures_decide {session : Session} (inquiry : Inquiry) (platform : Platform)
    (hsound : session.Sound []) :
    (inquiry.decide platform session).Ensures (Decision.Supported session.heap.get?) := by
  cases inquiry with
  | call asked => exact Call.ensures_decide asked
  | request asked => exact Request.ensures_decide hsound asked

end Inquiry

namespace Session

open Heap

variable {platform : Platform} {session : Session} {new : List ObjectId} {id : ObjectId}
  {creation : Creation} {ambient : Ambient} {decide : Deciding Decision}

/-! ## Nothing is left behind -/

/-- Nothing is on the heap but what handles, operations and jobs keep alive, and what some new
objects hold. -/
def TidyWith (session : Session) (new : List ObjectId) : Prop :=
  ∀ id object, session.heap.get? id = some object →
    Reach session.heap (new ++ anchors session.registry (session.stages []) session.heap) id

theorem Kept.tidyWith (hkept : session.Kept []) : session.TidyWith [] :=
  fun _ _ hget ↦ hkept.tidy hget

theorem anchors_subset_insert {registry : Registry ObjectId} {stages : List Stage} (heap : Heap)
    (object : Object) :
    anchors registry stages heap ⊆ anchors registry stages (heap.insert object).1 := by
  have hjobs : heap.jobs ⊆ jobs (heap.insert object).1 := by
    unfold jobs Table.values Table.insert
    rw [List.map_cons, List.flatMap_cons]
    exact List.subset_append_right _ _
  unfold anchors
  refine List.append_subset.2 ⟨List.subset_append_left _ _, fun root hroot ↦ ?_⟩
  obtain ⟨job, hjob, hmem⟩ := List.mem_flatMap.1 hroot
  exact List.mem_append_right _ (List.mem_flatMap.2 ⟨job, hjobs hjob, hmem⟩)

/-- A new object takes over what it holds. -/
theorem TidyWith.place (htidy : session.TidyWith new) (horder : session.heap.Ordered)
    (object : Object) (hholds : new ⊆ object.holds) :
    (session.place object).1.TidyWith [(session.place object).2] := by
  have hnew : Reach (session.heap.insert object).1 ([session.heap.next] ++
      anchors session.registry (session.stages []) (session.heap.insert object).1)
      session.heap.next := .root List.mem_cons_self
  intro id found hget
  have hget : (session.heap.insert object).1.get? id = some found := hget
  rw [Table.get?_insert] at hget
  split at hget
  · next hid => exact hid ▸ hnew
  · refine (Reach.insert_of_reach horder object (htidy id found hget)).mono fun root hroot ↦ ?_
    rcases List.mem_append.1 hroot with hheld | hanchor
    · exact hnew.held (by rw [Table.get?_insert, if_pos rfl]) (hholds hheld)
    · exact .root (List.mem_append_right _ (anchors_subset_insert _ _ hanchor))

/-- A handle for the new object takes its place. -/
theorem TidyWith.expose {kind : Kind} (htidy : session.TidyWith [id]) :
    (session.expose kind id).1.TidyWith [] := by
  intro other object hget
  have hnew : id ∈ anchors (session.registry.register kind id).1 (session.stages []) session.heap :=
    List.mem_append_left _ (List.mem_append_left _ List.mem_cons_self)
  exact (htidy other object hget).subset
    (List.cons_subset.2 ⟨hnew, anchors_subset_register kind id⟩)

theorem TidyWith.kept (htidy : session.TidyWith []) (hsound : session.Sound []) :
    session.Kept [] :=
  ⟨hsound, fun hget ↦ htidy _ _ hget⟩

/-- A view is put on a heap that is like the one before. -/
theorem placeView_eq (session : Session) (view : View) :
    ∃ allocator heap object, session.placeView view =
        ({ session with allocator, heap } : Session).place object ∧
      Alike session.heap heap ∧ ∀ id, heap.hostQueue? id = session.heap.hostQueue? id := by
  cases view with
  | foreign => exact ⟨_, _, _, rfl, .refl _, fun _ ↦ rfl⟩
  | host view =>
    unfold placeView
    simp only
    split
    · exact ⟨_, _, _, rfl, alike_modifyContext _ _ _, hostQueue?_modifyContext _ _ _⟩
    · exact ⟨_, _, _, rfl, .refl _, fun _ ↦ rfl⟩

theorem tidyWith_placeView (hkept : session.Kept []) (view : View) :
    (session.placeView view).1.TidyWith [(session.placeView view).2] := by
  obtain ⟨allocator, heap, object, hplaced, halike, hqueues⟩ := placeView_eq session view
  have horder := hkept.rooted.ordered
  have htidy : TidyWith { session with allocator, heap } [] := by
    intro id found hget
    refine Tidy.of_alike hkept.tidy halike ?_ hget
    exact anchors_subset_of_queues horder (halike.ordered horder) hqueues
  rw [hplaced]
  exact htidy.place (halike.ordered horder) _ (List.nil_subset _)

theorem tidyWith_placeCreation (hkept : session.Kept []) (creation : Creation) :
    (session.placeCreation creation).1.TidyWith [(session.placeCreation creation).2] := by
  have horder := hkept.rooted.ordered
  have hplain (object : Object) : (session.place object).1.TidyWith [(session.place object).2] :=
    hkept.tidyWith.place horder object (List.nil_subset _)
  have hparent := hplain (.context (.host false {}))
  have hchild (index : Nat) :=
    hparent.place (horder.insert _) (.device (.host index _)) (List.Subset.refl _)
  cases creation with
  | view view => exact tidyWith_placeView hkept view
  | deviceWithContext index => exact hchild index
  | queueWithDevice capacity =>
    exact (hchild 0).place ((horder.insert _).insert _) _ (List.Subset.refl _)
  | _ => exact hplain _

/-- There is nothing to collect after an object has been made. -/
theorem Kept.create (hkept : session.Kept [])
    (hcreation : creation.Supported session.heap.get?) : (session.create creation).1.Kept [] := by
  obtain ⟨hplaced, object, hget, hkind⟩ := hkept.toSound.placeCreation hcreation
  exact (tidyWith_placeCreation hkept creation).expose.kept (hplaced.expose hget hkind)

/-! ## What the operation comes to -/

/-- An operation that decides to make an object makes it, and ends with a handle for it. -/
theorem perform_creates (hkept : session.Kept [])
    (hdecide : decide.Ensures (Decision.Supported session.heap.get?))
    (hrun : decide.run.run session.ambient = (.ok (.create creation), ambient)) :
    session.perform decide =
      ((({ session with ambient } : Session).create creation).1,
        .reply (.handle (({ session with ambient } : Session).create creation).2)) := by
  have hcreation : creation.Supported session.heap.get? :=
    hdecide session.ambient (.create creation) (by rw [hrun])
  have hcreated := ((hkept.ambient ambient).create hcreation).collect_eq_self
  unfold perform
  simp only [hrun]
  exact congrArg (·, Progressed.reply (.handle _)) hcreated

theorem registry_placeCreation (session : Session) (creation : Creation) :
    (session.placeCreation creation).1.registry = session.registry := by
  cases creation with
  | view view =>
    obtain ⟨allocator, heap, object, hplaced, -⟩ := placeView_eq session view
    show (session.placeView view).1.registry = _
    rw [hplaced]
    rfl
  | _ => rfl

theorem lookup_expose (hregistry : 0 < session.registry.next) (kind : Kind) (id : ObjectId) :
    (session.expose kind id).1.registry.lookup kind (session.expose kind id).2 = .ok id := by
  have hslot : (session.expose kind id).1.registry.get? session.registry.next =
      some ⟨1, kind, id⟩ := by
    show ((session.registry.insert _).1).get? _ = _
    rw [Table.get?_insert, if_pos rfl]
  show (session.expose kind id).1.registry.lookup kind session.registry.next = _
  unfold Registry.lookup Registry.locate
  rw [if_neg (Nat.ne_of_gt hregistry), hslot]
  exact if_pos rfl

/-- The new handle names the new object. -/
theorem lookup_create (hregistry : 0 < session.registry.next) (creation : Creation) :
    (session.create creation).1.registry.lookup creation.kind (session.create creation).2 =
      .ok (session.placeCreation creation).2 :=
  lookup_expose (registry_placeCreation session creation ▸ hregistry) creation.kind _

theorem found_create {α : Type} {find? : Heap → ObjectId → Option α} {found : α}
    (creation : Creation) (hregistry : 0 < session.registry.next)
    (hfound : find? (session.placeCreation creation).1.heap (session.placeCreation creation).2 =
      some found) :
    (session.create creation).1.lookup creation.kind find? (session.create creation).2 =
      .ok ((session.placeCreation creation).2, found) := by
  have hheap : (session.create creation).1.heap = (session.placeCreation creation).1.heap := rfl
  unfold Session.lookup
  rw [lookup_create hregistry]
  simp only [bind, Except.bind, hheap, hfound]

end Session

end Offload
