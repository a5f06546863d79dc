import Offload.Proofs.Heap.Tracking
import Offload.Proofs.Session.Moves
import Offload.Proofs.Session.Rooted

/-!
# Sound sessions

The invariant of a session in the middle of an operation, for the operation in flight, and what
committing and pursuing a decision does to it. A session between operations is also tidy: nothing
is on its heap that nothing keeps alive. Committing may leave something behind, as long as the
operation has ended, since a collection follows; an operation that waits leaves nothing behind.
-/

namespace Offload

/-! ## What decisions rely on -/

/-- An object that can be made: it has what it relies on, and brings neither ranges nor jobs. -/
structure Object.Makeable (find? : ObjectId → Option Object) (object : Object) : Prop where
  supported : object.Supported find?
  blank : object.Blank
  idle : ∀ queue, object = .queue (.host queue) → queue.Sound find? ∧ queue.progress = {}

/-- The object a creation makes, unless it brings its own context. -/
def Creation.object? : Creation → Option Object
  | context made => some (.context made)
  | device made => some (.device made)
  | deviceWithContext _ => none
  | view made => some (.view made)
  | module made => some (.module made)
  | kernel made => some (.kernel made)
  | queue made => some (.queue made)
  | queueWithDevice _ => none
  | future made => some (.future made)

/-- What a creation relies on. -/
def Creation.Supported (find? : ObjectId → Option Object) (creation : Creation) : Prop :=
  ∀ object, creation.object? = some object → object.Makeable find?

/-- What an effect relies on. -/
def Effect.Supported (find? : ObjectId → Option Object) : Effect → Prop
  | .create creation => creation.Supported find?
  | .expose kind id => ∃ object, find? id = some object ∧ object.kind = kind
  | .submit queue job | .launch queue job => (Stage.room queue job).Supported find?
  | .drain queue => (Stage.drained queue).Supported find?
  | _ => True

/-! ## Library files -/

/-- The library file that an object keeps loaded. -/
def Object.file? : Object → Option String
  | .module (.host loaded) => loaded.code.file?
  | _ => none

theorem Object.file?_outline (object : Object) : object.outline.file? = object.file? := by
  rcases object with (_ | _) | _ | _ | (_ | _) | _ | (_ | _) | (_ | _) <;> rfl

namespace Heap

theorem Alike.files_eq {left right : Heap} (halike : Alike left right) :
    left.files = right.files := by
  have hfiles (heap : Heap) : heap.files =
      (heap.entries.map fun entry ↦ (entry.1, entry.2.outline)).filterMap (·.2.file?) := by
    unfold files Table.values
    rw [List.filterMap_map, List.filterMap_map]
    congr 1
    funext entry
    exact (Object.file?_outline entry.2).symm
  rw [hfiles, hfiles, halike.outlines]

theorem mem_files_insert {heap : Heap} (object : Object) {file : String}
    (hfile : file ∈ heap.files) : file ∈ files (heap.insert object).1 := by
  obtain ⟨found, hfound, hloaded⟩ := List.mem_filterMap.1 hfile
  exact List.mem_filterMap.2 ⟨found, List.mem_cons_of_mem _ hfound, hloaded⟩

theorem hostQueue?_link (heap : Heap) (set : List ObjectId) (other : ObjectId) :
    (heap.link set).hostQueue? other = heap.hostQueue? other :=
  link_induct (motive := fun linked ↦ linked.hostQueue? other = heap.hostQueue? other) set rfl
    fun changed id _ hsame ↦ (hostQueue?_modifyModule changed id _ other).trans hsame

/-- The jobs after a change of one queue. -/
theorem mem_jobs_modifyQueue_iff {heap : Heap} {id : ObjectId} {queue : HostQueue} {job : Job}
    (horder : heap.Ordered) (hqueue : heap.hostQueue? id = some queue)
    (progress : HostQueue → Progress) (jobs : HostQueue → List Job) :
    job ∈ (heap.modifyQueue id fun queue ↦
        { queue with progress := progress queue, jobs := jobs queue }).jobs ↔
      job ∈ jobs queue ∨
        ∃ other found, other ≠ id ∧ heap.hostQueue? other = some found ∧ job ∈ found.jobs := by
  rw [mem_jobs_iff ((alike_modifyQueue heap id progress jobs).ordered horder)]
  simp only [hostQueue?_modifyQueue]
  constructor
  · rintro ⟨other, found, hfound, hjob⟩
    split at hfound
    · next hother =>
      rw [hother, hqueue, Option.map_some] at hfound
      obtain rfl := Option.some.inj hfound
      exact .inl hjob
    · next hother => exact .inr ⟨other, found, hother, hfound, hjob⟩
  · rintro (hjob | ⟨other, found, hother, hfound, hjob⟩)
    · exact ⟨id, _, by rw [if_pos rfl, hqueue, Option.map_some], hjob⟩
    · exact ⟨other, found, by rw [if_neg hother, hfound], hjob⟩

end Heap

open Heap

namespace Session

variable {session after : Session} {flight : List Stage} {progressed : Progressed}
  {stage : Stage} {id : ObjectId}

/-! ## The invariant -/

/-- The operations in flight: the ones given and those of waiting clients. -/
def stages (session : Session) (flight : List Stage) : List Stage :=
  flight ++ session.waiting.map (·.stage)

/-- A session whose objects, handles and operations have what they rely on. -/
structure Sound (session : Session) (flight : List Stage) : Prop where
  rooted : Rooted session.registry (session.stages flight) session.heap
  tracked : session.heap.Tracked
  /-- Only loaded libraries have static data. -/
  loaded : ∀ entry ∈ session.host.statics, entry.1 ∈ session.heap.files

/-- A sound session on whose heap there is nothing to collect. -/
structure Kept (session : Session) (flight : List Stage) : Prop extends
    Sound session flight where
  tidy : Tidy session.registry (session.stages flight) session.heap

/-- What an operation has come to: the session is sound, and kept while the operation waits. -/
structure Steady (session : Session) (progressed : Progressed) : Prop where
  sound : session.Sound progressed.flight
  tidy : ∀ stage, progressed = .waits stage →
    Tidy session.registry (session.stages [stage]) session.heap

theorem steady_ended {outcome : Outcome} (hsound : session.Sound []) :
    session.Steady (.ended outcome) :=
  ⟨hsound, fun _ hwaits ↦ absurd hwaits (by simp)⟩

theorem steady_waits (hsound : session.Sound [stage])
    (htidy : Tidy session.registry (session.stages [stage]) session.heap) :
    session.Steady (.waits stage) := by
  refine ⟨hsound, ?_⟩
  rintro other hwaits
  obtain rfl := Progressed.waits.inj hwaits
  exact htidy

theorem roots_eq_anchors (session : Session) :
    session.roots = anchors session.registry (session.stages []) session.heap := by
  simp [roots, anchors, stages, List.flatMap_map]

theorem refersTo_iff (hnumbered : session.registry.Ordered) :
    session.refersTo id = true ↔ Refers session.registry (session.stages []) id := by
  unfold refersTo Refers
  rw [Bool.or_eq_true, List.any_eq_true, List.any_eq_true]
  simp only [hnumbered.mem_values_iff, beq_iff_eq, List.contains_iff_mem, stages,
    List.nil_append, List.mem_map]
  constructor
  · rintro (⟨slot, ⟨handle, hslot⟩, hobject⟩ | ⟨client, hclient, hid⟩)
    · exact .inl ⟨handle, slot, hslot, hobject⟩
    · exact .inr ⟨client.stage, ⟨client, hclient, rfl⟩, hid⟩
  · rintro (⟨handle, slot, hslot, hobject⟩ | ⟨stage, ⟨client, hclient, rfl⟩, hid⟩)
    · exact .inl ⟨slot, ⟨handle, hslot⟩, hobject⟩
    · exact .inr ⟨client, hclient, hid⟩

/-- A collection makes a session tidy. -/
theorem kept_collect (hrooted : Rooted session.registry (session.stages []) session.heap)
    (htracked : session.heap.Tracked) : session.collect.Kept [] := by
  have hheap : session.collect.heap =
      session.heap.collect (anchors session.registry (session.stages []) session.heap) :=
    congrArg session.heap.collect session.roots_eq_anchors
  refine { rooted := ?rooted, tracked := ?tracked, loaded := ?loaded, tidy := ?tidy }
  case rooted =>
    rw [hheap]
    exact hrooted.collect
  case tracked =>
    rw [hheap]
    exact htracked.collect hrooted.sound.layered _
  case loaded =>
    intro entry hentry
    exact List.contains_iff_mem.1 (List.mem_filter.1 hentry).2
  case tidy =>
    rw [hheap]
    exact hrooted.tidy_collect

namespace Sound

/-! ## Making objects -/

theorem place (hsound : session.Sound flight) {object : Object}
    (hobject : object.Makeable session.heap.get?) : (session.place object).1.Sound flight where
  rooted := hsound.rooted.insert hobject.supported hobject.idle
  tracked := hsound.tracked.insert_blank hsound.rooted.ordered hobject.blank
  loaded := fun entry hentry ↦ mem_files_insert object (hsound.loaded entry hentry)

theorem get?_place (session : Session) (object : Object) :
    (session.place object).1.heap.get? (session.place object).2 = some object := by
  simp [Session.place]

/-- The allocator does not matter. -/
theorem allocate (hsound : session.Sound flight) (allocator : Allocator) :
    Sound { session with allocator } flight :=
  ⟨hsound.rooted, hsound.tracked, hsound.loaded⟩

/-- A view registers its range where it is placed. -/
theorem placeView (hsound : session.Sound flight) {view : View}
    (hview : (Object.view view).Makeable session.heap.get?) :
    (session.placeView view).1.Sound flight ∧
      ∃ object, (session.placeView view).1.heap.get? (session.placeView view).2 = some object ∧
        object.kind = .memoryView := by
  cases view with
  | foreign => exact ⟨hsound.place hview, _, get?_place _ _, rfl⟩
  | host host =>
    unfold Session.placeView
    cases hcontext : session.heap.context? host.context with
    | none =>
      simp only [hcontext]
      exact ⟨(hsound.allocate _).place hview, _, get?_place _ _, rfl⟩
    | some context =>
      cases context with
      | foreign =>
        simp only [hcontext]
        exact ⟨(hsound.allocate _).place hview, _, get?_place _ _, rfl⟩
      | host adopted ranges =>
        simp only [hcontext]
        generalize htrack : ranges.track host.address host.size host.kind = tracked
        obtain ⟨after, registration⟩ := tracked
        have halike := alike_modifyContext session.heap host.context fun _ ↦ after
        refine ⟨⟨?_, ?_, ?_⟩, _, get?_place _ _, rfl⟩
        · have hrooted := hsound.rooted.of_alike halike fun other ↦
            hostQueue?_modifyContext _ _ _ other
          exact hrooted.insert trivial fun queue hqueue ↦ absurd hqueue (by simp)
        · exact hsound.tracked.insert_view hsound.rooted.ordered hcontext htrack
        · intro entry hentry
          exact mem_files_insert _ (halike.files_eq ▸ hsound.loaded entry hentry)

/-- Objects that bring nothing of their own can be made on what they rely on. -/
theorem makeable {find? : ObjectId → Option Object} {object : Object}
    (hsupported : object.Supported find?) (hblank : object.Blank)
    (hqueue : object.kind ≠ .taskQueue) : object.Makeable find? := by
  refine ⟨hsupported, hblank, ?_⟩
  rintro queue rfl
  exact absurd rfl hqueue

theorem placeCreation (hsound : session.Sound flight) {creation : Creation}
    (hcreation : creation.Supported session.heap.get?) :
    (session.placeCreation creation).1.Sound flight ∧
      ∃ object, (session.placeCreation creation).1.heap.get?
          (session.placeCreation creation).2 = some object ∧ object.kind = creation.kind := by
  have hcontext (session : Session) : (Object.context (.host false {})).Makeable session.heap.get? :=
    makeable trivial rfl (by decide)
  cases creation with
  | context context => exact ⟨hsound.place (hcreation _ rfl), _, get?_place _ _, rfl⟩
  | device device => exact ⟨hsound.place (hcreation _ rfl), _, get?_place _ _, rfl⟩
  | deviceWithContext index =>
    have hparent := hsound.place (hcontext session)
    have hdevice : (Object.device (.host index (session.place
        (.context (.host false {}))).2)).Makeable _ :=
      makeable ⟨false, {}, get?_place session (.context (.host false {}))⟩ trivial
        (by simp [Object.kind])
    exact ⟨hparent.place hdevice, _, get?_place _ _, rfl⟩
  | view view => exact hsound.placeView (hcreation _ rfl)
  | module module => exact ⟨hsound.place (hcreation _ rfl), _, get?_place _ _, rfl⟩
  | kernel kernel => exact ⟨hsound.place (hcreation _ rfl), _, get?_place _ _, rfl⟩
  | queue queue => exact ⟨hsound.place (hcreation _ rfl), _, get?_place _ _, rfl⟩
  | queueWithDevice capacity =>
    have hparent := hsound.place (hcontext session)
    have hdevice : (Object.device (.host 0 (session.place
        (.context (.host false {}))).2)).Makeable _ :=
      makeable ⟨false, {}, get?_place session (.context (.host false {}))⟩ trivial
        (by simp [Object.kind])
    have howner := hparent.place hdevice
    refine ⟨howner.place ⟨⟨0, _, get?_place _ _⟩, trivial, ?_⟩, _, get?_place _ _, rfl⟩
    rintro queue heq
    obtain rfl := TaskQueue.host.inj (Object.queue.inj heq)
    exact ⟨HostQueue.sound_new _ _ _, rfl⟩
  | future future => exact ⟨hsound.place (hcreation _ rfl), _, get?_place _ _, rfl⟩

theorem expose (hsound : session.Sound flight) {kind : Kind} {object : Object}
    (hget : session.heap.get? id = some object) (hkind : object.kind = kind) :
    (session.expose kind id).1.Sound flight where
  rooted := hsound.rooted.register hget hkind
  tracked := hsound.tracked
  loaded := hsound.loaded

end Sound

end Session

end Offload
