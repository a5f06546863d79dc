import Offload.Proofs.Heap.Files
import Offload.Proofs.Queue.Immediate

/-!
# Sessions that look the same

A job may run earlier or later, as long as it finds what it works on. Two runs agree when their
handles name the same objects, their memory is the same, and the libraries that are still needed have
the same static data. Executing a job on both sides keeps them in agreement. What a worker still has
to do is executed on one side only: a session that has caught up with its jobs agrees with an
immediate run that never had any.
-/

namespace Offload

/-! ## Routines that keep to themselves -/

/-- Two host states with the same memory, calls and gate, and the same static data in some
libraries. -/
structure HostState.Agree (files : List String) (left right : HostState) : Prop where
  memory : left.memory = right.memory
  calls : left.calls = right.calls
  gate : left.gateOpen = right.gateOpen
  statics : ∀ file ∈ files, left.static file = right.static file

/-- Two runs of a routine that end in the same way, with the gate still open. -/
def Ending.Agree (files : List String) : Ending → Ending → Prop
  | returned left, returned right => left.gateOpen = true ∧ left.Agree files right
  | panicked text left, panicked other right =>
    text = other ∧ left.gateOpen = true ∧ left.Agree files right
  | _, _ => False

/-- Whether the outcome of a routine depends on nothing but its arguments, the memory, the calls
recorded so far and the static data of its own library. It does not wait while the gate is open. -/
def Routine.Local (file? : Option String) (routine : Routine) : Prop :=
  ∀ files invocation left right, (∀ file, file? = some file → file ∈ files) →
    left.gateOpen = true → left.Agree files right →
    (routine invocation left).Agree files (routine invocation right)

/-- Two runs of a job's work that end in the same way, with the gate still open. -/
def WorkEnding.Agree (files : List String) : WorkEnding → WorkEnding → Prop
  | done left, done right => left.gateOpen = true ∧ left.Agree files right
  | failed failure left, failed other right =>
    failure = other ∧ left.gateOpen = true ∧ left.Agree files right
  | _, _ => False

namespace HostState.Agree

variable {files more : List String} {left right last : HostState}

theorem refl (files : List String) (host : HostState) : host.Agree files host :=
  ⟨rfl, rfl, rfl, fun _ _ ↦ rfl⟩

theorem trans (hfirst : left.Agree files right) (hsecond : right.Agree files last) :
    left.Agree files last :=
  ⟨hfirst.memory.trans hsecond.memory, hfirst.calls.trans hsecond.calls,
    hfirst.gate.trans hsecond.gate,
    fun file hfile ↦ (hfirst.statics file hfile).trans (hsecond.statics file hfile)⟩

theorem mono (hsub : files ⊆ more) (hagree : left.Agree more right) : left.Agree files right :=
  { hagree with statics := fun file hfile ↦ hagree.statics file (hsub hfile) }

/-- The same change of the memory. -/
theorem withMemory (hagree : left.Agree files right) (change : Memory → Memory) :
    ({ left with memory := change left.memory } : HostState).Agree files
      { right with memory := change right.memory } :=
  ⟨congrArg change hagree.memory, hagree.calls, hagree.gate, hagree.statics⟩

end HostState.Agree

/-- Libraries that stay loaded keep their static data. -/
theorem HostState.agree_keepStatics (files : List String) (host : HostState) :
    (host.keepStatics files).Agree files host := by
  refine ⟨rfl, rfl, rfl, ?_⟩
  intro file hfile
  unfold static keepStatics
  have hsame : (fun entry : String × Nat ↦ decide (files.contains entry.1 = true ∧
      (entry.1 == file) = true)) = fun entry ↦ entry.1 == file := by
    funext entry
    by_cases hentry : entry.1 = file
    · simp [hentry, hfile]
    · simp [hentry]
  rw [List.find?_filter, hsame]

/-- The same work ends in the same way on host states that agree. -/
theorem Job.run_agree {routine : Entry → Routine} {files : List String} {left right : HostState}
    {job : Job} (hlocal : ∀ entry, (routine entry).Local entry.file?) (hjob : job.Within files)
    (hgate : left.gateOpen = true) (hagree : left.Agree files right) :
    (job.work.run routine job.operation left).Agree files
      (job.work.run routine job.operation right) := by
  cases hwork : job.work with
  | transfer => exact ⟨hgate, hagree⟩
  | move destination source size =>
    simp only [Work.run]
    split
    · exact ⟨rfl, hgate, hagree⟩
    · exact ⟨hgate, hagree.withMemory (·.move destination source size)⟩
  | enter entry invocation =>
    have hending := hlocal entry files invocation left right
      (fun file hfile ↦ hjob entry invocation file hwork hfile) hgate hagree
    simp only [Work.run]
    cases hleft : routine entry invocation left <;>
      cases hright : routine entry invocation right <;>
      rw [hleft, hright] at hending
    case returned.returned => exact hending
    case panicked.panicked =>
      obtain ⟨rfl, hopen, hafter⟩ := hending
      exact ⟨rfl, hopen, hafter⟩
    all_goals exact hending.elim

/-! ## Objects that look the same -/

/-- What commands can see of an object: a queue may be filled and sized differently, and the ranges
of contexts and the peers of modules do not matter. -/
def Object.face : Object → Object
  | context (.host adopted _) => context (.host adopted {})
  | module (.host loaded) => module (.host { loaded with peers := [] })
  | queue (.host ordered) => queue (.host ⟨ordered.device, 0, {}, []⟩)
  | other => other

/-- A future shows its state. -/
theorem Object.face_eq_future_iff {object : Object} {future : Future} :
    object.face = .future future ↔ object = .future future := by
  rcases object with (_ | _) | _ | _ | (_ | _) | _ | (_ | _) | (_ | _)
  all_goals simp [Object.face]

namespace Heap

variable {heap left right last : Heap} {id : ObjectId}

/-- What is on the left is on the right as well and looks the same. -/
def Shows (left right : Heap) : Prop :=
  ∀ id object, left.get? id = some object →
    ∃ other, right.get? id = some other ∧ other.face = object.face

namespace Shows

theorem refl (heap : Heap) : Shows heap heap := fun _ _ hget ↦ ⟨_, hget, rfl⟩

theorem trans (hfirst : Shows left right) (hsecond : Shows right last) : Shows left last := by
  intro id object hget
  obtain ⟨other, hother, hface⟩ := hfirst id object hget
  obtain ⟨found, hfound, hsame⟩ := hsecond id other hother
  exact ⟨found, hfound, hsame.trans hface⟩

theorem modify (hshows : Shows left right) (id : ObjectId) {change : Object → Object}
    (hchange : ∀ object other : Object, object.face = other.face →
      (change object).face = (change other).face) :
    Shows (left.modify id change) (right.modify id change) := by
  intro found object hget
  rw [Table.get?_modify] at hget ⊢
  split at hget
  · next hfound =>
    rw [if_pos hfound]
    obtain ⟨before, hbefore, rfl⟩ := Option.map_eq_some_iff.1 hget
    obtain ⟨other, hother, hface⟩ := hshows found before hbefore
    exact ⟨_, Option.map_eq_some_iff.2 ⟨other, hother, rfl⟩, hchange _ _ hface⟩
  · next hfound =>
    rw [if_neg hfound]
    exact hshows found object hget

theorem insert (hshows : Shows left right) (hnext : left.next = right.next) (object : Object) :
    Shows (left.insert object).1 (right.insert object).1 := by
  intro found other hget
  rw [Table.get?_insert] at hget ⊢
  rw [← hnext]
  split at hget
  · next hfound =>
    rw [if_pos hfound]
    exact ⟨object, rfl, by rw [Option.some.inj hget]⟩
  · next hfound =>
    rw [if_neg hfound]
    exact hshows found other hget

theorem settleFuture (hshows : Shows left right) (id : ObjectId) (next : FutureState) :
    Shows (left.settleFuture id next) (right.settleFuture id next) := by
  apply hshows.modify
  intro object other hface
  rcases object with (_ | _) | _ | _ | (_ | _) | _ | (_ | _) | (_ | _)
  all_goals
    rcases other with (_ | _) | _ | _ | (_ | _) | _ | (_ | _) | (_ | _)
    all_goals simp_all [Object.face]

end Shows

/-- A change that cannot be seen. -/
theorem shows_modify (heap : Heap) (id : ObjectId) {change : Object → Object}
    (hchange : ∀ object, (change object).face = object.face) :
    Shows heap (heap.modify id change) ∧ Shows (heap.modify id change) heap := by
  constructor
  · intro found object hget
    rw [Table.get?_modify]
    split
    · exact ⟨_, Option.map_eq_some_iff.2 ⟨object, hget, rfl⟩, hchange object⟩
    · exact ⟨object, hget, rfl⟩
  · intro found object hget
    rw [Table.get?_modify] at hget
    split at hget
    · obtain ⟨before, hbefore, rfl⟩ := Option.map_eq_some_iff.1 hget
      exact ⟨before, hbefore, (hchange before).symm⟩
    · exact ⟨object, hget, rfl⟩

theorem shows_modifyQueue (heap : Heap) (id : ObjectId) {change : HostQueue → HostQueue}
    (hchange : ∀ queue, (change queue).device = queue.device) :
    Shows heap (heap.modifyQueue id change) ∧ Shows (heap.modifyQueue id change) heap := by
  apply shows_modify
  intro object
  rcases object with _ | _ | _ | _ | _ | queue | _
  case queue =>
    cases queue with
    | host queue => simp only [Object.face, hchange]
    | foreign => rfl
  all_goals rfl

theorem shows_forgetRanges (kept : Heap) (objects : List (ObjectId × Object)) :
    Shows (forgetRanges kept objects) kept := by
  unfold forgetRanges
  generalize kept.contains = isKept
  induction objects generalizing kept with
  | nil => exact Shows.refl kept
  | cons entry rest ih =>
    rw [List.foldl_cons]
    refine Shows.trans (ih _) ?_
    split
    · split
      · split
        · exact Shows.refl _
        · refine (shows_modify _ _ ?_).2
          intro object
          rcases object with context | _ | _ | _ | _ | _ | _
          case context => cases context <;> rfl
          all_goals rfl
      · exact Shows.refl _
    · exact Shows.refl _

/-- What is left after a collection looks the same. -/
theorem shows_collect (hlayered : heap.Layered) (roots : List ObjectId) :
    Shows (heap.collect roots) heap := by
  refine Shows.trans (shows_forgetRanges _ _) ?_
  intro id object hget
  exact ⟨object, ((get?_keep_eq_some hlayered).1 hget).1, rfl⟩

end Heap

end Offload
