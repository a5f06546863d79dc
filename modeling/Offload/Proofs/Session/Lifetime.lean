import Offload.Proofs.Session.Steps

/-!
# The lifetime of objects

An object is alive exactly as long as a handle, an operation in flight or an unfinished job keeps it
alive along the references that objects store. The peers of a module are not among them: linking
modules dynamically keeps none of them. Strong references lead to older objects only, so nothing
keeps itself alive, and when the last anchor is gone everything is.
-/

namespace Offload

open Heap

/-- The references that objects store. A device holds its context, a kernel the module it was asked
from and the one whose code it enters, a composite its parts, and a queue its device. -/
inductive Heap.Strong (heap : Heap) : ObjectId → ObjectId → Prop where
  | device {id context : ObjectId} {index : Nat}
    (hget : heap.get? id = some (.device (.host index context))) : Strong heap id context
  | asked {id : ObjectId} {kernel : HostKernel}
    (hget : heap.get? id = some (.kernel (.host kernel))) : Strong heap id kernel.module
  | owner {id : ObjectId} {kernel : HostKernel}
    (hget : heap.get? id = some (.kernel (.host kernel))) : Strong heap id kernel.owner
  | foreign {id module : ObjectId} {family : Family} {name : String}
    (hget : heap.get? id = some (.kernel (.foreign family name module))) : Strong heap id module
  | part {id part : ObjectId} {name : String} {code : Code} {module : HostModule}
    {parts : List (ObjectId × String × Code)}
    (hget : heap.get? id = some (.module (.host module))) (hcode : module.code = .composite parts)
    (hpart : (part, name, code) ∈ parts) : Strong heap id part
  | queue {id : ObjectId} {queue : HostQueue}
    (hget : heap.get? id = some (.queue (.host queue))) : Strong heap id queue.device

/-- What keeps an object alive: a handle, an operation in flight or an unfinished job, directly or
along the references that objects store. -/
inductive Session.KeptAlive (session : Session) : ObjectId → Prop where
  | handle {handle : Handle} {slot : Slot ObjectId}
    (hslot : session.registry.get? handle = some slot) : KeptAlive session slot.object
  | client {client : Waiting} {id : ObjectId} (hclient : client ∈ session.waiting)
    (hid : id ∈ client.stage.references) : KeptAlive session id
  | job {queue : ObjectId} {ordered : HostQueue} {job : Job} {id : ObjectId}
    (hqueue : session.heap.hostQueue? queue = some ordered) (hjob : job ∈ ordered.jobs)
    (hid : id ∈ job.references) : KeptAlive session id
  | along {holder held : ObjectId} (hholder : KeptAlive session holder)
    (hstrong : session.heap.Strong holder held) : KeptAlive session held

namespace Heap

variable {heap : Heap} {holder held : ObjectId}

/-- The references of objects are what objects hold. -/
theorem strong_iff :
    heap.Strong holder held ↔ ∃ object, heap.get? holder = some object ∧ held ∈ object.holds := by
  constructor
  · intro hstrong
    cases hstrong with
    | device hget => exact ⟨_, hget, List.mem_singleton_self _⟩
    | asked hget => exact ⟨_, hget, List.mem_cons_self⟩
    | owner hget => exact ⟨_, hget, List.mem_cons_of_mem _ List.mem_cons_self⟩
    | foreign hget => exact ⟨_, hget, List.mem_singleton_self _⟩
    | part hget hcode hpart =>
      refine ⟨_, hget, ?_⟩
      simp only [Object.holds, Code.partIds, hcode, Code.parts]
      exact List.mem_map_of_mem hpart
    | queue hget => exact ⟨_, hget, List.mem_singleton_self _⟩
  · rintro ⟨object, hget, hheld⟩
    rcases object with _ | (_ | _) | _ | (loaded | _) | (_ | _) | (_ | _) | _
    case device.host =>
      obtain rfl := List.mem_singleton.1 hheld
      exact .device hget
    case module.host =>
      obtain ⟨⟨part, name, code⟩, hpart, rfl⟩ := List.mem_map.1 hheld
      cases hcode : loaded.code with
      | composite parts =>
        rw [hcode] at hpart
        exact .part hget hcode hpart
      | library | symbols =>
        rw [hcode] at hpart
        exact absurd hpart List.not_mem_nil
    case kernel.host =>
      rcases List.mem_cons.1 hheld with rfl | hheld
      · exact .asked hget
      · obtain rfl := List.mem_singleton.1 hheld
        exact .owner hget
    case kernel.foreign =>
      obtain rfl := List.mem_singleton.1 hheld
      exact .foreign hget
    case queue.host =>
      obtain rfl := List.mem_singleton.1 hheld
      exact .queue hget
    all_goals exact absurd hheld List.not_mem_nil

/-- Strong references lead to older objects. -/
theorem Strong.older (hsound : heap.Sound) (hstrong : heap.Strong holder held) : held < holder := by
  obtain ⟨object, hget, hheld⟩ := strong_iff.1 hstrong
  exact hsound.layered.older hget held hheld

end Heap

namespace Session

variable {program : Program} {session : Session} {id : ObjectId}

/-- To be kept alive is to be reachable from the anchors. -/
theorem keptAlive_iff (hkept : session.Kept []) :
    session.KeptAlive id ↔
      Reach session.heap (anchors session.registry (session.stages []) session.heap) id := by
  have hanchor (id : ObjectId) :
      id ∈ anchors session.registry (session.stages []) session.heap ↔ _ :=
    mem_anchors_iff hkept.rooted.numbered
  constructor
  · intro halive
    induction halive with
    | handle hslot => exact .root ((hanchor _).2 (.inl (.inl ⟨_, _, hslot, rfl⟩)))
    | client hclient hid =>
      exact .root ((hanchor _).2 (.inl (.inr ⟨_, List.mem_map_of_mem hclient, hid⟩)))
    | job hqueue hjob hid =>
      have hjobs := (mem_jobs_iff hkept.rooted.ordered).2 ⟨_, _, hqueue, hjob⟩
      exact .root ((hanchor _).2 (.inr ⟨_, hjobs, hid⟩))
    | along _ hstrong ih =>
      obtain ⟨object, hget, hheld⟩ := strong_iff.1 hstrong
      exact ih.held hget hheld
  · intro hreach
    induction hreach with
    | root hroot =>
      rcases (hanchor _).1 hroot with (⟨handle, slot, hslot, rfl⟩ | ⟨stage, hstage, hid⟩) |
        ⟨job, hjob, hid⟩
      · exact .handle hslot
      · obtain ⟨client, hclient, rfl⟩ := List.mem_map.1 hstage
        exact .client hclient hid
      · obtain ⟨queue, ordered, hqueue, hjob⟩ := (mem_jobs_iff hkept.rooted.ordered).1 hjob
        exact .job hqueue hjob hid
    | held _ hget hheld ih => exact .along ih (strong_iff.2 ⟨_, hget, hheld⟩)

theorem contains_iff_keptAlive (hkept : session.Kept []) :
    session.heap.contains id = true ↔ session.KeptAlive id := by
  rw [keptAlive_iff hkept, Table.contains_eq_isSome, Option.isSome_iff_exists]
  constructor
  · rintro ⟨object, hget⟩
    exact hkept.tidy hget
  · intro hreach
    cases hreach with
    | root hroot => exact hkept.rooted.exists_of_mem_anchors hroot
    | held _ hget hheld =>
      obtain ⟨other, hother, -⟩ :=
        Heap.Sound.exists_of_mem_holds (hkept.rooted.sound.supported hget) hheld
      exact ⟨other, hother⟩

/-- Without handles, clients and jobs nothing is kept alive. -/
theorem not_keptAlive (hhandles : ∀ handle, session.registry.get? handle = none)
    (hclients : session.waiting = [])
    (hjobs : ∀ queue ordered, session.heap.hostQueue? queue = some ordered → ordered.jobs = []) :
    ¬session.KeptAlive id := by
  intro halive
  induction halive with
  | handle hslot =>
    rw [hhandles] at hslot
    exact absurd hslot (by simp)
  | client hclient =>
    rw [hclients] at hclient
    exact absurd hclient List.not_mem_nil
  | job hqueue hjob =>
    rw [hjobs _ _ hqueue] at hjob
    exact absurd hjob List.not_mem_nil
  | along _ _ ih => exact ih

/-- In every session that comes about an object is alive exactly when something keeps it alive. An
object that only modules name, as their peer, is gone. A context tracks exactly the registrations of
the views that are alive. References lead to older objects, so once there is no handle, no client
and no unfinished job, nothing is alive, no library is loaded and no static data is left. -/
theorem alive_iff_keptAlive (hreachable : Reachable program session) :
    (∀ id, session.heap.contains id = true ↔ session.KeptAlive id) ∧
    (∀ id, (∀ handle slot, session.registry.get? handle = some slot → slot.object ≠ id) →
      (∀ client ∈ session.waiting, id ∉ client.stage.references) →
      (∀ queue ordered, session.heap.hostQueue? queue = some ordered →
        ∀ job ∈ ordered.jobs, id ∉ job.references) →
      (∀ holder, ¬session.heap.Strong holder id) → session.heap.contains id = false) ∧
    (∀ id adopted ranges, session.heap.context? id = some (.host adopted ranges) →
      ∀ range, range ∈ ranges.ranges ↔ ∃ holder, session.heap.Registers holder id range) ∧
    (∀ holder held, session.heap.Strong holder held → held < holder) ∧
    ((∀ handle, session.registry.get? handle = none) → session.waiting = [] →
      (∀ queue ordered, session.heap.hostQueue? queue = some ordered → ordered.jobs = []) →
      session.heap.entries = [] ∧ session.heap.files = [] ∧ session.host.statics = []) := by
  have hkept := hreachable.settled.kept
  refine ⟨fun id ↦ contains_iff_keptAlive hkept, ?_,
    fun id adopted ranges ↦ hkept.tracked.exact,
    fun holder held ↦ Strong.older hkept.rooted.sound, ?_⟩
  · intro id hhandles hclients hjobs hholders
    rw [Bool.eq_false_iff, Ne, contains_iff_keptAlive hkept]
    intro halive
    cases halive with
    | handle hslot => exact hhandles _ _ hslot rfl
    | client hclient hid => exact hclients _ hclient hid
    | job hqueue hjob hid => exact hjobs _ _ hqueue _ hjob hid
    | along _ hstrong => exact hholders _ hstrong
  intro hhandles hclients hjobs
  have hentries : session.heap.entries = [] := by
    apply List.eq_nil_iff_forall_not_mem.2
    rintro ⟨id, object⟩ hentry
    have hget := hkept.rooted.ordered.mem_entries_iff.1 hentry
    have hcontains : session.heap.contains id = true := by
      rw [Table.contains_eq_isSome, hget]
      rfl
    exact not_keptAlive hhandles hclients hjobs ((contains_iff_keptAlive hkept).1 hcontains)
  have hfiles : session.heap.files = [] := by
    simp [files, Table.values, hentries]
  refine ⟨hentries, hfiles, ?_⟩
  apply List.eq_nil_iff_forall_not_mem.2
  intro entry hentry
  have hloaded := hkept.loaded entry hentry
  rw [hfiles] at hloaded
  exact List.not_mem_nil hloaded

/-- The context of a device of the host is alive until the only handle of the device is released. -/
theorem alive_iff_keptAlive_hostDevice :
    (startRequest {} {} (.hostDevice 0)).1.KeptAlive 0 ∧
      (startRequest {} (startRequest {} {} (.hostDevice 0)).1 (.release 1)).1.heap.entries = [] := by
  have hopened : Reachable {} (startRequest {} {} (.hostDevice 0)).1 :=
    .step (.fresh ⟨rfl, rfl, rfl, rfl, rfl⟩) (.request _ _)
  have hclosed : Reachable {} (startRequest {}
      (startRequest {} {} (.hostDevice 0)).1 (.release 1)).1 :=
    .step hopened (.request _ _)
  obtain ⟨halive, -⟩ := alive_iff_keptAlive hopened
  obtain ⟨-, -, -, -, hgone⟩ := alive_iff_keptAlive hclosed
  refine ⟨(halive 0).1 (by decide), (hgone ?_ ?_ ?_).1⟩
  · intro handle
    rfl
  · rfl
  · intro queue ordered hqueue
    have hnone : (startRequest {} (startRequest {} {} (.hostDevice 0)).1
        (.release 1)).1.heap.hostQueue? queue = none := rfl
    rw [hnone] at hqueue
    exact absurd hqueue (by simp)

end Session

end Offload
