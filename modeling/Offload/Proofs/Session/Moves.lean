import Offload.Proofs.Table
import Offload.Session.Commit

/-!
# What operations can do

Each operation of a session that can go several ways is described once by the ways it can go. Later
proofs take these cases and never look into the operations again.
-/

namespace Offload

namespace Registry

variable {α : Type} {registry after : Registry α} {handle : Handle}

theorem get?_of_locate_eq_ok {slot : Slot α} (hlocate : registry.locate handle = .ok slot) :
    registry.get? handle = some slot := by
  unfold locate at hlocate
  split at hlocate
  · exact absurd hlocate (by simp)
  · split at hlocate
    · exact absurd hlocate (by simp)
    · next found hget => rw [hget, Except.ok.inj hlocate]

theorem lookup_eq_ok {kind : Kind} {object : α} (hlookup : registry.lookup kind handle = .ok object) :
    ∃ slot, registry.get? handle = some slot ∧ slot.kind = kind ∧ slot.object = object := by
  unfold lookup at hlookup
  cases hlocate : registry.locate handle with
  | error failure => simp [hlocate, bind, Except.bind] at hlookup
  | ok slot =>
    simp only [hlocate, bind, Except.bind] at hlookup
    split at hlookup
    · next hkind => exact ⟨slot, get?_of_locate_eq_ok hlocate, hkind, Except.ok.inj hlookup⟩
    · exact absurd hlookup (by simp)

theorem retain_eq_ok (hretain : registry.retain handle = .ok after) :
    after = registry.modify handle fun slot ↦ { slot with count := slot.count + 1 } := by
  unfold retain at hretain
  cases hlocate : registry.locate handle with
  | error failure => simp [hlocate, bind, Except.bind] at hretain
  | ok slot =>
    simp only [hlocate, bind, Except.bind] at hretain
    exact (Except.ok.inj hretain).symm

/-- A release lowers the count of a handle, or removes it with its last reference. -/
theorem release_eq_ok {last : Option (Slot α)} (hrelease : registry.release handle = .ok (after, last)) :
    (after = registry.modify handle (fun slot ↦ { slot with count := slot.count - 1 }) ∧
        last = none) ∨
      ∃ slot, registry.get? handle = some slot ∧ after = registry.erase handle ∧
        last = some slot := by
  unfold release at hrelease
  cases hlocate : registry.locate handle with
  | error failure => simp [hlocate, bind, Except.bind] at hrelease
  | ok slot =>
    simp only [hlocate, bind, Except.bind] at hrelease
    split at hrelease
    · obtain ⟨rfl, rfl⟩ := Prod.mk.inj (Except.ok.inj hrelease)
      exact .inl ⟨rfl, rfl⟩
    · obtain ⟨rfl, rfl⟩ := Prod.mk.inj (Except.ok.inj hrelease)
      exact .inr ⟨slot, get?_of_locate_eq_ok hlocate, rfl, rfl⟩

/-- A release brings no handle to another object. -/
theorem get?_of_release {last : Option (Slot α)}
    (hrelease : registry.release handle = .ok (after, last)) {other : Handle} {slot : Slot α}
    (hslot : after.get? other = some slot) :
    ∃ before, registry.get? other = some before ∧ before.object = slot.object := by
  rcases release_eq_ok hrelease with ⟨rfl, -⟩ | ⟨gone, -, rfl, -⟩
  · rw [Table.get?_modify] at hslot
    split at hslot
    · obtain ⟨before, hbefore, rfl⟩ := Option.map_eq_some_iff.1 hslot
      exact ⟨before, hbefore, rfl⟩
    · exact ⟨slot, hslot, rfl⟩
  · rw [Table.get?_erase] at hslot
    split at hslot
    · exact absurd hslot (by simp)
    · exact ⟨slot, hslot, rfl⟩

end Registry

/-- The operation in flight, while it waits. -/
def Progressed.flight : Progressed → List Stage
  | .ended _ => []
  | .waits stage => [stage]

/-- The outcome that is decided for a client, whether or not it has to wait any longer. -/
def Progressed.verdict : Progressed → Option Outcome
  | .ended outcome => some outcome
  | .waits (.discarded _ outcome) => some outcome
  | .waits _ => none

namespace Progress

variable {progress after : Progress}

theorem acquire?_eq_some {capacity : Nat} :
    progress.acquire? capacity = some after ↔
      progress.pending < capacity ∧ after = { progress with pending := progress.pending + 1 } := by
  unfold acquire?
  split
  · next hroom => simp [hroom, eq_comm]
  · next hfull => simp [hfull]

theorem drain?_eq_some {failure : Option Failure} :
    progress.drain? = some (after, failure) ↔
      progress.pending = 0 ∧ after = {} ∧ failure = progress.failure := by
  unfold drain?
  split <;> simp_all [eq_comm]

end Progress

namespace Session

variable {session after : Session} {progressed : Progressed} {id : ObjectId}

/-! ## Parts of operations -/

/-- The session in which a queue has accepted a job. -/
def accept (session : Session) (id : ObjectId) (progress : Progress) (job : Job) : Session :=
  { session with
    heap := session.heap.modifyQueue id fun queue ↦
      { queue with progress, jobs := queue.jobs ++ [job] } }

/-- The session in which a queue has been drained. -/
def drain (session : Session) (id : ObjectId) (progress : Progress) : Session :=
  { session with heap := session.heap.modifyQueue id ({ · with progress }) }

/-- The client of an accepted job gets a handle for its future. -/
def deliver (session : Session) (job : Job) : Session × Outcome :=
  match job.future with
  | none => (session, .ok .nothing)
  | some future => ((session.expose .future future).1, .ok (.handle (session.expose .future future).2))

/-- What a drain answers. -/
def drainOutcome : Option Failure → Outcome
  | none => .ok .nothing
  | some failure => .error (.failure failure)

/-- What is noted of a failure that a queue takes with it. -/
def unreported : Option Failure → Journal
  | none => []
  | some failure =>
    [⟨.warn, "CPU task queue dropped with unreported failure", [("error", failure.message)]⟩]

/-! ## Ways to go -/

/-- A client that leaves a queue ends, unless it had the last reference. -/
theorem leave_cases (session : Session) (id : ObjectId) (outcome : Outcome) :
    (session.refersTo id = true ∧ session.leave id outcome = (session, .ended outcome)) ∨
      (session.refersTo id = false ∧
        session.leave id outcome = (session, .waits (.discarded id outcome))) := by
  unfold leave
  cases hrefers : session.refersTo id with
  | true => exact .inl ⟨rfl, rfl⟩
  | false => exact .inr ⟨rfl, rfl⟩

/-- Leaving a queue changes nothing yet, and decides the outcome. -/
theorem leave_eq (session : Session) (id : ObjectId) (outcome : Outcome) :
    (session.leave id outcome).1 = session ∧
      (session.leave id outcome).2.verdict = some outcome := by
  rcases session.leave_cases id outcome with ⟨-, hleave⟩ | ⟨-, hleave⟩
  all_goals
    rw [hleave]
    exact ⟨rfl, rfl⟩

theorem advance?_room {job : Job}
    (hadvance : session.advance? (.room id job) = some (after, progressed)) :
    ∃ queue, session.heap.hostQueue? id = some queue ∧ queue.progress.pending < queue.capacity ∧
      (after, progressed) =
        (((session.accept id { queue.progress with pending := queue.progress.pending + 1 }
            job).deliver job).1.leave id
          ((session.accept id { queue.progress with pending := queue.progress.pending + 1 }
            job).deliver job).2) := by
  simp only [advance?, bind, Option.bind_eq_some_iff] at hadvance
  obtain ⟨queue, hqueue, progress, hprogress, hrest⟩ := hadvance
  obtain ⟨hroom, rfl⟩ := Progress.acquire?_eq_some.1 hprogress
  refine ⟨queue, hqueue, hroom, ?_⟩
  unfold deliver accept
  split at hrest
  · next hnone => simpa [hnone] using (Option.some.inj hrest).symm
  · next future hsome => simpa [hsome] using (Option.some.inj hrest).symm

theorem advance?_drained (hadvance : session.advance? (.drained id) = some (after, progressed)) :
    ∃ queue, session.heap.hostQueue? id = some queue ∧ queue.progress.pending = 0 ∧
      (after, progressed) =
        (session.drain id {}).leave id (drainOutcome queue.progress.failure) := by
  simp only [advance?, bind, Option.bind_eq_some_iff] at hadvance
  obtain ⟨queue, hqueue, ⟨progress, failure⟩, hprogress, hrest⟩ := hadvance
  obtain ⟨hidle, rfl, rfl⟩ := Progress.drain?_eq_some.1 hprogress
  refine ⟨queue, hqueue, hidle, ?_⟩
  rw [← Option.some.inj hrest]
  unfold drain drainOutcome
  cases queue.progress.failure <;> rfl

theorem advance?_discarded {outcome : Outcome}
    (hadvance : session.advance? (.discarded id outcome) = some (after, progressed)) :
    ∃ queue, session.heap.hostQueue? id = some queue ∧ queue.progress.pending = 0 ∧
      after = (session.drain id {}).note (unreported queue.progress.failure) ∧
      progressed = .ended outcome := by
  simp only [advance?, bind, Option.bind_eq_some_iff] at hadvance
  obtain ⟨queue, hqueue, ⟨progress, failure⟩, hprogress, hrest⟩ := hadvance
  obtain ⟨hidle, rfl, rfl⟩ := Progress.drain?_eq_some.1 hprogress
  obtain ⟨rfl, rfl⟩ := Prod.mk.inj (Option.some.inj hrest)
  refine ⟨queue, hqueue, hidle, ?_, rfl⟩
  unfold drain unreported
  cases queue.progress.failure <;> rfl

/-- The last reference of a handle may be the last one to a queue. -/
theorem release_of_last {handle : Handle} {registry : Registry ObjectId} {slot : Slot ObjectId}
    (hrelease : session.registry.release handle = .ok (registry, some slot)) :
    ∃ events,
      let without := { session.note events with registry }
      session.release handle =
        if (session.heap.hostQueue? slot.object).isSome then
          without.leave slot.object (.ok .nothing)
        else (without, .reply .nothing) := by
  refine ⟨[⟨.trace, "Handle destroyed",
    [("handle", toString handle), ("kind", Quoted.quote slot.kind.name)]⟩], ?_⟩
  unfold release
  simp only [hrelease, note]
  cases session.heap.hostQueue? slot.object <;> rfl

/-- A release fails, lowers the count of a handle, or takes the handle away. -/
theorem release_cases (session : Session) (handle : Handle) :
    (∃ failure, session.release handle = (session, .failed failure)) ∨
      (session.release handle =
        ({ session with
            registry := session.registry.modify handle fun slot ↦
              { slot with count := slot.count - 1 } }, .reply .nothing)) ∨
      ∃ slot, session.registry.get? handle = some slot ∧ ∃ events,
        let without := { session.note events with registry := session.registry.erase handle }
        session.release handle =
          if (session.heap.hostQueue? slot.object).isSome then
            without.leave slot.object (.ok .nothing)
          else (without, .reply .nothing) := by
  cases hrelease : session.registry.release handle with
  | error failure =>
    refine .inl ⟨failure, ?_⟩
    unfold release
    rw [hrelease]
  | ok result =>
    obtain ⟨registry, last⟩ := result
    rcases Registry.release_eq_ok hrelease with ⟨rfl, rfl⟩ | ⟨slot, hslot, rfl, rfl⟩
    · refine .inr (.inl ?_)
      unfold release
      rw [hrelease]
    · exact .inr (.inr ⟨slot, hslot, release_of_last hrelease⟩)

/-- A release changes handles only. A client waits after it if it has given up a queue. -/
theorem release_keeps (session : Session) (handle : Handle) :
    (session.release handle).1.heap = session.heap ∧
      (session.release handle).1.host = session.host ∧
      ∀ stage, (session.release handle).2 = .waits stage →
        ∃ target outcome, stage = .discarded target outcome := by
  rcases session.release_cases handle with ⟨failure, hrelease⟩ | hrelease |
    ⟨slot, -, events, hrelease⟩
  · rw [hrelease]
    exact ⟨rfl, rfl, fun stage hstage ↦ nomatch hstage⟩
  · rw [hrelease]
    exact ⟨rfl, rfl, fun stage hstage ↦ nomatch hstage⟩
  · simp only at hrelease
    rw [hrelease]
    split
    · rcases leave_cases _ slot.object (.ok .nothing) with ⟨-, hleave⟩ | ⟨-, hleave⟩
      · rw [hleave]
        exact ⟨rfl, rfl, fun stage hstage ↦ nomatch hstage⟩
      · rw [hleave]
        exact ⟨rfl, rfl, fun stage hstage ↦ ⟨_, _, (Progressed.waits.inj hstage).symm⟩⟩
    · exact ⟨rfl, rfl, fun stage hstage ↦ nomatch hstage⟩

/-- An operation is pursued by at most two moves, and when it has ended there is a collection. -/
theorem pursue_cases (session : Session) (progressed : Progressed) :
    (∃ outcome, progressed = .ended outcome ∧
      session.pursue progressed = (session.collect, .ended outcome)) ∨
    ∃ stage, progressed = .waits stage ∧
      ((session.advance? stage = none ∧ session.pursue progressed = (session, .waits stage)) ∨
        (∃ after outcome, session.advance? stage = some (after, .ended outcome) ∧
          session.pursue progressed = (after.collect, .ended outcome)) ∨
        ∃ middle last, session.advance? stage = some (middle, .waits last) ∧
          ((∃ after outcome, middle.advance? last = some (after, .ended outcome) ∧
              session.pursue progressed = (after.collect, .ended outcome)) ∨
            session.pursue progressed = (middle, .waits last))) := by
  cases progressed with
  | ended outcome => exact .inl ⟨outcome, rfl, rfl⟩
  | waits stage =>
    refine .inr ⟨stage, rfl, ?_⟩
    unfold pursue
    split
    · next outcome heq => exact absurd heq (by simp)
    · next stage' heq =>
      obtain rfl := Progressed.waits.inj heq
      split
      · next hnone => exact .inl ⟨hnone, rfl⟩
      · next after outcome hended => exact .inr (.inl ⟨after, outcome, hended, rfl⟩)
      · next middle last hwaits =>
        refine .inr (.inr ⟨middle, last, hwaits, ?_⟩)
        split
        · next after outcome hended => exact .inl ⟨after, outcome, hended, rfl⟩
        · exact .inr rfl

end Session

end Offload
