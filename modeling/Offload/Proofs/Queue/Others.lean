import Offload.Proofs.Queue.Commands

/-!
# Other queues

A client of one queue gives no other queue a job, and neither does the worker of its queue. It may give
up the last reference to another queue, though, and then it waits for that queue. Whoever waits
waits for jobs that are still to be run.
-/

namespace Offload.Session

open Heap

variable {platform : Platform} {id other : ObjectId} {session after : Session}
  {progressed : Progressed} {stage : Stage} {decision : Decision}

/-! ## Jobs of other queues -/

theorem jobsOf_congr {left right : Heap} (hqueue : left.hostQueue? id = right.hostQueue? id) :
    left.jobsOf id = right.jobsOf id := by
  unfold jobsOf
  rw [hqueue]

/-- A client that waits for no room in another queue gives it no job. -/
theorem jobsOf_advance (hother : other ≠ id)
    (hroom : ∀ target job, stage = .room target job → target = id)
    (hadvance : session.advance? stage = some (after, progressed)) :
    after.heap.jobsOf other = session.heap.jobsOf other ∧
      ∀ target job, progressed ≠ .waits (.room target job) := by
  have hdrain (target : ObjectId) :
      (session.drain target {}).heap.jobsOf other = session.heap.jobsOf other := by
    unfold drain jobsOf
    rw [hostQueue?_modifyQueue]
    by_cases htarget : other = target
    · rw [if_pos htarget]
      cases session.heap.hostQueue? other <;> rfl
    · rw [if_neg htarget]
  have hleave (outcome : Outcome) (left : Session) (target : ObjectId) :
      ∀ found job, (left.leave target outcome).2 ≠ .waits (.room found job) := by
    intro found job
    rcases left.leave_cases target outcome with ⟨-, hleave⟩ | ⟨-, hleave⟩
    all_goals
      rw [hleave]
      simp
  cases stage with
  | room target job =>
    obtain ⟨queue, -, -, hresult⟩ := advance?_room hadvance
    have hafter : after = (leave _ _ _).1 := congrArg Prod.fst hresult
    have hprogressed : progressed = (leave _ _ _).2 := congrArg Prod.snd hresult
    rw [hafter, hprogressed, (leave_eq _ _ _).1, heap_deliver]
    refine ⟨jobsOf_congr ?_, hleave _ _ _⟩
    unfold accept
    rw [hostQueue?_modifyQueue, if_neg (hroom target job rfl ▸ hother)]
  | drained target =>
    obtain ⟨queue, -, -, hresult⟩ := advance?_drained hadvance
    have hafter : after = (leave _ _ _).1 := congrArg Prod.fst hresult
    have hprogressed : progressed = (leave _ _ _).2 := congrArg Prod.snd hresult
    rw [hafter, hprogressed, (leave_eq _ _ _).1]
    exact ⟨hdrain target, hleave _ _ _⟩
  | discarded target outcome =>
    obtain ⟨queue, -, -, rfl, rfl⟩ := advance?_discarded hadvance
    exact ⟨hdrain target, fun _ _ ↦ by simp⟩

theorem jobsOf_pursue (hother : other ≠ id) (hsteady : session.Steady progressed)
    (hroom : ∀ target job, progressed = .waits (.room target job) → target = id) :
    (session.pursue progressed).1.heap.jobsOf other = session.heap.jobsOf other := by
  have hcollect {session : Session} {outcome : Outcome} (hsteady : session.Steady (.ended outcome)) :
      session.collect.heap.jobsOf other = session.heap.jobsOf other :=
    ((aside_collect hsteady.sound.rooted other).jobsOf_eq hsteady.sound.rooted.sound).1
  rcases session.pursue_cases progressed with ⟨outcome, rfl, hpursue⟩ | ⟨stage, rfl, hcases⟩
  · rw [hpursue]
    exact hcollect hsteady
  · have hroom : ∀ target job, stage = .room target job → target = id :=
      fun target job hstage ↦ hroom target job (congrArg _ hstage)
    rcases hcases with ⟨-, hpursue⟩ | ⟨after, outcome, hadvance, hpursue⟩ |
      ⟨middle, last, hadvance, hcases⟩
    · rw [hpursue]
    · rw [hpursue]
      calc after.collect.heap.jobsOf other = after.heap.jobsOf other :=
            hcollect (hsteady.advance hadvance)
        _ = session.heap.jobsOf other := (jobsOf_advance hother hroom hadvance).1
    · obtain ⟨hmiddle, hnoroom⟩ := jobsOf_advance hother hroom hadvance
      have hnext : ∀ target job, last = .room target job → target = id :=
        fun target job hstage ↦ absurd (congrArg _ hstage) (hnoroom target job)
      rcases hcases with ⟨after, outcome, hlast, hpursue⟩ | hpursue
      · rw [hpursue]
        calc after.collect.heap.jobsOf other = after.heap.jobsOf other :=
              hcollect ((hsteady.advance hadvance).advance hlast)
          _ = middle.heap.jobsOf other := (jobsOf_advance hother hnext hlast).1
          _ = session.heap.jobsOf other := hmiddle
      · rw [hpursue]
        exact hmiddle

/-- What a client of a queue commits to gives no other queue a job, and asks for no room there. -/
theorem jobsOf_commit (other : ObjectId) (horder : session.heap.Ordered)
    (hconcerns : Command.Concerns session id decision) :
    (session.commit decision).1.heap.jobsOf other = session.heap.jobsOf other ∧
      ∀ target job, (session.commit decision).2 = .waits (.room target job) → target = id := by
  cases hconcerns with
  | answer reply =>
    exact ⟨rfl, fun _ _ hstage ↦
      absurd hstage (by simp [commit, Decision.answer, Progressed.reply])⟩
  | submit job hnames =>
    refine ⟨rfl, fun target job hstage ↦ ?_⟩
    exact (Stage.room.inj (Progressed.waits.inj hstage)).1.symm
  | drain hnames => exact ⟨rfl, fun _ _ hstage ↦ absurd hstage (by simp [commit])⟩
  | launch job hnames =>
    refine ⟨jobsOf_congr ?_, fun target job hstage ↦ ?_⟩
    · show hostQueue? (session.heap.insert _).1 other = _
      rw [hostQueue?_insert]
      split
      · next hnew =>
        have hnone := horder.get?_eq_none (Nat.le_of_eq hnew.symm)
        unfold hostQueue?
        rw [hnone]
      · rfl
    · exact (Stage.room.inj (Progressed.waits.inj hstage)).1.symm
  | release handle =>
    obtain ⟨hheap, -, hstages⟩ := session.release_keeps handle
    refine ⟨congrArg (Heap.jobsOf · other) hheap, fun target job hstage ↦ ?_⟩
    obtain ⟨_, _, hdiscarded⟩ := hstages _ hstage
    exact absurd hdiscarded (by simp)

/-- The worker of a queue gives no other queue a job. -/
theorem jobsOf_work (hother : other ≠ id) (hkept : session.Kept [])
    (hwork : session.work? platform id = some after) :
    after.heap.jobsOf other = session.heap.jobsOf other :=
  ((aside_work hkept hother hwork).jobsOf_eq hkept.rooted.sound).1

/-! ## Waiting clients -/

/-- A client waits for a queue only while the queue has jobs. -/
theorem jobsOf_ne_nil_of_advance?_eq_none (hsound : session.Sound [stage])
    (hnone : session.advance? stage = none) : session.heap.jobsOf stage.queue ≠ [] := by
  obtain ⟨queue, hget⟩ := (hsound.rooted.supported stage List.mem_cons_self).queue
  have hqueue := hostQueue?_eq_some.2 hget
  have hsoundQueue := hsound.rooted.sound.queues hqueue
  intro hempty
  have hempty : queue.jobs = [] := by
    rw [jobsOf, hqueue] at hempty
    exact hempty
  have hpending : queue.progress.pending = 0 := by
    rw [hsoundQueue.pending, hempty]
    rfl
  have hacquire : queue.progress.acquire? queue.capacity = some _ :=
    Progress.acquire?_eq_some.2 ⟨hpending ▸ hsoundQueue.positive, rfl⟩
  have hdrain : queue.progress.drain? = some _ :=
    Progress.drain?_eq_some.2 ⟨hpending, rfl, rfl⟩
  cases stage with
  | room target job =>
    have hthere : session.heap.hostQueue? target = some queue := hqueue
    simp only [advance?, hthere, hacquire, bind, Option.bind_some] at hnone
    split at hnone <;> exact absurd hnone (by simp)
  | drained target =>
    have hthere : session.heap.hostQueue? target = some queue := hqueue
    simp [advance?, hthere, hdrain] at hnone
  | discarded target outcome =>
    have hthere : session.heap.hostQueue? target = some queue := hqueue
    simp [advance?, hthere, hdrain] at hnone

end Offload.Session
