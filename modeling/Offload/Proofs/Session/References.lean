import Offload.Proofs.Queue.Logs

/-!
# References under changes

An object that has lost its handles, and that no operation in flight refers to, never gets another
reference: new jobs, new operations and new handles take their objects from handles. So when only jobs
of one queue are left to refer to it, nothing does after the queue has been drained. In the other
direction a reference goes only with the handle that is released, or with the job that is finished.
-/

namespace Offload.Session

open Heap

variable {platform : Platform} {program : Program} {allowed : Session → Prop}
  {start session before after : Session} {flight last : List Stage} {log more : List Happening}
  {id queue : ObjectId}

/-! ## No new references -/

/-- A handle given out by a change is for a new object, or for one that was referred to. -/
theorem Change.handle_cases (hchange : Change platform before flight more after last)
    (hsound : before.Sound flight) {handle : Handle} {slot : Slot ObjectId}
    (hslot : after.registry.get? handle = some slot) :
    slot.object = before.heap.next ∨ Refers before.registry (before.stages flight) slot.object := by
  have hkeeps {registry : Registry ObjectId} (hsame : registry = before.registry)
      (hslot : registry.get? handle = some slot) :
      Refers before.registry (before.stages flight) slot.object :=
    .inl ⟨handle, slot, hsame ▸ hslot, rfl⟩
  have hregister {kind : Kind} {id : ObjectId}
      (hslot : (before.registry.register kind id).1.get? handle = some slot) :
      slot.object = id ∨ Refers before.registry (before.stages flight) slot.object := by
    rw [Registry.register, Table.get?_insert] at hslot
    split at hslot
    · exact .inl (Option.some.inj hslot ▸ rfl)
    · exact .inr (.inl ⟨handle, slot, hslot, rfl⟩)
  cases hchange with
  | aside _ hregistry => exact .inr (hkeeps hregistry hslot)
  | create => exact hregister hslot
  | @createView view =>
    obtain ⟨heap, allocator, hplaced, -⟩ := placeView_fst before (.host view)
    rw [hplaced] at hslot
    exact hregister hslot
  | expose _ hnames =>
    refine .inr ((hregister hslot).elim (fun hid ↦ ?_) fun hbefore ↦ hbefore)
    rw [hid]
    exact refers_of_names hsound.rooted.numbered hnames _
  | recount other count =>
    change Table.get? (before.registry.modify other _) handle = _ at hslot
    rw [Table.get?_modify] at hslot
    split at hslot
    · obtain ⟨old, hold, rfl⟩ := Option.map_eq_some_iff.1 hslot
      exact .inr (.inl ⟨handle, old, hold, rfl⟩)
    · exact .inr (hkeeps rfl hslot)
  | erase =>
    change Table.get? (before.registry.erase _) handle = _ at hslot
    rw [Table.get?_erase] at hslot
    split at hslot
    · exact absurd hslot (by simp)
    · exact .inr (hkeeps rfl hslot)
  | @accept target job found =>
    unfold deliver at hslot
    split at hslot
    · exact .inr (hkeeps rfl hslot)
    · next future hfuture =>
      refine .inr ((hregister hslot).elim (fun hid ↦ ?_) fun hbefore ↦ hbefore)
      refine .inr ⟨.room target job, List.mem_append_left _ List.mem_cons_self, ?_⟩
      rw [hid]
      exact List.mem_cons_of_mem _ (List.mem_append_left _ (Option.mem_toList.2 hfuture))
  | @finish _ target found job rest host failure _ _ _ hafter =>
    rw [hafter, finish_eq] at hslot
    exact .inr (hkeeps rfl hslot)
  | _ => exact .inr (hkeeps rfl hslot)

/-- What is referred to after a change was referred to before, or is new. -/
theorem Change.refers_cases (hchange : Change platform before flight more after last)
    (hsound : before.Sound flight) (hrefers : Refers after.registry (after.stages last) id) :
    id = before.heap.next ∨ Refers before.registry (before.stages flight) id := by
  have hnamed {other : ObjectId} (hnames : before.registry.Names other) :
      Refers before.registry (before.stages flight) other :=
    refers_of_names hsound.rooted.numbered hnames _
  rcases hrefers with ⟨handle, slot, hslot, rfl⟩ | ⟨stage, hstage, hid⟩
  · exact hchange.handle_cases hsound hslot
  · rcases hchange.stage_cases hstage with hbefore | hdemand |
      ⟨target, job, rfl, hnames, -⟩ | ⟨target, outcome, rfl, hreferred⟩
    · exact .inr (.inr ⟨stage, hbefore, hid⟩)
    · exact .inr (hnamed (hdemand.names id hid))
    · simp only [Stage.references, Job.references, Option.toList_some, List.singleton_append,
        List.mem_cons] at hid
      rcases hid with rfl | rfl | hheld
      · exact .inr (hnamed (hnames _ List.mem_cons_self))
      · exact .inl rfl
      · exact .inr (hnamed (hnames _ (List.mem_cons_of_mem _ hheld)))
    · obtain rfl := List.mem_singleton.1 hid
      exact .inr hreferred

/-- Nothing but jobs of one queue refers to an object. -/
structure LeftTo (session : Session) (flight : List Stage) (id queue : ObjectId) : Prop where
  older : id < session.heap.next
  unreferred : ¬Refers session.registry (session.stages flight) id
  jobs : ∀ other, ∀ job ∈ session.heap.jobsOf other, id ∈ job.references → other = queue

/-- A queue has the jobs it had before a change, and one that waited for room. -/
theorem Change.job_cases (hchange : Change platform before flight more after last)
    (hsound : before.Sound flight) {job : Job} (hjob : job ∈ after.heap.jobsOf queue) :
    job ∈ before.heap.jobsOf queue ∨ flight = [.room queue job] := by
  have hmem : job ∈ before.heap.jobsOf queue ++ acceptedJobs queue more := by
    rw [hchange.jobsOf hsound queue]
    exact List.mem_append_right _ hjob
  refine (List.mem_append.1 hmem).imp_right fun haccepted ↦ ?_
  have hevent := mem_acceptedJobs_iff.1 haccepted
  cases hchange with
  | accept =>
    obtain ⟨rfl, hsame⟩ := Happening.queued.inj (List.mem_singleton.1 hevent)
    obtain rfl := QueueEvent.accepted.inj hsame
    rfl
  | _ => simp at hevent

theorem LeftTo.job_cases (hleft : LeftTo before flight id queue) (hsound : before.Sound flight)
    (hchange : Change platform before flight more after last) {other : ObjectId} {job : Job}
    (hjob : job ∈ after.heap.jobsOf other) (hid : id ∈ job.references) :
    job ∈ before.heap.jobsOf other := by
  refine (hchange.job_cases hsound hjob).resolve_right ?_
  rintro rfl
  exact hleft.unreferred (.inr ⟨.room other job, List.mem_append_left _ List.mem_cons_self,
    List.mem_cons_of_mem _ hid⟩)

theorem LeftTo.change (hleft : LeftTo before flight id queue) (hsound : before.Sound flight)
    (hchange : Change platform before flight more after last) : LeftTo after last id queue where
  older := Nat.lt_of_lt_of_le hleft.older hchange.next_le
  unreferred := by
    intro hrefers
    rcases hchange.refers_cases hsound hrefers with hnew | hbefore
    · exact absurd hleft.older (hnew ▸ Nat.lt_irrefl _)
    · exact hleft.unreferred hbefore
  jobs := fun other job hjob hid ↦
    hleft.jobs other job (hleft.job_cases hsound hchange hjob hid) hid

/-- When its queue has been drained, no job refers to the object any more. -/
theorem History.forsaken (hhistory : History platform allowed start log session flight)
    (hsound : start.Sound []) (hleft : LeftTo start [] id queue) {event : QueueEvent}
    (hdrain : event.IsDrain) (hevent : .queued queue event ∈ log) :
    id ∉ anchors session.registry (session.stages flight) session.heap := by
  have hinvariant : LeftTo session flight id queue ∧ (.queued queue event ∈ log →
      ∀ other, ∀ job ∈ session.heap.jobsOf other, id ∉ job.references) := by
    refine hhistory.induct (motive := fun log session flight ↦ LeftTo session flight id queue ∧
      (Happening.queued queue event ∈ log →
        ∀ other, ∀ job ∈ session.heap.jobsOf other, id ∉ job.references)) hsound
      ⟨hleft, fun hmem ↦ absurd hmem List.not_mem_nil⟩ ?_
      fun _ _ _ _ _ ⟨hleft, hdone⟩ ↦ ⟨⟨hleft.older, hleft.unreferred, hleft.jobs⟩, hdone⟩
    intro log before flight more after last _ hsound ⟨hleft, hdone⟩ hchange
    refine ⟨hleft.change hsound hchange, fun hmem other job hjob hid ↦ ?_⟩
    have hbefore := hleft.job_cases hsound hchange hjob hid
    rcases List.mem_append.1 hmem with hmem | hmem
    · exact hdone hmem other job hbefore hid
    · obtain rfl := hleft.jobs other job hbefore hid
      rw [(hchange.jobsOf_of_drain hsound hdrain hmem).2] at hbefore
      exact absurd hbefore List.not_mem_nil
  have hafter := hhistory.sound hsound
  rw [mem_anchors_iff hafter.rooted.numbered]
  rintro (hrefers | ⟨job, hjob, hid⟩)
  · exact hinvariant.1.unreferred hrefers
  · obtain ⟨other, found, hfound, hmem⟩ := (mem_jobs_iff hafter.rooted.ordered).1 hjob
    refine hinvariant.2 hevent other job ?_ hid
    unfold Heap.jobsOf
    rw [hfound]
    exact hmem

/-! ## References that stay -/

/-- A handle keeps its object until it is released. -/
theorem Change.handle_kept (hchange : Change platform before flight more after last)
    (hsound : before.Sound flight) {handle : Handle} {slot : Slot ObjectId}
    (hslot : before.registry.get? handle = some slot) (hheld : .released slot.object ∉ more) :
    ∃ found, after.registry.get? handle = some found ∧ found.object = slot.object := by
  have hkeeps {registry : Registry ObjectId} (hsame : registry = before.registry) :
      ∃ found, registry.get? handle = some found ∧ found.object = slot.object :=
    ⟨slot, hsame ▸ hslot, rfl⟩
  have hregister (kind : Kind) (id : ObjectId) :
      ∃ found, (before.registry.register kind id).1.get? handle = some found ∧
        found.object = slot.object := by
    refine ⟨slot, ?_, rfl⟩
    have hold := hsound.rooted.numbered.lt_next hslot
    rw [Registry.register, Table.get?_insert, if_neg (Nat.ne_of_lt hold)]
    exact hslot
  cases hchange with
  | aside _ hregistry => exact hkeeps hregistry
  | create | expose => exact hregister _ _
  | @createView view =>
    obtain ⟨heap, allocator, hplaced, -⟩ := placeView_fst before (.host view)
    rw [hplaced]
    exact hregister _ _
  | recount other count =>
    by_cases hother : handle = other
    · refine ⟨{ slot with count := count slot }, ?_, rfl⟩
      show Table.get? (before.registry.modify other _) handle = _
      rw [Table.get?_modify, if_pos hother, hslot]
      rfl
    · refine ⟨slot, ?_, rfl⟩
      show Table.get? (before.registry.modify other _) handle = _
      rw [Table.get?_modify, if_neg hother, hslot]
  | @erase other found hfound =>
    refine ⟨slot, ?_, rfl⟩
    show Table.get? (before.registry.erase other) handle = _
    rw [Table.get?_erase, if_neg, hslot]
    rintro rfl
    rw [hslot] at hfound
    exact hheld (Option.some.inj hfound ▸ List.mem_cons_self)
  | accept =>
    unfold deliver
    split
    · exact hkeeps rfl
    · exact hregister _ _
  | @finish _ _ _ _ _ _ _ _ _ _ hafter =>
    rw [hafter, finish_eq]
    exact hkeeps rfl
  | _ => exact hkeeps rfl

/-- What an operation in flight refers to, other than its queue, stays referred to: the operation is
still in flight, or has put its job into the queue. -/
theorem Change.stage_kept (hchange : Change platform before flight more after last)
    (hsound : before.Sound flight) {stage : Stage} (hstage : stage ∈ before.stages flight)
    (hid : id ∈ stage.references) (hqueue : id ≠ stage.queue) :
    (∃ other ∈ after.stages last, id ∈ other.references) ∨
      ∃ queue, ∃ job ∈ after.heap.jobsOf queue, id ∈ job.references := by
  have hkeeps (hmem : stage ∈ after.stages last) :
      (∃ other ∈ after.stages last, id ∈ other.references) ∨
        ∃ queue, ∃ job ∈ after.heap.jobsOf queue, id ∈ job.references :=
    .inl ⟨stage, hmem, hid⟩
  -- A client that waits goes on waiting, whatever becomes of the operation itself.
  have hwaits {last : List Stage}
      (hsame : after.waiting.map (·.stage) = before.waiting.map (·.stage))
      (hmem : stage ∈ before.waiting.map (·.stage)) : stage ∈ after.stages last := by
    unfold stages
    exact List.mem_append_right _ (hsame ▸ hmem)
  have hjobs := hchange.jobsOf hsound
  cases hchange with
  | aside _ _ hclaims =>
    rw [← stages_eq_of_claims hclaims] at hstage
    exact hkeeps hstage
  | createView =>
    obtain ⟨heap, allocator, hplaced, -⟩ := placeView_fst before (.host _)
    refine hkeeps (hwaits ?_ hstage)
    rw [hplaced]
    rfl
  | erase => exact hkeeps (List.mem_append_right _ hstage)
  | demand | launch => exact hkeeps (List.mem_cons_of_mem _ hstage)
  | @accept target job found hfound =>
    have hwaiting : ((before.accept target { found.progress with
        pending := found.progress.pending + 1 } job).deliver job).1.waiting = before.waiting := by
      unfold deliver
      split <;> rfl
    rcases List.mem_cons.1 hstage with rfl | hmem
    · have haccepted : job ∈ before.heap.jobsOf target ++
          acceptedJobs target [.queued target (.accepted job)] :=
        List.mem_append_right _ (mem_acceptedJobs_iff.2 List.mem_cons_self)
      rw [hjobs target] at haccepted
      have hmem := (List.mem_append.1 haccepted).resolve_left List.not_mem_nil
      exact .inr ⟨target, job, hmem, (List.mem_cons.1 hid).resolve_left hqueue⟩
    · exact hkeeps (hwaits (congrArg (List.map _) hwaiting) hmem)
  | part | sync | drop =>
    rcases List.mem_cons.1 hstage with rfl | hmem
    · exact absurd (List.mem_singleton.1 hid) hqueue
    · exact hkeeps (hwaits rfl hmem)
  | @finish _ _ _ _ _ _ _ _ _ _ hafter =>
    refine hkeeps ?_
    rw [hafter, finish_eq, stages_wake]
    exact hstage
  | park client => exact hkeeps ((stages_withClient_perm before client).mem_iff.1 hstage)
  | unpark hclient hdistinct =>
    exact hkeeps ((stages_withoutClient_perm hclient hdistinct).mem_iff.1 hstage)
  | _ => exact hkeeps hstage

theorem mem_jobs_iff_jobsOf (hsound : session.Sound flight) {job : Job} :
    job ∈ session.heap.jobs ↔ ∃ queue, job ∈ session.heap.jobsOf queue := by
  rw [mem_jobs_iff hsound.rooted.ordered]
  constructor
  · rintro ⟨queue, found, hfound, hjob⟩
    refine ⟨queue, ?_⟩
    unfold Heap.jobsOf
    rw [hfound]
    exact hjob
  · rintro ⟨queue, hjob⟩
    unfold Heap.jobsOf at hjob
    split at hjob
    · exact absurd hjob List.not_mem_nil
    · next found hfound => exact ⟨queue, found, hfound, hjob⟩

/-- A view that something refers to stays so until its handle is released or a job with it is
finished. -/
theorem Change.anchored (hchange : Change platform before flight more after last)
    (hsound : before.Sound flight) {view : View} (hview : before.heap.view? id = some view)
    (hanchor : id ∈ anchors before.registry (before.stages flight) before.heap)
    (hheld : .released id ∉ more)
    (hunfinished : ∀ queue job failure, .queued queue (.finished job failure) ∈ more →
      id ∉ job.references) :
    id ∈ anchors after.registry (after.stages last) after.heap := by
  have hafter := hchange.sound hsound
  rw [mem_anchors_iff hafter.rooted.numbered]
  have hjobs {queue : ObjectId} {job : Job} (hjob : job ∈ after.heap.jobsOf queue)
      (hid : id ∈ job.references) : ∃ job ∈ after.heap.jobs, id ∈ job.references :=
    ⟨job, (mem_jobs_iff_jobsOf hafter).2 ⟨queue, hjob⟩, hid⟩
  rcases (mem_anchors_iff hsound.rooted.numbered).1 hanchor with
    (⟨handle, slot, hslot, rfl⟩ | ⟨stage, hstage, hid⟩) | ⟨job, hjob, hid⟩
  · exact .inl (.inl ⟨handle, hchange.handle_kept hsound hslot hheld⟩)
  · have hqueue : id ≠ stage.queue := by
      rintro rfl
      obtain ⟨queue, hget⟩ := (hsound.rooted.supported stage hstage).queue
      rw [view?_eq_some.1 hview] at hget
      exact absurd hget (by simp)
    rcases hchange.stage_kept hsound hstage hid hqueue with hstages | ⟨queue, job, hjob, hid⟩
    · exact .inl (.inr hstages)
    · exact .inr (hjobs hjob hid)
  · obtain ⟨queue, hjob⟩ := (mem_jobs_iff_jobsOf hsound).1 hjob
    have hmem : job ∈ before.heap.jobsOf queue ++ acceptedJobs queue more :=
      List.mem_append_left _ hjob
    rw [hchange.jobsOf hsound queue] at hmem
    rcases List.mem_append.1 hmem with hdone | hmem
    · obtain ⟨⟨job, failure⟩, hfinished, rfl⟩ := List.mem_map.1 hdone
      exact absurd hid (hunfinished queue job failure (mem_finishedJobs_iff.1 hfinished))
    · exact .inr (hjobs hmem hid)

end Offload.Session
