import Offload.Proofs.Session.Soundness

/-!
# Operations preserve soundness

Moving a waiting client on, committing a decision and pursuing it each lead from a steady session
to a steady one. A client never leaves a queue that has jobs without a reference: the last one to
refer to a queue turns into a client that waits for the queue to end.
-/

namespace Offload.Session

open Heap

variable {session after : Session} {flight : List Stage} {progressed : Progressed}
  {stage : Stage} {id : ObjectId}

/-! ## Leaving a queue -/

/-- A client that still refers to a queue may leave it. -/
theorem steady_leave {outcome : Outcome} (hsound : session.Sound [.discarded id outcome])
    (htidy : Tidy session.registry (session.stages [.discarded id outcome]) session.heap) :
    (session.leave id outcome).1.Steady (session.leave id outcome).2 := by
  rcases session.leave_cases id outcome with ⟨hrefers, hleave⟩ | ⟨-, hleave⟩
  · rw [hleave]
    have hrefers' := (refersTo_iff hsound.rooted.numbered).1 hrefers
    apply steady_ended
    refine ⟨hsound.rooted.drop ?_, hsound.tracked, hsound.loaded⟩
    intro other hother queue _ _
    obtain rfl : other = id := by simpa [Stage.references] using hother
    exact hrefers'
  · rw [hleave]
    exact steady_waits hsound htidy

/-! ## Moving a waiting client on -/

/-- The stage of an operation in flight may be replaced if the new one refers to every queue with
jobs that the old one referred to. -/
theorem Sound.replace (hsound : session.Sound [stage]) (next : Stage)
    (hsupported : next.Supported session.heap.get?)
    (hbusy : ∀ id ∈ stage.references, ∀ queue, session.heap.hostQueue? id = some queue →
      id ∈ next.references) : session.Sound [next] := by
  refine ⟨?_, hsound.tracked, hsound.loaded⟩
  have hboth : Rooted session.registry (stage :: session.stages [next]) session.heap := by
    apply hsound.rooted.weaken
    · intro other hother
      simp only [stages, List.cons_append, List.nil_append, List.mem_cons] at hother ⊢
      exact hother.imp_right .inr
    · intro other hother hnew
      simp only [stages, List.cons_append, List.nil_append, List.mem_cons, not_or] at hother hnew
      rcases hother with rfl | rfl | hother
      · exact absurd rfl hnew.1
      · exact hsupported
      · exact absurd hother hnew.2
  apply hboth.drop
  intro other hother queue hqueue _
  exact .inr ⟨next, by simp [stages], hbusy other hother queue hqueue⟩

/-- A job refers to no queue. -/
theorem not_mem_references {heap : Heap} {job : Job} (hsupported : job.Supported heap.get?)
    {queue : HostQueue} (hqueue : heap.hostQueue? id = some queue) : id ∉ job.references := by
  intro hid
  rw [hostQueue?_eq_some] at hqueue
  rcases List.mem_append.1 hid with hfuture | hheld
  · obtain ⟨state, hget⟩ := hsupported.future id (by simpa using hfuture)
    rw [hget] at hqueue
    exact absurd hqueue (by simp)
  · obtain ⟨object, hget, hkind⟩ := hsupported.holds id hheld
    rw [hget] at hqueue
    obtain rfl := Option.some.inj hqueue
    simp [Object.kind] at hkind

/-- What a heap keeps alive is not less after a change of a queue that keeps its jobs. -/
theorem anchors_subset_modifyQueue {registry : Registry ObjectId} {stages : List Stage}
    {heap : Heap} {queue : HostQueue} (progress : HostQueue → Progress)
    (jobs : HostQueue → List Job) (hnumbered : registry.Ordered) (horder : heap.Ordered)
    (hqueue : heap.hostQueue? id = some queue) (hjobs : queue.jobs ⊆ jobs queue) :
    anchors registry stages heap ⊆ anchors registry stages
      (heap.modifyQueue id fun queue ↦
        { queue with progress := progress queue, jobs := jobs queue }) := by
  intro root hroot
  rw [mem_anchors_iff hnumbered] at hroot ⊢
  refine hroot.imp_right ?_
  rintro ⟨job, hjob, hmem⟩
  refine ⟨job, (mem_jobs_modifyQueue_iff horder hqueue progress jobs).2 ?_, hmem⟩
  obtain ⟨other, found, hfound, hjob⟩ := (mem_jobs_iff horder).1 hjob
  by_cases hother : other = id
  · rw [hother, hqueue] at hfound
    obtain rfl := Option.some.inj hfound
    exact .inl (hjobs hjob)
  · exact .inr ⟨other, found, hother, hfound, hjob⟩

theorem anchors_subset_of_queues {registry : Registry ObjectId} {stages : List Stage}
    {left right : Heap} (hleft : left.Ordered) (hright : right.Ordered)
    (hqueues : ∀ id, right.hostQueue? id = left.hostQueue? id) :
    anchors registry stages left ⊆ anchors registry stages right := by
  unfold anchors
  refine List.append_subset.2 ⟨List.subset_append_left _ _, fun root hroot ↦ ?_⟩
  obtain ⟨job, hjob, hmem⟩ := List.mem_flatMap.1 hroot
  obtain ⟨id, queue, hqueue, hjob⟩ := (mem_jobs_iff hleft).1 hjob
  have hjob := (mem_jobs_iff hright).2 ⟨id, queue, (hqueues id).trans hqueue, hjob⟩
  exact List.mem_append_right _ (List.mem_flatMap.2 ⟨job, hjob, hmem⟩)

/-- A queue with room accepts a job: the client is left with a reference to the queue. -/
theorem sound_accept {job : Job} {queue : HostQueue} {outcome : Outcome}
    (hsound : session.Sound [.room id job]) (hqueue : session.heap.hostQueue? id = some queue)
    (hroom : queue.progress.pending < queue.capacity) :
    (session.accept id { queue.progress with pending := queue.progress.pending + 1 }
      job).Sound [.discarded id outcome] := by
  have hjob := (hsound.rooted.supported (.room id job) (by simp [stages])).2
  have hbefore := hsound.rooted.sound.queues hqueue
  have hwaits : session.Sound [.discarded id outcome] := by
    refine hsound.replace (.discarded id outcome)
      ⟨queue, hostQueue?_eq_some.1 hqueue⟩ ?_
    intro other hother found hfound
    rcases List.mem_cons.1 hother with rfl | hmem
    · exact List.mem_cons_self
    · exact absurd hmem (not_mem_references hjob hfound)
  have halike := alike_modifyQueue session.heap id
    (fun _ ↦ { queue.progress with pending := queue.progress.pending + 1 })
    (fun queue ↦ queue.jobs ++ [job])
  refine ⟨?_, hsound.tracked.of_same (sameViews_modifyQueue _ _ _), fun entry hentry ↦
    halike.files_eq ▸ hsound.loaded entry hentry⟩
  refine Rooted.modifyQueue hwaits.rooted
    (fun _ ↦ { queue.progress with pending := queue.progress.pending + 1 })
    (fun queue ↦ queue.jobs ++ [job]) hqueue ?_ ?_
  · refine ⟨?_, hroom, hbefore.positive, ?_⟩
    · simp [hbefore.pending]
    · intro other hother
      rcases List.mem_append.1 hother with hold | hnew
      · exact hbefore.jobs other hold
      · obtain rfl := List.mem_singleton.1 hnew
        exact hjob
  · intro _
    exact .inr ⟨_, List.mem_cons_self, List.mem_cons_self⟩

theorem tidy_accept {job : Job} {queue : HostQueue} {outcome : Outcome} {progress : Progress}
    (hsound : session.Sound [.room id job]) (hqueue : session.heap.hostQueue? id = some queue)
    (htidy : Tidy session.registry (session.stages [.room id job]) session.heap) :
    Tidy session.registry (session.stages [.discarded id outcome])
      (session.accept id progress job).heap := by
  apply htidy.of_alike (alike_modifyQueue session.heap id (fun _ ↦ progress)
    fun queue ↦ queue.jobs ++ [job])
  have horder := hsound.rooted.ordered
  have hnumbered := hsound.rooted.numbered
  apply List.Subset.trans (anchors_subset_modifyQueue (fun _ ↦ progress)
    (fun queue ↦ queue.jobs ++ [job]) hnumbered horder hqueue
    (List.subset_append_left _ _))
  intro root hroot
  rw [mem_anchors_iff hnumbered] at hroot ⊢
  rcases hroot with (hhandle | ⟨stage, hstage, hmem⟩) | hjob
  · exact .inl (.inl hhandle)
  · simp only [stages, List.cons_append, List.nil_append, List.mem_cons] at hstage
    rcases hstage with rfl | hstage
    · rcases List.mem_cons.1 hmem with rfl | hmem
      · exact .inl (.inr ⟨_, List.mem_cons_self, List.mem_cons_self⟩)
      · exact .inr ⟨job, (mem_jobs_modifyQueue_iff horder hqueue _ _).2
          (.inl (List.mem_append_right _ List.mem_cons_self)), hmem⟩
    · exact .inl (.inr ⟨stage, List.mem_cons_of_mem _ hstage, hmem⟩)
  · exact .inr hjob

/-- A handle for an object that is there makes nothing less alive. -/
theorem anchors_subset_register {registry : Registry ObjectId} {stages : List Stage} {heap : Heap}
    (kind : Kind) (id : ObjectId) :
    anchors registry stages heap ⊆ anchors (registry.register kind id).1 stages heap := by
  unfold anchors
  simp only [List.append_assoc]
  intro root hroot
  rcases List.mem_append.1 hroot with hhandle | hrest
  · exact List.mem_append_left _ (List.mem_cons_of_mem _ hhandle)
  · exact List.mem_append_right _ hrest

theorem steady_deliver {job : Job} (hjob : job.Supported session.heap.get?)
    (hsound : ∀ outcome, session.Sound [.discarded id outcome])
    (htidy : ∀ outcome, Tidy session.registry (session.stages [.discarded id outcome])
      session.heap) :
    ((session.deliver job).1.leave id (session.deliver job).2).1.Steady
      ((session.deliver job).1.leave id (session.deliver job).2).2 := by
  unfold deliver
  split
  · exact steady_leave (hsound _) (htidy _)
  · next future hfuture =>
    obtain ⟨state, hget⟩ := hjob.future future hfuture
    apply steady_leave
    · exact (hsound _).expose hget rfl
    · exact Tidy.of_alike (htidy _) (Alike.refl _) (anchors_subset_register .future future)

/-- A queue that is drained keeps its jobs: there are none. -/
theorem sound_drain {queue : HostQueue} (hsound : session.Sound flight)
    (hqueue : session.heap.hostQueue? id = some queue) (hidle : queue.progress.pending = 0) :
    (session.drain id {}).Sound flight := by
  have hbefore := hsound.rooted.sound.queues hqueue
  have hjobs : queue.jobs = [] := List.length_eq_zero_iff.1 (hbefore.pending ▸ hidle)
  have halike := alike_modifyQueue session.heap id (fun _ ↦ {}) (·.jobs)
  refine ⟨?_, hsound.tracked.of_same (sameViews_modifyQueue _ _ _), fun entry hentry ↦
    halike.files_eq ▸ hsound.loaded entry hentry⟩
  refine hsound.rooted.modifyQueue (fun _ ↦ {}) (·.jobs) hqueue ?_ ?_
  · refine ⟨?_, Nat.zero_le _, hbefore.positive, hbefore.jobs⟩
    rw [hjobs]
    rfl
  · exact fun hne ↦ absurd rfl hne

theorem tidy_drain {queue : HostQueue} {registry : Registry ObjectId} {stages : List Stage}
    (hnumbered : registry.Ordered) (horder : session.heap.Ordered)
    (hqueue : session.heap.hostQueue? id = some queue)
    (htidy : Tidy registry stages session.heap) :
    Tidy registry stages (session.drain id {}).heap :=
  htidy.of_alike (alike_modifyQueue session.heap id (fun _ ↦ {}) (·.jobs))
    (anchors_subset_modifyQueue (fun _ ↦ {}) (·.jobs) hnumbered horder hqueue
      (List.Subset.refl _))

/-- A client that drains a queue refers to it in the same way after as before. -/
theorem steady_drained {queue : HostQueue} {outcome : Outcome}
    (hsteady : session.Steady (.waits (.drained id)))
    (hqueue : session.heap.hostQueue? id = some queue) (hidle : queue.progress.pending = 0) :
    ((session.drain id {}).leave id outcome).1.Steady
      ((session.drain id {}).leave id outcome).2 := by
  have hsound := hsteady.sound
  have hwaits : session.Sound [.discarded id outcome] := by
    refine hsound.replace (.discarded id outcome)
      ⟨queue, hostQueue?_eq_some.1 hqueue⟩ ?_
    intro other hother _ _
    exact hother
  apply steady_leave
  · exact sound_drain hwaits hqueue hidle
  · apply tidy_drain hsound.rooted.numbered hsound.rooted.ordered hqueue
    exact Tidy.of_alike (hsteady.tidy _ rfl) (Alike.refl _) (List.Subset.refl _)

theorem Steady.advance (hsteady : session.Steady (.waits stage))
    (hadvance : session.advance? stage = some (after, progressed)) : after.Steady progressed := by
  have hsound := hsteady.sound
  cases stage with
  | room id job =>
    obtain ⟨queue, hqueue, hroom, hresult⟩ := advance?_room hadvance
    have hjob := (hsound.rooted.supported (.room id job) List.mem_cons_self).2
    have halike := alike_modifyQueue session.heap id
      (fun _ ↦ { queue.progress with pending := queue.progress.pending + 1 })
      (fun queue ↦ queue.jobs ++ [job])
    obtain ⟨rfl, rfl⟩ := Prod.mk.inj hresult
    apply steady_deliver
    · exact hjob.transfer fun other _ ↦ halike.carries other
    · exact fun outcome ↦ sound_accept hsound hqueue hroom
    · exact fun outcome ↦ tidy_accept hsound hqueue (hsteady.tidy _ rfl)
  | drained id =>
    obtain ⟨queue, hqueue, hidle, hresult⟩ := advance?_drained hadvance
    obtain ⟨rfl, rfl⟩ := Prod.mk.inj hresult
    exact steady_drained hsteady hqueue hidle
  | discarded id outcome =>
    obtain ⟨queue, hqueue, hidle, rfl, rfl⟩ := advance?_discarded hadvance
    have hdrained := sound_drain hsound hqueue hidle
    apply steady_ended
    refine ⟨hdrained.rooted.drop ?_, hdrained.tracked, hdrained.loaded⟩
    intro other hother found hfound hbusy
    obtain rfl : other = id := by simpa [Stage.references] using hother
    rw [drain, hostQueue?_modifyQueue, if_pos rfl, hqueue] at hfound
    obtain rfl := Option.some.inj hfound
    exact absurd rfl hbusy

/-- Pursuing an operation ends in a session with nothing to collect. -/
theorem Steady.pursue (hsteady : session.Steady progressed) :
    (session.pursue progressed).1.Kept (session.pursue progressed).2.flight := by
  rcases session.pursue_cases progressed with ⟨outcome, rfl, hpursue⟩ | ⟨stage, rfl, hcases⟩
  · rw [hpursue]
    exact kept_collect hsteady.sound.rooted hsteady.sound.tracked
  · rcases hcases with ⟨-, hpursue⟩ | ⟨after, outcome, hadvance, hpursue⟩ |
      ⟨middle, last, hadvance, hcases⟩
    · rw [hpursue]
      exact ⟨hsteady.sound, hsteady.tidy _ rfl⟩
    · rw [hpursue]
      have hafter := hsteady.advance hadvance
      exact kept_collect hafter.sound.rooted hafter.sound.tracked
    · have hmiddle := hsteady.advance hadvance
      rcases hcases with ⟨after, outcome, hadvance, hpursue⟩ | hpursue
      · rw [hpursue]
        have hafter := hmiddle.advance hadvance
        exact kept_collect hafter.sound.rooted hafter.sound.tracked
      · rw [hpursue]
        exact ⟨hmiddle.sound, hmiddle.tidy _ rfl⟩

/-! ## Committing decisions -/

theorem Sound.add (hsound : session.Sound []) (stage : Stage)
    (hstage : stage.Supported session.heap.get?) :
    session.Sound [stage] := by
  refine ⟨hsound.rooted.weaken (List.subset_cons_self _ _) ?_, hsound.tracked, hsound.loaded⟩
  intro other hother hnew
  rcases List.mem_cons.1 hother with rfl | hold
  · exact hstage
  · exact absurd hold hnew

theorem tidy_add {registry : Registry ObjectId} {stages more : List Stage} {heap : Heap}
    (htidy : Tidy registry stages heap) (hnumbered : registry.Ordered) (hsub : stages ⊆ more) :
    Tidy registry more heap := by
  apply htidy.of_alike (Alike.refl _)
  intro root hroot
  rw [mem_anchors_iff hnumbered] at hroot ⊢
  exact hroot.imp_left fun hrefers ↦ hrefers.mono hsub

theorem statics_foldl_record (records : List CallRecord) (host : HostState) :
    (records.foldl .record host).statics = host.statics := by
  induction records generalizing host with
  | nil => rfl
  | cons record rest ih => exact ih (host.record record)

/-- The calls of foreign hooks do not matter. -/
theorem Kept.record (hkept : session.Kept flight) (records : List CallRecord) :
    Kept { session with host := records.foldl .record session.host } flight :=
  ⟨⟨hkept.rooted, hkept.tracked, fun entry hentry ↦
    hkept.loaded entry (statics_foldl_record records session.host ▸ hentry)⟩, hkept.tidy⟩

/-- The last reference to a queue that a handle gives up is left with the client. -/
theorem steady_release (hkept : session.Kept []) (handle : Handle) :
    (session.release handle).1.Steady (session.release handle).2 := by
  rcases session.release_cases handle with ⟨failure, hrelease⟩ | hrelease |
    ⟨slot, hslot, events, hrelease⟩
  · rw [hrelease]
    exact steady_ended hkept.toSound
  · rw [hrelease]
    exact steady_ended ⟨hkept.rooted.recount handle (·.count - 1), hkept.tracked, hkept.loaded⟩
  · simp only at hrelease
    rw [hrelease]
    cases hqueue : session.heap.hostQueue? slot.object with
    | none =>
      refine steady_ended ⟨hkept.rooted.erase hslot ?_, hkept.tracked, hkept.loaded⟩
      intro queue hsome
      rw [hqueue] at hsome
      exact absurd hsome (by simp)
    | some queue =>
      rw [Option.isSome_some, if_pos rfl]
      have hwaits := hkept.toSound.add (.discarded slot.object (.ok .nothing))
        ⟨queue, hostQueue?_eq_some.1 hqueue⟩
      apply steady_leave
      · refine ⟨hwaits.rooted.erase hslot ?_, hkept.tracked, hkept.loaded⟩
        intro _ _ _
        exact .inr ⟨_, List.mem_cons_self, List.mem_cons_self⟩
      · refine Tidy.of_alike hkept.tidy (Alike.refl _) ?_
        intro root hroot
        rw [mem_anchors_iff hkept.rooted.numbered] at hroot
        rw [mem_anchors_iff (hkept.rooted.numbered.erase handle)]
        rcases hroot with (⟨other, found, hfound, hobject⟩ | ⟨stage, hstage, hmem⟩) | hjob
        · by_cases hother : other = handle
          · rw [hother, hslot] at hfound
            obtain rfl := Option.some.inj hfound
            exact .inl (.inr ⟨_, List.mem_cons_self, by simp [Stage.references, hobject]⟩)
          · exact .inl (.inl ⟨other, found,
              by rw [Table.get?_erase, if_neg hother, hfound], hobject⟩)
        · exact .inl (.inr ⟨stage, List.mem_cons_of_mem _ hstage, hmem⟩)
        · exact .inr hjob

/-- A launch keeps its new future alive itself. -/
theorem steady_launch (hkept : session.Kept []) {queue : ObjectId} {job : Job}
    (hstage : (Stage.room queue job).Supported session.heap.get?) :
    (session.place (.future (.cell .pending))).1.Steady
      (.waits (.room queue
        { job with future := some (session.place (.future (.cell .pending))).2 })) := by
  have horder := hkept.rooted.ordered
  have hplaced := hkept.toSound.place (Sound.makeable trivial trivial (by decide) :
    (Object.future (.cell .pending)).Makeable session.heap.get?)
  have hcarries (id : ObjectId) := carries_insert horder (.future (.cell .pending)) id
  apply steady_waits
  · apply hplaced.add
    obtain ⟨hqueue, hjob⟩ := hstage.transfer fun id _ ↦ hcarries id
    refine ⟨hqueue, hjob.holds, ?_, hjob.entry⟩
    rintro id hid
    obtain rfl := Option.some.inj hid
    exact ⟨.pending, Sound.get?_place _ _⟩
  · intro id object hget
    simp only [place, Table.get?_insert] at hget
    split at hget
    · next hid =>
      apply Reach.root
      rw [mem_anchors_iff hplaced.rooted.numbered]
      refine .inl (.inr ⟨_, List.mem_cons_self, ?_⟩)
      simp [Stage.references, Job.references, place, hid]
    · have hreach := Reach.insert_of_reach horder (.future (.cell .pending)) (hkept.tidy hget)
      apply hreach.subset
      intro root hroot
      rw [mem_anchors_iff hkept.rooted.numbered] at hroot
      rw [mem_anchors_iff hplaced.rooted.numbered]
      refine hroot.imp ?_ ?_
      · exact fun hrefers ↦ hrefers.mono (List.subset_cons_self _ _)
      · rintro ⟨job, hjob, hmem⟩
        exact ⟨job, by simpa [jobs, Table.values, Table.insert, place] using hjob, hmem⟩

theorem Kept.commit (hkept : session.Kept []) {decision : Decision}
    (heffect : decision.effect.Supported session.heap.get?) :
    (session.commit decision).1.Steady (session.commit decision).2 := by
  have hrecorded := hkept.record decision.records
  obtain ⟨records, effect⟩ := decision
  have hwaits {stage : Stage} (hstage : stage.Supported session.heap.get?) :=
    steady_waits (hrecorded.toSound.add stage hstage)
      (tidy_add hrecorded.tidy hrecorded.rooted.numbered (List.subset_cons_self _ _))
  cases effect with
  | answer reply => exact steady_ended hrecorded.toSound
  | refuse failure => exact steady_ended hrecorded.toSound
  | create creation =>
    obtain ⟨hplaced, object, hget, hkind⟩ := hrecorded.toSound.placeCreation heffect
    exact steady_ended (hplaced.expose hget hkind)
  | expose kind id =>
    obtain ⟨object, hget, hkind⟩ := heffect
    exact steady_ended (hrecorded.toSound.expose hget hkind)
  | retain handle =>
    unfold Session.commit
    cases hretain : session.registry.retain handle with
    | error failure =>
      simp only [hretain]
      exact steady_ended hrecorded.toSound
    | ok registry =>
      simp only [hretain]
      obtain rfl := Registry.retain_eq_ok hretain
      exact steady_ended
        ⟨hrecorded.rooted.recount handle (·.count + 1), hrecorded.tracked, hrecorded.loaded⟩
  | release handle => exact steady_release hrecorded handle
  | link modules =>
    have halike := alike_link session.heap modules
    refine steady_ended ⟨hrecorded.rooted.of_alike halike (hostQueue?_link _ _),
      hrecorded.tracked.of_same (sameViews_link _ _), fun entry hentry ↦ ?_⟩
    exact halike.files_eq ▸ hrecorded.loaded entry hentry
  | submit queue job => exact hwaits heffect
  | launch queue job => exact steady_launch hrecorded heffect
  | drain queue => exact hwaits heffect
  | settle future next =>
    have halike := alike_settleFuture session.heap future next
    refine steady_ended ⟨hrecorded.rooted.of_alike halike (hostQueue?_settleFuture _ _ _),
      hrecorded.tracked.of_same (sameViews_settleFuture _ _ _), fun entry hentry ↦ ?_⟩
    exact halike.files_eq ▸ hrecorded.loaded entry hentry
  | install handler =>
    exact steady_ended ⟨hrecorded.rooted, hrecorded.tracked, hrecorded.loaded⟩

end Offload.Session
