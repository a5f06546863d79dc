import Offload.Proofs.Session.References
import Offload.Proofs.Session.Views

/-!
# Classes of addresses

The class of an address depends on nothing but the views of the context that are alive. A context has
one range for each view that was made on it, is not empty, and is still referred to by a handle, a
waiting client or an unfinished job. What happens to other objects does not matter.
-/

namespace Offload

open Deciding Heap

/-- What a range covers, and as what. -/
def TrackedRange.stretch (range : TrackedRange) : Nat × Nat × AllocationKind :=
  (range.start, range.size, range.kind)

/-- What a view covers, and as what. -/
def HostView.stretch (view : HostView) : Nat × Nat × AllocationKind :=
  (view.address, view.size, view.kind)

theorem HostView.stretch_of_range? {view : HostView} {range : TrackedRange}
    (hrange : view.range? = some range) : range.stretch = view.stretch := by
  obtain ⟨number, -, rfl⟩ := Option.map_eq_some_iff.1 hrange
  rfl

theorem HostView.range?_isSome (view : HostView) :
    view.range?.isSome = view.registration.isSome :=
  Option.isSome_map

theorem RangeTracker.classify_congr {left right : RangeTracker} (hranges : left.ranges = right.ranges)
    (address : Nat) : left.classify address = right.classify address := by
  unfold classify deciding?
  rw [hranges]

namespace Session

variable {platform : Platform} {program : Program} {start session after : Session}
  {log later : List Happening} {id context : ObjectId} {view : HostView} {adopted : Bool}
  {ranges : RangeTracker}

/-- Runs in which the host program installs only settings that pass their check. -/
abbrev ValidRuns (program : Program) (start : Session) : Session → Prop :=
  RunsWithin program (fun session ↦ session.ambient.Valid) start

/-- Histories of such runs. -/
abbrev ValidHistory (platform : Platform) (start : Session) :
    List Happening → Session → List Stage → Prop :=
  History platform (fun session ↦ session.ambient.Valid) start

/-- Requests leave the settings valid. -/
theorem validRuns_startAll (program : Program) (hsettled : session.Settled)
    (hvalid : session.ambient.Valid) (requests : List Request) :
    ValidRuns program session (session.startAll program requests) := by
  have hgoes {before : Session} (hruns : ValidRuns program session before)
      (hsettled : before.Settled) (hvalid : before.ambient.Valid) :
      ValidRuns program session (before.startAll program requests) := by
    induction requests generalizing before with
    | nil => exact hruns
    | cons request requests ih =>
      have hstep : Step program before (before.startRequest program request).1 := .request _ _
      have hafter := (evolves_startRequest program hsettled request).valid hvalid
      exact ih (hruns.step hstep hafter) (hstep.settled hsettled) hafter
  exact hgoes .refl hsettled hvalid

/-! ## Live views -/

/-- The views made on a context that are not empty, and that a handle, a waiting client or an
unfinished job refers to. -/
def liveViews (session : Session) (log : List Happening) (context : ObjectId) :
    List (ObjectId × HostView) :=
  (madeViews log).filter fun made ↦
    made.2.context == context && made.2.size != 0 && session.roots.contains made.1

theorem mem_liveViews_iff : (id, view) ∈ session.liveViews log context ↔
    (id, view) ∈ madeViews log ∧ view.context = context ∧ view.size ≠ 0 ∧ id ∈ session.roots := by
  simp [liveViews, and_assoc]

/-- Something outside the heap refers to every view on it, since no object holds a view. -/
theorem mem_roots_of_view (hkept : session.Kept []) {view : View}
    (hview : session.heap.view? id = some view) : id ∈ session.roots := by
  rw [roots_eq_anchors]
  have hget := view?_eq_some.1 hview
  cases hkept.tidy hget with
  | root hroot => exact hroot
  | held _ hholder hheld =>
    obtain ⟨other, hother, hkind⟩ :=
      Heap.Sound.exists_of_mem_holds (hkept.rooted.sound.supported hholder) hheld
    rw [hget] at hother
    obtain rfl := Option.some.inj hother
    exact absurd rfl hkind

/-- A view that was made is on the heap as long as something refers to it. -/
theorem view?_iff_made (hviewed : Viewed log session) (hkept : session.Kept []) :
    session.heap.view? id = some (.host view) ↔
      (id, view) ∈ madeViews log ∧ id ∈ session.roots := by
  constructor
  · exact fun hview ↦ ⟨hviewed.made hview, mem_roots_of_view hkept hview⟩
  · rintro ⟨hmade, hroot⟩
    rw [roots_eq_anchors] at hroot
    obtain ⟨object, hget⟩ := hkept.rooted.exists_of_mem_anchors hroot
    exact view?_eq_some.2 (hviewed.kept hmade hget ▸ hget)

/-- The views registered in a context are its live views. -/
theorem registers_iff_live (hviewed : Viewed log session) (hkept : session.Kept [])
    (hranged : session.heap.Ranged) {range : TrackedRange} :
    session.heap.Registers id context range ↔
      ∃ view, (id, view) ∈ session.liveViews log context ∧ view.range? = some range := by
  simp only [mem_liveViews_iff]
  constructor
  · rintro ⟨view, hview, hcontext, hrange⟩
    obtain ⟨hmade, hroot⟩ := (view?_iff_made hviewed hkept).1 hview
    have hsize : view.size ≠ 0 := by
      rw [← hranged.registered hview, ← HostView.range?_isSome, hrange]
      rfl
    exact ⟨view, ⟨hmade, hcontext, hsize, hroot⟩, hrange⟩
  · rintro ⟨view, ⟨hmade, hcontext, -, hroot⟩, hrange⟩
    exact ⟨view, (view?_iff_made hviewed hkept).2 ⟨hmade, hroot⟩, hcontext, hrange⟩

theorem exists_range (hviewed : Viewed log session) (hkept : session.Kept [])
    (hranged : session.heap.Ranged) (hlive : (id, view) ∈ session.liveViews log context) :
    ∃ range, view.range? = some range := by
  obtain ⟨hmade, -, hsize, hroot⟩ := mem_liveViews_iff.1 hlive
  have hview := (view?_iff_made hviewed hkept).2 ⟨hmade, hroot⟩
  rw [← Option.isSome_iff_exists, HostView.range?_isSome]
  exact (hranged.registered hview).2 hsize

/-- A context has one range for each of its live views, and no others. -/
theorem ranges_perm (hviewed : Viewed log session) (hkept : session.Kept [])
    (hranged : session.heap.Ranged)
    (hcontext : session.heap.context? context = some (.host adopted ranges)) :
    (ranges.ranges.map (·.stretch)).Perm ((session.liveViews log context).map (·.2.stretch)) := by
  have hregisters {id : ObjectId} {range : TrackedRange} :
      session.heap.Registers id context range ↔ _ := registers_iff_live hviewed hkept hranged
  -- Two views never have a range in common.
  have hdistinct : ((session.liveViews log context).filterMap (·.2.range?)).Nodup := by
    have hnumbers : ((session.liveViews log context).map (·.1)).Nodup :=
      hviewed.numbered.sublist (List.filter_sublist.map _)
    rw [List.Nodup, List.pairwise_map] at hnumbers
    rw [List.Nodup, List.pairwise_filterMap]
    refine hnumbers.imp_of_mem ?_
    rintro ⟨left, first⟩ ⟨right, second⟩ hleft hright hne range hfirst _ hsecond rfl
    exact hne (hkept.tracked.separate (hregisters.2 ⟨first, hleft, hfirst⟩)
      (hregisters.2 ⟨second, hright, hsecond⟩) rfl)
  have hperm : ranges.ranges.Perm
      ((session.liveViews log context).filterMap (·.2.range?)) := by
    refine (List.perm_ext_iff_of_nodup (hranged.sorted hcontext).nodup hdistinct).2 ?_
    intro range
    rw [hkept.tracked.exact hcontext, List.mem_filterMap]
    simp only [hregisters, Prod.exists]
  have hstretches : ((session.liveViews log context).filterMap (·.2.range?)).map (·.stretch) =
      (session.liveViews log context).map (·.2.stretch) := by
    rw [List.map_filterMap, ← List.filterMap_eq_map]
    refine List.filterMap_congr ?_
    rintro ⟨id, view⟩ hlive
    obtain ⟨range, hrange⟩ := exists_range hviewed hkept hranged hlive
    simp [hrange, HostView.stretch_of_range? hrange]
  exact hstretches ▸ hperm.map _

/-! ## Live views after something has happened -/

theorem root_of_job (hsound : session.Sound []) {queue : ObjectId} {job : Job}
    (hjob : job ∈ session.heap.jobsOf queue) (hid : id ∈ job.references) : id ∈ session.roots := by
  rw [roots_eq_anchors, mem_anchors_iff hsound.rooted.numbered]
  exact .inr ⟨job, (mem_jobs_iff_jobsOf hsound).2 ⟨queue, hjob⟩, hid⟩

/-- A view stays alive until the job that holds it has been finished. -/
theorem live_of_unfinished (hlater : ValidHistory platform session later after [])
    (hsound : session.Sound []) (hlive : (id, view) ∈ session.liveViews log context)
    {queue : ObjectId} {job : Job} (hjob : job ∈ session.heap.jobsOf queue)
    (hid : id ∈ job.references)
    (hunfinished : ∀ failure, .queued queue (.finished job failure) ∉ later) :
    (id, view) ∈ after.liveViews (log ++ later) context := by
  obtain ⟨hmade, hcontext, hsize, -⟩ := mem_liveViews_iff.1 hlive
  have hmem : job ∈ session.heap.jobsOf queue ++ acceptedJobs queue later :=
    List.mem_append_left _ hjob
  rw [hlater.jobsOf hsound queue] at hmem
  have hstill : job ∈ after.heap.jobsOf queue := by
    refine (List.mem_append.1 hmem).resolve_left fun hdone ↦ ?_
    obtain ⟨⟨job, failure⟩, hfinished, rfl⟩ := List.mem_map.1 hdone
    exact hunfinished failure (mem_finishedJobs_iff.1 hfinished)
  refine mem_liveViews_iff.2 ⟨?_, hcontext, hsize, root_of_job (hlater.sound hsound) hstill hid⟩
  rw [madeViews_append]
  exact List.mem_append_left _ hmade

/-- A view that only jobs of one queue refer to is gone when the queue has been drained. -/
theorem not_live_of_drain (hlater : ValidHistory platform session later after [])
    (hkept : session.Kept []) (hviewed : Viewed log session) (hmade : (id, view) ∈ madeViews log)
    (hunreferred : session.refersTo id = false) {queue : ObjectId}
    (hjobs : ∀ other, ∀ job ∈ session.heap.jobsOf other, id ∈ job.references → other = queue)
    {event : QueueEvent} (hdrain : event.IsDrain) (hevent : .queued queue event ∈ later) :
    (id, view) ∉ after.liveViews (log ++ later) context := by
  have hleft : LeftTo session [] id queue := by
    refine ⟨hviewed.older _ hmade, ?_, hjobs⟩
    rw [← refersTo_iff hkept.rooted.numbered, hunreferred]
    exact Bool.false_ne_true
  intro hlive
  obtain ⟨-, -, -, hroot⟩ := mem_liveViews_iff.1 hlive
  rw [roots_eq_anchors] at hroot
  exact hlater.forsaken hkept.toSound hleft hdrain hevent hroot

/-- A view of the host on the heap was there before, or was made in the meantime. -/
theorem History.view_cases (hlater : ValidHistory platform session later after [])
    (hsound : session.Sound []) (hview : after.heap.view? id = some (.host view)) :
    session.heap.view? id = some (.host view) ∨ .made id (.view (.host view)) ∈ later := by
  refine hlater.induct (motive := fun later after _ ↦ after.heap.view? id = some (.host view) →
    session.heap.view? id = some (.host view) ∨ Happening.made id (.view (.host view)) ∈ later)
    hsound .inl ?_ (fun _ _ _ _ _ hcases ↦ hcases) hview
  intro later before flight more after last _ hsound hcases hchange hview
  rcases hchange.origin hsound (view?_eq_some.1 hview) with ⟨old, hold, houtline⟩ |
    ⟨-, hmade | ⟨hfuture, -⟩⟩
  · obtain rfl := Object.eq_of_outline_view houtline.symm
    exact (hcases (view?_eq_some.2 hold)).imp_right (List.mem_append_left _)
  · exact .inr (List.mem_append_right _ hmade)
  · exact absurd hfuture (by simp)

/-- A view that neither a release nor a finished job has let go is still there. -/
theorem History.view_kept (hlater : ValidHistory platform session later after [])
    (hkept : session.Kept []) {view : View} (hview : session.heap.view? id = some view)
    (hheld : .released id ∉ later)
    (hunfinished : ∀ queue job failure, .queued queue (.finished job failure) ∈ later →
      id ∉ job.references) : after.heap.view? id = some view := by
  have hroot := mem_roots_of_view hkept hview
  rw [roots_eq_anchors] at hroot
  have hinvariant := hlater.induct (motive := fun later after flight ↦ .released id ∉ later →
    (∀ queue job failure, .queued queue (.finished job failure) ∈ later → id ∉ job.references) →
      id ∈ anchors after.registry (after.stages flight) after.heap ∧
        after.heap.view? id = some view) hkept.toSound (fun _ _ ↦ ⟨hroot, hview⟩) ?_
    fun _ _ _ _ _ hcases ↦ hcases
  · exact (hinvariant hheld hunfinished).2
  intro later before flight more after last _ hsound hcases hchange hheld hunfinished
  obtain ⟨hanchor, hview⟩ := hcases (fun hmem ↦ hheld (List.mem_append_left _ hmem))
    fun queue job failure hmem ↦ hunfinished queue job failure (List.mem_append_left _ hmem)
  have hafter := hchange.anchored hsound hview hanchor
    (fun hmem ↦ hheld (List.mem_append_right _ hmem))
    fun queue job failure hmem ↦ hunfinished queue job failure (List.mem_append_right _ hmem)
  obtain ⟨object, hget⟩ := (hchange.sound hsound).rooted.exists_of_mem_anchors hafter
  have houtline := hchange.outline_eq hsound (view?_eq_some.1 hview) hget
  exact ⟨hafter, view?_eq_some.2 (Object.eq_of_outline_view houtline ▸ hget)⟩

/-- The classes that a context gives stay the same as long as no view of it is made or released and
no job with one is finished. -/
theorem classify_eq_of_elsewhere (hlater : ValidHistory platform session later after [])
    (hkept : session.Kept []) (hafter : after.Kept []) (hranged : session.heap.Ranged)
    (hranged' : after.heap.Ranged)
    (hcontext : session.heap.context? context = some (.host adopted ranges)) {adopted' : Bool}
    {ranges' : RangeTracker}
    (hcontext' : after.heap.context? context = some (.host adopted' ranges'))
    (hmade : ∀ id view, .made id (.view (.host view)) ∈ later → view.context ≠ context)
    (hheld : ∀ id view, session.heap.view? id = some (.host view) → view.context = context →
      .released id ∉ later ∧ ∀ queue job failure, .queued queue (.finished job failure) ∈ later →
        id ∉ job.references) (address : Nat) :
    ranges'.classify address = ranges.classify address := by
  refine RangeTracker.classify_congr ?_ address
  refine ranges_eq_of_registers hkept.tracked hranged hafter.tracked hranged' hcontext hcontext' ?_
  intro holder range
  constructor
  · rintro ⟨view, hview, hon, hrange⟩
    obtain ⟨hheld, hunfinished⟩ := hheld holder view hview hon
    exact ⟨view, hlater.view_kept hkept hview hheld hunfinished, hon, hrange⟩
  · rintro ⟨view, hview, hon, hrange⟩
    rcases hlater.view_cases hkept.toSound hview with hbefore | hnew
    · exact ⟨view, hbefore, hon, hrange⟩
    · exact absurd hon (hmade holder view hnew)

/-! ## Making and classifying -/

/-- A decision that makes a view of the host makes it on a context, of a size and a kind. -/
def MakesView (context : ObjectId) (size : Nat) (kind : AllocationKind) (decision : Decision) :
    Prop :=
  ∀ view, decision.effect = .create (.view (.host view)) →
    view.context = context ∧ view.size = size ∧ view.kind = kind

theorem ensures_makesView (platform : Platform) (session : Session) (context : ObjectId)
    (address size : Nat) (flags : ViewFlags) :
    (session.hostView platform context address size flags).Ensures fun view ↦
      MakesView context size flags.kind (.create (.view view)) := by
  have hmakes (address : Nat) (owned : Bool) : MakesView context size flags.kind
      (.create (.view (.host ⟨address, size, flags.kind, flags.hint, owned, context, none⟩))) := by
    intro view heffect
    obtain rfl := View.host.inj (Creation.view.inj (Effect.create.inj heffect))
    exact ⟨rfl, rfl, rfl⟩
  unfold hostView
  refine ensures_ite (ensures_pure (hmakes _ _)) ?_
  exact ensures_after _ fun _ ↦ ensures_after _ fun _ ↦ ensures_pure (hmakes _ _)

/-- A view is made on the context of the device that it is asked from. -/
theorem newView_ensures (platform : Platform) {handle : Handle} {index : Nat}
    (hdevice : session.device handle = .ok (id, .host index context)) (address size : Nat)
    {flags : Option (Nat × Nat)} {decoded : ViewFlags}
    (hflags : Call.decodeFlags flags = .ok decoded) :
    ((Call.newView handle address size flags).decide platform session).Ensures
      (MakesView context size decoded.kind) := by
  refine ensures_found fun found hfound ↦ ensures_found fun owner howner ↦ ?_
  obtain rfl : decoded = found := Except.ok.inj (hflags.symm.trans hfound)
  obtain rfl : (id, Device.host index context) = owner :=
    Except.ok.inj (hdevice.symm.trans howner)
  exact ensures_ite (ensures_refuse _) (ensures_bind
    (ensures_makesView platform session context address size decoded)
    fun _ hmakes ↦ ensures_pure hmakes)

/-- A view is made on the context that it is asked from. -/
theorem newContextView_ensures (platform : Platform) {handle : Handle}
    (hcontext : session.context handle = .ok (context, .host adopted ranges)) (address size : Nat)
    {flags : Option (Nat × Nat)} {decoded : ViewFlags}
    (hflags : Call.decodeFlags flags = .ok decoded) :
    ((Call.newContextView handle address size flags).decide platform session).Ensures
      (MakesView context size decoded.kind) := by
  refine ensures_found fun found hfound ↦ ensures_found fun owner howner ↦ ?_
  obtain rfl : decoded = found := Except.ok.inj (hflags.symm.trans hfound)
  obtain rfl : (context, Context.host adopted ranges) = owner :=
    Except.ok.inj (hcontext.symm.trans howner)
  exact ensures_ite (ensures_bind (ensures_makesView platform session context address size decoded)
    fun _ hmakes ↦ ensures_pure hmakes) (ensures_refuse _)

/-- Every device on a context gives an address the class that the ranges of the context give it. -/
theorem classify_decides (platform : Platform) {handle : Handle} {index : Nat}
    (hdevice : session.device handle = .ok (id, .host index context))
    (hcontext : session.heap.context? context = some (.host adopted ranges)) (address : Nat) :
    (Call.classify handle address).decide platform session =
      pure (.answer (.kind (ranges.classify address))) := by
  have hclass : session.classify (.host index context) address = ranges.classify address := by
    simp only [Session.classify, hcontext]
    rfl
  show (liftM (session.device handle) >>= fun found ↦
    pure (Decision.answer (.kind (session.classify found.2 address))) : Deciding Decision) = _
  rw [hdevice, ← hclass]
  rfl

/-! ## The ranges of a context -/

/-- The ranges of a context are those of its live views.

Every run has a history, and this holds after any history that ends between operations, also in an
error handler. A context of the host has one range for each view that was made on it, is not empty, and
is still referred to by a handle, a waiting client or an unfinished job; the range covers the memory of
the view under its kind, and there are no others. Every device on the context gives an address the class
that these ranges give it. Whatever happens later, a view stays alive until a job with it has been
finished; a view that only jobs of one queue refer to is gone when that queue has been drained; and
as long as no view of the context is made or released and no job with one is finished, no class
changes. A view is made on the context it is asked from, or on the one of its device. -/
theorem ranges_follow_views (hfresh : start.Fresh) (hproper : start.Proper) :
    (∀ session, ValidRuns program start session →
      session.Settled ∧ ∃ log, ValidHistory program.toPlatform start log session []) ∧
    (∀ log session, ValidHistory program.toPlatform start log session [] → session.Settled →
      ∀ context adopted ranges, session.heap.context? context = some (.host adopted ranges) →
        (ranges.ranges.map (·.stretch)).Perm
          ((session.liveViews log context).map (·.2.stretch)) ∧
        (∀ handle id index address, session.device handle = .ok (id, .host index context) →
          (Call.classify handle address).decide program.toPlatform session =
            pure (.answer (.kind (ranges.classify address)))) ∧
        ∀ later after, ValidHistory program.toPlatform session later after [] → after.Settled →
          (∀ id view queue job, (id, view) ∈ session.liveViews log context →
            job ∈ session.heap.jobsOf queue → id ∈ job.references →
            (∀ failure, .queued queue (.finished job failure) ∉ later) →
            (id, view) ∈ after.liveViews (log ++ later) context) ∧
          (∀ id view queue event, (id, view) ∈ madeViews log → session.refersTo id = false →
            (∀ other, ∀ job ∈ session.heap.jobsOf other, id ∈ job.references → other = queue) →
            event.IsDrain → .queued queue event ∈ later →
            (id, view) ∉ after.liveViews (log ++ later) context) ∧
          ((∀ id view, .made id (.view (.host view)) ∈ later → view.context ≠ context) →
            (∀ id view, session.heap.view? id = some (.host view) → view.context = context →
              .released id ∉ later ∧ ∀ queue job failure,
                .queued queue (.finished job failure) ∈ later → id ∉ job.references) →
            ∀ adopted' ranges', after.heap.context? context = some (.host adopted' ranges') →
              ∀ address, ranges'.classify address = ranges.classify address)) ∧
    ∀ (session : Session) (handle : Handle) (address size : Nat) (flags : Option (Nat × Nat))
      (decoded : ViewFlags), Call.decodeFlags flags = .ok decoded → ∀ context,
      (∀ id index, session.device handle = .ok (id, .host index context) →
        ((Call.newView handle address size flags).decide program.toPlatform session).Ensures
          (MakesView context size decoded.kind)) ∧
      ∀ adopted ranges, session.context handle = .ok (context, .host adopted ranges) →
        ((Call.newContextView handle address size flags).decide program.toPlatform session).Ensures
          (MakesView context size decoded.kind) := by
  have hstart := sound_fresh hfresh
  have hempty : start.heap.Ranged := Ranged.of_entries_eq_nil (by rw [hfresh.heap])
  refine ⟨fun session hruns ↦ hruns.history (settled_fresh hfresh), ?_, ?_⟩
  · intro log session hhistory hsettled context adopted ranges hcontext
    have hviewed := hhistory.viewed hfresh
    have hranged := hhistory.ranged hstart hproper hempty
    refine ⟨ranges_perm hviewed hsettled.kept hranged hcontext, ?_, ?_⟩
    · exact fun handle id index address hdevice ↦
        classify_decides program.toPlatform hdevice hcontext address
    intro later after hlater hafter
    have hranged' := hlater.ranged hsettled.kept.toSound (hhistory.proper hproper) hranged
    refine ⟨?_, ?_, ?_⟩
    · exact fun id view queue job hlive hjob hid hunfinished ↦
        live_of_unfinished hlater hsettled.kept.toSound hlive hjob hid hunfinished
    · exact fun id view queue event hmade hunreferred hjobs hdrain hevent ↦
        not_live_of_drain hlater hsettled.kept hviewed hmade hunreferred hjobs hdrain hevent
    · exact fun hmade hheld adopted' ranges' hcontext' address ↦
        classify_eq_of_elsewhere hlater hsettled.kept hafter.kept hranged hranged' hcontext
          hcontext' hmade hheld address
  · intro session handle address size flags decoded hflags context
    exact ⟨fun id index hdevice ↦
        newView_ensures program.toPlatform hdevice address size hflags,
      fun adopted ranges hcontext ↦
        newContextView_ensures program.toPlatform hcontext address size hflags⟩

/-- A view whose handle is released while a copy of it is queued. -/
def copyWaiting : Session :=
  startAll {} {} [.queueWithCapacity 2, .hostDevice 0, .newView 2 0 16 0 0, .copyToDevice 1 3,
    .release 3]

/-- The queued copy keeps the view alive, and its range in the context of the device. -/
theorem ranges_follow_views_copyWaiting :
    copyWaiting.refersTo 5 = false ∧ ∃ log, ValidHistory {} {} log copyWaiting [] ∧
      [(0x7f0000000000, 16, AllocationKind.shared)].Perm
        ((copyWaiting.liveViews log 3).map (·.2.stretch)) := by
  have hfresh : Fresh ({} : Session) := ⟨rfl, rfl, rfl, rfl, rfl⟩
  have hproper : Proper ({} : Session) := ⟨by decide, fun _ hsome ↦ absurd hsome (by simp)⟩
  have hruns : ValidRuns {} {} copyWaiting :=
    validRuns_startAll {} (settled_fresh hfresh) hproper.valid _
  obtain ⟨hhistories, hranges, -⟩ := @ranges_follow_views {} {} hfresh hproper
  obtain ⟨hsettled, log, hhistory⟩ := hhistories copyWaiting hruns
  have hcontext : copyWaiting.heap.context? 3 =
      some (.host false ⟨1, [⟨0x7f0000000000, 0, 16, .shared⟩]⟩) := rfl
  exact ⟨rfl, log, hhistory, (hranges log copyWaiting hhistory hsettled 3 _ _ hcontext).1⟩

end Session

end Offload
