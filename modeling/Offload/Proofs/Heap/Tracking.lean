import Offload.Proofs.Heap.Soundness

/-!
# Tracked ranges on the heap

A context tracks the ranges of the views that are registered in it. On a tracked heap these are
exactly the registrations of the views that are alive: a new view adds its own, and a collection
gives up those of the views it takes away and no others.
-/

namespace Offload

/-! ## The ranges of a tracker -/

namespace RangeTracker

variable {tracker after : RangeTracker}

theorem mem_place_iff (new : TrackedRange) (ranges : List TrackedRange) (range : TrackedRange) :
    range ∈ place new ranges ↔ range = new ∨ range ∈ ranges := by
  induction ranges with
  | nil => simp [place]
  | cons first rest ih =>
    unfold place
    split
    · simp
    · simp only [List.mem_cons, ih]
      exact or_left_comm

/-- A registration adds its range under the next number, or nothing. -/
theorem track_cases {start size : Nat} {kind : AllocationKind} {registration : Option Nat}
    (htrack : tracker.track start size kind = (after, registration)) :
    (after = tracker ∧ registration = none) ∨
      (registration = some tracker.nextNumber ∧ after.nextNumber = tracker.nextNumber + 1 ∧
        ∀ range, range ∈ after.ranges ↔
          range = ⟨start, tracker.nextNumber, size, kind⟩ ∨ range ∈ tracker.ranges) := by
  unfold track at htrack
  split at htrack
  · obtain ⟨rfl, rfl⟩ := Prod.mk.inj htrack
    exact .inl ⟨rfl, rfl⟩
  · obtain ⟨rfl, rfl⟩ := Prod.mk.inj htrack
    exact .inr ⟨rfl, rfl, fun range ↦ mem_place_iff _ _ range⟩

theorem mem_forget_iff (tracker : RangeTracker) (number : Nat) (range : TrackedRange) :
    range ∈ (tracker.forget number).ranges ↔ range ∈ tracker.ranges ∧ range.number ≠ number := by
  simp [forget]

end RangeTracker

/-- The range a view has registered. -/
def HostView.range? (view : HostView) : Option TrackedRange :=
  view.registration.map fun number ↦ ⟨view.address, number, view.size, view.kind⟩

/-- An object that brings no ranges: a new context has none, and a new view has no registration. -/
def Object.Blank : Object → Prop
  | .context (.host _ ranges) => ranges.ranges = []
  | .view (.host found) => found.registration = none
  | _ => True

namespace Heap

variable {heap left right : Heap} {roots : List ObjectId} {holder id : ObjectId}
  {range : TrackedRange}

/-! ## Changes of other objects -/

/-- Two heaps with the same contexts and the same views. -/
structure SameViews (left right : Heap) : Prop where
  next : left.next = right.next
  contexts : ∀ id, left.context? id = right.context? id
  views : ∀ id, left.view? id = right.view? id

theorem SameViews.refl (heap : Heap) : SameViews heap heap := ⟨rfl, fun _ ↦ rfl, fun _ ↦ rfl⟩

theorem SameViews.trans {third : Heap} (hfirst : SameViews left right)
    (hsecond : SameViews right third) : SameViews left third :=
  ⟨hfirst.next.trans hsecond.next, fun id ↦ (hfirst.contexts id).trans (hsecond.contexts id),
    fun id ↦ (hfirst.views id).trans (hsecond.views id)⟩

theorem sameViews_modify (heap : Heap) (id : ObjectId) {change : Object → Object}
    (hcontexts : ∀ object context, change object = .context context ↔ object = .context context)
    (hviews : ∀ object view, change object = .view view ↔ object = .view view) :
    SameViews heap (heap.modify id change) := by
  refine ⟨rfl, fun other ↦ Option.ext fun context ↦ ?_, fun other ↦ Option.ext fun view ↦ ?_⟩
  · rw [context?_eq_some, context?_eq_some, Table.get?_modify]
    split
    · simp [hcontexts]
    · rfl
  · rw [view?_eq_some, view?_eq_some, Table.get?_modify]
    split
    · simp [hviews]
    · rfl

theorem sameViews_modifyModule (heap : Heap) (id : ObjectId) (change : HostModule → HostModule) :
    SameViews heap (heap.modifyModule id change) := by
  apply sameViews_modify
  · rintro (_ | _ | _ | (_ | _) | _ | _ | _) context <;> simp
  · rintro (_ | _ | _ | (_ | _) | _ | _ | _) view <;> simp

theorem sameViews_modifyQueue (heap : Heap) (id : ObjectId) (change : HostQueue → HostQueue) :
    SameViews heap (heap.modifyQueue id change) := by
  apply sameViews_modify
  · rintro (_ | _ | _ | _ | _ | (_ | _) | _) context <;> simp
  · rintro (_ | _ | _ | _ | _ | (_ | _) | _) view <;> simp

theorem sameViews_settleFuture (heap : Heap) (id : ObjectId) (next : FutureState) :
    SameViews heap (heap.settleFuture id next) := by
  apply sameViews_modify
  · rintro (_ | _ | _ | _ | _ | _ | _) context <;> simp
  · rintro (_ | _ | _ | _ | _ | _ | _) view <;> simp

theorem sameViews_link (heap : Heap) (set : List ObjectId) : SameViews heap (heap.link set) :=
  link_induct (motive := SameViews heap) set (.refl heap) fun changed id _ hsame ↦
    hsame.trans (sameViews_modifyModule changed id _)

/-! ## Tracked heaps -/

/-- An object is a view that has registered a range in a context. -/
def Registers (heap : Heap) (holder id : ObjectId) (range : TrackedRange) : Prop :=
  ∃ view, heap.view? holder = some (.host view) ∧ view.context = id ∧ view.range? = some range

/-- A heap whose contexts track the registrations of the views on it. -/
structure Tracked (heap : Heap) : Prop where
  exact : ∀ {id adopted ranges}, heap.context? id = some (.host adopted ranges) →
    ∀ range, range ∈ ranges.ranges ↔ ∃ holder, heap.Registers holder id range
  numbered : ∀ {id adopted ranges}, heap.context? id = some (.host adopted ranges) →
    ∀ range ∈ ranges.ranges, range.number < ranges.nextNumber
  separate : ∀ {holder other id range range'}, heap.Registers holder id range →
    heap.Registers other id range' → range.number = range'.number → holder = other
  older : ∀ {holder id range}, heap.Registers holder id range → id < heap.next

theorem registers_congr (hviews : ∀ id, left.view? id = right.view? id) :
    left.Registers holder id range ↔ right.Registers holder id range := by
  unfold Registers
  rw [hviews]

namespace Tracked

theorem of_entries_eq_nil (hentries : heap.entries = []) : heap.Tracked := by
  have hget (id : ObjectId) : heap.get? id = none := by
    unfold Table.get?
    rw [hentries]
    rfl
  constructor
  case exact => intro id _ _ hcontext; simp [context?, hget] at hcontext
  case numbered => intro id _ _ hcontext; simp [context?, hget] at hcontext
  case separate => rintro holder _ _ _ _ ⟨_, hview, -⟩; simp [view?, hget] at hview
  case older => rintro holder _ _ ⟨_, hview, -⟩; simp [view?, hget] at hview

theorem of_same (htracked : left.Tracked) (hsame : SameViews left right) : right.Tracked where
  exact := by
    intro id adopted ranges hcontext range
    rw [htracked.exact ((hsame.contexts id).trans hcontext)]
    simp only [registers_congr hsame.views]
  numbered := fun hcontext ↦ htracked.numbered ((hsame.contexts _).trans hcontext)
  separate := fun hholder hother ↦ htracked.separate ((registers_congr hsame.views).2 hholder)
    ((registers_congr hsame.views).2 hother)
  older := fun hholder ↦ hsame.next ▸ htracked.older ((registers_congr hsame.views).2 hholder)

end Tracked

/-! ## New objects -/

theorem context?_insert (heap : Heap) (object : Object) (other : ObjectId) :
    context? (heap.insert object).1 other =
      if other = heap.next then
        match object with
        | .context context => some context
        | _ => none
      else heap.context? other := by
  unfold context?
  rw [Table.get?_insert]
  by_cases hother : other = heap.next
  · rw [if_pos hother, if_pos hother]
    cases object <;> rfl
  · rw [if_neg hother, if_neg hother]

theorem view?_insert (heap : Heap) (object : Object) (other : ObjectId) :
    view? (heap.insert object).1 other =
      if other = heap.next then
        match object with
        | .view view => some view
        | _ => none
      else heap.view? other := by
  unfold view?
  rw [Table.get?_insert]
  by_cases hother : other = heap.next
  · rw [if_pos hother, if_pos hother]
    cases object <;> rfl
  · rw [if_neg hother, if_neg hother]

theorem context?_modifyContext (heap : Heap) (id : ObjectId) (change : Context → Context)
    (other : ObjectId) :
    (heap.modifyContext id change).context? other =
      if other = id then (heap.context? other).map change else heap.context? other := by
  unfold context? modifyContext
  rw [Table.get?_modify]
  by_cases hother : other = id
  · rw [if_pos hother, if_pos hother]
    cases heap.get? other with
    | none => rfl
    | some object => cases object <;> rfl
  · rw [if_neg hother, if_neg hother]

@[simp]
theorem view?_modifyContext (heap : Heap) (id : ObjectId) (change : Context → Context)
    (other : ObjectId) : (heap.modifyContext id change).view? other = heap.view? other := by
  unfold view? modifyContext
  rw [Table.get?_modify]
  by_cases hother : other = id
  · rw [if_pos hother]
    cases heap.get? other with
    | none => rfl
    | some object => cases object <;> rfl
  · rw [if_neg hother]

theorem registers_insert_iff (horder : heap.Ordered) {object : Object} :
    Registers (heap.insert object).1 holder id range ↔
      heap.Registers holder id range ∨ (holder = heap.next ∧
        ∃ view, object = .view (.host view) ∧ view.context = id ∧ view.range? = some range) := by
  unfold Registers
  simp only [view?_insert]
  by_cases hholder : holder = heap.next
  · have hnone : heap.view? heap.next = none := by
      unfold view?
      rw [horder.get?_eq_none (Nat.le_refl _)]
    subst hholder
    rcases object with _ | _ | view | _ | _ | _ | _
    all_goals simp [hnone]
  · simp [hholder]

namespace Tracked

theorem insert_blank (htracked : heap.Tracked) (horder : heap.Ordered) {object : Object}
    (hblank : object.Blank) : Tracked (heap.insert object).1 := by
  have hregisters {holder id : ObjectId} {range : TrackedRange} :
      Registers (heap.insert object).1 holder id range ↔ heap.Registers holder id range := by
    rw [registers_insert_iff horder]
    apply or_iff_left
    rintro ⟨-, view, rfl, -, hrange⟩
    have hnone : view.registration = none := hblank
    simp [HostView.range?, hnone] at hrange
  have hcontext {id : ObjectId} {adopted : Bool} {ranges : RangeTracker}
      (hcontext : context? (heap.insert object).1 id = some (.host adopted ranges)) :
      heap.context? id = some (.host adopted ranges) ∨ (id = heap.next ∧ ranges.ranges = []) := by
    rw [context?_insert] at hcontext
    split at hcontext
    · next hid =>
      rcases object with context | _ | _ | _ | _ | _ | _
      case context =>
        obtain rfl := Option.some.inj hcontext
        exact .inr ⟨hid, hblank⟩
      all_goals exact absurd hcontext (by simp)
    · exact .inl hcontext
  constructor
  case exact =>
    intro id adopted ranges hget range
    simp only [hregisters]
    rcases hcontext hget with hold | ⟨hid, hnil⟩
    · exact htracked.exact hold range
    · rw [hnil]
      constructor
      · intro hmem
        exact absurd hmem List.not_mem_nil
      · rintro ⟨holder, hholder⟩
        exact absurd (htracked.older hholder) (by rw [hid]; exact Nat.lt_irrefl _)
  case numbered =>
    intro id adopted ranges hget range hmem
    rcases hcontext hget with hold | ⟨-, hnil⟩
    · exact htracked.numbered hold range hmem
    · rw [hnil] at hmem
      exact absurd hmem List.not_mem_nil
  case separate =>
    intro holder other id range range' hholder hother
    exact htracked.separate (hregisters.1 hholder) (hregisters.1 hother)
  case older =>
    intro holder id range hholder
    exact Nat.lt_succ_of_lt (htracked.older (hregisters.1 hholder))

/-- A new view registers its range in its context. -/
theorem insert_view (htracked : heap.Tracked) (horder : heap.Ordered) {view : HostView}
    {adopted : Bool} {ranges after : RangeTracker} {registration : Option Nat}
    (hcontext : heap.context? view.context = some (.host adopted ranges))
    (htrack : ranges.track view.address view.size view.kind = (after, registration)) :
    Tracked (Table.insert
      (heap.modifyContext view.context (·.mapRanges fun _ ↦ after))
      (.view (.host { view with registration }))).1 := by
  have horder' := (alike_modifyContext heap view.context fun _ ↦ after).ordered horder
  have hat : (heap.modifyContext view.context (·.mapRanges fun _ ↦ after)).context? view.context =
      some (.host adopted after) := by
    rw [context?_modifyContext, if_pos rfl, hcontext]
    rfl
  have helsewhere {id : ObjectId} (hid : id ≠ view.context) :
      (heap.modifyContext view.context (·.mapRanges fun _ ↦ after)).context? id =
        heap.context? id := by
    rw [context?_modifyContext, if_neg hid]
  rcases RangeTracker.track_cases htrack with ⟨hafter, hregistration⟩ |
    ⟨hregistration, hnumber, hranges⟩
  · have hsame : SameViews heap
        (heap.modifyContext view.context (·.mapRanges fun _ ↦ after)) := by
      refine ⟨rfl, fun id ↦ ?_, fun id ↦ (view?_modifyContext _ _ _ id).symm⟩
      by_cases hid : id = view.context
      · rw [hid, hat, hcontext, hafter]
      · rw [helsewhere hid]
    exact insert_blank (htracked.of_same hsame) horder' hregistration
  · have hregisters {holder id : ObjectId} {range : TrackedRange} :
        Registers (Table.insert (heap.modifyContext view.context (·.mapRanges fun _ ↦ after))
            (.view (.host { view with registration }))).1 holder id range ↔
          heap.Registers holder id range ∨ (holder = heap.next ∧ id = view.context ∧
            range = ⟨view.address, ranges.nextNumber, view.size, view.kind⟩) := by
      rw [registers_insert_iff horder', registers_congr fun id ↦ view?_modifyContext _ _ _ id]
      simp only [Object.view.injEq, View.host.injEq, exists_eq_left', HostView.range?,
        hregistration, Option.map_some, Option.some.injEq]
      rw [eq_comm (a := view.context), eq_comm (b := range)]
      rfl
    have hold {id : ObjectId} {adopted' : Bool} {ranges' : RangeTracker}
        (hget : context? (Table.insert
            (heap.modifyContext view.context (·.mapRanges fun _ ↦ after))
            (.view (.host { view with registration }))).1 id = some (.host adopted' ranges')) :
        (id = view.context ∧ ranges' = after) ∨
          (id ≠ view.context ∧ heap.context? id = some (.host adopted' ranges')) := by
      rw [context?_insert] at hget
      split at hget
      · exact absurd hget (by simp)
      · by_cases hid : id = view.context
        · rw [hid, hat] at hget
          simp only [Option.some.injEq, Context.host.injEq] at hget
          exact .inl ⟨hid, hget.2.symm⟩
        · exact .inr ⟨hid, (helsewhere hid) ▸ hget⟩
    constructor
    case exact =>
      intro id adopted' ranges' hget range
      simp only [hregisters, exists_or]
      rcases hold hget with ⟨rfl, rfl⟩ | ⟨hid, hget⟩
      · rw [hranges, htracked.exact hcontext]
        simp [or_comm]
      · simp [hid, htracked.exact hget]
    case numbered =>
      intro id adopted' ranges' hget range hmem
      rcases hold hget with ⟨rfl, rfl⟩ | ⟨-, hget⟩
      · rw [hnumber]
        rcases (hranges range).1 hmem with rfl | hmem
        · exact Nat.lt_succ_self _
        · exact Nat.lt_succ_of_lt (htracked.numbered hcontext range hmem)
      · exact htracked.numbered hget range hmem
    case separate =>
      have hfresh {holder : ObjectId} {range : TrackedRange}
          (hholder : heap.Registers holder view.context range) :
          range.number ≠ ranges.nextNumber := by
        have hmem := (htracked.exact hcontext range).2 ⟨holder, hholder⟩
        exact Nat.ne_of_lt (htracked.numbered hcontext range hmem)
      intro holder other id range range' hholder hother hsame
      rcases hregisters.1 hholder with hholder | ⟨rfl, rfl, rfl⟩
      · rcases hregisters.1 hother with hother | ⟨rfl, rfl, rfl⟩
        · exact htracked.separate hholder hother hsame
        · exact absurd hsame (hfresh hholder)
      · rcases hregisters.1 hother with hother | ⟨rfl, -, rfl⟩
        · exact absurd hsame.symm (hfresh hother)
        · rfl
    case older =>
      intro holder id range hholder
      rcases hregisters.1 hholder with hholder | ⟨-, rfl, -⟩
      · exact Nat.lt_succ_of_lt (htracked.older hholder)
      · exact Nat.lt_succ_of_lt (horder.lt_next (context?_eq_some.1 hcontext))

end Tracked

/-! ## Collection -/

theorem view?_forgetRanges (kept : Heap) (objects : List (ObjectId × Object)) (other : ObjectId) :
    (forgetRanges kept objects).view? other = kept.view? other := by
  unfold forgetRanges
  generalize kept.contains = isKept
  induction objects generalizing kept with
  | nil => rfl
  | cons entry rest ih =>
    rw [List.foldl_cons, ih]
    split
    · split
      · split
        · rfl
        · exact view?_modifyContext _ _ _ _
      · rfl
    · rfl

/-- An entry is a lost view that had registered a range in a context. -/
def Gives (isKept : ObjectId → Bool) (id : ObjectId) (number : Nat)
    (entry : ObjectId × Object) : Prop :=
  isKept entry.1 = false ∧ ∃ view, entry.2 = .view (.host view) ∧ view.context = id ∧
    view.registration = some number

/-- What a context loses are the ranges of the lost views. -/
theorem context?_forgetRanges {kept : Heap} {objects : List (ObjectId × Object)} {adopted : Bool}
    {after : RangeTracker}
    (hcontext : (forgetRanges kept objects).context? id = some (.host adopted after)) :
    ∃ before, kept.context? id = some (.host adopted before) ∧
      after.nextNumber = before.nextNumber ∧ ∀ range, range ∈ after.ranges ↔
        range ∈ before.ranges ∧ ∀ entry ∈ objects, ¬ Gives kept.contains id range.number entry := by
  unfold forgetRanges at hcontext
  generalize kept.contains = isKept at hcontext ⊢
  induction objects generalizing kept with
  | nil => exact ⟨after, hcontext, rfl, by simp⟩
  | cons entry rest ih =>
    rw [List.foldl_cons] at hcontext
    obtain ⟨middle, hmiddle, hnext, hranges⟩ := ih hcontext
    -- What the first entry takes away is decided by what it is.
    have hunchanged (hkeeps : ∀ number, ¬ Gives isKept id number entry)
        (hsame : kept.context? id = some (.host adopted middle)) :
        ∃ before, kept.context? id = some (.host adopted before) ∧
          after.nextNumber = before.nextNumber ∧ ∀ range, range ∈ after.ranges ↔
            range ∈ before.ranges ∧
              ∀ other ∈ entry :: rest, ¬ Gives isKept id range.number other := by
      refine ⟨middle, hsame, hnext, fun range ↦ ?_⟩
      rw [hranges, List.forall_mem_cons]
      simp [hkeeps range.number]
    obtain ⟨holder, object⟩ := entry
    split at hmiddle
    · next view hentry =>
      obtain rfl : object = .view (.host view) := hentry
      split at hmiddle
      · next number hnumber =>
        split at hmiddle
        · next hkept =>
          exact hunchanged (fun _ hgives ↦ absurd hgives.1 (by simp [hkept])) hmiddle
        · next hlost =>
          rw [context?_modifyContext] at hmiddle
          split at hmiddle
          · next hid =>
            obtain ⟨context, hbefore, hforget⟩ := Option.map_eq_some_iff.1 hmiddle
            cases context with
            | foreign => simp [Context.mapRanges] at hforget
            | host adopted' before =>
              simp only [Context.mapRanges, Context.host.injEq] at hforget
              obtain ⟨rfl, rfl⟩ := hforget
              refine ⟨before, hbefore, hnext, fun range ↦ ?_⟩
              rw [hranges, RangeTracker.mem_forget_iff, List.forall_mem_cons, and_assoc]
              have hgives : Gives isKept id range.number (holder, .view (.host view)) ↔
                  range.number = number := by
                simp [Gives, hid, hnumber, hlost, eq_comm]
              rw [hgives]
          · next hid =>
            refine hunchanged ?_ hmiddle
            rintro number' ⟨-, view', hview, hcontext', -⟩
            simp only [Object.view.injEq, View.host.injEq] at hview
            exact hid (hview ▸ hcontext'.symm)
      · next hnumber =>
        refine hunchanged ?_ hmiddle
        rintro number' ⟨-, view', hview, -, hnumber'⟩
        simp only [Object.view.injEq, View.host.injEq] at hview
        rw [← hview, hnumber] at hnumber'
        exact absurd hnumber' (by simp)
    · next hother =>
      refine hunchanged ?_ hmiddle
      rintro number ⟨-, view, hview, -⟩
      exact hother view hview

theorem view?_collect_eq_some (hlayered : heap.Layered) {view : View} :
    (heap.collect roots).view? id = some view ↔ heap.view? id = some view ∧ Reach heap roots id := by
  unfold collect
  rw [view?_forgetRanges, view?_eq_some, view?_eq_some]
  exact get?_keep_eq_some hlayered

/-- A collection gives up the ranges of the views it takes away and no others. -/
theorem Tracked.collect (htracked : heap.Tracked) (hlayered : heap.Layered)
    (roots : List ObjectId) : (heap.collect roots).Tracked := by
  have hregisters {holder id : ObjectId} {range : TrackedRange} :
      (heap.collect roots).Registers holder id range ↔
        heap.Registers holder id range ∧ Reach heap roots holder := by
    unfold Registers
    simp only [view?_collect_eq_some hlayered]
    constructor
    · rintro ⟨view, ⟨hview, hreach⟩, hrest⟩
      exact ⟨⟨view, hview, hrest⟩, hreach⟩
    · rintro ⟨⟨view, hview, hrest⟩, hreach⟩
      exact ⟨view, ⟨hview, hreach⟩, hrest⟩
  have hbefore {id : ObjectId} {adopted : Bool} {after : RangeTracker}
      (hcontext : (heap.collect roots).context? id = some (.host adopted after)) :
      ∃ before, heap.context? id = some (.host adopted before) ∧
        after.nextNumber = before.nextNumber ∧ ∀ range, range ∈ after.ranges ↔
          range ∈ before.ranges ∧
            ∀ entry ∈ heap.entries, ¬ Gives (heap.keep roots).contains id range.number entry := by
    obtain ⟨before, hkept, hrest⟩ := context?_forgetRanges hcontext
    rw [context?_eq_some] at hkept
    exact ⟨before, context?_eq_some.2 ((get?_keep_eq_some hlayered).1 hkept).1, hrest⟩
  have hcontains {entry : ObjectId × Object} (hentry : entry ∈ heap.entries) :
      (heap.keep roots).contains entry.1 = true ↔ Reach heap roots entry.1 := by
    have hget : heap.get? entry.1 = some entry.2 := hlayered.ordered.mem_entries_iff.1 hentry
    rw [Table.contains_eq_isSome, Option.isSome_iff_exists]
    simp only [get?_keep_eq_some hlayered, hget, Option.some.injEq, exists_eq_left']
  constructor
  case exact =>
    intro id adopted after hcontext range
    obtain ⟨before, hget, -, hranges⟩ := hbefore hcontext
    rw [hranges, htracked.exact hget]
    simp only [hregisters]
    constructor
    · rintro ⟨⟨holder, hholder⟩, hkept⟩
      refine ⟨holder, hholder, ?_⟩
      obtain ⟨view, hview, hid, hrange⟩ := hholder
      have hentry : (holder, Object.view (.host view)) ∈ heap.entries :=
        hlayered.ordered.mem_entries_iff.2 (view?_eq_some.1 hview)
      have hnumber : view.registration = some range.number := by
        obtain ⟨number, hnumber, rfl⟩ := Option.map_eq_some_iff.1 hrange
        exact hnumber
      cases hcase : (heap.keep roots).contains holder with
      | true => exact (hcontains hentry).1 hcase
      | false => exact absurd ⟨hcase, view, rfl, hid, hnumber⟩ (hkept _ hentry)
    · rintro ⟨holder, hholder, hreach⟩
      refine ⟨⟨holder, hholder⟩, ?_⟩
      rintro ⟨other, object⟩ hentry ⟨hlost, view, rfl, hid, hnumber⟩
      have hother : heap.Registers other id ⟨view.address, range.number, view.size, view.kind⟩ :=
        ⟨view, view?_eq_some.2 (hlayered.ordered.mem_entries_iff.1 hentry), hid,
          by rw [HostView.range?, hnumber]; rfl⟩
      obtain rfl := htracked.separate hholder hother rfl
      have hkept := (hcontains hentry).2 hreach
      rw [hlost] at hkept
      exact absurd hkept (by simp)
  case numbered =>
    intro id adopted after hcontext range hmem
    obtain ⟨before, hget, hnext, hranges⟩ := hbefore hcontext
    rw [hnext]
    exact htracked.numbered hget range ((hranges range).1 hmem).1
  case separate =>
    intro holder other id range range' hholder hother
    exact htracked.separate (hregisters.1 hholder).1 (hregisters.1 hother).1
  case older =>
    intro holder id range hholder
    rw [next_collect]
    exact htracked.older (hregisters.1 hholder).1

end Heap

end Offload
