import Offload.Proofs.Heap.Tracking
import Mathlib.Data.List.Perm.Basic
import Mathlib.Data.List.Sort

/-!
# Ranges of views

The ranges of a context are in the order of the tracker, and each view that is not empty has one. So
the ranges are those of the views on the heap, one for each, and they depend on nothing else.
-/

namespace Offload

/-! ## The order of ranges -/

namespace TrackedRange

/-- The order of a tracker. -/
def Before (left right : TrackedRange) : Prop := left.precedes right = true

theorem before_iff {left right : TrackedRange} :
    left.Before right ↔ right.start < left.start ∨
      right.start = left.start ∧ right.number < left.number := by
  simp [Before, precedes]

theorem Before.trans {first second third : TrackedRange} (hfirst : first.Before second)
    (hsecond : second.Before third) : first.Before third := by
  rw [before_iff] at *
  omega

theorem Before.irrefl (range : TrackedRange) : ¬range.Before range := by
  rw [before_iff]
  omega

instance : Std.Irrefl Before := ⟨Before.irrefl⟩

instance : Std.Antisymm Before :=
  ⟨fun left _ hbefore hafter ↦ absurd (hbefore.trans hafter) (Before.irrefl left)⟩

end TrackedRange

namespace RangeTracker

variable {tracker : RangeTracker}

/-- The ranges of a tracker come in its order. -/
def Sorted (tracker : RangeTracker) : Prop := tracker.ranges.Pairwise TrackedRange.Before

/-- A range with a number of its own takes its place in the order. -/
theorem pairwise_place {new : TrackedRange} {ranges : List TrackedRange}
    (hsorted : ranges.Pairwise TrackedRange.Before)
    (hnumber : ∀ range ∈ ranges, range.number < new.number) :
    (place new ranges).Pairwise TrackedRange.Before := by
  induction ranges with
  | nil => exact List.pairwise_singleton _ _
  | cons first rest ih =>
    obtain ⟨hfirst, hrest⟩ := List.pairwise_cons.1 hsorted
    unfold place
    split
    · next hprecedes =>
      refine List.pairwise_cons.2 ⟨fun range hrange ↦ ?_, hsorted⟩
      rcases List.mem_cons.1 hrange with rfl | hrange
      · exact hprecedes
      · exact TrackedRange.Before.trans hprecedes (hfirst range hrange)
    · next hfollows =>
      have hbefore : first.Before new := by
        have hless := hnumber first List.mem_cons_self
        have hnot : ¬new.Before first := hfollows
        rw [TrackedRange.before_iff] at hnot ⊢
        omega
      refine List.pairwise_cons.2 ⟨fun range hrange ↦ ?_,
        ih hrest fun range hrange ↦ hnumber range (List.mem_cons_of_mem _ hrange)⟩
      rcases (mem_place_iff _ _ _).1 hrange with rfl | hrange
      · exact hbefore
      · exact hfirst range hrange

theorem Sorted.track (hsorted : tracker.Sorted) (start size : Nat) (kind : AllocationKind)
    (hnumbered : ∀ range ∈ tracker.ranges, range.number < tracker.nextNumber) :
    (tracker.track start size kind).1.Sorted := by
  unfold RangeTracker.track
  split
  · exact hsorted
  · exact pairwise_place hsorted hnumbered

theorem Sorted.forget (hsorted : tracker.Sorted) (number : Nat) : (tracker.forget number).Sorted :=
  hsorted.sublist List.filter_sublist

/-- A range is registered unless it is null or empty. -/
theorem track_isSome_iff (start size : Nat) (kind : AllocationKind) :
    (tracker.track start size kind).2.isSome ↔ start ≠ 0 ∧ size ≠ 0 := by
  unfold track
  split
  · next hnull =>
    simp only [Option.isSome_none, Bool.false_eq_true, false_iff]
    omega
  · next hproper =>
    simp only [Option.isSome_some, true_iff]
    omega

end RangeTracker

/-! ## Ranges on the heap -/

namespace Heap

variable {heap left right : Heap} {roots : List ObjectId}

/-- The ranges of each context are in order, and the views that are not empty are registered. -/
structure Ranged (heap : Heap) : Prop where
  sorted : ∀ {id adopted ranges}, heap.context? id = some (.host adopted ranges) → ranges.Sorted
  registered : ∀ {id view}, heap.view? id = some (.host view) →
    (view.registration.isSome = true ↔ view.size ≠ 0)

namespace Ranged

theorem of_entries_eq_nil (hentries : heap.entries = []) : heap.Ranged := by
  have hget (id : ObjectId) : heap.get? id = none := by
    unfold Table.get?
    rw [hentries]
    rfl
  constructor
  case sorted => intro id _ _ hcontext; simp [context?, hget] at hcontext
  case registered => intro id _ hview; simp [view?, hget] at hview

theorem of_same (hranged : left.Ranged) (hsame : SameViews left right) : right.Ranged :=
  ⟨fun hcontext ↦ hranged.sorted ((hsame.contexts _).trans hcontext),
    fun hview ↦ hranged.registered ((hsame.views _).trans hview)⟩

/-- An object that brings no ranges comes to a heap. -/
theorem insert (hranged : heap.Ranged) {object : Object} (hblank : object.Blank)
    (hview : ∀ view, object ≠ .view (.host view)) : Ranged (heap.insert object).1 := by
  constructor
  case sorted =>
    intro id adopted ranges hcontext
    rw [context?_insert] at hcontext
    split at hcontext
    · rcases object with (⟨_, own⟩ | _) | _ | _ | _ | _ | _ | _
      case context.host =>
        obtain ⟨-, rfl⟩ := Context.host.inj (Option.some.inj hcontext)
        have hnil : own.ranges = [] := hblank
        unfold RangeTracker.Sorted
        rw [hnil]
        exact List.Pairwise.nil
      all_goals exact absurd hcontext (by simp)
    · exact hranged.sorted hcontext
  case registered =>
    intro id view hfound
    rw [view?_insert] at hfound
    split at hfound
    · rcases object with _ | _ | (own | _) | _ | _ | _ | _
      case view.host => exact absurd rfl (hview own)
      all_goals exact absurd hfound (by simp)
    · exact hranged.registered hfound

/-- A new view comes into the order of its context. -/
theorem insert_view (hranged : heap.Ranged) (htracked : heap.Tracked) {view : HostView}
    {adopted : Bool} {ranges : RangeTracker}
    (hcontext : heap.context? view.context = some (.host adopted ranges))
    (haddress : view.size ≠ 0 → view.address ≠ 0) :
    Ranged (Table.insert (heap.modifyContext view.context
        (·.mapRanges fun _ ↦ (ranges.track view.address view.size view.kind).1))
      (.view (.host { view with
        registration := (ranges.track view.address view.size view.kind).2 }))).1 := by
  constructor
  case sorted =>
    intro id adopted' ranges' hfound
    rw [context?_insert] at hfound
    split at hfound
    · exact absurd hfound (by simp)
    · rw [context?_modifyContext] at hfound
      split at hfound
      · next hid =>
        rw [hid, hcontext] at hfound
        obtain ⟨-, rfl⟩ := Context.host.inj (Option.some.inj hfound)
        exact (hranged.sorted hcontext).track _ _ _ (htracked.numbered hcontext)
      · exact hranged.sorted hfound
  case registered =>
    intro id view' hfound
    rw [view?_insert] at hfound
    split at hfound
    · obtain rfl := View.host.inj (Option.some.inj hfound)
      rw [RangeTracker.track_isSome_iff]
      exact and_iff_right_of_imp haddress
    · rw [view?_modifyContext] at hfound
      exact hranged.registered hfound

/-- A collection only takes ranges out of an order. -/
theorem sorted_forgetRanges {kept : Heap} (objects : List (ObjectId × Object))
    (hsorted : ∀ id adopted ranges, kept.context? id = some (.host adopted ranges) → ranges.Sorted) :
    ∀ id adopted ranges, (forgetRanges kept objects).context? id = some (.host adopted ranges) →
      ranges.Sorted := by
  unfold forgetRanges
  generalize kept.contains = isKept
  induction objects generalizing kept with
  | nil => exact hsorted
  | cons entry rest ih =>
    rw [List.foldl_cons]
    apply ih
    split
    · next view _ =>
      split
      · next number _ =>
        split
        · exact hsorted
        · intro id adopted ranges hcontext
          rw [context?_modifyContext] at hcontext
          split at hcontext
          · obtain ⟨context, hbefore, hforget⟩ := Option.map_eq_some_iff.1 hcontext
            cases context with
            | foreign => simp [Context.mapRanges] at hforget
            | host adopted' before =>
              obtain ⟨-, rfl⟩ := Context.host.inj hforget
              exact (hsorted _ _ _ hbefore).forget number
          · exact hsorted _ _ _ hcontext
      · exact hsorted
    · exact hsorted

theorem collect (hranged : heap.Ranged) (hlayered : heap.Layered) (roots : List ObjectId) :
    (heap.collect roots).Ranged := by
  constructor
  case sorted =>
    intro id adopted ranges hcontext
    refine sorted_forgetRanges _ (fun id adopted ranges hkept ↦ ?_) id adopted ranges hcontext
    rw [context?_eq_some] at hkept
    exact hranged.sorted (context?_eq_some.2 ((get?_keep_eq_some hlayered).1 hkept).1)
  case registered =>
    intro id view hview
    exact hranged.registered ((view?_collect_eq_some hlayered).1 hview).1

end Ranged

/-! ## Contexts with the same ranges -/

/-- Where the same views are registered in a context, it has the same ranges. -/
theorem ranges_eq_of_registers (htracked : left.Tracked) (hranged : left.Ranged)
    (htracked' : right.Tracked) (hranged' : right.Ranged) {id : ObjectId} {adopted adopted' : Bool}
    {ranges ranges' : RangeTracker} (hcontext : left.context? id = some (.host adopted ranges))
    (hcontext' : right.context? id = some (.host adopted' ranges'))
    (hsame : ∀ holder range, left.Registers holder id range ↔ right.Registers holder id range) :
    ranges'.ranges = ranges.ranges := by
  refine List.Pairwise.eq_of_mem_iff (hranged'.sorted hcontext') (hranged.sorted hcontext) ?_
  intro range
  rw [htracked.exact hcontext, htracked'.exact hcontext']
  simp only [hsame]

end Heap

end Offload
