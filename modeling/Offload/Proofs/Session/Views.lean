import Offload.Proofs.Heap.Ranges
import Offload.Proofs.Queue.Logs

/-!
# Views in a history

A view of the host that is on the heap is one that was made, and it is as it was made. The ranges of
the contexts stay in order, and no view that is not empty goes without one, as long as the memory that
views get is not null: the host program installs only settings that pass their check.
-/

namespace Offload

/-! ## Settings that pass their check -/

/-- Settings that are installed have passed their check. -/
def Ambient.Valid (ambient : Ambient) : Prop :=
  ∀ settings, ambient.settings = some settings → settings.validate = .ok ()

theorem Settings.alignment_pos {settings : Settings} (hvalid : settings.validate = .ok ()) :
    0 < settings.hostAlignment := by
  unfold validate at hvalid
  split at hvalid
  · exact absurd hvalid (by simp)
  · split at hvalid
    · exact absurd hvalid (by simp)
    · next hpower =>
      apply Nat.pos_of_ne_zero
      intro hzero
      simp [isPowerOfTwo, hzero] at hpower

/-- An environment gives settings that pass their check. -/
theorem Environment.validate_settings (environment : Environment) :
    environment.settings.1.validate = .ok () := by
  unfold settings
  simp only
  split
  · next hvalid => exact hvalid
  · exact (by decide : ({} : Settings).validate = .ok ())

/-- Settings pass their check however they are resolved. -/
theorem Ambient.Valid.validate_resolve {ambient : Ambient} (hvalid : ambient.Valid)
    (environment : Environment) : (ambient.resolve environment).1.validate = .ok () := by
  unfold Ambient.resolve
  split
  · next settings hsettings => exact hvalid settings hsettings
  · exact environment.validate_settings

theorem Ambient.Valid.alignment_pos {ambient : Ambient} (hvalid : ambient.Valid)
    (environment : Environment) : 0 < (ambient.resolve environment).1.hostAlignment :=
  Settings.alignment_pos (hvalid.validate_resolve environment)

/-- Settings that are resolved from the environment pass their check. -/
theorem Ambient.Later.valid {environment : Environment} {before after : Ambient}
    (hlater : before.Later environment after) (hvalid : before.Valid) : after.Valid := by
  intro settings hsettings
  rcases hlater.settings with hsame | ⟨-, hresolved⟩
  · exact hvalid settings (hsame ▸ hsettings)
  · rw [hresolved] at hsettings
    exact Option.some.inj hsettings ▸ environment.validate_settings

/-! ## Views that were made -/

/-- The view of the host that was made, with its number. -/
def Happening.view? : Happening → Option (ObjectId × HostView)
  | .made id (.view (.host view)) => some (id, view)
  | _ => none

/-- The views of the host that were made, with their numbers, oldest first. -/
def madeViews (log : List Happening) : List (ObjectId × HostView) :=
  log.filterMap Happening.view?

variable {id : ObjectId} {view : HostView} {log more : List Happening}

theorem mem_madeViews_iff : (id, view) ∈ madeViews log ↔ .made id (.view (.host view)) ∈ log := by
  unfold madeViews
  rw [List.mem_filterMap]
  constructor
  · rintro ⟨happening, hmem, hview⟩
    unfold Happening.view? at hview
    split at hview
    · obtain ⟨rfl, rfl⟩ := Prod.mk.inj (Option.some.inj hview)
      exact hmem
    · exact absurd hview (by simp)
  · exact fun hmem ↦ ⟨_, hmem, rfl⟩

theorem madeViews_append (log more : List Happening) :
    madeViews (log ++ more) = madeViews log ++ madeViews more :=
  List.filterMap_append

namespace Session

open Heap

variable {platform : Platform} {program : Program} {allowed : Session → Prop}
  {start session before after : Session} {flight last : List Stage} {object : Object}

/-! ## Memory that is not null -/

/-- The memory that views get is not null, whatever the settings will be resolved to. -/
structure Proper (session : Session) : Prop where
  frontier : 0 < session.allocator.frontier
  valid : session.ambient.Valid

theorem Proper.sane (hproper : session.Proper) (platform : Platform) : session.Sane platform :=
  ⟨hproper.frontier, hproper.valid.alignment_pos platform.environment⟩

theorem later_deliver (environment : Environment) (session : Session) (job : Job) :
    session.ambient.Later environment (session.deliver job).1.ambient := by
  unfold deliver
  split
  · exact .refl _
  · exact .note _ _

theorem Change.later (hchange : Change platform before flight more after last) :
    before.ambient.Later platform.environment after.ambient := by
  cases hchange with
  | aside _ _ _ _ _ hlater => exact hlater
  | create | expose | erase | drop => exact .note _ _
  | @createView view =>
    obtain ⟨heap, allocator, hplaced, -⟩ := placeView_fst before (.host view)
    rw [hplaced]
    exact .note _ _
  | @accept id job queue =>
    exact later_deliver platform.environment (before.accept id
      { queue.progress with pending := queue.progress.pending + 1 } job) job
  | @finish _ id queue job rest host failure _ _ _ hafter =>
    rw [hafter, finish_eq]
    exact .note _ _
  | _ => exact .refl _

theorem Change.frontier_le (hchange : Change platform before flight more after last) :
    before.allocator.frontier ≤ after.allocator.frontier := by
  cases hchange with
  | aside _ _ _ _ hallocator => exact Nat.le_of_eq (congrArg Allocator.frontier hallocator.symm)
  | @createView view =>
    obtain ⟨heap, allocator, hplaced, hfrontier⟩ := placeView_fst before (.host view)
    rw [hplaced]
    exact hfrontier
  | accept =>
    unfold deliver
    split <;> exact Nat.le_refl _
  | @finish _ id queue job rest host failure _ _ _ hafter =>
    rw [hafter, finish_eq]
    exact Nat.le_refl _
  | _ => exact Nat.le_refl _

theorem Change.proper (hchange : Change platform before flight more after last)
    (hproper : before.Proper) : after.Proper :=
  ⟨Nat.lt_of_lt_of_le hproper.frontier hchange.frontier_le, hchange.later.valid hproper.valid⟩

theorem Evolves.valid (hevolves : Evolves platform before flight after last)
    (hvalid : before.ambient.Valid) : after.ambient.Valid := by
  obtain ⟨log, hchanges⟩ := hevolves
  induction hchanges with
  | refl => exact hvalid
  | change _ hchange ih => exact hchange.later.valid ih

theorem History.proper
    (hhistory : History platform (fun session ↦ session.ambient.Valid) start log session flight)
    (hproper : start.Proper) : session.Proper := by
  induction hhistory with
  | refl => exact hproper
  | change _ hchange ih => exact hchange.proper ih
  | outside _ _ _ _ _ hvalid ih => exact ⟨ih.frontier, hvalid⟩

/-! ## Ranges -/

theorem Change.ranged (hchange : Change platform before flight more after last)
    (hsound : before.Sound flight) (hproper : before.Proper) (hranged : before.heap.Ranged) :
    after.heap.Ranged := by
  cases hchange with
  | aside hheap =>
    rw [hheap]
    exact hranged
  | place hmakeable hview => exact hranged.insert hmakeable.blank hview
  | create hmakeable hview => exact hranged.insert hmakeable.blank hview
  | createView hcontext _ haddress =>
    show (before.placeView _).1.heap.Ranged
    rw [heap_placeView hcontext]
    exact hranged.insert_view hsound.tracked hcontext (haddress (hproper.sane platform))
  | launch => exact hranged.insert trivial (by simp)
  | accept =>
    rw [heap_deliver]
    exact hranged.of_same (sameViews_modifyQueue _ _ _)
  | sync | drop => exact hranged.of_same (sameViews_modifyQueue _ _ _)
  | link modules => exact hranged.of_same (sameViews_link _ _)
  | settle => exact hranged.of_same (sameViews_settleFuture _ _ _)
  | @finish _ id queue job rest host failure hqueue hjobs _ hafter =>
    obtain ⟨retired, hheap, hretired, hregistry, hwaiting⟩ :=
      heap_finish { before with host } id queue job rest failure
    have hrooted := retired_rooted hsound hqueue hjobs hretired hregistry hwaiting
    have hsame := sameViews_retire { before with host } id queue job rest failure
    rw [hafter, hheap]
    refine Ranged.collect ?_ hrooted.sound.layered _
    rw [hretired]
    exact hranged.of_same hsame
  | collect => exact hranged.collect hsound.rooted.sound.layered _
  | _ => exact hranged

theorem History.ranged
    (hhistory : History platform (fun session ↦ session.ambient.Valid) start log session flight)
    (hsound : start.Sound []) (hproper : start.Proper) (hranged : start.heap.Ranged) :
    session.heap.Ranged := by
  refine hhistory.induct (motive := fun _ session _ ↦ session.heap.Ranged) hsound hranged ?_
    fun _ _ _ _ _ hranged ↦ hranged
  exact fun hbefore hsound hranged hchange ↦ hchange.ranged hsound (hbefore.proper hproper) hranged

/-! ## Views on the heap -/

/-- The views of the host on the heap are views that were made, and they are as they were made. -/
structure Viewed (log : List Happening) (session : Session) : Prop where
  numbered : ((madeViews log).map (·.1)).Nodup
  older : ∀ made ∈ madeViews log, made.1 < session.heap.next
  made : ∀ {id view}, session.heap.view? id = some (.host view) → (id, view) ∈ madeViews log
  kept : ∀ {id view object}, (id, view) ∈ madeViews log → session.heap.get? id = some object →
    object = .view (.host view)

theorem Change.madeViews (hchange : Change platform before flight more after last) :
    madeViews more = [] ∨ ∃ view, madeViews more = [(before.heap.next, view)] := by
  have hnone {object : Object} (hview : ∀ view, object ≠ .view (.host view)) (id : ObjectId) :
      Offload.madeViews [.made id object] = [] := by
    rw [Offload.madeViews, List.filterMap_eq_nil_iff]
    intro happening hmem
    obtain rfl := List.mem_singleton.1 hmem
    unfold Happening.view?
    split
    · next heq =>
      obtain ⟨-, rfl⟩ := Happening.made.inj heq
      exact absurd rfl (hview _)
    · rfl
  cases hchange with
  | place _ hview => exact .inl (hnone hview _)
  | create _ hview => exact .inl (hnone hview _)
  | createView => exact .inr ⟨_, List.filterMap_cons_some rfl⟩
  | _ => exact .inl rfl

/-- Where a change makes an object, that is all it tells. -/
theorem Change.eq_of_made (hchange : Change platform before flight more after last)
    (hmade : .made id object ∈ more) : more = [.made id object] := by
  have hlength := hchange.length_le
  clear hchange
  obtain ⟨happening, rfl⟩ := List.length_eq_one_iff.1
    (Nat.le_antisymm hlength (List.length_pos_of_mem hmade))
  rw [List.mem_singleton.1 hmade]

theorem Viewed.change (hviewed : Viewed log before) (hsound : before.Sound flight)
    (hchange : Change platform before flight more after last) :
    Viewed (log ++ more) after := by
  have hnext := hchange.next_le
  have hnew : before.heap.next ∉ (madeViews log).map (·.1) := by
    intro hmem
    obtain ⟨made, hmade, hid⟩ := List.mem_map.1 hmem
    exact absurd (hviewed.older made hmade) (hid ▸ Nat.lt_irrefl _)
  constructor
  case numbered =>
    rw [madeViews_append, List.map_append]
    rcases hchange.madeViews with hnone | ⟨view, hone⟩
    · rw [hnone, List.map_nil, List.append_nil]
      exact hviewed.numbered
    · rw [hone, List.map_singleton]
      refine List.nodup_append.2 ⟨hviewed.numbered, List.nodup_singleton _, ?_⟩
      rintro left hleft right hright rfl
      exact hnew ((List.mem_singleton.1 hright : left = before.heap.next) ▸ hleft)
  case older =>
    intro made hmem
    rw [madeViews_append] at hmem
    rcases List.mem_append.1 hmem with hmem | hmem
    · exact Nat.lt_of_lt_of_le (hviewed.older made hmem) hnext
    · exact (hchange.made_next (mem_madeViews_iff.1 hmem)).2.1
  case made =>
    intro id view hview
    rw [madeViews_append]
    rcases hchange.origin hsound (view?_eq_some.1 hview) with ⟨old, hold, houtline⟩ |
      ⟨-, hmade | ⟨hfuture, -⟩⟩
    · obtain rfl := Object.eq_of_outline_view houtline.symm
      exact List.mem_append_left _ (hviewed.made (view?_eq_some.2 hold))
    · exact List.mem_append_right _ (mem_madeViews_iff.2 hmade)
    · exact absurd hfuture (by simp)
  case kept =>
    intro id view object hmem hget
    rw [madeViews_append] at hmem
    rcases hchange.origin hsound hget with ⟨old, hold, houtline⟩ | ⟨hid, hnew'⟩
    · have hnumber := hsound.rooted.ordered.lt_next hold
      rcases List.mem_append.1 hmem with hmem | hmem
      · obtain rfl := hviewed.kept hmem hold
        exact Object.eq_of_outline_view houtline
      · obtain ⟨rfl, -⟩ := hchange.made_next (mem_madeViews_iff.1 hmem)
        exact absurd hnumber (Nat.lt_irrefl _)
    · rcases List.mem_append.1 hmem with hmem | hmem
      · exact absurd (hviewed.older _ hmem) (hid ▸ Nat.lt_irrefl _)
      · have hmade := mem_madeViews_iff.1 hmem
        have hmore := hchange.eq_of_made hmade
        rcases hnew' with hmade' | ⟨-, queue, job, hlast, -⟩
        · rw [hmore] at hmade'
          exact (Happening.made.inj (List.mem_singleton.1 hmade')).2
        · rw [(hchange.made_next hmade).2.2] at hlast
          exact absurd hlast (by simp)

theorem History.viewed (hhistory : History platform allowed start log session flight)
    (hfresh : start.Fresh) : Viewed log session := by
  refine hhistory.induct (motive := fun log session _ ↦ Viewed log session) (sound_fresh hfresh) ?_
    (fun _ hsound hviewed hchange ↦ hviewed.change hsound hchange)
    fun _ _ _ _ _ hviewed ↦ ⟨hviewed.numbered, hviewed.older, hviewed.made, hviewed.kept⟩
  refine ⟨List.nodup_nil, fun _ hmem ↦ absurd hmem List.not_mem_nil, ?_,
    fun hmem ↦ absurd hmem List.not_mem_nil⟩
  intro id view hview
  rw [hfresh.heap] at hview
  exact absurd hview (by simp [Heap.view?, Table.get?])

end Session

end Offload
