import Offload.Proofs.Heap.Outline

/-!
# Reachable objects

An object is reachable from some roots if it is one of them or an object reachable from them holds
it. In a heap whose objects hold older ones only, a collection keeps the objects reachable from its
roots and no others, and what it keeps is alike to what was there.
-/

namespace Offload.Heap

variable {heap left right : Heap} {roots more : List ObjectId} {id : ObjectId}

/-- The objects reachable from roots along what objects hold. -/
inductive Reach (heap : Heap) (roots : List ObjectId) : ObjectId → Prop where
  | root {id : ObjectId} (hroot : id ∈ roots) : Reach heap roots id
  | held {id held : ObjectId} {object : Object} (hreach : Reach heap roots id)
      (hget : heap.get? id = some object) (hheld : held ∈ object.holds) : Reach heap roots held

/-- Objects hold objects that were made before them. -/
structure Layered (heap : Heap) : Prop where
  ordered : heap.Ordered
  older : ∀ {id object}, heap.get? id = some object → ∀ held ∈ object.holds, held < id

namespace Reach

theorem mono (hsub : ∀ id ∈ roots, Reach heap more id) (hreach : Reach heap roots id) :
    Reach heap more id := by
  induction hreach with
  | root hroot => exact hsub _ hroot
  | held _ hget hheld ih => exact ih.held hget hheld

theorem subset (hsub : roots ⊆ more) (hreach : Reach heap roots id) : Reach heap more id :=
  hreach.mono fun _ hroot ↦ root (hsub hroot)

/-- Reachability only depends on what the reachable objects hold. -/
theorem transfer (hholds : ∀ {id object}, Reach left roots id → left.get? id = some object →
      ∃ other, right.get? id = some other ∧ object.holds ⊆ other.holds)
    (hreach : Reach left roots id) : Reach right roots id := by
  induction hreach with
  | root hroot => exact root hroot
  | held hreach hget hheld ih =>
    obtain ⟨other, hother, hsub⟩ := hholds hreach hget
    exact ih.held hother (hsub hheld)

theorem of_alike (halike : Alike left right) (hreach : Reach left roots id) :
    Reach right roots id := by
  apply hreach.transfer
  intro id object _ hget
  obtain ⟨other, hother, houtline⟩ := halike.get?_eq_some hget
  exact ⟨other, hother, (Object.holds_eq_of_outline_eq houtline).symm ▸ List.Subset.refl _⟩

/-- A new object is reached only from itself. -/
theorem insert_of_reach (horder : heap.Ordered) (object : Object) (hreach : Reach heap roots id) :
    Reach (heap.insert object).1 roots id := by
  apply hreach.transfer
  intro id found _ hget
  have hne : id ≠ heap.next := Nat.ne_of_lt (horder.lt_next hget)
  exact ⟨found, by rw [Table.get?_insert, if_neg hne, hget], List.Subset.refl _⟩

end Reach

namespace Layered

theorem of_alike (hlayered : left.Layered) (halike : Alike left right) : right.Layered where
  ordered := halike.ordered hlayered.ordered
  older := by
    intro id object hget held hheld
    obtain ⟨other, hother, houtline⟩ := halike.symm.get?_eq_some hget
    exact hlayered.older hother held ((Object.holds_eq_of_outline_eq houtline).symm ▸ hheld)

theorem insert (hlayered : heap.Layered) {object : Object}
    (holder : ∀ held ∈ object.holds, held < heap.next) :
    Layered (heap.insert object).1 where
  ordered := hlayered.ordered.insert object
  older := by
    intro id found hget held hheld
    rw [Table.get?_insert] at hget
    split at hget
    · next hid =>
      obtain rfl := Option.some.inj hget
      exact hid ▸ holder held hheld
    · exact hlayered.older hget held hheld

end Layered

/-! ## Survivors -/

theorem survivors_sublist (referred : List ObjectId) (entries : List (ObjectId × Object)) :
    (survivors referred entries).Sublist entries := by
  induction entries generalizing referred with
  | nil => exact List.Sublist.refl _
  | cons entry older ih =>
    unfold survivors
    split
    · exact (ih _).cons_cons entry
    · exact (ih _).cons entry

/-- What is referred to at first survives. -/
theorem mem_survivors_of_referred {referred : List ObjectId} {entries : List (ObjectId × Object)}
    {entry : ObjectId × Object} (hmem : entry ∈ entries) (hreferred : entry.1 ∈ referred) :
    entry ∈ survivors referred entries := by
  induction entries generalizing referred with
  | nil => exact absurd hmem List.not_mem_nil
  | cons first older ih =>
    unfold survivors
    rcases List.mem_cons.1 hmem with rfl | hold
    · simp [hreferred]
    · split
      · exact List.mem_cons_of_mem _ (ih hold (List.mem_append_right _ hreferred))
      · exact ih hold hreferred

/-- What a survivor holds survives, as it comes later in the pass. -/
theorem mem_survivors_of_held {referred : List ObjectId} {entries : List (ObjectId × Object)}
    (hdescending : entries.Pairwise fun newer older ↦ older.1 < newer.1)
    (holder : ∀ entry ∈ entries, ∀ held ∈ entry.2.holds, held < entry.1)
    {entry other : ObjectId × Object} (hsurvives : entry ∈ survivors referred entries)
    (hheld : other.1 ∈ entry.2.holds) (hother : other ∈ entries) :
    other ∈ survivors referred entries := by
  induction entries generalizing referred with
  | nil => exact absurd hother List.not_mem_nil
  | cons first older ih =>
    obtain ⟨hnewest, hrest⟩ := List.pairwise_cons.1 hdescending
    have holder' : ∀ entry ∈ older, ∀ held ∈ entry.2.holds, held < entry.1 :=
      fun entry hmem ↦ holder entry (List.mem_cons_of_mem _ hmem)
    have hlt : other.1 < entry.1 :=
      holder entry ((survivors_sublist _ _).subset hsurvives) _ hheld
    have hfirst : entry.1 ≤ first.1 := by
      rcases List.mem_cons.1 ((survivors_sublist _ _).subset hsurvives) with rfl | hmem
      · exact Nat.le_refl _
      · exact Nat.le_of_lt (hnewest entry hmem)
    have hlater : other ∈ older := by
      rcases List.mem_cons.1 hother with rfl | hmem
      · exact absurd hlt (Nat.not_lt.2 hfirst)
      · exact hmem
    unfold survivors at hsurvives ⊢
    split at hsurvives
    · next hreferred =>
      rw [if_pos hreferred]
      rcases List.mem_cons.1 hsurvives with rfl | hmem
      · exact List.mem_cons_of_mem _
          (mem_survivors_of_referred hlater (List.mem_append_left _ hheld))
      · exact List.mem_cons_of_mem _ (ih hrest holder' hmem hlater)
    · next hreferred =>
      rw [if_neg hreferred]
      exact ih hrest holder' hsurvives hlater

theorem reach_of_mem_survivors {referred : List ObjectId} {entries : List (ObjectId × Object)}
    (hentries : ∀ entry ∈ entries, heap.get? entry.1 = some entry.2)
    (hreferred : ∀ id ∈ referred, Reach heap roots id) {entry : ObjectId × Object}
    (hsurvives : entry ∈ survivors referred entries) : Reach heap roots entry.1 := by
  induction entries generalizing referred with
  | nil => exact absurd hsurvives List.not_mem_nil
  | cons first older ih =>
    have hentries' : ∀ entry ∈ older, heap.get? entry.1 = some entry.2 :=
      fun entry hmem ↦ hentries entry (List.mem_cons_of_mem _ hmem)
    unfold survivors at hsurvives
    split at hsurvives
    · next hfirst =>
      have hreach : Reach heap roots first.1 := hreferred _ (by simpa using hfirst)
      rcases List.mem_cons.1 hsurvives with rfl | hmem
      · exact hreach
      · apply ih hentries' _ hmem
        intro id hid
        rcases List.mem_append.1 hid with hheld | hold
        · exact hreach.held (hentries first List.mem_cons_self) hheld
        · exact hreferred id hold
    · exact ih hentries' hreferred hsurvives

/-- The survivors of a pass are the objects reachable from its roots. -/
theorem mem_survivors_iff (hlayered : heap.Layered) {object : Object} :
    (id, object) ∈ survivors roots heap.entries ↔
      heap.get? id = some object ∧ Reach heap roots id := by
  have hentries : ∀ entry ∈ heap.entries, heap.get? entry.1 = some entry.2 :=
    fun entry hmem ↦ hlayered.ordered.mem_entries_iff.1 hmem
  constructor
  · intro hsurvives
    exact ⟨hentries _ ((survivors_sublist _ _).subset hsurvives),
      reach_of_mem_survivors hentries (fun _ ↦ .root) hsurvives⟩
  · rintro ⟨hget, hreach⟩
    induction hreach generalizing object with
    | root hroot =>
      exact mem_survivors_of_referred (hlayered.ordered.mem_entries_iff.2 hget) hroot
    | held _ hholder hheld ih =>
      exact mem_survivors_of_held hlayered.ordered.descending
        (fun entry hmem ↦ hlayered.older (hentries entry hmem)) (ih hholder) hheld
        (hlayered.ordered.mem_entries_iff.2 hget)

/-! ## Collection -/

/-- The heap of the survivors, before the ranges of lost views are given up. -/
def keep (heap : Heap) (roots : List ObjectId) : Heap := ⟨heap.next, survivors roots heap.entries⟩

theorem ordered_keep (horder : heap.Ordered) (roots : List ObjectId) :
    (heap.keep roots).Ordered :=
  horder.sublist (survivors_sublist _ _)

theorem get?_keep_eq_some (hlayered : heap.Layered) {object : Object} :
    (heap.keep roots).get? id = some object ↔
      heap.get? id = some object ∧ Reach heap roots id := by
  rw [← (ordered_keep hlayered.ordered roots).mem_entries_iff]
  exact mem_survivors_iff hlayered

theorem alike_forgetRanges (kept : Heap) (objects : List (ObjectId × Object)) :
    Alike kept (forgetRanges kept objects) := by
  unfold forgetRanges
  generalize kept.contains = isKept
  induction objects generalizing kept with
  | nil => exact Alike.refl kept
  | cons entry rest ih =>
    rw [List.foldl_cons]
    refine Alike.trans ?_ (ih _)
    split
    · split
      · split
        · exact Alike.refl _
        · exact alike_modifyContext _ _ _
      · exact Alike.refl _
    · exact Alike.refl _

theorem hostQueue?_forgetRanges (kept : Heap) (objects : List (ObjectId × Object))
    (other : ObjectId) : (forgetRanges kept objects).hostQueue? other = kept.hostQueue? other := by
  unfold forgetRanges
  generalize kept.contains = isKept
  induction objects generalizing kept with
  | nil => rfl
  | cons entry rest ih =>
    rw [List.foldl_cons, ih]
    split
    · split
      · split
        · rfl
        · exact hostQueue?_modifyContext _ _ _ _
      · rfl
    · rfl

theorem alike_collect (heap : Heap) (roots : List ObjectId) :
    Alike (heap.keep roots) (heap.collect roots) :=
  alike_forgetRanges _ _

@[simp]
theorem next_collect (heap : Heap) (roots : List ObjectId) :
    (heap.collect roots).next = heap.next :=
  (alike_collect heap roots).next.symm

theorem hostQueue?_collect_eq_some (hlayered : heap.Layered) {queue : HostQueue} :
    (heap.collect roots).hostQueue? id = some queue ↔
      heap.hostQueue? id = some queue ∧ Reach heap roots id := by
  unfold collect
  rw [hostQueue?_forgetRanges, hostQueue?_eq_some, hostQueue?_eq_some]
  exact get?_keep_eq_some hlayered

/-- A reachable object survives a collection with its outline. -/
theorem get?_collect_of_reach (hlayered : heap.Layered) (hreach : Reach heap roots id)
    {object : Object} (hget : heap.get? id = some object) :
    ∃ other, (heap.collect roots).get? id = some other ∧ other.outline = object.outline :=
  (alike_collect heap roots).get?_eq_some ((get?_keep_eq_some hlayered).2 ⟨hget, hreach⟩)

/-- Whatever is left after a collection was there before and is reachable. -/
theorem get?_of_get?_collect (hlayered : heap.Layered) {object : Object}
    (hget : (heap.collect roots).get? id = some object) :
    Reach heap roots id ∧ ∃ other, heap.get? id = some other ∧ other.outline = object.outline := by
  obtain ⟨other, hother, houtline⟩ := (alike_collect heap roots).symm.get?_eq_some hget
  obtain ⟨hbefore, hreach⟩ := (get?_keep_eq_some hlayered).1 hother
  exact ⟨hreach, other, hbefore, houtline⟩

/-- A collection takes nothing away that is reachable from its roots, so it does not change what
is. -/
theorem reach_collect_iff (hlayered : heap.Layered) :
    Reach (heap.collect roots) roots id ↔ Reach heap roots id := by
  constructor
  · intro hreach
    apply hreach.transfer
    intro id object _ hget
    obtain ⟨_, other, hother, houtline⟩ := get?_of_get?_collect hlayered hget
    exact ⟨other, hother, (Object.holds_eq_of_outline_eq houtline).symm ▸ List.Subset.refl _⟩
  · intro hreach
    apply hreach.transfer
    intro id object hreach hget
    obtain ⟨other, hother, houtline⟩ := get?_collect_of_reach hlayered hreach hget
    exact ⟨other, hother, (Object.holds_eq_of_outline_eq houtline).symm ▸ List.Subset.refl _⟩

theorem layered_collect (hlayered : heap.Layered) (roots : List ObjectId) :
    (heap.collect roots).Layered := by
  have hkeep : (heap.keep roots).Layered := by
    refine ⟨ordered_keep hlayered.ordered roots, ?_⟩
    intro id object hget
    exact hlayered.older ((get?_keep_eq_some hlayered).1 hget).1
  exact hkeep.of_alike (alike_collect heap roots)

end Offload.Heap
