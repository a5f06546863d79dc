import Offload.Proofs.Heap.Reachability
import Offload.Proofs.Module.Leaves
import Mathlib.Data.List.Nodup
import Mathlib.Logic.Function.Iterate

/-!
# Peers of modules

Linking makes the modules of a set peers of each other. A module names its peers in the order in which
they first were linked with it, and within one set in the order of the set. It goes on naming those
that are gone until it is linked again, but only the living ones count. So which peers a module has,
and in which order, can be read off the sets that have been linked and the modules that are alive.
-/

namespace Offload

/-! ## First occurrences -/

section FirstOccurrences

variable {α : Type} [BEq α] [LawfulBEq α] {values more : List α}

/-- Of the values that are kept the first occurrences stay first. -/
theorem eraseDups_filter (keep : α → Bool) (values : List α) :
    (values.filter keep).eraseDups = values.eraseDups.filter keep := by
  cases values with
  | nil => rfl
  | cons value rest =>
    have hothers := eraseDups_filter keep (rest.filter fun other ↦ !other == value)
    rw [List.eraseDups_cons, List.filter_cons, List.filter_cons]
    split
    · rw [List.eraseDups_cons, ← hothers, List.filter_filter, List.filter_filter]
      simp only [Bool.and_comm]
    · next hdropped =>
      -- The value itself is not among the values that are kept.
      have hkept : (rest.filter fun other ↦ !other == value).filter keep = rest.filter keep := by
        rw [List.filter_filter]
        apply List.filter_congr
        intro other _
        by_cases hsame : other = value
        · simp [hsame, hdropped]
        · simp [hsame]
      rw [← hothers, hkept]
termination_by values.length
decreasing_by exact Nat.lt_succ_of_le (List.length_filter_le _ _)

theorem nodup_eraseDups (values : List α) : values.eraseDups.Nodup := by
  cases values with
  | nil => exact List.nodup_nil
  | cons value rest =>
    rw [List.eraseDups_cons]
    refine List.nodup_cons.2 ⟨?_, nodup_eraseDups (rest.filter fun other ↦ !other == value)⟩
    simp
termination_by values.length
decreasing_by exact Nat.lt_succ_of_le (List.length_filter_le _ _)

theorem eraseDups_of_nodup (hnodup : values.Nodup) : values.eraseDups = values := by
  induction values with
  | nil => rfl
  | cons value rest ih =>
    obtain ⟨hvalue, hrest⟩ := List.nodup_cons.1 hnodup
    have hkept : (rest.filter fun other ↦ !other == value) = rest := by
      apply List.filter_eq_self.2
      intro other hother
      have hne : other ≠ value := fun hsame ↦ hvalue (hsame ▸ hother)
      simpa using hne
    rw [List.eraseDups_cons, hkept, ih hrest]

/-- A value that comes again has been asked before. -/
theorem findSome?_eraseDups {β : Type} (ask : α → Option β) (values : List α) :
    values.eraseDups.findSome? ask = values.findSome? ask := by
  cases values with
  | nil => rfl
  | cons value rest =>
    have hothers := findSome?_eraseDups ask (rest.filter fun other ↦ !other == value)
    rw [List.eraseDups_cons, List.findSome?_cons, List.findSome?_cons, hothers]
    cases hvalue : ask value with
    | some answer => rfl
    | none =>
      simp only
      rw [← List.head?_filterMap, ← List.head?_filterMap, List.filterMap_filter]
      congr 1
      apply List.filterMap_congr
      intro other _
      by_cases hsame : other = value
      · simp [hsame, hvalue]
      · simp [hsame]
termination_by values.length
decreasing_by exact Nat.lt_succ_of_le (List.length_filter_le _ _)

/-- Values that are there already add nothing. -/
theorem eraseDups_append_of_subset (hsubset : ∀ value ∈ more, value ∈ values) :
    (values ++ more).eraseDups = values.eraseDups := by
  have hnone : more.removeAll values = [] := by
    apply List.filter_eq_nil_iff.2
    intro value hvalue
    simpa using hsubset value hvalue
  rw [List.eraseDups_append, hnone, List.eraseDups_nil, List.append_nil]

/-- Only first occurrences matter for what is added. -/
theorem eraseDups_eraseDups_append (values more : List α) :
    (values.eraseDups ++ more).eraseDups = (values ++ more).eraseDups := by
  have hsame : more.removeAll values.eraseDups = more.removeAll values := by
    apply List.filter_congr
    intro value _
    simp
  rw [List.eraseDups_append, List.eraseDups_append, hsame,
    eraseDups_of_nodup (nodup_eraseDups values)]

end FirstOccurrences

/-! ## Peers in order -/

namespace Peers

variable {alive keep : ObjectId → Bool} {links : List (List ObjectId)} {set peers : List ObjectId}
  {id other : ObjectId}

/-- The modules that were linked with a module, one set after the other. -/
def joint (links : List (List ObjectId)) (id : ObjectId) : List ObjectId :=
  (links.filter (·.contains id)).flatten.filter (· != id)

/-- The living modules that were linked with a module, in the order in which they first were. -/
def order (alive : ObjectId → Bool) (links : List (List ObjectId)) (id : ObjectId) :
    List ObjectId :=
  ((joint links id).filter alive).eraseDups

theorem mem_joint : other ∈ joint links id ↔ other ≠ id ∧ ∃ set ∈ links, id ∈ set ∧ other ∈ set := by
  simp only [joint, List.mem_filter, List.mem_flatten, List.contains_iff_mem, bne_iff_ne]
  constructor
  · rintro ⟨⟨set, ⟨hset, hid⟩, hother⟩, hne⟩
    exact ⟨hne, set, hset, hid, hother⟩
  · rintro ⟨hne, set, hset, hid, hother⟩
    exact ⟨⟨set, ⟨hset, hid⟩, hother⟩, hne⟩

theorem mem_order : other ∈ order alive links id ↔
    other ≠ id ∧ alive other = true ∧ ∃ set ∈ links, id ∈ set ∧ other ∈ set := by
  simp only [order, List.mem_eraseDups, List.mem_filter, mem_joint]
  constructor
  · rintro ⟨⟨hne, hset⟩, halive⟩
    exact ⟨hne, halive, hset⟩
  · rintro ⟨hne, halive, hset⟩
    exact ⟨⟨hne, hset⟩, halive⟩

theorem joint_append_of_mem (hid : id ∈ set) :
    joint (links ++ [set]) id = joint links id ++ set.filter (· != id) := by
  have hcontains : set.contains id = true := List.contains_iff_mem.2 hid
  simp only [joint, List.filter_append, List.filter_singleton, hcontains, cond_true,
    List.flatten_append, List.flatten_singleton]

theorem joint_append_of_notMem (hid : id ∉ set) : joint (links ++ [set]) id = joint links id := by
  have hcontains : set.contains id = false := by simpa using hid
  simp only [joint, List.filter_append, List.filter_singleton, hcontains, cond_false,
    List.append_nil]

/-- Modules that were linked with each other before change nothing when they are linked again. -/
theorem order_append_of_linked
    (hlinked : ∀ first ∈ set, ∀ second ∈ set, first ≠ second →
      ∃ earlier ∈ links, first ∈ earlier ∧ second ∈ earlier) :
    order alive (links ++ [set]) id = order alive links id := by
  by_cases hid : id ∈ set
  · unfold order
    rw [joint_append_of_mem hid, List.filter_append]
    apply eraseDups_append_of_subset
    intro other hother
    obtain ⟨hjoint, halive⟩ := List.mem_filter.1 hother
    obtain ⟨hset, hne⟩ := List.mem_filter.1 hjoint
    have hne := bne_iff_ne.1 hne
    exact List.mem_filter.2 ⟨mem_joint.2 ⟨hne, hlinked id hid other hset hne.symm⟩, halive⟩
  · unfold order
    rw [joint_append_of_notMem hid]

/-- A module that is gone is no peer any more, and that is all. -/
theorem order_of_gone
    (hgone : ∀ set ∈ links, ∀ other ∈ set, keep other = true → alive other = true) :
    order keep links id = (order alive links id).filter keep := by
  unfold order
  rw [← eraseDups_filter, List.filter_filter]
  congr 1
  apply List.filter_congr
  intro other hother
  obtain ⟨-, set, hset, -, hmem⟩ := mem_joint.1 hother
  cases hkeep : keep other with
  | true => simp [hgone set hset other hmem hkeep]
  | false => rfl

/-! ## Adding peers -/

theorem nodup_add (alive : ObjectId → Bool) (peer : ObjectId) (hnodup : peers.Nodup) :
    (add alive peers peer).Nodup := by
  have hkept := hnodup.filter alive
  unfold add
  simp only
  split
  · exact hkept
  · next hnew =>
    simp only [List.contains_iff_mem] at hnew
    exact List.nodup_append.2 ⟨hkept, List.nodup_singleton _, fun old hold other hother hsame ↦
      hnew (List.mem_singleton.1 hother ▸ hsame ▸ hold)⟩

theorem filter_add {peer : ObjectId} (hkeep : ∀ id, keep id = true → alive id = true)
    (hpeer : keep peer = true) (hnodup : peers.Nodup) :
    (add alive peers peer).filter keep = (peers.filter keep ++ [peer]).eraseDups := by
  have hkept : (peers.filter alive).filter keep = peers.filter keep := by
    rw [List.filter_filter]
    apply List.filter_congr
    intro id _
    cases hid : keep id with
    | true => simp [hkeep id hid]
    | false => rfl
  unfold add
  by_cases hold : peer ∈ peers
  · have hcontains : (peers.filter alive).contains peer = true :=
      List.contains_iff_mem.2 (List.mem_filter.2 ⟨hold, hkeep peer hpeer⟩)
    rw [if_pos hcontains, hkept, eraseDups_append_of_subset, eraseDups_of_nodup (hnodup.filter keep)]
    intro other hother
    exact List.mem_singleton.1 hother ▸ List.mem_filter.2 ⟨hold, hpeer⟩
  · have hcontains : ¬(peers.filter alive).contains peer = true := fun hmem ↦
      hold (List.mem_filter.1 (List.contains_iff_mem.1 hmem)).1
    rw [if_neg hcontains, List.filter_append, hkept, List.filter_singleton, hpeer]
    refine (eraseDups_of_nodup ?_).symm
    refine List.nodup_append.2 ⟨hnodup.filter keep, List.nodup_singleton _, ?_⟩
    rintro old hmem other hother rfl
    exact hold (List.mem_singleton.1 hother ▸ (List.mem_filter.1 hmem).1)

/-- Peers that are added to the living ones come behind them. -/
theorem filter_foldl_add (hkeep : ∀ id, keep id = true → alive id = true)
    (hset : ∀ id ∈ set, keep id = true) (hnodup : peers.Nodup) :
    (set.foldl (add alive) peers).Nodup ∧
      (set.foldl (add alive) peers).filter keep = (peers.filter keep ++ set).eraseDups := by
  induction set generalizing peers with
  | nil => exact ⟨hnodup, by rw [List.append_nil, eraseDups_of_nodup (hnodup.filter keep)]; rfl⟩
  | cons peer rest ih =>
    obtain ⟨hpeer, hrest⟩ := List.forall_mem_cons.1 hset
    obtain ⟨hadded, hfilter⟩ := ih hrest (nodup_add alive peer hnodup)
    refine ⟨hadded, ?_⟩
    calc (rest.foldl (add alive) (add alive peers peer)).filter keep
        = ((add alive peers peer).filter keep ++ rest).eraseDups := hfilter
      _ = ((peers.filter keep ++ [peer]).eraseDups ++ rest).eraseDups := by
        rw [filter_add hkeep hpeer hnodup]
      _ = (peers.filter keep ++ peer :: rest).eraseDups := by
        rw [eraseDups_eraseDups_append, List.append_assoc, List.singleton_append]

theorem mem_foldl_add (hmem : id ∈ set.foldl (add alive) peers) : id ∈ peers ∨ id ∈ set := by
  induction set generalizing peers with
  | nil => exact .inl hmem
  | cons peer rest ih =>
    rcases ih hmem with hadded | hrest
    · unfold add at hadded
      simp only at hadded
      split at hadded
      · exact .inl (List.mem_filter.1 hadded).1
      · rcases List.mem_append.1 hadded with hold | hnew
        · exact .inl (List.mem_filter.1 hold).1
        · exact .inr (List.mem_singleton.1 hnew ▸ List.mem_cons_self)
    · exact .inr (List.mem_cons_of_mem _ hrest)

theorem mem_link {times : Nat} (hmem : other ∈ (link alive id set)^[times] peers) :
    other ∈ peers ∨ other ∈ set := by
  induction times with
  | zero => exact .inl hmem
  | succ times ih =>
    rw [Function.iterate_succ_apply'] at hmem
    rcases mem_foldl_add hmem with hbefore | hset
    · exact ih hbefore
    · exact .inr (List.mem_filter.1 hset).1

/-- However often a module stands in a set, its peers are added once. -/
theorem filter_link (hkeep : ∀ id, keep id = true → alive id = true)
    (hset : ∀ id ∈ set, keep id = true) (hnodup : peers.Nodup) (times : Nat) :
    ((link alive id set)^[times + 1] peers).Nodup ∧
      ((link alive id set)^[times + 1] peers).filter keep =
        (peers.filter keep ++ set.filter (· != id)).eraseDups := by
  have hothers : ∀ other ∈ set.filter (· != id), keep other = true :=
    fun other hother ↦ hset other (List.mem_filter.1 hother).1
  induction times with
  | zero => exact filter_foldl_add hkeep hothers hnodup
  | succ times ih =>
    obtain ⟨hbefore, hfilter⟩ := ih
    rw [Function.iterate_succ_apply']
    obtain ⟨hafter, hagain⟩ := filter_foldl_add hkeep hothers hbefore
    refine ⟨hafter, hagain.trans ?_⟩
    rw [hfilter, eraseDups_eraseDups_append]
    exact eraseDups_append_of_subset fun other hother ↦ List.mem_append_right _ hother

end Peers

namespace Heap

variable {heap before after last : Heap} {links : List (List ObjectId)} {set : List ObjectId}
  {id : ObjectId} {module : HostModule}

/-! ## Modules under changes -/

/-- Whether a module of the host is alive under a number. -/
def loads (heap : Heap) (id : ObjectId) : Bool := (heap.hostModule? id).isSome

theorem loads_iff : heap.loads id = true ↔ ∃ module, heap.hostModule? id = some module :=
  Option.isSome_iff_exists

theorem contains_of_loads (hloads : heap.loads id = true) : heap.contains id = true := by
  obtain ⟨module, hmodule⟩ := loads_iff.1 hloads
  rw [Table.contains_eq_isSome, hostModule?_eq_some.1 hmodule]
  rfl

theorem hostModule?_modify (heap : Heap) (id : ObjectId) {change : Object → Object}
    (hchange : ∀ object module, change object = .module (.host module) ↔
      object = .module (.host module)) (other : ObjectId) :
    hostModule? (heap.modify id change) other = heap.hostModule? other := by
  apply Option.ext
  intro module
  rw [hostModule?_eq_some, hostModule?_eq_some, Table.get?_modify]
  split
  · rw [Option.map_eq_some_iff]
    simp [hchange]
  · rfl

theorem hostModule?_modifyContext (heap : Heap) (id : ObjectId) (change : Context → Context)
    (other : ObjectId) :
    (heap.modifyContext id change).hostModule? other = heap.hostModule? other := by
  apply hostModule?_modify
  intro object module
  cases object <;> simp

theorem hostModule?_modifyQueue (heap : Heap) (id : ObjectId) (change : HostQueue → HostQueue)
    (other : ObjectId) :
    (heap.modifyQueue id change).hostModule? other = heap.hostModule? other := by
  apply hostModule?_modify
  intro object module
  rcases object with _ | _ | _ | _ | _ | queue | _
  case queue => cases queue <;> simp
  all_goals simp

theorem hostModule?_settleFuture (heap : Heap) (id : ObjectId) (next : FutureState)
    (other : ObjectId) :
    (heap.settleFuture id next).hostModule? other = heap.hostModule? other := by
  apply hostModule?_modify
  intro object module
  cases object <;> simp

theorem hostModule?_modifyModule (heap : Heap) (id : ObjectId) (change : HostModule → HostModule)
    (other : ObjectId) :
    (heap.modifyModule id change).hostModule? other =
      if other = id then (heap.hostModule? other).map change else heap.hostModule? other := by
  unfold hostModule? modifyModule
  rw [Table.get?_modify]
  by_cases hother : other = id
  · rw [if_pos hother, if_pos hother]
    cases heap.get? other with
    | none => rfl
    | some object =>
      rcases object with _ | _ | _ | module | _ | _ | _
      case module => cases module <;> rfl
      all_goals rfl
  · rw [if_neg hother, if_neg hother]

theorem hostModule?_forgetRanges (kept : Heap) (objects : List (ObjectId × Object))
    (other : ObjectId) :
    (forgetRanges kept objects).hostModule? other = kept.hostModule? other := by
  unfold forgetRanges
  generalize kept.contains = isKept
  induction objects generalizing kept with
  | nil => rfl
  | cons entry rest ih =>
    rw [List.foldl_cons, ih]
    split
    · split
      · split
        · rfl
        · exact hostModule?_modifyContext _ _ _ _
      · rfl
    · rfl

theorem hostModule?_of_collect (hordered : heap.Ordered) {roots : List ObjectId}
    (hmodule : (heap.collect roots).hostModule? id = some module) :
    heap.hostModule? id = some module := by
  unfold collect at hmodule
  rw [hostModule?_forgetRanges, hostModule?_eq_some] at hmodule
  have hsurvives := (ordered_keep hordered roots).mem_entries_iff.2 hmodule
  exact hostModule?_eq_some.2
    (hordered.mem_entries_iff.1 ((survivors_sublist _ _).subset hsurvives))

/-! ## Linking -/

/-- Linking adds the peers of a module as often as the module stands in the set. -/
theorem hostModule?_link (heap : Heap) (set : List ObjectId) (id : ObjectId) :
    (heap.link set).hostModule? id = (heap.hostModule? id).map fun module ↦
      { module with peers := (Peers.link heap.contains id set)^[set.count id] module.peers } := by
  unfold link
  -- Nothing comes or goes meanwhile, so all modules are linked with the same living ones.
  suffices hfold : ∀ (ids : List ObjectId) (linked : Heap), Alike heap linked →
      (ids.foldl (fun (linked : Heap) id ↦ linked.modifyModule id fun module ↦
        { module with peers := Peers.link linked.contains id set module.peers }) linked).hostModule?
          id = (linked.hostModule? id).map fun module ↦
      { module with peers := (Peers.link heap.contains id set)^[ids.count id] module.peers } from
    hfold set heap (.refl heap)
  intro ids
  induction ids with
  | nil => exact fun linked _ ↦ Option.map_id'.symm
  | cons first rest ih =>
    intro linked halike
    have hcontains : linked.contains = heap.contains := funext fun id ↦ (halike.contains_eq id).symm
    rw [List.foldl_cons, ih _ (halike.trans (alike_modifyModule linked first _)),
      hostModule?_modifyModule, hcontains]
    split
    · next hfirst =>
      subst hfirst
      rw [Option.map_map, List.count_cons_self]
      rfl
    · next hother =>
      rw [List.count_cons_of_ne (Ne.symm hother)]

/-! ## Changes that link nothing -/

/-- No module gets a peer: each was there before as it is, or is as it was made. -/
structure Spares (before after : Heap) : Prop where
  next_le : before.next ≤ after.next
  ordered : before.Ordered → after.Ordered
  module : ∀ {id module}, after.hostModule? id = some module →
    before.hostModule? id = some module ∨ before.next ≤ id ∧ id < after.next ∧ module.AsMade

namespace Spares

theorem refl (heap : Heap) : Spares heap heap := ⟨Nat.le_refl _, id, .inl⟩

theorem trans (hfirst : Spares before after) (hsecond : Spares after last) :
    Spares before last := by
  refine ⟨Nat.le_trans hfirst.next_le hsecond.next_le, hsecond.ordered ∘ hfirst.ordered,
    fun hlast ↦ ?_⟩
  rcases hsecond.module hlast with hafter | ⟨hnew, hbelow, hmade⟩
  · exact (hfirst.module hafter).imp_right fun ⟨hnew, hbelow, hmade⟩ ↦
      ⟨hnew, Nat.lt_of_lt_of_le hbelow hsecond.next_le, hmade⟩
  · exact .inr ⟨Nat.le_trans hfirst.next_le hnew, hbelow, hmade⟩

theorem modify (heap : Heap) (id : ObjectId) {change : Object → Object}
    (hchange : ∀ other, hostModule? (heap.modify id change) other = heap.hostModule? other) :
    Spares heap (heap.modify id change) :=
  ⟨Nat.le_refl _, fun hordered ↦ hordered.modify id change,
    fun hafter ↦ .inl ((hchange _).symm.trans hafter)⟩

theorem modifyContext (heap : Heap) (id : ObjectId) (change : Context → Context) :
    Spares heap (heap.modifyContext id change) :=
  modify heap id (hostModule?_modifyContext heap id change)

theorem modifyQueue (heap : Heap) (id : ObjectId) (change : HostQueue → HostQueue) :
    Spares heap (heap.modifyQueue id change) :=
  modify heap id (hostModule?_modifyQueue heap id change)

theorem settleFuture (heap : Heap) (id : ObjectId) (next : FutureState) :
    Spares heap (heap.settleFuture id next) :=
  modify heap id (hostModule?_settleFuture heap id next)

theorem insert (heap : Heap) {object : Object}
    (hobject : ∀ module, object = .module (.host module) → module.AsMade) :
    Spares heap (heap.insert object).1 := by
  refine ⟨Nat.le_succ _, fun hordered ↦ hordered.insert object, fun {id module} hafter ↦ ?_⟩
  rw [hostModule?_eq_some, Table.get?_insert] at hafter
  split at hafter
  · next hnew =>
    exact .inr ⟨Nat.le_of_eq hnew.symm, hnew ▸ Nat.lt_succ_self _,
      hobject module (Option.some.inj hafter)⟩
  · exact .inl (hostModule?_eq_some.2 hafter)

theorem collect (hordered : heap.Ordered) (roots : List ObjectId) :
    Spares heap (heap.collect roots) :=
  ⟨Nat.le_of_eq (next_collect heap roots).symm,
    fun hordered ↦ (alike_collect heap roots).ordered (ordered_keep hordered roots),
    fun hafter ↦ .inl (hostModule?_of_collect hordered hafter)⟩

/-- A module that is alive and not new was alive before. -/
theorem loads (hspares : Spares before after) (hold : id < before.next)
    (hloads : after.loads id = true) : before.loads id = true := by
  obtain ⟨module, hmodule⟩ := loads_iff.1 hloads
  rcases hspares.module hmodule with hbefore | ⟨hnew, -⟩
  · exact loads_iff.2 ⟨module, hbefore⟩
  · exact absurd hold (Nat.not_lt.2 hnew)

end Spares

/-! ## Peers follow the links -/

/-- The peers of the living modules are those they have been linked with. -/
structure Linked (links : List (List ObjectId)) (heap : Heap) : Prop where
  given : ∀ set ∈ links, ∀ id ∈ set, id < heap.next
  below : ∀ {id module}, heap.hostModule? id = some module →
    id < heap.next ∧ ∀ peer ∈ module.peers, peer < heap.next
  nodup : ∀ {id module}, heap.hostModule? id = some module → module.peers.Nodup
  peers : ∀ {id module}, heap.hostModule? id = some module →
    module.peers.filter heap.loads = Peers.order heap.loads links id

namespace Linked

/-- Whatever links no modules leaves them their peers, as far as they are alive. -/
theorem spares (hlinked : before.Linked links) (hspares : before.Spares after) :
    after.Linked links where
  given := fun set hset id hid ↦ Nat.lt_of_lt_of_le (hlinked.given set hset id hid) hspares.next_le
  below := by
    intro id module hmodule
    rcases hspares.module hmodule with hbefore | ⟨-, hbelow, hpeers, -⟩
    · obtain ⟨hid, hpeers⟩ := hlinked.below hbefore
      exact ⟨Nat.lt_of_lt_of_le hid hspares.next_le,
        fun peer hpeer ↦ Nat.lt_of_lt_of_le (hpeers peer hpeer) hspares.next_le⟩
    · exact ⟨hbelow, hpeers ▸ fun _ hpeer ↦ absurd hpeer List.not_mem_nil⟩
  nodup := by
    intro id module hmodule
    rcases hspares.module hmodule with hbefore | ⟨-, -, hpeers, -⟩
    · exact hlinked.nodup hbefore
    · exact hpeers ▸ List.nodup_nil
  peers := by
    intro id module hmodule
    have hgone : ∀ set ∈ links, ∀ other ∈ set, after.loads other = true →
        before.loads other = true :=
      fun set hset other hother ↦ hspares.loads (hlinked.given set hset other hother)
    rcases hspares.module hmodule with hbefore | ⟨hnew, -, hpeers, -⟩
    · rw [Peers.order_of_gone hgone, ← hlinked.peers hbefore, List.filter_filter]
      apply List.filter_congr
      intro peer hpeer
      cases hloads : after.loads peer with
      | true => simp [hspares.loads ((hlinked.below hbefore).2 peer hpeer) hloads]
      | false => rfl
    · have hnone : Peers.joint links id = [] := by
        apply List.eq_nil_iff_forall_not_mem.2
        intro other hother
        obtain ⟨-, set, hset, hid, -⟩ := Peers.mem_joint.1 hother
        exact absurd (hlinked.given set hset id hid) (Nat.not_lt.2 hnew)
      rw [hpeers, Peers.order, hnone]
      rfl

/-- Linking a set of living modules adds each of them to the peers of the others. -/
theorem link (hlinked : heap.Linked links) (hset : ∀ id ∈ set, heap.loads id = true) :
    (heap.link set).Linked (links ++ [set]) := by
  have hnext : (heap.link set).next = heap.next := (alike_link heap set).next.symm
  have hloads : (heap.link set).loads = heap.loads := by
    funext id
    simp only [loads, hostModule?_link, Option.isSome_map]
  have hcontains : ∀ id, heap.loads id = true → heap.contains id = true :=
    fun id ↦ contains_of_loads
  have hbelow {id : ObjectId} (hid : id ∈ set) : id < heap.next := by
    obtain ⟨module, hmodule⟩ := loads_iff.1 (hset id hid)
    exact (hlinked.below hmodule).1
  have hpeers {id : ObjectId} {module : HostModule}
      (hmodule : (heap.link set).hostModule? id = some module) :
      ∃ old, heap.hostModule? id = some old ∧
        module = { old with
          peers := (Peers.link heap.contains id set)^[set.count id] old.peers } := by
    rw [hostModule?_link] at hmodule
    obtain ⟨old, hold, hnew⟩ := Option.map_eq_some_iff.1 hmodule
    exact ⟨old, hold, hnew.symm⟩
  refine ⟨?_, ?_, ?_, ?_⟩
  · rw [hnext]
    intro other hother id hid
    rcases List.mem_append.1 hother with hold | hnew
    · exact hlinked.given other hold id hid
    · exact hbelow (List.mem_singleton.1 hnew ▸ hid)
  · intro id module hmodule
    obtain ⟨old, hold, rfl⟩ := hpeers hmodule
    obtain ⟨hid, hpeer⟩ := hlinked.below hold
    rw [hnext]
    refine ⟨hid, fun peer hmem ↦ ?_⟩
    rcases Peers.mem_link hmem with hbefore | hnew
    · exact hpeer peer hbefore
    · exact hbelow hnew
  · intro id module hmodule
    obtain ⟨old, hold, rfl⟩ := hpeers hmodule
    cases htimes : set.count id with
    | zero => exact hlinked.nodup hold
    | succ times => exact (Peers.filter_link hcontains hset (hlinked.nodup hold) times).1
  · intro id module hmodule
    obtain ⟨old, hold, rfl⟩ := hpeers hmodule
    rw [hloads]
    by_cases hid : id ∈ set
    · obtain ⟨times, htimes⟩ := Nat.exists_eq_succ_of_ne_zero (Nat.ne_of_gt (List.count_pos_iff.2 hid))
      have hothers : (set.filter (· != id)).filter heap.loads = set.filter (· != id) :=
        List.filter_eq_self.2 fun other hother ↦ hset other (List.mem_filter.1 hother).1
      rw [htimes, (Peers.filter_link hcontains hset (hlinked.nodup hold) times).2,
        hlinked.peers hold, Peers.order, Peers.order, Peers.joint_append_of_mem hid,
        List.filter_append, hothers, eraseDups_eraseDups_append]
    · rw [List.count_eq_zero_of_not_mem hid, Peers.order, Peers.joint_append_of_notMem hid]
      exact hlinked.peers hold

/-- The living peers of a module, in their order. -/
theorem livePeers (hlinked : heap.Linked links) (hmodule : heap.hostModule? id = some module) :
    (heap.livePeers module).map (·.1) = Peers.order heap.loads links id := by
  rw [← hlinked.peers hmodule]
  unfold Heap.livePeers
  rw [List.map_filterMap, ← List.filterMap_eq_filter]
  apply List.filterMap_congr
  intro peer _
  cases hpeer : heap.hostModule? peer with
  | none => simp [loads, hpeer, Option.guard]
  | some found => simp [loads, hpeer, Option.guard]

/-- The entry of a name is the module's own or that of its first living peer which defines it. -/
theorem resolveEntry? (hlinked : heap.Linked links) (hmodule : heap.hostModule? id = some module)
    (name : String) :
    heap.resolveEntry? module name =
      match module.code.resolve name with
      | some entry => some entry
      | none => (Peers.order heap.loads links id).findSome? fun peer ↦
          (heap.hostModule? peer).bind (·.code.resolve name) := by
  have hfirst : (heap.livePeers module).findSome? (·.2.code.resolve name) =
      (Peers.order heap.loads links id).findSome? fun peer ↦
        (heap.hostModule? peer).bind (·.code.resolve name) := by
    rw [← hlinked.peers hmodule, ← List.head?_filterMap, ← List.head?_filterMap,
      Heap.livePeers, List.filterMap_filterMap, List.filterMap_filter]
    congr 1
    apply List.filterMap_congr
    intro peer _
    cases hpeer : heap.hostModule? peer with
    | none => simp [loads, hpeer]
    | some found => simp [loads, hpeer]
  unfold Heap.resolveEntry?
  cases module.code.resolve name with
  | some entry => rfl
  | none => exact hfirst

end Linked

end Heap

end Offload
