import Offload.Table

/-!
# Laws of numbered tables

Reading a table after each operation, and the order of its entries. The order makes membership of
an entry and the value under its number the same thing, which is how every later proof reads a
table: through `get?`.
-/

namespace Offload.Table

variable {α β : Type}

/-! ## Reading after an operation -/

@[simp]
theorem get?_insert (table : Table α) (value : α) (number : Nat) :
    (table.insert value).1.get? number =
      if number = table.next then some value else table.get? number := by
  unfold get? insert
  by_cases hnew : table.next = number
  · simp [hnew]
  · simp [hnew, Ne.symm hnew]

@[simp]
theorem next_insert (table : Table α) (value : α) :
    (table.insert value).1.next = table.next + 1 := rfl

@[simp]
theorem insert_snd (table : Table α) (value : α) : (table.insert value).2 = table.next := rfl

@[simp]
theorem next_modify (table : Table α) (number : Nat) (change : α → α) :
    (table.modify number change).next = table.next := rfl

@[simp]
theorem next_erase (table : Table α) (number : Nat) : (table.erase number).next = table.next := rfl

@[simp]
theorem get?_modify (table : Table α) (number : Nat) (change : α → α) (other : Nat) :
    (table.modify number change).get? other =
      if other = number then (table.get? other).map change else table.get? other := by
  unfold get? modify
  induction table.entries with
  | nil => simp
  | cons entry rest ih =>
    by_cases hother : entry.1 = other
    · by_cases hnumber : entry.1 = number
      · simp [hnumber, ← hother]
      · have hne : other ≠ number := hother ▸ hnumber
        simp [hother, hne]
    · by_cases hnumber : entry.1 = number
      · have hne : other ≠ number := fun h ↦ hother (hnumber.trans h.symm)
        simpa [hnumber, hother, hne, hne.symm] using ih
      · simpa [hnumber, hother] using ih

/-- A value can be changed before or after another one is inserted. -/
theorem modify_insert (table : Table α) {number : Nat} (hnumber : number ≠ table.next) (value : α)
    (change : α → α) :
    (table.insert value).1.modify number change =
      ((table.modify number change).insert value).1 := by
  simp [insert, modify, Ne.symm hnumber]

@[simp]
theorem get?_erase (table : Table α) (number other : Nat) :
    (table.erase number).get? other = if other = number then none else table.get? other := by
  unfold get? erase
  induction table.entries with
  | nil => simp
  | cons entry rest ih =>
    by_cases hnumber : entry.1 = number
    · by_cases hother : other = number
      · simp [hnumber, hother]
      · have hne : number ≠ other := Ne.symm hother
        simpa [hnumber, hother, hne] using ih
    · by_cases hother : other = number
      · subst hother
        simp [hnumber]
      · by_cases hentry : entry.1 = other
        · simp [hother, hentry]
        · simpa [hnumber, hother, hentry] using ih

theorem contains_eq_isSome (table : Table α) (number : Nat) :
    table.contains number = (table.get? number).isSome := by
  unfold contains get?
  induction table.entries with
  | nil => rfl
  | cons entry rest ih =>
    by_cases hnumber : entry.1 = number
    · simp [hnumber]
    · simp [hnumber, ih]

theorem contains_iff {table : Table α} {number : Nat} :
    table.contains number = true ↔ ∃ value, table.get? number = some value := by
  rw [contains_eq_isSome, Option.isSome_iff_exists]

/-! ## Order of the entries -/

/-- Entries descend in their numbers and stay below the next one. -/
structure Ordered (table : Table α) : Prop where
  descending : table.entries.Pairwise fun newer older ↦ older.1 < newer.1
  below : ∀ entry ∈ table.entries, entry.1 < table.next

theorem ordered_of_entries_eq_nil {table : Table α} (hentries : table.entries = []) :
    table.Ordered := by
  constructor <;> simp [hentries]

namespace Ordered

variable {table : Table α}

theorem insert (horder : table.Ordered) (value : α) : (table.insert value).1.Ordered := by
  constructor
  · exact List.pairwise_cons.2 ⟨fun entry hentry ↦ horder.below entry hentry, horder.descending⟩
  · intro entry hentry
    rcases List.mem_cons.1 hentry with rfl | hold
    · exact Nat.lt_succ_self _
    · exact Nat.lt_succ_of_lt (horder.below entry hold)

/-- The order only depends on the numbers. -/
theorem of_numbers (horder : table.Ordered) (other : Table β) (hnext : table.next = other.next)
    (hnumbers : table.entries.map (·.1) = other.entries.map (·.1)) : other.Ordered := by
  have hpairs := List.pairwise_map (f := Prod.fst) (R := fun newer older : Nat ↦ older < newer)
    (l := table.entries)
  have hpairs' := List.pairwise_map (f := Prod.fst) (R := fun newer older : Nat ↦ older < newer)
    (l := other.entries)
  constructor
  · exact hpairs'.1 (hnumbers ▸ hpairs.2 horder.descending)
  · intro entry hentry
    have hmem : entry.1 ∈ table.entries.map (·.1) := hnumbers ▸ List.mem_map_of_mem hentry
    obtain ⟨source, hsource, heq⟩ := List.mem_map.1 hmem
    rw [← heq, ← hnext]
    exact horder.below source hsource

theorem modify (horder : table.Ordered) (number : Nat) (change : α → α) :
    (table.modify number change).Ordered := by
  refine horder.of_numbers (table.modify number change) rfl ?_
  simp only [Table.modify, List.map_map]
  apply List.map_congr_left
  intro entry _
  simp only [Function.comp_apply]
  split <;> rfl

theorem sublist (horder : table.Ordered) {entries : List (Nat × α)}
    (hsub : entries.Sublist table.entries) : (⟨table.next, entries⟩ : Table α).Ordered :=
  ⟨horder.descending.sublist hsub, fun entry hentry ↦ horder.below entry (hsub.subset hentry)⟩

theorem erase (horder : table.Ordered) (number : Nat) : (table.erase number).Ordered :=
  horder.sublist List.filter_sublist

/-- An entry is in the table exactly when its value is read under its number. -/
theorem mem_entries_iff (horder : table.Ordered) {number : Nat} {value : α} :
    (number, value) ∈ table.entries ↔ table.get? number = some value := by
  have hdescending := horder.descending
  unfold get?
  generalize table.entries = entries at hdescending ⊢
  induction entries with
  | nil => simp
  | cons entry rest ih =>
    obtain ⟨hnewest, hrest⟩ := List.pairwise_cons.1 hdescending
    by_cases hnumber : entry.1 = number
    · have hfresh : (number, value) ∉ rest := by
        intro hmem
        have hlt := hnewest _ hmem
        simp [hnumber] at hlt
      simp [hnumber, hfresh, Prod.ext_iff, eq_comm]
    · have hne : (number, value) ≠ entry := fun h ↦ hnumber (h ▸ rfl)
      simpa [hnumber, hne] using ih hrest

theorem mem_values_iff (horder : table.Ordered) {value : α} :
    value ∈ table.values ↔ ∃ number, table.get? number = some value := by
  simp only [values, List.mem_map, Prod.exists, exists_eq_right, horder.mem_entries_iff]

theorem mem_numbers_iff (horder : table.Ordered) {number : Nat} :
    number ∈ table.entries.map (·.1) ↔ (table.get? number).isSome := by
  rw [Option.isSome_iff_exists]
  simp [← horder.mem_entries_iff]

theorem nodup_numbers (horder : table.Ordered) : (table.entries.map (·.1)).Nodup :=
  List.pairwise_map.2 (horder.descending.imp fun hlt ↦ Ne.symm (Nat.ne_of_lt hlt))

theorem lt_next (horder : table.Ordered) {number : Nat} {value : α}
    (hget : table.get? number = some value) : number < table.next :=
  horder.below _ (horder.mem_entries_iff.2 hget)

theorem get?_eq_none (horder : table.Ordered) {number : Nat} (hnext : table.next ≤ number) :
    table.get? number = none := by
  cases hget : table.get? number with
  | none => rfl
  | some value => exact absurd (horder.lt_next hget) (Nat.not_lt.2 hnext)

end Ordered

end Offload.Table
