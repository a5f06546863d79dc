import Mathlib.Algebra.BigOperators.Ring.List
import Mathlib.Algebra.Order.Ring.Nat
import Offload.Extent

/-!
# Counting instances

The instances of a launch are counted by multiplying its sizes up from the left, and the count is
given up as soon as a partial product is no word. Without an empty dimension no partial product is
greater than the whole, so the count is the exact number of instances. An empty dimension makes the
whole nothing, but it is met too late when it is the last one and the others are no word together.
-/

namespace Offload.Extent

variable {extent other : Extent} {sizes : List Nat} {start total : Nat}

/-! ## Multiplying up -/

theorem timesWord?_eq_some_iff {left right : Nat} :
    timesWord? left right = some total ↔ left * right < wordLimit ∧ left * right = total := by
  rw [timesWord?, Option.ite_none_right_eq_some, Option.some.injEq]

/-- Multiplying up comes to the product if every partial product on the way is a word. -/
theorem foldlM_timesWord?_eq_some_iff :
    sizes.foldlM timesWord? start = some total ↔
      start * sizes.prod = total ∧
        ∀ front, front <+: sizes → front ≠ [] → start * front.prod < wordLimit := by
  induction sizes generalizing start with
  | nil => simp [List.prefix_nil]
  | cons size rest ih =>
    rw [List.foldlM_cons, Option.bind_eq_bind, Option.bind_eq_some_iff]
    simp only [timesWord?_eq_some_iff, ih, List.prod_cons]
    constructor
    · rintro ⟨_, ⟨hword, rfl⟩, htotal, hrest⟩
      refine ⟨by rw [← htotal, Nat.mul_assoc], fun front hfront hne ↦ ?_⟩
      obtain rfl | ⟨back, rfl, hback⟩ := List.prefix_cons_iff.1 hfront
      · exact absurd rfl hne
      obtain rfl | hbackne := eq_or_ne back []
      · simpa using hword
      · simpa [Nat.mul_assoc] using hrest back hback hbackne
    · rintro ⟨htotal, hfronts⟩
      have hword : start * size < wordLimit := by
        simpa using hfronts [size] (List.prefix_cons_inj size |>.2 List.nil_prefix) (by simp)
      refine ⟨start * size, ⟨hword, rfl⟩, by rw [← htotal, Nat.mul_assoc], ?_⟩
      intro front hfront _
      simpa [Nat.mul_assoc] using
        hfronts (size :: front) ((List.prefix_cons_inj size).2 hfront) (by simp)

/-! ## The instances of a launch -/

/-- The number of instances of a launch. -/
def instances (extent : Extent) : Nat := extent.width * extent.height * extent.depth

/-- The number of instances of a launch, unless it is no word. -/
def wordCount? (extent : Extent) : Option Nat :=
  if extent.instances < wordLimit then some extent.instances else none

/-- Whether every size of a launch is a word. -/
def Fits (extent : Extent) : Prop := ∀ size ∈ extent.toList, size < wordLimit

/-- A launch whose last dimension is empty, and whose others are no word together. -/
def EmptyTooLate (extent : Extent) : Prop :=
  extent.depth = 0 ∧ wordLimit ≤ extent.width * extent.height

theorem prod_toList (extent : Extent) : extent.toList.prod = extent.instances := by
  simp [toList, instances, Nat.mul_assoc]

theorem isEmpty_iff : extent.isEmpty = true ↔ extent.instances = 0 := by
  rw [← prod_toList, List.prod_eq_zero_iff]
  simp [isEmpty]

theorem wordCount?_eq_some_iff :
    extent.wordCount? = some total ↔ extent.instances < wordLimit ∧ extent.instances = total := by
  rw [wordCount?, Option.ite_none_right_eq_some, Option.some.injEq]

/-- The order of the sizes does not matter for the exact count. -/
theorem wordCount?_of_perm (hperm : other.toList.Perm extent.toList) :
    other.wordCount? = extent.wordCount? := by
  have hinstances : other.instances = extent.instances := by
    rw [← prod_toList, ← prod_toList, hperm.prod_eq]
  rw [wordCount?, wordCount?, hinstances]

/-- The count comes to a number if the first two sizes are a word together, and all three are. -/
theorem count?_eq_some_iff (hfits : extent.Fits) :
    extent.count? = some total ↔ extent.instances = total ∧
      extent.width * extent.height < wordLimit ∧ extent.instances < wordLimit := by
  have hwidth : extent.width < wordLimit := hfits _ List.mem_cons_self
  rw [count?, foldlM_timesWord?_eq_some_iff, Nat.one_mul, prod_toList]
  refine and_congr_right fun _ ↦ ?_
  simp only [Nat.one_mul, toList, List.prefix_cons_iff, List.prefix_nil]
  constructor
  · intro hfronts
    have hplane := hfronts [extent.width, extent.height] (by simp) (by simp)
    have hwhole := hfronts [extent.width, extent.height, extent.depth] (by simp) (by simp)
    exact ⟨by simpa using hplane, by simpa [instances, Nat.mul_assoc] using hwhole⟩
  · rintro ⟨hplane, hwhole⟩ front hfront hne
    rcases hfront with rfl | ⟨_, rfl, rfl | ⟨_, rfl, rfl | ⟨_, rfl, rfl⟩⟩⟩
    · exact absurd rfl hne
    · simpa using hwidth
    · simpa using hplane
    · simpa [instances, Nat.mul_assoc] using hwhole

theorem count?_eq_none (hlate : extent.EmptyTooLate) (hfits : extent.Fits) :
    extent.count? = none := by
  rw [Option.eq_none_iff_forall_ne_some]
  intro total hcount
  exact absurd ((count?_eq_some_iff hfits).1 hcount).2.1 (Nat.not_lt.2 hlate.2)

theorem count?_eq_wordCount? (htimely : ¬ extent.EmptyTooLate) (hfits : extent.Fits) :
    extent.count? = extent.wordCount? := by
  have hplane (hwhole : extent.instances < wordLimit) :
      extent.width * extent.height < wordLimit := by
    rcases Nat.eq_zero_or_pos extent.depth with hdepth | hdepth
    · exact Nat.lt_of_not_le fun hle ↦ htimely ⟨hdepth, hle⟩
    · exact Nat.lt_of_le_of_lt (Nat.le_mul_of_pos_right _ hdepth) hwhole
  apply Option.ext
  intro total
  rw [count?_eq_some_iff hfits, wordCount?_eq_some_iff]
  exact ⟨fun ⟨htotal, _, hwhole⟩ ↦ ⟨hwhole, htotal⟩,
    fun ⟨hwhole, htotal⟩ ↦ ⟨htotal, hplane hwhole, hwhole⟩⟩

/-- The exact count of an empty launch is nothing. -/
theorem EmptyTooLate.wordCount?_eq (hlate : extent.EmptyTooLate) :
    extent.wordCount? = some 0 := by
  have hempty : extent.instances = 0 := by rw [instances, hlate.1, Nat.mul_zero]
  rw [wordCount?_eq_some_iff, hempty]
  exact ⟨by decide, rfl⟩

/-- A count is the exact number of instances where that is a word, and no number elsewhere, for
every launch but those that are empty in their last dimension only after the first two have outgrown
the words; of these nothing is counted. So nothing is what is counted of exactly the other empty
launches, and the order of the sizes matters only where it brings an empty dimension last. -/
theorem count?_exact (hfits : extent.Fits) :
    (extent.count? = extent.wordCount? ↔ ¬ extent.EmptyTooLate) ∧
      (extent.EmptyTooLate → extent.count? = none) ∧
      (extent.count? = some 0 ↔ extent.isEmpty = true ∧ ¬ extent.EmptyTooLate) ∧
      ∀ other : Extent, other.toList.Perm extent.toList → ¬ extent.EmptyTooLate →
        (other.count? = extent.count? ↔ ¬ other.EmptyTooLate) := by
  have hexact {extent : Extent} (hfits : extent.Fits) :
      extent.count? = extent.wordCount? ↔ ¬ extent.EmptyTooLate := by
    refine ⟨fun hcount hlate ↦ ?_, fun htimely ↦ count?_eq_wordCount? htimely hfits⟩
    rw [count?_eq_none hlate hfits, hlate.wordCount?_eq] at hcount
    exact absurd hcount (by simp)
  refine ⟨hexact hfits, fun hlate ↦ count?_eq_none hlate hfits, ?_, ?_⟩
  · rw [isEmpty_iff]
    constructor
    · intro hcount
      refine ⟨((count?_eq_some_iff hfits).1 hcount).1, fun hlate ↦ ?_⟩
      rw [count?_eq_none hlate hfits] at hcount
      exact absurd hcount (by simp)
    · rintro ⟨hempty, htimely⟩
      rw [count?_eq_wordCount? htimely hfits, wordCount?_eq_some_iff, hempty]
      exact ⟨by decide, rfl⟩
  · intro other hperm htimely
    have hothers : other.Fits := fun size hsize ↦ hfits size (hperm.subset hsize)
    rw [count?_eq_wordCount? htimely hfits, ← wordCount?_of_perm hperm]
    exact hexact hothers

/-- A launch of which the exact number of instances is counted, and one with the same sizes in
another order of which nothing is. -/
theorem count?_exact_slab :
    Fits ⟨0, 2 ^ 33, 2 ^ 33⟩ ∧
      count? ⟨0, 2 ^ 33, 2 ^ 33⟩ = wordCount? ⟨0, 2 ^ 33, 2 ^ 33⟩ ∧
      count? ⟨2 ^ 33, 2 ^ 33, 0⟩ ≠ count? ⟨0, 2 ^ 33, 2 ^ 33⟩ := by
  have hfits : Fits ⟨0, 2 ^ 33, 2 ^ 33⟩ := by simp [Fits, toList]; decide
  have htimely : ¬ EmptyTooLate ⟨0, 2 ^ 33, 2 ^ 33⟩ := by simp [EmptyTooLate]
  have hlate : EmptyTooLate ⟨2 ^ 33, 2 ^ 33, 0⟩ := ⟨rfl, by decide⟩
  obtain ⟨hexact, -, -, horder⟩ := count?_exact hfits
  refine ⟨hfits, hexact.2 htimely, fun hsame ↦ ?_⟩
  exact (horder ⟨2 ^ 33, 2 ^ 33, 0⟩ (by decide) htimely).1 hsame hlate

/-- A launch without instances, and no number for them. -/
theorem count?_gives_up_on_empty :
    count? ⟨2 ^ 33, 2 ^ 33, 0⟩ = none ∧ isEmpty ⟨2 ^ 33, 2 ^ 33, 0⟩ = true ∧
      wordCount? ⟨2 ^ 33, 2 ^ 33, 0⟩ = some 0 := by
  decide

end Offload.Extent
