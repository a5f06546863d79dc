import Offload.Proofs.Heap.Ranges

/-!
# The range that decides

A tracker searches its ranges from the greatest start at or below an address downwards and stops at
the first one that reaches the address. As the ranges are in order, that one is the innermost of those
that cover the address. The ranges that the search looks at start at or below the address, so the
distance it compares is never negative, and machine words give the same answer as numbers.
-/

namespace Offload

namespace TrackedRange

variable {range : TrackedRange} {address : Nat}

/-- A range covers the addresses from its start up to its end, wherever that end lies. -/
def Covers (range : TrackedRange) (address : Nat) : Prop :=
  range.start ≤ address ∧ address < range.start + range.size

instance (range : TrackedRange) (address : Nat) : Decidable (range.Covers address) :=
  inferInstanceAs (Decidable (_ ∧ _))

/-- Whether the distance of an address from the start of a range, as a difference of machine words,
is below the size of the range. -/
def reachesWord (range : TrackedRange) (address : Nat) : Bool :=
  UInt64.ofNat address - UInt64.ofNat range.start < UInt64.ofNat range.size

theorem reaches_iff_covers (hstart : range.start ≤ address) :
    range.reaches address = true ↔ range.Covers address := by
  rw [reaches, decide_eq_true_iff, Covers]
  omega

/-- Where the range starts at or below the address, the difference of words does not wrap around. -/
theorem reachesWord_iff_covers (hstart : range.start ≤ address) (haddress : address < wordLimit)
    (hsize : range.size < wordLimit) :
    range.reachesWord address = true ↔ range.Covers address := by
  have hwords : UInt64.size = wordLimit := by decide
  have hbelow : UInt64.ofNat range.start ≤ UInt64.ofNat address := by
    rw [UInt64.le_iff_toNat_le, UInt64.toNat_ofNat_of_lt' (by omega),
      UInt64.toNat_ofNat_of_lt' (by omega)]
    exact hstart
  have hdistance : (UInt64.ofNat address - UInt64.ofNat range.start).toNat =
      address - range.start := by
    rw [UInt64.toNat_sub_of_le _ _ hbelow, UInt64.toNat_ofNat_of_lt' (by omega),
      UInt64.toNat_ofNat_of_lt' (by omega)]
  rw [reachesWord, decide_eq_true_iff, UInt64.lt_iff_toNat_lt, hdistance,
    UInt64.toNat_ofNat_of_lt' (by omega), Covers]
  omega

end TrackedRange

namespace RangeTracker

variable {tracker : RangeTracker} {range : TrackedRange} {address : Nat}

/-- The ranges that a search for an address looks at, until one reaches it. -/
def candidates (tracker : RangeTracker) (address : Nat) : List TrackedRange :=
  tracker.ranges.dropWhile (address < ·.start)

/-- The ranges that a search skips are those that start above the address. -/
theorem Sorted.candidates_eq (hsorted : tracker.Sorted) (address : Nat) :
    tracker.candidates address = tracker.ranges.filter (·.start ≤ address) := by
  unfold candidates
  unfold Sorted at hsorted
  generalize tracker.ranges = ranges at hsorted
  induction ranges with
  | nil => rfl
  | cons first rest ih =>
    obtain ⟨hfirst, hrest⟩ := List.pairwise_cons.1 hsorted
    by_cases habove : address < first.start
    · rw [List.dropWhile_cons_of_pos (by simpa using habove),
        List.filter_cons_of_neg (by simpa using habove)]
      exact ih hrest
    · have hstart : first.start ≤ address := Nat.le_of_not_lt habove
      rw [List.dropWhile_cons_of_neg (by simpa using habove), eq_comm, List.filter_eq_self]
      intro other hother
      rcases List.mem_cons.1 hother with rfl | hother
      · simpa using hstart
      · have hbefore := TrackedRange.before_iff.1 (hfirst other hother)
        have hbelow : other.start ≤ address := by omega
        simpa using hbelow

/-- No range that a search looks at starts above the address. -/
theorem Sorted.start_le (hsorted : tracker.Sorted) (hrange : range ∈ tracker.candidates address) :
    range.start ≤ address := by
  rw [hsorted.candidates_eq] at hrange
  simpa using (List.mem_filter.1 hrange).2

/-- A search finds the first range in order that covers the address. -/
theorem Sorted.deciding?_eq (hsorted : tracker.Sorted) (address : Nat) :
    tracker.deciding? address = tracker.ranges.find? fun range ↦ decide (range.Covers address) := by
  have hdeciding : tracker.deciding? address =
      (tracker.candidates address).find? (·.reaches address) := rfl
  rw [hdeciding, hsorted.candidates_eq, List.find?_filter]
  congr 1
  funext range
  rw [decide_eq_decide, decide_eq_true_iff]
  constructor
  · rintro ⟨hstart, hreaches⟩
    exact (TrackedRange.reaches_iff_covers hstart).1 hreaches
  · intro hcovers
    exact ⟨hcovers.1, (TrackedRange.reaches_iff_covers hcovers.1).2 hcovers⟩

/-- The innermost range that covers an address decides its class. -/
theorem Sorted.deciding?_eq_some (hsorted : tracker.Sorted) (hrange : range ∈ tracker.ranges)
    (hcovers : range.Covers address)
    (hinnermost : ∀ other ∈ tracker.ranges, other.Covers address →
      other = range ∨ range.Before other) :
    tracker.deciding? address = some range := by
  rw [hsorted.deciding?_eq, List.find?_eq_some_iff_append]
  obtain ⟨earlier, later, hsplit⟩ := List.append_of_mem hrange
  refine ⟨decide_eq_true hcovers, earlier, later, hsplit, ?_⟩
  intro other hother
  -- A range that comes before the innermost one cannot cover the address as well.
  have hbefore : other.Before range := by
    unfold Sorted at hsorted
    rw [hsplit, List.pairwise_append] at hsorted
    exact hsorted.2.2 other hother range List.mem_cons_self
  rw [Bool.not_eq_true', decide_eq_false_iff_not]
  intro hother'
  have hmem : other ∈ tracker.ranges := hsplit ▸ List.mem_append_left _ hother
  rcases hinnermost other hmem hother' with rfl | hafter
  · exact TrackedRange.Before.irrefl other hbefore
  · exact TrackedRange.Before.irrefl range (hafter.trans hbefore)

/-- Where no range covers an address, none decides. -/
theorem Sorted.deciding?_eq_none (hsorted : tracker.Sorted)
    (hnone : ∀ range ∈ tracker.ranges, ¬range.Covers address) :
    tracker.deciding? address = none := by
  rw [hsorted.deciding?_eq, List.find?_eq_none]
  exact fun range hrange hfound ↦ hnone range hrange (of_decide_eq_true hfound)

/-- Where a range covers an address, one of them is the innermost. -/
theorem Sorted.exists_innermost (hsorted : tracker.Sorted) (hrange : range ∈ tracker.ranges)
    (hcovers : range.Covers address) :
    ∃ found ∈ tracker.ranges, found.Covers address ∧
      ∀ other ∈ tracker.ranges, other.Covers address → other = found ∨ found.Before other := by
  have hsome : (tracker.ranges.find? fun range ↦ decide (range.Covers address)).isSome := by
    rw [List.find?_isSome]
    exact ⟨range, hrange, decide_eq_true hcovers⟩
  obtain ⟨found, hfound⟩ := Option.isSome_iff_exists.1 hsome
  obtain ⟨hfirst, earlier, later, hsplit, hearlier⟩ := List.find?_eq_some_iff_append.1 hfound
  refine ⟨found, List.mem_of_find?_eq_some hfound, of_decide_eq_true hfirst, ?_⟩
  intro other hother hother'
  unfold Sorted at hsorted
  rw [hsplit] at hother hsorted
  rcases List.mem_append.1 hother with hmem | hmem
  · have hskipped := hearlier other hmem
    rw [decide_eq_true hother'] at hskipped
    exact absurd hskipped (by simp)
  · rcases List.mem_cons.1 hmem with rfl | hlater
    · exact .inl rfl
    · exact .inr (List.rel_of_pairwise_cons (List.pairwise_append.1 hsorted).2.1 hlater)

end RangeTracker

end Offload
