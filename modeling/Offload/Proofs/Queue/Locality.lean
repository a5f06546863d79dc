import Offload.Kernel.Catalog
import Offload.Proofs.Queue.Agreement

/-!
# Routines on hand are local

Every routine the host program brings along or a loader finds depends on nothing but its arguments,
the memory, the calls recorded so far and the static datum of its own library.
-/

namespace Offload

/-- The static datum of a library is what it was set to, and that of other libraries stays. -/
theorem HostState.static_setStatic (host : HostState) (file other : String) (value : Nat) :
    (host.setStatic file value).static other = if other = file then value else host.static other := by
  unfold static setStatic
  by_cases hother : other = file
  · simp [hother]
  · have hsame : (fun entry : String × Nat ↦ decide ((entry.1 != file) = true ∧
        (entry.1 == other) = true)) = fun entry ↦ entry.1 == other := by
      funext entry
      by_cases hentry : entry.1 = other
      · simp [hentry, hother]
      · simp [hentry]
    rw [List.find?_cons_of_neg (by simpa using Ne.symm hother), List.find?_filter, hsame,
      if_neg hother]

namespace Catalog

variable {file? : Option String} {run : Invocation → HostState → HostState}

/-- A routine that always returns is local if it keeps host states in agreement. -/
theorem local_plain
    (hrun : ∀ files invocation left right, (∀ file, file? = some file → file ∈ files) →
      HostState.Agree files left right →
        (run invocation left).gateOpen = left.gateOpen ∧
          (run invocation left).Agree files (run invocation right)) :
    (plain run).Local file? := by
  intro files invocation left right hfile hgate hagree
  obtain ⟨hkept, hafter⟩ := hrun files invocation left right hfile hagree
  exact ⟨hkept.trans hgate, hafter⟩

/-- Writing the same to the same memory. -/
theorem agree_storeWords {files : List String} {left right : HostState}
    (hagree : left.Agree files right) (invocation : Invocation) (words : List Nat) :
    (storeWords invocation words left).gateOpen = left.gateOpen ∧
      (storeWords invocation words left).Agree files (storeWords invocation words right) := by
  unfold storeWords
  split
  · exact ⟨rfl, hagree⟩
  · exact ⟨rfl, hagree.withMemory (·.write _ _)⟩

theorem local_update (width : Nat) (change : Nat → Nat) :
    (plain (update width change)).Local file? := by
  apply local_plain
  intro files invocation left right _ hagree
  unfold update
  split
  · exact ⟨rfl, hagree⟩
  · exact ⟨rfl, hagree.withMemory fun memory ↦
      memory.writeWord width _ (change (memory.word width _))⟩

theorem local_hostRoutine (name : String) : (hostRoutine name).Local none := by
  unfold hostRoutine
  split
  · exact local_plain fun _ _ _ _ _ hagree ↦ agree_storeWords hagree _ _
  · exact local_update _ _
  · exact local_update _ _
  · apply local_plain
    intro files invocation left right _ hagree
    split
    · exact ⟨rfl, hagree⟩
    · exact ⟨rfl, hagree.withMemory (·.fill _ _ _)⟩
  · exact fun _ _ _ _ _ hgate hagree ↦ ⟨rfl, hgate, hagree⟩
  · exact fun _ _ _ _ _ hgate hagree ↦ ⟨rfl, hgate, hagree⟩
  · exact fun _ _ _ _ _ hgate hagree ↦ ⟨rfl, hgate, hagree⟩
  · intro files invocation left right _ hgate hagree
    simp only [hgate, ← hagree.gate, if_true]
    exact ⟨hgate, hagree⟩
  · apply local_plain
    intro files invocation left right _ hagree
    exact ⟨rfl, hagree.memory, congrArg (· ++ _) hagree.calls, hagree.gate, hagree.statics⟩

/-- A library counts in its own static datum. -/
theorem local_countStatic (file : String) : (plain (countStatic file)).Local (some file) := by
  apply local_plain
  intro files invocation left right hfile hagree
  unfold countStatic
  rw [hagree.statics file (hfile file rfl)]
  have hcounted : (left.setStatic file (right.static file + 1)).Agree files
      (right.setStatic file (right.static file + 1)) := by
    refine ⟨hagree.memory, hagree.calls, hagree.gate, ?_⟩
    intro other hother
    rw [HostState.static_setStatic, HostState.static_setStatic, hagree.statics other hother]
  exact agree_storeWords hcounted _ _

theorem local_libraryRoutine (file symbol : String) :
    (libraryRoutine file symbol).Local (some file) := by
  unfold libraryRoutine
  split
  · exact local_update _ _
  · exact local_update _ _
  · exact local_update _ _
  · exact local_countStatic file
  · exact local_plain fun _ _ _ _ _ hagree ↦ agree_storeWords hagree _ _
  · exact local_plain fun _ _ _ _ _ hagree ↦ ⟨rfl, hagree⟩

/-- Every routine on hand is local. -/
theorem local_routine (entry : Entry) : (routine entry).Local entry.file? := by
  cases entry with
  | host name => exact local_hostRoutine name
  | library file symbol => exact local_libraryRoutine file symbol

end Catalog

end Offload
