import Offload.Proofs.Heap.Soundness

/-!
# Loaded libraries

An entry of a library can only be entered while the library is loaded. A kernel keeps the module
alive whose own code defines its entry, and that code is a library, a table of routines of the host
program, or parts whose modules are alive as well.
-/

namespace Offload

/-- The library file an entry is in. -/
def Entry.file? : Entry → Option String
  | .host _ => none
  | .library file _ => some file

/-- Whether the library a job enters, if it enters one, is among some files. -/
def Job.Within (files : List String) (job : Job) : Prop :=
  ∀ entry invocation file, job.work = .enter entry invocation → entry.file? = some file →
    file ∈ files

namespace Code

/-- A part that defines what a list of parts defines. -/
theorem resolveParts_eq_some {name : String} {parts : List (ObjectId × String × Code)}
    {entry : Entry} (hresolve : resolveParts name parts = some entry) :
    ∃ part ∈ parts, resolve name part.2.2 = some entry := by
  induction parts with
  | nil => exact absurd hresolve (by simp [resolveParts])
  | cons part rest ih =>
    obtain ⟨id, source, code⟩ := part
    rw [resolveParts] at hresolve
    split at hresolve
    · next found hfound =>
      obtain rfl := Option.some.inj hresolve
      exact ⟨_, List.mem_cons_self, hfound⟩
    · obtain ⟨part, hpart, hfound⟩ := ih hresolve
      exact ⟨part, List.mem_cons_of_mem _ hpart, hfound⟩

end Code

namespace Heap

variable {heap : Heap} {id : ObjectId} {file : String}

theorem mem_files_iff (horder : heap.Ordered) :
    file ∈ heap.files ↔ ∃ id module, heap.get? id = some (.module (.host module)) ∧
      module.code.file? = some file := by
  simp only [files, List.mem_filterMap, horder.mem_values_iff]
  constructor
  · rintro ⟨object, ⟨id, hget⟩, hfile⟩
    split at hfile
    · next module => exact ⟨id, module, hget, hfile⟩
    · exact absurd hfile (by simp)
  · rintro ⟨id, module, hget, hfile⟩
    exact ⟨_, ⟨id, hget⟩, hfile⟩

/-- The library of an entry that a module defines is loaded. -/
theorem Sound.mem_files_of_resolve (hsound : heap.Sound) {module : HostModule} {name : String}
    {entry : Entry} (hget : heap.get? id = some (.module (.host module)))
    (hresolve : module.code.resolve name = some entry) (hfile : entry.file? = some file) :
    file ∈ heap.files := by
  induction id using Nat.strongRecOn generalizing module with
  | ind id ih =>
    obtain ⟨hplain, hparts⟩ := hsound.supported hget
    have holder := hsound.layered.older hget
    cases hcode : module.code with
    | library loaded exports =>
      rw [hcode, Code.resolve, Code.resolveLibrary] at hresolve
      split at hresolve
      · split at hresolve
        · obtain rfl := Option.some.inj hresolve
          obtain rfl := Option.some.inj hfile
          exact (mem_files_iff hsound.layered.ordered).2 ⟨id, module, hget, by rw [hcode]; rfl⟩
        · exact absurd hresolve (by simp)
      · exact absurd hresolve (by simp)
    | symbols routines =>
      rw [hcode] at hplain
      rw [hcode, Code.resolve, Code.resolveSymbols] at hresolve
      obtain ⟨routine, hroutine, rfl⟩ := Option.map_eq_some_iff.1 hresolve
      obtain ⟨called, hcalled⟩ := hplain routine (List.mem_of_find?_eq_some hroutine)
      rw [hcalled] at hfile
      exact absurd hfile (by simp [Entry.file?])
    | composite parts =>
      rw [hcode, Code.resolve] at hresolve
      obtain ⟨part, hpart, hfound⟩ := Code.resolveParts_eq_some hresolve
      have hmem : part ∈ module.code.parts := by
        rw [hcode]
        exact hpart
      obtain ⟨source, hsource, -, hsame⟩ := hparts part hmem
      have hheld : part.1 ∈ (Object.module (.host module)).holds := List.mem_map_of_mem hmem
      exact ih part.1 (holder part.1 hheld) hsource (hsame ▸ hfound)

/-- The library a job enters is loaded while the job has what it relies on. -/
theorem Sound.within (hsound : heap.Sound) {job : Job} (hjob : job.Supported heap.get?) :
    job.Within heap.files := by
  intro entry invocation file hwork hfile
  obtain ⟨id, -, kernel, hget, rfl⟩ := hjob.entry entry invocation hwork
  obtain ⟨-, owner, howner, hresolve⟩ := hsound.supported hget
  exact hsound.mem_files_of_resolve howner hresolve hfile

/-- A collection loads no library. -/
theorem files_collect_subset (hlayered : heap.Layered) (roots : List ObjectId) :
    (heap.collect roots).files ⊆ heap.files := by
  intro file hfile
  have horder := (layered_collect hlayered roots).ordered
  obtain ⟨id, module, hget, hloaded⟩ := (mem_files_iff horder).1 hfile
  obtain ⟨-, other, hother, houtline⟩ := get?_of_get?_collect hlayered hget
  obtain ⟨peers, rfl⟩ := Object.eq_of_outline_hostModule houtline
  exact (mem_files_iff hlayered.ordered).2 ⟨id, _, hother, hloaded⟩

end Heap

end Offload
