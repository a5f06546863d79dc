import Offload.Proofs.Heap.Peers
import Offload.Proofs.Heap.Soundness

/-!
# Leaves on the heap

A composite holds the modules it was linked from, and keeps a copy of their names and code. In a sound
heap copies and modules agree, so the leaves of a composite are modules that are alive, and they can be
told from those of its parts.
-/

namespace Offload.Heap

variable {heap : Heap} {id : ObjectId} {module : HostModule} {name : String}
  {parts : List (ObjectId × String × Code)}

/-- The modules that a module consists of in the end, from left to right. -/
def leaves (heap : Heap) (id : ObjectId) : List ObjectId :=
  match heap.hostModule? id with
  | some module => (module.code.leaves id module.name).map (·.1)
  | none => []

/-- The name of a module of the host; without a module there is none. -/
def nameOf (heap : Heap) (id : ObjectId) : String :=
  match heap.hostModule? id with
  | some module => module.name
  | none => ""

/-- Every module that was put together is named after its parts. -/
def Named (heap : Heap) : Prop :=
  ∀ id module, heap.hostModule? id = some module → module.NamedAfterParts

theorem leaves_of_hostModule (hmodule : heap.hostModule? id = some module) :
    heap.leaves id = (module.code.leaves id module.name).map (·.1) := by
  rw [leaves, hmodule]

theorem nameOf_of_hostModule (hmodule : heap.hostModule? id = some module) :
    heap.nameOf id = module.name := by
  rw [nameOf, hmodule]

theorem Named.insert (hnamed : heap.Named) (hmodule : module.NamedAfterParts) :
    Named (heap.insert (.module (.host module))).1 := by
  intro id other hother
  rw [hostModule?_eq_some, Table.get?_insert] at hother
  split at hother
  · obtain rfl := CodeModule.host.inj (Object.module.inj (Option.some.inj hother))
    exact hmodule
  · exact hnamed id other (hostModule?_eq_some.2 hother)

namespace Sound

/-- A part of a composite is alive, older, and what its copy says. -/
theorem part (hsound : heap.Sound) (hmodule : heap.hostModule? id = some module)
    (hcode : module.code = .composite parts) :
    ∀ part ∈ parts, part.1 < id ∧ ∃ source, heap.hostModule? part.1 = some source ∧
      source.name = part.2.1 ∧ source.code = part.2.2 := by
  intro part hpart
  have hget := hostModule?_eq_some.1 hmodule
  have hmem : part ∈ module.code.parts := by
    rw [hcode]
    exact hpart
  obtain ⟨source, hsource, hname, hsame⟩ := (hsound.supported hget).2 part hmem
  exact ⟨hsound.layered.older hget part.1 (List.mem_map_of_mem hmem), source,
    hostModule?_eq_some.2 hsource, hname, hsame⟩

theorem leaves_composite (hsound : heap.Sound) (hmodule : heap.hostModule? id = some module)
    (hcode : module.code = .composite parts) :
    heap.leaves id = (parts.map (·.1)).flatMap heap.leaves := by
  rw [leaves_of_hostModule hmodule, hcode, Code.leaves_composite, List.map_flatMap,
    List.flatMap_map]
  apply List.flatMap_congr
  intro part hpart
  obtain ⟨-, source, hsource, hname, hsame⟩ := hsound.part hmodule hcode part hpart
  rw [leaves_of_hostModule hsource, hname, hsame]

/-- A leaf is a module that is alive, under the name and with the code that it was linked with. -/
theorem leaf (hsound : heap.Sound) (hmodule : heap.hostModule? id = some module) :
    ∀ leaf ∈ module.code.leaves id module.name, ∃ own, heap.hostModule? leaf.1 = some own ∧
      own.name = leaf.2.1 ∧ own.code = leaf.2.2 ∧ own.code.IsLeaf := by
  -- The parts of a module are older than it is.
  induction id using Nat.strongRecOn generalizing module with
  | ind id ih =>
    intro leaf hleaf
    cases hcode : module.code with
    | library | symbols =>
      rw [hcode, Code.leaves, List.mem_singleton] at hleaf
      subst hleaf
      exact ⟨module, hmodule, rfl, hcode, fun _ hparts ↦ by rw [hcode] at hparts; cases hparts⟩
    | composite parts =>
      rw [hcode, Code.leaves_composite] at hleaf
      obtain ⟨part, hpart, hleaf⟩ := List.mem_flatMap.1 hleaf
      obtain ⟨holder, source, hsource, hname, hsame⟩ := hsound.part hmodule hcode part hpart
      rw [← hname, ← hsame] at hleaf
      exact ih part.1 holder hsource leaf hleaf

/-- A module has leaves, and its name joins theirs. -/
theorem name_eq (hsound : heap.Sound) (hnamed : heap.Named)
    (hmodule : heap.hostModule? id = some module) :
    module.code.leaves id module.name ≠ [] ∧
      module.name = "+".intercalate ((module.code.leaves id module.name).map (·.2.1)) := by
  induction id using Nat.strongRecOn generalizing module with
  | ind id ih =>
    cases hcode : module.code with
    | library | symbols =>
      rw [Code.leaves]
      exact ⟨List.cons_ne_nil _ _, String.intercalate_singleton.symm⟩
    | composite parts =>
      obtain ⟨hparts, hname⟩ := hnamed id module hmodule parts hcode
      have hpart : ∀ part ∈ parts, (part.2.2.leaves part.1 part.2.1).map (·.2.1) ≠ [] ∧
          part.2.1 = "+".intercalate ((part.2.2.leaves part.1 part.2.1).map (·.2.1)) := by
        intro part hpart
        obtain ⟨holder, source, hsource, hname, hsame⟩ := hsound.part hmodule hcode part hpart
        obtain ⟨hleaves, hjoined⟩ := ih part.1 holder hsource
        rw [hname, hsame] at hleaves hjoined
        exact ⟨by simpa using hleaves, hjoined⟩
      rw [Code.leaves_composite]
      constructor
      · obtain ⟨part, hmem⟩ := List.exists_mem_of_ne_nil parts hparts
        have hleaves : part.2.2.leaves part.1 part.2.1 ≠ [] := by simpa using (hpart part hmem).1
        simpa using ⟨part.1, part.2.1, part.2.2, hmem, hleaves⟩
      · rw [hname, List.map_flatMap, ← intercalate_flatMap "+" fun part hmem ↦ (hpart part hmem).1]
        exact congrArg _ (List.map_congr_left fun part hmem ↦ (hpart part hmem).2)

/-- A name in the own code of a module stands for what it stands for in the first leaf that defines
it. -/
theorem resolve_eq (hsound : heap.Sound) (hmodule : heap.hostModule? id = some module) :
    module.code.resolve name = (heap.leaves id).findSome? fun leaf ↦
      (heap.hostModule? leaf).bind (·.code.resolve name) := by
  rw [Code.resolve_eq_findSome? name id module.name, leaves_of_hostModule hmodule,
    List.findSome?_map, ← List.head?_filterMap, ← List.head?_filterMap]
  congr 1
  apply List.filterMap_congr
  intro leaf hleaf
  obtain ⟨own, hown, -, hcode, -⟩ := hsound.leaf hmodule leaf hleaf
  rw [Function.comp_apply, hown, Option.bind_some, hcode]

end Sound

end Offload.Heap
