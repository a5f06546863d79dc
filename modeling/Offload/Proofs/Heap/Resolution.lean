import Offload.Proofs.Heap.Files
import Offload.Proofs.Heap.Leaves

/-!
# Names and the modules behind them

A module that was linked from others keeps a copy of their code beside their numbers. What a name
stands for can also be looked up through the modules themselves, each part in turn, and in a sound
heap both ways agree: every module that such a lookup comes by is alive. So a kernel of the host is
backed by living modules: the one it was asked from, and its owner, whose own code still defines the
entry.
-/

namespace Offload.Heap

mutual

/-- What a name stands for in the own code of a module, looked up through its living parts. -/
inductive Finds (heap : Heap) (name : String) : ObjectId → Option Entry → Prop where
  | library {id : ObjectId} {module : HostModule} {file : String} {exports : List String}
    (hmodule : heap.hostModule? id = some module) (hcode : module.code = .library file exports) :
    Finds heap name id (Code.resolveLibrary file exports name)
  | symbols {id : ObjectId} {module : HostModule} {routines : List (String × Entry)}
    (hmodule : heap.hostModule? id = some module) (hcode : module.code = .symbols routines) :
    Finds heap name id (Code.resolveSymbols routines name)
  | composite {id : ObjectId} {module : HostModule} {parts : List (ObjectId × String × Code)}
    {found : Option Entry} (hmodule : heap.hostModule? id = some module)
    (hcode : module.code = .composite parts)
    (hfirst : FindsFirst heap name (parts.map (·.1)) found) : Finds heap name id found

/-- What a name stands for in the first of several modules that defines it. -/
inductive FindsFirst (heap : Heap) (name : String) : List ObjectId → Option Entry → Prop where
  | none : FindsFirst heap name [] none
  | here {id : ObjectId} {rest : List ObjectId} {entry : Entry}
    (hfound : Finds heap name id (some entry)) : FindsFirst heap name (id :: rest) (some entry)
  | later {id : ObjectId} {rest : List ObjectId} {found : Option Entry}
    (hmissing : Finds heap name id .none) (hlater : FindsFirst heap name rest found) :
    FindsFirst heap name (id :: rest) found

end

variable {heap : Heap} {name : String} {id : ObjectId} {found : Option Entry}

/-- When each part is found as its copy says, the first of them is as well. -/
theorem findsFirst_iff {parts : List (ObjectId × String × Code)}
    (hparts : ∀ part ∈ parts, ∀ found,
      heap.Finds name part.1 found ↔ part.2.2.resolve name = found) :
    heap.FindsFirst name (parts.map (·.1)) found ↔ Code.resolveParts name parts = found := by
  induction parts generalizing found with
  | nil =>
    constructor
    · rintro ⟨⟩
      rfl
    · rintro rfl
      exact .none
  | cons part rest ih =>
    obtain ⟨part, source, code⟩ := part
    have hhead := hparts _ List.mem_cons_self
    have hrest := @ih found fun part hpart ↦ hparts part (List.mem_cons_of_mem _ hpart)
    rw [List.map_cons, Code.resolveParts]
    constructor
    · intro hfinds
      cases hfinds with
      | here hfound => rw [(hhead _).1 hfound]
      | later hmissing hlater =>
        rw [(hhead _).1 hmissing]
        exact hrest.1 hlater
    · intro hresolve
      cases hcode : code.resolve name with
      | some entry =>
        rw [hcode] at hresolve
        exact hresolve ▸ .here ((hhead _).2 hcode)
      | none =>
        rw [hcode] at hresolve
        exact .later ((hhead _).2 hcode) (hrest.2 hresolve)

/-- In a sound heap a lookup through living parts gives what the module's copy of their code says. -/
theorem Sound.finds_iff (hsound : heap.Sound) :
    heap.Finds name id found ↔
      ∃ module, heap.hostModule? id = some module ∧ module.code.resolve name = found := by
  -- The parts of a module are older than it is.
  induction id using Nat.strongRecOn generalizing found with
  | ind id ih =>
    have hparts {module : HostModule} {parts : List (ObjectId × String × Code)}
        (hmodule : heap.hostModule? id = some module) (hcode : module.code = .composite parts) :
        ∀ part ∈ parts, ∀ found, heap.Finds name part.1 found ↔ part.2.2.resolve name = found := by
      intro part hpart found
      obtain ⟨holder, source, hsource, -, hsame⟩ := hsound.part hmodule hcode part hpart
      rw [ih part.1 holder, ← hsame]
      constructor
      · rintro ⟨other, hother, hresolve⟩
        obtain rfl := Option.some.inj (hsource.symm.trans hother)
        exact hresolve
      · exact fun hresolve ↦ ⟨source, hsource, hresolve⟩
    constructor
    · intro hfinds
      cases hfinds with
      | library hmodule hcode | symbols hmodule hcode =>
        exact ⟨_, hmodule, by rw [hcode, Code.resolve]⟩
      | composite hmodule hcode hfirst =>
        refine ⟨_, hmodule, ?_⟩
        rw [hcode, Code.resolve]
        exact (findsFirst_iff (hparts hmodule hcode)).1 hfirst
    · rintro ⟨module, hmodule, rfl⟩
      cases hcode : module.code with
      | library file exports =>
        rw [Code.resolve]
        exact .library hmodule hcode
      | symbols routines =>
        rw [Code.resolve]
        exact .symbols hmodule hcode
      | composite parts =>
        rw [Code.resolve]
        exact .composite hmodule hcode ((findsFirst_iff (hparts hmodule hcode)).2 rfl)

/-- What backs a kernel of the host. -/
structure Backs (heap : Heap) (kernel : HostKernel) : Prop where
  /-- The module it was asked from is alive. -/
  asked : ∃ module, heap.hostModule? kernel.module = some module
  /-- Its owner is alive, and the owner's own code gives the name of the kernel its entry. -/
  owner : ∃ owner, heap.hostModule? kernel.owner = some owner ∧
    owner.code.resolve kernel.name = some kernel.entry
  /-- So it does when every part is looked up in the living module that it came from. -/
  finds : ∀ found, heap.Finds kernel.name kernel.owner found ↔ found = some kernel.entry
  /-- A library that the entry is in is loaded. -/
  loaded : ∀ file, kernel.entry.file? = some file → file ∈ heap.files

/-- Every kernel of the host is backed. -/
theorem Sound.backs (hsound : heap.Sound) {kernel : HostKernel}
    (hkernel : heap.kernel? id = some (.host kernel)) : heap.Backs kernel := by
  obtain ⟨⟨asked, hasked⟩, owner, howner, hresolve⟩ :=
    hsound.supported (kernel?_eq_some.1 hkernel)
  have hmodule := hostModule?_eq_some.2 howner
  refine ⟨⟨asked, hostModule?_eq_some.2 hasked⟩, ⟨owner, hmodule, hresolve⟩, fun found ↦ ?_,
    fun file ↦ hsound.mem_files_of_resolve howner hresolve⟩
  rw [hsound.finds_iff, ← hresolve]
  constructor
  · rintro ⟨other, hother, rfl⟩
    obtain rfl := Option.some.inj (hmodule.symm.trans hother)
    rfl
  · rintro rfl
    exact ⟨owner, hmodule, rfl⟩

end Offload.Heap
