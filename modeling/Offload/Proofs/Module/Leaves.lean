import Offload.Object

/-!
# What modules are made of

A module that was linked from others consists of its parts, and these may again have been linked from
others. In the end it consists of leaves: modules with code of their own. Looking up a name part by part
comes to the same as looking it up leaf by leaf, from left to right, so it makes no difference how the
leaves were put together, or how often each of them.
-/

namespace Offload

namespace Code

mutual

/-- What code consists of in the end, each piece with its module and its name. -/
def leaves (id : ObjectId) (name : String) : Code → List (ObjectId × String × Code)
  | .library file exports => [(id, name, .library file exports)]
  | .symbols routines => [(id, name, .symbols routines)]
  | .composite parts => leavesOf parts

/-- What several parts consist of in the end. -/
def leavesOf : List (ObjectId × String × Code) → List (ObjectId × String × Code)
  | [] => []
  | (id, name, code) :: rest => leaves id name code ++ leavesOf rest

end

/-- Whether code is not put together from parts. -/
def IsLeaf (code : Code) : Prop := ∀ parts, code ≠ .composite parts

variable {id : ObjectId} {name : String} {code : Code}

theorem IsLeaf.leaves_eq (hleaf : code.IsLeaf) : code.leaves id name = [(id, name, code)] := by
  cases code with
  | composite parts => exact absurd rfl (hleaf parts)
  | _ => rw [leaves]

theorem leavesOf_eq_flatMap (parts : List (ObjectId × String × Code)) :
    leavesOf parts = parts.flatMap fun part ↦ part.2.2.leaves part.1 part.2.1 := by
  induction parts with
  | nil => rw [leavesOf, List.flatMap_nil]
  | cons part rest ih =>
    obtain ⟨id, name, code⟩ := part
    rw [leavesOf, ih, List.flatMap_cons]

theorem leaves_composite (parts : List (ObjectId × String × Code)) :
    (composite parts).leaves id name =
      parts.flatMap fun part ↦ part.2.2.leaves part.1 part.2.1 := by
  rw [leaves, leavesOf_eq_flatMap]

mutual

/-- The entry of a name is that of the first leaf that defines it. -/
theorem resolve_eq_findSome? (symbol : String) (id : ObjectId) (name : String) (code : Code) :
    code.resolve symbol = (code.leaves id name).findSome? (·.2.2.resolve symbol) := by
  cases code with
  | composite parts =>
    rw [resolve, leaves]
    exact resolveParts_eq_findSome? symbol parts
  | library | symbols => rw [leaves, List.findSome?_singleton]

theorem resolveParts_eq_findSome? (symbol : String) (parts : List (ObjectId × String × Code)) :
    resolveParts symbol parts = (leavesOf parts).findSome? (·.2.2.resolve symbol) := by
  match parts with
  | [] => rw [resolveParts, leavesOf, List.findSome?_nil]
  | (id, name, code) :: rest =>
    rw [resolveParts, leavesOf, List.findSome?_append, ← resolveParts_eq_findSome? symbol rest,
      ← resolve_eq_findSome? symbol id name code]
    cases code.resolve symbol <;> rfl

end

end Code

/-! ## Modules as they are made -/

/-- A module that is put together from parts has one at least, and is named after all of them. -/
def HostModule.NamedAfterParts (module : HostModule) : Prop :=
  ∀ parts, module.code = .composite parts →
    parts ≠ [] ∧ module.name = "+".intercalate (parts.map (·.2.1))

/-- A module as it was made: it has no peers yet. -/
structure HostModule.AsMade (module : HostModule) : Prop where
  peers : module.peers = []
  named : module.NamedAfterParts

theorem HostModule.asMade_of_isLeaf {module : HostModule} (hpeers : module.peers = [])
    (hleaf : module.code.IsLeaf) : module.AsMade :=
  ⟨hpeers, fun parts hparts ↦ absurd hparts (hleaf parts)⟩

/-! ## Names of names -/

/-- Joining lists of texts and then what comes of them joins all of the texts. -/
theorem intercalate_flatMap {α : Type} (separator : String) {values : List α} {texts : α → List String}
    (htexts : ∀ value ∈ values, texts value ≠ []) :
    separator.intercalate (values.map fun value ↦ separator.intercalate (texts value)) =
      separator.intercalate (values.flatMap texts) := by
  induction values with
  | nil => rfl
  | cons value rest ih =>
    obtain ⟨hvalue, hrest⟩ := List.forall_mem_cons.1 htexts
    rw [List.map_cons, List.flatMap_cons]
    cases rest with
    | nil => simp
    | cons other others =>
      have hmore : (other :: others).flatMap texts ≠ [] := by
        rw [List.flatMap_cons]
        exact List.append_ne_nil_of_left_ne_nil (hrest other List.mem_cons_self) _
      rw [String.intercalate_append_of_ne_nil hvalue hmore, ← ih hrest,
        String.intercalate_cons_of_ne_nil (by simp)]

end Offload
