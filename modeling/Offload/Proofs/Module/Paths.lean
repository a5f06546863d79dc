import Mathlib.Data.List.Basic
import Offload.Session.Operations

/-!
# The file a module path names

Whether a path is a bare name is decided on its components, and the file is made from its text. The
two agree on every path but those with one component and something behind it that is none: a slash,
or segments that are a dot. Such a path is taken for a bare name although it holds a slash.
Whatever the file is, it is the one the loader is asked for, and it names itself.
-/

namespace Offload

/-- Whether a component has an extension. Only a name can have one. -/
def PathComponent.hasExtension : PathComponent → Bool
  | .name text => ModulePath.hasExtension text
  | _ => false

namespace ModulePath

variable {path first text : List Char} {rest : List (List Char)}

/-! ## Segments -/

theorem segments_eq_splitOn (path : List Char) : segments path = path.splitOn '/' := by
  induction path with
  | nil => rfl
  | cons character rest ih =>
    rw [segments, List.splitOn_cons_eq_if_modifyHead, ih]
    by_cases hslash : character = '/'
    · rw [if_pos hslash, if_pos (beq_iff_eq.2 hslash)]
    · rw [if_neg hslash, if_neg (mt beq_iff_eq.1 hslash)]
      cases hsplit : rest.splitOn '/' with
      | nil => exact absurd hsplit (List.splitOn_ne_nil _ _)
      | cons first others => rfl

theorem segments_of_notMem (hslash : '/' ∉ path) : segments path = [path] := by
  rw [segments_eq_splitOn, List.splitOn_eq_singleton hslash]

theorem segments_append_slash (hslash : '/' ∉ first) (path : List Char) :
    segments (first ++ '/' :: path) = first :: segments path := by
  rw [segments_eq_splitOn, List.splitOn_append_cons_self_of_not_mem hslash, segments_eq_splitOn]

/-- A path is its first segment, with or without a slash and further segments behind it. -/
theorem segments_cases (hsegments : segments path = first :: rest) :
    (path = first ∧ '/' ∉ path ∧ rest = []) ∨
      ∃ tail, path = first ++ '/' :: tail ∧ '/' ∉ first ∧ rest = segments tail := by
  by_cases hslash : '/' ∈ path
  · obtain ⟨front, tail, rfl, hfront⟩ := List.eq_append_cons_of_mem hslash
    rw [segments_append_slash hfront] at hsegments
    obtain ⟨rfl, rfl⟩ := List.cons.inj hsegments
    exact .inr ⟨tail, rfl, hfront, rfl⟩
  · rw [segments_of_notMem hslash] at hsegments
    obtain ⟨rfl, rfl⟩ := List.cons.inj hsegments
    exact .inl ⟨rfl, hslash, rfl⟩

/-- A path holds a slash if it has a segment behind the first. -/
theorem mem_slash_iff (hsegments : segments path = first :: rest) : '/' ∈ path ↔ rest ≠ [] := by
  rcases segments_cases hsegments with ⟨-, hslash, rfl⟩ | ⟨tail, rfl, -, rfl⟩
  · simpa using hslash
  · simp [segments_eq_splitOn, List.splitOn_ne_nil]

/-- What is put behind a path, and holds no slash, is part of its last segment. -/
theorem getLast?_segments_append (path : List Char) (hslash : '/' ∉ text) :
    ∃ segment, (segments (path ++ text)).getLast? = some (segment ++ text) := by
  induction path with
  | nil => exact ⟨[], by rw [List.nil_append, segments_of_notMem hslash]; rfl⟩
  | cons character path ih =>
    obtain ⟨segment, hlast⟩ := ih
    rw [List.cons_append, segments]
    split
    · exact ⟨segment, by rw [List.getLast?_cons, hlast]; rfl⟩
    · split
      · next hnil => simp [hnil] at hlast
      · next last others hsegments =>
        rw [hsegments] at hlast
        cases others with
        | nil =>
          obtain rfl : last = segment ++ text := by simpa using hlast
          exact ⟨character :: segment, rfl⟩
        | cons other others => exact ⟨segment, by simpa using hlast⟩

/-! ## Components -/

/-- The component that the first segment of a path stands for. -/
def leading (segment : List Char) : PathComponent :=
  if segment = [] then .root
  else if segment = ['.'] then .current
  else if segment = ['.', '.'] then .parent
  else .name segment

theorem componentOf?_of_ne (hempty : text ≠ []) (hdot : text ≠ ['.']) :
    componentOf? text = some (leading text) := by
  rw [componentOf?, if_neg (by simp [hempty, hdot]), leading, if_neg hempty, if_neg hdot]
  split <;> rfl

/-- The first segment of a path that is not empty stands for a component, whatever it is. -/
theorem components_eq (hpath : path ≠ []) (hsegments : segments path = first :: rest) :
    components path = leading first :: rest.filterMap componentOf? := by
  have hfirst (hrelative : path.head? ≠ some '/') : first ≠ [] := by
    rintro rfl
    rcases segments_cases hsegments with ⟨rfl, -, -⟩ | ⟨tail, rfl, -, -⟩
    · exact hpath rfl
    · exact hrelative rfl
  unfold components
  rw [hsegments]
  split
  · next tail =>
    obtain ⟨rfl, rfl⟩ : [] = first ∧ segments tail = rest := by simpa [segments] using hsegments
    rfl
  · next hlist =>
    obtain ⟨rfl, rfl⟩ := List.cons.inj hlist
    rfl
  · next hrelative hdot =>
    have hempty : first ≠ [] := hfirst fun hhead ↦ by
      obtain ⟨tail, rfl⟩ := List.head?_eq_some_iff.1 hhead
      exact hrelative tail rfl
    rw [List.filterMap_cons_some (componentOf?_of_ne hempty fun heq ↦ hdot rest (by rw [heq]))]

/-! ## Bare names -/

theorem isBare_iff : isBare path = true ↔
    ∃ component, components path = [component] ∧ component.hasExtension = false := by
  unfold isBare
  split
  · next name hcomponents => simp [hcomponents, PathComponent.hasExtension]
  · next component hname hcomponents =>
    cases component with
    | name text => exact absurd rfl (hname text)
    | root | current | parent => simp [hcomponents, PathComponent.hasExtension]
  · next hcomponents => simpa using fun component hsingle ↦ absurd hsingle (hcomponents component)

theorem isBare_iff_of_segments (hpath : path ≠ []) (hsegments : segments path = first :: rest) :
    isBare path = true ↔ (∀ segment ∈ rest, segment = [] ∨ segment = ['.']) ∧
      (leading first).hasExtension = false := by
  have hnone (segment : List Char) :
      componentOf? segment = none ↔ segment = [] ∨ segment = ['.'] := by
    refine ⟨fun hnone ↦ ?_, fun hblank ↦ if_pos hblank⟩
    by_contra hother
    obtain ⟨hempty, hdot⟩ := not_or.1 hother
    rw [componentOf?_of_ne hempty hdot] at hnone
    exact absurd hnone (by simp)
  simp only [isBare_iff, components_eq hpath hsegments, List.cons.injEq,
    List.filterMap_eq_nil_iff, hnone]
  exact ⟨fun ⟨_, ⟨rfl, hrest⟩, hextension⟩ ↦ ⟨hrest, hextension⟩,
    fun ⟨hrest, hextension⟩ ↦ ⟨_, ⟨rfl, hrest⟩, hextension⟩⟩

/-- Whether a path is the name of a file: it holds a slash, or its last component has an
extension. -/
def NamesFile (path : List Char) : Prop :=
  '/' ∈ path ∨
    ∃ component, (components path).getLast? = some component ∧ component.hasExtension = true

/-- Whether a path holds a slash and is a single component all the same, without an extension: what
stands behind its first segment are slashes and segments that are a dot. -/
def Dangles (path : List Char) : Prop :=
  ∃ first rest, segments path = first :: rest ∧ rest ≠ [] ∧
    (∀ segment ∈ rest, segment = [] ∨ segment = ['.']) ∧ (leading first).hasExtension = false

theorem exists_segments (path : List Char) : ∃ first rest, segments path = first :: rest := by
  rw [segments_eq_splitOn]
  exact List.exists_cons_of_ne_nil (List.splitOn_ne_nil _ _)

theorem Dangles.slash (hdangles : Dangles path) : '/' ∈ path := by
  obtain ⟨first, rest, hsegments, hrest, -⟩ := hdangles
  exact (mem_slash_iff hsegments).2 hrest

theorem Dangles.namesFile (hdangles : Dangles path) : NamesFile path := .inl hdangles.slash

/-- The paths that are taken for bare names: those that name no file, and those that dangle. -/
theorem isBare_iff_dangles (hpath : path ≠ []) :
    isBare path = true ↔ Dangles path ∨ ¬ NamesFile path := by
  obtain ⟨first, rest, hsegments⟩ := exists_segments path
  rw [isBare_iff_of_segments hpath hsegments]
  have hslash := mem_slash_iff hsegments
  by_cases hrest : rest = []
  · -- The only segment is the only component.
    subst hrest
    have hlast : NamesFile path ↔ (leading first).hasExtension = true := by
      simp [NamesFile, hslash, components_eq hpath hsegments]
    simp [Dangles, hsegments, hlast]
  · have hnames : NamesFile path := .inl (hslash.2 hrest)
    simp [Dangles, hsegments, hrest, hnames]

/-! ## Files -/

/-- The file a path names is not a bare name: where `.so` is put behind a path, it gives the only
component an extension or the path a second component. -/
theorem isBare_file (path : String) : isBare (file path).toList = false := by
  unfold file
  split
  · rw [Bool.eq_false_iff]
    intro hbare
    have htext : ("lib" ++ path ++ ".so").toList =
        'l' :: (['i', 'b'] ++ path.toList ++ ".so".toList) := by
      simp
    obtain ⟨first, rest, hsegments⟩ := exists_segments ("lib" ++ path ++ ".so").toList
    obtain ⟨hrest, hextension⟩ := (isBare_iff_of_segments (by simp) hsegments).1 hbare
    rcases segments_cases hsegments with ⟨hfirst, -, -⟩ | ⟨tail, -, -, htail⟩
    · rw [← hfirst, htext] at hextension
      simp [leading, PathComponent.hasExtension, hasExtension] at hextension
    · obtain ⟨segment, hlast⟩ := getLast?_segments_append ("lib" ++ path).toList
        (by decide : '/' ∉ ".so".toList)
      obtain ⟨second, others, hothers⟩ := exists_segments tail
      rw [← String.toList_append, hsegments, htail, hothers, List.getLast?_cons_cons] at hlast
      have hmem : segment ++ ".so".toList ∈ rest := htail ▸ hothers ▸ List.mem_of_getLast? hlast
      rcases hrest _ hmem with hblank | hblank
      · simp at hblank
      · simpa using congrArg List.length hblank
  · next hbare => exact Bool.eq_false_iff.2 hbare

/-- The file a path names names itself. -/
theorem file_file (path : String) : file (file path) = file path := by
  rw [file, if_neg (Bool.eq_false_iff.1 (isBare_file path))]

end ModulePath

namespace Session

/-- What comes of a module file that the loader is asked for. -/
def opened (platform : Platform) (path file : String) (options : ModuleOptions) :
    Except Interruption Decision :=
  match platform.library? file with
  | some code => .ok (.create (.module (.host ⟨path, code, options, []⟩)))
  | none => .error (.failure (.moduleLoad file "the loader does not find the file"))

/-- A module of the host is loaded from the file its path names, and the file is noted. -/
theorem run_loadModule {path : String} (hpath : path ≠ "") (platform : Platform)
    (index : Nat) (context : ObjectId) (options : ModuleOptions) (ambient : Ambient) :
    (loadModule platform (.host index context) path options).run.run ambient =
      (opened platform path (ModulePath.file path) options,
        ambient.note [⟨.debug, "Loading CPU module",
          [("path", Quoted.quote path), ("file", ModulePath.file path),
            ("options", options.describe)]⟩]) := by
  have hnonempty : path.isEmpty = false := by simpa using hpath
  unfold loadModule opened
  simp only [hnonempty]
  cases platform.library? (ModulePath.file path) <;> rfl

/-- A module of the host is loaded from the file that its path names, and the loader is asked for
no other. A path that holds a slash, or whose last component has an extension, is that file, and
any other path is a bare name, for which the library of that name is the file: this holds of
exactly the paths that do not dangle. A path that dangles is taken for a bare name, slash and all.
The file names itself, for every path. -/
theorem loadModule_resolves_path {path : String} (hpath : path ≠ "") (platform : Platform)
    (index : Nat) (context : ObjectId) (options : ModuleOptions) (ambient : Ambient) :
    (loadModule platform (.host index context) path options).run.run ambient =
        (opened platform path (ModulePath.file path) options,
          ambient.note [⟨.debug, "Loading CPU module",
            [("path", Quoted.quote path), ("file", ModulePath.file path),
              ("options", options.describe)]⟩]) ∧
      ((ModulePath.NamesFile path.toList → ModulePath.file path = path) ∧
          (¬ ModulePath.NamesFile path.toList → ModulePath.file path = "lib" ++ path ++ ".so") ↔
        ¬ ModulePath.Dangles path.toList) ∧
      (ModulePath.Dangles path.toList →
        '/' ∈ path.toList ∧ ModulePath.file path = "lib" ++ path ++ ".so") ∧
      ModulePath.file (ModulePath.file path) = ModulePath.file path := by
  have hlist : path.toList ≠ [] := by simpa using hpath
  have hbare := ModulePath.isBare_iff_dangles hlist
  have hlibrary (h : ModulePath.isBare path.toList = true) :
      ModulePath.file path = "lib" ++ path ++ ".so" := if_pos h
  have hdangles (h : ModulePath.Dangles path.toList) :
      ModulePath.file path = "lib" ++ path ++ ".so" := hlibrary (hbare.2 (.inl h))
  refine ⟨run_loadModule hpath platform index context options ambient, ⟨?_, ?_⟩, ?_,
    ModulePath.file_file path⟩
  · rintro ⟨hgiven, -⟩ h
    have hlonger := congrArg String.length ((hdangles h).symm.trans (hgiven h.namesFile))
    have hprefix : "lib".length = 3 := rfl
    simp only [String.length_append] at hlonger
    omega
  · intro h
    exact ⟨fun hnames ↦ if_neg fun hpathBare ↦ (hbare.1 hpathBare).elim h fun hnot ↦ hnot hnames,
      fun hnot ↦ hlibrary (hbare.2 (.inr hnot))⟩
  · intro h
    exact ⟨h.slash, hdangles h⟩

/-- A path with a directory and no extension, which is the file itself. -/
theorem loadModule_resolves_path_relative :
    "./kernels" ≠ "" ∧ ModulePath.file "./kernels" = "./kernels" ∧
      (loadModule {} (.host 0 1) "./kernels" {}).run.run {} =
        (.error (.failure (.moduleLoad "./kernels" "the loader does not find the file")),
          ⟨none, [⟨.debug, "Loading CPU module",
            [("path", "\"./kernels\""), ("file", "./kernels"),
              ("options", ({} : ModuleOptions).describe)]⟩]⟩) := by
  have hpath : "./kernels" ≠ "" := by decide
  obtain ⟨hrun, hrule, -, -⟩ := loadModule_resolves_path hpath {} 0 1 {} {}
  have hsegments : ModulePath.segments "./kernels".toList = [['.'], "kernels".toList] := by decide
  have hdangles : ¬ ModulePath.Dangles "./kernels".toList := by
    rintro ⟨first, rest, hother, -, hblank, -⟩
    obtain ⟨rfl, rfl⟩ := List.cons.inj (hsegments.symm.trans hother)
    exact absurd (hblank _ List.mem_cons_self) (by decide)
  have hfile : ModulePath.file "./kernels" = "./kernels" := (hrule.2 hdangles).1 (.inl (by decide))
  rw [hfile] at hrun
  exact ⟨hpath, hfile, hrun.trans rfl⟩

/-- A path that holds a slash, and for which the loader is asked for another file. -/
theorem loadModule_trailing_slash :
    '/' ∈ "kernels/".toList ∧
      ((loadModule {} (.host 0 1) "kernels/" {}).run.run {}).1 =
        .error (.failure (.moduleLoad "libkernels/.so" "the loader does not find the file")) :=
  ⟨by decide, rfl⟩

end Session

end Offload
