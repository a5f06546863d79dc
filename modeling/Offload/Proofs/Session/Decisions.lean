import Offload.Proofs.Deciding
import Offload.Proofs.Session.Soundness
import Offload.Request

/-!
# Decisions rely on what is there

Whatever an operation decides in a sound session relies only on objects that are on its heap. An
operation is proved by the handles it looks up and the effect it ends in.
-/

namespace Offload

open Deciding Heap

variable {α β : Type} {platform : Platform} {session : Session} {find? : ObjectId → Option Object}

/-- A decision whose effect relies on what is there. -/
def Decision.Supported (find? : ObjectId → Option Object) (decision : Decision) : Prop :=
  decision.effect.Supported find?

/-! ## Creations -/

/-- An object that is made outside refers to nothing. -/
theorem supported_of_isOutside {creation : Creation} (houtside : creation.isOutside = true) :
    creation.Supported find? := by
  rintro object hobject
  cases creation with
  | deviceWithContext index => exact absurd hobject (by simp [Creation.object?])
  | queueWithDevice capacity => exact absurd hobject (by simp [Creation.object?])
  | kernel kernel => exact absurd houtside (by simp [Creation.isOutside])
  | future future =>
    obtain rfl := Option.some.inj hobject
    exact Session.Sound.makeable trivial trivial (by simp [Object.kind])
  | context made | device made | view made | module made =>
    obtain rfl := Option.some.inj hobject
    cases made with
    | host => exact absurd houtside (by simp [Creation.isOutside])
    | foreign => exact Session.Sound.makeable trivial trivial (by simp [Object.kind])
  | queue made =>
    obtain rfl := Option.some.inj hobject
    cases made with
    | host => exact absurd houtside (by simp [Creation.isOutside])
    | foreign =>
      refine ⟨trivial, trivial, ?_⟩
      rintro queue heq
      exact absurd (Object.queue.inj heq) (by simp)

theorem supported_of_makeable {creation : Creation} {object : Object}
    (hobject : creation.object? = some object) (hmakeable : object.Makeable find?) :
    creation.Supported find? := by
  intro other hother
  rw [hobject] at hother
  obtain rfl := Option.some.inj hother
  exact hmakeable

theorem supported_of_object?_eq_none {creation : Creation} (hnone : creation.object? = none) :
    creation.Supported find? := by
  intro object hobject
  rw [hnone] at hobject
  exact absurd hobject (by simp)

/-- A new context of the host. -/
theorem supported_hostContext (adopted : Bool) :
    (Creation.context (.host adopted {})).Supported find? :=
  supported_of_makeable rfl (Session.Sound.makeable trivial rfl (by simp [Object.kind]))

namespace Selection

theorem ensures_newHostDevice (index : Nat) :
    (newHostDevice index).Ensures (Creation.Supported find?) := by
  apply ensures_after
  intro _
  apply ensures_after
  intro _
  exact ensures_pure (supported_of_object?_eq_none rfl)

theorem ensures_hostDevice (index : Nat) :
    (hostDevice platform index).Ensures (Creation.Supported find?) := by
  unfold hostDevice
  split
  · exact ensures_newHostDevice index
  · exact ensures_refuse _

theorem ensures_hostContext (native : Option Nat) :
    (hostContext platform native).Ensures (Creation.Supported find?) := by
  unfold hostContext
  split
  · cases native with
    | none => exact ensures_after _ fun _ ↦ ensures_pure (supported_hostContext false)
    | some native => exact ensures_after _ fun _ ↦ ensures_pure (supported_hostContext true)
  · exact ensures_refuse _

theorem supported_foreignDevice {made : Device} (hforeign : made.isForeign = true) :
    (Creation.device made).Supported find? := by
  apply supported_of_isOutside
  cases made with
  | host => exact absurd hforeign (by simp [Device.isForeign])
  | foreign => rfl

theorem supported_foreignContext {made : Context} (hforeign : made.isForeign = true) :
    (Creation.context made).Supported find? := by
  apply supported_of_isOutside
  cases made with
  | host => exact absurd hforeign (by simp [Context.isForeign])
  | foreign => rfl

theorem ensures_newGpuDevice (index : Nat) :
    (newGpuDevice platform index).Ensures fun made ↦ made.isForeign = true := by
  apply ensures_after
  intro count
  split
  · exact ensures_refuse _
  · exact ensures_after _ fun _ ↦ ensures_ofDriver (platform.driver.device_foreign index)

theorem ensures_newGpuContext (index : Nat) :
    (newGpuContext platform index).Ensures fun made ↦ made.isForeign = true :=
  ensures_after _ fun _ ↦ ensures_ofDriver (platform.driver.context_foreign index)

theorem ensures_adoptGpuContext (native : Nat) :
    (adoptGpuContext platform native).Ensures fun made ↦ made.isForeign = true := by
  unfold adoptGpuContext
  split
  · exact ensures_refuse _
  · exact ensures_ofDriver (platform.driver.adopt_foreign native)

theorem Ensures.device {body : Deciding Device}
    (hbody : body.Ensures fun made ↦ made.isForeign = true) :
    (Creation.device <$> body).Ensures (Creation.Supported find?) :=
  ensures_map fun ambient made hmade ↦ supported_foreignDevice (hbody ambient made hmade)

theorem Ensures.context {body : Deciding Context}
    (hbody : body.Ensures fun made ↦ made.isForeign = true) :
    (Creation.context <$> body).Ensures (Creation.Supported find?) :=
  ensures_map fun ambient made hmade ↦ supported_foreignContext (hbody ambient made hmade)

theorem ensures_gpuDevice (index : Nat) :
    (gpuDevice platform index).Ensures (Creation.Supported find?) := by
  unfold gpuDevice
  split
  · exact ensures_guardDriver (Ensures.device (ensures_newGpuDevice index))
  · exact ensures_refuse _

theorem ensures_gpuContext (native : Option Nat) :
    (gpuContext platform native).Ensures (Creation.Supported find?) := by
  unfold gpuContext
  split
  · apply ensures_guardDriver
    cases native with
    | some native => exact Ensures.context (ensures_adoptGpuContext native)
    | none => exact ensures_after _ fun _ ↦ Ensures.context (ensures_newGpuContext _)
  · exact ensures_refuse _

theorem ensures_preferGpu {what : String} {gpu host : Deciding α} {condition : α → Prop}
    (hgpu : gpu.Ensures condition) (hhost : host.Ensures condition) :
    (preferGpu platform what gpu host).Ensures condition := by
  unfold preferGpu
  split
  · exact ensures_guardDriver hgpu
  · split
    · exact hhost
    · exact ensures_tryCatch (ensures_guardDriver hgpu) fun _ ↦ ensures_after _ fun _ ↦ hhost

theorem ensures_device (family : Family) (index : Nat) :
    (device platform family index).Ensures (Creation.Supported find?) := by
  cases family with
  | cpu => exact ensures_hostDevice index
  | gpu => exact ensures_gpuDevice index
  | auto => exact ensures_preferGpu (ensures_gpuDevice index) (ensures_hostDevice 0)

theorem ensures_context (family : Family) (native : Option Nat) :
    (context platform family native).Ensures (Creation.Supported find?) := by
  cases family with
  | cpu => exact ensures_hostContext native
  | gpu => exact ensures_gpuContext native
  | auto => exact ensures_preferGpu (ensures_gpuContext native) (ensures_hostContext native)

theorem ensures_deviceOn {id : ObjectId} {parent : Context} (index : Nat)
    (hparent : find? id = some (.context parent)) :
    (deviceOn platform id parent index).Ensures (Creation.Supported find?) := by
  unfold deviceOn
  split
  · cases parent with
    | foreign => exact ensures_refuse _
    | host adopted ranges =>
      apply ensures_after
      intro _
      apply ensures_pure
      exact supported_of_makeable rfl
        (Session.Sound.makeable ⟨adopted, ranges, hparent⟩ trivial (by simp [Object.kind]))
  · exact ensures_refuse _

theorem ensures_deviceOnNative {id : ObjectId} {parent : Context} (native : Nat)
    (hparent : find? id = some (.context parent)) :
    (deviceOnNative platform id parent native).Ensures (Creation.Supported find?) := by
  unfold deviceOnNative
  split
  · exact ensures_after _ fun _ ↦ ensures_deviceOn 0 hparent
  · exact ensures_deviceOn 0 hparent

end Selection

/-! ## Looked-up objects -/

namespace Session

theorem lookup_eq_ok {kind : Kind} {read? : Heap → ObjectId → Option α} {handle : Handle}
    {id : ObjectId} {object : α} (hlookup : session.lookup kind read? handle = .ok (id, object)) :
    session.registry.lookup kind handle = .ok id ∧ read? session.heap id = some object := by
  unfold lookup at hlookup
  cases hregistry : session.registry.lookup kind handle with
  | error failure => simp [hregistry, bind, Except.bind] at hlookup
  | ok found =>
    simp only [hregistry, bind, Except.bind] at hlookup
    cases hread : read? session.heap found with
    | none => simp [hread] at hlookup
    | some value =>
      simp only [hread, Except.ok.injEq, Prod.mk.injEq] at hlookup
      obtain ⟨rfl, rfl⟩ := hlookup
      exact ⟨rfl, hread⟩

/-- An operation that goes on with the object of a handle. -/
theorem ensures_lookup {kind : Kind} {read? : Heap → ObjectId → Option α} {handle : Handle}
    {rest : ObjectId × α → Deciding β} {goal : β → Prop}
    (hrest : ∀ id object, read? session.heap id = some object → (rest (id, object)).Ensures goal) :
    ((liftM (session.lookup kind read? handle) : Deciding _) >>= rest).Ensures goal := by
  have hlookup : (liftM (session.lookup kind read? handle) : Deciding _).Ensures fun found ↦
      read? session.heap found.1 = some found.2 :=
    ensures_lift fun found hfound ↦ (lookup_eq_ok hfound).2
  exact ensures_bind hlookup fun found hfound ↦ hrest found.1 found.2 hfound

/-- The modules of a list of handles. -/
theorem mapM_module_eq_ok {handles : List Handle} {modules : List (ObjectId × CodeModule)}
    (hmodules : handles.mapM session.module = .ok modules) :
    ∀ found ∈ modules, session.heap.module? found.1 = some found.2 := by
  induction handles generalizing modules with
  | nil =>
    obtain rfl : [] = modules := by simpa [pure, Except.pure] using hmodules
    exact fun _ hmem ↦ absurd hmem List.not_mem_nil
  | cons handle rest ih =>
    rw [List.mapM_cons] at hmodules
    cases hfirst : session.module handle with
    | error failure => simp [hfirst, bind, Except.bind] at hmodules
    | ok found =>
      cases hrest : rest.mapM session.module with
      | error failure => simp [hfirst, hrest, bind, Except.bind] at hmodules
      | ok others =>
        obtain rfl : found :: others = modules := by
          simpa [hfirst, hrest, bind, Except.bind, pure, Except.pure] using hmodules
        intro other hother
        rcases List.mem_cons.1 hother with rfl | hother
        · exact (lookup_eq_ok hfirst).2
        · exact ih hrest other hother

theorem decodeModules_eq_ok {handles : Option (List Handle)} {count : Nat}
    {modules : List (ObjectId × CodeModule)}
    (hmodules : Call.decodeModules session handles count = .ok modules) :
    ∀ found ∈ modules, session.heap.module? found.1 = some found.2 := by
  unfold Call.decodeModules at hmodules
  split at hmodules
  · exact absurd hmodules (by simp)
  · split at hmodules
    · exact absurd hmodules (by simp)
    · exact mapM_module_eq_ok hmodules

/-! ## Operations on objects -/

theorem ensures_hostView {context : ObjectId} {address size : Nat} {flags : ViewFlags} :
    (session.hostView platform context address size flags).Ensures fun view ↦
      (Creation.view view).Supported find? := by
  have hmakeable (address : Nat) (owned : Bool) :
      (Creation.view (.host ⟨address, size, flags.kind, flags.hint, owned, context,
        none⟩)).Supported find? :=
    supported_of_makeable rfl (Sound.makeable trivial rfl (by simp [Object.kind]))
  unfold hostView
  split
  · exact ensures_pure (hmakeable _ _)
  · apply ensures_after
    intro settings
    apply ensures_after
    intro address
    exact ensures_pure (hmakeable _ _)

theorem ensures_createContextView {id : ObjectId} {parent : Context} {address size : Nat}
    {flags : ViewFlags} :
    (session.createContextView platform id parent address size flags).Ensures
      (Decision.Supported find?) := by
  cases parent with
  | host adopted ranges =>
    exact ensures_bind ensures_hostView fun view hview ↦ ensures_pure hview
  | foreign family native adopted => exact ensures_pure (supported_of_isOutside rfl)

theorem ensures_newContextView {id : ObjectId} {parent : Context} {address size : Nat}
    {flags : ViewFlags} :
    (session.newContextView platform id parent address size flags).Ensures
      (Decision.Supported find?) := by
  unfold newContextView
  split
  · exact ensures_createContextView
  · exact ensures_refuse _

theorem ensures_newDeviceView {device : Device} {address size : Nat} {flags : ViewFlags} :
    (session.newDeviceView platform device address size flags).Ensures
      (Decision.Supported find?) := by
  unfold newDeviceView
  split
  · exact ensures_refuse _
  · cases device with
    | host index context =>
      exact ensures_bind ensures_hostView fun view hview ↦ ensures_pure hview
    | foreign => exact ensures_pure (supported_of_isOutside rfl)

/-- A module without parts relies on nothing. -/
theorem supported_module {module : HostModule} (hplain : module.code.Plain)
    (hparts : module.code.parts = []) : (Creation.module (.host module)).Supported find? := by
  refine supported_of_makeable rfl (Sound.makeable ⟨hplain, ?_⟩ trivial (by simp [Object.kind]))
  intro part hpart
  rw [hparts] at hpart
  exact absurd hpart List.not_mem_nil

theorem library?_eq_some {file : String} {code : Code} (hcode : platform.library? file = some code) :
    ∃ name exports, code = .library name exports := by
  simp only [Platform.library?, bind, Option.bind_eq_some_iff] at hcode
  obtain ⟨name, -, exports, -, hlibrary⟩ := hcode
  exact ⟨name, exports, (Option.some.inj hlibrary).symm⟩

/-- A table of routines of the host program brings no entries of libraries. -/
theorem plain_ofSymbols (symbols : List (String × String)) :
    (Code.ofSymbols (symbols.map fun symbol ↦ (symbol.1, .host symbol.2))).Plain := by
  unfold Code.ofSymbols Code.Plain
  suffices hfold : ∀ (routines table : List (String × Entry)),
      (∀ routine ∈ routines, ∃ name, routine.2 = .host name) →
      (∀ routine ∈ table, ∃ name, routine.2 = .host name) →
      ∀ routine ∈ routines.foldl
        (fun table routine ↦ table.filter (·.1 != routine.1) ++ [routine]) table,
        ∃ name, routine.2 = .host name by
    apply hfold
    · intro routine hroutine
      obtain ⟨symbol, -, rfl⟩ := List.mem_map.1 hroutine
      exact ⟨symbol.2, rfl⟩
    · exact fun _ hroutine ↦ absurd hroutine List.not_mem_nil
  intro routines
  induction routines with
  | nil => exact fun table _ htable ↦ htable
  | cons routine rest ih =>
    intro table hroutines htable
    rw [List.foldl_cons]
    apply ih
    · exact fun other hother ↦ hroutines other (List.mem_cons_of_mem _ hother)
    · intro other hother
      rcases List.mem_append.1 hother with hold | hnew
      · exact htable other (List.mem_filter.1 hold).1
      · rw [List.mem_singleton.1 hnew]
        exact hroutines routine List.mem_cons_self

theorem ensures_loadModule {device : Device} {path : String} {options : ModuleOptions} :
    (Session.loadModule platform device path options).Ensures (Decision.Supported find?) := by
  cases device with
  | foreign => exact ensures_pure (supported_of_isOutside rfl)
  | host index context =>
    unfold Session.loadModule
    simp only
    split
    · exact ensures_refuse _
    · apply ensures_after
      intro _
      split
      · exact ensures_refuse _
      · next code hcode =>
        obtain ⟨name, exports, rfl⟩ := library?_eq_some hcode
        exact ensures_pure (supported_module trivial rfl)

theorem mapM_requireHostModule_iff {modules : List (ObjectId × CodeModule)}
    {parts : List (ObjectId × HostModule)} :
    modules.mapM requireHostModule = .ok parts ↔
      modules = parts.map fun part ↦ (part.1, .host part.2) := by
  constructor
  · intro hparts
    induction modules generalizing parts with
    | nil =>
      obtain rfl : [] = parts := by simpa [pure, Except.pure] using hparts
      rfl
    | cons module rest ih =>
      rw [List.mapM_cons] at hparts
      obtain ⟨id, module⟩ := module
      cases module with
      | foreign => simp [requireHostModule, bind, Except.bind] at hparts
      | host module =>
        cases hrest : rest.mapM requireHostModule with
        | error failure => simp [requireHostModule, hrest, bind, Except.bind] at hparts
        | ok others =>
          obtain rfl : (id, module) :: others = parts := by
            simpa [requireHostModule, hrest, bind, Except.bind, pure, Except.pure] using hparts
          rw [List.map_cons, ih hrest]
  · rintro rfl
    induction parts with
    | nil => rfl
    | cons part rest ih =>
      rw [List.map_cons, List.mapM_cons, ih]
      rfl

/-- What can be linked is a list of modules of the host, one at least. -/
theorem requireHostModules_iff {modules : List (ObjectId × CodeModule)}
    {parts : List (ObjectId × HostModule)} :
    requireHostModules modules = .ok parts ↔
      parts ≠ [] ∧ modules = parts.map fun part ↦ (part.1, .host part.2) := by
  cases modules with
  | nil => cases parts <;> simp [requireHostModules]
  | cons first rest =>
    rw [requireHostModules, if_neg (by simp), mapM_requireHostModule_iff]
    cases parts <;> simp

theorem ensures_linkStatic {device : Device} {modules : List (ObjectId × CodeModule)}
    (hmodules : ∀ found ∈ modules, session.heap.module? found.1 = some found.2) :
    (Session.linkStatic device modules).Ensures (Decision.Supported session.heap.get?) := by
  cases device with
  | foreign => exact ensures_pure trivial
  | host index context =>
    refine ensures_found fun parts hparts ↦ ensures_after _ fun _ ↦ ensures_pure ?_
    obtain ⟨-, rfl⟩ := requireHostModules_iff.1 hparts
    show (Creation.module (.host (composite parts))).Supported _
    refine supported_of_makeable rfl
      (Sound.makeable ⟨trivial, ?_⟩ trivial (by simp [Object.kind]))
    intro part hpart
    obtain ⟨source, hsource, rfl⟩ := List.mem_map.1 hpart
    exact ⟨source.2, module?_eq_some.1 (hmodules _ (List.mem_map_of_mem hsource)), rfl, rfl⟩

theorem ensures_linkDynamic {device : Device} {modules : List (ObjectId × CodeModule)} :
    (Session.linkDynamic device modules).Ensures (Decision.Supported find?) := by
  cases device with
  | foreign => exact ensures_pure trivial
  | host index context =>
    exact ensures_after _ fun _ ↦ ensures_after _ fun _ ↦ ensures_pure trivial

/-- The owner of a resolved entry is a module on the heap whose own code defines it. -/
theorem resolveOwner?_eq_some {heap : Heap} {id owner : ObjectId} {module : HostModule}
    {name : String} {entry : Entry} (hmodule : heap.hostModule? id = some module)
    (hresolve : heap.resolveOwner? id module name = some (entry, owner)) :
    ∃ found, heap.hostModule? owner = some found ∧ found.code.resolve name = some entry := by
  unfold resolveOwner? at hresolve
  split at hresolve
  · next entry' hentry =>
    simp only [Option.some.injEq, Prod.mk.injEq] at hresolve
    obtain ⟨rfl, rfl⟩ := hresolve
    exact ⟨module, hmodule, hentry⟩
  · obtain ⟨peer, hpeer, hfound⟩ := List.exists_of_findSome?_eq_some hresolve
    obtain ⟨entry', hentry, heq⟩ := Option.map_eq_some_iff.1 hfound
    obtain ⟨rfl, rfl⟩ := Prod.mk.inj heq
    obtain ⟨other, -, hother⟩ := List.mem_filterMap.1 hpeer
    obtain ⟨found, hget, rfl⟩ := Option.map_eq_some_iff.1 hother
    exact ⟨found, hget, hentry⟩

theorem ensures_newKernel {device : Device} {id : ObjectId} {module : CodeModule} {name : String}
    (hmodule : session.heap.module? id = some module) :
    (session.newKernel device (id, module) name).Ensures
      (Decision.Supported session.heap.get?) := by
  have hget := module?_eq_some.1 hmodule
  cases device with
  | foreign =>
    apply ensures_pure
    exact supported_of_makeable rfl
      (Sound.makeable ⟨module, hget⟩ trivial (by simp [Object.kind]))
  | host index context =>
    cases module with
    | foreign => exact ensures_refuse _
    | host module =>
      have hrequire : (liftM (requireHostModule (id, .host module)) : Deciding _).Ensures fun found ↦
          found = (id, module) :=
        ensures_lift fun found hfound ↦ (Except.ok.inj hfound).symm
      refine ensures_bind hrequire ?_
      rintro _ rfl
      simp only
      cases hresolve : session.heap.resolveOwner? id module name with
      | none => exact ensures_refuse _
      | some found =>
        obtain ⟨entry, owner⟩ := found
        obtain ⟨other, hother, hcode⟩ :=
          resolveOwner?_eq_some (hostModule?_eq_some.2 hget) hresolve
        apply ensures_pure
        show (Creation.kernel (.host ⟨name, entry, id, owner⟩)).Supported _
        refine supported_of_makeable rfl (Sound.makeable ?_ trivial (by simp [Object.kind]))
        exact ⟨⟨module, hget⟩, other, hostModule?_eq_some.1 hother, hcode⟩

theorem ensures_newQueue {id : ObjectId} {device : Device}
    (hdevice : session.heap.device? id = some device) :
    (Session.newQueue platform id device).Ensures (Decision.Supported session.heap.get?) := by
  cases device with
  | foreign => exact ensures_pure (supported_of_isOutside rfl)
  | host index context =>
    apply ensures_after
    intro settings
    apply ensures_after
    intro _
    apply ensures_pure
    refine supported_of_makeable rfl ⟨⟨index, context, device?_eq_some.1 hdevice⟩, trivial, ?_⟩
    rintro queue heq
    obtain rfl := TaskQueue.host.inj (Object.queue.inj heq)
    exact ⟨HostQueue.sound_new _ _ _, rfl⟩

/-! ## Queues -/

end Session

namespace QueueHooks

variable {View Kernel Result : Type} {hooks : QueueHooks View Kernel Result} {result : Result}

/-! The checks hand what passes to the hook. -/

theorem transferToDevice_eq_ok {view : View} (hpass : hooks.transferToDevice view = .ok result) :
    result = hooks.copyToDevice view := by
  simp only [transferToDevice, requireFamily, requireHostSide, bind, Except.bind] at hpass
  grind

theorem transferToHost_eq_ok {view : View} (hpass : hooks.transferToHost view = .ok result) :
    result = hooks.copyToHost view := by
  simp only [transferToHost, requireFamily, requireHostSide, bind, Except.bind] at hpass
  grind

theorem copyView_eq_ok {destination source : View} {size : Nat} {result : Option Result}
    (hpass : hooks.copyView destination source size = .ok result) :
    result = if size = 0 then none else some (hooks.copy destination source size) := by
  simp only [copyView, requireFamily, bind, Except.bind] at hpass
  grind

theorem launchKernel_eq_ok {kernel : Kernel} {parameters : Option View} {extent : Extent}
    (hpass : hooks.launchKernel kernel parameters extent = .ok result) :
    result = hooks.launch kernel parameters extent := by
  cases parameters with
  | none =>
    simp only [launchKernel, requireFamily, bind, Except.bind] at hpass
    grind
  | some view =>
    simp only [launchKernel, requireFamily, bind, Except.bind] at hpass
    grind

end QueueHooks

namespace Session

/-- A job of the host holds views, and for a launch the kernel whose entry it enters. -/
theorem supported_views {operation : Operation} {work : Work} {views : List (ObjectId × View)}
    (hviews : ∀ view ∈ views, session.heap.view? view.1 = some view.2)
    (hwork : ∀ entry invocation, work ≠ .enter entry invocation) :
    (Job.mk operation work (views.map (·.1)) none).Supported session.heap.get? where
  holds := by
    intro id hid
    obtain ⟨view, hview, rfl⟩ := List.mem_map.1 hid
    exact ⟨_, view?_eq_some.1 (hviews view hview), .inl rfl⟩
  future := by
    intro id hid
    exact absurd hid (by simp)
  entry := fun entry invocation heq ↦ absurd heq (hwork entry invocation)

theorem ensures_submit {id : ObjectId} {queue : HostQueue} {job : Job}
    (hqueue : session.heap.queue? id = some (.host queue))
    (hjob : job.Supported session.heap.get?) :
    (pure { effect := .submit id job } : Deciding Decision).Ensures
      (Decision.Supported session.heap.get?) :=
  ensures_pure ⟨⟨queue, queue?_eq_some.1 hqueue⟩, hjob⟩

theorem ensures_transfer {queue : ObjectId × TaskQueue} {view : ObjectId × View}
    (hqueue : session.heap.queue? queue.1 = some queue.2)
    (hview : session.heap.view? view.1 = some view.2) :
    ((hooks queue).copyToDevice view).Ensures (Decision.Supported session.heap.get?) ∧
      ((hooks queue).copyToHost view).Ensures (Decision.Supported session.heap.get?) := by
  obtain ⟨id, queue⟩ := queue
  cases queue with
  | foreign => exact ⟨ensures_pure trivial, ensures_pure trivial⟩
  | host queue =>
    have hviews : ∀ other ∈ [view], session.heap.view? other.1 = some other.2 := by
      intro other hother
      rw [List.mem_singleton.1 hother]
      exact hview
    exact ⟨ensures_submit hqueue (supported_views hviews (by simp)),
      ensures_submit hqueue (supported_views hviews (by simp))⟩

theorem ensures_copyToDevice {queue : ObjectId × TaskQueue} {view : ObjectId × View}
    (hqueue : session.heap.queue? queue.1 = some queue.2)
    (hview : session.heap.view? view.1 = some view.2) :
    (Session.copyToDevice queue view).Ensures (Decision.Supported session.heap.get?) := by
  refine ensures_bind (ensures_lift fun result ↦ QueueHooks.transferToDevice_eq_ok) ?_
  rintro _ rfl
  exact (ensures_transfer hqueue hview).1

theorem ensures_copyToHost {queue : ObjectId × TaskQueue} {view : ObjectId × View}
    (hqueue : session.heap.queue? queue.1 = some queue.2)
    (hview : session.heap.view? view.1 = some view.2) :
    (Session.copyToHost queue view).Ensures (Decision.Supported session.heap.get?) := by
  refine ensures_bind (ensures_lift fun result ↦ QueueHooks.transferToHost_eq_ok) ?_
  rintro _ rfl
  exact (ensures_transfer hqueue hview).2

theorem ensures_copyView {queue : ObjectId × TaskQueue} {destination source : ObjectId × View}
    {size : Nat} (hqueue : session.heap.queue? queue.1 = some queue.2)
    (hdestination : session.heap.view? destination.1 = some destination.2)
    (hsource : session.heap.view? source.1 = some source.2) :
    (Session.copyView queue destination source size).Ensures
      (Decision.Supported session.heap.get?) := by
  refine ensures_bind (ensures_lift fun result ↦ QueueHooks.copyView_eq_ok) ?_
  rintro _ rfl
  by_cases hsize : size = 0
  · rw [if_pos hsize]
    exact ensures_pure trivial
  · rw [if_neg hsize]
    obtain ⟨id, queue⟩ := queue
    cases queue with
    | foreign => exact ensures_pure trivial
    | host queue =>
      have hviews : ∀ view ∈ [destination, source], session.heap.view? view.1 = some view.2 := by
        intro view hview
        simp only [List.mem_cons, List.not_mem_nil, or_false] at hview
        rcases hview with rfl | rfl
        · exact hdestination
        · exact hsource
      exact ensures_submit hqueue (supported_views hviews (by simp))

theorem ensures_launch {queue : ObjectId × TaskQueue} {kernel : ObjectId × Kernel}
    {parameters : Option (ObjectId × View)} {extent : Extent}
    (hqueue : session.heap.queue? queue.1 = some queue.2)
    (hkernel : session.heap.kernel? kernel.1 = some kernel.2)
    (hparameters : ∀ view, parameters = some view → session.heap.view? view.1 = some view.2) :
    (Session.launch queue kernel parameters extent).Ensures
      (Decision.Supported session.heap.get?) := by
  refine ensures_bind (ensures_lift fun result ↦ QueueHooks.launchKernel_eq_ok) ?_
  rintro _ rfl
  obtain ⟨id, queue⟩ := queue
  cases queue with
  | foreign => exact ensures_pure (supported_of_isOutside rfl)
  | host queue =>
    obtain ⟨id', kernel⟩ := kernel
    cases kernel with
    | foreign => exact ensures_refuse _
    | host kernel =>
      have hget := kernel?_eq_some.1 hkernel
      apply ensures_pure
      refine ⟨⟨queue, queue?_eq_some.1 hqueue⟩, ?_, ?_, ?_⟩
      · intro held hheld
        rcases List.mem_cons.1 hheld with rfl | hview
        · exact ⟨_, hget, .inr rfl⟩
        · obtain ⟨view, hsome, rfl⟩ := Option.map_eq_some_iff.1 (Option.mem_toList.1 hview)
          exact ⟨_, view?_eq_some.1 (hparameters view hsome), .inl rfl⟩
      · intro future hfuture
        exact absurd hfuture (by simp)
      · intro entry invocation hwork
        obtain ⟨rfl, -⟩ := Work.enter.inj hwork
        exact ⟨id', List.mem_cons_self, kernel, hget, rfl⟩

theorem supported_sync {queue : ObjectId × TaskQueue}
    (hqueue : session.heap.queue? queue.1 = some queue.2) :
    (Session.sync queue).Supported session.heap.get? := by
  obtain ⟨id, queue⟩ := queue
  cases queue with
  | foreign => trivial
  | host queue => exact ⟨queue, queue?_eq_some.1 hqueue⟩

theorem supported_barrier (queue : TaskQueue) : (Session.barrier queue).Supported find? := by
  cases queue <;> trivial

/-- The parameters of a launch are a view, or none. -/
theorem ensures_parameters {handle : Handle} {rest : Option (ObjectId × View) → Deciding β}
    {goal : β → Prop}
    (hrest : ∀ parameters, (∀ view, parameters = some view →
      session.heap.view? view.1 = some view.2) → (rest parameters).Ensures goal) :
    ((liftM (session.parameters handle) : Deciding _) >>= rest).Ensures goal := by
  have hlookup : (liftM (session.parameters handle) : Deciding _).Ensures fun parameters ↦
      ∀ view, parameters = some view → session.heap.view? view.1 = some view.2 := by
    apply ensures_lift
    intro parameters hparameters
    unfold Session.parameters at hparameters
    split at hparameters
    · obtain rfl := Except.ok.inj hparameters
      exact fun view hview ↦ absurd hview (by simp)
    · cases hview : session.view handle with
      | error failure => simp [hview, Except.map] at hparameters
      | ok found =>
        obtain rfl : some found = parameters := by simpa [hview, Except.map] using hparameters
        intro view heq
        obtain rfl := Option.some.inj heq
        exact (lookup_eq_ok hview).2
  exact ensures_bind hlookup fun parameters hparameters ↦ hrest parameters hparameters

end Session

/-! ## Calls and requests -/

/-- What a boundary call decides relies on what is there. -/
theorem Call.ensures_decide (call : Call) :
    (call.decide platform session).Ensures (Decision.Supported session.heap.get?) := by
  cases call with
  | retain handle => exact ensures_pure trivial
  | release handle => exact ensures_pure trivial
  | useCount handle => exact ensures_after _ fun _ ↦ ensures_pure trivial
  | setHandler handler => exact ensures_pure trivial
  | getDevice family index =>
    exact ensures_after _ fun family ↦
      ensures_bind (Selection.ensures_device family index) fun _ hmade ↦ ensures_pure hmade
  | getDeviceOn context index =>
    refine Session.ensures_lookup fun id parent hparent ↦ ?_
    exact ensures_bind (Selection.ensures_deviceOn index (context?_eq_some.1 hparent))
      fun _ hmade ↦ ensures_pure hmade
  | getDeviceOnNative context native =>
    refine Session.ensures_lookup fun id parent hparent ↦ ?_
    exact ensures_bind (Selection.ensures_deviceOnNative native (context?_eq_some.1 hparent))
      fun _ hmade ↦ ensures_pure hmade
  | deviceCount family =>
    exact ensures_after _ fun _ ↦ ensures_after _ fun _ ↦ ensures_pure trivial
  | deviceInfo family index null =>
    cases null with
    | true => exact ensures_refuse _
    | false => exact ensures_after _ fun _ ↦ ensures_after _ fun _ ↦ ensures_pure trivial
  | platformNative device => exact Session.ensures_lookup fun _ _ _ ↦ ensures_pure trivial
  | deviceNative device => exact Session.ensures_lookup fun _ _ _ ↦ ensures_pure trivial
  | deviceContextNative device => exact Session.ensures_lookup fun _ _ _ ↦ ensures_pure trivial
  | newContext family =>
    exact ensures_after _ fun family ↦
      ensures_bind (Selection.ensures_context family none) fun _ hmade ↦ ensures_pure hmade
  | adoptContext family native =>
    exact ensures_after _ fun family ↦
      ensures_bind (Selection.ensures_context family (some native)) fun _ hmade ↦
        ensures_pure hmade
  | contextNative context => exact Session.ensures_lookup fun _ _ _ ↦ ensures_pure trivial
  | newView device address size flags =>
    exact ensures_after _ fun _ ↦ Session.ensures_lookup fun _ _ _ ↦ Session.ensures_newDeviceView
  | newContextView context address size flags =>
    exact ensures_after _ fun _ ↦ Session.ensures_lookup fun _ _ _ ↦ Session.ensures_newContextView
  | hostAddress view => exact Session.ensures_lookup fun _ _ _ ↦ ensures_pure trivial
  | deviceAddress view => exact Session.ensures_lookup fun _ _ _ ↦ ensures_pure trivial
  | sharedAddress view => exact Session.ensures_lookup fun _ _ _ ↦ ensures_pure trivial
  | viewSize view => exact Session.ensures_lookup fun _ _ _ ↦ ensures_pure trivial
  | viewKind view => exact Session.ensures_lookup fun _ _ _ ↦ ensures_pure trivial
  | classify device address => exact Session.ensures_lookup fun _ _ _ ↦ ensures_pure trivial
  | loadModule device path options =>
    exact ensures_after _ fun _ ↦ ensures_after _ fun _ ↦ Session.ensures_lookup fun _ _ _ ↦
      Session.ensures_loadModule
  | linkDynamic device modules count =>
    exact ensures_after _ fun _ ↦ Session.ensures_lookup fun _ _ _ ↦ Session.ensures_linkDynamic
  | linkStatic device modules count =>
    refine ensures_bind (ensures_lift fun _ ↦ Session.decodeModules_eq_ok) fun _ hmodules ↦ ?_
    exact Session.ensures_lookup fun _ _ _ ↦ Session.ensures_linkStatic hmodules
  | functionAddress module name =>
    exact ensures_after _ fun _ ↦ Session.ensures_lookup fun _ _ _ ↦ ensures_after _ fun _ ↦
      ensures_pure trivial
  | newKernel device module name =>
    exact ensures_after _ fun _ ↦ Session.ensures_lookup fun _ _ _ ↦
      Session.ensures_lookup fun _ _ hmodule ↦ Session.ensures_newKernel hmodule
  | newQueue device =>
    exact Session.ensures_lookup fun _ _ hdevice ↦ Session.ensures_newQueue hdevice
  | barrier queue =>
    exact Session.ensures_lookup fun _ queue _ ↦ ensures_pure (Session.supported_barrier queue)
  | copyToDevice queue view =>
    exact Session.ensures_lookup fun _ _ hqueue ↦ Session.ensures_lookup fun _ _ hview ↦
      Session.ensures_copyToDevice hqueue hview
  | copyToHost queue view =>
    exact Session.ensures_lookup fun _ _ hqueue ↦ Session.ensures_lookup fun _ _ hview ↦
      Session.ensures_copyToHost hqueue hview
  | copyView queue destination source size =>
    exact Session.ensures_lookup fun _ _ hqueue ↦ Session.ensures_lookup fun _ _ hdestination ↦
      Session.ensures_lookup fun _ _ hsource ↦
        Session.ensures_copyView hqueue hdestination hsource
  | launch queue kernel parameters extent =>
    exact Session.ensures_lookup fun _ _ hqueue ↦ Session.ensures_lookup fun _ _ hkernel ↦
      Session.ensures_parameters fun _ hparameters ↦
        Session.ensures_launch hqueue hkernel hparameters
  | sync queue =>
    exact Session.ensures_lookup fun _ _ hqueue ↦ ensures_pure (Session.supported_sync hqueue)
  | futureTime future =>
    exact ensures_ite (ensures_pure trivial)
      (Session.ensures_lookup fun _ _ _ ↦ ensures_pure trivial)
  | futureIsValid future => exact Session.ensures_lookup fun _ _ _ ↦ ensures_pure trivial
  | queueNative queue => exact Session.ensures_lookup fun _ _ _ ↦ ensures_pure trivial

/-- What a request decides relies on what is there. -/
theorem Request.ensures_decide (hsound : session.Sound []) (request : Request) :
    (request.decide platform session).Ensures (Decision.Supported session.heap.get?) := by
  have hmodules (handles : List Handle) :
      (liftM (handles.mapM session.module) : Deciding _).Ensures fun modules ↦
        ∀ found ∈ modules, session.heap.module? found.1 = some found.2 :=
    ensures_lift fun modules hmodules ↦ Session.mapM_module_eq_ok hmodules
  cases request with
  | lookup handle kind => exact ensures_after _ fun _ ↦ ensures_pure trivial
  | retain handle => exact ensures_pure trivial
  | release handle => exact ensures_pure trivial
  | useCount handle => exact ensures_after _ fun _ ↦ ensures_pure trivial
  | exposeAgain handle =>
    have hlocate : (liftM (session.registry.locate handle) : Deciding _).Ensures fun slot ↦
        ∃ object, session.heap.get? slot.object = some object ∧ object.kind = slot.kind :=
      ensures_lift fun slot hslot ↦ hsound.rooted.exposed (Registry.get?_of_locate_eq_ok hslot)
    exact ensures_bind hlocate fun slot hslot ↦ ensures_pure hslot
  | device family index =>
    exact ensures_bind (Selection.ensures_device family index) fun _ hmade ↦ ensures_pure hmade
  | context family native =>
    exact ensures_bind (Selection.ensures_context family native) fun _ hmade ↦
      ensures_pure hmade
  | deviceOn context index =>
    refine Session.ensures_lookup fun id parent hparent ↦ ?_
    exact ensures_bind (Selection.ensures_deviceOn index (context?_eq_some.1 hparent))
      fun _ hmade ↦ ensures_pure hmade
  | deviceOnNative context native =>
    refine Session.ensures_lookup fun id parent hparent ↦ ?_
    exact ensures_bind (Selection.ensures_deviceOnNative native (context?_eq_some.1 hparent))
      fun _ hmade ↦ ensures_pure hmade
  | deviceCount family => exact ensures_after _ fun _ ↦ ensures_pure trivial
  | deviceInfo family index => exact ensures_after _ fun _ ↦ ensures_pure trivial
  | newView owner address size kind hint =>
    exact Session.ensures_lookup fun _ _ _ ↦ ensures_after _ fun _ ↦ Session.ensures_newDeviceView
  | createContextView owner address size kind hint =>
    exact Session.ensures_lookup fun _ _ _ ↦ ensures_after _ fun _ ↦
      Session.ensures_createContextView
  | loadModule owner path options =>
    exact Session.ensures_lookup fun _ _ _ ↦ ensures_after _ fun _ ↦ Session.ensures_loadModule
  | functionAddress module name =>
    exact Session.ensures_lookup fun _ _ _ ↦ ensures_after _ fun _ ↦ ensures_pure trivial
  | linkStatic owner modules =>
    exact Session.ensures_lookup fun _ _ _ ↦ ensures_bind (hmodules modules) fun _ hmodules ↦
      Session.ensures_linkStatic hmodules
  | linkDynamic owner modules =>
    exact Session.ensures_lookup fun _ _ _ ↦ ensures_after _ fun _ ↦ Session.ensures_linkDynamic
  | newKernel owner module name =>
    exact Session.ensures_lookup fun _ _ _ ↦ Session.ensures_lookup fun _ _ hmodule ↦
      Session.ensures_newKernel hmodule
  | launch queue kernel parameters extent =>
    exact Session.ensures_lookup fun _ _ hqueue ↦ Session.ensures_lookup fun _ _ hkernel ↦
      Session.ensures_parameters fun _ hparameters ↦
        Session.ensures_launch hqueue hkernel hparameters
  | copyView queue destination source size =>
    exact Session.ensures_lookup fun _ _ hqueue ↦ Session.ensures_lookup fun _ _ hdestination ↦
      Session.ensures_lookup fun _ _ hsource ↦
        Session.ensures_copyView hqueue hdestination hsource
  | copyToDevice queue view =>
    exact Session.ensures_lookup fun _ _ hqueue ↦ Session.ensures_lookup fun _ _ hview ↦
      Session.ensures_copyToDevice hqueue hview
  | copyToHost queue view =>
    exact Session.ensures_lookup fun _ _ hqueue ↦ Session.ensures_lookup fun _ _ hview ↦
      Session.ensures_copyToHost hqueue hview
  | barrier queue =>
    exact Session.ensures_lookup fun _ queue _ ↦ ensures_pure (Session.supported_barrier queue)
  | sync queue =>
    exact Session.ensures_lookup fun _ _ hqueue ↦ ensures_pure (Session.supported_sync hqueue)
  | hostDevice index =>
    exact ensures_bind (Selection.ensures_newHostDevice index) fun _ hmade ↦ ensures_pure hmade
  | queueWithCapacity capacity =>
    exact ensures_after _ fun _ ↦ ensures_after _ fun _ ↦
      ensures_pure (supported_of_object?_eq_none rfl)
  | symbolModule name symbols =>
    exact ensures_pure (Session.supported_module (Session.plain_ofSymbols symbols) rfl)
  | offer creation houtside => exact ensures_pure (supported_of_isOutside houtside)
  | offerKernel family name module =>
    refine Session.ensures_lookup fun id module hmodule ↦ ensures_pure ?_
    show (Creation.kernel (.foreign family name id)).Supported _
    refine supported_of_makeable rfl (Session.Sound.makeable ?_ trivial (by simp [Object.kind]))
    exact ⟨module, module?_eq_some.1 hmodule⟩
  | settle future state => exact Session.ensures_lookup fun _ _ _ ↦ ensures_pure trivial
  | gpuCount => exact ensures_after _ fun _ ↦ ensures_pure trivial
  | gpuInfo index => exact ensures_after _ fun _ ↦ ensures_pure trivial
  | gpuDevice index =>
    exact ensures_bind (Selection.ensures_newGpuDevice index) fun _ hforeign ↦
      ensures_pure (Selection.supported_foreignDevice hforeign)
  | gpuContext index =>
    exact ensures_bind (Selection.ensures_newGpuContext index) fun _ hforeign ↦
      ensures_pure (Selection.supported_foreignContext hforeign)
  | gpuAdopt native =>
    exact ensures_bind (Selection.ensures_adoptGpuContext native) fun _ hforeign ↦
      ensures_pure (Selection.supported_foreignContext hforeign)
  | gpuAvailable =>
    unfold Request.decide
    cases platform.driver.count with
    | ok count => exact ensures_pure trivial
    | error interruption => exact ensures_pure trivial

end Offload
