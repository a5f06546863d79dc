import Offload.Proofs.Boundary.Telling
import Offload.Proofs.Session.Handles

/-!
# Calls with dead handles

Every call looks up all the handles it was given before it does anything else. Where one of them is
not live, or names an object of another kind than the call needs, the call is refused: its session is
the same afterwards, its failure is reported once, and it gives back its sentinel. A handle that has
lost its last reference is refused so at every later call, also inside error handlers, whatever is
exported meanwhile and whether or not its object is still kept alive.
-/

namespace Offload

/-! ## The handles of a call -/

/-- The handles a call is given, with the kind each of them has to have; any kind will do where there
is none. The null handle stands for no parameters and for no future. -/
def Call.handles : Call → List (Option Kind × Handle)
  | retain handle | release handle | useCount handle => [(none, handle)]
  | setHandler _ | getDevice _ _ | deviceCount _ | deviceInfo _ _ _ | newContext _
  | adoptContext _ _ => []
  | getDeviceOn context _ | getDeviceOnNative context _ | contextNative context
  | newContextView context _ _ _ => [(some .context, context)]
  | platformNative device | deviceNative device | deviceContextNative device
  | newView device _ _ _ | classify device _ | loadModule device _ _ | newQueue device =>
    [(some .device, device)]
  | hostAddress view | deviceAddress view | sharedAddress view | viewSize view | viewKind view =>
    [(some .memoryView, view)]
  | linkDynamic device modules count | linkStatic device modules count =>
    (some .device, device) :: ((modules.getD []).take count).map (some .module, ·)
  | functionAddress module _ => [(some .module, module)]
  | newKernel device module _ => [(some .device, device), (some .module, module)]
  | barrier queue | sync queue | queueNative queue => [(some .taskQueue, queue)]
  | copyToDevice queue view | copyToHost queue view =>
    [(some .taskQueue, queue), (some .memoryView, view)]
  | copyView queue destination source _ =>
    [(some .taskQueue, queue), (some .memoryView, destination), (some .memoryView, source)]
  | launch queue kernel parameters _ =>
    (some .taskQueue, queue) :: (some .kernel, kernel) ::
      if parameters = 0 then [] else [(some .memoryView, parameters)]
  | futureTime future => if future = 0 then [] else [(some .future, future)]
  | futureIsValid future => [(some .future, future)]

namespace Deciding

variable {α β : Type}

/-- A computation that fails before it has looked at the settings or noted anything. -/
def Refuses (body : Deciding α) : Prop :=
  ∃ failure : Failure, ∀ ambient, body.run.run ambient = (.error (.failure failure), ambient)

/-- A computation is refused if it is with everything that can be looked up. -/
theorem refuses_lift_bind {outcome : Except Failure α} {rest : α → Deciding β}
    (hrest : ∀ value, outcome = .ok value → (rest value).Refuses) :
    (liftM outcome >>= rest).Refuses := by
  cases outcome with
  | error failure => exact ⟨failure, fun _ ↦ rfl⟩
  | ok value =>
    rw [lift_ok_bind]
    exact hrest value rfl

end Deciding

namespace Session

open Deciding

variable {program : Program} {platform : Platform} {session : Session} {call : Call}

/-- A handle is live and names an object of a kind, if one is asked for. -/
def Live (session : Session) (kind : Option Kind) (handle : Handle) : Prop :=
  handle ≠ 0 ∧ ∃ slot, session.registry.get? handle = some slot ∧
    ∀ expected, kind = some expected → slot.kind = expected

/-- All the handles of a call are live and of the kinds it needs. -/
def Admits (session : Session) (call : Call) : Prop :=
  ∀ given ∈ call.handles, session.Live given.1 given.2

theorem not_live_of_released {handle : Handle} (hreleased : session.registry.Released handle)
    (kind : Option Kind) : ¬session.Live kind handle := by
  rintro ⟨-, slot, hslot, -⟩
  rw [hreleased.gone] at hslot
  exact absurd hslot (by simp)

theorem live_of_locate {handle : Handle} {slot : Slot ObjectId}
    (hlocate : session.registry.locate handle = .ok slot) : session.Live none handle := by
  refine ⟨?_, slot, Registry.get?_of_locate_eq_ok hlocate, fun _ hkind ↦ absurd hkind (by simp)⟩
  rintro rfl
  exact absurd hlocate (by simp [Registry.locate])

theorem live_of_lookup {α : Type} {kind : Kind} {find? : Heap → ObjectId → Option α}
    {handle : Handle} {found : ObjectId × α} (hlookup : session.lookup kind find? handle = .ok found) :
    session.Live (some kind) handle := by
  have hregistry := (lookup_eq_ok hlookup).1
  obtain ⟨slot, hslot, hkind, -⟩ := Registry.lookup_eq_ok hregistry
  refine ⟨?_, slot, hslot, fun expected hexpected ↦ hkind.trans (Option.some.inj hexpected)⟩
  rintro rfl
  exact absurd hregistry (by simp [Registry.lookup, Registry.locate, bind, Except.bind])

/-- An operation that looks a handle up is refused if it is where the handle is live. -/
theorem refuses_lookup {α β : Type} {kind : Kind} {find? : Heap → ObjectId → Option α}
    {handle : Handle} {rest : ObjectId × α → Deciding β}
    (hrest : ∀ found, session.Live (some kind) handle → (rest found).Refuses) :
    ((liftM (session.lookup kind find? handle) : Deciding _) >>= rest).Refuses :=
  refuses_lift_bind fun found hfound ↦ hrest found (live_of_lookup hfound)

/-- All modules of a list that was resolved are live. -/
theorem live_of_decodeModules {modules : Option (List Handle)} {count : Nat}
    {found : List (ObjectId × CodeModule)} (hfound : Call.decodeModules session modules count = .ok found) :
    ∀ handle ∈ (modules.getD []).take count, session.Live (some .module) handle := by
  unfold Call.decodeModules at hfound
  split at hfound
  · exact absurd hfound (by simp)
  · split at hfound
    · exact absurd hfound (by simp)
    · intro handle hhandle
      obtain ⟨result, -, hresult⟩ := ok_of_mapM_eq_ok hfound handle hhandle
      exact live_of_lookup hresult

/-! ## Refused calls -/

/-- A call other than to retain or release is refused in its decision. -/
theorem refuses_decide (hdead : ¬session.Admits call) (hretain : ∀ handle, call ≠ .retain handle)
    (hrelease : ∀ handle, call ≠ .release handle) : (call.decide platform session).Refuses := by
  -- With every handle looked up the call would be admitted.
  have hadmitted (hlive : ∀ given ∈ call.handles, session.Live given.1 given.2) {α : Type}
      {body : Deciding α} : body.Refuses := absurd hlive hdead
  have hnone (hhandles : call.handles = []) {α : Type} {body : Deciding α} : body.Refuses :=
    hadmitted fun given hgiven ↦ absurd (hhandles ▸ hgiven) List.not_mem_nil
  have hsingle {kind : Option Kind} {handle : Handle} (hhandles : call.handles = [(kind, handle)])
      (hlive : session.Live kind handle) {α : Type} {body : Deciding α} : body.Refuses := by
    refine hadmitted fun given hgiven ↦ ?_
    rw [hhandles] at hgiven
    exact List.mem_singleton.1 hgiven ▸ hlive
  cases call with
  | retain handle => exact absurd rfl (hretain handle)
  | release handle => exact absurd rfl (hrelease handle)
  | useCount handle =>
    refine refuses_lift_bind fun count hcount ↦ hsingle rfl ?_
    cases hlocate : session.registry.locate handle with
    | error failure => simp [Registry.useCount, hlocate, Except.map] at hcount
    | ok slot => exact live_of_locate hlocate
  | setHandler | getDevice | deviceCount | deviceInfo | newContext | adoptContext => exact hnone rfl
  | getDeviceOn | getDeviceOnNative | contextNative | platformNative | deviceNative
  | deviceContextNative | classify | newQueue | hostAddress | deviceAddress | sharedAddress
  | viewSize | viewKind | barrier | sync | queueNative | futureIsValid =>
    exact refuses_lookup fun _ hlive ↦ hsingle rfl hlive
  | newView | newContextView | functionAddress =>
    exact refuses_lift_bind fun _ _ ↦ refuses_lookup fun _ hlive ↦ hsingle rfl hlive
  | loadModule =>
    exact refuses_lift_bind fun _ _ ↦ refuses_lift_bind fun _ _ ↦
      refuses_lookup fun _ hlive ↦ hsingle rfl hlive
  | linkDynamic device modules count | linkStatic device modules count =>
    refine refuses_lift_bind fun found hfound ↦ refuses_lookup fun _ hdevice ↦ hadmitted ?_
    simp only [Call.handles, List.forall_mem_cons, List.forall_mem_map]
    exact ⟨hdevice, live_of_decodeModules hfound⟩
  | newKernel =>
    refine refuses_lift_bind fun _ _ ↦ refuses_lookup fun _ hdevice ↦
      refuses_lookup fun _ hmodule ↦ hadmitted ?_
    simpa [Call.handles] using ⟨hdevice, hmodule⟩
  | copyToDevice | copyToHost =>
    refine refuses_lookup fun _ hqueue ↦ refuses_lookup fun _ hview ↦ hadmitted ?_
    simpa [Call.handles] using ⟨hqueue, hview⟩
  | copyView =>
    refine refuses_lookup fun _ hqueue ↦ refuses_lookup fun _ hdestination ↦
      refuses_lookup fun _ hsource ↦ hadmitted ?_
    simpa [Call.handles] using ⟨hqueue, hdestination, hsource⟩
  | launch queue kernel parameters extent =>
    refine refuses_lookup fun _ hqueue ↦ refuses_lookup fun _ hkernel ↦
      refuses_lift_bind fun found hfound ↦ hadmitted ?_
    simp only [Call.handles, List.forall_mem_cons]
    refine ⟨hqueue, hkernel, ?_⟩
    unfold Session.parameters at hfound
    split at hfound
    · next hnull => simp [hnull]
    · next hgiven =>
      cases hview : session.view parameters with
      | error failure => simp [hview, Except.map] at hfound
      | ok view => simpa [hgiven] using live_of_lookup hview
  | futureTime future =>
    by_cases hnull : future = 0
    · exact hnone (by simp [Call.handles, hnull])
    · show (ite (future = 0) _ _ : Deciding Decision).Refuses
      rw [if_neg hnull]
      exact refuses_lookup fun _ hlive ↦ hsingle (by simp [Call.handles, hnull]) hlive

/-- A retain or release of a handle that is not live fails when it is committed. -/
theorem commit_dead {effect : Effect} {handle : Handle} (hdead : ¬session.Live none handle)
    (heffect : effect = .retain handle ∨ effect = .release handle) :
    ∃ failure, ∀ opened : Session, opened.registry = session.registry →
      opened.commit { effect } = (opened, .failed failure) := by
  obtain ⟨failure, hlocate⟩ : ∃ failure, session.registry.locate handle = .error failure := by
    cases hlocate : session.registry.locate handle with
    | error failure => exact ⟨failure, rfl⟩
    | ok slot => exact absurd (live_of_locate hlocate) hdead
  refine ⟨failure, fun opened hregistry ↦ ?_⟩
  rcases heffect with rfl | rfl
  · have hretain : opened.registry.retain handle = .error failure := by
      simp [Registry.retain, hregistry, hlocate, bind, Except.bind]
    simp [commit, hretain]
  · have hrelease : opened.registry.release handle = .error failure := by
      simp [Registry.release, hregistry, hlocate, bind, Except.bind]
    simp [commit, release, hrelease]

/-- What a call decides does not depend on the tickets. -/
theorem decide_takeTicket (platform : Platform) (session : Session) (call : Call) :
    call.decide platform session.takeTicket.1 = call.decide platform session := by
  cases call <;> rfl

/-- A call with a handle that is not live does nothing, with or without a ticket. -/
theorem enter_dead (platform : Platform) (hsettled : session.Settled)
    (hdead : ¬session.Admits call) :
    ∃ failure, ∀ opened, opened = session ∨ opened = session.takeTicket.1 →
      call.enter platform opened = (opened, .ended (.error (.failure failure))) := by
  have hkept {opened : Session} (hopened : opened = session ∨ opened = session.takeTicket.1) :
      opened.Kept [] := by
    rcases hopened with rfl | rfl
    · exact hsettled.kept
    · exact (kept_takeTicket hsettled.kept hsettled.ticketed).1
  have hcommit {effect : Effect} {handle : Handle} (hhandles : call.handles = [(none, handle)])
      (hdecide : ∀ opened, call.decide platform opened = pure { effect })
      (heffect : effect = .retain handle ∨ effect = .release handle) :
      ∃ failure, ∀ opened, opened = session ∨ opened = session.takeTicket.1 →
        call.enter platform opened = (opened, .ended (.error (.failure failure))) := by
    have hhandle : ¬session.Live none handle := fun hlive ↦
      hdead fun given hgiven ↦ List.mem_singleton.1 (hhandles ▸ hgiven) ▸ hlive
    obtain ⟨failure, hfails⟩ := commit_dead hhandle heffect
    refine ⟨failure, fun opened hopened ↦ ?_⟩
    have hregistry : opened.registry = session.registry := by rcases hopened with rfl | rfl <;> rfl
    have hperform : call.enter platform opened =
        (opened.commit { effect }).1.pursue (opened.commit { effect }).2 := by
      rw [Call.enter, hdecide]
      rfl
    rw [hperform, hfails opened hregistry]
    exact Prod.ext (hkept hopened).collect_eq_self rfl
  by_cases hretain : ∃ handle, call = .retain handle
  · obtain ⟨handle, rfl⟩ := hretain
    exact hcommit rfl (fun _ ↦ rfl) (.inl rfl)
  by_cases hrelease : ∃ handle, call = .release handle
  · obtain ⟨handle, rfl⟩ := hrelease
    exact hcommit rfl (fun _ ↦ rfl) (.inr rfl)
  obtain ⟨failure, hrefuses⟩ : (call.decide platform session).Refuses :=
    refuses_decide hdead (not_exists.1 hretain) (not_exists.1 hrelease)
  refine ⟨failure, fun opened hopened ↦ ?_⟩
  have hdecide : call.decide platform opened = call.decide platform session := by
    rcases hopened with rfl | rfl
    · rfl
    · exact decide_takeTicket platform session call
  unfold Call.enter perform
  rw [hdecide, hrefuses]

/-- What it is for a call to be refused. The session it is entered in stays the same. Where a client
makes the call, its failure is reported once, in that session, and the client is answered with the
sentinel of the call; where an error handler makes it, its failure is reported once, and the handler
goes on. -/
structure Refused (program : Program) (session : Session) (call : Call) (failure : Failure) :
    Prop where
  unchanged : call.enter program.toPlatform session = (session, .ended (.error (.failure failure)))
  answered :
    let told := session.takeTicket.1.reportInterruption program nesting (.failure failure)
    (session.startCall program call).1 =
      { told.1 with
        answers := told.1.answers ++ [(session.nextTicket, ⟨.ok call.sentinel, told.2⟩)] }
  handled : ∀ depth note notes, session.exit = none →
    let told := session.reportInterruption program depth (.failure failure)
    act program (report program depth) note (session, notes) (.call call) =
      (told.1, notes ++ told.2)

/-- A call with a handle that is not live, or not of the kind it needs, is refused. -/
theorem refused_of_dead (hsettled : session.Settled) (hdead : ¬session.Admits call) :
    ∃ failure, session.Refused program call failure := by
  obtain ⟨failure, henter⟩ := enter_dead program.toPlatform hsettled hdead
  have hunchanged := henter session (.inl rfl)
  refine ⟨failure, hunchanged, ?_, ?_⟩
  · have hopened := henter session.takeTicket.1 (.inr rfl)
    unfold startCall
    simp only [hopened]
    rfl
  · intro depth note notes hexit
    unfold act
    simp only [hexit, hunchanged]
    rfl

/-! ## Handles that have been released -/

/-- With its last reference a handle is gone. -/
theorem released_of_release {handle : Handle} {registry : Registry ObjectId}
    {slot : Slot ObjectId} (hrelease : session.registry.release handle = .ok (registry, some slot))
    (hordered : session.registry.Ordered) : (session.release handle).1.registry.Released handle := by
  obtain ⟨events, hresult⟩ := release_of_last hrelease
  simp only at hresult
  have hregistry : (session.release handle).1.registry = registry := by
    rw [hresult]
    split
    · exact congrArg Session.registry (leave_eq _ _ _).1
    · rfl
  rcases Registry.release_eq_ok hrelease with ⟨-, hnone⟩ | ⟨gone, hgone, rfl, -⟩
  · exact absurd hnone (by simp)
  · rw [hregistry]
    refine ⟨?_, ?_⟩
    · rw [Table.next_erase]
      exact hordered.lt_next hgone
    · rw [Table.get?_erase, if_pos rfl]

/-- What comes after the last reference of a handle has been released: by a client, through the
boundary or by a request, or by an error handler. -/
inductive Releases (program : Program) (session : Session) (handle : Handle) : Session → Prop where
  | call : Releases program session handle (session.startCall program (.release handle)).1
  | request : Releases program session handle (session.startRequest program (.release handle)).1
  | handler : Releases program session handle
      (((Call.release handle).enter program.toPlatform session).1.await program.toPlatform
        ((Call.release handle).enter program.toPlatform session).2).1

theorem Releases.settled {handle : Handle} {after : Session}
    (hreleases : Releases program session handle after) (hsettled : session.Settled) :
    after.Settled := by
  cases hreleases with
  | call => exact (Step.call session _).settled hsettled
  | request => exact (Step.request session _).settled hsettled
  | handler => exact (continues_call program hsettled _).settled

/-- A handle is gone after its last reference has been released. -/
theorem Releases.released {handle : Handle} {registry : Registry ObjectId} {slot : Slot ObjectId}
    {after : Session} (hreleases : Releases program session handle after)
    (hsettled : session.Settled)
    (hrelease : session.registry.release handle = .ok (registry, some slot)) :
    after.registry.Released handle := by
  let decide : Deciding Decision := pure { effect := .release handle }
  have hdecide (opened : Session) : decide.Ensures (Decision.Supported opened.heap.get?) :=
    @Call.ensures_decide program.toPlatform opened (.release handle)
  -- The handle is gone as soon as the operation has been committed.
  have hperformed {opened : Session} (hregistry : opened.registry = session.registry) :
      (opened.perform decide).1.registry.Released handle := by
    rw [← hregistry] at hrelease
    have hpursue : Evolves program.toPlatform _ _ _ _ :=
      evolves_pursue (opened.release handle).1 (opened.release handle).2
    exact hpursue.follows.released
      (released_of_release hrelease (hregistry ▸ hsettled.kept.rooted.numbered))
  let performed := session.takeTicket.1.perform decide
  have hfiled (manner : Manner) :
      (performed.1.file program session.takeTicket.2 manner performed.2).registry.Released
        handle := by
    obtain ⟨hkept, hticketed, -⟩ := kept_takeTicket hsettled.kept hsettled.ticketed
    have hfile : Evolves program.toPlatform performed.1 _
        (performed.1.file program session.takeTicket.2 manner performed.2) [] :=
      evolves_file (hkept.perform (hdecide _))
        (hticketed.frame (frame_perform session.takeTicket.1 decide))
    exact hfile.follows.released (hperformed rfl)
  cases hreleases with
  | call => exact hfiled _
  | request => exact hfiled _
  | handler =>
    obtain ⟨hkept, hticketed, -⟩ := hsettled.enter (hdecide session)
    have hawait : Evolves program.toPlatform _ _ _ _ := evolves_await hkept hticketed
    exact hawait.follows.released (hperformed rfl)

/-- Wherever a call is made, it is refused if one of its handles is not live or names an object of
another kind than the call needs. A handle that has lost its last reference is not live ever after,
so at every later moment each call with it is refused. -/
theorem dead_handles_stay_dead (hvisited : Visited program session) :
    (∀ call, ¬session.Admits call → ∃ failure, session.Refused program call failure) ∧
    ∀ handle registry slot after later,
      session.registry.release handle = .ok (registry, some slot) →
      Releases program session handle after → Passes program after later →
      later.registry.get? handle = none ∧
        ∀ (call : Call) (kind : Option Kind), (kind, handle) ∈ call.handles →
          ∃ failure, later.Refused program call failure := by
  have hsettled := hvisited.settled
  refine ⟨fun call ↦ refused_of_dead hsettled, ?_⟩
  intro handle registry slot after later hrelease hreleases hpasses
  have hafter := hreleases.settled hsettled
  have hreleased := hpasses.released hafter (hreleases.released hsettled hrelease)
  refine ⟨hreleased.gone, fun call kind hgiven ↦ ?_⟩
  refine refused_of_dead (hpasses.settled hafter) fun hadmits ↦ ?_
  exact not_live_of_released hreleased kind (hadmits _ hgiven)

/-- A device with a queue on it. -/
def occupied : Session :=
  (startCall {} (startRequest {} {} (.hostDevice 0)).1 (.newQueue 1)).1

/-- The queue keeps the device alive when its handle is released. But no other queue can be made on
it, also when another device has got a handle since. -/
theorem dead_handles_stay_dead_device :
    ∃ later failure, Passes {} occupied later ∧ later.heap.device? 1 = some (.host 0 0) ∧
      (later.registry.get? 3).isSome ∧ later.Refused {} (.newQueue 1) failure := by
  have hvisited : Visited {} occupied :=
    .reachable (.step (.step (.fresh ⟨rfl, rfl, rfl, rfl, rfl⟩) (.request _ _)) (.call _ _))
  have hpasses (session : Session) (request : Request) :
      Passes {} session (startRequest {} session request).1 := .passage .refl (.step (.request _ _))
  have hreleased := hpasses (startCall {} occupied (.release 1)).1 (.hostDevice 0)
  obtain ⟨-, hdead⟩ := dead_handles_stay_dead hvisited
  obtain ⟨-, hrefused⟩ := hdead 1 _ _ _ _ rfl .call hreleased
  obtain ⟨failure, hfailure⟩ := hrefused (.newQueue 1) _ List.mem_cons_self
  refine ⟨_, failure, .passage (.passage .refl (.step (.call _ (.release 1))))
    (.step (.request _ (.hostDevice 0))), rfl, rfl, hfailure⟩

end Session

end Offload
