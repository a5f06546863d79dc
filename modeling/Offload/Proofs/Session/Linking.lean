import Offload.Proofs.Heap.Peers
import Offload.Proofs.Session.Effects
import Offload.Proofs.Session.Failing

/-!
# Dynamic linking through a run

A run links modules by calls and requests, also by those that error handlers make; nothing else makes
modules peers of each other, and every new module comes without peers. So the peers of a module are
the living modules that some link has listed together with it, in the order of their first such link.
A name is looked up in a module's own code and then in that of its peers in this order, and never in
the code of a peer's peers.
-/

namespace Offload

open Deciding Heap

/-! ## What is linked -/

/-- What a link on a device makes peers of each other: the modules of its list, if the device and all
of them are the host's own and there is one at least. -/
def linkedBy (device : Except Failure (ObjectId × Device))
    (modules : Except Failure (List (ObjectId × CodeModule))) : List (List ObjectId) :=
  match device, modules with
  | .ok (_, .host _ _), .ok found =>
    match Session.requireHostModules found with
    | .ok parts => [parts.map (·.1)]
    | .error _ => []
  | _, _ => []

theorem linkedBy_error (device : Except Failure (ObjectId × Device)) (failure : Failure) :
    linkedBy device (.error failure) = [] := by
  rcases device with failure | ⟨id, _ | _⟩ <;> rfl

/-- The set of modules that a call links. -/
def Call.linked (session : Session) : Call → List (List ObjectId)
  | linkDynamic device modules count =>
    linkedBy (session.device device) (decodeModules session modules count)
  | _ => []

/-- The set of modules that a request links. -/
def Request.linked (session : Session) : Request → List (List ObjectId)
  | linkDynamic owner modules => linkedBy (session.device owner) (modules.mapM session.module)
  | _ => []

/-- A link decides to link its set or, without one, on nothing of the kind; on a device of the host
it is refused then. -/
def Deciding.LinksAs (body : Deciding Decision) (linked : List (List ObjectId)) (onHost : Prop) :
    Prop :=
  (∃ set, linked = [set] ∧
      ∀ ambient, ∃ after, body.run.run ambient = (.ok { effect := .link set }, after)) ∨
    linked = [] ∧ body.Ensures Decision.Plain ∧ (onHost → body.Ensures fun _ ↦ False)

theorem Deciding.linksAs_of_refused {body : Deciding Decision} {linked : List (List ObjectId)}
    (hnone : linked = []) (hrefused : body.Ensures fun _ ↦ False) (onHost : Prop) :
    body.LinksAs linked onHost :=
  .inr ⟨hnone, fun ambient decision hdecision ↦ (hrefused ambient decision hdecision).elim,
    fun _ ↦ hrefused⟩

namespace Session

variable {program : Program} {platform : Platform} {session start before after : Session}
  {links : List (List ObjectId)} {progressed : Progressed} {stage : Stage} {id : ObjectId}

theorem linksAs_linkDynamic (device : ObjectId × Device) (modules : List (ObjectId × CodeModule)) :
    (linkDynamic device.2 modules).LinksAs (linkedBy (.ok device) (.ok modules))
      (∃ index context, device.2 = .host index context) := by
  obtain ⟨owner, device⟩ := device
  cases device with
  | foreign =>
    refine .inr ⟨rfl, ensures_pure trivial, ?_⟩
    rintro ⟨index, context, hhost⟩
    exact absurd hhost (by simp)
  | host index context =>
    cases hparts : requireHostModules modules with
    | error failure =>
      refine linksAs_of_refused (by simp [linkedBy, hparts]) ?_ _
      exact ensures_found fun parts hfound ↦ absurd (hparts.symm.trans hfound) (by simp)
    | ok parts =>
      refine .inl ⟨parts.map (·.1), by simp [linkedBy, hparts], fun ambient ↦ ?_⟩
      unfold linkDynamic
      simp only [hparts]
      exact ⟨_, rfl⟩

theorem refused_bind {α β : Type} {failure : Failure} {rest : α → Deciding β} :
    ((liftM (.error failure : Except Failure α) : Deciding α) >>= rest).Ensures fun _ ↦ False :=
  ensures_found fun _ hfound ↦ absurd hfound (by simp)

/-- A call to link resolves its modules before its device. -/
theorem linksAs_call (device : Handle) (modules : Option (List Handle)) (count : Nat) :
    ((Call.linkDynamic device modules count).decide platform session).LinksAs
      ((Call.linkDynamic device modules count).linked session)
      (∃ owner index context, session.device device = .ok (owner, .host index context)) := by
  show (liftM (Call.decodeModules session modules count) >>= fun found ↦
    liftM (session.device device) >>= fun target ↦ linkDynamic target.2 found :
      Deciding Decision).LinksAs
        (linkedBy (session.device device) (Call.decodeModules session modules count)) _
  cases hmodules : Call.decodeModules session modules count with
  | error failure => exact linksAs_of_refused (linkedBy_error _ failure) refused_bind _
  | ok found =>
    rw [lift_ok_bind]
    cases hdevice : session.device device with
    | error failure => exact linksAs_of_refused rfl refused_bind _
    | ok target =>
      rcases linksAs_linkDynamic target found with hlinks | ⟨hnone, hplain, hrefused⟩
      · exact .inl hlinks
      · refine .inr ⟨hnone, hplain, ?_⟩
        rintro ⟨owner, index, context, hhost⟩
        exact hrefused ⟨index, context, congrArg Prod.snd (Except.ok.inj hhost)⟩

/-- A request to link resolves its device before its modules. -/
theorem linksAs_request (owner : Handle) (modules : List Handle) :
    ((Request.linkDynamic owner modules).decide platform session).LinksAs
      ((Request.linkDynamic owner modules).linked session)
      (∃ id index context, session.device owner = .ok (id, .host index context)) := by
  show (liftM (session.device owner) >>= fun target ↦
    liftM (modules.mapM session.module) >>= fun found ↦ linkDynamic target.2 found :
      Deciding Decision).LinksAs
        (linkedBy (session.device owner) (modules.mapM session.module)) _
  cases hdevice : session.device owner with
  | error failure => exact linksAs_of_refused rfl refused_bind _
  | ok target =>
    rw [lift_ok_bind]
    cases hmodules : modules.mapM session.module with
    | error failure => exact linksAs_of_refused (linkedBy_error _ failure) refused_bind _
    | ok found =>
      rcases linksAs_linkDynamic target found with hlinks | ⟨hnone, hplain, hrefused⟩
      · exact .inl hlinks
      · refine .inr ⟨hnone, hplain, ?_⟩
        rintro ⟨id, index, context, hhost⟩
        exact hrefused ⟨index, context, congrArg Prod.snd (Except.ok.inj hhost)⟩

/-! ## What links nothing -/

theorem spares_collect (hordered : session.heap.Ordered) :
    session.heap.Spares session.collect.heap :=
  .collect hordered _

theorem spares_advance (hadvance : session.advance? stage = some (after, progressed)) :
    session.heap.Spares after.heap := by
  obtain ⟨progress, jobs, hheap⟩ := heap_advance hadvance
  exact hheap ▸ .modifyQueue _ _ _

theorem spares_pursue (hordered : session.heap.Ordered) (progressed : Progressed) :
    session.heap.Spares (session.pursue progressed).1.heap := by
  rcases session.pursue_cases progressed with ⟨outcome, rfl, hpursue⟩ | ⟨stage, rfl, hcases⟩
  · rw [hpursue]
    exact spares_collect hordered
  · rcases hcases with ⟨-, hpursue⟩ | ⟨after, outcome, hadvance, hpursue⟩ |
      ⟨middle, last, hadvance, hcases⟩
    · rw [hpursue]
      exact .refl _
    · rw [hpursue]
      have hafter := spares_advance hadvance
      exact hafter.trans (spares_collect (hafter.ordered hordered))
    · have hmiddle := spares_advance hadvance
      rcases hcases with ⟨after, outcome, hlast, hpursue⟩ | hpursue
      · rw [hpursue]
        have hafter := hmiddle.trans (spares_advance hlast)
        exact hafter.trans (spares_collect (hafter.ordered hordered))
      · rw [hpursue]
        exact hmiddle

theorem spares_placeView (session : Session) (view : View) :
    session.heap.Spares (session.placeView view).1.heap := by
  have hinsert (heap : Heap) (view : View) : heap.Spares (heap.insert (.view view)).1 :=
    .insert heap fun _ ↦ nofun
  cases view with
  | foreign => exact hinsert _ _
  | host view =>
    unfold placeView
    simp only
    split
    · exact .trans (.modifyContext _ _ _) (hinsert _ _)
    · exact hinsert _ _

theorem spares_placeCreation (session : Session) {creation : Creation}
    (hplain : (Decision.create creation).Plain) :
    session.heap.Spares (session.placeCreation creation).1.heap := by
  have hinsert (heap : Heap) {object : Object} (hobject : ∀ module, object ≠ .module module) :
      heap.Spares (heap.insert object).1 :=
    .insert heap fun module hmodule ↦ absurd hmodule (hobject _)
  cases creation with
  | view view => exact spares_placeView session view
  | module module =>
    refine .insert _ fun own hown ↦ ?_
    obtain rfl := Object.module.inj hown
    exact hplain
  | deviceWithContext index => exact .trans (hinsert _ (by simp)) (hinsert _ (by simp))
  | queueWithDevice capacity =>
    exact .trans (hinsert _ (by simp)) (.trans (hinsert _ (by simp)) (hinsert _ (by simp)))
  | context | device | kernel | queue | future => exact hinsert _ (by simp)

/-- Only a decision to link makes modules peers. -/
theorem spares_commit (session : Session) {decision : Decision} (hplain : decision.Plain) :
    session.heap.Spares (session.commit decision).1.heap := by
  obtain ⟨records, effect⟩ := decision
  cases effect with
  | create creation =>
    exact spares_placeCreation { session with host := records.foldl .record session.host } hplain
  | retain handle =>
    simp only [commit]
    split <;> exact .refl _
  | release handle =>
    show session.heap.Spares (Session.release _ handle).1.heap
    rw [(release_keeps _ handle).1]
    exact .refl _
  | link modules => exact hplain.elim
  | launch queue job => exact .insert _ fun module hmodule ↦ absurd hmodule (by simp)
  | settle future next => exact .settleFuture _ _ _
  | install handler => exact hplain.elim
  | _ => exact .refl _

theorem spares_perform {decide : Deciding Decision} (hordered : session.heap.Ordered)
    (hplain : decide.Ensures Decision.Plain) :
    session.heap.Spares (session.perform decide).1.heap := by
  unfold perform
  cases hrun : decide.run.run session.ambient with
  | mk outcome ambient =>
    cases outcome with
    | error interruption => exact .refl _
    | ok decision =>
      have hdecision := hplain session.ambient decision (by rw [hrun])
      have hcommit : session.heap.Spares (Session.commit { session with ambient } decision).1.heap :=
        spares_commit { session with ambient } hdecision
      exact hcommit.trans (spares_pursue (hcommit.ordered hordered) _)

theorem spares_work (hordered : session.heap.Ordered)
    (hwork : session.work? platform id = some after) : session.heap.Spares after.heap := by
  obtain ⟨queue, job, rest, host, failure, -, -, -, rfl⟩ := work?_eq_some hwork
  rw [finish_eq]
  have hretired : session.heap.Spares
      (({ session with host } : Session).retire id queue job rest failure).heap := by
    refine .trans ?_ (.modifyQueue _ _ _)
    unfold settled
    split
    · exact .refl _
    · exact .settleFuture _ _ _
  exact hretired.trans (.collect (hretired.ordered hordered) _)

/-! ## Histories of links -/

/-- What has been linked from one session on: set by set, by calls and by requests. Jobs that workers
run, clients that go on, and what leaves the heap alone link nothing. -/
inductive LinkHistory (program : Program) (start : Session) : List (List ObjectId) → Session → Prop where
  | start : LinkHistory program start [] start
  | call {links : List (List ObjectId)} {session : Session}
    (hhistory : LinkHistory program start links session) (call : Call) :
    LinkHistory program start (links ++ call.linked session)
      (call.enter program.toPlatform session).1
  | request {links : List (List ObjectId)} {session : Session}
    (hhistory : LinkHistory program start links session) (request : Request) :
    LinkHistory program start (links ++ request.linked session)
      (request.enter program.toPlatform session).1
  | work {links : List (List ObjectId)} {session after : Session} {id : ObjectId}
    (hhistory : LinkHistory program start links session)
    (hwork : session.work? program.toPlatform id = some after) :
    LinkHistory program start links after
  | resume {links : List (List ObjectId)} {session : Session}
    (hhistory : LinkHistory program start links session) (client : Waiting) :
    LinkHistory program start links
      ((session.withoutClient client.ticket).pursue (.waits client.stage)).1
  | aside {links : List (List ObjectId)} {session after : Session}
    (hhistory : LinkHistory program start links session) (hheap : after.heap = session.heap) :
    LinkHistory program start links after

/-! ## What a link has listed -/

/-- The modules of a list of handles, one by one. -/
def Listed (session : Session) (handles : List Handle) (set : List ObjectId) : Prop :=
  List.Forall₂ (fun handle id ↦ ∃ module, session.module handle = .ok (id, .host module)) handles set

theorem forall₂_trans {α β γ : Type} {first : α → β → Prop} {second : β → γ → Prop}
    {values : List α} {middle : List β} {results : List γ}
    (hfirst : List.Forall₂ first values middle) (hsecond : List.Forall₂ second middle results) :
    List.Forall₂ (fun value result ↦ ∃ other, first value other ∧ second other result)
      values results := by
  induction hfirst generalizing results with
  | nil =>
    cases hsecond
    exact .nil
  | cons hvalue _ ih =>
    cases hsecond with
    | cons hother hrest => exact .cons ⟨_, hvalue, hother⟩ (ih hrest)

theorem Listed.loads {handles : List Handle} {set : List ObjectId}
    (hlisted : session.Listed handles set) : ∀ id ∈ set, session.heap.loads id = true := by
  intro id hid
  obtain ⟨handle, -, module, hmodule⟩ := exists_of_forall₂ hlisted.flip id hid
  exact loads_iff.2 ⟨module, hostModule?_eq_some.2 (module?_eq_some.1 (lookup_eq_ok hmodule).2)⟩

theorem listed_of_linkedBy {device : Except Failure (ObjectId × Device)} {handles : List Handle}
    {set : List ObjectId} (hset : linkedBy device (handles.mapM session.module) = [set]) :
    session.Listed handles set := by
  cases hfound : handles.mapM session.module with
  | error failure => simp [hfound, linkedBy_error] at hset
  | ok found =>
    cases hparts : requireHostModules found with
    | error failure =>
      rcases device with failure | ⟨id, _ | _⟩ <;> simp [hfound, hparts, linkedBy] at hset
    | ok parts =>
      have hids : set = parts.map (·.1) := by
        rcases device with failure | ⟨id, _ | _⟩ <;> simp [hfound, hparts, linkedBy] at hset
        exact hset.symm
      have hown : List.Forall₂ (fun found part ↦ requireHostModule found = .ok part) found parts := by
        unfold requireHostModules at hparts
        split at hparts
        · exact absurd hparts (by simp)
        · exact forall₂_of_mapM_eq_ok hparts
      rw [hids, Listed, List.forall₂_map_right_iff]
      refine (forall₂_trans (forall₂_of_mapM_eq_ok hfound) hown).imp ?_
      rintro handle ⟨id, own⟩ ⟨⟨found, module⟩, hmodule, hpart⟩
      cases module with
      | foreign => exact absurd hpart (by simp [requireHostModule])
      | host module =>
        obtain ⟨rfl, -⟩ := Prod.mk.inj (Except.ok.inj hpart)
        exact ⟨module, hmodule⟩

theorem listed_of_call {call : Call} {set : List ObjectId} (hset : call.linked session = [set]) :
    ∃ device handles count, call = .linkDynamic device (some handles) count ∧
      session.Listed (handles.take count) set := by
  cases call with
  | linkDynamic device modules count =>
    have hset : linkedBy (session.device device) (Call.decodeModules session modules count) = [set] :=
      hset
    unfold Call.decodeModules at hset
    split at hset
    · exact absurd hset (by simp [linkedBy_error])
    · cases modules with
      | none => exact absurd hset (by simp [linkedBy_error])
      | some handles => exact ⟨device, handles, count, rfl, listed_of_linkedBy hset⟩
  | _ => exact absurd hset (by simp [Call.linked])

theorem listed_of_request {request : Request} {set : List ObjectId}
    (hset : request.linked session = [set]) :
    ∃ owner handles, request = .linkDynamic owner handles ∧ session.Listed handles set := by
  cases request with
  | linkDynamic owner handles => exact ⟨owner, handles, rfl, listed_of_linkedBy hset⟩
  | _ => exact absurd hset (by simp [Request.linked])

/-! ## Operations and what they link -/

/-- What an operation does to modules: it links a set of living ones, or makes nothing a peer of
anything. -/
def LinksOrSpares (session : Session) (linked : List (List ObjectId))
    (result : Session × Progressed) : Prop :=
  (∃ set, linked = [set] ∧ (∀ id ∈ set, session.heap.loads id = true) ∧
      (∃ ambient, result.1 =
        ({ session with ambient, heap := session.heap.link set } : Session).collect) ∧
      result.2 = .reply .nothing) ∨
    linked = [] ∧ session.heap.Spares result.1.heap

theorem linksOrSpares_perform {decide : Deciding Decision} {linked : List (List ObjectId)}
    {onHost : Prop} (hordered : session.heap.Ordered) (hlinks : decide.LinksAs linked onHost)
    (hloads : ∀ set, linked = [set] → ∀ id ∈ set, session.heap.loads id = true) :
    session.LinksOrSpares linked (session.perform decide) := by
  rcases hlinks with ⟨set, hset, hruns⟩ | ⟨hnone, hplain, -⟩
  · obtain ⟨ambient, hrun⟩ := hruns session.ambient
    refine .inl ⟨set, hset, hloads set hset, ⟨ambient, ?_⟩, ?_⟩
    · unfold perform
      rw [hrun]
      rfl
    · unfold perform
      rw [hrun]
      rfl
  · exact .inr ⟨hnone, spares_perform hordered hplain⟩

theorem linksOrSpares_call (hordered : session.heap.Ordered) (call : Call) :
    session.LinksOrSpares (call.linked session) (call.enter platform session) := by
  by_cases hlink : ∃ device modules count, call = .linkDynamic device modules count
  · obtain ⟨device, modules, count, rfl⟩ := hlink
    refine linksOrSpares_perform hordered (linksAs_call device modules count) fun set hset ↦ ?_
    obtain ⟨_, _, _, -, hlisted⟩ := listed_of_call hset
    exact hlisted.loads
  · have hother : ∀ device modules count, call ≠ .linkDynamic device modules count :=
      fun device modules count hcall ↦ hlink ⟨device, modules, count, hcall⟩
    have hnone : call.linked session = [] := by
      cases call with
      | linkDynamic device modules count => exact absurd rfl (hother device modules count)
      | _ => rfl
    by_cases hinstall : ∃ handler, call = .setHandler handler
    · obtain ⟨handler, rfl⟩ := hinstall
      exact .inr ⟨hnone, .collect hordered _⟩
    · exact .inr ⟨hnone, spares_perform hordered (Call.plain_decide (not_exists.1 hinstall) hother)⟩

theorem linksOrSpares_request (hordered : session.heap.Ordered) (request : Request) :
    session.LinksOrSpares (request.linked session) (request.enter platform session) := by
  by_cases hlink : ∃ owner modules, request = .linkDynamic owner modules
  · obtain ⟨owner, modules, rfl⟩ := hlink
    refine linksOrSpares_perform hordered (linksAs_request owner modules) fun set hset ↦ ?_
    obtain ⟨_, _, -, hlisted⟩ := listed_of_request hset
    exact hlisted.loads
  · have hother : ∀ owner modules, request ≠ .linkDynamic owner modules :=
      fun owner modules hrequest ↦ hlink ⟨owner, modules, hrequest⟩
    have hnone : request.linked session = [] := by
      cases request with
      | linkDynamic owner modules => exact absurd rfl (hother owner modules)
      | _ => rfl
    exact .inr ⟨hnone, spares_perform hordered (Request.plain_decide hother)⟩

/-! ## The history of a run -/

namespace LinkHistory

variable {more : List (List ObjectId)}

theorem trans (hfirst : LinkHistory program start links before)
    (hsecond : LinkHistory program before more after) :
    LinkHistory program start (links ++ more) after := by
  induction hsecond with
  | start =>
    rw [List.append_nil]
    exact hfirst
  | call _ call ih =>
    rw [← List.append_assoc]
    exact ih.call call
  | request _ request ih =>
    rw [← List.append_assoc]
    exact ih.request request
  | work _ hwork ih => exact ih.work hwork
  | resume _ client ih => exact ih.resume client
  | aside _ hheap ih => exact ih.aside hheap

theorem workAll (hhistory : LinkHistory program start links session) (fuel : Nat) :
    LinkHistory program start links (session.workAll program.toPlatform fuel) := by
  induction fuel generalizing session with
  | zero => exact hhistory
  | succ fuel ih =>
    unfold Session.workAll
    split
    · exact hhistory
    · next after hsome =>
      obtain ⟨queue, -, hwork⟩ := List.exists_of_findSome?_eq_some hsome
      exact ih (hhistory.work hwork)

theorem await (hhistory : LinkHistory program start links session)
    (hkept : session.Kept progressed.flight) (hticketed : session.Ticketed) :
    LinkHistory program start links (session.await program.toPlatform progressed).1 := by
  cases progressed with
  | ended outcome => exact hhistory
  | waits stage =>
    obtain ⟨-, fuel, client, -, rfl, hcases⟩ := await_cases program.toPlatform hkept hticketed
    have hparked : LinkHistory program start links (session.parked client.stage) :=
      hhistory.aside rfl
    have hworked := hparked.workAll fuel
    rcases hcases with ⟨after, outcome, hpursue, hawait⟩ | hawait
    · have hresumed := hworked.resume client
      rw [hpursue] at hresumed
      rw [hawait]
      exact hresumed
    · rw [hawait]
      exact hworked

end LinkHistory

/-- What an error handler does has a history of links. -/
theorem handles_links (program : Program) :
    Handles program fun before after ↦
      after.Settled ∧ ∃ links, LinkHistory program before links after where
  settled := fun hrelated ↦ hrelated.1
  refl := fun hsettled ↦ ⟨hsettled, [], .start⟩
  trans := by
    rintro before after last ⟨-, links, hfirst⟩ ⟨hsettled, more, hsecond⟩
    exact ⟨hsettled, links ++ more, hfirst.trans hsecond⟩
  remark := fun hsettled ambient handler exit ↦
    ⟨(Continues.remark hsettled ambient handler exit).settled, [], LinkHistory.start.aside rfl⟩
  call := by
    intro session hsettled call
    have hdecide : (call.decide program.toPlatform session).Ensures _ := Call.ensures_decide call
    obtain ⟨hkept, hticketed, -⟩ := hsettled.enter hdecide
    exact ⟨(continues_call program hsettled call).settled, _,
      (LinkHistory.start.call call).await hkept hticketed⟩

theorem LinkHistory.file {ticket : Ticket} {manner : Manner}
    (hhistory : LinkHistory program start links session)
    (hkept : session.Kept progressed.flight) (hticketed : session.Ticketed) :
    ∃ more, LinkHistory program start (links ++ more)
      (session.file program ticket manner progressed) := by
  have hsame {after : Session} (hheap : after.heap = session.heap) :
      ∃ more, LinkHistory program start (links ++ more) after :=
    ⟨[], (List.append_nil links).symm ▸ hhistory.aside hheap⟩
  cases progressed with
  | waits stage => exact hsame rfl
  | ended outcome =>
    cases manner with
    | direct => exact hsame rfl
    | guarded sentinel =>
      cases outcome with
      | ok reply => exact hsame rfl
      | error interruption =>
        obtain ⟨-, more, hreport⟩ := (handles_links program).report nesting interruption.kind
          interruption.message ⟨hkept, hticketed⟩
        exact ⟨more, (hhistory.trans hreport).aside rfl⟩

/-- Every step has a history of links. -/
theorem Step.linkHistory (hstep : Step program before after) (hsettled : before.Settled) :
    ∃ links, LinkHistory program before links after := by
  have hticket : LinkHistory program before [] before.takeTicket.1 := .aside .start rfl
  obtain ⟨hopened, hticketed, -⟩ := kept_takeTicket hsettled.kept hsettled.ticketed
  cases hstep with
  | call call =>
    have hdecide : (call.decide program.toPlatform before.takeTicket.1).Ensures _ :=
      Call.ensures_decide call
    obtain ⟨more, hfiled⟩ := (hticket.call call).file (hopened.perform hdecide)
      (hticketed.frame (frame_perform _ _))
    exact ⟨_, hfiled⟩
  | request request =>
    have hdecide : (request.decide program.toPlatform before.takeTicket.1).Ensures _ :=
      Request.ensures_decide hopened.toSound request
    obtain ⟨more, hfiled⟩ := (hticket.request request).file (hopened.perform hdecide)
      (hticketed.frame (frame_perform _ _))
    exact ⟨_, hfiled⟩
  | work id hwork => exact ⟨[], LinkHistory.start.work hwork⟩
  | @resume _ client hclient hresume =>
    rcases resume?_cases hresume with ⟨-, rfl⟩ | ⟨moved, progressed, hpursue, rfl⟩
    · exact ⟨[], LinkHistory.start.aside rfl⟩
    · obtain ⟨hkept, hticketed, -⟩ := hsettled.pursueClient hclient hpursue
      have hresumed := (LinkHistory.start : LinkHistory program before [] before).resume client
      rw [hpursue] at hresumed
      obtain ⟨more, hfiled⟩ := hresumed.file hkept hticketed
      exact ⟨_, hfiled⟩
  | report kind message =>
    exact ((handles_links program).report nesting kind message hsettled).2
  | outside ambient memory calls gateOpen => exact ⟨[], LinkHistory.start.aside rfl⟩

/-- Every run has a history of links. -/
theorem Runs.linkHistory (hruns : Runs program start session) (hsettled : start.Settled) :
    session.Settled ∧ ∃ links, LinkHistory program start links session := by
  induction hruns with
  | refl => exact ⟨hsettled, [], .start⟩
  | step _ hstep ih =>
    obtain ⟨hbefore, links, hhistory⟩ := ih
    obtain ⟨more, hmore⟩ := hstep.linkHistory hbefore
    exact ⟨hstep.settled hbefore, links ++ more, hhistory.trans hmore⟩

/-- What lies between two moments of a run has a history of links. -/
theorem Passage.linkHistory (hpassage : Passage program before after) (hsettled : before.Settled) :
    ∃ links, LinkHistory program before links after := by
  cases hpassage with
  | step hstep => exact hstep.linkHistory hsettled
  | ticket | deed | answered => exact ⟨[], LinkHistory.start.aside rfl⟩
  | @interrupted _ call interruption henter =>
    have hcall : LinkHistory program before ([] ++ call.linked before)
        (call.enter program.toPlatform before).1 := LinkHistory.start.call call
    rw [henter] at hcall
    exact ⟨_, hcall⟩
  | @resumed _ client interruption hclient hpursue =>
    have hresume : LinkHistory program before []
        ((before.withoutClient client.ticket).pursue (.waits client.stage)).1 :=
      LinkHistory.start.resume client
    rw [hpursue] at hresume
    exact ⟨[], hresume⟩
  | awaited call => exact ((handles_links program).call hsettled call).2

theorem Reachable.linkHistory (hreachable : Reachable program session) :
    ∃ start links, start.Fresh ∧ LinkHistory program start links session := by
  induction hreachable with
  | @fresh start hfresh => exact ⟨start, [], hfresh, .start⟩
  | step hbefore hstep ih =>
    obtain ⟨start, links, hfresh, hhistory⟩ := ih
    obtain ⟨more, hmore⟩ := hstep.linkHistory hbefore.settled
    exact ⟨start, links ++ more, hfresh, hhistory.trans hmore⟩

/-- Every session in which an operation is started has a history of links. -/
theorem Visited.linkHistory (hvisited : Visited program session) :
    ∃ start links, start.Fresh ∧ LinkHistory program start links session := by
  refine (hvisited.induct Reachable.linkHistory ?_).2
  rintro before after hsettled hpassage ⟨start, links, hfresh, hhistory⟩
  obtain ⟨more, hmore⟩ := hpassage.linkHistory hsettled
  exact ⟨start, links ++ more, hfresh, hhistory.trans hmore⟩

/-! ## Peers follow the history -/

namespace LinkHistory

/-- What linking living modules keeps, and everything that links nothing, holds after a history. -/
theorem induct {motive : List (List ObjectId) → Heap → Prop}
    (hhistory : LinkHistory program start links session) (hordered : start.heap.Ordered)
    (hstart : motive [] start.heap)
    (hlink : ∀ {links heap set}, (∀ id ∈ set, heap.loads id = true) → motive links heap →
      motive (links ++ [set]) (heap.link set))
    (hspares : ∀ {links before after}, Spares before after → motive links before →
      motive links after) :
    session.heap.Ordered ∧ motive links session.heap := by
  have hspared {links : List (List ObjectId)} {before after : Heap} (hafter : Spares before after)
      (hbefore : before.Ordered ∧ motive links before) : after.Ordered ∧ motive links after :=
    ⟨hafter.ordered hbefore.1, hspares hafter hbefore.2⟩
  have hoperation {links linked : List (List ObjectId)} {before : Session}
      {result : Session × Progressed} (hresult : before.LinksOrSpares linked result)
      (hbefore : before.heap.Ordered ∧ motive links before.heap) :
      result.1.heap.Ordered ∧ motive (links ++ linked) result.1.heap := by
    rcases hresult with ⟨set, rfl, hloads, ⟨ambient, hafter⟩, -⟩ | ⟨rfl, hnothing⟩
    · have hordered := (alike_link before.heap set).ordered hbefore.1
      have hcollect : Spares (before.heap.link set) result.1.heap := hafter ▸ .collect hordered _
      exact hspared hcollect ⟨hordered, hlink hloads hbefore.2⟩
    · rw [List.append_nil]
      exact hspared hnothing hbefore
  induction hhistory with
  | start => exact ⟨hordered, hstart⟩
  | call _ call ih => exact hoperation (linksOrSpares_call ih.1 call) ih
  | request _ request ih => exact hoperation (linksOrSpares_request ih.1 request) ih
  | work _ hwork ih => exact hspared (spares_work ih.1 hwork) ih
  | @resume _ before _ client ih =>
    have hopened : (before.withoutClient client.ticket).heap.Ordered := ih.1
    have hpursued := spares_pursue hopened (.waits client.stage)
    exact hspared hpursued ih
  | aside _ hheap ih => exact hheap ▸ ih

theorem linked (hhistory : LinkHistory program start links session) (hfresh : start.Fresh) :
    session.heap.Ordered ∧ session.heap.Linked links := by
  have hordered : start.heap.Ordered :=
    Table.ordered_of_entries_eq_nil (by rw [hfresh.heap])
  have hnone (id : ObjectId) : start.heap.hostModule? id = none := by
    rw [hfresh.heap]
    rfl
  refine (hhistory.induct (motive := fun links heap ↦ heap.Linked links) hordered ?_
    (fun hloads hlinked ↦ hlinked.link hloads) fun hspares hlinked ↦ hlinked.spares hspares)
  refine ⟨by simp, ?_, ?_, ?_⟩
  all_goals
    intro id module hmodule
    exact absurd ((hnone id).symm.trans hmodule) (by simp)

/-- A module that is alive, and is no newer than a session before it, was alive in that session with
the same code. -/
theorem code {module : HostModule} (hhistory : LinkHistory program start links session)
    (hordered : start.heap.Ordered) (hold : id < start.heap.next)
    (hmodule : session.heap.hostModule? id = some module) :
    ∃ old, start.heap.hostModule? id = some old ∧ old.code = module.code := by
  refine (hhistory.induct (motive := fun _ heap ↦ start.heap.next ≤ heap.next ∧
    ∀ module, heap.hostModule? id = some module →
      ∃ old, start.heap.hostModule? id = some old ∧ old.code = module.code) hordered
    ⟨Nat.le_refl _, fun module hmodule ↦ ⟨module, hmodule, rfl⟩⟩ ?_ ?_).2.2 module hmodule
  · rintro links heap set - ⟨hnext, hstart⟩
    refine ⟨(alike_link heap set).next ▸ hnext, fun module hafter ↦ ?_⟩
    rw [hostModule?_link] at hafter
    obtain ⟨linked, hlinked, rfl⟩ := Option.map_eq_some_iff.1 hafter
    exact hstart linked hlinked
  · rintro links before after hspares ⟨hnext, hstart⟩
    refine ⟨Nat.le_trans hnext hspares.next_le, fun module hafter ↦ ?_⟩
    rcases hspares.module hafter with hbefore | ⟨hnew, -⟩
    · exact hstart module hbefore
    · exact absurd (Nat.lt_of_lt_of_le hold hnext) (Nat.not_lt.2 hnew)

theorem loads (hhistory : LinkHistory program start links session) (hordered : start.heap.Ordered)
    (hold : id < start.heap.next) (hloads : session.heap.loads id = true) :
    start.heap.loads id = true := by
  obtain ⟨module, hmodule⟩ := loads_iff.1 hloads
  obtain ⟨old, hold, -⟩ := hhistory.code hordered hold hmodule
  exact loads_iff.2 ⟨old, hold⟩

end LinkHistory

end Session

end Offload
