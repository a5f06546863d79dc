import Offload.Proofs.Backend.Choice
import Offload.Proofs.Session.Backing

/-!
# Operations that consult the settings

Three kinds of operations work with the settings: those that make a view over memory of the
runtime, those that make a queue of the host, and, in a build with the graphics back-end, those
that ask for a context of the runtime's own which need not be one of the host. They resolve the
settings even where they come to nothing in the end. What any other operation decides is the same
in every environment, so it leaves settings that nothing has resolved unresolved.
-/

namespace Offload

open Deciding

variable {platform : Platform} {session : Session} {inquiry : Inquiry}

/-! ## What is asked -/

/-- An inquiry asks for a context of a family, of the runtime's own. -/
inductive Inquiry.AsksContext (family : Family) : Inquiry → Prop where
  | call {code : Nat} (hcode : Call.decodeFamily code = .ok family) :
    AsksContext family (.call (.newContext code))
  | request : AsksContext family (.request (.context family none))

/-- An inquiry consults the settings. -/
inductive Inquiry.Consults (platform : Platform) (session : Session) : Inquiry → Prop where
  | view {context : ObjectId} {address size : Nat} {flags : ViewFlags} {inquiry : Inquiry}
    (hasks : session.AsksView context address size flags inquiry) (hbacked : flags.Backed address) :
    Consults platform session inquiry
  | queue {device : Handle} {owner context : ObjectId} {index : Nat}
    (hdevice : session.device device = .ok (owner, .host index context)) :
    Consults platform session (.call (.newQueue device))
  | context {family : Family} {inquiry : Inquiry} (hasks : inquiry.AsksContext family)
    (hfamily : family ≠ .cpu) (hgpu : platform.hasGpu = true) : Consults platform session inquiry

theorem Inquiry.drawn_decide {resolved : Settings} (hsound : session.Sound []) (inquiry : Inquiry) :
    (inquiry.decide platform session).Remarks platform.environment resolved
      (Decision.Drawn session resolved) := by
  cases inquiry with
  | call asked => exact Call.drawn_decide hsound asked
  | request asked => exact Request.drawn_decide hsound asked

/-! ## Resolving the settings -/

namespace Selection

theorem resolves_gpuContext (hgpu : platform.hasGpu = true) :
    (gpuContext platform none).Resolves platform.environment := by
  unfold gpuContext
  rw [if_pos hgpu]
  exact resolves_guardDriver <| resolves_bind (resolves_settings platform) fun settings _ ↦
    remarks_weaken (remarks_madeContext (remarks_newGpuContext settings.gpuDevice))
      fun _ _ ↦ trivial

/-- A context that need not be one of the host is sought at the driver first. -/
theorem resolves_context {family : Family} (hfamily : family ≠ .cpu)
    (hgpu : platform.hasGpu = true) :
    (context platform family none).Resolves platform.environment := by
  have hdriver := resolves_gpuContext hgpu
  cases family with
  | cpu => exact absurd rfl hfamily
  | gpu => exact hdriver
  | auto =>
    unfold context preferGpu
    dsimp only
    split
    · exact resolves_guardDriver hdriver
    · rw [if_neg (by simp [hgpu])]
      exact resolves_tryCatch (resolves_guardDriver hdriver) fun _ _ ↦
        remarks_after (remarks_remark _ _) fun _ ↦
          remarks_weaken (remarks_hostContext none) fun _ _ ↦ trivial

end Selection

namespace Session

theorem resolves_hostView {context : ObjectId} {address size : Nat} {flags : ViewFlags}
    (hbacked : flags.Backed address) :
    (session.hostView platform context address size flags).Resolves platform.environment := by
  unfold hostView
  rw [if_neg fun hshared ↦ hshared.2 (hbacked hshared.1)]
  exact resolves_bind (resolves_settings platform) fun _ _ ↦
    remarks_found fun _ _ ↦ remarks_pure trivial

theorem resolves_newQueue (owner : ObjectId) (index : Nat) (context : ObjectId) :
    (newQueue platform owner (.host index context)).Resolves platform.environment :=
  resolves_bind (resolves_settings platform) fun _ _ ↦
    remarks_after (remarks_remark _ _) fun _ ↦ remarks_pure trivial

end Session

namespace Inquiry

theorem AsksContext.decide_eq {family : Family} (hasks : inquiry.AsksContext family) :
    inquiry.decide platform session =
      Selection.context platform family none >>= fun creation ↦ pure (.create creation) := by
  cases hasks with
  | @call code hcode =>
    show (liftM (Call.decodeFamily code) >>= fun family ↦ Selection.context platform family none >>=
      fun creation ↦ pure (.create creation) : Deciding Decision) = _
    rw [hcode, lift_ok_bind]
  | request => rfl

/-- An inquiry that consults the settings resolves them, whatever else comes of it. -/
theorem Consults.resolves (hconsults : inquiry.Consults platform session) :
    (inquiry.decide platform session).Resolves platform.environment := by
  cases hconsults with
  | view hasks hbacked =>
    rw [hasks.decide_eq]
    exact resolves_bind (Session.resolves_hostView hbacked) fun _ _ ↦
      remarks_pure trivial
  | @queue device owner context index hdevice =>
    show (liftM (session.device device) >>= fun found ↦
      Session.newQueue platform found.1 found.2 : Deciding Decision).Resolves _
    rw [hdevice, lift_ok_bind]
    exact Session.resolves_newQueue owner index context
  | context hasks hfamily hgpu =>
    rw [hasks.decide_eq]
    exact resolves_bind (Selection.resolves_context hfamily hgpu) fun _ _ ↦
      remarks_pure trivial

theorem Consults.settings_enter (hconsults : inquiry.Consults platform session) :
    (inquiry.enter platform session).1.ambient.settings =
      some (session.ambient.resolve platform.environment).1 :=
  (Session.settings_perform session _).trans (hconsults.resolves session.ambient)

end Inquiry

/-! ## Doing without the settings -/

variable {environment : Environment}

namespace Session

section Views

variable {context : ObjectId} {address size : Nat} {flags : ViewFlags}

theorem hostView_congr (hgiven : ¬flags.Backed address) :
    session.hostView { platform with environment } context address size flags =
      session.hostView platform context address size flags := by
  have hshared : flags.kind = .shared ∧ address ≠ 0 := Classical.not_imp.1 hgiven
  unfold hostView
  rw [if_pos hshared, if_pos hshared]

theorem createContextView_congr {parent : Context}
    (hgiven : ∀ adopted ranges, parent = .host adopted ranges → ¬flags.Backed address) :
    session.createContextView { platform with environment } context parent address size flags =
      session.createContextView platform context parent address size flags := by
  cases parent with
  | foreign => rfl
  | host adopted ranges =>
    unfold createContextView
    rw [hostView_congr (hgiven adopted ranges rfl)]

theorem newContextView_congr {parent : Context}
    (hgiven : ∀ adopted ranges, parent = .host adopted ranges → flags.kind = .shared →
      ¬flags.Backed address) :
    session.newContextView { platform with environment } context parent address size flags =
      session.newContextView platform context parent address size flags := by
  unfold newContextView
  split
  · next hkind => exact createContextView_congr fun adopted ranges hhost ↦ hgiven _ _ hhost hkind
  · rfl

theorem newDeviceView_congr {device : Device}
    (hgiven : ∀ index owner, device = .host index owner → flags.kind ≠ .unknown →
      ¬flags.Backed address) :
    session.newDeviceView { platform with environment } device address size flags =
      session.newDeviceView platform device address size flags := by
  unfold newDeviceView
  split
  · rfl
  · next hkind =>
    cases device with
    | foreign => rfl
    | host index owner =>
      dsimp only
      rw [hostView_congr (hgiven index owner rfl hkind)]

end Views

theorem newQueue_congr {owner : ObjectId} {device : Device}
    (hforeign : ∀ index context, device ≠ .host index context) :
    newQueue { platform with environment } owner device = newQueue platform owner device := by
  cases device with
  | host index context => exact absurd rfl (hforeign index context)
  | foreign => rfl

end Session

theorem Selection.context_congr {family : Family}
    (hhost : family ≠ .cpu → platform.hasGpu = false) :
    Selection.context { platform with environment } family none =
      Selection.context platform family none := by
  have hgpu (hfamily : family ≠ .cpu) :
      gpuContext { platform with environment } none = gpuContext platform none := by
    unfold gpuContext
    rw [if_neg (by simp [hhost hfamily]), if_neg (by simp [hhost hfamily])]
  cases family with
  | cpu => rfl
  | gpu => exact hgpu nofun
  | auto =>
    unfold context
    dsimp only
    rw [hgpu nofun]
    rfl

namespace Inquiry

/-- What an inquiry decides that does not consult the settings is the same in every environment. -/
theorem decide_congr (hspares : ¬inquiry.Consults platform session) (environment : Environment) :
    inquiry.decide { platform with environment } session = inquiry.decide platform session := by
  have hcontext {family : Family} (hasks : inquiry.AsksContext family) (hfamily : family ≠ .cpu) :
      platform.hasGpu = false :=
    Bool.eq_false_iff.2 fun hgpu ↦ hspares (.context hasks hfamily hgpu)
  have hview {context : ObjectId} {address size : Nat} {flags : ViewFlags}
      (hasks : session.AsksView context address size flags inquiry) : ¬flags.Backed address :=
    fun hbacked ↦ hspares (.view hasks hbacked)
  -- The other operations do not mention the environment, so for them nothing is to be shown.
  cases inquiry with
  | call asked =>
    cases asked with
    | newView device address size raw =>
      refine lift_bind_congr fun flags hflags ↦ lift_bind_congr fun found hdevice ↦ ?_
      refine Session.newDeviceView_congr fun index owner hhost hkind ↦ ?_
      obtain ⟨id, target⟩ := found
      obtain rfl : target = .host index owner := hhost
      exact hview (.callDevice hdevice hflags hkind)
    | newContextView parent address size raw =>
      refine lift_bind_congr fun flags hflags ↦ lift_bind_congr fun found hparent ↦ ?_
      refine Session.newContextView_congr fun adopted ranges hhost hkind ↦ ?_
      obtain ⟨id, target⟩ := found
      obtain rfl : target = .host adopted ranges := hhost
      exact hview (.callContext hparent hflags hkind)
    | newQueue device =>
      refine lift_bind_congr fun found hdevice ↦ Session.newQueue_congr fun index context hhost ↦ ?_
      obtain ⟨owner, target⟩ := found
      obtain rfl : target = .host index context := hhost
      exact hspares (.queue hdevice)
    | newContext code =>
      refine lift_bind_congr fun family hcode ↦ ?_
      rw [Selection.context_congr (hcontext (.call hcode))]
    | _ => rfl
  | request asked =>
    cases asked with
    | newView device address size kind hint =>
      refine lift_bind_congr fun found hdevice ↦ lift_bind_congr fun flags hflags ↦ ?_
      refine Session.newDeviceView_congr fun index owner hhost hkind ↦ ?_
      obtain ⟨id, target⟩ := found
      obtain rfl : target = .host index owner := hhost
      exact hview (.requestDevice hdevice hflags hkind)
    | createContextView parent address size kind hint =>
      refine lift_bind_congr fun found hparent ↦ lift_bind_congr fun flags hflags ↦ ?_
      refine Session.createContextView_congr fun adopted ranges hhost ↦ ?_
      obtain ⟨id, target⟩ := found
      obtain rfl : target = .host adopted ranges := hhost
      exact hview (.requestContext hparent hflags)
    | context family native =>
      cases native with
      | some native => rfl
      | none =>
        show Selection.context _ family none >>= _ = _
        rw [Selection.context_congr (hcontext .request)]
        rfl
    | _ => rfl

/-- So it leaves the settings as they are. -/
theorem settings_enter_of_not_consults (hsound : session.Sound [])
    (hspares : ¬inquiry.Consults platform session) :
    (inquiry.enter platform session).1.ambient.settings = session.ambient.settings := by
  refine (Session.settings_perform session _).trans <|
    Ambient.settings_eq_of_later fun environment ↦ ?_
  rw [← decide_congr hspares environment]
  exact (@drawn_decide { platform with environment } session _ hsound inquiry session.ambient rfl).1

end Inquiry

end Offload
