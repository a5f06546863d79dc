import Offload.Proofs.Session.Remarks
import Offload.Proofs.Session.Steps

/-!
# The open choice of a back-end

A device or a context can be asked for without naming its family. A build with both back-ends then
runs the graphics constructor, and takes what the host gives wherever the constructor does not come
to an object, be it that it fails or that it panics. A build without the graphics back-end asks the
host at once, and one without the host is left with what the graphics back-end says. Trying the
graphics back-end in vain leaves nothing behind but settings that have become resolved and events.
-/

namespace Offload

/-- The failure that a guarded driver call makes of an interruption. -/
def Interruption.contained : Interruption → Failure
  | .failure cause => cause
  | .panic text => .backendUnavailable .gpu (text.getD "driver initialization panicked")

namespace Deciding

variable {α β : Type} {body : Deciding α}

/-! ## Guarded driver calls -/

theorem ext_run {other : Deciding α}
    (hrun : ∀ ambient, body.run.run ambient = other.run.run ambient) : body = other :=
  ExceptT.ext (StateT.ext hrun)

theorem run_guardDriver (body : Deciding α) (ambient : Ambient) :
    (guardDriver body).run.run ambient =
      ((body.run.run ambient).1.mapError fun interruption ↦ .failure interruption.contained,
        (body.run.run ambient).2) := by
  rw [guardDriver, run_tryCatch]
  obtain ⟨outcome | value, after⟩ := body.run.run ambient
  · cases outcome <;> rfl
  · rfl

/-- Guarding a driver call once more changes nothing. -/
theorem guardDriver_guardDriver (body : Deciding α) :
    guardDriver (guardDriver body) = guardDriver body := by
  apply ext_run
  intro ambient
  rw [run_guardDriver, run_guardDriver]
  cases (body.run.run ambient).1 <;> rfl

theorem guardDriver_refuse (failure : Failure) :
    guardDriver (refuse failure : Deciding α) = refuse failure := by
  apply ext_run
  intro ambient
  rw [run_guardDriver]
  rfl

/-! ## Panics -/

/-- Whatever a computation is interrupted by is a failure. -/
def NeverPanics (body : Deciding α) : Prop :=
  ∀ ambient text, (body.run.run ambient).1 ≠ .error (.panic text)

theorem neverPanics_pure (value : α) : (pure value : Deciding α).NeverPanics := by
  intro ambient text hpanic
  have hpure : (.ok value : Except Interruption α) = .error (.panic text) := hpanic
  exact absurd hpure (by simp)

theorem neverPanics_refuse (failure : Failure) : (refuse failure : Deciding α).NeverPanics := by
  intro ambient text hpanic
  have hrefused : (.error (.failure failure) : Except Interruption α) = .error (.panic text) :=
    hpanic
  exact absurd hrefused (by simp)

theorem neverPanics_remark (message : String) (fields : List (String × String)) :
    (remark message fields).NeverPanics :=
  neverPanics_pure ()

theorem neverPanics_ite {test : Prop} [Decidable test] {first second : Deciding α}
    (hfirst : first.NeverPanics) (hsecond : second.NeverPanics) :
    (if test then first else second).NeverPanics := by
  split
  · exact hfirst
  · exact hsecond

theorem neverPanics_bind {rest : α → Deciding β} (hbody : body.NeverPanics)
    (hrest : ∀ value, (rest value).NeverPanics) : (body >>= rest).NeverPanics := by
  intro ambient text
  rw [run_bind]
  cases hrun : body.run.run ambient with
  | mk outcome after =>
    cases outcome with
    | error interruption =>
      rintro hpanic
      obtain rfl := Except.error.inj hpanic
      exact hbody ambient text (by rw [hrun])
    | ok value => exact hrest value after text

theorem neverPanics_guardDriver (body : Deciding α) : (guardDriver body).NeverPanics := by
  intro ambient text
  rw [run_guardDriver]
  cases (body.run.run ambient).1 <;> simp [Except.mapError]

theorem neverPanics_tryCatch (body : Deciding α) {handle : Interruption → Deciding α}
    (hhandle : ∀ interruption, (handle interruption).NeverPanics) :
    (tryCatch body handle).NeverPanics := by
  intro ambient text
  rw [run_tryCatch]
  cases hrun : body.run.run ambient with
  | mk outcome after =>
    cases outcome with
    | error interruption => exact hhandle interruption after text
    | ok value => simp

end Deciding

namespace Selection

open Deciding

variable {α : Type} {platform : Platform} {ambient : Ambient}

/-! ## The preference -/

theorem preferGpu_of_not_hasHost (hhost : platform.hasHost = false) (what : String)
    (gpu host : Deciding α) : preferGpu platform what gpu host = guardDriver gpu := by
  simp [preferGpu, hhost]

theorem preferGpu_of_not_hasGpu (hhost : platform.hasHost = true) (hgpu : platform.hasGpu = false)
    (what : String) (gpu host : Deciding α) : preferGpu platform what gpu host = host := by
  simp [preferGpu, hhost, hgpu]

/-- The event that notes why the host is taken. -/
def fallen (what : String) (failure : Failure) : Event :=
  ⟨.debug, "GPU unavailable, falling back to CPU",
    [("what", Quoted.quote what), ("error", failure.message)]⟩

/-- With both back-ends, the host goes on where a guarded graphics call is interrupted. -/
theorem run_preferGpu (hhost : platform.hasHost = true) (hgpu : platform.hasGpu = true)
    (what : String) (gpu host : Deciding α) (ambient : Ambient) :
    (preferGpu platform what (guardDriver gpu) host).run.run ambient =
      match gpu.run.run ambient with
      | (.ok value, after) => (.ok value, after)
      | (.error interruption, after) =>
        host.run.run (after.note [fallen what interruption.contained]) := by
  rw [preferGpu, if_neg (by simp [hhost]), if_neg (by simp [hgpu]), guardDriver_guardDriver,
    run_tryCatch, run_guardDriver]
  obtain ⟨interruption | value, after⟩ := gpu.run.run ambient <;> rfl

theorem neverPanics_preferGpu (what : String) (gpu : Deciding α) {host : Deciding α}
    (hhost : host.NeverPanics) : (preferGpu platform what gpu host).NeverPanics :=
  neverPanics_ite (neverPanics_guardDriver gpu) <| neverPanics_ite hhost <|
    neverPanics_tryCatch (guardDriver gpu) fun _ ↦
      neverPanics_bind (neverPanics_remark _ _) fun _ ↦ hhost

/-! ## What is asked for -/

/-- What can be asked for without naming a family: a device at an index, or a context, the
runtime's own or for a native handle. -/
inductive Wish where
  | device (index : Nat)
  | context (native : Option Nat)

namespace Wish

/-- Asks for what is wished for in a family. -/
def ask (platform : Platform) (family : Family) : Wish → Deciding Creation
  | device index => Selection.device platform family index
  | context native => Selection.context platform family native

/-- The graphics constructor for what is wished for, by itself. -/
def construct (platform : Platform) : Wish → Deciding Creation
  | device index => .device <$> newGpuDevice platform index
  | context (some native) => .context <$> adoptGpuContext platform native
  | context none => do
    let settings ← settings platform
    .context <$> newGpuContext platform settings.gpuDevice

/-- What the host is asked for in its place: an index selects a graphics device only, and the host
gives its first. -/
def onHost : Wish → Wish
  | device _ => device 0
  | context native => context native

/-- What the host gives: its first device, on a context of its own, or a context that only records
whether it was adopted. -/
def standIn : Wish → Creation
  | device _ => .deviceWithContext 0
  | context native => .context (.host native.isSome {})

/-- The word for what is wished for in events. -/
def word : Wish → String
  | device _ => "device"
  | context _ => "context"

/-- The boundary call for what is wished for. -/
def call (family : Family) : Wish → Call
  | device index => .getDevice family.code index
  | context none => .newContext family.code
  | context (some native) => .adoptContext family.code native

/-- The request for what is wished for. -/
def request (family : Family) : Wish → Request
  | device index => .device family index
  | context native => .context family native

theorem ask_gpu (platform : Platform) (wish : Wish) :
    wish.ask platform .gpu =
      if platform.hasGpu then guardDriver (wish.construct platform)
      else refuse (.backendNotEnabled .gpu) := by
  rcases wish with _ | _ | _ <;> rfl

theorem guardDriver_ask_gpu (platform : Platform) (wish : Wish) :
    guardDriver (wish.ask platform .gpu) = wish.ask platform .gpu := by
  rw [ask_gpu]
  split
  · exact guardDriver_guardDriver _
  · exact guardDriver_refuse _

theorem ask_auto (platform : Platform) (wish : Wish) :
    wish.ask platform .auto =
      preferGpu platform wish.word (wish.ask platform .gpu) (wish.onHost.ask platform .cpu) := by
  cases wish <;> rfl

/-- A build with the host has what stands in. -/
theorem outcome_onHost (hhost : platform.hasHost = true) (wish : Wish) (ambient : Ambient) :
    ((wish.onHost.ask platform .cpu).run.run ambient).1 = .ok wish.standIn := by
  have hdevice : hostDevice platform 0 = newHostDevice 0 := if_pos hhost
  rcases wish with _ | _ | native
  · rw [onHost, ask, Selection.device, hdevice]
    rfl
  all_goals
    rw [onHost, ask, Selection.context, hostContext, if_pos hhost]
    rfl

/-! ## The choice -/

theorem neverPanics_ask (platform : Platform) (family : Family) (wish : Wish) :
    (wish.ask platform family).NeverPanics := by
  have hindex (index : Nat) : (checkHostIndex index).NeverPanics :=
    neverPanics_ite (neverPanics_refuse _) (neverPanics_remark _ _)
  have hcpu (wish : Wish) : (wish.ask platform .cpu).NeverPanics := by
    rcases wish with index | _ | native
    · refine neverPanics_ite ?_ (neverPanics_refuse _)
      exact neverPanics_bind (neverPanics_remark _ _) fun _ ↦
        neverPanics_bind (hindex index) fun _ ↦ neverPanics_pure _
    all_goals
      refine neverPanics_ite ?_ (neverPanics_refuse _)
      exact neverPanics_bind (neverPanics_remark _ _) fun _ ↦ neverPanics_pure _
  cases family with
  | cpu => exact hcpu wish
  | gpu =>
    rw [ask_gpu]
    exact neverPanics_ite (neverPanics_guardDriver _) (neverPanics_refuse _)
  | auto =>
    rw [ask_auto]
    exact neverPanics_preferGpu _ _ (hcpu wish.onHost)

theorem later_ask (platform : Platform) (family : Family) (wish : Wish) (ambient : Ambient) :
    ambient.Later platform.environment ((wish.ask platform family).run.run ambient).2 := by
  cases wish with
  | device index => exact (remarks_device family index ambient rfl).1
  | context native => exact (remarks_context family native ambient rfl).1

/-- Without the host, the choice is the graphics back-end. -/
theorem ask_auto_of_not_hasHost (hhost : platform.hasHost = false) (wish : Wish) :
    wish.ask platform .auto = wish.ask platform .gpu := by
  rw [ask_auto, preferGpu_of_not_hasHost hhost, guardDriver_ask_gpu]

/-- Without the graphics back-end, the choice is the host. -/
theorem ask_auto_of_not_hasGpu (hhost : platform.hasHost = true) (hgpu : platform.hasGpu = false)
    (wish : Wish) : wish.ask platform .auto = wish.onHost.ask platform .cpu := by
  rw [ask_auto, preferGpu_of_not_hasGpu hhost hgpu]

/-- With both back-ends, the choice is what the constructor makes, and the host where it makes
nothing. -/
theorem run_ask_auto (hhost : platform.hasHost = true) (hgpu : platform.hasGpu = true) (wish : Wish)
    (ambient : Ambient) :
    (wish.ask platform .auto).run.run ambient =
      match (wish.construct platform).run.run ambient with
      | (.ok creation, after) => (.ok creation, after)
      | (.error interruption, after) =>
        (wish.onHost.ask platform .cpu).run.run
          (after.note [fallen wish.word interruption.contained]) := by
  rw [ask_auto, ask_gpu, if_pos hgpu, run_preferGpu hhost hgpu]
  obtain ⟨_ | _, after⟩ := (wish.construct platform).run.run ambient <;> rfl

/-- What the graphics constructor makes, if it is part of the build and comes to an object. -/
def made? (platform : Platform) (ambient : Ambient) (wish : Wish) : Option Creation :=
  if platform.hasGpu then ((wish.construct platform).run.run ambient).1.toOption else none

theorem outcome_ask_auto (hhost : platform.hasHost = true) (wish : Wish) (ambient : Ambient) :
    ((wish.ask platform .auto).run.run ambient).1 =
      .ok ((wish.made? platform ambient).getD wish.standIn) := by
  cases hgpu : platform.hasGpu with
  | false =>
    rw [ask_auto_of_not_hasGpu hhost hgpu, outcome_onHost hhost, made?, if_neg (by simp [hgpu]),
      Option.getD_none]
  | true =>
    rw [run_ask_auto hhost hgpu, made?, if_pos hgpu]
    obtain ⟨interruption | creation, after⟩ := (wish.construct platform).run.run ambient
    · exact outcome_onHost hhost wish _
    · rfl

end Wish

end Selection

/-! ## Sessions -/

namespace Session

open Selection Deciding

variable {program : Program} {session other : Session}

/-- What comes of a session in which an object has been asked for: a handle for the object that is
made, and nothing but settings and events where none is. -/
def granted (session : Session) (asked : Except Interruption Creation × Ambient) :
    Session × Progressed :=
  match asked with
  | (.ok creation, ambient) =>
    let (session, handle) := ({ session with ambient } : Session).create creation
    (session.collect, .reply (.handle handle))
  | (.error interruption, ambient) => ({ session with ambient }, .ended (.error interruption))

theorem perform_create (session : Session) (body : Deciding Creation) :
    session.perform (Decision.create <$> body) =
      session.granted (body.run.run session.ambient) := by
  rw [perform, run_map]
  obtain ⟨interruption | creation, ambient⟩ := body.run.run session.ambient <;> rfl

theorem decodeFamily_code (family : Family) : Call.decodeFamily family.code = .ok family := by
  rw [Call.decodeFamily, Family.ofCode?_code]

theorem enter_call (platform : Platform) (session : Session) (family : Family) (wish : Wish) :
    (wish.call family).enter platform session =
      session.granted ((wish.ask platform family).run.run session.ambient) := by
  have hdecide : (wish.call family).decide platform session =
      Decision.create <$> wish.ask platform family := by
    rcases wish with _ | _ | _
    all_goals
      simp only [Wish.call, Call.decide, decodeFamily_code, lift_ok_bind, bind_pure_comp]
      rfl
  rw [Call.enter, hdecide, perform_create]

theorem enter_request (platform : Platform) (session : Session) (family : Family) (wish : Wish) :
    (wish.request family).enter platform session =
      session.granted ((wish.ask platform family).run.run session.ambient) := by
  have hdecide : (wish.request family).decide platform session =
      Decision.create <$> wish.ask platform family := by
    rcases wish with _ | _
    all_goals
      simp only [Wish.request, Request.decide, bind_pure_comp]
      rfl
  rw [Request.enter, hdecide, perform_create]

theorem granted_withAmbient (session : Session) (ambient : Ambient)
    (asked : Except Interruption Creation × Ambient) :
    ({ session with ambient } : Session).granted asked = session.granted asked := by
  rcases asked with ⟨_ | _, _⟩ <;> rfl

theorem startCall_eq (session : Session) (call : Call) :
    session.startCall program call =
      let entered := call.enter program.toPlatform session.takeTicket.1
      (file program entered.1 session.nextTicket (.guarded call.sentinel) entered.2,
        session.nextTicket) := rfl

theorem startRequest_eq (session : Session) (request : Request) :
    session.startRequest program request =
      let entered := request.enter program.toPlatform session.takeTicket.1
      (file program entered.1 session.nextTicket .direct entered.2, session.nextTicket) := rfl

theorem sentinel_call (family : Family) (wish : Wish) :
    (wish.call family).sentinel = .handle 0 := by
  rcases wish with _ | _ | _ <;> rfl

/-- Two ways to ask for something come to the same if they do where they are decided. -/
theorem start_congr {first second : Wish} {family elsewhere : Family} {ambient : Ambient}
    (hrun : (second.ask program.toPlatform elsewhere).run.run ambient =
      (first.ask program.toPlatform family).run.run session.ambient) :
    ({ session with ambient } : Session).startCall program (second.call elsewhere) =
        session.startCall program (first.call family) ∧
      ({ session with ambient } : Session).startRequest program (second.request elsewhere) =
        session.startRequest program (first.request family) := by
  have hgranted : ({ session with ambient } : Session).takeTicket.1.granted
      ((second.ask program.toPlatform elsewhere).run.run ambient) =
      session.takeTicket.1.granted
        ((first.ask program.toPlatform family).run.run session.ambient) := by
    rw [hrun]
    exact granted_withAmbient session.takeTicket.1 ambient _
  constructor
  · rw [startCall_eq, startCall_eq, enter_call, enter_call, sentinel_call, sentinel_call]
    exact congrArg (fun entered : Session × Progressed ↦
      (file program entered.1 session.nextTicket (.guarded (.handle 0)) entered.2,
        session.nextTicket)) hgranted
  · rw [startRequest_eq, startRequest_eq, enter_request, enter_request]
    exact congrArg (fun entered : Session × Progressed ↦
      (file program entered.1 session.nextTicket .direct entered.2, session.nextTicket)) hgranted

/-- Where an object is made, the client is answered with a handle, and nothing is reported. -/
theorem start_answers {wish : Wish} {family : Family} {creation : Creation}
    (hmade : ((wish.ask program.toPlatform family).run.run session.ambient).1 = .ok creation) :
    ∃ handle, (session.startCall program (wish.call family)).1.answers =
        session.answers ++ [(session.nextTicket, ⟨.ok (.handle handle), []⟩)] ∧
      (session.startRequest program (wish.request family)).1.answers =
        session.answers ++ [(session.nextTicket, ⟨.ok (.handle handle), []⟩)] := by
  obtain ⟨ambient, hrun⟩ : ∃ ambient,
      (wish.ask program.toPlatform family).run.run session.ambient = (.ok creation, ambient) :=
    ⟨_, Prod.ext hmade rfl⟩
  let opened : Session := { session.takeTicket.1 with ambient }
  have hgranted : session.takeTicket.1.granted
      ((wish.ask program.toPlatform family).run.run session.takeTicket.1.ambient) =
      ((opened.create creation).1.collect, .reply (.handle (opened.create creation).2)) := by
    rw [show session.takeTicket.1.ambient = session.ambient from rfl, hrun]
    rfl
  have hanswers : (opened.create creation).1.collect.answers = session.answers :=
    (quiet_placeCreation opened creation).answers
  refine ⟨(opened.create creation).2, ?_, ?_⟩
  · rw [startCall_eq, enter_call, hgranted]
    exact congrArg (· ++ _) hanswers
  · rw [startRequest_eq, enter_request, hgranted]
    exact congrArg (· ++ _) hanswers

/-- An object that is asked for without naming a family never brings a panic about. In a build with
the host it is always made: it is what the graphics constructor makes, if the build has one and it
makes something, and otherwise what the host has; the client is answered with a handle, and nothing
is reported. Without the graphics back-end the choice is the request to the host, whatever the
driver would do, and without the host it is the explicit request to the graphics back-end. Where
the graphics constructor is tried in vain, the request to the host that follows finds the session
as it was, but for settings that have become resolved and events; in a build without the host, the
session stays so. -/
theorem auto_falls_back (program : Program) (wish : Wish) :
    (∀ family, (wish.ask program.toPlatform family).NeverPanics) ∧
      (program.hasHost = true → ∀ session : Session,
        ((wish.ask program.toPlatform .auto).run.run session.ambient).1 =
            .ok ((wish.made? program.toPlatform session.ambient).getD wish.standIn) ∧
          ∃ handle, (session.startCall program (wish.call .auto)).1.answers =
              session.answers ++ [(session.nextTicket, ⟨.ok (.handle handle), []⟩)] ∧
            (session.startRequest program (wish.request .auto)).1.answers =
              session.answers ++ [(session.nextTicket, ⟨.ok (.handle handle), []⟩)]) ∧
      (program.hasHost = true → program.hasGpu = false → ∀ driver,
        wish.ask { program.toPlatform with driver } .auto =
          wish.onHost.ask program.toPlatform .cpu) ∧
      (program.hasHost = false →
        wish.ask program.toPlatform .auto = wish.ask program.toPlatform .gpu ∧
          ∀ session : Session,
            session.startCall program (wish.call .auto) =
                session.startCall program (wish.call .gpu) ∧
              session.startRequest program (wish.request .auto) =
                session.startRequest program (wish.request .gpu)) ∧
      ∀ (session : Session) (interruption : Interruption), program.hasGpu = true →
        ((wish.construct program.toPlatform).run.run session.ambient).1 = .error interruption →
          ∃ ambient, session.ambient.Later program.environment ambient ∧
            (program.hasHost = true →
              session.startCall program (wish.call .auto) =
                  ({ session with ambient } : Session).startCall program (wish.onHost.call .cpu) ∧
                session.startRequest program (wish.request .auto) =
                  ({ session with ambient } : Session).startRequest program
                    (wish.onHost.request .cpu)) ∧
            (program.hasHost = false →
              (wish.call .auto).enter program.toPlatform session =
                  ({ session with ambient }, .ended (.error (.failure interruption.contained))) ∧
                (wish.request .auto).enter program.toPlatform session =
                  ({ session with ambient },
                    .ended (.error (.failure interruption.contained)))) := by
  refine ⟨fun family ↦ wish.neverPanics_ask program.toPlatform family, ?_, ?_, ?_, ?_⟩
  · intro hhost session
    have houtcome := wish.outcome_ask_auto hhost session.ambient
    exact ⟨houtcome, start_answers houtcome⟩
  · intro hhost hgpu driver
    let changed : Platform := { program.toPlatform with driver }
    have hchanged : changed.hasHost = true ∧ changed.hasGpu = false := ⟨hhost, hgpu⟩
    refine (wish.ask_auto_of_not_hasGpu hchanged.1 hchanged.2).trans ?_
    rcases wish with _ | _ | _ <;> rfl
  · intro hhost
    have hask := wish.ask_auto_of_not_hasHost hhost
    refine ⟨hask, fun session ↦ ?_⟩
    exact start_congr (by rw [hask])
  · intro session interruption hgpu hfailed
    obtain ⟨after, hrun⟩ : ∃ after,
        (wish.construct program.toPlatform).run.run session.ambient =
          (.error interruption, after) :=
      ⟨_, Prod.ext hfailed rfl⟩
    have hgpuRun : (wish.ask program.toPlatform .gpu).run.run session.ambient =
        (.error (.failure interruption.contained), after) := by
      rw [wish.ask_gpu, if_pos hgpu, run_guardDriver, hrun]
      rfl
    have hlater := wish.later_ask program.toPlatform .gpu session.ambient
    rw [hgpuRun] at hlater
    -- The host goes on after one more event; without it nothing comes after the constructor.
    cases hhost : program.hasHost with
    | true =>
      refine ⟨_, hlater.trans (.note after [fallen wish.word interruption.contained]),
        fun _ ↦ ?_, nofun⟩
      have hrunAuto := wish.run_ask_auto hhost hgpu session.ambient
      rw [hrun] at hrunAuto
      obtain ⟨hcall, hrequest⟩ := start_congr hrunAuto.symm
      exact ⟨hcall.symm, hrequest.symm⟩
    | false =>
      refine ⟨after, hlater, nofun, fun _ ↦ ?_⟩
      rw [enter_call, enter_request, wish.ask_auto_of_not_hasHost hhost, hgpuRun]
      exact ⟨rfl, rfl⟩

/-- With both back-ends, and a driver that panics when it is asked for a device but has contexts, a
device is the first of the host, and a context is one of the driver. -/
theorem auto_falls_back_for_device :
    let program : Program :=
      { hasGpu := true
        driver :=
          { Driver.missing with
            context := fun index ↦ .ok (.foreign .gpu (index + 1) false)
            context_foreign := fun _ _ hmade ↦ Except.ok.inj hmade ▸ rfl } }
    (((Wish.device 7).ask program.toPlatform .auto).run.run {}).1 = .ok (.deviceWithContext 0) ∧
      (((Wish.context none).ask program.toPlatform .auto).run.run {}).1 =
        .ok (.context (.foreign .gpu 1 false)) := by
  intro program
  obtain ⟨-, hdevice, -⟩ := auto_falls_back program (.device 7)
  obtain ⟨-, hcontext, -⟩ := auto_falls_back program (.context none)
  exact ⟨(hdevice rfl {}).1, (hcontext rfl {}).1⟩

end Session

end Offload
