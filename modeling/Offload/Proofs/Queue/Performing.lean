import Offload.Proofs.Queue.Others
import Offload.Proofs.Queue.Serving
import Offload.Proofs.Session.Steps

/-!
# Performing a command

A command of a client takes an errand and an immediate run that look the same to ones that look the
same, with the same outcome, or it leaves the client of the errand waiting for that. When a queue has
been synced nothing is left to catch up with, so what can be seen then is the same as well.
-/

namespace Offload

open Heap Deciding

variable {platform : Platform} {files : List String} {id : ObjectId} {queue : Handle}
  {session after : Session} {decide : Deciding Decision} {outcome : Except Interruption Decision}
  {command : Command} {errand : Errand} {base : Immediate}

/-! ## Commands -/

theorem Session.perform_eq (hrun : ∀ ambient, decide.run.run ambient = (outcome, ambient)) :
    session.perform decide =
      match outcome with
      | .error interruption => (session, .ended (.error interruption))
      | .ok decision => (session.commit decision).1.pursue (session.commit decision).2 := by
  unfold perform
  rw [hrun]
  cases outcome <;> rfl

theorem Immediate.perform_eq {request : Request}
    (hrun : ∀ ambient, (request.decide platform base.session).run.run ambient = (outcome, ambient)) :
    base.perform platform id request =
      match outcome with
      | .error interruption => (base, .error interruption)
      | .ok decision =>
        { base with session := (base.session.commit decision).1 }.follow platform.routine id
          (base.session.commit decision).2 := by
  unfold perform
  rw [hrun]
  cases outcome <;> rfl

namespace Errand

/-- An errand whose command has come to its end, as the immediate run has. -/
structure Arrived (platform : Platform) (queue : Handle) (id : ObjectId) (command : Command)
    (errand : Errand) (target : Immediate) : Prop where
  idle : errand.session.waiting = []
  same : Immediate.Same errand.session.heap.files (errand.caughtUp platform.routine id) target
  /-- Nothing is left to be done when a queue has been synced. -/
  synced : command = .sync → (∃ found, target.session.queue queue = .ok found) →
    errand.session.heap.jobsOf id = []

/-- An errand whose client waits for what comes to the same as an immediate run. -/
structure Waits (platform : Platform) (id : ObjectId) (command : Command) (stage : Stage)
    (errand : Errand) (target : Immediate × Outcome) : Prop where
  before : ∃ before,
    Immediate.Same errand.session.heap.files (errand.caughtUp platform.routine id) before ∧
      before.attend platform.routine id stage = target
  awaits : Awaits errand.session.registry id stage
  synced : command = .sync → stage = .drained id

/-- What an operation of a client has reached: the end that an immediate run comes to, or a wait for
it. -/
def Reaches (platform : Platform) (queue : Handle) (id : ObjectId) (command : Command)
    (errand : Errand) (target : Immediate × Outcome) : Session × Progressed → Prop
  | (after, .ended outcome) =>
    outcome = target.2 ∧ after.host.gateOpen = true ∧
      { errand with session := after }.Arrived platform queue id command target.1
  | (after, .waits stage) =>
    after.host.gateOpen = true ∧ after.waiting = [] ∧ after.heap.jobsOf stage.queue ≠ [] ∧
      { errand with session := after }.Waits platform id command stage target

/-- An operation leaves the gate as it is. -/
theorem gateOpen_pursue (session : Session) (progressed : Progressed) :
    (session.pursue progressed).1.host.gateOpen = session.host.gateOpen := by
  rcases session.pursue_cases progressed with ⟨outcome, rfl, hpursue⟩ | ⟨stage, rfl, hcases⟩
  · rw [hpursue]
    rfl
  · rcases hcases with ⟨-, hpursue⟩ | ⟨after, outcome, hadvance, hpursue⟩ |
      ⟨middle, last, hadvance, ⟨after, outcome, hlast, hpursue⟩ | hpursue⟩
    · rw [hpursue]
    · rw [hpursue, ← Session.host_advance hadvance]
      rfl
    · rw [hpursue, ← Session.host_advance hadvance, ← Session.host_advance hlast]
      rfl
    · rw [hpursue, Session.host_advance hadvance]

/-- A `sync` drains its queue, unless there is none. -/
theorem outcome_sync {left right : Session} (hresembles : left.Resembles right)
    (hserves : right.Serves queue id)
    (hrun : ∀ ambient, ((Command.sync.request queue).decide platform left).run.run ambient =
      (outcome, ambient)) :
    outcome = .ok { effect := .drain id } ∨
      (∃ failure, right.queue queue = .error failure) ∧
        ∃ interruption, outcome = .error interruption := by
  have hdecide : (Command.sync.request queue).decide platform left =
      liftM (left.queue queue) >>= fun found ↦ pure (Session.sync found) := rfl
  rw [hdecide] at hrun
  rcases hresembles.hostQueue hserves with ⟨failure, hleft, hright⟩ | ⟨-, first, -, hleft, -⟩
  · rw [hleft] at hrun
    exact .inr ⟨⟨failure, hright⟩, _, (congrArg Prod.fst (hrun {})).symm⟩
  · rw [hleft, lift_ok_bind] at hrun
    exact .inl (congrArg Prod.fst (hrun {})).symm

/-- What is left to do of a command reaches what an immediate run comes to at once. -/
theorem pursue_reaches (errand : Errand) (queue : Handle)
    (hlocal : ∀ entry, (platform.routine entry).Local entry.file?) {progressed : Progressed}
    (hsteady : errand.session.Steady progressed) (hgate : errand.session.host.gateOpen = true)
    (hidle : errand.session.waiting = [])
    (hawaits : ∀ stage, progressed = .waits stage → Awaits errand.session.registry id stage)
    (hsame : Immediate.Same errand.session.heap.files (errand.caughtUp platform.routine id) base)
    (hsync : command = .sync → progressed = .waits (.drained id)) :
    errand.Reaches platform queue id command (base.follow platform.routine id progressed)
      (errand.session.pursue progressed) := by
  have hframe := Session.frame_pursue errand.session progressed
  have hopen := gateOpen_pursue errand.session progressed
  rcases pursue_same errand hlocal hsteady hgate hawaits hsame with
    ⟨stage, rfl, hnone, hpursue⟩ | ⟨after, hpursue, hafter, hdrained⟩
  · rw [hpursue]
    have hjobs := Session.jobsOf_ne_nil_of_advance?_eq_none hsteady.sound hnone
    exact ⟨hgate, hidle, hjobs, ⟨base, hsame, rfl⟩, hawaits stage rfl,
      fun hcommand ↦ Progressed.waits.inj (hsync hcommand)⟩
  · rw [hpursue] at hframe hopen ⊢
    exact ⟨rfl, hopen.trans hgate, hframe.idle hidle, hafter,
      fun hcommand _ ↦ hdrained (hsync hcommand)⟩

/-- A command reaches in an errand what it comes to at once in an immediate run. -/
theorem perform_same (errand : Errand)
    (hlocal : ∀ entry, (platform.routine entry).Local entry.file?)
    (hkept : errand.session.Kept []) (hgate : errand.session.host.gateOpen = true)
    (hidle : errand.session.waiting = []) (hserves : base.session.Serves queue id)
    (hsame : Immediate.Same errand.session.heap.files (errand.caughtUp platform.routine id) base)
    (command : Command) :
    let target := base.perform platform id (command.request queue)
    target.1.session.Serves queue id ∧
      errand.Reaches platform queue id command target
        ((command.request queue).enter platform errand.session) := by
  intro target
  have hresembles := resembles hsame
  obtain ⟨outcome, hrun, hconcerns⟩ := Command.plainly_decide platform hresembles hserves command
  have hsync (hcommand : command = .sync) :
      outcome = .ok { effect := .drain id } ∨
        (∃ failure, base.session.queue queue = .error failure) ∧
          ∃ interruption, outcome = .error interruption :=
    outcome_sync hresembles hserves (hcommand ▸ hrun)
  have hbase := hrun
  rw [Command.decide_eq platform hresembles hserves] at hbase
  have htarget : target = _ := Immediate.perform_eq hbase
  have henter : (command.request queue).enter platform errand.session = _ :=
    Session.perform_eq hrun
  rw [henter]
  cases outcome with
  | error interruption =>
    rw [htarget]
    refine ⟨hserves, rfl, hgate, hidle, hsame, ?_⟩
    rintro hcommand ⟨found, hfound⟩
    rcases hsync hcommand with hdrain | ⟨⟨failure, hfailure⟩, -⟩
    · exact absurd hdrain (by simp)
    · exact absurd (hfailure.symm.trans hfound) (by simp)
  | ok decision =>
    have hdecision := hconcerns decision rfl
    obtain ⟨hcommit, hprogressed, hawaits, hhost⟩ :=
      commit_same hkept.toSound hsame (hidle.trans hserves.waiting.symm) hdecision
    have hsupported : decision.effect.Supported errand.session.heap.get? :=
      Request.ensures_decide hkept.toSound (command.request queue) {} decision (by rw [hrun])
    have hdrain : command = .sync → (errand.session.commit decision).2 = .waits (.drained id) := by
      intro hcommand
      rcases hsync hcommand with hdrain | ⟨-, interruption, herror⟩
      · rw [Except.ok.inj hdrain]
        rfl
      · exact absurd herror (by simp)
    have hserved : ({ base with session := (base.session.commit decision).1 } :
      Immediate).session.Serves queue id := hserves.commit hdecision
    simp only at htarget
    rw [← hprogressed] at htarget
    rw [htarget]
    exact ⟨Immediate.serves_follow hserved _,
      pursue_reaches { errand with session := (errand.session.commit decision).1 } queue hlocal
        (hkept.commit hsupported) (hhost ▸ hgate)
        ((Session.frame_commit errand.session decision).idle hidle) hawaits hcommit hdrain⟩

end Errand

/-! ## What is seen -/

/-- Two runs that look the same have the same to show. -/
theorem Immediate.Same.snapshot_eq {left right : Immediate} (hsame : Same files left right) :
    left.session.snapshot left.entered = right.session.snapshot right.entered := by
  have hfuture : left.session.futureState? = right.session.futureState? := by
    funext handle
    unfold Session.futureState? Session.future
    rw [Session.lookup_eq hsame.registry]
    intro other slot hslot
    obtain ⟨object, hobject⟩ := hsame.exposed hslot
    obtain ⟨shown, hshown, hface⟩ := hsame.shows _ _ hobject
    ext future
    rw [future?_eq_some, future?_eq_some, hobject, hshown, Option.some_inj, Option.some_inj]
    rw [← Object.face_eq_future_iff, ← hface, Object.face_eq_future_iff]
  unfold Session.snapshot
  rw [hsame.host.memory, hfuture, hsame.entered]

namespace Errand

/-- A client sees the same of an errand as of an immediate run that has come to the same. -/
theorem sight_eq {target : Immediate} (hserves : target.session.Serves queue id)
    (harrived : errand.Arrived platform queue id command target) (outcome : Outcome) :
    errand.session.sight errand.entered queue command outcome =
      target.session.sight target.entered queue command outcome := by
  unfold Session.sight
  cases hcommand : command
  case sync =>
    rcases (resembles harrived.same).hostQueue hserves with ⟨failure, hleft, hright⟩ |
      ⟨-, first, second, hleft, hright⟩
    · rw [hleft, hright]
    · rw [hleft, hright]
      have hjobs := harrived.synced hcommand ⟨_, hright⟩
      have hsame := harrived.same
      unfold caughtUp at hsame
      rw [hjobs] at hsame
      exact congrArg (fun snapshot ↦ Sight.mk outcome (some snapshot)) hsame.snapshot_eq
  all_goals rfl

end Errand

end Offload
