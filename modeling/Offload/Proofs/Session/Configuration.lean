import Offload.Proofs.Queue.Pending
import Offload.Proofs.Session.Consulting

/-!
# The settings of a process

The settings of a process are resolved once. Until then the host program may install any that pass
their check; whatever is refused leaves no trace. The first installation that succeeds, the first
time the host program reads the settings or the first operation that consults them decides, and
from then on the settings never change: not by later installations, not by operations, workers or
error handlers. They always pass their check, so all queues that are made with them have the same
positive capacity, and all memory of the runtime is aligned to the same power of two.
-/

namespace Offload

/-! ## Installing settings -/

namespace Ambient

variable {ambient after : Ambient} {environment : Environment} {settings : Settings}
  {failure : Failure}

/-- The failure of an installation that comes too late. -/
def occupied : Failure :=
  .typed .invalidOperation "Runtime configuration already initialized"

theorem install_eq_ok_iff : ambient.install settings = .ok after ↔
    settings.validate = .ok () ∧ ambient.settings = none ∧
      after = { ambient with settings := some settings } := by
  unfold install
  cases settings.validate with
  | error fault => simp [bind, Except.bind]
  | ok passed => cases ambient.settings <;> simp [bind, Except.bind, eq_comm]

/-- Of two reasons to refuse settings the first is that they do not pass their check. -/
theorem install_eq_error_iff : ambient.install settings = .error failure ↔
    settings.validate = .error failure ∨
      settings.validate = .ok () ∧ ambient.settings ≠ none ∧ failure = occupied := by
  unfold install
  cases settings.validate with
  | error fault => simp [bind, Except.bind]
  | ok passed => cases ambient.settings <;> simp [bind, Except.bind, occupied, eq_comm]

theorem resolve_fst (ambient : Ambient) (environment : Environment) :
    (ambient.resolve environment).1 = ambient.settings.getD environment.settings.1 := by
  unfold resolve
  cases ambient.settings <;> rfl

end Ambient

/-! ## What decides -/

/-- What happens in a process that has to do with the settings. -/
inductive Usage where
  /-- The host program installs settings. -/
  | install (settings : Settings)
  /-- The host program reads the settings. -/
  | read
  /-- An operation consults the settings. -/
  | consult (inquiry : Inquiry)

/-- The settings that a usage resolves where nothing has resolved them before. -/
def Usage.resolution? (environment : Environment) : Usage → Option Settings
  | install settings =>
    match settings.validate with
    | .ok _ => some settings
    | .error _ => none
  | read | consult _ => some environment.settings.1

namespace Usage

variable {environment : Environment} {usage : Usage} {settings : Settings}

theorem resolution?_install_eq (hvalid : settings.validate = .ok ()) :
    (install settings).resolution? environment = some settings := by
  simp only [resolution?, hvalid]

/-- Only settings that do not pass their check resolve nothing. -/
theorem resolution?_eq_none_iff : usage.resolution? environment = none ↔
    ∃ settings, usage = .install settings ∧ settings.validate ≠ .ok () := by
  cases usage with
  | install settings => cases hvalid : settings.validate <;> simp [resolution?, hvalid]
  | _ => simp [resolution?]

theorem validate_resolution? (hresolution : usage.resolution? environment = some settings) :
    settings.validate = .ok () := by
  cases usage with
  | install installed =>
    unfold resolution? at hresolution
    dsimp only at hresolution
    split at hresolution
    · next hvalid => exact Option.some.inj hresolution ▸ hvalid
    · exact absurd hresolution (by simp)
  | _ => exact Option.some.inj hresolution ▸ environment.validate_settings

/-- One more usage counts only where nothing before it has resolved the settings. -/
theorem findSome?_concat (environment : Environment) (log : List Usage) (usage : Usage) :
    (log ++ [usage]).findSome? (·.resolution? environment) =
      (log.findSome? (·.resolution? environment)).or (usage.resolution? environment) := by
  rw [List.findSome?_append, List.findSome?_singleton]

end Usage

namespace Session

variable {program : Program} {session start middle after last : Session} {log more : List Usage}

/-- The session after the host program has tried to install settings. -/
def installed (session : Session) (settings : Settings) : Session :=
  match session.ambient.install settings with
  | .ok ambient => { session with ambient }
  | .error _ => session

theorem settings_installed (environment : Environment) (session : Session) (settings : Settings) :
    (session.installed settings).ambient.settings =
      session.ambient.settings.or ((Usage.install settings).resolution? environment) := by
  unfold installed
  split
  · next hinstall =>
    obtain ⟨hvalid, hnone, rfl⟩ := Ambient.install_eq_ok_iff.1 hinstall
    rw [hnone, Usage.resolution?_install_eq hvalid]
    rfl
  · next failure hinstall =>
    rcases Ambient.install_eq_error_iff.1 hinstall with hinvalid | ⟨-, hsome, -⟩
    · have hnothing : (Usage.install settings).resolution? environment = none :=
        Usage.resolution?_eq_none_iff.2 ⟨settings, rfl, by simp [hinvalid]⟩
      rw [hnothing, Option.or_none]
    · obtain ⟨resolved, hresolved⟩ := Option.ne_none_iff_exists'.1 hsome
      rw [hresolved]
      rfl

theorem settings_resolved (session : Session) (platform : Platform) :
    (session.resolved platform).ambient.settings =
      session.ambient.settings.or (some platform.environment.settings.1) := by
  rw [resolved, Ambient.settings_resolve, Ambient.resolve_fst]
  cases session.ambient.settings <;> rfl

/-! ## Histories of the settings -/

/-- What is done in a process beside installing settings, reading them and starting operations:
tickets and answers are given out, clients wait, look again and sleep, workers run jobs, error
handlers note events and take each other's place, and the host program changes its own state. -/
inductive Meanwhile (program : Program) : Session → Session → Prop where
  | ticket (session : Session) : Meanwhile program session session.takeTicket.1
  | answer (session : Session) (ticket : Ticket) (answer : Answer) :
    Meanwhile program session { session with answers := session.answers ++ [(ticket, answer)] }
  | wait (session : Session) (client : Waiting) :
    Meanwhile program session (session.withClient client)
  | resume (session : Session) (client : Waiting) :
    Meanwhile program session ((session.withoutClient client.ticket).pursue (.waits client.stage)).1
  | sleep (session : Session) (ticket : Ticket) :
    Meanwhile program session (session.putToSleep ticket)
  | await (session : Session) (progressed : Progressed) :
    Meanwhile program session (session.await program.toPlatform progressed).1
  | work {session after : Session} (id : ObjectId)
    (hwork : session.work? program.toPlatform id = some after) : Meanwhile program session after
  | handle (session : Session) (events : Journal) (handler : Option Handler) (exit : Option Exit) :
    Meanwhile program session { session.note events with handler, exit }
  | outside (session : Session) (memory : Memory) (calls : List CallRecord) (gateOpen : Bool) :
    Meanwhile program session { session with host := { session.host with memory, calls, gateOpen } }

theorem Meanwhile.settings (hmeanwhile : Meanwhile program session after) :
    after.ambient.settings = session.ambient.settings := by
  cases hmeanwhile with
  | resume client => exact (quiet_pursue (session.withoutClient client.ticket) _).settings
  | await progressed => exact (await_keeps program.toPlatform session progressed).2.2.2
  | work id hwork => exact (quiet_work hwork).settings
  | _ => rfl

/-- What comes of a session by installations, by reading the settings, by operations and by what is
done beside, and how the settings are used on the way: operations that consult the settings use
them, and the others do not. -/
inductive SettingsHistory (program : Program) (start : Session) : List Usage → Session → Prop where
  | refl : SettingsHistory program start [] start
  | install {log : List Usage} {session : Session}
    (hhistory : SettingsHistory program start log session) (settings : Settings) :
    SettingsHistory program start (log ++ [.install settings]) (session.installed settings)
  | read {log : List Usage} {session : Session}
    (hhistory : SettingsHistory program start log session) :
    SettingsHistory program start (log ++ [.read]) (session.resolved program.toPlatform)
  | consult {log : List Usage} {session : Session} {inquiry : Inquiry}
    (hhistory : SettingsHistory program start log session) (hsound : session.Sound [])
    (hconsults : inquiry.Consults program.toPlatform session) :
    SettingsHistory program start (log ++ [.consult inquiry])
      (inquiry.enter program.toPlatform session).1
  | spare {log : List Usage} {session : Session} {inquiry : Inquiry}
    (hhistory : SettingsHistory program start log session) (hsound : session.Sound [])
    (hspares : ¬inquiry.Consults program.toPlatform session) :
    SettingsHistory program start log (inquiry.enter program.toPlatform session).1
  | meanwhile {log : List Usage} {session after : Session}
    (hhistory : SettingsHistory program start log session)
    (hmeanwhile : Meanwhile program session after) :
    SettingsHistory program start log after

namespace SettingsHistory

theorem trans (hfirst : SettingsHistory program start log middle)
    (hsecond : SettingsHistory program middle more last) :
    SettingsHistory program start (log ++ more) last := by
  induction hsecond with
  | refl => rwa [List.append_nil]
  | install _ settings ih =>
    rw [← List.append_assoc]
    exact ih.install settings
  | read _ ih =>
    rw [← List.append_assoc]
    exact ih.read
  | consult _ hsound hconsults ih =>
    rw [← List.append_assoc]
    exact ih.consult hsound hconsults
  | spare _ hsound hspares ih => exact ih.spare hsound hspares
  | meanwhile _ hmeanwhile ih => exact ih.meanwhile hmeanwhile

/-- The settings are those from the start, or else what the first usage that resolves any gives. -/
theorem settings_eq (hhistory : SettingsHistory program start log session) :
    session.ambient.settings = start.ambient.settings.or
      (log.findSome? (·.resolution? program.environment)) := by
  induction hhistory with
  | refl => exact Option.or_none.symm
  | install _ settings ih =>
    rw [Usage.findSome?_concat, ← Option.or_assoc, ← ih]
    exact settings_installed program.environment _ settings
  | read _ ih =>
    rw [Usage.findSome?_concat, ← Option.or_assoc, ← ih]
    exact settings_resolved _ program.toPlatform
  | @consult log session inquiry _ _ hconsults ih =>
    rw [Usage.findSome?_concat, ← Option.or_assoc, ← ih, hconsults.settings_enter,
      Ambient.resolve_fst]
    cases session.ambient.settings <;> rfl
  | spare _ hsound hspares ih =>
    exact (Inquiry.settings_enter_of_not_consults hsound hspares).trans ih
  | meanwhile _ hmeanwhile ih => exact hmeanwhile.settings.trans ih

/-- Settings that have been resolved stay as they are. -/
theorem settings_eq_some {settings : Settings}
    (hhistory : SettingsHistory program start log session)
    (hstart : start.ambient.settings = some settings) :
    session.ambient.settings = some settings := by
  rw [hhistory.settings_eq, hstart]
  rfl

theorem valid (hhistory : SettingsHistory program start log session)
    (hstart : start.ambient.Valid) : session.ambient.Valid := by
  intro settings hsettings
  rw [hhistory.settings_eq, Option.or_eq_some_iff] at hsettings
  rcases hsettings with hold | ⟨-, hfound⟩
  · exact hstart settings hold
  · obtain ⟨usage, -, hresolution⟩ := List.exists_of_findSome?_eq_some hfound
    exact Usage.validate_resolution? hresolution

end SettingsHistory

/-! ## Steps -/

variable {progressed : Progressed}

/-- What comes of a session without the host program's own hand: the settings are used only by
operations that consult them. -/
def Consulting (program : Program) (before after : Session) : Prop :=
  ∃ inquiries : List Inquiry, SettingsHistory program before (inquiries.map .consult) after

namespace Consulting

theorem refl (session : Session) : Consulting program session session := ⟨[], .refl⟩

theorem trans (hfirst : Consulting program start middle)
    (hsecond : Consulting program middle last) : Consulting program start last := by
  obtain ⟨first, hfirst⟩ := hfirst
  obtain ⟨second, hsecond⟩ := hsecond
  refine ⟨first ++ second, ?_⟩
  rw [List.map_append]
  exact hfirst.trans hsecond

theorem meanwhile (hmeanwhile : Meanwhile program session after) :
    Consulting program session after :=
  ⟨[], SettingsHistory.refl.meanwhile hmeanwhile⟩

theorem enter (hsound : session.Sound []) (inquiry : Inquiry) :
    Consulting program session (inquiry.enter program.toPlatform session).1 := by
  by_cases hconsults : inquiry.Consults program.toPlatform session
  · exact ⟨[inquiry], SettingsHistory.refl.consult hsound hconsults⟩
  · exact ⟨[], SettingsHistory.refl.spare hsound hconsults⟩

end Consulting

/-- Error handlers make calls and await them, and that is how they use the settings. -/
theorem conducts_consulting (program : Program) :
    Conducts program fun before after ↦ after.Settled ∧ Consulting program before after where
  settled := fun hrelated ↦ hrelated.1
  refl := fun hsettled ↦ ⟨hsettled, .refl _⟩
  trans := fun hfirst hsecond ↦ ⟨hsecond.1, hfirst.2.trans hsecond.2⟩
  turn := by
    rintro session hsettled _ handler exit ⟨events, rfl⟩
    exact ⟨(Continues.remark hsettled _ handler exit).settled,
      .meanwhile (.handle session events handler exit)⟩
  call := fun hsettled call ↦ ⟨(continues_call program hsettled call).settled,
    (Consulting.enter hsettled.kept.toSound (.call call)).trans (.meanwhile (.await _ _))⟩

theorem consulting_file (hkept : session.Kept progressed.flight) (hticketed : session.Ticketed)
    (ticket : Ticket) (manner : Manner) :
    Consulting program session (session.file program ticket manner progressed) := by
  cases progressed with
  | waits stage => exact .meanwhile (.wait session ⟨ticket, manner, stage, false⟩)
  | ended outcome =>
    cases manner with
    | direct => exact .meanwhile (.answer session ticket _)
    | guarded sentinel =>
      cases outcome with
      | ok reply => exact .meanwhile (.answer session ticket _)
      | error interruption =>
        have hreport := ((conducts_consulting program).report nesting interruption.kind
          interruption.message ⟨hkept, hticketed⟩).2
        exact hreport.trans (.meanwhile (.answer _ ticket _))

theorem consulting_start (hsettled : session.Settled) (inquiry : Inquiry) (manner : Manner) :
    Consulting program session
      ((inquiry.enter program.toPlatform session.takeTicket.1).1.file program session.takeTicket.2
        manner (inquiry.enter program.toPlatform session.takeTicket.1).2) := by
  obtain ⟨hkept, hticketed, -⟩ := kept_takeTicket hsettled.kept hsettled.ticketed
  have hdecide : (inquiry.decide program.toPlatform session.takeTicket.1).Ensures _ :=
    inquiry.ensures_decide _ hkept.toSound
  have htaken : Consulting program session session.takeTicket.1 := .meanwhile (.ticket session)
  exact htaken.trans <| (Consulting.enter hkept.toSound inquiry).trans <|
    consulting_file (hkept.perform hdecide) (hticketed.frame (frame_perform _ _)) _ manner

theorem consulting_resume {client : Waiting} (hsettled : session.Settled)
    (hclient : client ∈ session.waiting)
    (hresume : session.resume? program client = some after) : Consulting program session after := by
  rcases resume?_cases hresume with ⟨-, rfl⟩ | ⟨moved, progressed, hpursue, rfl⟩
  · exact .meanwhile (.sleep session client.ticket)
  · obtain ⟨hkept, hticketed, -⟩ := hsettled.pursueClient hclient hpursue
    have hmoved : Meanwhile program session
        ((session.withoutClient client.ticket).pursue (.waits client.stage)).1 :=
      .resume session client
    rw [hpursue] at hmoved
    exact (Consulting.meanwhile hmoved).trans (consulting_file hkept hticketed _ _)

/-- A step uses the settings only by operations that consult them, unless the host program changes
its own state. -/
theorem Step.consulting (hstep : Step program session after) (hsettled : session.Settled) :
    Consulting program session after ∨
      ∃ ambient memory calls gateOpen, after =
        { session with ambient, host := { session.host with memory, calls, gateOpen } } := by
  cases hstep with
  | call call => exact .inl (consulting_start hsettled (.call call) _)
  | request request => exact .inl (consulting_start hsettled (.request request) _)
  | work id hwork => exact .inl (.meanwhile (.work id hwork))
  | resume hclient hresume => exact .inl (consulting_resume hsettled hclient hresume)
  | report kind message =>
    exact .inl ((conducts_consulting program).report nesting kind message hsettled).2
  | outside ambient memory calls gateOpen => exact .inr ⟨ambient, memory, calls, gateOpen, rfl⟩

/-! ## What is made with the settings -/

/-- After an inquiry that consults the settings they are what they were, or would have been,
before. -/
theorem SettingsHistory.resolve_eq {inquiry : Inquiry}
    (hconsults : inquiry.Consults program.toPlatform session)
    (hlater : SettingsHistory program (inquiry.enter program.toPlatform session).1 more last) :
    (last.ambient.resolve program.environment).1 =
      (session.ambient.resolve program.environment).1 := by
  rw [last.ambient.resolve_fst, hlater.settings_eq_some hconsults.settings_enter, Option.getD_some]

/-- How the operations of a session go about the settings. -/
structure Honours (program : Program) (session : Session) : Prop where
  /-- An operation that consults the settings resolves them, whatever else comes of it. -/
  consults : ∀ inquiry : Inquiry, inquiry.Consults program.toPlatform session →
    (inquiry.enter program.toPlatform session).1.ambient.settings =
      some (session.ambient.resolve program.environment).1
  /-- No other operation resolves them. -/
  spares : ∀ inquiry : Inquiry, ¬inquiry.Consults program.toPlatform session →
    (inquiry.enter program.toPlatform session).1.ambient.settings = session.ambient.settings
  /-- Nothing else in a step uses them, but for the host program that changes its own state. -/
  steps : ∀ after, Step program session after → Consulting program session after ∨
    ∃ ambient memory calls gateOpen, after =
      { session with ambient, host := { session.host with memory, calls, gateOpen } }
  /-- A queue of a device is made with a positive capacity, which the settings name ever after. -/
  queues : ∀ (device : Handle) (owner : ObjectId) (index : Nat) (context : ObjectId),
    session.device device = .ok (owner, .host index context) →
    ∃ after handle id queue,
      (Inquiry.call (.newQueue device)).enter program.toPlatform session =
        (after, .reply (.handle handle)) ∧
      after.queue handle = .ok (id, .host queue) ∧ 1 ≤ queue.capacity ∧
      ∀ more last, SettingsHistory program after more last →
        (last.ambient.resolve program.environment).1.maxPending = queue.capacity
  /-- Memory for a view is asked of the allocator with a power of two as its alignment, which the
  settings name ever after. -/
  views : ∀ (context : ObjectId) (address size : Nat) (flags : ViewFlags) (inquiry : Inquiry),
    session.AsksView context address size flags inquiry → flags.Backed address →
    ∃ exponent,
      ((∃ failure, session.allocator.locate size (2 ^ exponent) = .error failure ∧
          (inquiry.enter program.toPlatform session).2 = .failed failure) ∨
        ∃ after handle id view,
          inquiry.enter program.toPlatform session = (after, .reply (.handle handle)) ∧
          after.view handle = .ok (id, .host view) ∧
          session.allocator.locate size (2 ^ exponent) = .ok view.address ∧
          2 ^ exponent ∣ view.address) ∧
      ∀ more last, SettingsHistory program (inquiry.enter program.toPlatform session).1 more last →
        last.alignment program.toPlatform = 2 ^ exponent

/-- Whatever the settings are, if they pass their check, operations go about them like that. -/
theorem Visited.honours (hvisited : Visited program session) (hvalid : session.ambient.Valid) :
    session.Honours program where
  consults := fun _ hconsults ↦ hconsults.settings_enter
  spares := fun _ ↦ Inquiry.settings_enter_of_not_consults hvisited.settled.kept.toSound
  steps := fun _ hstep ↦ hstep.consulting hvisited.settled
  queues := by
    intro device owner index context hdevice
    obtain ⟨after, handle, id, henter, hqueue⟩ :=
      enter_newQueue program.toPlatform hvisited.settled.kept hvisited.next_pos hdevice
    have hpositive : 0 < (session.ambient.resolve program.environment).1.maxPending :=
      Settings.validate_eq_ok_iff.1 (hvalid.validate_resolve program.environment) .maxPending
    have hentered :
        ((Inquiry.call (.newQueue device)).enter program.toPlatform session).1 = after :=
      congrArg Prod.fst henter
    refine ⟨after, handle, id, _, henter, hqueue, Nat.le_max_right _ _, fun more last hlater ↦ ?_⟩
    rw [SettingsHistory.resolve_eq (.queue hdevice) (hentered ▸ hlater)]
    exact (Nat.max_eq_left hpositive).symm
  views := by
    intro context address size flags inquiry hasks hbacked
    obtain ⟨exponent, hexponent⟩ :
        ∃ exponent, session.alignment program.toPlatform = 2 ^ exponent :=
      Settings.validate_eq_ok_iff.1 (hvalid.validate_resolve program.environment) .hostAlignment
    refine ⟨exponent, ?_, fun more last hlater ↦ ?_⟩
    · cases hlocate : session.allocator.locate size (session.alignment program.toPlatform) with
      | error failure =>
        refine .inl ⟨failure, hexponent ▸ hlocate, ?_⟩
        rw [enter_unbacked hasks hbacked hlocate]
      | ok located =>
        obtain ⟨after, handle, id, view, henter, hview, -, rfl, -⟩ :=
          enter_backed hvisited.settled.kept hvisited.next_pos hasks hbacked hlocate
        rw [hexponent] at hlocate
        exact .inr ⟨after, handle, id, view, henter, hview, hlocate,
          Allocator.dvd_of_locate hlocate⟩
    · rw [← hexponent]
      exact congrArg Settings.hostAlignment
        (SettingsHistory.resolve_eq (.view hasks hbacked) hlater)

/-- In a process that starts with nothing resolved, the first usage that resolves the settings
decides what they are, and they always pass their check.

So settings can be installed exactly if they pass their check and nothing has come before but
installations of settings that do not. Where they are refused, nothing changes, and it is for their
own fault if they have one. Once the settings are resolved they stay the same, and the host program
reads the same ones ever after. An operation resolves them exactly if it consults them, whatever
else comes of it, and nothing else in the steps of a session uses them, error handlers included,
unless the host program changes its own state. Every queue of a device of the host is made with a
positive capacity, and every view over memory of the runtime with a power of two as its alignment,
which are those of the settings ever after. -/
theorem settings_resolved_once (hblank : start.ambient.settings = none)
    (hhistory : SettingsHistory program start log session) :
    session.ambient.settings = log.findSome? (·.resolution? program.environment) ∧
    (session.ambient.resolve program.environment).1 =
      (log.findSome? (·.resolution? program.environment)).getD program.environment.settings.1 ∧
    (session.ambient.resolve program.environment).1.validate = .ok () ∧
    (∀ settings,
      ((∃ ambient, session.ambient.install settings = .ok ambient ∧
          ambient.settings = some settings) ↔
        settings.validate = .ok () ∧
          ∀ usage ∈ log, ∃ refused, usage = .install refused ∧ refused.validate ≠ .ok ()) ∧
      ∀ failure, session.ambient.install settings = .error failure →
        session.installed settings = session ∧
          (settings.validate = .error failure ∨
            settings.validate = .ok () ∧ failure = Ambient.occupied)) ∧
    (∀ settings, session.ambient.settings = some settings →
      ∀ more last, SettingsHistory program session more last →
        last.ambient.settings = some settings ∧
          (last.ambient.resolve program.environment).1 = settings) ∧
    (Visited program session → session.Honours program) := by
  have hsettings : session.ambient.settings =
      log.findSome? (·.resolution? program.environment) := by
    rw [hhistory.settings_eq, hblank, Option.none_or]
  have hvalid : session.ambient.Valid := hhistory.valid fun _ hsome ↦
    absurd (hblank.symm.trans hsome) (by simp)
  have hunresolved : session.ambient.settings = none ↔
      ∀ usage ∈ log, ∃ refused, usage = .install refused ∧ refused.validate ≠ .ok () := by
    rw [hsettings, List.findSome?_eq_none_iff]
    exact forall₂_congr fun _ _ ↦ Usage.resolution?_eq_none_iff
  refine ⟨hsettings, hsettings ▸ session.ambient.resolve_fst program.environment,
    hvalid.validate_resolve program.environment, fun settings ↦ ⟨?_, ?_⟩, ?_,
    fun hvisited ↦ hvisited.honours hvalid⟩
  · rw [← hunresolved]
    constructor
    · rintro ⟨ambient, hinstall, -⟩
      obtain ⟨hpasses, hnone, -⟩ := Ambient.install_eq_ok_iff.1 hinstall
      exact ⟨hpasses, hnone⟩
    · rintro ⟨hpasses, hnone⟩
      exact ⟨_, Ambient.install_eq_ok_iff.2 ⟨hpasses, hnone, rfl⟩, rfl⟩
  · intro failure hrefused
    refine ⟨by rw [installed, hrefused], ?_⟩
    exact (Ambient.install_eq_error_iff.1 hrefused).imp_right fun hlate ↦ ⟨hlate.1, hlate.2.2⟩
  · intro settings hsome more last hlater
    have hlast := hlater.settings_eq_some hsome
    exact ⟨hlast, by rw [Ambient.resolve_fst, hlast, Option.getD_some]⟩

/-- A program whose environment gives queues room for eight operations. -/
def eightfold : Program := { environment := ⟨fun | .maxPending => some [0x38] | _ => none⟩ }

/-- A session with a device of the host, in which settings have been installed that do not pass
their check. -/
def misconfigured : Session :=
  (startAll eightfold {} [.hostDevice 0]).installed { maxPending := 0 }

/-- A view of more bytes than there can be is refused, but it resolves the settings from the
environment. They can no longer be installed, and a queue has room for eight operations. -/
theorem settings_resolved_once_eightfold :
    let inquiry := Inquiry.call (.newView 1 0 (2 ^ 63) (some (0, 0)))
    let session := (inquiry.enter eightfold.toPlatform misconfigured).1
    misconfigured.ambient.settings = none ∧
      (inquiry.enter eightfold.toPlatform misconfigured).2 = .failed Allocator.oversized ∧
      session.ambient.settings = some { maxPending := 8 } ∧
      session.ambient.install {} = .error Ambient.occupied ∧
      ∃ after handle id queue,
        (Inquiry.call (.newQueue 1)).enter eightfold.toPlatform session =
          (after, .reply (.handle handle)) ∧
        after.queue handle = .ok (id, .host queue) ∧ queue.capacity = 8 := by
  intro inquiry session
  have hstart : Visited eightfold (startAll eightfold {} [.hostDevice 0]) :=
    .reachable ((runs_startAll eightfold {} _).reachable (.fresh ⟨rfl, rfl, rfl, rfl, rfl⟩))
  have hbefore : Visited eightfold misconfigured := hstart
  have hdevice : misconfigured.device 1 = .ok (1, .host 0 0) := rfl
  have hasks : misconfigured.AsksView 0 0 (2 ^ 63) .shared inquiry :=
    .callDevice hdevice rfl (by decide)
  have hfailed :
      (Call.newView 1 0 (2 ^ 63) (some (0, 0))).enter eightfold.toPlatform misconfigured =
        (session, .failed Allocator.oversized) := Prod.ext rfl rfl
  have hvisited : Visited eightfold session := .interrupted hbefore hfailed
  have hhistory : SettingsHistory eightfold (startAll eightfold {} [.hostDevice 0])
      [.install { maxPending := 0 }, .consult inquiry] session :=
    (SettingsHistory.refl.install { maxPending := 0 }).consult hbefore.settled.kept.toSound
      (.view hasks fun _ ↦ rfl)
  obtain ⟨hsettings, -, -, -, hstable, hhonours⟩ := settings_resolved_once rfl hhistory
  have height : session.ambient.settings = some { maxPending := 8 } := hsettings.trans (by decide)
  have hdevice : session.device 1 = .ok (1, .host 0 0) := rfl
  obtain ⟨after, handle, id, queue, henter, hqueue, -, hcapacity⟩ :=
    (hhonours hvisited).queues 1 1 0 0 hdevice
  have hlater : SettingsHistory eightfold session [.consult (.call (.newQueue 1))] after := by
    have hentered : SettingsHistory eightfold session _ _ :=
      SettingsHistory.refl.consult hvisited.settled.kept.toSound (.queue hdevice)
    rwa [henter] at hentered
  refine ⟨rfl, congrArg Prod.snd hfailed, height, ?_, after, handle, id, queue, henter, hqueue, ?_⟩
  · exact Ambient.install_eq_error_iff.2 (.inr ⟨by decide, by simp [height], rfl⟩)
  · rw [← hcapacity [] after .refl, (hstable _ height _ _ hlater).2]

end Session

end Offload
