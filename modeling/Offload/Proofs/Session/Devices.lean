import Offload.Proofs.Backend.Enumeration
import Offload.Proofs.Session.Creating
import Offload.Proofs.Session.Handles

/-!
# Devices of clients

A client counts the devices of a family, asks for one or asks what it is, by a call of the boundary
or by a request, and it asks for a device on a context of its own. On a context of the host it gets
a device wherever it would get one without, and this device shares the ranges of the context as long
as it is there: the addresses are classified by them, and views that are made on the device are
registered with them. On a foreign context there are no devices.
-/

namespace Offload.Session

open Heap Deciding Selection

variable {program : Program} {platform : Platform} {session after : Session} {inquiry : Inquiry}
  {family : Family} {index : Nat} {handle : Handle} {id : ObjectId} {found : Context}
  {adopted : Bool} {ranges : RangeTracker}

/-! ## Asking for devices -/

/-- An inquiry counts the devices of a family. -/
inductive AsksCount (family : Family) : Inquiry → Prop where
  | call : AsksCount family (.call (.deviceCount family.code))
  | request : AsksCount family (.request (.deviceCount family))

/-- An inquiry asks for the device of a family at an index. -/
inductive AsksDevice (family : Family) (index : Nat) : Inquiry → Prop where
  | call : AsksDevice family index (.call (.getDevice family.code index))
  | request : AsksDevice family index (.request (.device family index))

/-- An inquiry asks what the device of a family at an index is, with storage for the answer. -/
inductive AsksInfo (family : Family) (index : Nat) : Inquiry → Prop where
  | call : AsksInfo family index (.call (.deviceInfo family.code index false))
  | request : AsksInfo family index (.request (.deviceInfo family index))

/-- An inquiry asks for the device at an index on a context, or for a native handle, which stands
for the first index. -/
inductive AsksDeviceOn (context : Handle) : Nat → Inquiry → Prop where
  | call (index : Nat) : AsksDeviceOn context index (.call (.getDeviceOn context index))
  | request (index : Nat) : AsksDeviceOn context index (.request (.deviceOn context index))
  | callNative (native : Nat) : AsksDeviceOn context 0 (.call (.getDeviceOnNative context native))
  | requestNative (native : Nat) :
    AsksDeviceOn context 0 (.request (.deviceOnNative context native))

theorem ended_answer {α : Type} (session : Session) (body : Deciding α) (reply : α → Reply) :
    (session.perform ((fun value ↦ Decision.answer (reply value)) <$> body)).2 =
      .ended ((body.run.run session.ambient).1.map reply) := by
  rw [perform, run_map]
  obtain ⟨interruption | value, ambient⟩ := body.run.run session.ambient <;> rfl

/-- Asking for an object ends with the next handle if it is made. -/
theorem ended_granted (session : Session) (asked : Except Interruption Creation × Ambient) :
    (session.granted asked).2 =
      .ended (asked.1.map fun _ ↦ .handle session.registry.next) := by
  obtain ⟨interruption | creation, ambient⟩ := asked
  · rfl
  · have hnext : (({ session with ambient } : Session).create creation).2 =
        session.registry.next :=
      congrArg Table.next (registry_placeCreation { session with ambient } creation)
    show Progressed.reply (.handle (({ session with ambient } : Session).create creation).2) = _
    rw [hnext]
    rfl

theorem AsksCount.ended (hasks : AsksCount family inquiry) (platform : Platform)
    (session : Session) :
    (inquiry.enter platform session).2 =
      .ended (((deviceCount platform family).run.run session.ambient).1.map .number) := by
  have hdecide : inquiry.decide platform session =
      (fun count ↦ Decision.answer (.number count)) <$> deviceCount platform family := by
    cases hasks with
    | call =>
      show (liftM (Call.decodeFamily family.code) >>= fun family ↦ deviceCount platform family >>=
        fun count ↦ pure (.answer (.number count)) : Deciding Decision) = _
      rw [decodeFamily_code, lift_ok_bind, bind_pure_comp]
    | request => exact bind_pure_comp _ _
  rw [Inquiry.enter, hdecide]
  exact ended_answer session _ .number

theorem AsksInfo.ended (hasks : AsksInfo family index inquiry) (platform : Platform)
    (session : Session) :
    (inquiry.enter platform session).2 =
      .ended (((deviceInfo platform family index).run.run session.ambient).1.map .info) := by
  have hdecide : inquiry.decide platform session =
      (fun info ↦ Decision.answer (.info info)) <$> deviceInfo platform family index := by
    cases hasks with
    | call =>
      show (liftM (Call.decodeFamily family.code) >>= fun family ↦
        deviceInfo platform family index >>= fun info ↦ pure (.answer (.info info)) :
          Deciding Decision) = _
      rw [decodeFamily_code, lift_ok_bind, bind_pure_comp]
    | request => exact bind_pure_comp _ _
  rw [Inquiry.enter, hdecide]
  exact ended_answer session _ .info

theorem AsksDevice.ended (hasks : AsksDevice family index inquiry) (platform : Platform)
    (session : Session) :
    (inquiry.enter platform session).2 =
      .ended (((Selection.device platform family index).run.run session.ambient).1.map
        fun _ ↦ .handle session.registry.next) := by
  have henter : inquiry.enter platform session =
      session.granted ((Selection.device platform family index).run.run session.ambient) := by
    cases hasks with
    | call => exact enter_call platform session family (.device index)
    | request => exact enter_request platform session family (.device index)
  rw [henter, ended_granted]

/-- Where a context is found, a decision that looks it up goes on with it. -/
theorem decide_found (hcontext : session.context handle = .ok (id, found))
    (rest : ObjectId × Context → Deciding Creation) :
    (liftM (session.context handle) >>= fun parent ↦ rest parent >>= fun creation ↦
      pure (.create creation) : Deciding Decision) = Decision.create <$> rest (id, found) := by
  rw [hcontext, lift_ok_bind, bind_pure_comp]

/-- Asking for a device on a context is the decision on it, behind an event where a native handle is
given. -/
theorem AsksDeviceOn.decide_eq (hasks : AsksDeviceOn handle index inquiry)
    (hcontext : session.context handle = .ok (id, found)) (platform : Platform) :
    ∃ body, inquiry.decide platform session = Decision.create <$> body ∧
      ∃ events, ∀ ambient, body.run.run ambient =
        (deviceOn platform id found index).run.run (ambient.note events) := by
  cases hasks with
  | call | request =>
    refine ⟨_, decide_found hcontext _, [], fun ambient ↦ ?_⟩
    rw [Ambient.note_nil]
  | callNative native | requestNative native =>
    exact ⟨_, decide_found hcontext _, run_deviceOnNative platform id found native⟩

theorem AsksDeviceOn.enter_eq (hasks : AsksDeviceOn handle index inquiry)
    (hcontext : session.context handle = .ok (id, found)) (platform : Platform) :
    ∃ events, inquiry.enter platform session = session.granted
      ((deviceOn platform id found index).run.run (session.ambient.note events)) := by
  obtain ⟨body, hdecide, events, hrun⟩ := hasks.decide_eq hcontext platform
  exact ⟨events, by rw [Inquiry.enter, hdecide, perform_create, hrun]⟩

/-! ## Devices on a context of the host -/

/-- A device on a context of the host is made for the indices of the host, for which a handle is the
answer. -/
theorem AsksDeviceOn.ended_host (hasks : AsksDeviceOn handle index inquiry)
    (hcontext : session.context handle = .ok (id, .host adopted ranges)) (platform : Platform) :
    (inquiry.enter platform session).2 =
      .ended (hostAnswer platform index (.handle session.registry.next)) := by
  obtain ⟨events, henter⟩ := hasks.enter_eq hcontext platform
  rw [henter, ended_granted, outcome_deviceOn_host, map_hostAnswer]

theorem AsksDevice.ended_host (hasks : AsksDevice .cpu index inquiry) (platform : Platform)
    (session : Session) :
    (inquiry.enter platform session).2 =
      .ended (hostAnswer platform index (.handle session.registry.next)) := by
  rw [hasks.ended, outcome_device_cpu, map_hostAnswer]

/-- With a native handle, a device is asked for as with the first index, but for an event. -/
theorem enter_native {asking plain : Inquiry} {native : Nat}
    (hasking : asking.decide platform session =
      Decision.create <$> deviceOnNative platform id found native)
    (hplain : ∀ events, plain.decide platform (session.note events) =
      Decision.create <$> deviceOn platform id found 0) :
    ∃ events, asking.enter platform session = plain.enter platform (session.note events) := by
  obtain ⟨events, hrun⟩ := run_deviceOnNative platform id found native
  refine ⟨events, ?_⟩
  rw [Inquiry.enter, Inquiry.enter, hasking, hplain, perform_create, perform_create, hrun]
  exact (granted_withAmbient session (session.ambient.note events) _).symm

/-- An operation that ends with a handle for a device on a context comes to the creation of this
device. -/
theorem AsksDeviceOn.creates (hasks : AsksDeviceOn handle index inquiry)
    (hvisited : Visited program session)
    (hcontext : session.context handle = .ok (id, .host adopted ranges)) {made : Handle}
    (henter : inquiry.enter program.toPlatform session = (after, .reply (.handle made))) :
    ∃ ambient, let opened : Session := { session with ambient }
      (after, made) = opened.create (.device (.host index id)) := by
  have hkept := hvisited.settled.kept
  have hanswer := hasks.ended_host hcontext program.toPlatform
  rw [henter] at hanswer
  obtain ⟨body, hbody, events, hsame⟩ := hasks.decide_eq hcontext program.toPlatform
  have hmade : (body.run.run session.ambient).1 = .ok (.device (.host index id)) := by
    rw [hsame, outcome_deviceOn_host]
    exact hostAnswer_eq_ok (Progressed.ended.inj hanswer).symm _
  have hrun : (inquiry.decide program.toPlatform session).run.run session.ambient =
      (.ok (.create (.device (.host index id))), (body.run.run session.ambient).2) := by
    rw [hbody, run_map, hmade]
    rfl
  have hcreated := perform_creates hkept
    (inquiry.ensures_decide program.toPlatform hkept.toSound) hrun
  rw [← Inquiry.enter, henter] at hcreated
  obtain ⟨hafter, hreply⟩ := Prod.mk.inj hcreated
  exact ⟨_, Prod.ext hafter (Reply.handle.inj (Except.ok.inj (Progressed.ended.inj hreply)))⟩

/-- The device is on the heap then, and the context is as it was. -/
theorem AsksDeviceOn.made (hasks : AsksDeviceOn handle index inquiry)
    (hvisited : Visited program session)
    (hcontext : session.context handle = .ok (id, .host adopted ranges)) {made : Handle}
    (henter : inquiry.enter program.toPlatform session = (after, .reply (.handle made))) :
    after.Settled ∧ after.device made = .ok (session.heap.next, .host index id) ∧
      after.heap.context? id = some (.host adopted ranges) := by
  have hkept := hvisited.settled.kept
  have hsettled : after.Settled := by
    obtain ⟨hafter, hticketed, -⟩ :=
      hvisited.settled.enter (inquiry.ensures_decide program.toPlatform hkept.toSound)
    rw [← Inquiry.enter, henter] at hafter hticketed
    exact ⟨hafter, hticketed⟩
  obtain ⟨ambient, hcreated⟩ := hasks.creates hvisited hcontext henter
  obtain ⟨rfl, rfl⟩ := Prod.mk.inj hcreated
  refine ⟨hsettled, ?_, ?_⟩
  · exact found_create (.device (.host index id)) hvisited.next_pos
      (device?_eq_some.2 (Sound.get?_place _ _))
  · have hget := context?_eq_some.1 (lookup_eq_ok hcontext).2
    have hid := hkept.rooted.ordered.lt_next hget
    refine context?_eq_some.2 (Eq.trans (Table.get?_insert ..) ?_)
    rw [if_neg (Nat.ne_of_lt hid), hget]

/-! ## Sharing the ranges of a context -/

/-- A device shares the tracker of a context: both are of one family, the device classifies every
address by the ranges of the context, and views that are made on it are made as on the context. -/
structure SharesTracker (session : Session) (platform : Platform) (device : Device) (id : ObjectId)
    (context : Context) : Prop where
  family : device.family = context.family
  classes : ∃ ranges, context.ranges? = some ranges ∧
    ∀ address, session.classify device address = ranges.classify address
  /-- A device refuses views of no known kind beforehand. -/
  views : ∀ address size flags, flags.kind ≠ .unknown →
    session.newDeviceView platform device address size flags =
      session.createContextView platform id context address size flags

theorem sharesTracker_host (hcontext : session.heap.context? id = some (.host adopted ranges))
    (platform : Platform) (index : Nat) :
    session.SharesTracker platform (.host index id) id (.host adopted ranges) where
  family := rfl
  classes := by
    refine ⟨ranges, rfl, fun address ↦ ?_⟩
    simp only [classify, hcontext]
    rfl
  views address size flags hkind := if_neg hkind

/-- As long as a device is there, so is its context, and it shares the ranges of this context. -/
theorem Passes.sharesTracker {later : Session} {number : ObjectId} {device : Device}
    (hpasses : Passes program after later) (hsettled : after.Settled)
    (hdevice : after.heap.device? number = some (.host index id))
    (hcontext : after.heap.context? id = some (.host adopted ranges))
    (hlater : later.heap.device? number = some device) :
    device = .host index id ∧ ∃ ranges, later.heap.context? id = some (.host adopted ranges) ∧
      later.SharesTracker program.toPlatform device id (.host adopted ranges) := by
  obtain ⟨log, hhistory⟩ := hpasses.history hsettled
  have hsound := hsettled.kept.toSound
  have hheld := device?_eq_some.1 hlater
  obtain rfl : device = .host index id := Object.device.inj (Object.eq_of_outline_device
    (hhistory.outline_eq hsound (device?_eq_some.1 hdevice) hheld))
  -- The device keeps its context alive, and the context stays what it was but for its ranges.
  obtain ⟨_, _, hget⟩ := (hpasses.settled hsettled).kept.rooted.sound.supported hheld
  obtain ⟨ranges, hsame⟩ := Object.eq_of_outline_context
    (hhistory.outline_eq hsound (context?_eq_some.1 hcontext) hget)
  rw [hsame] at hget
  have hlives := context?_eq_some.2 hget
  exact ⟨rfl, ranges, hlives, sharesTracker_host hlives program.toPlatform index⟩

/-! ## Agreement -/

/-- What clients get who ask for a device on a context of the host. -/
structure ServesDevices (program : Program) (session : Session) (handle : Handle) (id : ObjectId)
    (adopted : Bool) : Prop where
  /-- It is made, and refused, as one without a context is at any moment. -/
  same : ∀ {index forOn forDevice} (other : Session), AsksDeviceOn handle index forOn →
    AsksDevice .cpu index forDevice → ∃ made asked : Outcome,
      (forOn.enter program.toPlatform session).2 = .ended made ∧
      (forDevice.enter program.toPlatform other).2 = .ended asked ∧
      (made.map fun _ ↦ ()) = asked.map fun _ ↦ ()
  /-- A native handle is ignored, and only noted. -/
  native : ∀ native,
    (∃ events, (Inquiry.call (.getDeviceOnNative handle native)).enter program.toPlatform session =
      (Inquiry.call (.getDeviceOn handle 0)).enter program.toPlatform (session.note events)) ∧
    ∃ events, (Inquiry.request (.deviceOnNative handle native)).enter program.toPlatform session =
      (Inquiry.request (.deviceOn handle 0)).enter program.toPlatform (session.note events)
  /-- The device is on the context, and shares its tracker as long as it is there. -/
  shares : ∀ {index inquiry after made}, AsksDeviceOn handle index inquiry →
    inquiry.enter program.toPlatform session = (after, .reply (.handle made)) →
    ∃ number, after.device made = .ok (number, .host index id) ∧
      ∀ later, Passes program after later → ∀ device, later.heap.device? number = some device →
        device = .host index id ∧
        ∃ ranges, later.heap.context? id = some (.host adopted ranges) ∧
          later.SharesTracker program.toPlatform device id (.host adopted ranges)

theorem servesDevices (hvisited : Visited program session)
    (hcontext : session.context handle = .ok (id, .host adopted ranges)) :
    session.ServesDevices program handle id adopted where
  same other hon hdevice := by
    refine ⟨_, _, hon.ended_host hcontext _, hdevice.ended_host _ other, ?_⟩
    rw [map_hostAnswer, map_hostAnswer]
  native native := ⟨enter_native (decide_found hcontext _) fun _ ↦ decide_found hcontext _,
    enter_native (decide_found hcontext _) fun _ ↦ decide_found hcontext _⟩
  shares hasks henter := by
    obtain ⟨hsettled, hdevice, hkept⟩ := hasks.made hvisited hcontext henter
    exact ⟨_, hdevice, fun later hpasses device hlater ↦
      hpasses.sharesTracker hsettled (lookup_eq_ok hdevice).2 hkept hlater⟩

/-- On a foreign context a device is refused, for every index and native handle. -/
theorem AsksDeviceOn.ended_foreign {native : Nat} (hasks : AsksDeviceOn handle index inquiry)
    (hcontext : session.context handle = .ok (id, .foreign family native adopted))
    (platform : Platform) :
    (inquiry.enter platform session).2 = .failed
      (if platform.enables family then .familyMismatch family family
        else .backendNotEnabled family) := by
  obtain ⟨events, henter⟩ := hasks.enter_eq hcontext platform
  rw [henter, ended_granted, deviceOn_foreign]
  rfl

/-- On a machine without a driver, counting devices and making them agree in every build.

An explicit family has the same devices whichever of three questions is asked, whenever, and with
whatever text the driver's calls panic: how many there are, to be given one, or to be told about
one. The second and the third are answered for the indices below the count and refused alike for all
others, and where there is no count, all three are refused alike. On a context of the host, also an
adopted one, a device is made and refused as one without a context, native handles are ignored, and
the device is of the family of the context and shares its tracker as long as it is there. A foreign
context gets none: it is refused as one of another back-end where its family is in the build, and
otherwise because it is not. -/
theorem enumeration_agrees (program : Program) (habsent : program.driver.Absent) :
    (∀ family index, family ≠ .auto → ∀ making telling : Driver, making.Absent → telling.Absent →
      ∀ forCount forDevice forInfo, AsksCount family forCount → AsksDevice family index forDevice →
      AsksInfo family index forInfo → ∀ first second third : Session,
        ∃ (counted : Except Interruption Nat) (made told : Outcome),
          (forCount.enter program.toPlatform first).2 = .ended (counted.map .number) ∧
          (forDevice.enter { program.toPlatform with driver := making } second).2 = .ended made ∧
          (forInfo.enter { program.toPlatform with driver := telling } third).2 = .ended told ∧
          Enumerated family index counted made told) ∧
      (∀ session handle id adopted ranges, Visited program session →
        session.context handle = .ok (id, .host adopted ranges) →
        session.ServesDevices program handle id adopted) ∧
      ∀ (session : Session) handle id family native adopted index inquiry,
        session.context handle = .ok (id, .foreign family native adopted) →
        AsksDeviceOn handle index inquiry →
        (program.enables family = true →
          (inquiry.enter program.toPlatform session).2 = .failed (.familyMismatch family family)) ∧
        (program.enables family = false →
          (inquiry.enter program.toPlatform session).2 = .failed (.backendNotEnabled family)) := by
  refine ⟨?_, fun _ _ _ _ _ hvisited hcontext ↦ servesDevices hvisited hcontext, ?_⟩
  · intro family index hfamily making telling hmaking htelling forCount forDevice forInfo hcount
      hdevice hinfo first second third
    refine ⟨_, _, _, hcount.ended _ first, hdevice.ended _ second, hinfo.ended _ third, ?_⟩
    exact (enumerated hfamily habsent hmaking htelling index _ _ _).map _ _
  · intro session handle id family native adopted index inquiry hcontext hasks
    have hended := hasks.ended_foreign hcontext program.toPlatform
    refine ⟨fun henabled ↦ ?_, fun hdisabled ↦ ?_⟩
    · rw [hended, if_pos henabled]
    · rw [hended, if_neg (by rw [hdisabled]; exact Bool.false_ne_true)]

/-- A context of the host that was adopted, and a foreign one of the graphics back-end. -/
def offered : Session :=
  startAll { hasGpu := true } {}
    [.context .cpu (some 7), .offer (.context (.foreign .gpu 9 false))]

/-- The missing driver is the reason against every graphics device. The first context gets a device
for a native handle, and the second gets none. -/
theorem enumeration_agrees_offered :
    let program : Program := { hasGpu := true }
    (∃ making telling : Interruption, making.plain = telling.plain ∧
      ((Inquiry.call (.getDevice Family.gpu.code 0)).enter program.toPlatform offered).2 =
        .ended (.error making) ∧
      ((Inquiry.request (.deviceInfo .gpu 0)).enter program.toPlatform {}).2 =
        .ended (.error telling)) ∧
      (∃ after made number,
        (Inquiry.call (.getDeviceOnNative 1 5)).enter program.toPlatform offered =
          (after, .reply (.handle made)) ∧
        after.device made = .ok (number, .host 0 0)) ∧
      ((Inquiry.request (.deviceOn 2 3)).enter program.toPlatform offered).2 =
        .failed (.familyMismatch .gpu .gpu) := by
  intro program
  have habsent : program.driver.Absent := Driver.absent_missing
  have hvisited : Visited program offered :=
    .reachable ((runs_startAll program {} _).reachable (.fresh ⟨rfl, rfl, rfl, rfl, rfl⟩))
  have hadopted : offered.context 1 = .ok (0, .host true {}) := rfl
  have hforeign : offered.context 2 = .ok (1, .foreign .gpu 9 false) := rfl
  obtain ⟨hagree, hserves, hrefused⟩ := enumeration_agrees program habsent
  refine ⟨?_, ?_, (hrefused _ _ _ _ _ _ 3 _ hforeign (.request 3)).1 rfl⟩
  · obtain ⟨counted, _, _, hcount, hmade, htold, henumerated⟩ := hagree .gpu 0 (by decide)
      program.driver program.driver habsent habsent _ _ _ .request .call .request {} offered {}
    obtain ⟨reason, hnone⟩ : ∃ reason, counted.map .number = (.error reason : Outcome) :=
      ⟨_, (Progressed.ended.inj hcount).symm⟩
    cases henumerated with
    | below | past => exact absurd hnone (by simp [Except.map])
    | without hmaking htelling => exact ⟨_, _, hmaking.trans htelling.symm, hmade, htold⟩
  · obtain ⟨number, hdevice, -⟩ :=
      (hserves _ _ _ _ _ hvisited hadopted).shares (.callNative 5) (Prod.ext rfl rfl)
    exact ⟨_, _, number, rfl, hdevice⟩

end Offload.Session
