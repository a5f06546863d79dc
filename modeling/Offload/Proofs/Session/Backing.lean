import Offload.Proofs.Allocation
import Offload.Proofs.Queue.Coverage
import Offload.Proofs.Session.Creating
import Offload.Proofs.Session.Handles
import Offload.Proofs.Session.Views
import Offload.Proofs.Settings.Environment

/-!
# Views over memory of the runtime

A view of the host is over the caller's memory only if it is shared and memory is given; the
runtime allocates for every other one, with the alignment of the settings. What comes of that is
decided by the size and the alignment alone, up to an allocator that has no memory left. A view of
no bytes takes no memory, but its layout is checked like that of one byte, so it is refused where
the alignment is the largest one that settings can have.
-/

namespace Offload

open Deciding Heap

/-- Whether the runtime has to allocate the memory of a view. -/
def ViewFlags.Backed (flags : ViewFlags) (address : Nat) : Prop :=
  flags.kind = .shared → address = 0

namespace Session

variable {program : Program} {platform : Platform} {session after : Session} {inquiry : Inquiry}
  {context : ObjectId} {address size : Nat} {flags : ViewFlags}

/-! ## Asking for a view -/

/-- An inquiry asks for a view on a context of the host, or on a device of the context, and its
kind is one that can be had there. -/
inductive AsksView (session : Session) (context : ObjectId) (address size : Nat) (flags : ViewFlags) :
    Inquiry → Prop where
  | callDevice {device : Handle} {owner : ObjectId} {index : Nat} {raw : Option (Nat × Nat)}
    (hdevice : session.device device = .ok (owner, .host index context))
    (hflags : Call.decodeFlags raw = .ok flags) (hkind : flags.kind ≠ .unknown) :
    AsksView session context address size flags (.call (.newView device address size raw))
  | callContext {parent : Handle} {adopted : Bool} {ranges : RangeTracker} {raw : Option (Nat × Nat)}
    (hcontext : session.context parent = .ok (context, .host adopted ranges))
    (hflags : Call.decodeFlags raw = .ok flags) (hkind : flags.kind = .shared) :
    AsksView session context address size flags (.call (.newContextView parent address size raw))
  | requestDevice {device : Handle} {owner : ObjectId} {index kind hint : Nat}
    (hdevice : session.device device = .ok (owner, .host index context))
    (hflags : ViewFlags.ofCodes kind hint = .ok flags) (hkind : flags.kind ≠ .unknown) :
    AsksView session context address size flags (.request (.newView device address size kind hint))
  | requestContext {parent : Handle} {adopted : Bool} {ranges : RangeTracker} {kind hint : Nat}
    (hcontext : session.context parent = .ok (context, .host adopted ranges))
    (hflags : ViewFlags.ofCodes kind hint = .ok flags) :
    AsksView session context address size flags
      (.request (.createContextView parent address size kind hint))

namespace AsksView

theorem decide_eq (hasks : session.AsksView context address size flags inquiry) :
    inquiry.decide platform session =
      session.hostView platform context address size flags >>= fun view ↦
        pure (.create (.view view)) := by
  cases hasks with
  | @callDevice device owner index raw hdevice hflags hkind =>
    show (liftM (Call.decodeFlags raw) >>= fun flags ↦ liftM (session.device device) >>= fun found ↦
      session.newDeviceView platform found.2 address size flags : Deciding Decision) = _
    rw [hflags, lift_ok_bind, hdevice, lift_ok_bind]
    exact if_neg hkind
  | @callContext parent adopted ranges raw hcontext hflags hkind =>
    show (liftM (Call.decodeFlags raw) >>= fun flags ↦ liftM (session.context parent) >>= fun found ↦
      session.newContextView platform found.1 found.2 address size flags : Deciding Decision) = _
    rw [hflags, lift_ok_bind, hcontext, lift_ok_bind]
    exact if_pos hkind
  | @requestDevice device owner index kind hint hdevice hflags hkind =>
    show (liftM (session.device device) >>= fun found ↦ liftM (ViewFlags.ofCodes kind hint) >>=
      fun flags ↦ session.newDeviceView platform found.2 address size flags : Deciding Decision) = _
    rw [hdevice, lift_ok_bind, hflags, lift_ok_bind]
    exact if_neg hkind
  | @requestContext parent adopted ranges kind hint hcontext hflags =>
    show (liftM (session.context parent) >>= fun found ↦ liftM (ViewFlags.ofCodes kind hint) >>=
      fun flags ↦ session.createContextView platform found.1 found.2 address size flags :
        Deciding Decision) = _
    rw [hcontext, lift_ok_bind, hflags, lift_ok_bind]
    rfl

/-- The context that a view is asked for on is alive. -/
theorem exists_context (hasks : session.AsksView context address size flags inquiry)
    (hsound : session.Sound []) :
    ∃ adopted ranges, session.heap.context? context = some (.host adopted ranges) := by
  have hon {parent : Handle} {adopted : Bool} {ranges : RangeTracker}
      (hcontext : session.context parent = .ok (context, .host adopted ranges)) :
      ∃ adopted ranges, session.heap.context? context = some (.host adopted ranges) :=
    ⟨adopted, ranges, (lookup_eq_ok hcontext).2⟩
  have hof {device : Handle} {owner : ObjectId} {index : Nat}
      (hdevice : session.device device = .ok (owner, .host index context)) :
      ∃ adopted ranges, session.heap.context? context = some (.host adopted ranges) := by
    obtain ⟨adopted, ranges, hget⟩ :=
      hsound.rooted.sound.supported (device?_eq_some.1 (lookup_eq_ok hdevice).2)
    exact ⟨adopted, ranges, context?_eq_some.2 hget⟩
  cases hasks with
  | callDevice hdevice => exact hof hdevice
  | callContext hcontext => exact hon hcontext
  | requestDevice hdevice => exact hof hdevice
  | requestContext hcontext => exact hon hcontext

end AsksView

/-! ## What comes of it -/

/-- The session in which nothing has happened but that the settings have been resolved. -/
def resolved (session : Session) (platform : Platform) : Session :=
  { session with ambient := (session.ambient.resolve platform.environment).2 }

/-- The alignment of memory that the runtime allocates in a session. -/
def alignment (session : Session) (platform : Platform) : Nat :=
  (session.ambient.resolve platform.environment).1.hostAlignment

/-- A new view over memory of the runtime, before its range is registered. -/
def backedView (context : ObjectId) (address size : Nat) (flags : ViewFlags) : HostView :=
  ⟨address, size, flags.kind, flags.hint, true, context, none⟩

theorem run_hostView (hbacked : flags.Backed address) :
    (session.hostView platform context address size flags).run.run session.ambient =
      (match session.allocator.locate size (session.alignment platform) with
        | .ok located => .ok (.host (backedView context located size flags))
        | .error failure => .error (.failure failure), (session.resolved platform).ambient) := by
  have hallocates : ¬(flags.kind = .shared ∧ address ≠ 0) := fun hshared ↦
    hshared.2 (hbacked hshared.1)
  rw [hostView, if_neg hallocates, run_bind]
  show ((liftM (session.allocator.locate size (session.alignment platform)) >>= _ :
    Deciding View)).run.run (session.resolved platform).ambient = _
  cases session.allocator.locate size (session.alignment platform) <;> rfl

/-- A view that no memory can be had for leaves nothing behind but settings that have become
resolved. -/
theorem enter_unbacked {failure : Failure}
    (hasks : session.AsksView context address size flags inquiry) (hbacked : flags.Backed address)
    (hlocate : session.allocator.locate size (session.alignment platform) = .error failure) :
    inquiry.enter platform session = (session.resolved platform, .failed failure) := by
  have hrun : (inquiry.decide platform session).run.run session.ambient =
      (.error (.failure failure), (session.resolved platform).ambient) := by
    rw [hasks.decide_eq, run_bind, run_hostView hbacked, hlocate]
  unfold Inquiry.enter perform
  simp only [hrun]
  rfl

/-! ## The view that is made -/

section Placed

variable {view : HostView} {adopted : Bool} {ranges : RangeTracker}

theorem view_create (hregistry : 0 < session.registry.next)
    (hcontext : session.heap.context? view.context = some (.host adopted ranges)) :
    (session.create (.view (.host view))).1.view (session.create (.view (.host view))).2 =
      .ok (session.heap.next, .host { view with
        registration := (ranges.track view.address view.size view.kind).2 }) := by
  have hplaced : (session.placeCreation (.view (.host view))).1.heap =
      _ := heap_placeView hcontext
  have hid : (session.placeCreation (.view (.host view))).2 = session.heap.next :=
    placeView_snd session (.host view)
  rw [← hid]
  refine found_create _ hregistry ?_
  rw [hplaced, hid, view?_insert]
  exact if_pos rfl

/-- A view without bytes leaves the contexts as they are. -/
theorem context?_create_empty (horder : session.heap.Ordered)
    (hcontext : session.heap.context? view.context = some (.host adopted ranges))
    (hsize : view.size = 0) (other : ObjectId) :
    (session.create (.view (.host view))).1.heap.context? other = session.heap.context? other := by
  have hheap : (session.create (.view (.host view))).1.heap = _ := heap_placeView hcontext
  have htrack : ranges.track view.address view.size view.kind = (ranges, none) :=
    if_pos (.inr hsize)
  rw [hheap, htrack, context?_insert]
  split
  · next hnew =>
    have hnone : session.heap.get? other = none :=
      horder.get?_eq_none (Nat.le_of_eq hnew.symm)
    simp [context?, hnone]
  · rw [context?_modifyContext]
    split
    · next hother =>
      rw [hother, hcontext]
      rfl
    · rfl

end Placed

/-- A view that memory has been found for is made over it. Its range is registered unless it is
empty, and then the contexts stay as they are. -/
theorem enter_backed {located : Nat} (hkept : session.Kept [])
    (hregistry : 0 < session.registry.next)
    (hasks : session.AsksView context address size flags inquiry) (hbacked : flags.Backed address)
    (hlocate : session.allocator.locate size (session.alignment platform) = .ok located) :
    ∃ after handle id view,
      inquiry.enter platform session = (after, .reply (.handle handle)) ∧
      after.view handle = .ok (id, .host view) ∧ view.size = size ∧ view.address = located ∧
      after.host = session.host ∧
      (view.registration.isSome ↔ located ≠ 0 ∧ size ≠ 0) ∧
      (size = 0 → ∀ other, after.heap.context? other = session.heap.context? other) := by
  obtain ⟨adopted, ranges, hcontext⟩ := hasks.exists_context hkept.toSound
  have henter : inquiry.enter platform session =
      (((session.resolved platform).create
          (.view (.host (backedView context located size flags)))).1,
        .reply (.handle ((session.resolved platform).create
          (.view (.host (backedView context located size flags)))).2)) := by
    apply perform_creates hkept (inquiry.ensures_decide _ hkept.toSound)
    rw [hasks.decide_eq, run_bind, run_hostView hbacked, hlocate]
    rfl
  obtain ⟨heap, allocator, hplaced, -⟩ :=
    placeView_fst (session.resolved platform) (.host (backedView context located size flags))
  refine ⟨_, _, _, _, henter, @view_create (session.resolved platform) _ _ _ hregistry hcontext,
    rfl, rfl, ?_, RangeTracker.track_isSome_iff _ _ _, fun hsize ↦ ?_⟩
  · show ((session.resolved platform).placeView
      (.host (backedView context located size flags))).1.host = session.host
    rw [hplaced]
    rfl
  · exact @context?_create_empty (session.resolved platform) _ _ _ hkept.rooted.ordered hcontext
      hsize

/-! ## What the size decides -/

/-- A view of no bytes is under the null address, unless even the layout of one byte is refused. -/
theorem enter_empty (hkept : session.Kept []) (hregistry : 0 < session.registry.next)
    (hasks : session.AsksView context address size flags inquiry) (hbacked : flags.Backed address)
    (hsize : size = 0) :
    (session.alignment platform < 2 ^ 63 →
      ∃ after handle id view,
        inquiry.enter platform session = (after, .reply (.handle handle)) ∧
        after.view handle = .ok (id, .host view) ∧ view.size = 0 ∧ view.address = 0 ∧
        view.registration = none ∧
        ∀ other, after.heap.context? other = session.heap.context? other) ∧
    (2 ^ 63 ≤ session.alignment platform →
      (inquiry.enter platform session).2 = .failed Allocator.oversized) := by
  have hlimit : layoutLimit = 2 ^ 63 := rfl
  have hanswers := session.allocator.answers_locate size (session.alignment platform)
  generalize hlocate : session.allocator.locate size (session.alignment platform) = located
    at hanswers
  cases hanswers with
  | oversized hlayout =>
    rw [enter_unbacked hasks hbacked hlocate]
    exact ⟨by omega, fun _ ↦ rfl⟩
  | empty _ hlayout =>
    obtain ⟨after, handle, id, view, henter, hview, hbytes, hnull, -, hregistered, hcontexts⟩ :=
      enter_backed hkept hregistry hasks hbacked hlocate
    have hranges : view.registration = none :=
      Option.not_isSome_iff_eq_none.1 fun hsome ↦ (hregistered.1 hsome).1 rfl
    refine ⟨fun _ ↦ ⟨after, handle, id, view, henter, hview, hbytes.trans hsize, hnull, hranges,
      hcontexts hsize⟩, by omega⟩
  | refused hpositive => omega
  | granted hpositive => omega

/-- A view of some bytes is refused for its layout if they do not fit beside the alignment, and
otherwise made unless there is no memory. -/
theorem enter_sized (hkept : session.Kept []) (hregistry : 0 < session.registry.next)
    (hasks : session.AsksView context address size flags inquiry) (hbacked : flags.Backed address)
    (hsize : 0 < size) (hproper : session.Proper)
    (hzero : ∀ place, session.allocator.frontier ≤ place →
      session.host.memory.byteAt place = 0) :
    ((inquiry.enter platform session).2 = .failed Allocator.oversized ↔
      2 ^ 63 - session.alignment platform < size) ∧
    (size ≤ 2 ^ 63 - session.alignment platform →
      (session.allocator.Refuses size (session.alignment platform) →
        (inquiry.enter platform session).2 = .failed (.outOfMemory size)) ∧
      (¬session.allocator.Refuses size (session.alignment platform) →
        ∃ after handle id view,
          inquiry.enter platform session = (after, .reply (.handle handle)) ∧
          after.view handle = .ok (id, .host view) ∧ view.size = size ∧ view.address ≠ 0 ∧
          session.alignment platform ∣ view.address ∧
          ∀ offset < size, after.host.memory.byteAt (view.address + offset) = 0)) := by
  have hlimit : layoutLimit = 2 ^ 63 := rfl
  have hpositive : 0 < session.alignment platform :=
    hproper.valid.alignment_pos platform.environment
  have hanswers := session.allocator.answers_locate size (session.alignment platform)
  generalize hlocate : session.allocator.locate size (session.alignment platform) = located
    at hanswers
  cases hanswers with
  | oversized hlayout =>
    rw [enter_unbacked hasks hbacked hlocate]
    simp only [true_iff]
    omega
  | empty hnone => omega
  | refused _ hlayout hrefused =>
    rw [enter_unbacked hasks hbacked hlocate]
    refine ⟨⟨fun hfailure ↦ ?_, by omega⟩, fun _ ↦ ⟨fun _ ↦ rfl, fun hgranted ↦ ?_⟩⟩
    · exact absurd hfailure (by simp [Progressed.failed, Allocator.oversized])
    · exact absurd hrefused hgranted
  | granted _ hlayout hgranted =>
    obtain ⟨after, handle, id, view, henter, hview, hbytes, haddress, hhost, -⟩ :=
      enter_backed hkept hregistry hasks hbacked hlocate
    have hfrontier : session.allocator.frontier ≤ view.address := haddress ▸ le_alignUp _ hpositive
    have hnonzero : view.address ≠ 0 :=
      Nat.ne_of_gt (Nat.lt_of_lt_of_le hproper.frontier hfrontier)
    rw [henter]
    refine ⟨⟨fun hfailure ↦ ?_, by omega⟩, fun _ ↦ ⟨fun hrefused ↦ absurd hrefused hgranted, fun _ ↦
      ⟨after, handle, id, view, rfl, hview, hbytes, hnonzero, ?_, fun offset _ ↦ ?_⟩⟩⟩
    · exact absurd hfailure (by simp [Progressed.failed, Progressed.reply])
    · exact Allocator.dvd_of_locate (haddress ▸ hlocate)
    · rw [hhost]
      exact hzero _ (Nat.le_trans hfrontier (Nat.le_add_right _ _))

/-- Where no view is made, nothing is left behind but settings that have become resolved. -/
theorem enter_interrupted {interruption : Interruption} (hkept : session.Kept [])
    (hregistry : 0 < session.registry.next)
    (hasks : session.AsksView context address size flags inquiry) (hbacked : flags.Backed address)
    (henter : inquiry.enter platform session = (after, .ended (.error interruption))) :
    after = session.resolved platform := by
  cases hlocate : session.allocator.locate size (session.alignment platform) with
  | error failure =>
    rw [enter_unbacked hasks hbacked hlocate] at henter
    exact (Prod.mk.inj henter).1.symm
  | ok located =>
    obtain ⟨made, handle, id, view, hmade, -⟩ :=
      enter_backed hkept hregistry hasks hbacked hlocate
    rw [hmade] at henter
    exact absurd (Prod.mk.inj henter).2 (by simp [Progressed.reply])

/-- What comes of a view over memory of the runtime is decided by its size and the alignment of the
settings.

This holds of every session in which an operation is started, whatever valid settings it has and
however much its allocator gives, as long as memory that has not been given out yet is zero. The
alignment is a power of two. A view of no bytes is made under the null address and registers no
range, unless the alignment is the largest one there is; then its layout is refused like that of
one byte. A view of some bytes is refused for its layout exactly if they do not fit beside the
alignment. Otherwise the allocator has no memory for it, or it is made under an address that is not
null and a multiple of the alignment, and all its bytes are zero. Where no view is made, nothing is
left behind but settings that have become resolved. -/
theorem backed_views_by_size (hvisited : Visited program session) (hproper : session.Proper)
    (hzero : ∀ place, session.allocator.frontier ≤ place → session.host.memory.byteAt place = 0)
    (hasks : session.AsksView context address size flags inquiry) (hbacked : flags.Backed address) :
    (∃ exponent, session.alignment program.toPlatform = 2 ^ exponent) ∧
    (size = 0 →
      (session.alignment program.toPlatform < 2 ^ 63 →
        ∃ after handle id view,
          inquiry.enter program.toPlatform session = (after, .reply (.handle handle)) ∧
          after.view handle = .ok (id, .host view) ∧ view.size = 0 ∧ view.address = 0 ∧
          view.registration = none ∧
          ∀ other, after.heap.context? other = session.heap.context? other) ∧
      (2 ^ 63 ≤ session.alignment program.toPlatform →
        (inquiry.enter program.toPlatform session).2 = .failed Allocator.oversized)) ∧
    (0 < size →
      ((inquiry.enter program.toPlatform session).2 = .failed Allocator.oversized ↔
        2 ^ 63 - session.alignment program.toPlatform < size) ∧
      (size ≤ 2 ^ 63 - session.alignment program.toPlatform →
        (session.allocator.Refuses size (session.alignment program.toPlatform) →
          (inquiry.enter program.toPlatform session).2 = .failed (.outOfMemory size)) ∧
        (¬session.allocator.Refuses size (session.alignment program.toPlatform) →
          ∃ after handle id view,
            inquiry.enter program.toPlatform session = (after, .reply (.handle handle)) ∧
            after.view handle = .ok (id, .host view) ∧ view.size = size ∧ view.address ≠ 0 ∧
            session.alignment program.toPlatform ∣ view.address ∧
            ∀ offset < size, after.host.memory.byteAt (view.address + offset) = 0))) ∧
    ∀ after interruption,
      inquiry.enter program.toPlatform session = (after, .ended (.error interruption)) →
        after = session.resolved program.toPlatform := by
  have hkept := hvisited.settled.kept
  have hregistry := hvisited.next_pos
  refine ⟨?_, fun hsize ↦ enter_empty hkept hregistry hasks hbacked hsize,
    fun hsize ↦ enter_sized hkept hregistry hasks hbacked hsize hproper hzero,
    fun after interruption henter ↦ enter_interrupted hkept hregistry hasks hbacked henter⟩
  exact Settings.validate_eq_ok_iff.1 (hproper.valid.validate_resolve program.environment)
    .hostAlignment

/-- A session with a device of the host, whose memory is aligned to a power of two. -/
def aligned (exponent : Nat) : Session :=
  startAll {} { ambient.settings := some { hostAlignment := 2 ^ exponent } } [.hostDevice 0]

/-- Beside an alignment of two to the sixty-second there is room for as many bytes and no more, and
for that many there is no memory. -/
theorem backed_views_by_size_boundary :
    ((Inquiry.call (.newView 1 0 (2 ^ 62 + 1) (some (0, 0)))).enter {} (aligned 62)).2 =
        .failed Allocator.oversized ∧
      ((Inquiry.call (.newView 1 0 (2 ^ 62) (some (0, 0)))).enter {} (aligned 62)).2 =
        .failed (.outOfMemory (2 ^ 62)) := by
  have hvisited : Visited {} (aligned 62) :=
    .reachable ((runs_startAll {} _ _).reachable (.fresh ⟨rfl, rfl, rfl, rfl, rfl⟩))
  have hproper : (aligned 62).Proper := by
    refine ⟨by decide, fun settings hsettings ↦ ?_⟩
    obtain rfl : { hostAlignment := 2 ^ 62 } = settings := Option.some.inj hsettings
    decide
  have hdevice : (aligned 62).device 1 = .ok (1, .host 0 0) := rfl
  have hasks (size : Nat) : (aligned 62).AsksView 0 0 size .shared
      (.call (.newView 1 0 size (some (0, 0)))) :=
    .callDevice hdevice rfl (by decide)
  have hlarge := backed_views_by_size hvisited hproper (fun _ _ ↦ rfl) (hasks (2 ^ 62 + 1))
    fun _ ↦ rfl
  have hfits := backed_views_by_size hvisited hproper (fun _ _ ↦ rfl) (hasks (2 ^ 62)) fun _ ↦ rfl
  exact ⟨(hlarge.2.2.1 (by decide)).1.2 (by decide),
    ((hfits.2.2.1 (by decide)).2 (by decide)).1 (.inl (by decide))⟩

/-- With the largest alignment that settings can have, a view of no bytes is refused. -/
theorem empty_view_refused :
    ({ hostAlignment := 2 ^ 63 } : Settings).validate = .ok () ∧
      (aligned 63).AsksView 0 0 0 .shared (.call (.newView 1 0 0 (some (0, 0)))) ∧
      ((Inquiry.call (.newView 1 0 0 (some (0, 0)))).enter {} (aligned 63)).2 =
        .failed Allocator.oversized :=
  have hdevice : (aligned 63).device 1 = .ok (1, .host 0 0) := rfl
  ⟨by decide, .callDevice hdevice rfl (by decide), rfl⟩

end Session

end Offload
