import Offload.Proofs.Table
import Offload.Session.Commit
import Std.Data.String.ToNat

/-!
# The registry and its history

A client uses the registry by exposing objects and by looking up, retaining, releasing and counting
handles, with any numbers it likes. Each use is one step, so the uses of several clients are one
sequence. The history of such a sequence decides everything the registry answers next: which
handles are live, what they name and how often they are referred to.

This module holds the uses, their histories and the events that go with them.
-/

namespace Offload

/-! ## Uses of the registry -/

/-- One use of the registry by a client. -/
inductive HandleCall where
  | expose (kind : Kind) (object : ObjectId)
  | lookup (kind : Kind) (handle : Handle)
  /-- Looks a handle up without expecting a kind. -/
  | locate (handle : Handle)
  | retain (handle : Handle)
  | release (handle : Handle)
  | useCount (handle : Handle)
  deriving DecidableEq

/-- What a use of the registry answers. -/
inductive HandleReply where
  | handle (handle : Handle)
  | object (object : ObjectId)
  | tagged (kind : Kind) (object : ObjectId)
  | count (count : Nat)
  | done
  | refused (failure : Failure)
  deriving DecidableEq

namespace HandleReply

/-- The reply of a use that reads the registry. -/
def ofExcept {α : Type} (reply : α → HandleReply) : Except Failure α → HandleReply
  | .ok value => reply value
  | .error failure => .refused failure

/-- The reply of a use that changes the registry. What is left to do after the registry has been
left, such as waiting for a queue to end, does not concern the handle any more. -/
def ofProgressed : Progressed → HandleReply
  | .ended (.error (.failure failure)) => .refused failure
  | _ => .done

end HandleReply

/-- A session after a use of its registry, and the reply. -/
def HandleCall.apply (session : Session) : HandleCall → Session × HandleReply
  | expose kind object =>
    let (session, handle) := session.expose kind object
    (session, .handle handle)
  | lookup kind handle => (session, .ofExcept .object (session.registry.lookup kind handle))
  | locate handle =>
    (session, .ofExcept (fun slot ↦ .tagged slot.kind slot.object)
      (session.registry.locate handle))
  | retain handle =>
    let (session, progressed) := session.commit { effect := .retain handle }
    (session, .ofProgressed progressed)
  | release handle =>
    let (session, progressed) := session.release handle
    (session, .ofProgressed progressed)
  | useCount handle => (session, .ofExcept .count (session.registry.useCount handle))

/-! ## Histories -/

/-- The uses of a registry with their replies, oldest first. -/
abbrev HandleHistory := List (HandleCall × HandleReply)

namespace HandleHistory

/-- The handles given out, each with the kind and the object it was given out for. -/
def exposures (history : HandleHistory) : List (Handle × Kind × ObjectId) :=
  history.filterMap fun entry ↦
    match entry with
    | (.expose kind object, .handle handle) => some (handle, kind, object)
    | _ => none

/-- What a handle was given out for. -/
def origin? (history : HandleHistory) (handle : Handle) : Option (Kind × ObjectId) :=
  (history.exposures.find? (·.1 == handle)).map (·.2)

/-- How often a handle was retained. -/
def retains (history : HandleHistory) (handle : Handle) : Nat :=
  history.count (.retain handle, .done)

/-- How often a handle was released. -/
def releases (history : HandleHistory) (handle : Handle) : Nat :=
  history.count (.release handle, .done)

/-- A handle is live when it was given out and not released more often than retained. -/
def Live (history : HandleHistory) (handle : Handle) : Prop :=
  (history.origin? handle).isSome ∧ history.releases handle ≤ history.retains handle

instance (history : HandleHistory) (handle : Handle) : Decidable (history.Live handle) :=
  inferInstanceAs (Decidable (_ ∧ _))

end HandleHistory

/-- A session together with the history of its registry. -/
structure HandleRun where
  session : Session
  history : HandleHistory := []

namespace HandleRun

/-- One more use of the registry. -/
def step (run : HandleRun) (call : HandleCall) : HandleRun :=
  let (session, reply) := call.apply run.session
  ⟨session, run.history ++ [(call, reply)]⟩

/-- A sequence of uses. -/
def play (session : Session) (calls : List HandleCall) : HandleRun :=
  calls.foldl step ⟨session, []⟩

theorem play_append_singleton (session : Session) (calls : List HandleCall) (call : HandleCall) :
    play session (calls ++ [call]) = (play session calls).step call := by
  simp [play, List.foldl_append]

end HandleRun

/-! ## Events -/

/-- The event of a handle given out. -/
def handleCreated (handle : Handle) (kind : Kind) : Event :=
  ⟨.trace, "Handle created", [("handle", toString handle), ("kind", Quoted.quote kind.name)]⟩

/-- The event of a handle released for the last time. -/
def handleDestroyed (handle : Handle) (kind : Kind) : Event :=
  ⟨.trace, "Handle destroyed", [("handle", toString handle), ("kind", Quoted.quote kind.name)]⟩

theorem toString_handle_inj {left right : Handle} (heq : toString left = toString right) :
    left = right :=
  Nat.repr_inj.1 heq

/-! ## Histories that grow -/

namespace HandleHistory

variable (history : HandleHistory) (entry : HandleCall × HandleReply)

theorem exposures_append_singleton :
    exposures (history ++ [entry]) = exposures history ++ exposures [entry] :=
  List.filterMap_append

theorem origin?_append_singleton (handle : Handle) :
    origin? (history ++ [entry]) handle =
      (origin? history handle).or (origin? [entry] handle) := by
  simp [origin?, exposures_append_singleton, List.find?_append, Option.map_or]

theorem retains_append_singleton (handle : Handle) :
    retains (history ++ [entry]) handle =
      retains history handle + if entry = (.retain handle, .done) then 1 else 0 := by
  simp [retains, List.count_singleton]

theorem releases_append_singleton (handle : Handle) :
    releases (history ++ [entry]) handle =
      releases history handle + if entry = (.release handle, .done) then 1 else 0 := by
  simp [releases, List.count_singleton]

/-- An entry that neither gives a handle out nor retains or releases one. -/
def Silent (entry : HandleCall × HandleReply) : Prop :=
  exposures [entry] = [] ∧ ∀ handle, entry ≠ (.retain handle, .done) ∧
    entry ≠ (.release handle, .done)

/-- The slot the history accounts for. -/
def slot? (handle : Handle) : Option (Slot ObjectId) :=
  match history.origin? handle with
  | none => none
  | some (kind, object) =>
    if history.releases handle ≤ history.retains handle then
      some ⟨1 + history.retains handle - history.releases handle, kind, object⟩
    else none

variable {history entry}

theorem slot?_isSome_iff {handle : Handle} :
    (history.slot? handle).isSome ↔ history.Live handle := by
  unfold slot? Live
  cases history.origin? handle with
  | none => simp
  | some origin => split <;> simp_all

theorem slot?_eq_some {handle : Handle} {slot : Slot ObjectId}
    (hslot : history.slot? handle = some slot) :
    history.origin? handle = some (slot.kind, slot.object) ∧
      history.releases handle ≤ history.retains handle ∧
      slot.count = 1 + history.retains handle - history.releases handle := by
  unfold slot? at hslot
  cases horigin : history.origin? handle with
  | none => simp [horigin] at hslot
  | some origin =>
    simp only [horigin] at hslot
    split at hslot
    · next hle =>
      obtain rfl := Option.some.inj hslot
      exact ⟨rfl, hle, rfl⟩
    · exact absurd hslot (by simp)

namespace Silent

theorem origin? (hsilent : Silent entry) (handle : Handle) :
    HandleHistory.origin? (history ++ [entry]) handle = history.origin? handle := by
  rw [origin?_append_singleton]
  simp [HandleHistory.origin?, hsilent.1]

theorem retains (hsilent : Silent entry) (handle : Handle) :
    HandleHistory.retains (history ++ [entry]) handle = history.retains handle := by
  rw [retains_append_singleton, if_neg (hsilent.2 handle).1, Nat.add_zero]

theorem releases (hsilent : Silent entry) (handle : Handle) :
    HandleHistory.releases (history ++ [entry]) handle = history.releases handle := by
  rw [releases_append_singleton, if_neg (hsilent.2 handle).2, Nat.add_zero]

theorem exposures (hsilent : Silent entry) :
    HandleHistory.exposures (history ++ [entry]) = history.exposures := by
  rw [exposures_append_singleton, hsilent.1, List.append_nil]

theorem slot? (hsilent : Silent entry) (handle : Handle) :
    HandleHistory.slot? (history ++ [entry]) handle = history.slot? handle := by
  simp only [HandleHistory.slot?, hsilent.origin?, hsilent.retains, hsilent.releases]

end Silent

/-! ## One more retain or release -/

section Counting

variable {handle : Handle} (other : Handle)

theorem origin?_retain :
    origin? (history ++ [(.retain handle, .done)]) other = origin? history other := by
  simp [origin?, exposures]

theorem origin?_release :
    origin? (history ++ [(.release handle, .done)]) other = origin? history other := by
  simp [origin?, exposures]

theorem retains_retain :
    retains (history ++ [(.retain handle, .done)]) other =
      retains history other + if other = handle then 1 else 0 := by
  simp [retains_append_singleton, eq_comm]

theorem releases_retain :
    releases (history ++ [(.retain handle, .done)]) other = releases history other := by
  simp [releases_append_singleton]

theorem retains_release :
    retains (history ++ [(.release handle, .done)]) other = retains history other := by
  simp [retains_append_singleton]

theorem releases_release :
    releases (history ++ [(.release handle, .done)]) other =
      releases history other + if other = handle then 1 else 0 := by
  simp [releases_append_singleton, eq_comm]

/-- Retaining a live handle makes no other handle live. -/
theorem live_retain (hlive : history.Live handle) :
    Live (history ++ [(.retain handle, .done)]) other ↔ history.Live other := by
  simp only [Live, origin?_retain, retains_retain, releases_retain]
  by_cases hother : other = handle
  · subst hother
    simp [hlive.1, hlive.2, Nat.le_succ_of_le hlive.2]
  · simp [hother]

/-- A handle that was retained more often than released outlives one more release. -/
theorem live_release_shared (hlive : history.Live handle)
    (hshared : history.releases handle < history.retains handle) :
    Live (history ++ [(.release handle, .done)]) other ↔ history.Live other := by
  simp only [Live, origin?_release, retains_release, releases_release]
  by_cases hother : other = handle
  · subst hother
    simp [hlive.1, hlive.2, Nat.succ_le_of_lt hshared]
  · simp [hother]

/-- A handle that was released as often as retained is gone after one more release. -/
theorem live_release_last (hlast : history.releases handle = history.retains handle) :
    Live (history ++ [(.release handle, .done)]) other ↔ other ≠ handle ∧ history.Live other := by
  simp only [Live, origin?_release, retains_release, releases_release]
  by_cases hother : other = handle
  · subst hother
    simp [hlast]
  · simp [hother]

end Counting

theorem silent_refused (call : HandleCall) (failure : Failure) :
    Silent (call, .refused failure) := by
  constructor
  · cases call <;> rfl
  · intro handle
    constructor <;> simp

end HandleHistory

/-! ## One use -/

namespace Registry

variable {α : Type} {registry : Registry α} {handle : Handle}

/-- Why a handle that is not live is refused. -/
def refusal (handle : Handle) : Failure :=
  if handle = 0 then .nullPointer "handle" else .invalidHandle handle

theorem locate_eq_ok {slot : Slot α} (hzero : registry.get? 0 = none)
    (hget : registry.get? handle = some slot) : registry.locate handle = .ok slot := by
  have hhandle : handle ≠ 0 := by
    rintro rfl
    simp [hzero] at hget
  simp [locate, hhandle, hget]

theorem locate_eq_error (hget : registry.get? handle = none) :
    registry.locate handle = .error (refusal handle) := by
  unfold locate refusal
  by_cases hhandle : handle = 0
  · rw [if_pos hhandle, if_pos hhandle]
  · rw [if_neg hhandle, if_neg hhandle, hget]

end Registry

namespace HandleCall

variable {session : Session} {handle : Handle}

theorem apply_expose (kind : Kind) (object : ObjectId) :
    (expose kind object).apply session =
      ({ session.note [handleCreated session.registry.next kind] with
          registry := (session.registry.insert ⟨1, kind, object⟩).1 },
        .handle session.registry.next) := rfl

theorem apply_retain_live {slot : Slot ObjectId} (hzero : session.registry.get? 0 = none)
    (hget : session.registry.get? handle = some slot) :
    (retain handle).apply session =
      ({ session with
          registry := session.registry.modify handle fun slot ↦
            { slot with count := slot.count + 1 } }, .done) := by
  have hlocate := Registry.locate_eq_ok hzero hget
  simp [apply, Session.commit, Registry.retain, hlocate, bind, Except.bind,
    HandleReply.ofProgressed, Progressed.reply]

theorem apply_retain_dead (hget : session.registry.get? handle = none) :
    (retain handle).apply session = (session, .refused (Registry.refusal handle)) := by
  have hlocate := Registry.locate_eq_error hget
  simp [apply, Session.commit, Registry.retain, hlocate, bind, Except.bind,
    HandleReply.ofProgressed, Progressed.failed]

/-- Leaving a queue is not part of the use of its handle. -/
theorem leave_fst (queue : ObjectId) (outcome : Outcome) :
    (session.leave queue outcome).1 = session := by
  unfold Session.leave
  split <;> rfl

theorem ofProgressed_leave (queue : ObjectId) :
    HandleReply.ofProgressed (session.leave queue (.ok .nothing)).2 = .done := by
  unfold Session.leave
  split <;> rfl

theorem apply_release_shared {slot : Slot ObjectId} (hzero : session.registry.get? 0 = none)
    (hget : session.registry.get? handle = some slot) (hcount : 1 < slot.count) :
    (release handle).apply session =
      ({ session with
          registry := session.registry.modify handle fun slot ↦
            { slot with count := slot.count - 1 } }, .done) := by
  have hlocate := Registry.locate_eq_ok hzero hget
  simp [apply, Session.release, Registry.release, hlocate, bind, Except.bind, hcount,
    HandleReply.ofProgressed, Progressed.reply]

theorem apply_release_last {slot : Slot ObjectId} (hzero : session.registry.get? 0 = none)
    (hget : session.registry.get? handle = some slot) (hcount : ¬1 < slot.count) :
    (release handle).apply session =
      ({ session.note [handleDestroyed handle slot.kind] with
          registry := session.registry.erase handle }, .done) := by
  have hlocate := Registry.locate_eq_ok hzero hget
  have hrelease : session.registry.release handle =
      .ok (session.registry.erase handle, some slot) := by
    simp [Registry.release, hlocate, bind, Except.bind, hcount]
  simp only [apply, Session.release, hrelease]
  split
  · rfl
  · exact Prod.ext (leave_fst _ _) (ofProgressed_leave _)

theorem apply_release_dead (hget : session.registry.get? handle = none) :
    (release handle).apply session = (session, .refused (Registry.refusal handle)) := by
  have hlocate := Registry.locate_eq_error hget
  simp [apply, Session.release, Registry.release, hlocate, bind, Except.bind,
    HandleReply.ofProgressed, Progressed.failed]

end HandleCall

/-! ## Events of a history -/

theorem Kind.quote_name_inj {left right : Kind}
    (heq : Quoted.quote left.name = Quoted.quote right.name) : left = right := by
  revert heq
  cases left <;> cases right <;> decide +kernel

theorem handleCreated_inj {handle other : Handle} {kind kind' : Kind} :
    handleCreated handle kind = handleCreated other kind' ↔ handle = other ∧ kind = kind' := by
  constructor
  · intro heq
    simp only [handleCreated, Event.mk.injEq, List.cons.injEq, Prod.mk.injEq, true_and,
      and_true] at heq
    exact ⟨toString_handle_inj heq.1, Kind.quote_name_inj heq.2⟩
  · rintro ⟨rfl, rfl⟩
    rfl

theorem handleDestroyed_inj {handle other : Handle} {kind kind' : Kind} :
    handleDestroyed handle kind = handleDestroyed other kind' ↔
      handle = other ∧ kind = kind' := by
  constructor
  · intro heq
    simp only [handleDestroyed, Event.mk.injEq, List.cons.injEq, Prod.mk.injEq, true_and,
      and_true] at heq
    exact ⟨toString_handle_inj heq.1, Kind.quote_name_inj heq.2⟩
  · rintro ⟨rfl, rfl⟩
    rfl

theorem handleCreated_ne_handleDestroyed (handle other : Handle) (kind kind' : Kind) :
    handleCreated handle kind ≠ handleDestroyed other kind' := by
  simp [handleCreated, handleDestroyed]

namespace HandleHistory

/-- The events of handles that the history accounts for: one for each handle given out, and one for
each that has been released for the last time. -/
structure Balanced (history : HandleHistory) (notes : Journal) : Prop where
  created : ∀ handle kind, notes.count (handleCreated handle kind) =
    if (history.origin? handle).map (·.1) = some kind then 1 else 0
  destroyed : ∀ handle kind, notes.count (handleDestroyed handle kind) =
    if (history.origin? handle).map (·.1) = some kind ∧ ¬history.Live handle then 1 else 0
  nothingElse : ∀ event ∈ notes, ∃ handle kind,
    event = handleCreated handle kind ∨ event = handleDestroyed handle kind

namespace Balanced

variable {history after : HandleHistory} {notes : Journal} {handle : Handle} {kind : Kind}
  {object : ObjectId}

/-- While the same handles are given out and live, no event is missing. -/
theorem keep (hbalanced : history.Balanced notes)
    (horigin : ∀ other, after.origin? other = history.origin? other)
    (hlive : ∀ other, after.Live other ↔ history.Live other) : after.Balanced notes where
  created other kind := by rw [horigin, hbalanced.created]
  destroyed other kind := by
    rw [horigin, hbalanced.destroyed]
    simp only [hlive]
  nothingElse := hbalanced.nothingElse

/-- A handle that is given out adds the event of its creation. -/
theorem create (hbalanced : history.Balanced notes) (hfresh : history.origin? handle = none)
    (horigin : ∀ other, after.origin? other =
      if other = handle then some (kind, object) else history.origin? other)
    (hlive : ∀ other, after.Live other ↔ other = handle ∨ history.Live other) :
    after.Balanced (notes ++ [handleCreated handle kind]) where
  created other kind' := by
    rw [List.count_append, hbalanced.created, horigin, List.count_singleton]
    by_cases hother : other = handle
    · simp [hother, hfresh, handleCreated_inj]
    · rw [if_neg hother]
      simp [Ne.symm hother, handleCreated_inj]
  destroyed other kind' := by
    have hne : (handleCreated handle kind == handleDestroyed other kind') ≠ true := by
      simpa using handleCreated_ne_handleDestroyed _ _ _ _
    rw [List.count_append, hbalanced.destroyed, horigin, List.count_singleton, if_neg hne]
    by_cases hother : other = handle
    · simp [hother, hfresh, hlive]
    · have hlives : after.Live other ↔ history.Live other := by simp [hlive, hother]
      rw [if_neg hother, Nat.add_zero]
      simp only [hlives]
  nothingElse event hevent := by
    rcases List.mem_append.1 hevent with hold | hnew
    · exact hbalanced.nothingElse event hold
    · exact ⟨_, _, .inl (List.mem_singleton.1 hnew)⟩

/-- A handle that is gone adds the event of its destruction. -/
theorem destroy (hbalanced : history.Balanced notes) (hlived : history.Live handle)
    (hkind : history.origin? handle = some (kind, object))
    (horigin : ∀ other, after.origin? other = history.origin? other)
    (hlive : ∀ other, after.Live other ↔ other ≠ handle ∧ history.Live other) :
    after.Balanced (notes ++ [handleDestroyed handle kind]) where
  created other kind' := by
    have hne : (handleDestroyed handle kind == handleCreated other kind') ≠ true := by
      simpa using (handleCreated_ne_handleDestroyed _ _ _ _).symm
    rw [List.count_append, hbalanced.created, horigin, List.count_singleton, if_neg hne,
      Nat.add_zero]
  destroyed other kind' := by
    rw [List.count_append, hbalanced.destroyed, horigin, List.count_singleton]
    by_cases hother : other = handle
    · simp [hother, hlived, hkind, hlive, handleDestroyed_inj]
    · have hne : (handleDestroyed handle kind == handleDestroyed other kind') ≠ true := by
        simp [handleDestroyed_inj, Ne.symm hother]
      have hlives : after.Live other ↔ history.Live other := by simp [hlive, hother]
      rw [if_neg hne, Nat.add_zero]
      simp only [hlives]
  nothingElse event hevent := by
    rcases List.mem_append.1 hevent with hold | hnew
    · exact hbalanced.nothingElse event hold
    · exact ⟨_, _, .inr (List.mem_singleton.1 hnew)⟩

end Balanced

/-- The events that one more use of the registry notes. -/
def notes (history : HandleHistory) : HandleCall → Journal
  | .expose kind _ => [handleCreated (history.exposures.length + 1) kind]
  | .release handle =>
    match history.origin? handle with
    | some (kind, _) =>
      if history.releases handle = history.retains handle then [handleDestroyed handle kind]
      else []
    | none => []
  | _ => []

end HandleHistory

end Offload
