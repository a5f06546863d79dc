import Offload.Session.Operations

/-!
# What reaches a back-end

A queue checks the operations that it is asked for against what the views and kernels tell about
themselves, one condition after the other. What passes all of them is done by one call of the hook for
it, with the arguments as they are. What does not is answered with the failure of the first condition
that it violates, and a copy of nothing is answered without a hook. This holds for every back-end, as
nothing is assumed of its hooks: they are code that may read and change a world of their own.
-/

namespace Offload

/-- What a queue can be asked to do with views and kernels. -/
inductive QueueRequest (View Kernel : Type) where
  | toDevice (view : View)
  | toHost (view : View)
  | copy (destination source : View) (size : Nat)
  | launch (kernel : Kernel) (parameters : Option View) (extent : Extent)
  deriving DecidableEq

/-- A copy of nothing. -/
def QueueRequest.Idle {View Kernel : Type} : QueueRequest View Kernel → Prop
  | copy _ _ size => size = 0
  | _ => False

/-- Code of a hook. It may read and change a world, and it may fail. -/
abbrev HookCode (World Reply : Type) := World → Except Failure Reply × World

/-! ## Conditions in order -/

/-- The failure of the first condition of a list that is not met. -/
def firstViolated? (conditions : List (Bool × Failure)) : Option Failure :=
  conditions.findSome? fun (met, failure) ↦ if met then none else some failure

/-- A value if all conditions of a list are met, else the failure of the first that is not. -/
def provided {α : Type} (conditions : List (Bool × Failure)) (value : α) : Except Failure α :=
  match firstViolated? conditions with
  | some failure => .error failure
  | none => .ok value

theorem firstViolated?_eq_none_iff {conditions : List (Bool × Failure)} :
    firstViolated? conditions = none ↔ ∀ condition ∈ conditions, condition.1 = true := by
  simp [firstViolated?]

theorem provided_nil {α : Type} (value : α) : provided [] value = .ok value := rfl

theorem provided_cons {α : Type} (met : Bool) (failure : Failure)
    (conditions : List (Bool × Failure)) (value : α) :
    provided ((met, failure) :: conditions) value =
      if met then provided conditions value else .error failure := by
  cases met <;> rfl

/-! ## Requests to a queue -/

theorem ViewReport.hasHostSide_iff (view : ViewReport) :
    view.hasHostSide = true ↔ view.kind = .shared ∧ (view.hostAddress ≠ 0 ∨ view.size = 0) := by
  simp [hasHostSide, isShared]

namespace QueueHooks

section Checks

variable {View Kernel Result : Type} (hooks : QueueHooks View Kernel Result)

/-- The checks of a queue on a request, and the hook's part if there is one. -/
def ask : QueueRequest View Kernel → Except Failure (Option Result)
  | .toDevice view => some <$> hooks.transferToDevice view
  | .toHost view => some <$> hooks.transferToHost view
  | .copy destination source size => hooks.copyView destination source size
  | .launch kernel parameters extent => some <$> hooks.launchKernel kernel parameters extent

/-- The hook for a request. -/
def serve : QueueRequest View Kernel → Result
  | .toDevice view => hooks.copyToDevice view
  | .toHost view => hooks.copyToHost view
  | .copy destination source size => hooks.copy destination source size
  | .launch kernel parameters extent => hooks.launch kernel parameters extent

/-- That an object is of the queue's family. -/
def ofFamily (found : Family) : Bool × Failure :=
  (hooks.family = found, .familyMismatch hooks.family found)

/-- That there is memory on the host for a transfer of a view. -/
def onHost (view : View) (operation : String) : Bool × Failure :=
  ((hooks.report view).hasHostSide, .noHostMemory operation (hooks.report view).size)

/-- The conditions on a request, in the order in which they are checked. -/
def conditions : QueueRequest View Kernel → List (Bool × Failure)
  | .toDevice view =>
    [hooks.ofFamily (hooks.report view).family, hooks.onHost view "copy_to_device"]
  | .toHost view => [hooks.ofFamily (hooks.report view).family, hooks.onHost view "copy_to_host"]
  | .copy destination source size =>
    let target := hooks.report destination
    let origin := hooks.report source
    [(size ≤ target.size, .copyExceedsDestination size target.size),
      (size ≤ origin.size, .copyExceedsSource size origin.size),
      hooks.ofFamily target.family, hooks.ofFamily origin.family]
  | .launch kernel parameters _ =>
    hooks.ofFamily (hooks.kernelFamily kernel) ::
      parameters.toList.map fun view ↦ hooks.ofFamily (hooks.report view).family

/-- The requests that a hook is called for. -/
def Admits : QueueRequest View Kernel → Prop
  | .toDevice view | .toHost view =>
    let report := hooks.report view
    report.family = hooks.family ∧ report.kind = .shared ∧
      (report.hostAddress ≠ 0 ∨ report.size = 0)
  | .copy destination source size =>
    let target := hooks.report destination
    let origin := hooks.report source
    0 < size ∧ size ≤ target.size ∧ size ≤ origin.size ∧ target.family = hooks.family ∧
      origin.family = hooks.family
  | .launch kernel parameters _ =>
    hooks.kernelFamily kernel = hooks.family ∧
      ∀ view ∈ parameters, (hooks.report view).family = hooks.family

/-- What a request that meets its conditions is handed on to: its hook, unless it is a copy of
nothing. -/
def handed : QueueRequest View Kernel → Option Result
  | .copy destination source size =>
    if size = 0 then none else some (hooks.copy destination source size)
  | request => some (hooks.serve request)

/-- The checks are the conditions in their order. -/
theorem ask_eq (request : QueueRequest View Kernel) :
    hooks.ask request = provided (hooks.conditions request) (hooks.handed request) := by
  cases request with
  | toDevice view =>
    simp only [ask, transferToDevice, requireFamily, requireHostSide, conditions, ofFamily, onHost,
      provided_cons, provided_nil, decide_eq_true_eq]
    split <;> split <;> rfl
  | toHost view =>
    simp only [ask, transferToHost, requireFamily, requireHostSide, conditions, ofFamily, onHost,
      provided_cons, provided_nil, decide_eq_true_eq]
    split <;> split <;> rfl
  | copy destination source size =>
    simp only [ask, copyView, requireFamily, conditions, ofFamily, provided_cons, provided_nil,
      decide_eq_true_eq, ← Nat.not_le, ite_not]
    split
    · split
      · split
        · split <;> rfl
        · rfl
      · rfl
    · rfl
  | launch kernel parameters extent =>
    simp only [ask, launchKernel, requireFamily, conditions, ofFamily, provided_cons,
      decide_eq_true_eq]
    cases parameters with
    | none =>
      simp only [Option.toList_none, List.map_nil, provided_nil]
      split <;> rfl
    | some view =>
      simp only [Option.toList_some, List.map_cons, List.map_nil, provided_cons, provided_nil,
        decide_eq_true_eq]
      split <;> split <;> rfl

variable {hooks}

theorem ofFamily_met {found : Family} :
    (hooks.ofFamily found).1 = true ↔ found = hooks.family := by
  rw [ofFamily, decide_eq_true_iff, eq_comm]

/-- A hook is called for what meets all conditions and is not a copy of nothing. -/
theorem admits_iff {request : QueueRequest View Kernel} :
    hooks.Admits request ↔
      firstViolated? (hooks.conditions request) = none ∧ ¬request.Idle := by
  rw [firstViolated?_eq_none_iff]
  cases request with
  | toDevice view | toHost view =>
    simp [Admits, conditions, ofFamily_met, onHost, ViewReport.hasHostSide_iff, QueueRequest.Idle]
  | copy destination source size =>
    simp only [Admits, conditions, List.forall_mem_cons, ofFamily_met, decide_eq_true_eq,
      QueueRequest.Idle, Nat.pos_iff_ne_zero]
    constructor
    · rintro ⟨hbusy, htarget, horigin, hfamilies⟩
      exact ⟨⟨htarget, horigin, hfamilies.1, hfamilies.2, List.forall_mem_nil _⟩, hbusy⟩
    · rintro ⟨⟨htarget, horigin, hfirst, hsecond, -⟩, hbusy⟩
      exact ⟨hbusy, htarget, horigin, hfirst, hsecond⟩
  | launch kernel parameters extent =>
    cases parameters <;> simp [Admits, conditions, ofFamily_met, QueueRequest.Idle]

/-- What meets all conditions and still reaches no hook is a copy of nothing. -/
theorem idle_of_not_admits {request : QueueRequest View Kernel}
    (hrefused : ¬hooks.Admits request)
    (hmet : firstViolated? (hooks.conditions request) = none) : request.Idle :=
  Classical.byContradiction fun hbusy ↦ hrefused (admits_iff.2 ⟨hmet, hbusy⟩)

theorem handed_of_not_idle {request : QueueRequest View Kernel} (hbusy : ¬request.Idle) :
    hooks.handed request = some (hooks.serve request) := by
  cases request with
  | copy destination source size => exact if_neg hbusy
  | _ => rfl

theorem handed_of_idle {request : QueueRequest View Kernel} (hidle : request.Idle) :
    hooks.handed request = none := by
  cases request with
  | copy destination source size => exact if_pos hidle
  | _ => exact hidle.elim

end Checks

/-! ## Calls of hooks -/

section Calls

variable {View Kernel World Reply : Type}

/-- Does a request: checks it, and calls the hook if the checks hand it on. -/
def carryOut (hooks : QueueHooks View Kernel (HookCode World Reply))
    (request : QueueRequest View Kernel) : HookCode World (Option Reply) := fun world ↦
  match hooks.ask request with
  | .error failure => (.error failure, world)
  | .ok none => (.ok none, world)
  | .ok (some code) => let (result, after) := code world; (some <$> result, after)

/-- Notes that a hook is called for a request, and calls it. -/
def noting (request : QueueRequest View Kernel) (code : HookCode World Reply) :
    HookCode (World × List (QueueRequest View Kernel)) Reply :=
  fun (world, calls) ↦ let (result, after) := code world; (result, after, calls ++ [request])

/-- The same hooks, where each notes the arguments it is called with. -/
def recording (hooks : QueueHooks View Kernel (HookCode World Reply)) :
    QueueHooks View Kernel (HookCode (World × List (QueueRequest View Kernel)) Reply) where
  family := hooks.family
  report := hooks.report
  kernelFamily := hooks.kernelFamily
  copyToDevice view := noting (.toDevice view) (hooks.copyToDevice view)
  copyToHost view := noting (.toHost view) (hooks.copyToHost view)
  copy destination source size :=
    noting (.copy destination source size) (hooks.copy destination source size)
  launch kernel parameters extent :=
    noting (.launch kernel parameters extent) (hooks.launch kernel parameters extent)

variable (hooks : QueueHooks View Kernel (HookCode World Reply))

theorem serve_recording (request : QueueRequest View Kernel) :
    hooks.recording.serve request = noting request (hooks.serve request) := by
  cases request <;> rfl

theorem conditions_recording (request : QueueRequest View Kernel) :
    hooks.recording.conditions request = hooks.conditions request := by
  cases request <;> rfl

variable {hooks} {request : QueueRequest View Kernel}

/-- An admitted request is one call of its hook. -/
theorem carryOut_of_admits (hadmits : hooks.Admits request) (world : World) :
    hooks.carryOut request world =
      (some <$> (hooks.serve request world).1, (hooks.serve request world).2) := by
  obtain ⟨hmet, hbusy⟩ := admits_iff.1 hadmits
  have hask : hooks.ask request = .ok (some (hooks.serve request)) := by
    rw [ask_eq, provided, hmet, handed_of_not_idle hbusy]
  rw [carryOut, hask]

/-- Any other request leaves the world as it is. -/
theorem carryOut_of_not_admits (hrefused : ¬hooks.Admits request) (world : World) :
    hooks.carryOut request world = (provided (hooks.conditions request) none, world) := by
  rw [carryOut, ask_eq]
  unfold provided
  cases hviolated : firstViolated? (hooks.conditions request) with
  | some failure => rfl
  | none => rw [handed_of_idle (idle_of_not_admits hrefused hviolated)]

end Calls

/-- Whatever the hooks of a queue do and whatever its views and kernels tell about themselves: a hook
is called exactly for the requests that are admitted, once and with their arguments, and what it returns
is the result. Otherwise no hook is called, nothing has changed, and the result is the failure of the
first condition that is violated; where none is, the request is a copy of nothing. -/
theorem carryOut_recording {View Kernel World Reply : Type}
    (hooks : QueueHooks View Kernel (HookCode World Reply)) (request : QueueRequest View Kernel)
    (world : World) (calls : List (QueueRequest View Kernel)) :
    let done := hooks.recording.carryOut request (world, calls)
    (hooks.Admits request → done = (some <$> (hooks.serve request world).1,
      (hooks.serve request world).2, calls ++ [request])) ∧
    (¬hooks.Admits request → done.2 = (world, calls) ∧
      (∀ failure, firstViolated? (hooks.conditions request) = some failure →
        done.1 = .error failure) ∧
      (firstViolated? (hooks.conditions request) = none → request.Idle ∧ done.1 = .ok none)) ∧
    (done.1, done.2.1) = hooks.carryOut request world := by
  intro done
  have hsame : hooks.recording.Admits request ↔ hooks.Admits request := by
    rw [admits_iff, admits_iff, conditions_recording]
  by_cases hadmits : hooks.Admits request
  · have hdone : done = (some <$> (hooks.serve request world).1,
        (hooks.serve request world).2, calls ++ [request]) := by
      have hcalled := carryOut_of_admits (hsame.2 hadmits) (world, calls)
      rw [serve_recording] at hcalled
      exact hcalled
    refine ⟨fun _ ↦ hdone, fun hrefused ↦ absurd hadmits hrefused, ?_⟩
    rw [hdone, carryOut_of_admits hadmits]
  · have hdone : done = (provided (hooks.conditions request) none, world, calls) := by
      rw [← conditions_recording]
      exact carryOut_of_not_admits (fun hrecording ↦ hadmits (hsame.1 hrecording)) _
    refine ⟨fun hadmitted ↦ absurd hadmitted hadmits, fun _ ↦ ⟨?_, ?_, ?_⟩, ?_⟩
    · rw [hdone]
    · intro failure hviolated
      rw [hdone, provided, hviolated]
    · intro hmet
      rw [hdone, provided, hmet]
      exact ⟨idle_of_not_admits hadmits hmet, rfl⟩
    · rw [hdone, carryOut_of_not_admits hadmits]

end QueueHooks

/-! ## Queues of a session -/

namespace Session

variable {queue : ObjectId × TaskQueue}

/-- What the checks hand on is done, and a copy of nothing is answered. -/
def handOn : Option (Deciding Decision) → Deciding Decision
  | none => pure (Decision.answer .nothing)
  | some enqueue => enqueue

/-- What an operation of a session decides on a request to a queue. -/
def decideOn (queue : ObjectId × TaskQueue)
    (request : QueueRequest (ObjectId × View) (ObjectId × Kernel)) : Deciding Decision := do
  handOn (← (hooks queue).ask request)

theorem bind_handOn (checked : Except Failure (Deciding Decision)) :
    ((liftM checked : Deciding _) >>= fun enqueue ↦ enqueue) =
      (liftM (some <$> checked) : Deciding _) >>= handOn := by
  cases checked <;> rfl

theorem copyToDevice_eq (queue : ObjectId × TaskQueue) (view : ObjectId × View) :
    copyToDevice queue view = decideOn queue (.toDevice view) :=
  bind_handOn _

theorem copyToHost_eq (queue : ObjectId × TaskQueue) (view : ObjectId × View) :
    copyToHost queue view = decideOn queue (.toHost view) :=
  bind_handOn _

theorem copyView_eq (queue : ObjectId × TaskQueue) (destination source : ObjectId × View)
    (size : Nat) :
    copyView queue destination source size = decideOn queue (.copy destination source size) := rfl

theorem launch_eq (queue : ObjectId × TaskQueue) (kernel : ObjectId × Kernel)
    (parameters : Option (ObjectId × View)) (extent : Extent) :
    launch queue kernel parameters extent =
      decideOn queue (.launch kernel parameters extent) :=
  bind_handOn _

/-- An admitted request is decided by the hook. -/
theorem decideOn_of_admits {request : QueueRequest (ObjectId × View) (ObjectId × Kernel)}
    (hadmits : (hooks queue).Admits request) :
    decideOn queue request = (hooks queue).serve request := by
  obtain ⟨hmet, hbusy⟩ := QueueHooks.admits_iff.1 hadmits
  rw [decideOn, QueueHooks.ask_eq, provided, hmet, QueueHooks.handed_of_not_idle hbusy]
  rfl

/-- Any other request has no effect, and its failure is that of the first condition it violates. -/
theorem decideOn_of_not_admits {request : QueueRequest (ObjectId × View) (ObjectId × Kernel)}
    (hrefused : ¬(hooks queue).Admits request) :
    decideOn queue request =
      liftM (provided ((hooks queue).conditions request) (Decision.answer .nothing)) := by
  rw [decideOn, QueueHooks.ask_eq]
  unfold provided
  cases hviolated : firstViolated? ((hooks queue).conditions request) with
  | some failure => rfl
  | none =>
    rw [QueueHooks.handed_of_idle (QueueHooks.idle_of_not_admits hrefused hviolated)]
    rfl

end Session

end Offload
