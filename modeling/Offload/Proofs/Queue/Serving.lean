import Offload.Proofs.Queue.Commands

/-!
# Serving a command

A command is served in the same way to an errand and to an immediate run that look the same: the
decision is the same, committing it gives out the same handles and makes the same futures, and what
is waited for is the same.
-/

namespace Offload

open Heap

variable {platform : Platform} {routine : Entry → Routine} {files : List String} {job : Job}
  {jobs : List Job} {id : ObjectId} {queue : Handle} {session after : Session}
  {decision : Decision}

/-! ## Futures that are made meanwhile -/

/-- A job settles its own future, not one that is made meanwhile. -/
theorem Session.settled_insert (heap : Heap) (object : Object) (failure : Option Failure)
    (hold : ∀ future, job.future = some future → future ≠ heap.next) :
    Session.settled (heap.insert object).1 job failure =
      ((Session.settled heap job failure).insert object).1 := by
  unfold Session.settled
  cases hfuture : job.future with
  | none => rfl
  | some future => exact Table.modify_insert heap (hold future hfuture) object _

namespace Immediate

variable {left right state : Immediate}

/-- An immediate run in which an object is made. -/
def place (state : Immediate) (object : Object) : Immediate :=
  { state with session := (state.session.place object).1 }

theorem execute_place (state : Immediate) (object : Object)
    (hold : ∀ future, job.future = some future → future ≠ state.session.heap.next) :
    (state.place object).execute routine job = (state.execute routine job).place object := by
  have hhost : (state.place object).session.host = state.session.host := rfl
  have hconclude (host : HostState) (failure : Option Failure) :
      (state.place object).conclude job host failure =
        (state.conclude job host failure).place object := by
    have hsettled : Session.settled (state.place object).session.heap job failure = _ :=
      Session.settled_insert state.session.heap object failure hold
    unfold conclude
    rw [hsettled]
    rfl
  unfold execute
  rw [hhost]
  cases job.work.run routine job.operation state.session.host with
  | done host => exact hconclude host none
  | failed failure host => exact hconclude host (some failure)
  | waiting => rfl

/-- Jobs that are pending do not mind what is made meanwhile. -/
theorem executeAll_place (state : Immediate) (object : Object)
    (hold : ∀ job ∈ jobs, ∀ future, job.future = some future →
      future ≠ state.session.heap.next) :
    (state.place object).executeAll routine jobs = (state.executeAll routine jobs).place object := by
  induction jobs generalizing state with
  | nil => rfl
  | cons job rest ih =>
    show ((state.place object).execute routine job).executeAll routine rest = _
    rw [execute_place state object (hold job List.mem_cons_self)]
    apply ih
    intro other hother future hfuture
    rw [← (alike_execute state job).next]
    exact hold other (List.mem_cons_of_mem _ hother) future hfuture

/-- The same object can be made on both sides. -/
theorem Same.place (hsame : Same files left right) (object : Object) :
    Same files (left.place object) (right.place object) where
  registry := hsame.registry
  next := congrArg (· + 1) hsame.next
  exposed := by
    intro handle slot hslot
    show ∃ found, Table.get? (left.session.heap.insert object).1 slot.object = some found
    rw [Table.get?_insert]
    split
    · exact ⟨object, rfl⟩
    · exact hsame.exposed hslot
  shows := hsame.shows.insert hsame.next object
  host := hsame.host
  gateOpen := hsame.gateOpen
  failure := hsame.failure
  entered := hsame.entered
  seen := hsame.seen

end Immediate

namespace Errand

variable {errand : Errand} {base : Immediate} {flight : List Stage}

/-- A launch makes the same future on both sides. -/
theorem place_same (hsound : errand.session.Sound flight)
    (hsame : Immediate.Same files (errand.caughtUp routine id) base) :
    let object := Object.future (.cell .pending)
    Immediate.Same files
        ({ errand with session := (errand.session.place object).1 }.caughtUp routine id)
        (base.place object) ∧
      (errand.session.place object).2 = (base.session.place object).2 := by
  intro object
  have hnext : errand.session.heap.next = base.session.heap.next :=
    (Immediate.alike_executeAll (errand.asIs id) _).next.trans hsame.next
  refine ⟨?_, hnext⟩
  have hqueues : (errand.session.place object).1.heap.hostQueue? id =
      errand.session.heap.hostQueue? id := by
    show hostQueue? (errand.session.heap.insert object).1 id = _
    rw [hostQueue?_insert]
    split
    · next hid =>
      refine (Option.eq_none_iff_forall_ne_some.2 fun ordered hordered ↦ ?_).symm
      have hlt := hsound.rooted.ordered.lt_next (hostQueue?_eq_some.1 hordered)
      exact absurd hid (Nat.ne_of_lt hlt)
    · rfl
  have hjobs : (errand.session.place object).1.heap.jobsOf id = errand.session.heap.jobsOf id := by
    unfold jobsOf
    rw [hqueues]
  have hfailure : (errand.session.place object).1.heap.failureOf id =
      errand.session.heap.failureOf id := by
    unfold failureOf
    rw [hqueues]
  have hasIs : { errand with session := (errand.session.place object).1 }.asIs id =
      (errand.asIs id).place object := by
    unfold asIs Immediate.place
    rw [hfailure]
  unfold caughtUp at hsame ⊢
  rw [hasIs, hjobs, Immediate.executeAll_place]
  · exact hsame.place object
  · intro job hjob future hfuture
    unfold jobsOf at hjob
    split at hjob
    · exact absurd hjob List.not_mem_nil
    · next ordered hordered =>
      obtain ⟨state, hget⟩ :=
        ((hsound.rooted.sound.queues hordered).jobs job hjob).future future hfuture
      exact Nat.ne_of_lt (hsound.rooted.ordered.lt_next hget)

/-- An errand and an immediate run that look the same resemble each other. -/
theorem resembles (hsame : Immediate.Same files (errand.caughtUp routine id) base) :
    errand.session.Resembles base.session where
  registry := registry_eq hsame
  exposed := by
    intro handle slot hslot
    have hregistry : (errand.caughtUp routine id).session.registry = errand.session.registry :=
      Immediate.registry_executeAll _ _
    have halike : Alike errand.session.heap (errand.caughtUp routine id).session.heap :=
      Immediate.alike_executeAll (errand.asIs id) _
    obtain ⟨middle, hmiddle⟩ := hsame.exposed (hregistry ▸ hslot)
    obtain ⟨object, hobject, houtline⟩ := halike.symm.get?_eq_some hmiddle
    obtain ⟨other, hother, hface⟩ := hsame.shows _ _ hmiddle
    refine ⟨object, other, hobject, hother, ?_⟩
    show object.face.outline = other.face.outline
    rw [Object.outline_face, houtline, ← Object.outline_face, hface]

/-- A queue is left in the same way where the same is referred to. -/
theorem leave_same {first second : Session} (hregistry : first.registry = second.registry)
    (hwaiting : first.waiting = second.waiting) (target : ObjectId) (outcome : Outcome) :
    (first.leave target outcome).2 = (second.leave target outcome).2 := by
  have hnames : first.refersTo target = second.refersTo target := by
    unfold Session.refersTo
    rw [hregistry, hwaiting]
  unfold Session.leave
  rw [hnames]
  split <;> rfl

/-- A handle is released on both sides in the same way. -/
theorem release_same (hsame : Immediate.Same files (errand.caughtUp routine id) base)
    (hwaiting : errand.session.waiting = base.session.waiting) (handle : Handle) :
    Immediate.Same files
        ({ errand with session := (errand.session.release handle).1 }.caughtUp routine id)
        { base with session := (base.session.release handle).1 } ∧
      (errand.session.release handle).2 = (base.session.release handle).2 := by
  have hresembles := resembles hsame
  cases hrelease : base.session.registry.release handle with
  | error failure =>
    unfold Session.release
    rw [hresembles.registry, hrelease]
    exact ⟨hsame, rfl⟩
  | ok result =>
    obtain ⟨registry, last⟩ := result
    have hexposed : ∀ {other slot}, registry.get? other = some slot →
        ∃ object, (errand.caughtUp routine id).session.heap.get? slot.object = some object := by
      intro other slot hslot
      obtain ⟨before, hbefore, hobject⟩ := Registry.get?_of_release hrelease hslot
      rw [← hobject]
      exact hsame.exposed (hsame.registry ▸ hbefore)
    have hhandles (first second : Ambient) := handles_same
      { errand.session with registry, ambient := first }
      { base.session with registry, ambient := second } hsame rfl hexposed rfl rfl rfl rfl
    cases last with
    | none =>
      unfold Session.release
      rw [hresembles.registry, hrelease]
      exact ⟨hhandles _ _, rfl⟩
    | some slot =>
      obtain ⟨first, hfirst⟩ :=
        Session.release_of_last (hresembles.registry.symm ▸ hrelease)
      obtain ⟨second, hsecond⟩ := Session.release_of_last hrelease
      simp only at hfirst hsecond
      rw [hfirst, hsecond]
      obtain ⟨-, hlast⟩ | ⟨gone, hgone, -, hlast⟩ := Registry.release_eq_ok hrelease
      · exact absurd hlast (by simp)
      · obtain rfl := Option.some.inj hlast
        rw [hresembles.isSome_hostQueue? (hresembles.registry.symm ▸ hgone)]
        split
        · rw [(Session.leave_eq _ _ _).1, (Session.leave_eq _ _ _).1]
          refine ⟨hhandles _ _, leave_same ?_ ?_ _ _⟩
          · rfl
          · exact hwaiting
        · exact ⟨hhandles _ _, rfl⟩

/-- What a client of a queue commits to makes no difference to what the jobs before it come to. -/
theorem commit_same (hsound : errand.session.Sound flight)
    (hsame : Immediate.Same errand.session.heap.files (errand.caughtUp routine id) base)
    (hwaiting : errand.session.waiting = base.session.waiting)
    (hdecision : Command.Concerns errand.session id decision) :
    Immediate.Same (errand.session.commit decision).1.heap.files
        ({ errand with session := (errand.session.commit decision).1 }.caughtUp routine id)
        { base with session := (base.session.commit decision).1 } ∧
      (errand.session.commit decision).2 = (base.session.commit decision).2 ∧
      (∀ stage, (errand.session.commit decision).2 = .waits stage →
        Awaits (errand.session.commit decision).1.registry id stage) ∧
      (errand.session.commit decision).1.host = errand.session.host := by
  cases hdecision with
  | answer reply =>
    refine ⟨hsame, rfl, ?_, rfl⟩
    intro stage hstage
    exact absurd hstage (by simp [Session.commit, Decision.answer, Progressed.reply])
  | submit job hnames =>
    refine ⟨hsame, rfl, ?_, rfl⟩
    intro stage hstage
    obtain rfl := Progressed.waits.inj hstage
    exact ⟨rfl, hnames⟩
  | drain hnames =>
    refine ⟨hsame, rfl, ?_, rfl⟩
    intro stage hstage
    obtain rfl := Progressed.waits.inj hstage
    exact ⟨rfl, hnames⟩
  | launch job hnames =>
    obtain ⟨hplace, hfuture⟩ := place_same hsound hsame
    refine ⟨hplace, ?_, ?_, rfl⟩
    · exact congrArg (fun future ↦
        Progressed.waits (.room id { job with future := some future })) hfuture
    · intro stage hstage
      obtain rfl := Progressed.waits.inj hstage
      exact ⟨rfl, hnames⟩
  | release handle =>
    obtain ⟨hrelease, hprogressed⟩ := release_same hsame hwaiting handle
    obtain ⟨hheap, hhost, hstages⟩ := errand.session.release_keeps handle
    have hfiles : (errand.session.release handle).1.heap.files = errand.session.heap.files := by
      rw [hheap]
    refine ⟨hfiles ▸ hrelease, hprogressed, ?_, hhost⟩
    intro stage hstage
    obtain ⟨target, outcome, rfl⟩ := hstages stage hstage
    exact trivial

end Errand

/-! ## Handles keep their meaning -/

namespace Session.Serves

theorem release (hserves : session.Serves queue id) (handle : Handle) :
    (session.release handle).1.Serves queue id := by
  rcases session.release_cases handle with ⟨failure, hrelease⟩ | hrelease |
    ⟨slot, -, events, hrelease⟩
  · rw [hrelease]
    exact hserves
  · rw [hrelease]
    refine { hserves with named := ?_ }
    intro slot hslot
    rw [Table.get?_modify] at hslot
    split at hslot
    · obtain ⟨before, hbefore, rfl⟩ := Option.map_eq_some_iff.1 hslot
      have hobject := hserves.named hbefore
      exact hobject
    · exact hserves.named hslot
  · have hgone : ({ session.note events with
        registry := session.registry.erase handle } : Session).Serves queue id := by
      refine { hserves with named := ?_ }
      intro found hfound
      rw [Table.get?_erase] at hfound
      split at hfound
      · exact absurd hfound (by simp)
      · exact hserves.named hfound
    simp only at hrelease
    rw [hrelease]
    split
    · rw [(leave_eq _ _ _).1]
      exact hgone
    · exact hgone

theorem commit (hserves : session.Serves queue id) {other : Session}
    (hdecision : Command.Concerns other id decision) :
    (session.commit decision).1.Serves queue id := by
  cases hdecision with
  | answer reply => exact hserves
  | submit job hnames => exact hserves
  | drain hnames => exact hserves
  | launch job hnames =>
    refine { hserves with host := ?_, made := Nat.lt_succ_of_lt hserves.made }
    show ∃ ordered, hostQueue? (session.heap.insert _).1 id = some ordered
    rw [hostQueue?_insert, if_neg (Nat.ne_of_lt hserves.made)]
    exact hserves.host
  | release handle => exact hserves.release handle

theorem deliver (hserves : session.Serves queue id) (job : Job) :
    (session.deliver job).1.Serves queue id := by
  unfold Session.deliver
  split
  · exact hserves
  · refine { hserves with named := ?_, given := Nat.lt_succ_of_lt hserves.given }
    intro slot hslot
    change (Table.insert session.registry _).1.get? queue = some slot at hslot
    rw [Table.get?_insert, if_neg (Nat.ne_of_lt hserves.given)] at hslot
    exact hserves.named hslot

end Session.Serves

namespace Immediate

variable {state : Immediate}

theorem serves_execute (hserves : state.session.Serves queue id) (job : Job) :
    (state.execute routine job).session.Serves queue id := by
  have hconclude (host : HostState) (failure : Option Failure) :
      (state.conclude job host failure).session.Serves queue id := by
    refine { hserves with host := ?_, made := ?_ }
    · show ∃ ordered, (Session.settled state.session.heap job failure).hostQueue? id = some ordered
      rw [Session.hostQueue?_settled]
      exact hserves.host
    · rw [← (alike_conclude state job host failure).next]
      exact hserves.made
  unfold execute
  split
  · exact hconclude _ _
  · exact hconclude _ _
  · exact hserves

theorem serves_follow (hserves : state.session.Serves queue id) (progressed : Progressed) :
    (state.follow routine id progressed).1.session.Serves queue id := by
  cases progressed with
  | ended outcome => exact hserves
  | waits stage =>
    cases stage with
    | room target job => exact (serves_execute hserves job).deliver job
    | drained target => exact hserves
    | discarded target outcome =>
      show (if target = id then { state with failure := none } else state).session.Serves queue id
      split <;> exact hserves

end Immediate

end Offload
