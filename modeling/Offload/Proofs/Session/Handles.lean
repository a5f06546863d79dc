import Offload.Proofs.Session.Failing
import Offload.Proofs.Session.Objects

/-!
# Handles through a history

Handles are given out in ascending order, and a number that has been given out is never given out
again. So a handle that has lost its last reference names nothing in any later session, whatever is
exported meanwhile. Every session in which a call is made has a history that starts with the process.
-/

namespace Offload

namespace Registry

variable {registry : Registry ObjectId} {handle : Handle}

/-- A handle has been given out and has lost its last reference since. -/
structure Released (registry : Registry ObjectId) (handle : Handle) : Prop where
  given : handle < registry.next
  gone : registry.get? handle = none

/-- One registry follows on another: numbers only grow, and a handle is new or was there before. -/
structure Follows (before after : Registry ObjectId) : Prop where
  next_le : before.next ≤ after.next
  origin : ∀ {handle slot}, after.get? handle = some slot →
    (∃ old, before.get? handle = some old) ∨ before.next ≤ handle

namespace Follows

variable {before after last : Registry ObjectId}

theorem refl (registry : Registry ObjectId) : Follows registry registry :=
  ⟨Nat.le_refl _, fun hslot ↦ .inl ⟨_, hslot⟩⟩

theorem trans (hfirst : Follows before after) (hsecond : Follows after last) :
    Follows before last := by
  refine ⟨Nat.le_trans hfirst.next_le hsecond.next_le, fun hslot ↦ ?_⟩
  rcases hsecond.origin hslot with ⟨old, hold⟩ | hnew
  · exact hfirst.origin hold
  · exact .inr (Nat.le_trans hfirst.next_le hnew)

theorem register (registry : Registry ObjectId) (kind : Kind) (object : ObjectId) :
    Follows registry (registry.register kind object).1 := by
  refine ⟨Nat.le_succ _, fun hslot ↦ ?_⟩
  rw [Registry.register, Table.get?_insert] at hslot
  split at hslot
  · next hnew => exact .inr (Nat.le_of_eq hnew.symm)
  · exact .inl ⟨_, hslot⟩

theorem modify (registry : Registry ObjectId) (handle : Handle)
    (change : Slot ObjectId → Slot ObjectId) : Follows registry (registry.modify handle change) := by
  refine ⟨Nat.le_refl _, fun hslot ↦ ?_⟩
  rw [Table.get?_modify] at hslot
  split at hslot
  · obtain ⟨old, hold, -⟩ := Option.map_eq_some_iff.1 hslot
    exact .inl ⟨old, hold⟩
  · exact .inl ⟨_, hslot⟩

theorem erase (registry : Registry ObjectId) (handle : Handle) :
    Follows registry (registry.erase handle) := by
  refine ⟨Nat.le_refl _, fun hslot ↦ ?_⟩
  rw [Table.get?_erase] at hslot
  split at hslot
  · exact absurd hslot (by simp)
  · exact .inl ⟨_, hslot⟩

/-- A handle that has been released stays released. -/
theorem released (hfollows : Follows before after) {handle : Handle}
    (hreleased : before.Released handle) : after.Released handle := by
  refine ⟨Nat.lt_of_lt_of_le hreleased.given hfollows.next_le, ?_⟩
  apply Option.eq_none_iff_forall_ne_some.2
  intro slot hslot
  rcases hfollows.origin hslot with ⟨old, hold⟩ | hnew
  · rw [hreleased.gone] at hold
    exact absurd hold (by simp)
  · exact absurd hreleased.given (Nat.not_lt.2 hnew)

end Follows

end Registry

namespace Session

open Registry

variable {program : Program} {platform : Platform} {session start before after : Session}
  {flight last : List Stage} {log more : List Happening} {allowed : Session → Prop}

/-! ## Registries under changes -/

theorem follows_deliver (session : Session) (job : Job) :
    Follows session.registry (session.deliver job).1.registry := by
  unfold deliver
  split
  · exact .refl _
  · exact .register _ _ _

theorem Change.follows (hchange : Change platform before flight more after last) :
    Follows before.registry after.registry := by
  cases hchange with
  | aside _ hregistry => exact hregistry ▸ .refl _
  | create => exact .register _ _ _
  | @createView view =>
    obtain ⟨heap, allocator, hplaced, -⟩ := placeView_fst before (.host view)
    simp only [hplaced]
    exact .register _ _ _
  | expose => exact .register _ _ _
  | recount handle count =>
    exact .modify before.registry handle fun slot ↦ { slot with count := count slot }
  | @erase handle => exact .erase _ handle
  | @accept id job queue =>
    exact follows_deliver (before.accept id
      { queue.progress with pending := queue.progress.pending + 1 } job) job
  | finish _ _ _ hafter =>
    rw [hafter, finish_eq]
    exact .refl _
  | _ => exact .refl _

theorem Evolves.follows (hevolves : Evolves platform before flight after last) :
    Follows before.registry after.registry := by
  obtain ⟨log, hchanges⟩ := hevolves
  induction hchanges with
  | refl => exact .refl _
  | change _ hchange ih => exact ih.trans hchange.follows

theorem History.follows (hhistory : History platform allowed start log session flight) :
    Follows start.registry session.registry := by
  induction hhistory with
  | refl => exact .refl _
  | change _ hchange ih => exact ih.trans hchange.follows
  | outside _ ambient memory calls gateOpen _ ih => exact ih

/-! ## The history of a call -/

/-- What lies between two moments of a run has a history. -/
theorem Passage.history (hpassage : Passage program before after) (hsettled : before.Settled) :
    ∃ log, History program.toPlatform (fun _ ↦ True) before log after [] := by
  have hevolves (hevolves : Evolves program.toPlatform before [] after []) :
      ∃ log, History program.toPlatform (fun _ ↦ True) before log after [] := by
    obtain ⟨log, hchanges⟩ := hevolves
    exact ⟨[] ++ log, History.refl.changes hchanges⟩
  cases hpassage with
  | step hstep => exact hstep.history hsettled trivial
  | ticket => exact hevolves (evolves_takeTicket _ _)
  | @interrupted _ call interruption henter =>
    have hperform : Evolves program.toPlatform before []
        (before.perform (call.decide program.toPlatform before)).1
        (before.perform (call.decide program.toPlatform before)).2.flight :=
      evolves_perform (Call.ensures_decide call) (Call.drawn_decide hsettled.kept.toSound call)
    have henter : before.perform (call.decide program.toPlatform before) = (after, _) := henter
    rw [henter] at hperform
    exact hevolves hperform
  | resumed hclient hpursue =>
    have hunpark : Evolves program.toPlatform before [] _ _ := evolves_unpark hsettled hclient
    rw [hpursue] at hunpark
    exact hevolves hunpark
  | deed ambient handler exit =>
    -- The host program may leave any settings and journal behind.
    have houtside := (History.refl : History program.toPlatform (fun _ ↦ True) before [] before []).outside
      ambient before.host.memory before.host.calls before.host.gateOpen trivial
    exact ⟨_, houtside.change (.aside rfl rfl rfl rfl rfl (.refl _))⟩
  | awaited call => exact hevolves ((conducts_evolves program).call hsettled call).2
  | answered hticket answer => exact hevolves (evolves_aside rfl rfl rfl rfl rfl (.refl _))

theorem Reachable.history (hreachable : Reachable program session) :
    ∃ start log, start.Fresh ∧ History program.toPlatform (fun _ ↦ True) start log session [] := by
  induction hreachable with
  | @fresh start hfresh => exact ⟨start, [], hfresh, .refl⟩
  | step hbefore hstep ih =>
    obtain ⟨start, log, hfresh, hhistory⟩ := ih
    obtain ⟨more, hmore⟩ := Passage.history (.step hstep) hbefore.settled
    exact ⟨start, log ++ more, hfresh, hhistory.trans hmore⟩

/-- Every session in which a call is made has a history that starts with the process. -/
theorem Visited.history (hvisited : Visited program session) :
    ∃ start log, start.Fresh ∧ History program.toPlatform (fun _ ↦ True) start log session [] := by
  refine (hvisited.induct Reachable.history ?_).2
  rintro before after hsettled hpassage ⟨start, log, hfresh, hhistory⟩
  obtain ⟨more, hmore⟩ := hpassage.history hsettled
  exact ⟨start, log ++ more, hfresh, hhistory.trans hmore⟩

/-- The null handle is never given out. -/
theorem Visited.next_pos (hvisited : Visited program session) : 0 < session.registry.next := by
  obtain ⟨start, log, hfresh, hhistory⟩ := hvisited.history
  have hfirst : start.registry.next = 1 := by
    rw [hfresh.registry]
    rfl
  exact Nat.lt_of_lt_of_le (hfirst ▸ Nat.one_pos) hhistory.follows.next_le

/-- One moment of a run comes after another. -/
inductive Passes (program : Program) (start : Session) : Session → Prop where
  | refl : Passes program start start
  | passage {before after : Session} (hpasses : Passes program start before)
    (hpassage : Passage program before after) : Passes program start after

theorem Passes.settled (hpasses : Passes program start after) (hsettled : start.Settled) :
    after.Settled := by
  induction hpasses with
  | refl => exact hsettled
  | passage _ hpassage ih => exact hpassage.settled ih

theorem Passes.history (hpasses : Passes program start after) (hsettled : start.Settled) :
    ∃ log, History program.toPlatform (fun _ ↦ True) start log after [] := by
  induction hpasses with
  | refl => exact ⟨[], .refl⟩
  | passage hbefore hpassage ih =>
    obtain ⟨log, hhistory⟩ := ih
    obtain ⟨more, hmore⟩ := hpassage.history (hbefore.settled hsettled)
    exact ⟨log ++ more, hhistory.trans hmore⟩

/-- A handle that has been released stays released. -/
theorem Passes.released (hpasses : Passes program start after) (hsettled : start.Settled)
    {handle : Handle} (hreleased : start.registry.Released handle) :
    after.registry.Released handle := by
  obtain ⟨log, hhistory⟩ := hpasses.history hsettled
  exact hhistory.follows.released hreleased

end Session

end Offload
