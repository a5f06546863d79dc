import Offload.Proofs.Queue.Coverage
import Offload.Proofs.Session.Remarks
import Mathlib.Data.List.Perm.Basic

/-!
# Failing calls change nothing

A boundary call on the runtime's own objects that fails leaves the session as it was: every handle,
every object with its ranges, peers, jobs and states, and all memory. Only the settings may have
become resolved, and what the error handler does comes on top. The one exception is a sync that
takes the failure its queue has recorded. A call that has to wait has passed its checks, so it
fails in the end only if it is such a sync.
-/

namespace Offload

open Heap

/-! ## Collections without anything to collect -/

namespace Heap

variable {heap : Heap} {roots : List ObjectId}

/-- Where every object is reachable all of them survive. -/
theorem survivors_eq_self (hlayered : heap.Layered)
    (hreach : ∀ id object, heap.get? id = some object → Reach heap roots id) :
    survivors roots heap.entries = heap.entries := by
  have hnodup : heap.entries.Nodup := .of_map _ hlayered.ordered.nodup_numbers
  have hsubset : heap.entries ⊆ survivors roots heap.entries := by
    rintro ⟨id, object⟩ hentry
    have hget := hlayered.ordered.mem_entries_iff.1 hentry
    exact (mem_survivors_iff hlayered).2 ⟨hget, hreach id object hget⟩
  exact (survivors_sublist roots heap.entries).eq_of_length_le
    (List.subperm_of_subset hnodup hsubset).length_le

/-- Views that are kept give no range up. -/
theorem forgetRanges_eq_self (kept : Heap) (objects : List (ObjectId × Object))
    (hkept : ∀ entry ∈ objects, kept.contains entry.1 = true) :
    forgetRanges kept objects = kept := by
  unfold forgetRanges
  generalize kept.contains = isKept at hkept ⊢
  induction objects with
  | nil => rfl
  | cons entry rest ih =>
    obtain ⟨hfirst, hrest⟩ := List.forall_mem_cons.1 hkept
    rw [List.foldl_cons]
    refine Eq.trans ?_ (ih hrest)
    congr 1
    split
    · split
      · rw [if_pos hfirst]
      · rfl
    · rfl

theorem collect_eq_self (hlayered : heap.Layered)
    (hreach : ∀ id object, heap.get? id = some object → Reach heap roots id) :
    heap.collect roots = heap := by
  unfold collect
  rw [survivors_eq_self hlayered hreach]
  apply forgetRanges_eq_self
  intro entry hentry
  rw [Table.contains_eq_isSome, hlayered.ordered.mem_entries_iff.1 hentry]
  rfl

end Heap

namespace Session

variable {program : Program} {platform : Platform} {session before after last : Session}
  {call : Call} {interruption : Interruption} {stage : Stage} {progressed : Progressed}
  {id : ObjectId} {outcome : Outcome}

/-- A kept session has nothing to collect. -/
theorem Kept.collect_eq_self (hkept : session.Kept []) : session.collect = session := by
  have hheap : session.heap.collect session.roots = session.heap := by
    apply Heap.collect_eq_self hkept.rooted.sound.layered
    intro id object hget
    rw [roots_eq_anchors]
    exact hkept.tidy hget
  have hstatics : session.host.keepStatics session.heap.files = session.host := by
    unfold HostState.keepStatics
    have hall : session.host.statics.filter (session.heap.files.contains ·.1) =
        session.host.statics :=
      List.filter_eq_self.2 fun entry hentry ↦ List.contains_iff_mem.2 (hkept.loaded entry hentry)
    rw [hall]
  unfold collect
  simp only [hheap, hstatics]

/-! ## The outcomes of clients that wait -/

/-- The outcomes a waiting client can still have: a job that is accepted is no failure, a drain
takes what its queue has recorded, and a client that gives a queue up has its outcome already. -/
def Allows (session : Session) : Stage → Outcome → Prop
  | .room _ _, outcome => ∃ reply, outcome = .ok reply
  | .drained id, outcome => ∃ queue, session.heap.hostQueue? id = some queue ∧
      outcome = drainOutcome queue.progress.failure
  | .discarded _ decided, outcome => outcome = decided

theorem verdict_advance (hadvance : session.advance? stage = some (after, progressed)) :
    ∃ outcome, session.Allows stage outcome ∧ progressed.verdict = some outcome := by
  cases stage with
  | room id job =>
    obtain ⟨queue, -, -, hresult⟩ := advance?_room hadvance
    obtain rfl : progressed = (leave _ _ _).2 := congrArg Prod.snd hresult
    refine ⟨_, ?_, (leave_eq _ _ _).2⟩
    unfold deliver
    split
    · exact ⟨_, rfl⟩
    · exact ⟨_, rfl⟩
  | drained id =>
    obtain ⟨queue, hqueue, -, hresult⟩ := advance?_drained hadvance
    obtain rfl : progressed = (leave _ _ _).2 := congrArg Prod.snd hresult
    exact ⟨_, ⟨queue, hqueue, rfl⟩, (leave_eq _ _ _).2⟩
  | discarded id outcome =>
    obtain ⟨queue, -, -, -, rfl⟩ := advance?_discarded hadvance
    exact ⟨outcome, rfl, rfl⟩

/-- An operation that waits on is decided. -/
theorem eq_discarded_of_verdict (hverdict : (Progressed.waits stage).verdict = some outcome) :
    ∃ id, stage = .discarded id outcome := by
  cases stage with
  | discarded id decided =>
    obtain rfl := Option.some.inj hverdict
    exact ⟨id, rfl⟩
  | room | drained => exact absurd hverdict (by simp [Progressed.verdict])

/-- The settings and the journal do not matter for what a session keeps. -/
theorem Kept.ambient (hkept : session.Kept []) (ambient : Ambient) :
    Kept { session with ambient } [] :=
  ⟨⟨hkept.rooted, hkept.tracked, hkept.loaded⟩, hkept.tidy⟩

/-- A client that waits afterwards has waited before under the same claim, or has a ticket that was
given out meanwhile. -/
def NoOthers (before after : Session) : Prop :=
  ∀ client ∈ after.waiting,
    claim client ∈ before.waiting.map claim ∨ before.nextTicket ≤ client.ticket

theorem NoOthers.trans (hfirst : NoOthers before after) (hsecond : NoOthers after last)
    (hlater : before.nextTicket ≤ after.nextTicket) : NoOthers before last := by
  intro client hclient
  rcases hsecond client hclient with hclaim | hnew
  · obtain ⟨other, hother, hsame⟩ := List.mem_map.1 hclaim
    have hticket : other.ticket = client.ticket := congrArg Prod.fst hsame
    rw [← hsame, ← hticket]
    exact hfirst other hother
  · exact .inr (Nat.le_trans hlater hnew)

theorem forall₂_of_mapM_eq_ok {α β : Type} {read : α → Except Failure β} {values : List α}
    {found : List β} (hfound : values.mapM read = .ok found) :
    List.Forall₂ (fun value result ↦ read value = .ok result) values found := by
  induction values generalizing found with
  | nil =>
    obtain rfl : [] = found := by simpa [pure, Except.pure] using hfound
    exact .nil
  | cons value rest ih =>
    rw [List.mapM_cons] at hfound
    cases hvalue : read value with
    | error failure => simp [hvalue, bind, Except.bind] at hfound
    | ok first =>
      cases hrest : rest.mapM read with
      | error failure => simp [hvalue, hrest, bind, Except.bind] at hfound
      | ok others =>
        obtain rfl : first :: others = found := by
          simpa [hvalue, hrest, bind, Except.bind, pure, Except.pure] using hfound
        exact .cons hvalue (ih hrest)

theorem exists_of_forall₂ {α β : Type} {relation : α → β → Prop} {values : List α} {found : List β}
    (hfound : List.Forall₂ relation values found) :
    ∀ value ∈ values, ∃ result ∈ found, relation value result := by
  induction hfound with
  | nil => exact fun _ hvalue ↦ absurd hvalue List.not_mem_nil
  | cons hfirst _ ih =>
    intro other hother
    rcases List.mem_cons.1 hother with rfl | hother
    · exact ⟨_, List.mem_cons_self, hfirst⟩
    · obtain ⟨result, hmem, hresult⟩ := ih other hother
      exact ⟨result, List.mem_cons_of_mem _ hmem, hresult⟩

theorem ok_of_mapM_eq_ok {α β : Type} {read : α → Except Failure β} {values : List α}
    {found : List β} (hfound : values.mapM read = .ok found) :
    ∀ value ∈ values, ∃ result ∈ found, read value = .ok result :=
  exists_of_forall₂ (forall₂_of_mapM_eq_ok hfound)

/-- What leads from one moment of a run to a later one: a step, or a part of one that an error handler
begins after or does between its calls. -/
inductive Passage (program : Program) : Session → Session → Prop where
  | step {before after : Session} (hstep : Step program before after) : Passage program before after
  | ticket (session : Session) : Passage program session session.takeTicket.1
  | interrupted {session after : Session} {call : Call} {interruption : Interruption}
    (henter : call.enter program.toPlatform session = (after, .ended (.error interruption))) :
    Passage program session after
  | resumed {session after : Session} {client : Waiting} {interruption : Interruption}
    (hclient : client ∈ session.waiting)
    (hpursue : (session.withoutClient client.ticket).pursue (.waits client.stage) =
      (after, .ended (.error interruption))) : Passage program session after
  | deed (session : Session) (ambient : Ambient) (handler : Option Handler) (exit : Option Exit) :
    Passage program session { session with ambient, handler, exit }
  | awaited (session : Session) (call : Call) :
    Passage program session ((call.enter program.toPlatform session).1.await program.toPlatform
      (call.enter program.toPlatform session).2).1
  /-- A client whose handler is done gets its answer. -/
  | answered {session : Session} {ticket : Ticket} (hticket : ticket < session.nextTicket)
    (answer : Answer) :
    Passage program session { session with answers := session.answers ++ [(ticket, answer)] }

theorem Passage.settled (hpassage : Passage program before after) (hsettled : before.Settled) :
    after.Settled := by
  cases hpassage with
  | step hstep => exact hstep.settled hsettled
  | ticket =>
    obtain ⟨hkept, hticketed, -⟩ := kept_takeTicket hsettled.kept hsettled.ticketed
    exact ⟨hkept, hticketed⟩
  | @interrupted _ call interruption henter =>
    have hdecide : (call.decide program.toPlatform before).Ensures _ := Call.ensures_decide call
    obtain ⟨hkept, hticketed, -⟩ := hsettled.enter hdecide
    have hperform : before.perform (call.decide program.toPlatform before) = (after, _) := henter
    rw [hperform] at hkept hticketed
    exact ⟨hkept, hticketed⟩
  | resumed hclient hpursue =>
    obtain ⟨hkept, hticketed, -⟩ := hsettled.pursueClient hclient hpursue
    exact ⟨hkept, hticketed⟩
  | deed ambient handler exit => exact (Continues.remark hsettled ambient handler exit).settled
  | awaited call => exact (continues_call program hsettled call).settled
  | answered hticket answer => exact settled_answer hsettled hticket answer

/-- The sessions in which a call can be made: those that come about, those in which the operation of
a client has just been interrupted, so that the error handler begins, and those between the deeds of
a handler. -/
inductive Visited (program : Program) : Session → Prop where
  | reachable {session : Session} (hreachable : Reachable program session) :
    Visited program session
  | ticket {session : Session} (hvisited : Visited program session) :
    Visited program session.takeTicket.1
  | interrupted {session after : Session} {call : Call} {interruption : Interruption}
    (hvisited : Visited program session)
    (henter : call.enter program.toPlatform session = (after, .ended (.error interruption))) :
    Visited program after
  | resumed {session after : Session} {client : Waiting} {interruption : Interruption}
    (hvisited : Visited program session) (hclient : client ∈ session.waiting)
    (hpursue : (session.withoutClient client.ticket).pursue (.waits client.stage) =
      (after, .ended (.error interruption))) : Visited program after
  | deed {session : Session} (hvisited : Visited program session) (ambient : Ambient)
    (handler : Option Handler) (exit : Option Exit) :
    Visited program { session with ambient, handler, exit }
  | awaited {session : Session} (hvisited : Visited program session) (call : Call) :
    Visited program ((call.enter program.toPlatform session).1.await program.toPlatform
      (call.enter program.toPlatform session).2).1

/-- What is true of sessions that come about, and is kept by every passage, is true wherever a call is
made. -/
theorem Visited.induct {motive : Session → Prop} (hvisited : Visited program session)
    (hreachable : ∀ {session}, Reachable program session → motive session)
    (hpassage : ∀ {before after}, before.Settled → Passage program before after → motive before →
      motive after) : session.Settled ∧ motive session := by
  have hpass {before after : Session} (hnext : Passage program before after)
      (hbefore : before.Settled ∧ motive before) : after.Settled ∧ motive after :=
    ⟨hnext.settled hbefore.1, hpassage hbefore.1 hnext hbefore.2⟩
  induction hvisited with
  | reachable hcomes => exact ⟨hcomes.settled, hreachable hcomes⟩
  | ticket _ ih => exact hpass (.ticket _) ih
  | interrupted _ henter ih => exact hpass (.interrupted henter) ih
  | resumed _ hclient hpursue ih => exact hpass (.resumed hclient hpursue) ih
  | deed _ ambient handler exit ih => exact hpass (.deed _ ambient handler exit) ih
  | awaited _ call ih => exact hpass (.awaited _ call) ih

theorem Visited.settled (hvisited : Visited program session) : session.Settled :=
  (hvisited.induct (motive := fun _ ↦ True) (fun _ ↦ trivial) fun _ _ _ ↦ trivial).1

/-- An error handler goes through such sessions only. -/
theorem handles_visited (program : Program) :
    Handles program fun before after ↦
      after.Settled ∧ (Visited program before → Visited program after) where
  settled := fun hrelated ↦ hrelated.1
  refl := fun hsettled ↦ ⟨hsettled, id⟩
  trans := fun hfirst hsecond ↦ ⟨hsecond.1, hsecond.2 ∘ hfirst.2⟩
  remark := fun hsettled ambient handler exit ↦
    ⟨(Continues.remark hsettled ambient handler exit).settled,
      fun hvisited ↦ hvisited.deed ambient handler exit⟩
  call := fun hsettled call ↦
    ⟨(continues_call program hsettled call).settled, fun hvisited ↦ hvisited.awaited call⟩

end Session

end Offload
