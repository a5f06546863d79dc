import Offload.Proofs.Queue.Phases
import Offload.Proofs.Queue.Waking

/-!
# Queues do not interfere

Two clients use two queues, and the jobs of the two keep to territories that are apart. Then each of
them sees, whatever the other does and whoever's turn it is, what its own account says. So the order
of turns makes no difference: what has come about in the end is what comes about when one side has
all its turns first and the other one has its turns afterwards.
-/

namespace Offload

open Session

/-! ## Territories together -/

/-- Two territories as one. -/
def Territory.join (left right : Territory) : Territory where
  holds := fun address ↦ left.holds address ∨ right.holds address
  files := left.files ++ right.files
  gateOpen := left.gateOpen

theorem Territory.Spares.mono {territory more : Territory} {before after : HostState}
    (hspares : territory.Spares before after)
    (hholds : ∀ address, territory.holds address → more.holds address)
    (hfiles : territory.files ⊆ more.files) : more.Spares before after :=
  ⟨fun address hfree ↦ hspares.memory address fun hheld ↦ hfree (hholds address hheld),
    fun file hfree ↦ hspares.statics file fun hfile ↦ hfree (hfiles hfile), hspares.gate⟩

namespace Duet

variable {program : Program} {start : Session} {party : Side → Party} {side : Side}
  {sides : List Side} {duet next first middle last : Duet} {own others : List ObjectId}

/-! ## Parties that are independent -/

/-- Two parties on different queues whose territories are apart, before any of their commands: the
queues have no jobs, and nobody waits for them. -/
structure Independent (program : Program) (start : Session) (party : Side → Party) : Prop where
  reachable : start.Reachable program
  idle : ∀ side, ∀ client ∈ start.waiting, client.stage.queue ≠ (party side).id
  jobs : ∀ side, start.heap.jobsOf (party side).id = []
  fits : ∀ side, (party side).Fits program.toPlatform start
  different : (party .left).id ≠ (party .right).id
  apart : (party .left).territory.Apart (party .right).territory

/-- The queues of two parties. -/
def queues (party : Side → Party) : List ObjectId := [(party .left).id, (party .right).id]

theorem id_mem_queues (party : Side → Party) (side : Side) : (party side).id ∈ queues party := by
  cases side with
  | left => exact List.mem_cons_self
  | right => exact List.mem_cons_of_mem _ List.mem_cons_self

/-- What holds for the queue of either side holds for the queues of both. -/
theorem forall_queues {goal : ObjectId → Prop} (hsides : ∀ side, goal (party side).id) :
    ∀ id ∈ queues party, goal id := by
  intro id hid
  rcases List.mem_cons.1 hid with rfl | hid
  · exact hsides .left
  · exact List.mem_singleton.1 hid ▸ hsides .right

namespace Independent

theorem ids (hindependent : Independent program start party) (side : Side) :
    (party side.other).id ≠ (party side).id := by
  cases side with
  | left => exact hindependent.different.symm
  | right => exact hindependent.different

theorem territories (hindependent : Independent program start party) (side : Side) :
    (party side).territory.Apart (party side.other).territory := by
  cases side with
  | left => exact hindependent.apart
  | right => exact hindependent.apart.symm

end Independent

/-! ## What turns keep -/

/-- The two sides of a duet are in their phases, with futures of their own. -/
def Paired (program : Program) (start : Session) (party : Side → Party) (side : Side)
    (duet : Duet) : Prop :=
  ∃ own others,
    (party side).Phase program.toPlatform start duet.session (duet.stand side) own ∧
      (party side.other).Phase program.toPlatform start duet.session (duet.stand side.other)
        others ∧
      (own ++ others).Nodup

theorem Paired.all (hpaired : Paired program start party side duet) (each : Side) :
    Paired program start party each duet := by
  have hother (hpaired : Paired program start party side duet) :
      Paired program start party side.other duet := by
    obtain ⟨own, others, hown, hothers, hdistinct⟩ := hpaired
    refine ⟨others, own, hothers, ?_, List.nodup_append_comm.1 hdistinct⟩
    rw [Side.other_other]
    exact hown
  by_cases heach : each = side
  · exact heach ▸ hpaired
  · have hsame : each = side.other := by
      cases each <;> cases side <;> first | rfl | exact absurd rfl heach
    exact hsame ▸ hother hpaired

/-- A duet that has come about from independent parties. -/
structure Fares (program : Program) (start : Session) (party : Side → Party) (duet : Duet) :
    Prop where
  reachable : duet.session.Reachable program
  midway : start.Midway (queues party) duet.session
  spared : ((party .left).territory.join (party .right).territory).Spares start.host
    duet.session.host
  paired : ∀ side, Paired program start party side duet

theorem fares_start (hindependent : Independent program start party) :
    Fares program start party { session := start } where
  reachable := hindependent.reachable
  midway := by
    have hsettled := hindependent.reachable.settled
    refine ⟨hsettled, .start (fun client hclient hqueue ↦ ?_) (forall_queues hindependent.jobs),
      .refl hsettled.kept.rooted.numbered, Nat.le_refl _, .now hsettled.ticketed, rfl⟩
    exact forall_queues (hindependent.idle · client hclient) _ hqueue rfl
  spared := .refl _ _
  paired := by
    have hphase (side : Side) : (party side).Phase program.toPlatform start start {} [] := by
      have hfits := hindependent.fits side
      obtain ⟨ordered, hqueue⟩ := hfits.queue
      exact .idle rfl (.opened hqueue (hindependent.jobs side) hfits.gate)
    exact fun side ↦ ⟨[], [], hphase side, hphase side.other, List.nodup_nil⟩

/-- A turn takes its own side on, and tends to its queue alone. -/
theorem Turn.tends (hindependent : Independent program start party)
    (hmidway : start.Midway (queues party) duet.session)
    (hphase : (party side).Phase program.toPlatform start duet.session (duet.stand side) own)
    (hdistinct : own.Nodup) (hturn : Turn program party side duet next) :
    ∃ more,
      (party side).Phase program.toPlatform start next.session (next.stand side) (own ++ more) ∧
        (more = [] ∨ more = [duet.session.heap.next]) ∧
        Tends (party side).territory (party side).id own duet.session next.session ∧
        next.session.Nameable (queues party) [] ∧ next.session.Unanswered start.nextTicket ∧
        next.stand side.other = duet.stand side.other := by
  have hfits := hindependent.fits side
  have hamong := id_mem_queues party side
  have hstart := hindependent.reachable.settled
  have hown : own ++ [] = own := List.append_nil own
  cases hturn with
  | start hidle hnext =>
    obtain ⟨more, hstarted, hmore, htends, hnameable⟩ :=
      hphase.startRequest hfits hstart hmidway hamong hidle hnext
    refine ⟨more, ?_, hmore, htends, hnameable,
      hmidway.unanswered.start hmidway.settled program _, stand_come_other _ _ _ _⟩
    rw [stand_come]
    exact hstarted
  | work hwork =>
    obtain ⟨hworked, htends, hnameable⟩ :=
      hphase.work hfits hstart.kept.rooted.ordered hmidway hamong hdistinct hwork
    exact ⟨[], hown.symm ▸ hworked, .inl rfl, htends, hnameable,
      hmidway.unanswered.frame (frame_work hwork), rfl⟩
  | resume hflight hclient hresume =>
    obtain ⟨hresumed, htends, hnameable, hmanner, hgiven, -⟩ :=
      hphase.resume hfits hstart hmidway hamong hflight hclient hresume
    exact ⟨[], hown.symm ▸ hresumed, .inl rfl, htends, hnameable,
      hmidway.unanswered.resume hmidway.settled hclient hgiven hmanner hresume, rfl⟩
  | see hflight hanswer =>
    refine ⟨[], ?_, .inl rfl, .refl hmidway.settled.kept.rooted.numbered, hmidway.nameable,
      hmidway.unanswered, stand_come_other _ _ _ _⟩
    rw [stand_come, hown]
    exact hphase.see hmidway.unanswered hflight hanswer

/-- One side has the same to show: its stand, its queue, its futures and its territory. -/
structure Untouched (party : Side → Party) (side : Side) (before after : Duet) : Prop where
  stand : after.stand side = before.stand side
  queue : after.session.heap.hostQueue? (party side).id =
    before.session.heap.hostQueue? (party side).id
  futures : after.futures side = before.futures side
  host : (party side).territory.Agree after.session.host before.session.host

theorem Untouched.trans (hfirst : Untouched party side first middle)
    (hsecond : Untouched party side middle last) : Untouched party side first last :=
  ⟨hsecond.stand.trans hfirst.stand, hsecond.queue.trans hfirst.queue,
    hsecond.futures.trans hfirst.futures, hsecond.host.trans hfirst.host⟩

/-- What is left alone shows the same futures. -/
theorem futures_eq (hmidway : start.Midway (queues party) duet.session)
    (hphase : (party side).Phase program.toPlatform start duet.session (duet.stand side) own)
    (hgrows : duet.session.Grows next.session) (hstand : next.stand side = duet.stand side)
    (hfutures : ∀ future ∈ own, ∀ state, duet.session.heap.future? future = some state →
      next.session.heap.future? future = some state) : next.futures side = duet.futures side := by
  unfold futures
  rw [hstand]
  refine List.map_congr_left fun handle hhandle ↦ ?_
  obtain ⟨future, hmem, hnamed⟩ := hphase.handle hhandle
  obtain ⟨state, hstate⟩ := hphase.cell hmem
  have hlater : next.session.IsHandleOf handle future :=
    ⟨hnamed.1, hgrows.get? hmidway.settled.kept.rooted.numbered hnamed.2⟩
  rw [hnamed.futureState?_eq hstate, hlater.futureState?_eq (hfutures future hmem _ hstate)]

namespace Fares

variable (hindependent : Independent program start party)

include hindependent

/-- A turn of one side leaves the other one untouched. -/
theorem turn (hfares : Fares program start party duet) (hturn : Turn program party side duet next) :
    Fares program start party next ∧ Untouched party side.other duet next := by
  obtain ⟨own, others, hown, hothers, hdistinct⟩ := hfares.paired side
  have hmidway := hfares.midway
  have hsplit := List.nodup_append.1 hdistinct
  obtain ⟨more, hphase, hmore, htends, hnameable, hunanswered, hstand⟩ :=
    hturn.tends hindependent hmidway hown hsplit.1
  have hreachable : next.session.Reachable program := by
    rcases hturn.session_cases with hsame | hstep
    · exact hsame ▸ hfares.reachable
    · exact .step hfares.reachable hstep
  have hdisjoint : ∀ future ∈ others, future ∉ own :=
    fun future hother hmem ↦ hsplit.2.2 future hmem future hother rfl
  have hnew : ∀ future ∈ own ++ others, future < duet.session.heap.next := by
    intro future hmem
    obtain ⟨state, hstate⟩ := (List.mem_append.1 hmem).elim hown.cell hothers.cell
    exact hmidway.settled.kept.rooted.ordered.lt_next (Heap.future?_eq_some.1 hstate)
  -- The number of a new future is past all that there are.
  have hall : (own ++ more ++ others).Nodup := by
    rcases hmore with rfl | rfl
    · rwa [List.append_nil]
    · rw [List.append_assoc, List.singleton_append]
      refine List.nodup_middle.2 (List.nodup_cons.2 ⟨fun hmem ↦ ?_, hdistinct⟩)
      exact Nat.lt_irrefl _ (hnew _ hmem)
  have hleft := hothers.leave (hindependent.fits side.other) hmidway htends (hindependent.ids side)
    (hindependent.territories side) hdisjoint
  have hlater : start.Midway (queues party) next.session :=
    ⟨hreachable.settled, hnameable, hmidway.grows.trans htends.grows,
      Nat.le_trans hmidway.tickets htends.tickets, hunanswered,
      htends.host.gate.trans hmidway.gate⟩
  have hfutures : next.futures side.other = duet.futures side.other :=
    futures_eq hmidway hothers htends.grows hstand fun future hmem ↦
      htends.futures future (hdisjoint future hmem)
  refine ⟨⟨hreachable, hlater, ?spared, ?paired⟩, hstand,
    htends.queues _ (hindependent.ids side), hfutures,
    htends.host.agree (hindependent.territories side)⟩
  case spared =>
    refine hfares.spared.trans (htends.host.mono (fun address hheld ↦ ?_) ?_)
    · cases side with
      | left => exact .inl hheld
      | right => exact .inr hheld
    · cases side with
      | left => exact List.subset_append_left _ _
      | right => exact List.subset_append_right _ _
  case paired =>
    have hpaired : Paired program start party side next :=
      ⟨own ++ more, others, hphase, hstand.symm ▸ hleft, hall⟩
    exact hpaired.all

theorem turns (hfares : Fares program start party first)
    (hturns : Turns program party sides first last) : Fares program start party last := by
  induction hturns with
  | refl => exact hfares
  | turn _ hturn ih => exact (Fares.turn hindependent (ih hfares) hturn).1

/-- Turns of one side leave the other one untouched. -/
theorem untouched (hfares : Fares program start party first)
    (hturns : Turns program party sides first last) (hsides : ∀ each ∈ sides, each = side) :
    Untouched party side.other first last := by
  induction hturns with
  | refl => exact ⟨rfl, rfl, rfl, .refl _ _⟩
  | turn hbefore hturn ih =>
    have hmiddle := Fares.turns hindependent hfares hbefore
    obtain rfl := hsides _ (List.mem_append_right _ List.mem_cons_self)
    exact (ih hfares fun each hmem ↦ hsides each (List.mem_append_left _ hmem)).trans
      (Fares.turn hindependent hmiddle hturn).2

end Fares

end Duet

end Offload
