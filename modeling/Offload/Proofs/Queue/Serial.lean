import Offload.Kernel.Catalog
import Offload.Proofs.Queue.Coverage
import Offload.Proofs.Queue.Independence

/-!
# Turns in any order

Each side of a duet can come to its end by turns of its own, wherever the other one stands. So there
is a run in which one side has all its turns first and the other one has its turns afterwards, and
every other run comes to what this one comes to.
-/

namespace Offload

open Session

/-! ## Verdicts of accounts -/

/-- A client that has been told something has been told it for good. -/
theorem Account.verdicts_run (routine : Entry → Routine) (account : Account)
    (commands : List (Command × Action)) :
    account.verdicts <+: (account.run routine commands).verdicts := by
  induction commands generalizing account with
  | nil => exact List.prefix_refl _
  | cons command rest ih =>
    exact (List.prefix_append _ _).trans (ih (account.perform routine command))

theorem Party.verdicts_account {party : Party} {platform : Platform} {start : Session}
    {count total : Nat} (hle : count ≤ total) :
    (party.account platform start count).verdicts <+:
      (party.account platform start total).verdicts := by
  have hsteps : (party.steps platform start).take count <+:
      (party.steps platform start).take total :=
    List.take_prefix_take_left hle
  obtain ⟨rest, hrest⟩ := hsteps
  unfold account
  rw [← hrest, Account.run_append]
  exact Account.verdicts_run _ _ _

namespace Duet

variable {program : Program} {start : Session} {party : Side → Party} {side : Side}
  {sides : List Side} {duet next first middle last : Duet} {command : Command} {ticket : Ticket}

/-! ## Sides alone -/

/-- One side has all the turns. -/
def Alone (program : Program) (party : Side → Party) (side : Side) (first last : Duet) : Prop :=
  ∃ count, Turns program party (List.replicate count side) first last

namespace Alone

theorem refl (duet : Duet) : Alone program party side duet duet := ⟨0, .refl duet⟩

theorem trans (hfirst : Alone program party side first middle)
    (hsecond : Alone program party side middle last) : Alone program party side first last := by
  obtain ⟨count, hfirst⟩ := hfirst
  obtain ⟨more, hsecond⟩ := hsecond
  exact ⟨count + more, List.replicate_append_replicate ▸ hfirst.trans hsecond⟩

theorem of_turn (hturn : Turn program party side duet next) : Alone program party side duet next :=
  ⟨1, hturn.turns⟩

end Alone

namespace Fares

variable (hindependent : Independent program start party)

include hindependent

theorem alone (hfares : Fares program start party first)
    (halone : Alone program party side first last) :
    Fares program start party last ∧ Untouched party side.other first last := by
  obtain ⟨count, hturns⟩ := halone
  exact ⟨Fares.turns hindependent hfares hturns, Fares.untouched hindependent hfares hturns
    fun each hmem ↦ List.eq_of_mem_replicate hmem⟩

/-- The worker of a queue can run all its jobs. -/
theorem clear (hfares : Fares program start party duet) (side : Side) :
    ∃ next, Alone program party side duet next ∧ next.stand = duet.stand ∧
      next.session.heap.jobsOf (party side).id = [] := by
  -- Each turn takes one job away.
  generalize hlength : (duet.session.heap.jobsOf (party side).id).length = length
  induction length generalizing duet with
  | zero => exact ⟨duet, .refl duet, rfl, List.length_eq_zero_iff.1 hlength⟩
  | succ length ih =>
    have hmidway := hfares.midway
    obtain ⟨own, others, hphase, -⟩ := hfares.paired side
    obtain ⟨seen, claims, more, -, hstanding⟩ := hphase.standing
    have hjobs : duet.session.heap.jobsOf (party side).id ≠ [] := by
      rw [← List.length_pos_iff, hlength]
      exact Nat.succ_pos _
    obtain ⟨after, hwork, htail⟩ := hstanding.owes.works hmidway.settled.kept hmidway.nameable
      (id_mem_queues party side) (hmidway.gate.trans (hindependent.fits side).gate) hjobs
    have hturn : Turn program party side duet { duet with session := after } := .work hwork
    obtain ⟨next, halone, hstand, hempty⟩ :=
      ih (Fares.turn hindependent hfares hturn).1 (by simp [htail, hlength])
    exact ⟨next, (Alone.of_turn hturn).trans halone, hstand, hempty⟩

/-- A command is answered. -/
theorem answer (hfares : Fares program start party duet)
    (hflight : (duet.stand side).inFlight = some (command, ticket)) :
    ∃ next answer, Alone program party side duet next ∧ next.stand = duet.stand ∧
      next.session.answer? ticket = some answer := by
  obtain ⟨middle, halone, hstand, hempty⟩ := Fares.clear hindependent hfares side
  obtain ⟨hmiddle, -⟩ := Fares.alone hindependent hfares halone
  have hmidway := hmiddle.midway
  rw [← hstand] at hflight
  obtain ⟨own, others, hphase, -⟩ := hmiddle.paired side
  have hresumes := hphase
  cases hphase with
  | idle hnone => exact absurd (hnone.symm.trans hflight) (by simp)
  | arrived hsome hgiven hanswer =>
    obtain ⟨-, rfl⟩ := Prod.mk.inj (Option.some.inj (hsome.symm.trans hflight))
    exact ⟨middle, _, halone, hstand, hanswer⟩
  | @waits claims _ client hsome hgiven hclient hmanner hnext hstanding hexpects =>
    obtain ⟨-, rfl⟩ := Prod.mk.inj (Option.some.inj (hsome.symm.trans hflight))
    -- Nothing is pending, so the client would not sleep.
    have hawake : client.awake = true := by
      by_contra hasleep
      obtain ⟨queue, hqueue, hdelays⟩ :=
        hmiddle.reachable.alert client hclient (Bool.eq_false_iff.2 hasleep)
      have hsound := hmidway.settled.kept.rooted.sound
      have hpending := pending_pos_of_delays hsound hqueue hdelays
      rw [hexpects.queue] at hqueue
      rw [Heap.jobsOf, hqueue] at hempty
      rw [(hsound.queues hqueue).pending, show queue.jobs = [] from hempty] at hpending
      exact absurd hpending (Nat.lt_irrefl _)
    have hresume : ∃ after, middle.session.resume? program client = some after := by
      unfold Session.resume?
      rw [if_pos hawake]
      simp only
      split <;> exact ⟨_, rfl⟩
    obtain ⟨after, hresume⟩ := hresume
    have hturn : Turn program party side middle { middle with session := after } :=
      .resume hflight hclient hresume
    obtain ⟨-, -, -, -, -, hanswered⟩ := hresumes.resume (hindependent.fits side)
      hindependent.reachable.settled hmidway (id_mem_queues party side) hflight hclient hresume
    obtain ⟨answer, hanswer⟩ := hanswered.resolve_left (absurd hempty)
    exact ⟨_, answer, halone.trans (.of_turn hturn), hstand, hanswer⟩

/-- A client with a command in flight can see its outcome. -/
theorem observe (hfares : Fares program start party duet)
    (hflight : (duet.stand side).inFlight = some (command, ticket)) :
    ∃ next, Alone program party side duet next ∧ (next.stand side).inFlight = none ∧
      (next.stand side).seen.length = (duet.stand side).seen.length + 1 := by
  obtain ⟨middle, answer, halone, hstand, hanswer⟩ := Fares.answer hindependent hfares hflight
  rw [← hstand] at hflight
  have hturn : Turn program party side middle _ := .see hflight hanswer
  refine ⟨_, halone.trans (.of_turn hturn), ?_, ?_⟩
  · rw [stand_come]
  · rw [stand_come, List.length_append, hstand]
    rfl

/-- A client that has no command in flight can have all its commands answered. -/
theorem exhaust (hfares : Fares program start party duet)
    (hidle : (duet.stand side).inFlight = none) :
    ∃ next, Alone program party side duet next ∧ (next.stand side).inFlight = none ∧
      (next.stand side).seen.length = (party side).commands.length := by
  -- The induction is on how many commands have no outcome yet.
  generalize hleft : (party side).commands.length - (duet.stand side).seen.length = left
  induction left generalizing duet with
  | zero =>
    refine ⟨duet, .refl duet, hidle, Nat.le_antisymm ?_ (Nat.sub_eq_zero_iff_le.1 hleft)⟩
    obtain ⟨own, others, hphase, -⟩ := hfares.paired side
    cases hphase with
    | idle _ hstanding => simpa using hstanding.given.length_le
    | arrived hsome => exact absurd (hidle.symm.trans hsome) (by simp)
    | waits hsome => exact absurd (hidle.symm.trans hsome) (by simp)
  | succ left ih =>
    obtain ⟨command, hnext⟩ : ∃ command,
        (party side).commands[(duet.stand side).seen.length]? = some command :=
      ⟨_, List.getElem?_eq_getElem (by omega)⟩
    have hturn : Turn program party side duet _ := .start hidle hnext
    obtain ⟨hstarted, -⟩ := Fares.turn hindependent hfares hturn
    obtain ⟨middle, halone, hdone, hlength⟩ := Fares.observe hindependent hstarted
      (congrArg Stand.inFlight (stand_come duet side _ _))
    rw [stand_come] at hlength
    obtain ⟨hmiddle, -⟩ := Fares.alone hindependent hstarted halone
    obtain ⟨next, hrest, hlast, hall⟩ := ih hmiddle hdone (by simp only [hlength]; omega)
    exact ⟨next, (Alone.of_turn hturn).trans (halone.trans hrest), hlast, hall⟩

/-- Each side can come to its end by itself, wherever the other one stands. -/
theorem finish (hfares : Fares program start party duet) (side : Side) :
    ∃ next, Alone program party side duet next ∧ Finished party side next := by
  have hidle : ∃ middle, Alone program party side duet middle ∧
      (middle.stand side).inFlight = none := by
    cases hflight : (duet.stand side).inFlight with
    | none => exact ⟨duet, .refl duet, hflight⟩
    | some flight =>
      obtain ⟨middle, halone, hdone, -⟩ := Fares.observe hindependent hfares hflight
      exact ⟨middle, halone, hdone⟩
  obtain ⟨middle, hfirst, hdone⟩ := hidle
  obtain ⟨hmiddle, -⟩ := Fares.alone hindependent hfares hfirst
  obtain ⟨later, hsecond, hlast, hall⟩ := Fares.exhaust hindependent hmiddle hdone
  obtain ⟨hlater, -⟩ := Fares.alone hindependent hmiddle hsecond
  obtain ⟨next, hthird, hstand, hempty⟩ := Fares.clear hindependent hlater side
  exact ⟨next, hfirst.trans (hsecond.trans hthird), hstand ▸ hall, hstand ▸ hlast, hempty⟩

end Fares

/-! ## What comes about -/

/-- The same is left of both: the memory, the static data, what the clients have been told and the
states of their futures. -/
structure Matches (left right : Duet) : Prop where
  memory : left.session.host.memory = right.session.host.memory
  statics : ∀ file, left.session.host.static file = right.session.host.static file
  verdicts : ∀ side, left.verdicts side = right.verdicts side
  futures : ∀ side, left.futures side = right.futures side

namespace Fares

/-- A client has been told nothing but what its account says. -/
theorem verdicts_le (hfares : Fares program start party duet) (side : Side) :
    duet.verdicts side <+: ((party side).account program.toPlatform start
      (party side).commands.length).verdicts := by
  have htold {seen : List (Command × Outcome)} {claims : List ObjectId}
      (hstanding : (party side).Standing program.toPlatform start duet.session seen claims) :
      seen.map (fun entry ↦ entry.1.verdict entry.2) <+: ((party side).account program.toPlatform
        start (party side).commands.length).verdicts := by
    rw [hstanding.told]
    exact Party.verdicts_account (by simpa using hstanding.given.length_le)
  obtain ⟨own, others, hphase, -⟩ := hfares.paired side
  cases hphase with
  | idle hflight hstanding => exact htold hstanding
  | arrived hflight hgiven hanswer hstanding =>
    refine List.IsPrefix.trans ?_ (htold hstanding)
    rw [List.map_append]
    exact List.prefix_append _ _
  | waits hflight hgiven hclient hmanner hnext hstanding hexpects => exact htold hstanding

/-- A side that has come to its end shows what its account says. -/
theorem finished (hfares : Fares program start party duet) (hfinished : Finished party side duet) :
    duet.verdicts side = ((party side).account program.toPlatform start
        (party side).commands.length).verdicts ∧
      duet.futures side = ((party side).account program.toPlatform start
        (party side).commands.length).endings.map some ∧
      (party side).territory.Agree duet.session.host ((party side).account program.toPlatform start
        (party side).commands.length).host := by
  obtain ⟨own, others, hphase, -⟩ := hfares.paired side
  cases hphase with
  | idle hflight hstanding =>
    have hpaid := hstanding.paid hfinished.jobs
    have htold := hstanding.told
    rw [hfinished.seen] at hpaid htold
    exact ⟨htold, hpaid⟩
  | arrived hsome => exact absurd (hfinished.idle.symm.trans hsome) (by simp)
  | waits hsome => exact absurd (hfinished.idle.symm.trans hsome) (by simp)

/-- When both sides have come to their end it makes no difference whose turns came when. -/
theorem matches_of_finished (hfirst : Fares program start party first)
    (hsecond : Fares program start party next) (hends : ∀ side, Finished party side first)
    (hnext : ∀ side, Finished party side next) : Matches first next := by
  have hagree (side : Side) :
      (party side).territory.Agree first.session.host next.session.host :=
    (hfirst.finished (hends side)).2.2.trans (hsecond.finished (hnext side)).2.2.symm
  constructor
  case memory =>
    have hbyte (address : Nat) : first.session.host.memory.byteAt address =
        next.session.host.memory.byteAt address := by
      -- What neither side holds has not changed since the beginning.
      by_cases hleft : (party .left).territory.holds address
      · exact (hagree .left).memory address hleft
      · by_cases hright : (party .right).territory.holds address
        · exact (hagree .right).memory address hright
        · have hfree := not_or.2 ⟨hleft, hright⟩
          exact (hfirst.spared.memory address hfree).trans
            (hsecond.spared.memory address hfree).symm
    exact congrArg Memory.mk (funext hbyte)
  case statics =>
    intro file
    by_cases hleft : file ∈ (party .left).territory.files
    · exact (hagree .left).statics file hleft
    · by_cases hright : file ∈ (party .right).territory.files
      · exact (hagree .right).statics file hright
      · have hfree : file ∉ ((party .left).territory.join (party .right).territory).files :=
          fun hmem ↦ (List.mem_append.1 hmem).elim hleft hright
        exact (hfirst.spared.statics file hfree).trans (hsecond.spared.statics file hfree).symm
  case verdicts =>
    exact fun side ↦ (hfirst.finished (hends side)).1.trans (hsecond.finished (hnext side)).1.symm
  case futures =>
    exact fun side ↦
      (hfirst.finished (hends side)).2.1.trans (hsecond.finished (hnext side)).2.1.symm

end Fares

/-! ## The result -/

/-- A side that is left untouched has come to its end if it had before. -/
theorem Untouched.finished (huntouched : Untouched party side first last)
    (hfinished : Finished party side first) : Finished party side last where
  seen := huntouched.stand ▸ hfinished.seen
  idle := huntouched.stand ▸ hfinished.idle
  jobs := (jobsOf_congr huntouched.queue).trans hfinished.jobs

/-- Queues whose jobs keep to territories that are apart do not interfere. One side can have all its
turns before the other one has any; whatever the order of turns is, no client is told anything else
than then, and in the end the memory, the static data, the verdicts and the futures are the same. No
turn touches the queue, the futures, the client or the territory of the other side, and each side
can always come to its end by itself. -/
theorem queues_do_not_interfere (hindependent : Independent program start party) :
    ∃ middle serial,
      Alone program party .left { session := start } middle ∧ Finished party .left middle ∧
      Alone program party .right middle serial ∧ (∀ side, Finished party side serial) ∧
      ∀ sides duet, Turns program party sides { session := start } duet →
        (∀ side, duet.verdicts side <+: serial.verdicts side) ∧
        ((∀ side, Finished party side duet) → Matches duet serial) ∧
        (∀ side next, Turn program party side duet next → Untouched party side.other duet next) ∧
        ∀ side, ∃ next, Alone program party side duet next ∧ Finished party side next := by
  have hstart := fares_start hindependent
  obtain ⟨middle, hleft, hfirst⟩ := Fares.finish hindependent hstart .left
  obtain ⟨hmiddle, -⟩ := Fares.alone hindependent hstart hleft
  obtain ⟨serial, hright, hsecond⟩ := Fares.finish hindependent hmiddle .right
  obtain ⟨hserial, huntouched⟩ := Fares.alone hindependent hmiddle hright
  have hends : ∀ side, Finished party side serial := by
    intro side
    cases side with
    | left => exact Untouched.finished huntouched hfirst
    | right => exact hsecond
  refine ⟨middle, serial, hleft, hfirst, hright, hends, fun sides duet hturns ↦ ?_⟩
  have hfares := Fares.turns hindependent hstart hturns
  refine ⟨fun side ↦ ?_, fun hfinished ↦ hfares.matches_of_finished hserial hfinished hends,
    fun side next hturn ↦ (Fares.turn hindependent hfares hturn).2,
    Fares.finish hindependent hfares⟩
  rw [(hserial.finished (hends side)).1]
  exact hfares.verdicts_le side

/-! ## Two queues of one device -/

/-- A routine that panics has done nothing. -/
theorem keepsTo_explode (territory : Territory) (invocation : Invocation) :
    (Catalog.routine (.host "explode")).KeepsTo territory invocation :=
  fun left right _ hagree ↦
    ⟨left, right, hagree, .refl territory left, .inr ⟨some "kernel exploded", rfl, rfl⟩⟩

/-- A routine that fills memory keeps to what it fills. -/
theorem keepsTo_fill {territory : Territory} {invocation : Invocation}
    (hholds : ∀ offset < invocation.extent.width,
      territory.holds (invocation.parameters + offset)) :
    (Catalog.routine (.host "fill")).KeepsTo territory invocation := by
  intro left right _ hagree
  refine ⟨_, _, ?agree, ?spares, .inl ⟨rfl, rfl⟩⟩
  case agree =>
    simp only
    split
    · exact hagree
    · refine ⟨fun address hheld ↦ ?_, hagree.statics, hagree.gate⟩
      simp only [Memory.fill]
      split
      · rfl
      · exact hagree.memory address hheld
  case spares =>
    simp only
    split
    · exact .refl territory left
    · refine ⟨fun address hfree ↦ if_neg fun hrange ↦ hfree ?_, fun _ _ ↦ rfl, rfl⟩
      have hheld := hholds (address - invocation.parameters) (by omega)
      rwa [Nat.add_sub_cancel' hrange.1] at hheld

/-- A program with the routines on hand. -/
def filling : Program := { routine := Catalog.routine }

/-- A device with two views, a kernel that panics and one that fills memory. -/
def equipped : Session :=
  startAll filling {}
    [.hostDevice 0, .newView 1 0 8 1 0, .newView 1 0 8 1 0,
      .symbolModule "routines" [("explode", "explode"), ("fill", "fill")],
      .newKernel 1 4 "explode", .newKernel 1 4 "fill"]

/-- The same device with two queues. -/
def shared : Session :=
  ((equipped.startCall filling (.newQueue 1)).1.startCall filling (.newQueue 1)).1

/-- The bytes of a view. -/
def stretch (start : Nat) : Territory where
  holds := fun address ↦ start ≤ address ∧ address < start + 8
  files := []
  gateOpen := false

/-- One client launches the kernel that panics and then fills a view; the other one fills the other
view. Both wait for their queues. -/
def sharers : Side → Party
  | .left =>
    { queue := 7, id := 7, commands := [.launch 5 0 (.line 1), .launch 6 2 ⟨8, 1, 1⟩, .sync],
      territory := stretch 0x7f0000000000 }
  | .right =>
    { queue := 8, id := 8, commands := [.launch 6 3 ⟨4, 2, 1⟩, .sync],
      territory := stretch 0x7f0000000080 }

/-- The clients and the workers take turns. -/
def interleaved : List (Side × Errand.Move) :=
  [(.right, .start), (.left, .start), (.left, .see), (.right, .see), (.left, .start),
    (.right, .start), (.left, .work), (.left, .see), (.left, .start), (.right, .work),
    (.right, .resume), (.right, .see), (.left, .work), (.left, .resume), (.left, .see)]

/-- The launches of a side keep to its view. -/
theorem keepTo_sharers (side : Side) : Account.KeepTo filling.routine (sharers side).territory
    ((sharers side).steps filling.toPlatform shared) := by
  intro command job hmem
  cases side with
  | left =>
    have hsteps : (sharers .left).steps filling.toPlatform shared =
        [(.launch 5 0 (.line 1), .submit
            { operation := .launch, work := .enter (.host "explode") ⟨0, .line 1⟩, holds := [5],
              future := some 9 }),
          (.launch 6 2 ⟨8, 1, 1⟩, .submit
            { operation := .launch, work := .enter (.host "fill") ⟨0x7f0000000000, ⟨8, 1, 1⟩⟩,
              holds := [6, 2], future := some 9 }),
          (.sync, .drain)] := rfl
    rw [hsteps] at hmem
    simp only [List.mem_cons, Prod.mk.injEq, Action.submit.injEq, List.not_mem_nil, reduceCtorEq,
      and_false, or_false] at hmem
    rcases hmem with ⟨-, rfl⟩ | ⟨-, rfl⟩
    · exact Job.keepsTo_enter rfl (keepsTo_explode _ _)
    · refine Job.keepsTo_enter rfl (keepsTo_fill fun offset hoffset ↦ ?_)
      exact ⟨Nat.le_add_right _ _, Nat.add_lt_add_left hoffset _⟩
  | right =>
    have hsteps : (sharers .right).steps filling.toPlatform shared =
        [(.launch 6 3 ⟨4, 2, 1⟩, .submit
            { operation := .launch, work := .enter (.host "fill") ⟨0x7f0000000080, ⟨4, 2, 1⟩⟩,
              holds := [6, 3], future := some 9 }),
          (.sync, .drain)] := rfl
    rw [hsteps] at hmem
    simp only [List.mem_cons, Prod.mk.injEq, Action.submit.injEq, List.not_mem_nil, reduceCtorEq,
      and_false, or_false] at hmem
    obtain ⟨-, rfl⟩ := hmem
    refine Job.keepsTo_enter rfl (keepsTo_fill fun offset hoffset ↦ ?_)
    exact ⟨Nat.le_add_right _ _, Nat.add_lt_add_left (Nat.lt_trans hoffset (by decide)) _⟩

theorem independent_sharers : Independent filling shared sharers where
  reachable := by
    have hfresh : Fresh ({} : Session) := ⟨rfl, rfl, rfl, rfl, rfl⟩
    have hequipped : Reachable filling equipped :=
      (runs_startAll filling _ _).reachable (.fresh hfresh)
    exact .step (.step hequipped (.call _ _)) (.call _ _)
  idle := fun _ _ hclient ↦ absurd hclient List.not_mem_nil
  jobs := by
    intro side
    cases side <;> rfl
  fits := by
    intro side
    refine ⟨?queue, ?files, ?gate, keepTo_sharers side, ?plain⟩
    case queue => cases side <;> exact ⟨_, rfl⟩
    case files => cases side <;> exact List.nil_subset _
    case gate => cases side <;> rfl
    case plain => cases side <;> simp [sharers]
  different := by decide
  apart := by
    refine ⟨fun address hleft hright ↦ ?_, fun file hfile ↦ absurd hfile List.not_mem_nil⟩
    simp only [sharers, stretch] at hleft hright
    omega

/-- The panic fails the launch it happened in and the `sync` of its own queue. The other client is
not told of it, and its future completes. -/
theorem queues_do_not_interfere_sharers :
    ∃ duet middle serial,
      Turns filling sharers (interleaved.map (·.1)) { session := shared } duet ∧
      Alone filling sharers .left { session := shared } middle ∧
      Alone filling sharers .right middle serial ∧ Matches duet serial ∧
      duet.verdicts .left =
        [.taken, .taken,
          .synced (.error (.failure (.execution "launch panicked: kernel exploded")))] ∧
      duet.futures .left = [some .invalid, some (.completed .clocked)] ∧
      duet.verdicts .right = [.taken, .synced (.ok .nothing)] ∧
      duet.futures .right = [some (.completed .clocked)] := by
  obtain ⟨duet, hmoves⟩ : ∃ duet,
      ({ session := shared } : Duet).moves? filling sharers interleaved = some duet :=
    Option.isSome_iff_exists.1 rfl
  have hshows {α : Type} {value : α} (view : Duet → α)
      (hvalue : (({ session := shared } : Duet).moves? filling sharers interleaved).map view =
        some value) : view duet = value := by
    rw [hmoves] at hvalue
    exact Option.some.inj hvalue
  have hfinished : ∀ side, Finished sharers side duet := by
    intro side
    cases side with
    | left =>
      exact ⟨hshows (fun duet ↦ (duet.stand .left).seen.length) rfl,
        hshows (fun duet ↦ (duet.stand .left).inFlight) rfl,
        hshows (fun duet ↦ duet.session.heap.jobsOf 7) rfl⟩
    | right =>
      exact ⟨hshows (fun duet ↦ (duet.stand .right).seen.length) rfl,
        hshows (fun duet ↦ (duet.stand .right).inFlight) rfl,
        hshows (fun duet ↦ duet.session.heap.jobsOf 8) rfl⟩
  have hturns := turns_of_moves? hmoves
  obtain ⟨middle, serial, hleft, -, hright, -, hall⟩ := queues_do_not_interfere independent_sharers
  obtain ⟨-, hmatches, -⟩ := hall _ duet hturns
  exact ⟨duet, middle, serial, hturns, hleft, hright, hmatches hfinished,
    hshows (fun duet ↦ duet.verdicts .left) rfl, hshows (fun duet ↦ duet.futures .left) rfl,
    hshows (fun duet ↦ duet.verdicts .right) rfl, hshows (fun duet ↦ duet.futures .right) rfl⟩

end Duet

end Offload
