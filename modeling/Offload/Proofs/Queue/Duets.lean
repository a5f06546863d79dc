import Offload.Proofs.Queue.Accounts
import Offload.Proofs.Session.Steps

/-!
# Two clients on two queues

Two clients give commands on queues of their own, in one session. Each has its commands fixed from
the beginning. The clients and the workers of their queues take turns in any order; each turn is one
side's, and a run tells whose turns they were. A client gives its next command when it has seen the
outcome of the last one, and may have to wait for it.
-/

namespace Offload

/-- One of two clients, with its queue. -/
inductive Side where
  | left
  | right
  deriving DecidableEq, Repr

/-- The other side. -/
def Side.other : Side → Side
  | left => right
  | right => left

@[simp]
theorem Side.other_other (side : Side) : side.other.other = side := by
  cases side <;> rfl

theorem Side.other_ne (side : Side) : side.other ≠ side := by
  cases side <;> simp [Side.other]

/-- What one side brings along: its queue, its commands, and the territory its jobs are to keep to.
-/
structure Party where
  queue : Handle
  id : ObjectId
  commands : List Command
  territory : Territory

/-- What the commands of a party ask for in a session. -/
def Party.steps (party : Party) (platform : Platform) (start : Session) : List (Command × Action) :=
  party.commands.map fun command ↦ (command, command.action platform start party.queue)

/-- How far a client has come: the command it has given without having seen its outcome, and the
outcomes it has seen. -/
structure Stand where
  inFlight : Option (Command × Ticket) := none
  seen : List (Command × Outcome) := []

namespace Stand

/-- What the client has been told. -/
def verdicts (stand : Stand) : List Verdict :=
  stand.seen.map fun entry ↦ entry.1.verdict entry.2

/-- The handle in an outcome. -/
def handle? : Command × Outcome → Option Handle
  | (_, .ok (.handle handle)) => some handle
  | _ => none

/-- The handles of the client's launches. -/
def handles (stand : Stand) : List Handle := stand.seen.filterMap handle?

end Stand

/-- Two clients in one session. -/
structure Duet where
  session : Session
  stand : Side → Stand := fun _ ↦ {}

namespace Duet

/-- One side has come further. -/
def come (duet : Duet) (side : Side) (session : Session) (stand : Stand) : Duet where
  session
  stand := fun other ↦ if other = side then stand else duet.stand other

@[simp]
theorem stand_come (duet : Duet) (side : Side) (session : Session) (stand : Stand) :
    (duet.come side session stand).stand side = stand := if_pos rfl

@[simp]
theorem stand_come_other (duet : Duet) (side : Side) (session : Session) (stand : Stand) :
    (duet.come side session stand).stand side.other = duet.stand side.other :=
  if_neg side.other_ne

/-- What the client of a side has been told. -/
def verdicts (duet : Duet) (side : Side) : List Verdict := (duet.stand side).verdicts

/-- The states of the futures of a side's launches. -/
def futures (duet : Duet) (side : Side) : List (Option FutureState) :=
  (duet.stand side).handles.map duet.session.futureState?

/-- A side whose client has seen the outcomes of all its commands and whose queue has run all its
jobs. -/
structure Finished (party : Side → Party) (side : Side) (duet : Duet) : Prop where
  seen : (duet.stand side).seen.length = (party side).commands.length
  idle : (duet.stand side).inFlight = none
  jobs : duet.session.heap.jobsOf (party side).id = []

/-! ## Turns -/

/-- A turn of one side: of its client, or of the worker of its queue. -/
inductive Turn (program : Program) (party : Side → Party) (side : Side) : Duet → Duet → Prop where
  /-- The client gives its next command. -/
  | start {duet : Duet} {command : Command} (hidle : (duet.stand side).inFlight = none)
    (hnext : (party side).commands[(duet.stand side).seen.length]? = some command) :
    Turn program party side duet
      (duet.come side (duet.session.startRequest program (command.request (party side).queue)).1
        { duet.stand side with
          inFlight := some (command, (duet.session.startRequest program
            (command.request (party side).queue)).2) })
  /-- The worker runs the oldest job of the queue. -/
  | work {duet : Duet} {after : Session}
    (hwork : duet.session.work? program.toPlatform (party side).id = some after) :
    Turn program party side duet { duet with session := after }
  /-- The client was woken while it waits, and looks again. -/
  | resume {duet : Duet} {command : Command} {client : Waiting} {after : Session}
    (hflight : (duet.stand side).inFlight = some (command, client.ticket))
    (hclient : client ∈ duet.session.waiting)
    (hresume : duet.session.resume? program client = some after) :
    Turn program party side duet { duet with session := after }
  /-- The client sees the outcome of its command. -/
  | see {duet : Duet} {command : Command} {ticket : Ticket} {answer : Answer}
    (hflight : (duet.stand side).inFlight = some (command, ticket))
    (hanswer : duet.session.answer? ticket = some answer) :
    Turn program party side duet
      (duet.come side duet.session
        { seen := (duet.stand side).seen ++ [(command, answer.outcome)] })

/-- Turns one after the other, with the sides whose turns they are. -/
inductive Turns (program : Program) (party : Side → Party) : List Side → Duet → Duet → Prop where
  | refl (duet : Duet) : Turns program party [] duet duet
  | turn {sides : List Side} {side : Side} {first middle last : Duet}
    (hturns : Turns program party sides first middle)
    (hturn : Turn program party side middle last) :
    Turns program party (sides ++ [side]) first last

variable {program : Program} {party : Side → Party} {side : Side} {sides more : List Side}
  {duet next first middle last : Duet}

theorem Turn.turns (hturn : Turn program party side duet next) :
    Turns program party [side] duet next :=
  (Turns.refl duet).turn hturn

theorem Turns.trans (hfirst : Turns program party sides first middle)
    (hsecond : Turns program party more middle last) :
    Turns program party (sides ++ more) first last := by
  induction hsecond with
  | refl =>
    rw [List.append_nil]
    exact hfirst
  | turn _ hturn ih =>
    rw [← List.append_assoc]
    exact (ih hfirst).turn hturn

/-- A turn is a step of the session, or leaves it as it is. -/
theorem Turn.session_cases (hturn : Turn program party side duet next) :
    next.session = duet.session ∨ Session.Step program duet.session next.session := by
  cases hturn with
  | start => exact .inr (.request _ _)
  | work hwork => exact .inr (.work _ hwork)
  | resume _ hclient hresume => exact .inr (.resume hclient hresume)
  | see => exact .inl rfl

/-! ## Schedules -/

/-- The duet after a move of one side, if the move is possible. -/
def move? (program : Program) (party : Side → Party) (duet : Duet) :
    Side × Errand.Move → Option Duet
  | (side, .start) =>
    match (duet.stand side).inFlight, (party side).commands[(duet.stand side).seen.length]? with
    | none, some command =>
      let (session, ticket) :=
        duet.session.startRequest program (command.request (party side).queue)
      some (duet.come side session
        { duet.stand side with inFlight := some (command, ticket) })
    | _, _ => none
  | (side, .work) => do
    let session ← duet.session.work? program.toPlatform (party side).id
    some { duet with session }
  | (side, .resume) => do
    let (_, ticket) ← (duet.stand side).inFlight
    let client ← duet.session.waiting.find? (·.ticket == ticket)
    let session ← duet.session.resume? program client
    some { duet with session }
  | (side, .see) => do
    let (command, ticket) ← (duet.stand side).inFlight
    let answer ← duet.session.answer? ticket
    some (duet.come side duet.session
      { seen := (duet.stand side).seen ++ [(command, answer.outcome)] })

/-- The duet after some moves, one after the other. -/
def moves? (program : Program) (party : Side → Party) (schedule : List (Side × Errand.Move))
    (duet : Duet) : Option Duet :=
  schedule.foldlM (move? program party) duet

/-- A possible move is a turn. -/
theorem turn_of_move? {move : Errand.Move}
    (hmove : duet.move? program party (side, move) = some next) :
    Turn program party side duet next := by
  cases move with
  | start =>
    simp only [move?] at hmove
    split at hmove
    · next command hidle hnext =>
      obtain rfl := Option.some.inj hmove
      exact .start hidle hnext
    · exact absurd hmove (by simp)
  | work =>
    simp only [move?, bind, Option.bind_eq_some_iff] at hmove
    obtain ⟨after, hwork, hnext⟩ := hmove
    obtain rfl := Option.some.inj hnext
    exact .work hwork
  | resume =>
    simp only [move?, bind, Option.bind_eq_some_iff] at hmove
    obtain ⟨⟨command, ticket⟩, hflight, client, hfind, after, hresume, hnext⟩ := hmove
    obtain rfl := Option.some.inj hnext
    have hticket : client.ticket = ticket := by simpa using List.find?_some hfind
    exact .resume (hticket ▸ hflight) (List.mem_of_find?_eq_some hfind) hresume
  | see =>
    simp only [move?, bind, Option.bind_eq_some_iff] at hmove
    obtain ⟨⟨command, ticket⟩, hflight, answer, hanswer, hnext⟩ := hmove
    obtain rfl := Option.some.inj hnext
    exact .see hflight hanswer

theorem turns_of_moves? {schedule : List (Side × Errand.Move)}
    (hmoves : duet.moves? program party schedule = some last) :
    Turns program party (schedule.map (·.1)) duet last := by
  induction schedule generalizing duet with
  | nil =>
    obtain rfl := Option.some.inj hmoves
    exact .refl duet
  | cons move rest ih =>
    obtain ⟨side, move⟩ := move
    unfold moves? at hmoves
    rw [List.foldlM_cons, Option.bind_eq_bind, Option.bind_eq_some_iff] at hmoves
    obtain ⟨next, hmove, hrest⟩ := hmoves
    exact (turn_of_move? hmove).turns.trans (ih hrest)

end Duet

end Offload
