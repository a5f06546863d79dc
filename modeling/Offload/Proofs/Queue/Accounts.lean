import Offload.Proofs.Queue.CatchingUp
import Offload.Proofs.Queue.Territories

/-!
# Accounts of clients

An account says what the commands of a client come to if each job is run at once, at the command
that submits it, and the queue is the only one there is. It keeps the host state, the failure the
next `sync` gets, how the launches have ended, and what the client is told. Balances that are the
same in a territory stay the same in it, whatever jobs that keep to it are run.
-/

namespace Offload

variable {platform : Platform} {routine : Entry → Routine} {territory : Territory} {job : Job}
  {jobs : List Job}

/-! ## Commands -/

/-- What a client is told of a command: the outcome of a `sync`, and otherwise whether the command
was taken. Which number a handle has and why a command is refused is left out. -/
inductive Verdict where
  | refused
  | taken
  | synced (outcome : Outcome)

/-- What a client is told of a command with an outcome. -/
def Command.verdict (command : Command) (outcome : Outcome) : Verdict :=
  match command, outcome with
  | .sync, outcome => .synced outcome
  | _, .ok _ => .taken
  | _, .error _ => .refused

/-- Outcomes that are alike in success or failure are told alike, and those of a `sync` if they are
the same. -/
theorem Command.verdict_eq {command : Command} {left right : Outcome}
    (hsync : command = .sync → left = right) (hok : left.isOk = right.isOk) :
    command.verdict left = command.verdict right := by
  cases command with
  | sync => rw [hsync rfl]
  | _ =>
    cases left <;> cases right <;>
      first | rfl | exact absurd hok (by simp [Except.isOk, Except.toBool])

/-- What a command on a queue asks for. -/
inductive Action where
  | refuse (interruption : Interruption)
  | answer (reply : Reply)
  | submit (job : Job)
  | drain

/-- What a command asks for in a session. The job of a launch has the future that would be made for
it there. -/
def Command.action (platform : Platform) (session : Session) (queue : Handle) (command : Command) :
    Action :=
  match ((command.request queue).decide platform session).run.run session.ambient with
  | (.error interruption, _) => .refuse interruption
  | (.ok decision, _) =>
    match decision.effect with
    | .submit _ job => .submit job
    | .launch _ job => .submit { job with future := some session.heap.next }
    | .drain _ => .drain
    | .answer reply => .answer reply
    | _ => .answer .nothing

/-! ## Balances -/

/-- What jobs leave behind: the host state, the failure that the next `sync` gets, and how the
launches among them have ended. -/
structure Balance where
  host : HostState
  failure : Option Failure := none
  endings : List FutureState := []

namespace Balance

variable {balance left right last : Balance} {host : HostState} {failure : Option Failure}

/-- A job has ended. -/
def conclude (balance : Balance) (job : Job) (host : HostState) (failure : Option Failure) :
    Balance where
  host
  failure := balance.failure.or failure
  endings := balance.endings ++ (job.future.map fun _ ↦ Session.futureOutcome failure).toList

/-- Runs a job to its end. -/
def run (routine : Entry → Routine) (balance : Balance) (job : Job) : Balance :=
  match job.work.run routine job.operation balance.host with
  | .done host => balance.conclude job host none
  | .failed failure host => balance.conclude job host (some failure)
  | .waiting => balance

/-- Runs some jobs, oldest first. -/
def runAll (routine : Entry → Routine) (balance : Balance) (jobs : List Job) : Balance :=
  jobs.foldl (run routine) balance

theorem run_eq (hruns : job.Runs routine balance.host host failure) :
    balance.run routine job = balance.conclude job host failure := by
  unfold Job.Runs at hruns
  unfold run
  rw [hruns]
  cases failure <;> rfl

theorem runAll_concat (balance : Balance) (jobs : List Job) (job : Job) :
    balance.runAll routine (jobs ++ [job]) = (balance.runAll routine jobs).run routine job := by
  unfold runAll
  rw [List.foldl_append]
  rfl

/-- Which future a job has makes no difference. -/
theorem run_congr {other : Job} (hoperation : other.operation = job.operation)
    (hwork : other.work = job.work) (hfuture : other.future.isSome = job.future.isSome) :
    balance.run routine other = balance.run routine job := by
  have hconclude (host : HostState) (failure : Option Failure) :
      balance.conclude other host failure = balance.conclude job host failure := by
    unfold conclude
    cases hother : other.future <;> cases hown : job.future <;> simp_all
  unfold run
  rw [hoperation, hwork]
  cases job.work.run routine job.operation balance.host with
  | done host => exact hconclude host none
  | failed failure host => exact hconclude host (some failure)
  | waiting => rfl

/-- Two balances that are the same in a territory. -/
structure Same (territory : Territory) (left right : Balance) : Prop where
  host : territory.Agree left.host right.host
  gate : left.host.gateOpen = territory.gateOpen
  failure : left.failure = right.failure
  endings : left.endings = right.endings

theorem Same.trans (hfirst : Same territory left right) (hsecond : Same territory right last) :
    Same territory left last :=
  ⟨hfirst.host.trans hsecond.host, hfirst.gate, hfirst.failure.trans hsecond.failure,
    hfirst.endings.trans hsecond.endings⟩

/-- A job that keeps to a territory comes to the same in it. -/
theorem Same.run (hsame : Same territory left right) (hjob : job.KeepsTo routine territory) :
    Same territory (left.run routine job) (right.run routine job) := by
  obtain ⟨failure, after, other, hleft, hright, hagree, hspares⟩ :=
    hjob left.host right.host hsame.gate hsame.host
  rw [run_eq hleft, run_eq hright]
  exact ⟨hagree, hspares.gate.trans hsame.gate, congrArg (·.or failure) hsame.failure,
    congrArg (· ++ _) hsame.endings⟩

theorem Same.runAll (hsame : Same territory left right)
    (hjobs : ∀ job ∈ jobs, job.KeepsTo routine territory) :
    Same territory (left.runAll routine jobs) (right.runAll routine jobs) := by
  induction jobs generalizing left right with
  | nil => exact hsame
  | cons job rest ih =>
    obtain ⟨hjob, hrest⟩ := List.forall_mem_cons.1 hjobs
    exact ih (hsame.run hjob) hrest

end Balance

/-! ## Accounts -/

/-- What a client's commands have come to, and what the client has been told of them. -/
structure Account extends Balance where
  verdicts : List Verdict := []

namespace Account

/-- What a command comes to when all it asks for is done at once. -/
def act (routine : Entry → Routine) (balance : Balance) : Action → Balance × Outcome
  | .refuse interruption => (balance, .error interruption)
  | .answer reply => (balance, .ok reply)
  | .submit job => (balance.run routine job, .ok .nothing)
  | .drain => ({ balance with failure := none }, Session.drainOutcome balance.failure)

/-- Does at once what a command asks for, and tells the client. -/
def perform (routine : Entry → Routine) (account : Account) (command : Command × Action) :
    Account where
  toBalance := (act routine account.toBalance command.2).1
  verdicts := account.verdicts ++ [command.1.verdict (act routine account.toBalance command.2).2]

/-- Does at once what some commands ask for, one after the other. -/
def run (routine : Entry → Routine) (account : Account) (commands : List (Command × Action)) :
    Account :=
  commands.foldl (perform routine) account

theorem run_append (account : Account) (commands more : List (Command × Action)) :
    account.run routine (commands ++ more) = (account.run routine commands).run routine more :=
  List.foldl_append

/-- Commands whose jobs keep to a territory. -/
def KeepTo (routine : Entry → Routine) (territory : Territory)
    (commands : List (Command × Action)) : Prop :=
  ∀ command job, (command, Action.submit job) ∈ commands → job.KeepsTo routine territory

end Account

/-- The account of a client whose queue has no jobs: nothing has been told yet. -/
def Session.opening (session : Session) (id : ObjectId) : Account where
  host := session.host
  failure := session.heap.failureOf id

end Offload
