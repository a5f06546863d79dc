import Offload.Proofs.Queue.Run
import Mathlib.Data.List.Induction
import Mathlib.Data.List.Perm.Basic

/-!
# Ledgers

The history of a queue is split where a drain takes the recorded failure. A stretch between two
drains is in order when it has no warnings except one for each failure after the first. A closed
stretch has finished all the jobs it accepted, and the drain that closes it tells of the first
failure. Then the history as a whole tells of each failure once.
-/

namespace Offload

/-! ## Histories -/

namespace QueueEvent

/-- The failure of a job that finished with one. -/
def failure? : QueueEvent → Option Failure
  | .finished _ failure => failure
  | _ => none

def accepted? : QueueEvent → Option Job
  | .accepted job => some job
  | _ => none

def finished? : QueueEvent → Option Job
  | .finished job _ => some job
  | _ => none

/-- Whether an event takes the recorded failure. -/
def drains : QueueEvent → Bool
  | .synced _ | .dropped => true
  | _ => false

end QueueEvent

/-- The failures of a history, oldest first. -/
def failures (history : List QueueEntry) : List Failure := history.filterMap (·.event.failure?)

/-- The jobs a history accepts, oldest first. -/
def accepted (history : List QueueEntry) : List Job := history.filterMap (·.event.accepted?)

/-- The jobs a history finishes, oldest first. -/
def finished (history : List QueueEntry) : List Job := history.filterMap (·.event.finished?)

@[simp]
theorem failures_concat (history : List QueueEntry) (entry : QueueEntry) :
    failures (history ++ [entry]) = failures history ++ entry.event.failure?.toList := by
  rw [failures, List.filterMap_append]
  cases hfailure : entry.event.failure? <;> simp [failures, hfailure]

@[simp]
theorem accepted_concat (history : List QueueEntry) (entry : QueueEntry) :
    accepted (history ++ [entry]) = accepted history ++ entry.event.accepted?.toList := by
  rw [accepted, List.filterMap_append]
  cases hjob : entry.event.accepted? <;> simp [accepted, hjob]

@[simp]
theorem finished_concat (history : List QueueEntry) (entry : QueueEntry) :
    finished (history ++ [entry]) = finished history ++ entry.event.finished?.toList := by
  rw [finished, List.filterMap_append]
  cases hjob : entry.event.finished? <;> simp [finished, hjob]

/-- A part of a history that ends with a drain. -/
structure Stretch where
  entries : List QueueEntry
  drain : QueueEntry

/-- All entries of a stretch. -/
def Stretch.history (stretch : Stretch) : List QueueEntry := stretch.entries ++ [stretch.drain]

/-- A history split at its drains: the stretches that drains have closed, and what came since. -/
structure Ledger where
  closed : List Stretch := []
  since : List QueueEntry := []

namespace Ledger

/-- The ledger with one more entry. -/
def add (ledger : Ledger) (entry : QueueEntry) : Ledger :=
  if entry.event.drains then
    { closed := ledger.closed ++ [⟨ledger.since, entry⟩], since := [] }
  else { ledger with since := ledger.since ++ [entry] }

/-- The ledger of a history. -/
def ofHistory (history : List QueueEntry) : Ledger := history.foldl add {}

@[simp]
theorem ofHistory_concat (history : List QueueEntry) (entry : QueueEntry) :
    ofHistory (history ++ [entry]) = (ofHistory history).add entry := by
  unfold ofHistory
  rw [List.foldl_append]
  rfl

theorem add_of_drains {ledger : Ledger} {entry : QueueEntry} (hdrains : entry.event.drains = true) :
    ledger.add entry = { closed := ledger.closed ++ [⟨ledger.since, entry⟩], since := [] } := by
  rw [add, if_pos hdrains]

theorem add_of_not_drains {ledger : Ledger} {entry : QueueEntry}
    (hdrains : entry.event.drains = false) :
    ledger.add entry = { ledger with since := ledger.since ++ [entry] } := by
  rw [add, if_neg (by rw [hdrains]; exact Bool.false_ne_true)]

/-- A ledger has the entries of its history, in order. -/
theorem history_eq (history : List QueueEntry) :
    (ofHistory history).closed.flatMap Stretch.history ++ (ofHistory history).since = history := by
  induction history using List.reverseRecOn with
  | nil => rfl
  | append_singleton history entry ih =>
    rw [ofHistory_concat]
    cases hdrains : entry.event.drains with
    | true =>
      rw [add_of_drains hdrains, List.flatMap_append]
      calc
        (ofHistory history).closed.flatMap Stretch.history ++
              [(⟨(ofHistory history).since, entry⟩ : Stretch)].flatMap Stretch.history ++ [] =
            ((ofHistory history).closed.flatMap Stretch.history ++
              (ofHistory history).since) ++ [entry] := by
          simp [Stretch.history]
        _ = history ++ [entry] := by rw [ih]
    | false =>
      rw [add_of_not_drains hdrains, ← List.append_assoc, ih]

/-- The drains of a history are where its ledger is split, and nowhere else. -/
theorem drains_iff (history : List QueueEntry) :
    (∀ stretch ∈ (ofHistory history).closed, stretch.drain.event.drains = true ∧
        ∀ entry ∈ stretch.entries, entry.event.drains = false) ∧
      ∀ entry ∈ (ofHistory history).since, entry.event.drains = false := by
  induction history using List.reverseRecOn with
  | nil => exact ⟨fun _ hstretch ↦ absurd hstretch List.not_mem_nil,
      fun _ hentry ↦ absurd hentry List.not_mem_nil⟩
  | append_singleton history entry ih =>
    obtain ⟨hclosed, hsince⟩ := ih
    rw [ofHistory_concat]
    cases hdrains : entry.event.drains with
    | true =>
      rw [add_of_drains hdrains]
      refine ⟨?_, fun _ hentry ↦ absurd hentry List.not_mem_nil⟩
      intro stretch hstretch
      rcases List.mem_append.1 hstretch with hold | hnew
      · exact hclosed stretch hold
      · rw [List.mem_singleton.1 hnew]
        exact ⟨hdrains, hsince⟩
    | false =>
      rw [add_of_not_drains hdrains]
      refine ⟨hclosed, ?_⟩
      intro other hother
      rcases List.mem_append.1 hother with hold | hnew
      · exact hsince other hold
      · rw [List.mem_singleton.1 hnew]
        exact hdrains

end Ledger

/-! ## Accounts -/

open Session (additional unreported drainOutcome)

/-- What is to be noted of a failure when others came before it. -/
def dues (before : List Failure) (failure : Option Failure) : Journal :=
  match before with
  | [] => []
  | _ :: _ => additional failure

/-- Every failure but the first is warned about when its job finishes, and nothing else is. -/
def Warned (entries : List QueueEntry) : Prop :=
  ∀ left entry right, entries = left ++ entry :: right →
    entry.warnings = dues (failures left) entry.event.failure?

namespace Warned

variable {entries : List QueueEntry} {entry : QueueEntry}

theorem nil : Warned [] := by
  intro left entry right heq
  exact absurd heq.symm (by simp)

theorem concat (hwarned : Warned entries)
    (hentry : entry.warnings = dues (failures entries) entry.event.failure?) :
    Warned (entries ++ [entry]) := by
  intro left other right heq
  induction right using List.reverseRecOn with
  | nil =>
    obtain ⟨rfl, hlast⟩ := List.append_inj' heq rfl
    obtain rfl : entry = other := (List.cons.inj hlast).1
    exact hentry
  | append_singleton right last _ =>
    rw [← List.cons_append, ← List.append_assoc] at heq
    obtain ⟨hentries, -⟩ := List.append_inj' heq rfl
    exact hwarned left other right hentries

theorem of_concat (hwarned : Warned (entries ++ [entry])) : Warned entries := by
  intro left other right heq
  apply hwarned left other (right ++ [entry])
  rw [heq, List.append_assoc, List.cons_append]

/-- The warnings are one for each failure after the first, in order. -/
theorem warnings_eq (hwarned : Warned entries) :
    entries.flatMap (·.warnings) =
      (failures entries).tail.flatMap fun failure ↦ additional (some failure) := by
  induction entries using List.reverseRecOn with
  | nil => rfl
  | append_singleton entries entry ih =>
    have hlast : entry.warnings = dues (failures entries) entry.event.failure? :=
      hwarned entries entry [] rfl
    rw [List.flatMap_append, ih hwarned.of_concat, List.flatMap_singleton, hlast,
      failures_concat]
    cases hfailures : failures entries with
    | nil => cases entry.event.failure? <;> rfl
    | cons first others =>
      cases entry.event.failure? <;> simp [dues, additional]

end Warned

/-- What the drain after a stretch has to tell. -/
def QueueEntry.Settles (drain : QueueEntry) (first : Option Failure) : Prop :=
  match drain.event with
  | .synced outcome => outcome = drainOutcome first ∧ drain.warnings = []
  | .dropped => drain.warnings = unreported first
  | _ => False

/-- A stretch that has finished the jobs it accepted, and whose failures have been told of. -/
structure Stretch.Accounted (stretch : Stretch) : Prop where
  complete : accepted stretch.entries = finished stretch.entries
  warned : Warned stretch.entries
  settles : stretch.drain.Settles (failures stretch.entries).head?

/-- What a history has to do with its queue as it is now. -/
structure Accounted (history : List QueueEntry) (queue? : Option HostQueue) : Prop where
  closed : ∀ stretch ∈ (Ledger.ofHistory history).closed, stretch.Accounted
  warned : Warned (Ledger.ofHistory history).since
  /-- The jobs accepted since the last drain have finished in order or are still in the queue, and
  the first failure since then is recorded. -/
  present : ∀ queue, queue? = some queue →
    accepted (Ledger.ofHistory history).since =
        finished (Ledger.ofHistory history).since ++ queue.jobs ∧
      queue.progress = ⟨queue.jobs.length, (failures (Ledger.ofHistory history).since).head?⟩
  /-- A queue that is gone has left nothing behind. -/
  gone : queue? = none →
    accepted (Ledger.ofHistory history).since = finished (Ledger.ofHistory history).since ∧
      failures (Ledger.ofHistory history).since = []

/-! ## Reports -/

/-- The failures an entry tells somebody of: the client that gets an outcome, or the journal. -/
def QueueEntry.reports (entry : QueueEntry) : List String :=
  (match entry.event with
    | .synced (.error interruption) => [interruption.message]
    | _ => []) ++ entry.warnings.filterMap (·.fields.lookup "error")

theorem filterMap_additional (failure : Option Failure) :
    (additional failure).filterMap (·.fields.lookup "error") = failure.toList.map (·.message) := by
  cases failure <;> rfl

theorem filterMap_unreported (failure : Option Failure) :
    (unreported failure).filterMap (·.fields.lookup "error") = failure.toList.map (·.message) := by
  cases failure <;> rfl

theorem QueueEntry.reports_of_not_drains {entry : QueueEntry}
    (hdrains : entry.event.drains = false) :
    entry.reports = entry.warnings.filterMap (·.fields.lookup "error") := by
  unfold reports
  cases hevent : entry.event with
  | synced outcome =>
    rw [hevent] at hdrains
    exact absurd hdrains (by simp [QueueEvent.drains])
  | _ => rfl

/-- Between drains, what is told of are the failures after the first. -/
theorem Warned.reports_eq {entries : List QueueEntry} (hwarned : Warned entries)
    (hdrains : ∀ entry ∈ entries, entry.event.drains = false) :
    entries.flatMap (·.reports) = (failures entries).tail.map (·.message) := by
  calc
    entries.flatMap (·.reports) =
        entries.flatMap fun entry ↦ entry.warnings.filterMap (·.fields.lookup "error") := by
      rw [List.flatMap_def, List.flatMap_def]
      congr 1
      exact List.map_congr_left fun entry hentry ↦
        QueueEntry.reports_of_not_drains (hdrains entry hentry)
    _ = (entries.flatMap (·.warnings)).filterMap (·.fields.lookup "error") := by
      rw [List.filterMap_flatMap]
    _ = (failures entries).tail.map (·.message) := by
      rw [hwarned.warnings_eq, List.filterMap_flatMap, List.map_eq_flatMap]
      simp only [filterMap_additional]
      rfl

/-- A drain tells of the first failure. -/
theorem QueueEntry.Settles.reports_eq {drain : QueueEntry} {first : Option Failure}
    (hsettles : drain.Settles first) : drain.reports = first.toList.map (·.message) := by
  unfold Settles at hsettles
  unfold reports
  cases hevent : drain.event with
  | synced outcome =>
    rw [hevent] at hsettles
    rw [hsettles.1, hsettles.2]
    cases first <;> rfl
  | dropped =>
    rw [hevent] at hsettles
    rw [hsettles]
    exact filterMap_unreported first
  | accepted job =>
    rw [hevent] at hsettles
    exact hsettles.elim
  | finished job failure =>
    rw [hevent] at hsettles
    exact hsettles.elim

theorem QueueEvent.failure?_of_drains {event : QueueEvent} (hdrains : event.drains = true) :
    event.failure? = none := by
  cases event with
  | synced => rfl
  | dropped => rfl
  | accepted => exact absurd hdrains (by simp [drains])
  | finished => exact absurd hdrains (by simp [drains])

/-- Each failure of a closed stretch is told of once. -/
theorem Stretch.Accounted.reports_perm {stretch : Stretch} (haccounted : stretch.Accounted)
    (hdrain : stretch.drain.event.drains = true)
    (hdrains : ∀ entry ∈ stretch.entries, entry.event.drains = false) :
    ((failures stretch.history).map (·.message)).Perm (stretch.history.flatMap (·.reports)) := by
  have hfailures : failures stretch.history = failures stretch.entries := by
    rw [Stretch.history, failures_concat, QueueEvent.failure?_of_drains hdrain]
    exact List.append_nil _
  have hreports : stretch.history.flatMap (·.reports) =
      (failures stretch.entries).tail.map (·.message) ++
        (failures stretch.entries).head?.toList.map (·.message) := by
    rw [Stretch.history, List.flatMap_append, haccounted.warned.reports_eq hdrains,
      List.flatMap_singleton, haccounted.settles.reports_eq]
  rw [hfailures, hreports]
  cases failures stretch.entries with
  | nil => exact List.Perm.refl _
  | cons first others => exact (List.perm_append_singleton _ _).symm

/-- The failure a queue has recorded, if it is still there. -/
def recorded (queue? : Option HostQueue) : Option Failure := queue?.bind (·.progress.failure)

theorem Accounted.recorded_eq {history : List QueueEntry} {queue? : Option HostQueue}
    (haccounted : Accounted history queue?) :
    recorded queue? = (failures (Ledger.ofHistory history).since).head? := by
  cases queue? with
  | none =>
    rw [(haccounted.gone rfl).2]
    rfl
  | some queue =>
    have hprogress := (haccounted.present queue rfl).2
    rw [recorded, Option.bind_some, hprogress]

/-- Each failure of a history is told of once, or is the one that is recorded. -/
theorem Accounted.reports_perm {history : List QueueEntry} {queue? : Option HostQueue}
    (haccounted : Accounted history queue?) :
    ((failures history).map (·.message)).Perm
      (history.flatMap (·.reports) ++ (recorded queue?).toList.map (·.message)) := by
  obtain ⟨hclosed, hsince⟩ := Ledger.drains_iff history
  have hhistory := Ledger.history_eq history
  have hrecorded := haccounted.recorded_eq
  have hwarned := haccounted.warned
  have hstretches := haccounted.closed
  generalize Ledger.ofHistory history = ledger at *
  have hfailures : (failures history).map (·.message) =
      (ledger.closed.flatMap fun stretch ↦ (failures stretch.history).map (·.message)) ++
        (failures ledger.since).map (·.message) := by
    rw [← hhistory]
    simp [failures, List.filterMap_flatMap, List.map_flatMap]
  have hreports : history.flatMap (·.reports) =
      (ledger.closed.flatMap fun stretch ↦ stretch.history.flatMap (·.reports)) ++
        (failures ledger.since).tail.map (·.message) := by
    rw [← hhistory, List.flatMap_append, hwarned.reports_eq hsince, List.flatMap_assoc]
  rw [hfailures, hreports, hrecorded, List.append_assoc]
  apply List.Perm.append
  · apply List.Perm.flatMap_left
    intro stretch hstretch
    exact (hstretches stretch hstretch).reports_perm (hclosed stretch hstretch).1
      (hclosed stretch hstretch).2
  · cases failures ledger.since with
    | nil => exact List.Perm.refl _
    | cons first others => exact (List.perm_append_singleton _ _).symm

end Offload
