import Offload.Proofs.Queue.Duets
import Offload.Proofs.Queue.Tending
import Offload.Proofs.Queue.Turns

/-!
# How a party stands with its account

A party has an account that nobody else has a part in: what its commands come to when each is done
at once, from the beginning. In a session with others the party stands with its account if its
client has been told what the account says, and its queue owes no more than what is left of its
jobs. Its own turns keep it so: each command that is given adds to the account what it adds to the
session.
-/

namespace Offload

open Session

variable {platform : Platform} {party : Party} {start session after : Session}
  {command : Command} {outcome : Outcome} {asked job : Job}
  {seen : List (Command × Outcome)} {claims own : List ObjectId} {stage : Stage} {handle : Handle}
  {future id : ObjectId} {queues : List ObjectId} {count : Nat}

/-! ## Accounts of parties -/

namespace Party

/-- What the first commands of a party come to when nobody else is there. -/
def account (party : Party) (platform : Platform) (start : Session) (count : Nat) : Account :=
  (start.opening party.id).run platform.routine ((party.steps platform start).take count)

/-- One more command. -/
theorem account_succ (hnext : party.commands[count]? = some command) :
    party.account platform start (count + 1) =
      (party.account platform start count).perform platform.routine
        (command, command.action platform start party.queue) := by
  have hstep : (party.steps platform start)[count]? =
      some (command, command.action platform start party.queue) := by
    unfold steps
    rw [List.getElem?_map, hnext]
    rfl
  unfold account
  rw [List.take_add_one, hstep, Account.run_append]
  rfl

/-- A party on a queue of the host whose jobs keep to a territory, with libraries that are loaded.
Its client gives commands only, and does not give up handles. -/
structure Fits (party : Party) (platform : Platform) (start : Session) : Prop where
  queue : ∃ ordered, start.queue party.queue = .ok (party.id, .host ordered)
  files : party.territory.files ⊆ start.heap.files
  gate : start.host.gateOpen = party.territory.gateOpen
  keep : Account.KeepTo platform.routine party.territory (party.steps platform start)
  plain : ∀ handle, .release handle ∉ party.commands

/-- The job a command asks for keeps to the territory. -/
theorem Fits.keepsTo (hfits : party.Fits platform start) (hmem : command ∈ party.commands)
    (haction : command.action platform start party.queue = .submit job) :
    job.KeepsTo platform.routine party.territory := by
  refine hfits.keep command job (List.mem_map.2 ⟨command, hmem, ?_⟩)
  rw [haction]

/-- The queue of a party keeps its handle. -/
theorem Fits.names (hfits : party.Fits platform start) (hstart : start.registry.Ordered)
    (hgrows : start.Grows session) : session.registry.Names party.id := by
  obtain ⟨ordered, hqueue⟩ := hfits.queue
  obtain ⟨slot, hslot, -, hobject⟩ := Registry.lookup_eq_ok (lookup_eq_ok hqueue).1
  exact hgrows.names hstart (hobject ▸ Registry.names_of_get? hslot)

theorem Fits.ne_release (hfits : party.Fits platform start) (hmem : command ∈ party.commands)
    (handle : Handle) : command ≠ .release handle :=
  fun hcommand ↦ hfits.plain handle (hcommand ▸ hmem)

end Party

/-! ## Standing -/

/-- The only reference of a handle is to a future. -/
def Session.IsHandleOf (session : Session) (handle : Handle) (future : ObjectId) : Prop :=
  handle ≠ 0 ∧ session.registry.get? handle = some ⟨1, .future, future⟩

/-- The handle of a future shows its state. -/
theorem Session.IsHandleOf.futureState?_eq {state : FutureState}
    (hhandle : session.IsHandleOf handle future)
    (hstate : session.heap.future? future = some (.cell state)) :
    session.futureState? handle = some state := by
  have hlookup : session.registry.lookup .future handle = .ok future := by
    unfold Registry.lookup Registry.locate
    rw [if_neg hhandle.1, hhandle.2]
    rfl
  unfold Session.futureState? Session.future Session.lookup
  simp only [hlookup, bind, Except.bind, hstate]

theorem Session.exists_isHandleOf {handles : List Handle}
    (hhandles : List.Forall₂ session.IsHandleOf handles claims) (hmem : handle ∈ handles) :
    ∃ future ∈ claims, session.IsHandleOf handle future := by
  induction hhandles with
  | nil => exact absurd hmem List.not_mem_nil
  | cons hfirst _ ih =>
    rcases List.mem_cons.1 hmem with rfl | hrest
    · exact ⟨_, List.mem_cons_self, hfirst⟩
    · obtain ⟨future, hclaim, hhandle⟩ := ih hrest
      exact ⟨future, List.mem_cons_of_mem _ hclaim, hhandle⟩

/-- Handles show what has become of their futures. -/
theorem Session.futureStates_eq {handles : List Handle} {endings : List FutureState}
    (hhandles : List.Forall₂ session.IsHandleOf handles claims)
    (hended : claims.map session.heap.future? = endings.map fun ending ↦ some (.cell ending)) :
    handles.map session.futureState? = endings.map some := by
  induction hhandles generalizing endings with
  | nil =>
    rw [List.map_eq_nil_iff.1 hended.symm]
    rfl
  | cons hhandle _ ih =>
    cases endings with
    | nil => exact absurd hended (by simp)
    | cons ending rest =>
      obtain ⟨hstate, hrest⟩ := List.cons.inj hended
      rw [List.map_cons, List.map_cons, hhandle.futureState?_eq hstate, ih hrest]

/-- A party that has been told what its account says. The launches whose handles it has seen have
the futures `claims`. -/
structure Party.Standing (party : Party) (platform : Platform) (start session : Session)
    (seen : List (Command × Outcome)) (claims : List ObjectId) : Prop where
  given : seen.map (·.1) <+: party.commands
  told : seen.map (fun entry ↦ entry.1.verdict entry.2) =
    (party.account platform start seen.length).verdicts
  handles : List.Forall₂ session.IsHandleOf (seen.filterMap Stand.handle?) claims
  owes : session.Owes platform.routine party.territory party.id claims
    (party.account platform start seen.length).toBalance

namespace Party.Standing

theorem opened {ordered : HostQueue}
    (hqueue : start.queue party.queue = .ok (party.id, .host ordered))
    (hjobs : start.heap.jobsOf party.id = [])
    (hgate : start.host.gateOpen = party.territory.gateOpen) :
    party.Standing platform start start [] [] where
  given := List.nil_prefix
  told := rfl
  handles := .nil
  owes := by
    have hfound : start.heap.hostQueue? party.id = some ordered :=
      Heap.hostQueue?_eq_some.2 (Heap.queue?_eq_some.1 (lookup_eq_ok hqueue).2)
    rw [Heap.jobsOf, hfound] at hjobs
    have hfailure : start.heap.failureOf party.id = ordered.progress.failure := by
      rw [Heap.failureOf, hfound, Option.bind_some]
    have howes : start.Owes platform.routine party.territory party.id []
        ⟨start.host, ordered.progress.failure, []⟩ := Owes.start hfound hjobs hgate
    rw [← hfailure] at howes
    exact howes

/-- What leaves a party alone leaves it standing. -/
theorem leave (hstanding : party.Standing platform start session seen claims)
    (hnumbered : session.registry.Ordered)
    (hgate : session.host.gateOpen = party.territory.gateOpen) (hgrows : session.Grows after)
    (hleaves : Leaves party.territory party.id claims session after) :
    party.Standing platform start after seen claims where
  given := hstanding.given
  told := hstanding.told
  handles := hstanding.handles.imp fun _ _ hhandle ↦
    ⟨hhandle.1, hgrows.get? hnumbered hhandle.2⟩
  owes := hstanding.owes.leave hgate hleaves

/-- A standing is a matter of handles, heap and host state. -/
theorem congr (hstanding : party.Standing platform start session seen claims)
    (hheap : after.heap = session.heap) (hregistry : after.registry = session.registry)
    (hhost : after.host = session.host) (hgate : session.host.gateOpen = party.territory.gateOpen) :
    party.Standing platform start after seen claims where
  given := hstanding.given
  told := hstanding.told
  handles := by
    unfold Session.IsHandleOf
    rw [hregistry]
    exact hstanding.handles
  owes := hstanding.owes.leave hgate (.of_eq hheap hhost)

/-- A new future is none of the party's. -/
theorem place (hstanding : party.Standing platform start session seen claims)
    (hnumbered : session.registry.Ordered) (horder : session.heap.Ordered)
    (hgate : session.host.gateOpen = party.territory.gateOpen) (state : FutureState) :
    party.Standing platform start (session.place (.future (.cell state))).1 seen claims := by
  refine hstanding.leave hnumbered hgate (.place hnumbered _)
    ⟨hostQueue?_place horder state party.id, fun future hclaim ↦ ?_, .refl _ _⟩
  obtain ⟨found, hfound⟩ := hstanding.owes.future hclaim
  rw [hfound]
  exact future?_place horder state hfound

/-- The client has one more command and its outcome. -/
theorem concat (hstanding : party.Standing platform start session seen claims)
    (more : List ObjectId)
    (hnumbered : session.registry.Ordered) (hgrows : session.Grows after)
    (hnext : party.commands[seen.length]? = some command)
    (hverdict : command.verdict outcome = command.verdict (Account.act platform.routine
      (party.account platform start seen.length).toBalance
      (command.action platform start party.queue)).2)
    (hhandle : List.Forall₂ after.IsHandleOf (Stand.handle? (command, outcome)).toList more)
    (howes : after.Owes platform.routine party.territory party.id (claims ++ more)
      (Account.act platform.routine (party.account platform start seen.length).toBalance
        (command.action platform start party.queue)).1) :
    party.Standing platform start after (seen ++ [(command, outcome)]) (claims ++ more) where
  given := by
    rw [List.map_append, List.prefix_iff_eq_take.1 hstanding.given, List.length_map]
    have htake : party.commands.take (seen.length + 1) =
        party.commands.take seen.length ++ [command] := by
      rw [List.take_add_one, hnext]
      rfl
    rw [List.map_cons, List.map_nil, ← htake]
    exact List.take_prefix _ _
  told := by
    rw [List.length_append, List.length_singleton, Party.account_succ hnext, List.map_append,
      hstanding.told, List.map_cons, List.map_nil, hverdict]
    rfl
  handles := by
    have hold := hstanding.handles.imp (S := after.IsHandleOf)
      fun _ _ hhandle ↦ ⟨hhandle.1, hgrows.get? hnumbered hhandle.2⟩
    rw [List.filterMap_append]
    refine List.rel_append hold ?_
    cases hsome : Stand.handle? (command, outcome) <;> rw [hsome] at hhandle <;>
      simpa [hsome] using hhandle
  owes := by
    rw [List.length_append, List.length_singleton, Party.account_succ hnext]
    exact howes

/-- The client has the outcome of a command that is not a `sync` and submits nothing. -/
theorem noted (hstanding : party.Standing platform start session seen claims)
    (hnumbered : session.registry.Ordered)
    (hnext : party.commands[seen.length]? = some command) (hcommand : command ≠ .sync)
    (hnone : Stand.handle? (command, outcome) = none)
    (hact : ∀ balance, (Account.act platform.routine balance
        (command.action platform start party.queue)).1 = balance ∧
      outcome.isOk = (Account.act platform.routine balance
        (command.action platform start party.queue)).2.isOk) :
    party.Standing platform start session (seen ++ [(command, outcome)]) claims := by
  obtain ⟨hbalance, hok⟩ := hact (party.account platform start seen.length).toBalance
  have hmore : party.Standing platform start session (seen ++ [(command, outcome)])
      (claims ++ []) := hstanding.concat [] hnumbered (.refl hnumbered) hnext ?_ ?_ ?_
  · rwa [List.append_nil] at hmore
  · exact Command.verdict_eq (fun hsync ↦ absurd hsync hcommand) hok
  · rw [hnone]
    exact .nil
  · rw [hbalance, List.append_nil]
    exact hstanding.owes

/-- Once the jobs of a party have run, its futures and its territory are as its account says. -/
theorem paid (hstanding : party.Standing platform start session seen claims)
    (hjobs : session.heap.jobsOf party.id = []) :
    (seen.filterMap Stand.handle?).map session.futureState? =
        (party.account platform start seen.length).endings.map some ∧
      party.territory.Agree session.host (party.account platform start seen.length).host := by
  obtain ⟨hended, hhost⟩ := hstanding.owes.paid hjobs
  exact ⟨futureStates_eq hstanding.handles hended, hhost⟩

end Party.Standing

/-! ## What clients wait for -/

/-- What a client waits for that has given a command, by what the command asks for. -/
inductive Expects (session : Session) (id : ObjectId) (command : Command) :
    Action → Stage → Prop where
  | room {asked job : Job} (hcommand : command ≠ .sync)
    (hoperation : job.operation = asked.operation) (hwork : job.work = asked.work)
    (hsome : job.future.isSome = asked.future.isSome)
    (hpending : ∀ future, job.future = some future →
      session.heap.future? future = some (.cell .pending)) :
    Expects session id command (.submit asked) (.room id job)
  | drained (hcommand : command = .sync) : Expects session id command .drain (.drained id)

theorem Expects.queue {action : Action} (hexpects : Expects session id command action stage) :
    stage.queue = id := by
  cases hexpects <;> rfl

theorem Expects.pending {action : Action} (hexpects : Expects session id command action stage)
    (hlaunch : stage.launch? = some future) :
    session.heap.future? future = some (.cell .pending) := by
  cases hexpects with
  | room hcommand hoperation hwork hsome hpending => exact hpending future hlaunch
  | drained hcommand => exact absurd hlaunch (by simp)

/-- A client can go on waiting as long as its future stays pending. -/
theorem Expects.congr {action : Action} (hexpects : Expects session id command action stage)
    (hfutures : ∀ future, stage.launch? = some future → ∀ state,
      session.heap.future? future = some state → after.heap.future? future = some state) :
    Expects after id command action stage := by
  cases hexpects with
  | room hcommand hoperation hwork hsome hpending =>
    exact .room hcommand hoperation hwork hsome fun future hfuture ↦
      hfutures future hfuture _ (hpending future hfuture)
  | drained hcommand => exact .drained hcommand

/-- A launch is answered with a handle of its future. -/
theorem Session.handle_enlist (hpositive : 0 < session.registry.next) (id : ObjectId)
    (queue : HostQueue) (job : Job) (command : Command) :
    (session.enlist id queue job).2.isOk = true ∧
      List.Forall₂ (session.enlist id queue job).1.IsHandleOf
        (Stand.handle? (command, (session.enlist id queue job).2)).toList job.future.toList := by
  unfold Session.IsHandleOf
  rw [registry_enlist]
  unfold enlist deliver
  cases job.future with
  | none => exact ⟨rfl, .nil⟩
  | some future =>
    refine ⟨rfl, .cons ⟨Nat.ne_of_gt hpositive, ?_⟩ .nil⟩
    show Table.get? (session.registry.insert _).1 session.registry.next = _
    rw [Table.get?_insert, if_pos rfl]

/-- A client that waits goes on waiting, or comes to the end of its command as the account says. -/
theorem Party.Standing.pursue (hfits : party.Fits platform start)
    (hstanding : party.Standing platform start session seen claims) (hkept : session.Kept [stage])
    (hnameable : session.Nameable queues [stage]) (hmem : party.id ∈ queues)
    (hnames : session.registry.Names party.id)
    (hnext : party.commands[seen.length]? = some command)
    (hexpects : Expects session party.id command (command.action platform start party.queue) stage)
    (own : List ObjectId) :
    (session.advance? stage = none ∧
        session.pursue (.waits stage) = (session, .waits stage)) ∨
      ∃ after outcome, session.pursue (.waits stage) = (after, .ended outcome) ∧
        party.Standing platform start after (seen ++ [(command, outcome)])
          (claims ++ stage.launch?.toList) ∧
        Tends party.territory party.id own session after ∧ after.Nameable queues [] := by
  have hnumbered := hkept.rooted.numbered
  generalize haction : command.action platform start party.queue = action at hexpects
  cases hexpects with
  | @room asked job hcommand hoperation hwork hsome hpending =>
    refine (pursue_room hkept hnameable hmem hnames).imp_right ?_
    rintro ⟨queue, hqueue, -, hpursue⟩
    have hpositive : 0 < session.registry.next := by
      obtain ⟨slot, hslot, -⟩ := hnames
      obtain ⟨handle, hget⟩ := hnumbered.mem_values_iff.1 hslot
      exact Nat.zero_lt_of_lt (hnumbered.lt_next hget)
    obtain ⟨hok, hhandle⟩ := handle_enlist hpositive party.id queue job command
    have hasked := hfits.keepsTo (List.mem_of_getElem? hnext) haction
    refine ⟨_, _, hpursue,
      hstanding.concat _ hnumbered (.enlist hnumbered _ _ _) hnext ?_ hhandle ?_,
      .enlist hnumbered _ _, hnameable.enlist hqueue⟩
    · rw [haction]
      exact Command.verdict_eq (fun hsync ↦ absurd hsync hcommand) hok
    · rw [haction]
      show Owes _ _ _ _ _ (Balance.run _ _ asked)
      rw [← Balance.run_congr hoperation hwork hsome]
      exact hstanding.owes.enlist hqueue (hasked.congr hoperation hwork) hpending
  | drained hcommand =>
    refine (pursue_drained hkept hnameable hmem hnames).imp_right ?_
    rintro ⟨queue, hqueue, hidle, hpursue⟩
    have hjobs : queue.jobs = [] :=
      List.length_eq_zero_iff.1 ((hkept.rooted.sound.queues hqueue).pending ▸ hidle)
    obtain ⟨howes, hfailure⟩ := hstanding.owes.drain hqueue hjobs
    have htends : Tends party.territory party.id own session (session.drain party.id {}) :=
      .drain hnumbered
    refine ⟨_, _, hpursue, hstanding.concat [] hnumbered htends.grows hnext ?_ ?_ ?_, htends,
      hnameable.drain hqueue⟩
    · rw [haction, hfailure]
      rfl
    · cases queue.progress.failure <;> exact .nil
    · rw [haction, List.append_nil]
      exact howes

end Offload
