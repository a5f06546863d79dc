import Offload.Proofs.Queue.Standings

/-!
# How far a party has come

A party is between two commands, has one that is answered, or has one that waits. Its own turns take
it from one phase to the next, and they tend to its own queue alone. The turns of others leave it in
its phase.
-/

namespace Offload

open Session

variable {program : Program} {platform : Platform} {territory : Territory} {party : Party}
  {start session after : Session} {command : Command} {stand : Stand}
  {seen : List (Command × Outcome)} {claims own : List ObjectId} {stage : Stage}
  {id : ObjectId} {queues : List ObjectId} {ticket : Ticket}

/-- A session that has come about from another one by the use of some queues, between operations. -/
structure Session.Midway (queues : List ObjectId) (start session : Session) : Prop where
  settled : session.Settled
  nameable : session.Nameable queues []
  grows : start.Grows session
  tickets : start.nextTicket ≤ session.nextTicket
  unanswered : session.Unanswered start.nextTicket
  gate : session.host.gateOpen = start.host.gateOpen

/-- How far a party has come. `own` are the futures of its launches, with that of a launch that
still waits for room. -/
inductive Party.Phase (party : Party) (platform : Platform) (start session : Session)
    (stand : Stand) : List ObjectId → Prop
  /-- The client has no command to be answered. -/
  | idle {claims : List ObjectId} (hflight : stand.inFlight = none)
    (hstanding : party.Standing platform start session stand.seen claims) :
    party.Phase platform start session stand claims
  /-- The command has its outcome. -/
  | arrived {claims : List ObjectId} {command : Command} {ticket : Ticket} {answer : Answer}
    (hflight : stand.inFlight = some (command, ticket)) (hgiven : start.nextTicket ≤ ticket)
    (hanswer : session.answer? ticket = some answer)
    (hstanding : party.Standing platform start session
      (stand.seen ++ [(command, answer.outcome)]) claims) :
    party.Phase platform start session stand claims
  /-- The client waits. -/
  | waits {claims : List ObjectId} {command : Command} {client : Waiting}
    (hflight : stand.inFlight = some (command, client.ticket))
    (hgiven : start.nextTicket ≤ client.ticket)
    (hclient : client ∈ session.waiting) (hmanner : client.manner = .direct)
    (hnext : party.commands[stand.seen.length]? = some command)
    (hstanding : party.Standing platform start session stand.seen claims)
    (hexpects : Expects session party.id command
      (command.action platform start party.queue) client.stage) :
    party.Phase platform start session stand (claims ++ client.stage.launch?.toList)

/-- An answer is kept. -/
theorem Session.answer?_mono {answer : Answer} (hanswers : session.answers <+: after.answers)
    (hanswer : session.answer? ticket = some answer) : after.answer? ticket = some answer := by
  obtain ⟨more, hmore⟩ := hanswers
  unfold Session.answer? at hanswer ⊢
  obtain ⟨entry, hfind, rfl⟩ := Option.map_eq_some_iff.1 hanswer
  rw [← hmore, List.find?_append, hfind]
  rfl

/-- A client that has an answer does not wait. -/
theorem Session.Unanswered.ne_of_answer? {client : Waiting} {answer : Answer} {since : Ticket}
    (hunanswered : session.Unanswered since) (hclient : client ∈ session.waiting)
    (hlater : since ≤ client.ticket) (hanswer : session.answer? ticket = some answer) :
    client.ticket ≠ ticket := by
  unfold Session.answer? at hanswer
  obtain ⟨entry, hfind, -⟩ := Option.map_eq_some_iff.1 hanswer
  rintro rfl
  exact hunanswered client hclient hlater entry (List.mem_of_find?_eq_some hfind)
    (by simpa using List.find?_some hfind)

/-- A client that waits goes on waiting for the same. -/
theorem Session.Frame.exists_claim {client : Waiting} (hframe : Frame session after)
    (hclient : client ∈ session.waiting) : ∃ other ∈ after.waiting, claim other = claim client := by
  have hmem : claim client ∈ after.waiting.map claim :=
    hframe.claims ▸ List.mem_map_of_mem hclient
  exact List.mem_map.1 hmem

namespace Party.Phase

/-! ## What a phase tells -/

theorem standing (hphase : party.Phase platform start session stand own) :
    ∃ seen claims more, own = claims ++ more ∧
      party.Standing platform start session seen claims := by
  cases hphase with
  | idle hflight hstanding => exact ⟨_, _, [], (List.append_nil _).symm, hstanding⟩
  | arrived hflight hgiven hanswer hstanding =>
    exact ⟨_, _, [], (List.append_nil _).symm, hstanding⟩
  | waits hflight hgiven hclient hmanner hnext hstanding hexpects => exact ⟨_, _, _, rfl, hstanding⟩

/-- The futures of a party are there. -/
theorem cell (hphase : party.Phase platform start session stand own) {future : ObjectId}
    (hmem : future ∈ own) : ∃ state, session.heap.future? future = some (.cell state) := by
  cases hphase with
  | idle hflight hstanding => exact hstanding.owes.future hmem
  | arrived hflight hgiven hanswer hstanding => exact hstanding.owes.future hmem
  | waits hflight hgiven hclient hmanner hnext hstanding hexpects =>
    rcases List.mem_append.1 hmem with hold | hlaunch
    · exact hstanding.owes.future hold
    · exact ⟨.pending, hexpects.pending (Option.mem_toList.1 hlaunch)⟩

/-- The handles that a client has seen are those of its futures. -/
theorem handle (hphase : party.Phase platform start session stand own) {handle : Handle}
    (hmem : handle ∈ stand.handles) : ∃ future ∈ own, session.IsHandleOf handle future := by
  cases hphase with
  | idle hflight hstanding => exact exists_isHandleOf hstanding.handles hmem
  | arrived hflight hgiven hanswer hstanding =>
    refine exists_isHandleOf hstanding.handles ?_
    rw [List.filterMap_append]
    exact List.mem_append_left _ hmem
  | waits hflight hgiven hclient hmanner hnext hstanding hexpects =>
    obtain ⟨future, hclaim, hhandle⟩ := exists_isHandleOf hstanding.handles hmem
    exact ⟨future, List.mem_append_left _ hclaim, hhandle⟩

/-! ## Phases that stay -/

/-- What leaves a party standing, its answers and its waiting client leaves it in its phase. -/
theorem keep (hphase : party.Phase platform start session stand own)
    (hanswers : session.answers <+: after.answers)
    (hwaiting : ∀ client ∈ session.waiting, client.stage.queue = party.id →
      ∃ other ∈ after.waiting, claim other = claim client)
    (hkeeps : ∀ seen claims more, own = claims ++ more →
      party.Standing platform start session seen claims →
        party.Standing platform start after seen claims ∧ ∀ future ∈ more, ∀ state,
          session.heap.future? future = some state → after.heap.future? future = some state) :
    party.Phase platform start after stand own := by
  cases hphase with
  | idle hflight hstanding =>
    exact .idle hflight (hkeeps _ _ [] (List.append_nil _).symm hstanding).1
  | arrived hflight hgiven hanswer hstanding =>
    exact .arrived hflight hgiven (answer?_mono hanswers hanswer)
      (hkeeps _ _ [] (List.append_nil _).symm hstanding).1
  | waits hflight hgiven hclient hmanner hnext hstanding hexpects =>
    obtain ⟨hstands, hfutures⟩ := hkeeps _ _ _ rfl hstanding
    obtain ⟨other, hother, hclaim⟩ := hwaiting _ hclient hexpects.queue
    obtain ⟨hticket, hsame, hstage⟩ := claim_eq_iff.1 hclaim
    have hexpects := hexpects.congr fun future hlaunch ↦
      hfutures future (Option.mem_toList.2 hlaunch)
    rw [← hticket] at hflight hgiven
    rw [← hstage] at hexpects ⊢
    exact .waits hflight hgiven hother (hsame.trans hmanner) hnext hstands hexpects

/-- The turns of others leave a party in its phase. -/
theorem leave {others : List ObjectId} (hphase : party.Phase platform start session stand own)
    (hfits : party.Fits platform start) (hmidway : start.Midway queues session)
    (htends : Tends territory id others session after)
    (hqueue : party.id ≠ id) (hapart : territory.Apart party.territory)
    (hdisjoint : ∀ future ∈ own, future ∉ others) :
    party.Phase platform start after stand own := by
  refine hphase.keep htends.answers (fun client hclient hsame ↦
    htends.waiting client hclient (hsame ▸ hqueue)) ?_
  rintro seen claims more rfl hstanding
  refine ⟨hstanding.leave hmidway.settled.kept.rooted.numbered (hmidway.gate.trans hfits.gate)
    htends.grows ⟨htends.queues party.id hqueue, fun future hclaim ↦ ?_, htends.host.agree hapart⟩,
    fun future hmore ↦ htends.futures future (hdisjoint future (List.mem_append_right _ hmore))⟩
  obtain ⟨state, hstate⟩ := hstanding.owes.future hclaim
  rw [hstate]
  exact htends.futures future (hdisjoint future (List.mem_append_left _ hclaim)) _ hstate

/-! ## The worker -/

/-- The worker leaves a party in its phase, and tends to its queue. -/
theorem work (hphase : party.Phase platform start session stand own)
    (hfits : party.Fits platform start) (hstart : start.heap.Ordered)
    (hmidway : start.Midway queues session) (hamong : party.id ∈ queues) (hdistinct : own.Nodup)
    (hwork : session.work? platform party.id = some after) :
    party.Phase platform start after stand own ∧
      Tends party.territory party.id own session after ∧ after.Nameable queues [] := by
  have hkept := hmidway.settled.kept
  have hfiles : party.territory.files ⊆ session.heap.files := fun file hfile ↦
    hmidway.grows.files hstart hkept.rooted.ordered (hfits.files hfile)
  have hpays {seen : List (Command × Outcome)} {claims more : List ObjectId}
      (hown : own = claims ++ more)
      (hstanding : party.Standing platform start session seen claims) :=
    hstanding.owes.tends hmidway.settled hmidway.nameable hamong (hmidway.gate.trans hfits.gate)
      (hdistinct.sublist (hown ▸ List.sublist_append_left _ _)) hfiles hwork
  obtain ⟨seen, claims, more, hown, hstanding⟩ := hphase.standing
  obtain ⟨-, htends, hnameable⟩ := hpays hown hstanding
  refine ⟨?_, htends.mono (hown ▸ List.subset_append_left _ _), hnameable⟩
  refine hphase.keep htends.answers (fun client hclient _ ↦ (frame_work hwork).exists_claim hclient)
    fun seen claims more hown hstanding ↦ ?_
  obtain ⟨howes, htends, -⟩ := hpays hown hstanding
  refine ⟨⟨hstanding.given, hstanding.told, ?_, howes⟩, fun future hmore ↦ ?_⟩
  · exact hstanding.handles.imp fun _ _ hhandle ↦
      ⟨hhandle.1, htends.grows.get? hkept.rooted.numbered hhandle.2⟩
  · refine htends.futures future fun hclaim ↦ ?_
    rw [hown, List.nodup_append] at hdistinct
    exact hdistinct.2.2 future hclaim future hmore rfl

/-! ## The client -/

/-- An operation on the queue that comes to its end is answered, and one that does not waits. -/
theorem file (hfits : party.Fits platform start)
    (hstanding : party.Standing platform start session seen claims) (hkept : session.Kept [stage])
    (hnameable : session.Nameable queues [stage]) (hamong : party.id ∈ queues)
    (hnames : session.registry.Names party.id)
    (hgate : session.host.gateOpen = party.territory.gateOpen)
    (hnext : party.commands[seen.length]? = some command)
    (hexpects : Expects session party.id command (command.action platform start party.queue) stage)
    (hgiven : start.nextTicket ≤ ticket)
    (hunanswered : ∀ entry ∈ session.answers, entry.1 ≠ ticket) (own : List ObjectId)
    (program : Program) :
    let filed := (session.pursue (.waits stage)).1.file program ticket .direct
      (session.pursue (.waits stage)).2
    party.Phase platform start filed { inFlight := some (command, ticket), seen }
        (claims ++ stage.launch?.toList) ∧
      Tends party.territory party.id own session filed ∧ filed.Nameable queues [] ∧
      (session.advance? stage = none ∨ ∃ answer, filed.answer? ticket = some answer) := by
  have hnumbered := hkept.rooted.numbered
  have hframe := frame_pursue session (.waits stage)
  rcases hstanding.pursue hfits hkept hnameable hamong hnames hnext hexpects own with
    ⟨hnone, hpursue⟩ | ⟨after, outcome, hpursue, hstands, htends, hnamed⟩
  · rw [hpursue]
    have hwaits : (⟨ticket, .direct, stage, false⟩ : Waiting) ∈
        (session.withClient ⟨ticket, .direct, stage, false⟩).waiting :=
      List.mem_append_right _ List.mem_cons_self
    refine ⟨.waits ?_ hgiven hwaits rfl hnext (hstanding.congr rfl rfl rfl hgate)
      (hexpects.congr fun _ _ _ hstate ↦ hstate), .file hnumbered program ticket _, ?_, .inl hnone⟩
    · rfl
    refine hnameable.of_subset rfl (fun _ ↦ List.Subset.refl _) fun other hother ↦ ?_
    simpa [Session.file, stages, withClient, or_comm] using hother
  · have hsteady : session.Steady (.waits stage) := Session.Kept.steady hkept
    have hafter := hsteady.pursue
    rw [hpursue] at hframe hafter ⊢
    have hopen : after.host.gateOpen = party.territory.gateOpen := htends.host.gate.trans hgate
    have hanswered : (after.file program ticket .direct (.ended outcome)).answer? ticket =
        some ⟨outcome, []⟩ :=
      Errand.answer?_append _ fun entry hentry ↦ hunanswered entry (hframe.answers ▸ hentry)
    exact ⟨.arrived rfl hgiven hanswered (hstands.congr rfl rfl rfl hopen),
      htends.trans (.file hafter.rooted.numbered program ticket _),
      hnamed.of_subset rfl (fun _ ↦ List.Subset.refl _) (List.Subset.refl _), .inr ⟨_, hanswered⟩⟩

/-- A command that needs no job is answered at once. -/
theorem answered {outcome : Outcome} (hnumbered : session.registry.Ordered)
    (hnameable : session.Nameable queues [])
    (hgate : session.host.gateOpen = party.territory.gateOpen)
    (hstanding : party.Standing platform start session (seen ++ [(command, outcome)]) claims)
    (hgiven : start.nextTicket ≤ ticket)
    (hunanswered : ∀ entry ∈ session.answers, entry.1 ≠ ticket) (own : List ObjectId)
    (program : Program) :
    let filed := session.file program ticket .direct (.ended outcome)
    party.Phase platform start filed { inFlight := some (command, ticket), seen } claims ∧
      Tends party.territory party.id own session filed ∧ filed.Nameable queues [] :=
  ⟨.arrived rfl hgiven (Errand.answer?_append ⟨outcome, []⟩ hunanswered)
      (hstanding.congr rfl rfl rfl hgate), .file hnumbered program ticket _,
    hnameable.of_subset rfl (fun _ ↦ List.Subset.refl _) (List.Subset.refl _)⟩

/-- What a command meets is done: the client is answered, or waits. A launch gets a future that is
new. -/
theorem perform {decide : Deciding Decision} {outcome : Except Interruption Decision}
    (hfits : party.Fits program.toPlatform start) (hkept : session.Kept [])
    (hnameable : session.Nameable queues []) (hamong : party.id ∈ queues)
    (hnames : session.registry.Names party.id)
    (hgate : session.host.gateOpen = party.territory.gateOpen)
    (hstanding : party.Standing program.toPlatform start session seen own)
    (hnext : party.commands[seen.length]? = some command)
    (hgiven : start.nextTicket ≤ ticket)
    (hunanswered : ∀ entry ∈ session.answers, entry.1 ≠ ticket)
    (hrun : ∀ ambient, decide.run.run ambient = (outcome, ambient))
    (hsupported : decide.Ensures (Decision.Supported session.heap.get?))
    (hmeets : Command.Meets session party.id command
      (command.action program.toPlatform start party.queue) outcome) :
    let performed := session.perform decide
    let filed := performed.1.file program ticket .direct performed.2
    ∃ more, party.Phase program.toPlatform start filed
        { inFlight := some (command, ticket), seen } (own ++ more) ∧
      (more = [] ∨ more = [session.heap.next]) ∧
      Tends party.territory party.id own session filed ∧ filed.Nameable queues [] := by
  have hnumbered := hkept.rooted.numbered
  have hended (outcome : Outcome) (hcommand : command ≠ .sync)
      (hnone : Stand.handle? (command, outcome) = none)
      (hact : ∀ balance, (Account.act program.routine balance
          (command.action program.toPlatform start party.queue)).1 = balance ∧
        outcome.isOk = (Account.act program.routine balance
          (command.action program.toPlatform start party.queue)).2.isOk) :=
    answered hnumbered hnameable hgate
      (hstanding.noted hnumbered hnext hcommand hnone hact) hgiven hunanswered own program
  have hsteady {decision : Decision} (hdecided : outcome = .ok decision) :
      (session.commit decision).1.Steady (session.commit decision).2 :=
    hkept.commit (hsupported {} decision (by rw [hrun, hdecided]))
  have hown : own ++ [] = own := List.append_nil own
  rw [Session.perform_eq hrun]
  generalize haction : command.action program.toPlatform start party.queue = action at hmeets
  cases hmeets with
  | refuse hcommand earlier later =>
    obtain ⟨hphase, htends, hnamed⟩ := hended (.error later) hcommand rfl fun balance ↦ by
      rw [haction]
      exact ⟨rfl, rfl⟩
    exact ⟨[], hown.symm ▸ hphase, .inl rfl, htends, hnamed⟩
  | answer hcommand =>
    obtain ⟨hphase, htends, hnamed⟩ := hended (.ok .nothing) hcommand rfl fun balance ↦ by
      rw [haction]
      exact ⟨rfl, rfl⟩
    have hcollect : (session.commit (.answer .nothing)).1.pursue
        (session.commit (.answer .nothing)).2 = (session, .ended (.ok .nothing)) :=
      congrArg (·, Progressed.ended (.ok .nothing)) hkept.collect_eq_self
    simp only [hcollect]
    exact ⟨[], hown.symm ▸ hphase, .inl rfl, htends, hnamed⟩
  | @submit hcommand job hfuture hheld =>
    have hcommitted := hsteady rfl
    have hroom : session.Nameable queues [.room party.id job] := by
      refine hnameable.demand fun other hother ↦ ?_
      rw [Stage.references, Job.references, hfuture] at hother
      rcases List.mem_cons.1 hother with rfl | hother
      · exact hnames
      · exact hheld other hother
    obtain ⟨hphase, htends, hnamed, -⟩ := file hfits hstanding
      ⟨hcommitted.sound, hcommitted.tidy _ rfl⟩ hroom hamong hnames hgate hnext
      (haction ▸ .room hcommand rfl rfl rfl fun future hsome ↦ absurd hsome (by simp [hfuture]))
      hgiven hunanswered own program
    exact ⟨_, hphase, .inl (by simp [hfuture]), htends, hnamed⟩
  | @launch hcommand job future hheld =>
    have hcommitted := hsteady rfl
    have horder : session.heap.Ordered := hkept.rooted.ordered
    have hplacing : Tends party.territory party.id own session
        (session.place (.future (.cell .pending))).1 := .place hnumbered horder .pending
    have hroom : (session.place (.future (.cell .pending))).1.Nameable queues
        [.room party.id { job with future := some session.heap.next }] := by
      refine hnameable.launch horder fun held hmem ↦ ?_
      rcases List.mem_cons.1 hmem with rfl | hmem
      · exact hnames
      · exact hheld held hmem
    have hpending : ∀ other, some session.heap.next = some other →
        (session.place (.future (.cell .pending))).1.heap.future? other =
          some (.cell .pending) := by
      rintro other ⟨⟩
      show Heap.future? (session.heap.insert _).1 session.heap.next = _
      rw [Heap.future?_insert, if_pos rfl]
    obtain ⟨hphase, htends, hnamed, -⟩ := file hfits
      (hstanding.place hnumbered horder hgate .pending)
      ⟨hcommitted.sound, hcommitted.tidy _ rfl⟩ hroom hamong hnames hgate hnext
      (haction ▸ .room hcommand rfl rfl rfl hpending) hgiven hunanswered own program
    exact ⟨_, hphase, .inr rfl, hplacing.trans htends, hnamed⟩
  | drain hcommand =>
    have hcommitted := hsteady rfl
    have hdrained : session.Nameable queues [.drained party.id] := by
      refine hnameable.demand fun other hother ↦ ?_
      rw [List.mem_singleton.1 hother]
      exact hnames
    obtain ⟨hphase, htends, hnamed, -⟩ := file hfits hstanding
      ⟨hcommitted.sound, hcommitted.tidy _ rfl⟩ hdrained hamong hnames hgate hnext
      (haction ▸ .drained hcommand) hgiven hunanswered own program
    exact ⟨_, hphase, .inl rfl, htends, hnamed⟩

/-- A command that is started is answered, or waits. A launch gets a future that is new. -/
theorem startRequest (hphase : party.Phase program.toPlatform start session stand own)
    (hfits : party.Fits program.toPlatform start) (hstart : start.Settled)
    (hmidway : start.Midway queues session) (hamong : party.id ∈ queues)
    (hflight : stand.inFlight = none)
    (hnext : party.commands[stand.seen.length]? = some command) :
    let started := session.startRequest program (command.request party.queue)
    ∃ more, party.Phase program.toPlatform start started.1
        { stand with inFlight := some (command, started.2) } (own ++ more) ∧
      (more = [] ∨ more = [session.heap.next]) ∧
      Tends party.territory party.id own session started.1 ∧ started.1.Nameable queues [] := by
  have hkept := hmidway.settled.kept
  have hnumbered := hkept.rooted.numbered
  obtain ⟨htaken, -, -⟩ := kept_takeTicket hkept hmidway.settled.ticketed
  have hstanding : party.Standing program.toPlatform start session.takeTicket.1 stand.seen own := by
    cases hphase with
    | idle _ hstanding => exact hstanding.congr rfl rfl rfl (hmidway.gate.trans hfits.gate)
    | arrived hsome => exact absurd (hflight.symm.trans hsome) (by simp)
    | waits hsome => exact absurd (hflight.symm.trans hsome) (by simp)
  have hgrows : start.Grows session.takeTicket.1 :=
    hmidway.grows.trans (.of_alike hnumbered rfl (.refl _))
  obtain ⟨ordered, hqueue⟩ := hfits.queue
  obtain ⟨outcome, hrun, hmeets⟩ := Command.meets hgrows hstart.kept.rooted hqueue
    program.toPlatform htaken.toSound (hfits.ne_release (List.mem_of_getElem? hnext))
  obtain ⟨more, hfiled, hmore, htends, hnameable⟩ := perform hfits htaken
    (hmidway.nameable.of_subset rfl (fun _ ↦ List.Subset.refl _) (List.Subset.refl _)) hamong
    (hfits.names hstart.kept.rooted.numbered hgrows) (hmidway.gate.trans hfits.gate) hstanding
    hnext hmidway.tickets
    (fun entry hentry ↦ Nat.ne_of_lt (hmidway.settled.ticketed.answered entry hentry)) hrun
    (Request.ensures_decide htaken.toSound (command.request party.queue)) hmeets
  exact ⟨more, hfiled, hmore, (Tends.takeTicket hnumbered).trans htends, hnameable⟩

/-- A client that looks again is answered, or waits on because its queue has jobs. -/
theorem resume {client : Waiting}
    (hphase : party.Phase program.toPlatform start session stand own)
    (hfits : party.Fits program.toPlatform start) (hstart : start.Settled)
    (hmidway : start.Midway queues session) (hamong : party.id ∈ queues)
    (hflight : stand.inFlight = some (command, client.ticket))
    (hclient : client ∈ session.waiting)
    (hresume : session.resume? program client = some after) :
    party.Phase program.toPlatform start after stand own ∧
      Tends party.territory party.id own session after ∧ after.Nameable queues [] ∧
      client.manner = .direct ∧ start.nextTicket ≤ client.ticket ∧
      (session.heap.jobsOf party.id ≠ [] ∨
        ∃ answer, after.answer? client.ticket = some answer) := by
  have hsettled := hmidway.settled
  have hnumbered := hsettled.kept.rooted.numbered
  obtain ⟨inFlight, seen⟩ := stand
  obtain rfl : inFlight = some (command, client.ticket) := hflight
  cases hphase with
  | idle hnone => exact absurd hnone (by simp)
  | arrived hsome hgiven hanswer =>
    obtain ⟨-, rfl⟩ := Prod.mk.inj (Option.some.inj hsome)
    exact absurd rfl (hmidway.unanswered.ne_of_answer? hclient hgiven hanswer)
  | @waits claims _ other hsome hgiven hother hmanner hnext hstanding hexpects =>
    obtain ⟨rfl, hticket⟩ := Prod.mk.inj (Option.some.inj hsome)
    obtain rfl := List.inj_on_of_nodup_map hsettled.ticketed.distinct hclient hother hticket
    obtain ⟨hkept, -, -⟩ := kept_withoutClient hsettled hclient
    have hbusy (hnone : (session.withoutClient client.ticket).advance? client.stage = none) :
        session.heap.jobsOf party.id ≠ [] := by
      have hjobs := jobsOf_ne_nil_of_advance?_eq_none hkept.toSound hnone
      rw [hexpects.queue] at hjobs
      exact hjobs
    rcases resume?_cases hresume with ⟨hnone, rfl⟩ | ⟨moved, progressed, hpursue, rfl⟩
    · have hframe := frame_putToSleep session client.ticket
      refine ⟨?_, .putToSleep hnumbered _, ?_, hmanner, hgiven, .inl (hbusy hnone)⟩
      · have hphase := waits hsome hgiven hclient hmanner hnext hstanding hexpects
        exact hphase.keep (List.prefix_refl _) (fun _ hmem _ ↦ hframe.exists_claim hmem)
          fun _ _ _ _ hstanding ↦ ⟨hstanding.congr rfl rfl rfl (hmidway.gate.trans hfits.gate),
            fun _ _ _ hstate ↦ hstate⟩
      · refine hmidway.nameable.of_subset rfl (fun _ ↦ List.Subset.refl _) ?_
        rw [hframe.stages]
        exact List.Subset.refl _
    · have hopened : party.Standing program.toPlatform start
          (session.withoutClient client.ticket) seen claims :=
        hstanding.congr rfl rfl rfl (hmidway.gate.trans hfits.gate)
      have hnameable : (session.withoutClient client.ticket).Nameable queues [client.stage] := by
        refine hmidway.nameable.of_subset rfl (fun _ ↦ List.Subset.refl _) fun stage hstage ↦ ?_
        rcases List.mem_cons.1 hstage with rfl | hwaiting
        · exact List.mem_map_of_mem hclient
        · obtain ⟨left, hleft, rfl⟩ := List.mem_map.1 hwaiting
          exact List.mem_map_of_mem (List.mem_filter.1 hleft).1
      have hnames : session.registry.Names party.id :=
        hfits.names hstart.kept.rooted.numbered hmidway.grows
      have hfiled := file hfits hopened hkept hnameable hamong hnames
        (hmidway.gate.trans hfits.gate) hnext (hexpects.congr fun _ _ _ hstate ↦ hstate)
        hgiven (hmidway.unanswered client hclient hgiven)
        (claims ++ client.stage.launch?.toList) program
      simp only [hpursue] at hfiled
      obtain ⟨hphase, htends, hnamed, hanswered⟩ := hfiled
      rw [hmanner]
      exact ⟨hphase, (Tends.withoutClient hsettled hclient hexpects.queue).trans htends, hnamed,
        rfl, hgiven, hanswered.imp_left hbusy⟩

/-- A client that has seen the outcome of its command has no other one. -/
theorem see {answer : Answer} (hphase : party.Phase platform start session stand own)
    (hunanswered : session.Unanswered start.nextTicket)
    (hflight : stand.inFlight = some (command, ticket))
    (hanswer : session.answer? ticket = some answer) :
    party.Phase platform start session { seen := stand.seen ++ [(command, answer.outcome)] }
      own := by
  cases hphase with
  | idle hnone => exact absurd (hnone.symm.trans hflight) (by simp)
  | arrived hsome hgiven hfound hstanding =>
    obtain ⟨rfl, rfl⟩ := Prod.mk.inj (Option.some.inj (hsome.symm.trans hflight))
    obtain rfl := Option.some.inj (hfound.symm.trans hanswer)
    exact .idle rfl hstanding
  | waits hsome hgiven hclient =>
    obtain ⟨-, rfl⟩ := Prod.mk.inj (Option.some.inj (hsome.symm.trans hflight))
    exact absurd rfl (hunanswered.ne_of_answer? hclient hgiven hanswer)

end Party.Phase

end Offload
