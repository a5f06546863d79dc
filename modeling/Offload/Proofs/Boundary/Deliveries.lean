import Offload.Proofs.Boundary.Telling

/-!
# What becomes of failures

A call that has been entered is in its body, or its body has ended. When it ends with a reply, the
call returns it and nobody is told anything. When it is interrupted, whoever is in the slot at that
moment is told of it at once and once, and then the call returns its sentinel, unless the handler has
brought the process to its end. Whatever a handler does in between, another handler it installs and
failures of its own calls included, belongs to other calls.
-/

namespace Offload

variable {start : Option Handler} {log more before after : List Moment} {id : Nat}
  {client : Option Ticket} {call : Call} {outcome : Outcome} {last : List Moment}
  {stopped later : Prop}

/-! ## The course of a call -/

/-- The body of a call has ended with an outcome, whoever was in the slot has been told of it at
once, and since then the call has had the moments `last`. -/
def Crossed (start : Option Handler) (log : List Moment) (id : Nat) (client : Option Ticket)
    (call : Call) (outcome : Outcome) (last : List Moment) : Prop :=
  ∃ before after,
    log = before ++ .ended id outcome :: (delivery id (slotAfter start before) outcome ++ after) ∧
      momentsOf id before = [.entered id client call] ∧ momentsOf id after = last

theorem Crossed.append (hcrossed : Crossed start log id client call outcome last)
    (hmore : momentsOf id more = []) :
    Crossed start (log ++ more) id client call outcome last := by
  obtain ⟨before, after, rfl, hbefore, hafter⟩ := hcrossed
  exact ⟨before, after ++ more, by simp, hbefore, by rw [momentsOf_append, hafter, hmore]; simp⟩

/-- All moments of a call whose body has ended. -/
theorem Crossed.moments (hcrossed : Crossed start log id client call outcome last) :
    ∃ slot, momentsOf id log =
      .entered id client call :: .ended id outcome :: (delivery id slot outcome ++ last) := by
  obtain ⟨before, after, rfl, hbefore, hafter⟩ := hcrossed
  exact ⟨slotAfter start before, by simp [hbefore, hafter, Moment.call?]⟩

theorem Crossed.returned {reply : Reply} (hcrossed : Crossed start log id client call outcome last)
    (hreturned : .returned id reply ∈ log) : .returned id reply ∈ last := by
  obtain ⟨slot, hmoments⟩ := hcrossed.moments
  have hmem : Moment.returned id reply ∈ momentsOf id log :=
    List.mem_filter.2 ⟨hreturned, by simp [Moment.call?]⟩
  rw [hmoments] at hmem
  rcases outcome with interruption | answer
  · cases slot <;> simpa [delivery, invocation] using hmem
  · simpa [delivery] using hmem

/-- What the body of a call may end with: asking for the time of no future gives an unknown time and
is no failure. -/
def Call.Admits (call : Call) (outcome : Outcome) : Prop :=
  call = .futureTime 0 → outcome = .ok (.elapsed none)

/-- Where a call stands that nobody is about to take further: in its body, over, or cut off by the
end of the process. A call inside a handler stays in its body only when the process has stopped. -/
inductive Standing (start : Option Handler) (stopped : Prop) (log : List Moment) (id : Nat)
    (client : Option Ticket) (call : Call) : Prop where
  | body (hcall : call ≠ .futureTime 0) (hclient : client = none → stopped)
    (hmoments : momentsOf id log = [.entered id client call])
  | past {outcome : Outcome} (hadmits : call.Admits outcome)
    (hcrossed : Crossed start log id client call outcome [.returned id (call.reply outcome)])
  | cut {interruption : Interruption} (hstopped : stopped) (hcall : call ≠ .futureTime 0)
    (hcrossed : Crossed start log id client call (.error interruption) [])

theorem Standing.append (hstanding : Standing start stopped log id client call)
    (hmore : momentsOf id more = []) (hlater : stopped → later) :
    Standing start later (log ++ more) id client call := by
  cases hstanding with
  | body hcall hclient hmoments =>
    exact .body hcall (fun hnone ↦ hlater (hclient hnone))
      (by rw [momentsOf_append, hmoments, hmore]; simp)
  | past hadmits hcrossed => exact .past hadmits (hcrossed.append hmore)
  | cut hstopped hcall hcrossed => exact .cut (hlater hstopped) hcall (hcrossed.append hmore)

/-- A log goes on: what follows is about calls that are entered from then on, or about the call
`own`, and no client enters a call. -/
def Grows (own : Option Nat) (before after : List Moment) : Prop :=
  ∃ more, after = before ++ more ∧ ∀ moment ∈ more,
    (∀ id, moment.call? = some id → before.length ≤ id ∨ own = some id) ∧ moment.ticket? = none

namespace Grows

variable {own : Option Nat}

theorem refl (own : Option Nat) (log : List Moment) : Grows own log log := ⟨[], by simp, by simp⟩

theorem push {more : List Moment}
    (hmore : ∀ moment ∈ more, (∀ id, moment.call? = some id → log.length ≤ id ∨ own = some id) ∧
      moment.ticket? = none) : Grows own log (log ++ more) :=
  ⟨more, rfl, hmore⟩

theorem tell {moment : Moment} (hown : moment.call? = own) (hticket : moment.ticket? = none) :
    Grows own log (log ++ [moment]) := by
  refine push fun other hother ↦ ?_
  obtain rfl := List.mem_singleton.1 hother
  exact ⟨fun id hid ↦ .inr (hown ▸ hid), hticket⟩

/-- Calls that are entered in between may go on as well. -/
theorem trans {also : Option Nat} (hfirst : Grows own before after) (hsecond : Grows also after last)
    (halso : ∀ id, also = some id → before.length ≤ id ∨ own = some id) : Grows own before last := by
  obtain ⟨more, rfl, hmore⟩ := hfirst
  obtain ⟨rest, rfl, hrest⟩ := hsecond
  refine ⟨more ++ rest, by simp, fun moment hmoment ↦ ?_⟩
  rcases List.mem_append.1 hmoment with hin | hin
  · exact hmore moment hin
  · refine ⟨fun id hid ↦ ?_, (hrest moment hin).2⟩
    rcases (hrest moment hin).1 id hid with hlater | hsame
    · rw [List.length_append] at hlater
      exact .inl (Nat.le_trans (Nat.le_add_right _ _) hlater)
    · exact halso id hsame

theorem mem {moment : Moment} (hgrows : Grows own before after) (hmoment : moment ∈ before) :
    moment ∈ after := by
  obtain ⟨more, rfl, -⟩ := hgrows
  exact List.mem_append_left _ hmoment

/-- Calls told of before have no new moment. -/
theorem rest (hgrows : Grows own before after) (hid : id < before.length) (hown : own ≠ some id) :
    ∃ more, after = before ++ more ∧ momentsOf id more = [] := by
  obtain ⟨more, hlog, hmore⟩ := hgrows
  refine ⟨more, hlog, momentsOf_eq_nil fun moment hmoment hcall ↦ ?_⟩
  rcases (hmore moment hmoment).1 id hcall with hlater | hsame
  · exact absurd hid (Nat.not_lt.2 hlater)
  · exact hown hsame

end Grows

/-! ## Laws of the boundary -/

/-- What holds of a recorded session at every moment. The calls in `opened` are between the moments
at which they are entered and at which they return. -/
structure Lawful (start : Option Handler) (opened : Nat → Prop) (recorded : Recorded) : Prop where
  slot : recorded.session.handler = slotAfter start recorded.log
  within : ∀ moment ∈ recorded.log, ∀ id, moment.call? = some id → id < recorded.log.length
  numbered : ∀ id client call, .entered id client call ∈ recorded.log →
    recorded.log[id]? = some (.entered id client call)
  standing : ∀ id client call, .entered id client call ∈ recorded.log →
    opened id ∨ Standing start (recorded.session.exit ≠ none) recorded.log id client call
  heard : ∀ note, .noted note ∈ recorded.log →
    ∃ id, .invoked id (.named note.handler) note.kind note.message ∈ recorded.log
  final : ∀ id kind message, .invoked id .standard kind message ∈ recorded.log →
    recorded.log.getLast? = some (.invoked id .standard kind message) ∧
      recorded.session.exit = some (.terminated Session.failureStatus
        s!"HCRT Error ({kind.name}): {message}")

/-- A moment that may come next: a call is entered under the next number, or it is about an open call
or about none. The standard handler brings the process to its end. -/
def Moment.Next (opened : Nat → Prop) (log : List Moment) (exit : Option Exit) : Moment → Prop
  | .entered id _ _ => opened id ∧ id = log.length
  | .ended id _ | .returned id _ => opened id ∧ id < log.length
  | .invoked id handler kind message =>
    (∀ call, id = some call → opened call ∧ call < log.length) ∧
      (handler = .standard → exit = some (.terminated Session.failureStatus
        s!"HCRT Error ({kind.name}): {message}"))
  | .installed _ => True
  | .noted note => ∃ id, .invoked id (.named note.handler) note.kind note.message ∈ log

theorem Moment.Next.opened {opened : Nat → Prop} {exit : Option Exit} {moment : Moment}
    (hnext : moment.Next opened log exit) (hcall : moment.call? = some id) :
    opened id ∧ id < (log ++ [moment]).length := by
  rw [List.length_append, List.length_singleton]
  cases moment with
  | entered call =>
    obtain rfl := Option.some.inj hcall
    exact ⟨hnext.1, Nat.lt_succ_of_le (Nat.le_of_eq hnext.2)⟩
  | ended call | returned call =>
    obtain rfl := Option.some.inj hcall
    exact ⟨hnext.1, Nat.lt_succ_of_lt hnext.2⟩
  | invoked call handler kind message =>
    exact ⟨(hnext.1 id hcall).1, Nat.lt_succ_of_lt (hnext.1 id hcall).2⟩
  | installed handler => exact absurd hcall (by simp [Moment.call?])
  | noted note => exact absurd hcall (by simp [Moment.call?])

namespace Lawful

variable {opened also : Nat → Prop} {recorded next : Recorded} {moment : Moment}

theorem not_standard (hlawful : Lawful start opened recorded)
    (hrunning : recorded.session.exit = none) (id : Option Nat) (kind : FailureKind)
    (message : String) : .invoked id .standard kind message ∉ recorded.log := by
  intro hmem
  have hexit := (hlawful.final id kind message hmem).2
  rw [hrunning] at hexit
  exact absurd hexit (by simp)

/-- The laws hold on when a moment follows that may. -/
theorem push (hlawful : Lawful start opened recorded) (hrunning : recorded.session.exit = none)
    (hopened : ∀ id, opened id → also id)
    (hnext : moment.Next also recorded.log next.session.exit)
    (hlog : next.log = recorded.log ++ [moment])
    (hslot : next.session.handler = moment.slot recorded.session.handler) :
    Lawful start also next where
  slot := by
    rw [hslot, hlog, slotAfter_append, hlawful.slot]
    rfl
  within := by
    intro other hother id hcall
    rw [hlog] at hother ⊢
    rcases List.mem_append.1 hother with hold | hnew
    · rw [List.length_append]
      exact Nat.lt_add_right _ (hlawful.within other hold id hcall)
    · obtain rfl := List.mem_singleton.1 hnew
      exact (hnext.opened hcall).2
  numbered := by
    intro id client call hentered
    rw [hlog] at hentered ⊢
    rcases List.mem_append.1 hentered with hold | hnew
    · rw [List.getElem?_append_left (hlawful.within _ hold id rfl)]
      exact hlawful.numbered id client call hold
    · obtain rfl := List.mem_singleton.1 hnew
      obtain rfl : id = recorded.log.length := hnext.2
      exact List.getElem?_concat_length
  standing := by
    intro id client call hentered
    by_cases hid : also id
    · exact .inl hid
    have hnone : momentsOf id [moment] = [] := momentsOf_eq_nil fun other hother hcall ↦
      hid (hnext.opened (List.mem_singleton.1 hother ▸ hcall)).1
    rw [hlog] at hentered ⊢
    rcases List.mem_append.1 hentered with hold | hnew
    · exact (hlawful.standing id client call hold).imp (hopened id) fun hstanding ↦
        hstanding.append hnone fun hstopped ↦ absurd hrunning hstopped
    · obtain rfl := List.mem_singleton.1 hnew
      exact .inl hnext.1
  heard := by
    intro note hnote
    rw [hlog] at hnote ⊢
    obtain ⟨id, hinvoked⟩ : ∃ id, .invoked id (.named note.handler) note.kind note.message ∈
        recorded.log := by
      rcases List.mem_append.1 hnote with hold | hnew
      · exact hlawful.heard note hold
      · obtain rfl := List.mem_singleton.1 hnew
        exact hnext
    exact ⟨id, List.mem_append_left _ hinvoked⟩
  final := by
    intro id kind message hinvoked
    rw [hlog] at hinvoked ⊢
    rcases List.mem_append.1 hinvoked with hold | hnew
    · exact absurd hold (hlawful.not_standard hrunning id kind message)
    · obtain rfl := List.mem_singleton.1 hnew
      exact ⟨List.getLast?_concat, hnext.2 rfl⟩

/-- The same where the moment changes nothing but the log. -/
theorem tell (hlawful : Lawful start opened recorded) (hrunning : recorded.session.exit = none)
    (moment : Moment) (hnext : moment.Next opened recorded.log recorded.session.exit)
    (hslot : recorded.session.handler = moment.slot recorded.session.handler) :
    Lawful start opened (recorded.tell [moment]) :=
  hlawful.push hrunning (fun _ hid ↦ hid) hnext rfl hslot

/-- The process may come to an end. -/
theorem stop (hlawful : Lawful start opened recorded) (hrunning : recorded.session.exit = none)
    (exit : Exit) : Lawful start opened (recorded.stop exit) where
  slot := hlawful.slot
  within := hlawful.within
  numbered := hlawful.numbered
  standing := by
    intro id client call hentered
    have hnone : momentsOf id [] = [] := rfl
    refine (hlawful.standing id client call hentered).imp_right fun hstanding ↦ ?_
    have hlater : Standing start ((recorded.stop exit).session.exit ≠ none) (recorded.log ++ []) id
        client call := hstanding.append hnone fun hstopped ↦ absurd hrunning hstopped
    rwa [List.append_nil] at hlater
  heard := hlawful.heard
  final := fun id kind message hinvoked ↦
    absurd hinvoked (hlawful.not_standard hrunning id kind message)

/-- The laws look at the log, the slot and the end of the process. -/
theorem congr (hlawful : Lawful start opened recorded) (hlog : next.log = recorded.log)
    (hslot : next.session.handler = recorded.session.handler)
    (hexit : next.session.exit = recorded.session.exit) : Lawful start opened next where
  slot := by rw [hslot, hlog, hlawful.slot]
  within := by rw [hlog]; exact hlawful.within
  numbered := by rw [hlog]; exact hlawful.numbered
  standing := by rw [hlog, hexit]; exact hlawful.standing
  heard := by rw [hlog]; exact hlawful.heard
  final := by rw [hlog, hexit]; exact hlawful.final

/-- The body of a call installs what it installs. -/
theorem installs {call : Call} (hlawful : Lawful start opened recorded)
    (hrunning : recorded.session.exit = none)
    (hlog : next.log = recorded.log ++ call.installs)
    (hslot : next.session.handler = call.slot recorded.session.handler)
    (hexit : next.session.exit = none) : Lawful start opened next := by
  by_cases hcall : ∃ handler, call = .setHandler handler
  · obtain ⟨handler, rfl⟩ := hcall
    have hnext : (Moment.installed handler).Next opened recorded.log next.session.exit := trivial
    exact hlawful.push hrunning (fun _ ↦ id) hnext hlog hslot
  · have hnone : call.installs = [] := Call.installs_eq_nil (not_exists.1 hcall)
    rw [hnone, List.append_nil] at hlog
    rw [Call.slot_eq (not_exists.1 hcall)] at hslot
    exact hlawful.congr hlog hslot (hexit.trans hrunning.symm)

/-- A call that is entered is open, and it has had no other moment. -/
theorem enter {call : Call} {after : Session} (hlawful : Lawful start opened recorded)
    (hrunning : recorded.session.exit = none) (client : Option Ticket)
    (hslot : after.handler = call.slot recorded.session.handler) (hexit : after.exit = none) :
    Lawful start (fun other ↦ other = recorded.log.length ∨ opened other)
        (recorded.onEnter after client call) ∧
      momentsOf recorded.log.length (recorded.onEnter after client call).log =
        [.entered recorded.log.length client call] := by
  have hentered : Lawful start (fun other ↦ other = recorded.log.length ∨ opened other)
      (recorded.tell [.entered recorded.log.length client call]) :=
    hlawful.push hrunning (fun _ ↦ .inr)
      (show Moment.Next _ _ _ (.entered recorded.log.length client call) from ⟨.inl rfl, rfl⟩) rfl rfl
  have hinstalled : (recorded.onEnter after client call).log =
      (recorded.tell [.entered recorded.log.length client call]).log ++ call.installs := by
    simp [Recorded.onEnter, Recorded.tell]
  refine ⟨hentered.installs hrunning hinstalled hslot hexit, ?_⟩
  have hnone : momentsOf recorded.log.length recorded.log = [] :=
    momentsOf_eq_nil fun moment hmoment hcall ↦
      Nat.lt_irrefl _ (hlawful.within moment hmoment _ hcall)
  simp [Recorded.onEnter, hnone, Moment.call?, momentsOf_installs]

end Lawful

/-! ## Crossing the boundary -/

namespace Recorded

variable {deliver : Recorded → Option Nat → FailureKind → String → Recorded}
  {opened : Nat → Prop} {recorded : Recorded} {program : Program} {after : Session}

/-- What crossing the boundary comes to: the laws hold on, the log goes on with moments of the call and
of later ones, and the call returns last unless the process has come to its end. -/
structure Passes (start : Option Handler) (opened : Nat → Prop) (recorded : Recorded) (id : Nat)
    (call : Call) (outcome : Outcome) (crossed : Recorded) : Prop where
  lawful : Lawful start opened crossed
  grows : Grows (some id) recorded.log crossed.log
  ended : .ended id outcome ∈ crossed.log
  returns : ∀ reply, .returned id reply ∈ crossed.log → reply = call.reply outcome ∧
    ∃ told, crossed.log = recorded.log ++ .ended id outcome :: (told ++ [.returned id reply])

theorem Passes.left {crossed : Recorded}
    (hpasses : Passes start opened recorded id call outcome crossed) (client : Option Ticket)
    (called : Call) : momentsOf id crossed.log ≠ [.entered id client called] := by
  intro hbody
  have hmem : Moment.ended id outcome ∈ momentsOf id crossed.log :=
    List.mem_filter.2 ⟨hpasses.ended, by simp [Moment.call?]⟩
  rw [hbody] at hmem
  exact absurd hmem (by simp)

end Recorded

end Offload
