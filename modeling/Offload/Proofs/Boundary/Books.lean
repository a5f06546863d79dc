import Offload.Proofs.Boundary.Deliveries

/-!
# Calls and tickets

Clients enter calls under tickets of their own and may wait in them; meanwhile other clients go on, and
so may handlers. A call keeps its number through all of this. As long as it is in its body its client
waits, and when it has returned its client has been answered.
-/

namespace Offload

open Session

variable {program : Program} {platform : Platform} {start : Option Handler} {own : Option Nat}
  {id : Nat} {call : Call}

namespace Session

variable {session before after last : Session}

/-! ## Who waits meanwhile -/

/-- The tickets of the clients that wait, each with how its operation reaches it. -/
def badges (session : Session) : List (Ticket × Manner) :=
  session.waiting.map fun client ↦ (client.ticket, client.manner)

/-- Neither the answers nor the clients that wait change, except that operations of handlers may have
come to wait. -/
structure Guests (before after : Session) : Prop where
  answers : after.answers = before.answers
  waiting : ∀ badge ∈ after.badges, badge ∈ before.badges ∨ badge.2 = .direct
  kept : ∀ badge ∈ before.badges, badge ∈ after.badges

theorem Frame.badges (hframe : Frame before after) : after.badges = before.badges := by
  have hclaims := congrArg (List.map fun claim ↦ (claim.1, claim.2.1)) hframe.claims
  simpa [Session.badges, List.map_map, Function.comp_def, claim] using hclaims

theorem Guests.trans (hfirst : Guests before after) (hsecond : Guests after last) :
    Guests before last where
  answers := hsecond.answers.trans hfirst.answers
  waiting := fun badge hbadge ↦
    (hsecond.waiting badge hbadge).elim (hfirst.waiting badge) .inr
  kept := fun badge hbadge ↦ hsecond.kept badge (hfirst.kept badge hbadge)

theorem mem_badges_withoutClient {ticket : Ticket} {badge : Ticket × Manner} :
    badge ∈ (session.withoutClient ticket).badges ↔ badge ∈ session.badges ∧ badge.1 ≠ ticket := by
  simp only [badges, withoutClient, List.mem_map, List.mem_filter, bne_iff_ne]
  constructor
  · rintro ⟨client, ⟨hclient, hne⟩, rfl⟩
    exact ⟨⟨client, hclient, rfl⟩, hne⟩
  · rintro ⟨⟨client, hclient, rfl⟩, hne⟩
    exact ⟨client, ⟨hclient, hne⟩, rfl⟩

end Session

/-! ## The books of the boundary -/

/-- The client with a ticket has been answered with what its call returned, and with what handlers
have noted between the end of the body and the return. -/
def Answered (recorded : Recorded) (id : Nat) (ticket : Ticket) (reply : Reply) : Prop :=
  ∃ outcome before told after,
    recorded.log = before ++ .ended id outcome :: (told ++ .returned id reply :: after) ∧
      (ticket, ⟨.ok reply, notesOf told⟩) ∈ recorded.session.answers

/-- What the calls of clients have to do with their tickets, where the call `busy` may be about to go
on. -/
structure Books (busy : Option Nat) (recorded : Recorded) : Prop where
  given : ∀ id ticket call, .entered id (some ticket) call ∈ recorded.log →
    ticket < recorded.session.nextTicket
  single : ∀ id other ticket call called, .entered id (some ticket) call ∈ recorded.log →
    .entered other (some ticket) called ∈ recorded.log → id = other
  waiting : ∀ ticket sentinel, (ticket, .guarded sentinel) ∈ recorded.session.badges →
    ∃ id call, sentinel = call.sentinel ∧ .entered id (some ticket) call ∈ recorded.log ∧
      momentsOf id recorded.log = [.entered id (some ticket) call]
  waits : ∀ id ticket call, .entered id (some ticket) call ∈ recorded.log →
    momentsOf id recorded.log = [.entered id (some ticket) call] →
      busy = some id ∨ (ticket, .guarded call.sentinel) ∈ recorded.session.badges
  answered : ∀ id ticket call reply, .entered id (some ticket) call ∈ recorded.log →
    .returned id reply ∈ recorded.log → Answered recorded id ticket reply

namespace Books

variable {before after : Recorded}

/-- Where nothing is told, only the clients matter. -/
theorem aside (hbooks : Books none before) (hlog : after.log = before.log)
    (hlater : before.session.nextTicket ≤ after.session.nextTicket)
    (hanswers : ∀ entry ∈ before.session.answers, entry ∈ after.session.answers)
    (hwaiting : ∀ badge ∈ after.session.badges,
      badge ∈ before.session.badges ∨ badge.2 = .direct)
    (hkept : ∀ badge ∈ before.session.badges, badge.2 ≠ .direct → badge ∈ after.session.badges) :
    Books none after where
  given := fun id ticket call hentered ↦
    Nat.lt_of_lt_of_le (hbooks.given id ticket call (hlog ▸ hentered)) hlater
  single := by rw [hlog]; exact hbooks.single
  waiting := by
    rw [hlog]
    exact fun ticket sentinel hbadge ↦
      hbooks.waiting ticket sentinel ((hwaiting _ hbadge).resolve_right (by simp))
  waits := by
    rw [hlog]
    exact fun id ticket call hentered hmoments ↦
      (hbooks.waits id ticket call hentered hmoments).imp_right fun hbadge ↦ hkept _ hbadge (by simp)
  answered := by
    intro id ticket call reply hentered hreply
    rw [hlog] at hentered hreply
    obtain ⟨outcome, prior, told, since, heq, hanswer⟩ :=
      hbooks.answered id ticket call reply hentered hreply
    exact ⟨outcome, prior, told, since, hlog.trans heq, hanswers _ hanswer⟩

/-- A client enters a call under a new ticket. -/
theorem enter (hbooks : Books none before)
    (hwithin : ∀ moment ∈ before.log, ∀ id, moment.call? = some id → id < before.log.length)
    {entered : Session} (call : Call) (hframe : Frame before.session.takeTicket.1 entered) :
    Books (some before.log.length)
      (before.onEnter entered (some before.session.nextTicket) call) := by
  have hnext : entered.nextTicket = before.session.nextTicket + 1 := hframe.nextTicket
  have hbadges : entered.badges = before.session.badges := hframe.badges
  have hcalled (id : Nat) (ticket : Ticket) (called : Call)
      (hentered : .entered id (some ticket) called ∈
        (before.onEnter entered (some before.session.nextTicket) call).log) :
      .entered id (some ticket) called ∈ before.log ∨
        id = before.log.length ∧ ticket = before.session.nextTicket := by
    rcases List.mem_append.1 hentered with hold | hnew
    · exact .inl hold
    · rcases List.mem_cons.1 hnew with hself | hinstalled
      · obtain ⟨hid, hticket, -⟩ := Moment.entered.inj hself
        exact .inr ⟨hid, Option.some.inj hticket⟩
      · exact absurd (mem_installs hinstalled).1 (by simp [Moment.call?])
  have hsame (id : Nat) (client : Option Ticket) (called : Call)
      (hentered : .entered id client called ∈ before.log) :
      momentsOf id (before.onEnter entered (some before.session.nextTicket) call).log =
        momentsOf id before.log := by
    have hid : id < before.log.length := hwithin _ hentered id rfl
    simp [Recorded.onEnter, Moment.call?, Nat.ne_of_gt hid, momentsOf_installs]
  refine ⟨?_, ?_, ?_, ?_, ?_⟩
  · intro id ticket called hentered
    refine Nat.lt_of_lt_of_eq ?_ hnext.symm
    rcases hcalled id ticket called hentered with hold | ⟨-, rfl⟩
    · exact Nat.lt_succ_of_lt (hbooks.given id ticket called hold)
    · exact Nat.lt_succ_self _
  · intro id other ticket called again hentered hagain
    rcases hcalled id ticket called hentered with hold | ⟨rfl, rfl⟩
    · rcases hcalled other ticket again hagain with hsame | ⟨-, rfl⟩
      · exact hbooks.single id other ticket called again hold hsame
      · exact absurd (hbooks.given id _ called hold) (Nat.lt_irrefl _)
    · rcases hcalled other _ again hagain with hsame | ⟨rfl, -⟩
      · exact absurd (hbooks.given other _ again hsame) (Nat.lt_irrefl _)
      · rfl
  · intro ticket sentinel hbadge
    obtain ⟨id, called, hsentinel, hentered, hmoments⟩ :=
      hbooks.waiting ticket sentinel (hbadges ▸ hbadge)
    exact ⟨id, called, hsentinel, List.mem_append_left _ hentered,
      (hsame id _ called hentered).trans hmoments⟩
  · intro id ticket called hentered hmoments
    rcases hcalled id ticket called hentered with hold | ⟨rfl, -⟩
    · rw [hsame id _ called hold] at hmoments
      exact .inr (hbadges ▸ (hbooks.waits id ticket called hold hmoments).resolve_left (by simp))
    · exact .inl rfl
  · intro id ticket called reply hentered hreturned
    have hin : .returned id reply ∈ before.log := by
      rcases List.mem_append.1 hreturned with hin | hnew
      · exact hin
      · rcases List.mem_cons.1 hnew with hself | hinstalled
        · exact absurd hself (by simp)
        · exact absurd (mem_installs hinstalled).1 (by simp [Moment.call?])
    rcases hcalled id ticket called hentered with hold | ⟨rfl, -⟩
    · obtain ⟨outcome, prior, told, since, heq, hanswer⟩ :=
        hbooks.answered id ticket called reply hold hin
      refine ⟨outcome, prior, told, since ++ (.entered before.log.length
        (some before.session.nextTicket) call :: call.installs), ?_, hframe.answers ▸ hanswer⟩
      simp [Recorded.onEnter, heq]
    · exact absurd (hwithin _ hin _ rfl) (Nat.lt_irrefl _)

/-- A client that waits in a call is about to go on. -/
theorem leave (hbooks : Books none before) {moved : Session} {ticket : Ticket}
    (hentered : .entered id (some ticket) call ∈ before.log)
    (hframe : Frame (before.session.withoutClient ticket) moved) :
    Books (some id) { before with session := moved } where
  given := fun other ticket called hcalled ↦
    Nat.lt_of_lt_of_eq (hbooks.given other ticket called hcalled) hframe.nextTicket.symm
  single := hbooks.single
  waiting := fun ticket sentinel hbadge ↦
    hbooks.waiting ticket sentinel (mem_badges_withoutClient.1 (hframe.badges ▸ hbadge)).1
  waits := by
    intro other others called hcalled hmoments
    have hbadge := (hbooks.waits other others called hcalled hmoments).resolve_left (by simp)
    by_cases hticket : others = ticket
    · subst hticket
      exact .inl (congrArg some (hbooks.single id other others call called hentered hcalled))
    · exact .inr (hframe.badges ▸ mem_badges_withoutClient.2 ⟨hbadge, hticket⟩)
  answered := by
    intro other ticket called reply hcalled hreply
    obtain ⟨outcome, prior, told, since, heq, hanswer⟩ :=
      hbooks.answered other ticket called reply hcalled hreply
    exact ⟨outcome, prior, told, since, heq, hframe.answers ▸ hanswer⟩

end Books

end Offload
