import Mathlib.Data.List.Induction
import Mathlib.Tactic.Set
import Offload.Proofs.Registry.History

/-!
# The registry follows its history

`Explained` ties the table of slots, the next handle and the noted events to the history of a
registry. Every use, refused ones included, preserves it, so after any sequence of uses the history
alone decides which handles are live and what the registry replies.
-/

namespace Offload

/-! ## The invariant -/

/-- The registry of a run is what its history accounts for. -/
structure Explained (start : Journal) (run : HandleRun) : Prop where
  numbered : run.history.exposures.map (·.1) = List.range' 1 run.history.exposures.length
  next : run.session.registry.next = run.history.exposures.length + 1
  ordered : run.session.registry.Ordered
  slots : ∀ handle, run.session.registry.get? handle = run.history.slot? handle
  /-- Handles not given out yet have never been retained or released. -/
  untouched : ∀ handle, run.history.origin? handle = none →
    run.history.retains handle = 0 ∧ run.history.releases handle = 0
  /-- A handle is not released again once it is gone. -/
  bounded : ∀ handle, run.history.releases handle ≤ run.history.retains handle + 1
  noted : ∃ notes, run.session.ambient.journal = start ++ notes ∧ run.history.Balanced notes

namespace Explained

variable {start : Journal} {run : HandleRun} {session : Session}

theorem initial (hempty : session.registry = Registry.empty) :
    Explained session.ambient.journal ⟨session, []⟩ where
  numbered := rfl
  next := by rw [hempty]; rfl
  ordered := by
    rw [hempty]
    exact Table.ordered_of_entries_eq_nil rfl
  slots handle := by rw [hempty]; rfl
  untouched handle _ := ⟨rfl, rfl⟩
  bounded handle := Nat.zero_le _
  noted := by
    refine ⟨[], (List.append_nil _).symm, ?_, ?_, ?_⟩ <;>
      simp [HandleHistory.origin?, HandleHistory.exposures]

theorem origin?_fresh (hrun : Explained start run) {handle : Handle}
    (hhandle : handle = 0 ∨ run.history.exposures.length < handle) :
    run.history.origin? handle = none := by
  have hnotMem : handle ∉ run.history.exposures.map (·.1) := by
    rw [hrun.numbered, List.mem_range'_1]
    rcases hhandle with rfl | hlt
    · simp
    · omega
  have hfind : run.history.exposures.find? (·.1 == handle) = none := by
    apply List.find?_eq_none.2
    intro exposure hmem
    have hne : exposure.1 ≠ handle := fun heq ↦
      hnotMem (heq ▸ List.mem_map_of_mem hmem)
    simpa using hne
  simp [HandleHistory.origin?, hfind]

theorem get?_zero (hrun : Explained start run) : run.session.registry.get? 0 = none := by
  rw [hrun.slots]
  simp [HandleHistory.slot?, hrun.origin?_fresh (Or.inl rfl)]

theorem get?_isSome_iff (hrun : Explained start run) (handle : Handle) :
    (run.session.registry.get? handle).isSome ↔ run.history.Live handle := by
  rw [hrun.slots, HandleHistory.slot?_isSome_iff]

theorem get?_eq_none_iff (hrun : Explained start run) (handle : Handle) :
    run.session.registry.get? handle = none ↔ ¬run.history.Live handle := by
  rw [← hrun.get?_isSome_iff]
  cases run.session.registry.get? handle <;> simp

/-- A use that changes nothing and whose entry is silent keeps the invariant. -/
theorem silent (hrun : Explained start run) {entry : HandleCall × HandleReply}
    (hentry : HandleHistory.Silent entry) :
    Explained start ⟨run.session, run.history ++ [entry]⟩ where
  numbered := by
    rw [hentry.exposures]
    exact hrun.numbered
  next := by
    rw [hentry.exposures]
    exact hrun.next
  ordered := hrun.ordered
  slots handle := by
    rw [hentry.slot?]
    exact hrun.slots handle
  untouched handle := by
    rw [hentry.origin?, hentry.retains, hentry.releases]
    exact hrun.untouched handle
  bounded handle := by
    rw [hentry.retains, hentry.releases]
    exact hrun.bounded handle
  noted := by
    obtain ⟨notes, hjournal, hbalanced⟩ := hrun.noted
    refine ⟨notes, hjournal, hbalanced.keep hentry.origin? fun handle ↦ ?_⟩
    simp only [HandleHistory.Live, hentry.origin?, hentry.retains, hentry.releases]

theorem expose (hrun : Explained start run) (kind : Kind) (object : ObjectId) :
    Explained start (run.step (.expose kind object)) := by
  have hnext := hrun.next
  have hstep : run.step (.expose kind object) =
      ⟨((HandleCall.expose kind object).apply run.session).1,
        run.history ++ [(.expose kind object, .handle run.session.registry.next)]⟩ := rfl
  rw [hstep, HandleCall.apply_expose]
  set entry : HandleCall × HandleReply :=
    (.expose kind object, .handle run.session.registry.next) with hentry
  have hone : HandleHistory.exposures [entry] = [(run.session.registry.next, kind, object)] := rfl
  have hexposures := HandleHistory.exposures_append_singleton run.history entry
  have hretains (handle : Handle) :
      HandleHistory.retains (run.history ++ [entry]) handle = run.history.retains handle := by
    simp [HandleHistory.retains_append_singleton, hentry]
  have hreleases (handle : Handle) :
      HandleHistory.releases (run.history ++ [entry]) handle = run.history.releases handle := by
    simp [HandleHistory.releases_append_singleton, hentry]
  have hfresh : run.history.origin? run.session.registry.next = none :=
    hrun.origin?_fresh (Or.inr (by omega))
  obtain ⟨hretained, hreleased⟩ := hrun.untouched _ hfresh
  have horigin (handle : Handle) :
      HandleHistory.origin? (run.history ++ [entry]) handle =
        if handle = run.session.registry.next then some (kind, object)
        else run.history.origin? handle := by
    rw [HandleHistory.origin?_append_singleton]
    by_cases hhandle : handle = run.session.registry.next
    · rw [if_pos hhandle, hhandle, hfresh]
      simp [HandleHistory.origin?, hone]
    · simp [HandleHistory.origin?, hone, hhandle, Ne.symm hhandle]
  constructor
  case numbered =>
    rw [hexposures, hone, List.map_append, List.length_append, hrun.numbered, List.length_singleton,
      List.range'_concat, hnext]
    simp [Nat.add_comm]
  case next =>
    rw [hexposures, hone]
    simp [hnext]
  case ordered => exact hrun.ordered.insert _
  case slots =>
    intro handle
    simp only [Table.get?_insert, HandleHistory.slot?, horigin, hretains, hreleases]
    by_cases hhandle : handle = run.session.registry.next
    · simp [hhandle, hretained, hreleased]
    · simp only [if_neg hhandle]
      exact hrun.slots handle
  case untouched =>
    intro handle hnone
    rw [hretains, hreleases]
    rw [horigin] at hnone
    split at hnone
    · cases hnone
    · exact hrun.untouched handle hnone
  case bounded =>
    intro handle
    rw [hretains, hreleases]
    exact hrun.bounded handle
  case noted =>
    obtain ⟨notes, hjournal, hbalanced⟩ := hrun.noted
    refine ⟨notes ++ [handleCreated run.session.registry.next kind], ?_, ?_⟩
    · simp [Session.note, Ambient.note, hjournal]
    · apply hbalanced.create hfresh horigin
      intro handle
      by_cases hhandle : handle = run.session.registry.next
      · simp [HandleHistory.Live, horigin, hretains, hreleases, hhandle, hretained, hreleased]
      · simp [HandleHistory.Live, horigin, hretains, hreleases, hhandle]

/-- A use that gives no handle out keeps the invariant if the registry keeps its numbers and its
slots and events follow the history. -/
theorem unexposed (hrun : Explained start run) {entry : HandleCall × HandleReply}
    (hentry : HandleHistory.exposures [entry] = [])
    (hnext : session.registry.next = run.session.registry.next)
    (hordered : session.registry.Ordered)
    (hslots : ∀ handle, session.registry.get? handle =
      HandleHistory.slot? (run.history ++ [entry]) handle)
    (huntouched : ∀ handle, run.history.origin? handle = none →
      entry ≠ (.retain handle, .done) ∧ entry ≠ (.release handle, .done))
    (hbounded : ∀ handle, HandleHistory.releases (run.history ++ [entry]) handle ≤
      HandleHistory.retains (run.history ++ [entry]) handle + 1)
    (hnoted : ∃ notes, session.ambient.journal = start ++ notes ∧
      HandleHistory.Balanced (run.history ++ [entry]) notes) :
    Explained start ⟨session, run.history ++ [entry]⟩ := by
  have hexposures : HandleHistory.exposures (run.history ++ [entry]) = run.history.exposures := by
    rw [HandleHistory.exposures_append_singleton, hentry, List.append_nil]
  constructor
  case numbered =>
    rw [hexposures]
    exact hrun.numbered
  case next =>
    rw [hexposures]
    exact hnext.trans hrun.next
  case ordered => exact hordered
  case slots => exact hslots
  case untouched =>
    intro handle hnone
    have hold : run.history.origin? handle = none := by
      simpa only [HandleHistory.origin?, hexposures] using hnone
    obtain ⟨hretain, hrelease⟩ := huntouched handle hold
    rw [HandleHistory.retains_append_singleton, if_neg hretain,
      HandleHistory.releases_append_singleton, if_neg hrelease]
    exact hrun.untouched handle hold
  case bounded => exact hbounded
  case noted => exact hnoted

/-- A handle that has not been given out is no handle of the registry. -/
theorem ne_of_fresh {slot : Slot ObjectId} {handle other : Handle} (hrun : Explained start run)
    (hget : run.session.registry.get? handle = some slot)
    (hnone : run.history.origin? other = none) : handle ≠ other := by
  rintro rfl
  obtain ⟨horigin, -, -⟩ := HandleHistory.slot?_eq_some ((hrun.slots handle) ▸ hget)
  simp [horigin] at hnone

theorem retain (hrun : Explained start run) (handle : Handle) :
    Explained start (run.step (.retain handle)) := by
  have hstep : run.step (.retain handle) =
      ⟨((HandleCall.retain handle).apply run.session).1,
        run.history ++ [(.retain handle, ((HandleCall.retain handle).apply run.session).2)]⟩ := rfl
  rw [hstep]
  cases hget : run.session.registry.get? handle with
  | none =>
    rw [HandleCall.apply_retain_dead hget]
    exact hrun.silent (HandleHistory.silent_refused _ _)
  | some slot =>
    rw [HandleCall.apply_retain_live hrun.get?_zero hget]
    obtain ⟨horigin, hlive, hcount⟩ := HandleHistory.slot?_eq_some ((hrun.slots handle) ▸ hget)
    refine hrun.unexposed rfl rfl ?_ ?_ ?_ ?_ ?_
    · exact hrun.ordered.modify handle fun slot ↦ { slot with count := slot.count + 1 }
    · intro other
      simp only [Table.get?_modify, hrun.slots, HandleHistory.slot?, HandleHistory.origin?_retain,
        HandleHistory.retains_retain, HandleHistory.releases_retain]
      by_cases hother : other = handle
      · subst hother
        simp [horigin, hlive, Nat.le_succ_of_le hlive]
        omega
      · simp [hother]
    · intro other hnone
      simp [hrun.ne_of_fresh hget hnone]
    · intro other
      have hbounded := hrun.bounded other
      rw [HandleHistory.retains_retain, HandleHistory.releases_retain]
      omega
    · obtain ⟨notes, hjournal, hbalanced⟩ := hrun.noted
      exact ⟨notes, hjournal, hbalanced.keep HandleHistory.origin?_retain fun other ↦
        HandleHistory.live_retain other ⟨by simp [horigin], hlive⟩⟩

/-- A release of a live handle keeps the invariant if the slots and the events follow it. -/
theorem released (hrun : Explained start run) {slot : Slot ObjectId} {handle : Handle}
    (hget : run.session.registry.get? handle = some slot)
    (hnext : session.registry.next = run.session.registry.next)
    (hordered : session.registry.Ordered)
    (hslots : ∀ other, session.registry.get? other =
      HandleHistory.slot? (run.history ++ [(.release handle, .done)]) other)
    (hnoted : ∃ notes, session.ambient.journal = start ++ notes ∧
      HandleHistory.Balanced (run.history ++ [(.release handle, .done)]) notes) :
    Explained start ⟨session, run.history ++ [(.release handle, .done)]⟩ := by
  obtain ⟨-, hlive, -⟩ := HandleHistory.slot?_eq_some ((hrun.slots handle) ▸ hget)
  refine hrun.unexposed rfl hnext hordered hslots ?_ ?_ hnoted
  · intro other hnone
    simp [hrun.ne_of_fresh hget hnone]
  · intro other
    have hbounded := hrun.bounded other
    rw [HandleHistory.retains_release, HandleHistory.releases_release]
    by_cases hother : other = handle
    · subst hother
      simp [hlive]
    · simp [hother, hbounded]

theorem release (hrun : Explained start run) (handle : Handle) :
    Explained start (run.step (.release handle)) := by
  have hstep : run.step (.release handle) =
      ⟨((HandleCall.release handle).apply run.session).1,
        run.history ++ [(.release handle, ((HandleCall.release handle).apply run.session).2)]⟩ :=
    rfl
  rw [hstep]
  cases hget : run.session.registry.get? handle with
  | none =>
    rw [HandleCall.apply_release_dead hget]
    exact hrun.silent (HandleHistory.silent_refused _ _)
  | some slot =>
    obtain ⟨horigin, hlive, hcount⟩ := HandleHistory.slot?_eq_some ((hrun.slots handle) ▸ hget)
    have hlived : run.history.Live handle := ⟨by simp [horigin], hlive⟩
    obtain ⟨notes, hjournal, hbalanced⟩ := hrun.noted
    by_cases hshared : 1 < slot.count
    · rw [HandleCall.apply_release_shared hrun.get?_zero hget hshared]
      have hstill : run.history.releases handle < run.history.retains handle := by omega
      refine hrun.released hget rfl ?_ ?_ ⟨notes, hjournal, ?_⟩
      · exact hrun.ordered.modify handle fun slot ↦ { slot with count := slot.count - 1 }
      · intro other
        simp only [Table.get?_modify, hrun.slots, HandleHistory.slot?,
          HandleHistory.origin?_release, HandleHistory.retains_release,
          HandleHistory.releases_release]
        by_cases hother : other = handle
        · subst hother
          simp [horigin, hlive, Nat.succ_le_of_lt hstill]
          omega
        · simp [hother]
      · exact hbalanced.keep HandleHistory.origin?_release fun other ↦
          HandleHistory.live_release_shared other hlived hstill
    · rw [HandleCall.apply_release_last hrun.get?_zero hget hshared]
      have hlast : run.history.releases handle = run.history.retains handle := by omega
      refine hrun.released hget rfl ?_ ?_ ⟨notes ++ [handleDestroyed handle slot.kind], ?_, ?_⟩
      · exact hrun.ordered.erase _
      · intro other
        simp only [Table.get?_erase, hrun.slots, HandleHistory.slot?,
          HandleHistory.origin?_release, HandleHistory.retains_release,
          HandleHistory.releases_release]
        by_cases hother : other = handle
        · subst hother
          simp [horigin, hlast]
        · simp [hother]
      · simp [Session.note, Ambient.note, hjournal]
      · exact hbalanced.destroy hlived horigin HandleHistory.origin?_release fun other ↦
          HandleHistory.live_release_last other hlast

theorem step (hrun : Explained start run) (call : HandleCall) :
    Explained start (run.step call) := by
  cases call with
  | expose kind object => exact hrun.expose kind object
  | retain handle => exact hrun.retain handle
  | release handle => exact hrun.release handle
  | lookup expected handle => exact hrun.silent ⟨rfl, fun other ↦ by simp⟩
  | locate handle => exact hrun.silent ⟨rfl, fun other ↦ by simp⟩
  | useCount handle => exact hrun.silent ⟨rfl, fun other ↦ by simp⟩

theorem play (hempty : session.registry = Registry.empty) (calls : List HandleCall) :
    Explained session.ambient.journal (HandleRun.play session calls) := by
  induction calls using List.reverseRecOn with
  | nil => exact initial hempty
  | append_singleton calls call ih =>
    rw [HandleRun.play_append_singleton]
    exact ih.step call

/-- As many handles are in the registry as the history has live ones. -/
theorem size_eq (hrun : Explained start run) :
    run.session.registry.size =
      (run.history.exposures.filter fun exposure ↦ run.history.Live exposure.1).length := by
  have hnumbers : (run.history.exposures.map (·.1)).Nodup := by
    rw [hrun.numbered]
    exact List.nodup_range'
  have hlive : ((run.history.exposures.filter fun exposure ↦
      run.history.Live exposure.1).map (·.1)).Nodup :=
    hnumbers.sublist (List.filter_sublist.map _)
  have hperm : (run.session.registry.entries.map (·.1)).Perm
      ((run.history.exposures.filter fun exposure ↦ run.history.Live exposure.1).map (·.1)) := by
    apply (List.perm_ext_iff_of_nodup hrun.ordered.nodup_numbers hlive).2
    intro handle
    rw [hrun.ordered.mem_numbers_iff, hrun.get?_isSome_iff]
    constructor
    · intro h
      obtain ⟨origin, horigin⟩ := Option.isSome_iff_exists.1 h.1
      obtain ⟨exposure, hfind, -⟩ := Option.map_eq_some_iff.1 horigin
      have hhandle : exposure.1 = handle := by simpa using List.find?_some hfind
      refine List.mem_map.2 ⟨exposure, ?_, hhandle⟩
      exact List.mem_filter.2 ⟨List.mem_of_find?_eq_some hfind, by simpa [hhandle] using h⟩
    · intro h
      obtain ⟨exposure, hmem, rfl⟩ := List.mem_map.1 h
      simpa using (List.mem_filter.1 hmem).2
  simpa [Table.size] using hperm.length_eq

end Explained

/-! ## What the history decides -/

namespace HandleHistory

/-- The reply to a use of a handle: `answer` if the handle is live, and a refusal otherwise. -/
def answerLive (history : HandleHistory) (handle : Handle) (answer : Slot ObjectId → HandleReply) :
    HandleReply :=
  match history.slot? handle with
  | none => .refused (Registry.refusal handle)
  | some slot => answer slot

/-- The reply of the registry to one more use. -/
def reply (history : HandleHistory) : HandleCall → HandleReply
  | .expose _ _ => .handle (history.exposures.length + 1)
  | .lookup expected handle =>
    history.answerLive handle fun slot ↦
      if slot.kind = expected then .object slot.object
      else .refused (.kindMismatch handle expected.name slot.kind.name)
  | .locate handle => history.answerLive handle fun slot ↦ .tagged slot.kind slot.object
  | .retain handle => history.answerLive handle fun _ ↦ .done
  | .release handle => history.answerLive handle fun _ ↦ .done
  | .useCount handle => history.answerLive handle fun slot ↦ .count slot.count

end HandleHistory

namespace Explained

variable {start : Journal} {run : HandleRun}

theorem reply_eq (hrun : Explained start run) (call : HandleCall) :
    (call.apply run.session).2 = run.history.reply call := by
  have hread (handle : Handle) (answer : Slot ObjectId → HandleReply) :
      HandleReply.ofExcept answer (run.session.registry.locate handle) =
        run.history.answerLive handle answer := by
    unfold HandleHistory.answerLive
    rw [← hrun.slots]
    cases hget : run.session.registry.get? handle with
    | none => rw [Registry.locate_eq_error hget]; rfl
    | some slot => rw [Registry.locate_eq_ok hrun.get?_zero hget]; rfl
  cases call with
  | expose kind object => simp [HandleCall.apply_expose, HandleHistory.reply, hrun.next]
  | lookup expected handle =>
    rw [HandleHistory.reply, ← hread]
    cases hlocate : run.session.registry.locate handle with
    | error failure =>
      simp [HandleCall.apply, Registry.lookup, hlocate, bind, Except.bind, HandleReply.ofExcept]
    | ok slot =>
      simp only [HandleCall.apply, Registry.lookup, hlocate, bind, Except.bind]
      split <;> simp_all [HandleReply.ofExcept]
  | locate handle => exact hread handle _
  | retain handle =>
    rw [HandleHistory.reply, HandleHistory.answerLive, ← hrun.slots]
    cases hget : run.session.registry.get? handle with
    | none => rw [HandleCall.apply_retain_dead hget]
    | some slot => rw [HandleCall.apply_retain_live hrun.get?_zero hget]
  | release handle =>
    rw [HandleHistory.reply, HandleHistory.answerLive, ← hrun.slots]
    cases hget : run.session.registry.get? handle with
    | none => rw [HandleCall.apply_release_dead hget]
    | some slot =>
      by_cases hshared : 1 < slot.count
      · rw [HandleCall.apply_release_shared hrun.get?_zero hget hshared]
      · rw [HandleCall.apply_release_last hrun.get?_zero hget hshared]
  | useCount handle =>
    rw [HandleHistory.reply, ← hread]
    cases hlocate : run.session.registry.locate handle <;>
      simp [HandleCall.apply, Registry.useCount, hlocate, Except.map, HandleReply.ofExcept]

theorem journal_eq (hrun : Explained start run) (call : HandleCall) :
    (call.apply run.session).1.ambient.journal =
      run.session.ambient.journal ++ run.history.notes call := by
  cases call with
  | expose kind object =>
    simp [HandleCall.apply_expose, HandleHistory.notes, hrun.next, Session.note, Ambient.note]
  | lookup | locate | useCount => simp [HandleCall.apply, HandleHistory.notes]
  | retain handle =>
    cases hget : run.session.registry.get? handle with
    | none => simp [HandleCall.apply_retain_dead hget, HandleHistory.notes]
    | some slot => simp [HandleCall.apply_retain_live hrun.get?_zero hget, HandleHistory.notes]
  | release handle =>
    cases hget : run.session.registry.get? handle with
    | none =>
      have hdead := (hrun.get?_eq_none_iff handle).1 hget
      have hnotes : run.history.notes (.release handle) = [] := by
        cases horigin : run.history.origin? handle with
        | none => simp [HandleHistory.notes, horigin]
        | some origin =>
          have hne : run.history.releases handle ≠ run.history.retains handle := fun heq ↦
            hdead ⟨by simp [horigin], Nat.le_of_eq heq⟩
          simp [HandleHistory.notes, horigin, hne]
      rw [HandleCall.apply_release_dead hget, hnotes, List.append_nil]
    | some slot =>
      obtain ⟨horigin, hlive, hcount⟩ := HandleHistory.slot?_eq_some ((hrun.slots handle) ▸ hget)
      by_cases hshared : 1 < slot.count
      · have hne : run.history.releases handle ≠ run.history.retains handle := by omega
        simp [HandleCall.apply_release_shared hrun.get?_zero hget hshared, HandleHistory.notes,
          horigin, hne]
      · have heq : run.history.releases handle = run.history.retains handle := by omega
        simp [HandleCall.apply_release_last hrun.get?_zero hget hshared, HandleHistory.notes,
          horigin, heq, Session.note, Ambient.note]

theorem eq_of_refused (hrun : Explained start run) {call : HandleCall} {failure : Failure}
    (hrefused : (call.apply run.session).2 = .refused failure) :
    (call.apply run.session).1 = run.session := by
  cases call with
  | expose kind object => simp [HandleCall.apply_expose] at hrefused
  | lookup | locate | useCount => rfl
  | retain handle =>
    cases hget : run.session.registry.get? handle with
    | none => rw [HandleCall.apply_retain_dead hget]
    | some slot => simp [HandleCall.apply_retain_live hrun.get?_zero hget] at hrefused
  | release handle =>
    cases hget : run.session.registry.get? handle with
    | none => rw [HandleCall.apply_release_dead hget]
    | some slot =>
      by_cases hshared : 1 < slot.count
      · simp [HandleCall.apply_release_shared hrun.get?_zero hget hshared] at hrefused
      · simp [HandleCall.apply_release_last hrun.get?_zero hget hshared] at hrefused

end Explained

theorem HandleRun.calls_play (session : Session) (calls : List HandleCall) :
    (HandleRun.play session calls).history.map (·.1) = calls := by
  induction calls using List.reverseRecOn with
  | nil => rfl
  | append_singleton calls call ih =>
    rw [HandleRun.play_append_singleton]
    simp [HandleRun.step, ih]

/-- After any sequence of uses of a registry that was empty at first, its history decides which
handles are live and every further reply. Handles are numbered from one without a gap, a live handle
has one reference more than its retains exceed its releases, a refused use changes nothing, and each
handle given out has one event for that and one more as soon as it is no longer live. -/
theorem registry_follows_history (session : Session) (calls : List HandleCall) :
    let start : Session := { session with registry := Registry.empty }
    let run := HandleRun.play start calls
    let history := run.history
    history.map (·.1) = calls ∧
    history.exposures.map (·.1) = List.range' 1 history.exposures.length ∧
    (∀ handle, run.session.registry.contains handle = true ↔ history.Live handle) ∧
    (∀ handle, history.Live handle → ∃ count,
      history.reply (.useCount handle) = .count count ∧ 1 ≤ count ∧
        count + history.releases handle = 1 + history.retains handle) ∧
    (∀ call : HandleCall, (call.apply run.session).2 = history.reply call) ∧
    (∀ (call : HandleCall) (failure : Failure), (call.apply run.session).2 = .refused failure →
      (call.apply run.session).1 = run.session) ∧
    run.session.registry.size =
      (history.exposures.filter fun exposure ↦ history.Live exposure.1).length ∧
    (∀ call : HandleCall, (call.apply run.session).1.ambient.journal =
      run.session.ambient.journal ++ history.notes call) ∧
    ∃ notes, run.session.ambient.journal = start.ambient.journal ++ notes ∧
      history.Balanced notes := by
  intro start run history
  have hrun : Explained start.ambient.journal run := Explained.play rfl calls
  refine ⟨HandleRun.calls_play start calls, hrun.numbered, ?_, ?_, hrun.reply_eq,
    fun call failure ↦ hrun.eq_of_refused, hrun.size_eq, hrun.journal_eq, hrun.noted⟩
  · intro handle
    rw [Table.contains_eq_isSome]
    exact hrun.get?_isSome_iff handle
  · intro handle hlive
    obtain ⟨slot, hslot⟩ := Option.isSome_iff_exists.1 (HandleHistory.slot?_isSome_iff.2 hlive)
    obtain ⟨-, hle, hcount⟩ := HandleHistory.slot?_eq_some hslot
    refine ⟨slot.count, ?_, by omega, by omega⟩
    simp [HandleHistory.reply, HandleHistory.answerLive, history, hslot]

end Offload
