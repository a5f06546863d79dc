import Offload.Platform

/-!
# Rules for decisions

What a computation can decide on, whatever the settings and the journal are when it runs. There is
one rule for each way in which decisions are put together.
-/

namespace Offload

/-- Every value a computation can decide on satisfies a condition. -/
def Deciding.Ensures {α : Type} (body : Deciding α) (condition : α → Prop) : Prop :=
  ∀ ambient value, (body.run.run ambient).1 = .ok value → condition value

namespace Deciding

variable {α β : Type} {condition : α → Prop} {goal : β → Prop}

/-! ## Running computations -/

theorem run_bind (body : Deciding α) (rest : α → Deciding β) (ambient : Ambient) :
    (body >>= rest).run.run ambient =
      match body.run.run ambient with
      | (.ok value, after) => (rest value).run.run after
      | (.error interruption, after) => (.error interruption, after) := by
  rw [ExceptT.run_bind, StateT.run_bind]
  generalize body.run.run ambient = result
  obtain ⟨outcome, after⟩ := result
  cases outcome <;> rfl

theorem run_map (change : α → β) (body : Deciding α) (ambient : Ambient) :
    (change <$> body).run.run ambient =
      ((body.run.run ambient).1.map change, (body.run.run ambient).2) := by
  rw [← bind_pure_comp, run_bind]
  obtain ⟨interruption | value, after⟩ := body.run.run ambient <;> rfl

theorem run_tryCatch (body : Deciding α) (handle : Interruption → Deciding α)
    (ambient : Ambient) :
    (tryCatch body handle).run.run ambient =
      match body.run.run ambient with
      | (.ok value, after) => (.ok value, after)
      | (.error interruption, after) => (handle interruption).run.run after := by
  have hunfold : (tryCatch body handle).run = body.run >>= fun outcome ↦
      match outcome with
      | .ok value => pure (.ok value)
      | .error interruption => (handle interruption).run := by
    show (ExceptT.tryCatch body handle).run = _
    unfold ExceptT.tryCatch
    rw [ExceptT.run_mk]
    apply congrArg (body.run >>= ·)
    funext outcome
    cases outcome <;> rfl
  rw [hunfold, StateT.run_bind]
  generalize body.run.run ambient = result
  obtain ⟨outcome, after⟩ := result
  cases outcome <;> rfl

/-! ## Rules -/

theorem ensures_true (body : Deciding α) : body.Ensures fun _ ↦ True :=
  fun _ _ _ ↦ trivial

theorem ensures_pure {value : α} (hvalue : condition value) :
    (pure value : Deciding α).Ensures condition := by
  intro ambient other hother
  obtain rfl : value = other := Except.ok.inj hother
  exact hvalue

theorem ensures_refuse (failure : Failure) : (refuse failure : Deciding α).Ensures condition := by
  intro ambient value hvalue
  have hrefused : (.error (.failure failure) : Except Interruption α) = .ok value := hvalue
  exact absurd hrefused (by simp)

theorem ensures_ite {test : Prop} [Decidable test] {first second : Deciding α}
    (hfirst : first.Ensures condition) (hsecond : second.Ensures condition) :
    (if test then first else second).Ensures condition := by
  split
  · exact hfirst
  · exact hsecond

theorem ensures_bind {body : Deciding α} {rest : α → Deciding β} (hbody : body.Ensures condition)
    (hrest : ∀ value, condition value → (rest value).Ensures goal) :
    (body >>= rest).Ensures goal := by
  intro ambient result hresult
  rw [run_bind] at hresult
  cases hrun : body.run.run ambient with
  | mk outcome after =>
    rw [hrun] at hresult
    cases outcome with
    | error interruption => exact absurd hresult (by simp)
    | ok value =>
      have hvalue := hbody ambient value (by rw [hrun])
      exact hrest value hvalue after result hresult

/-- What a computation that is not looked at decides may be anything. -/
theorem ensures_after (body : Deciding α) {rest : α → Deciding β}
    (hrest : ∀ value, (rest value).Ensures goal) : (body >>= rest).Ensures goal :=
  ensures_bind (ensures_true body) fun value _ ↦ hrest value

theorem ensures_lift {outcome : Except Failure α}
    (houtcome : ∀ value, outcome = .ok value → condition value) :
    (liftM outcome : Deciding α).Ensures condition := by
  intro ambient value hvalue
  cases outcome with
  | error failure =>
    have hrefused : (.error (.failure failure) : Except Interruption α) = .ok value := hvalue
    exact absurd hrefused (by simp)
  | ok found =>
    obtain rfl : found = value := Except.ok.inj hvalue
    exact houtcome found rfl

theorem ensures_found {outcome : Except Failure α} {rest : α → Deciding β}
    (hrest : ∀ value, outcome = .ok value → (rest value).Ensures goal) :
    ((liftM outcome : Deciding α) >>= rest).Ensures goal :=
  ensures_bind (ensures_lift fun _ houtcome ↦ houtcome) hrest

theorem ensures_ofDriver {outcome : Except Interruption α}
    (houtcome : ∀ value, outcome = .ok value → condition value) :
    (ofDriver outcome).Ensures condition :=
  fun _ value hvalue ↦ houtcome value hvalue

theorem ensures_map {body : Deciding α} {change : α → β}
    (hbody : body.Ensures fun value ↦ goal (change value)) : (change <$> body).Ensures goal := by
  rw [← bind_pure_comp]
  exact ensures_bind hbody fun value hvalue ↦ ensures_pure hvalue

theorem ensures_tryCatch {body : Deciding α} {handle : Interruption → Deciding α}
    (hbody : body.Ensures condition)
    (hhandle : ∀ interruption, (handle interruption).Ensures condition) :
    (tryCatch body handle).Ensures condition := by
  intro ambient value hvalue
  rw [run_tryCatch] at hvalue
  cases hrun : body.run.run ambient with
  | mk outcome after =>
    rw [hrun] at hvalue
    cases outcome with
    | error interruption => exact hhandle interruption after value hvalue
    | ok found => exact hbody ambient value (by rw [hrun]; exact hvalue)

theorem ensures_guardDriver {body : Deciding α} (hbody : body.Ensures condition) :
    (guardDriver body).Ensures condition := by
  apply ensures_tryCatch hbody
  intro interruption
  cases interruption <;> exact ensures_refuse _

/-! ## Plain computations -/

/-- A computation that neither looks at the settings nor notes anything, and every value it can
decide on satisfies a condition. -/
def Plainly (body : Deciding α) (condition : α → Prop) : Prop :=
  ∃ outcome, (∀ ambient, body.run.run ambient = (outcome, ambient)) ∧
    ∀ value, outcome = .ok value → condition value

theorem plainly_pure {value : α} (hvalue : condition value) :
    (pure value : Deciding α).Plainly condition := by
  refine ⟨.ok value, fun _ ↦ rfl, ?_⟩
  intro other hother
  exact Except.ok.inj hother ▸ hvalue

theorem plainly_refuse (failure : Failure) : (refuse failure : Deciding α).Plainly condition :=
  ⟨.error (.failure failure), fun _ ↦ rfl, fun _ hvalue ↦ absurd hvalue (by simp)⟩

/-- What has been looked up is gone on with. -/
theorem lift_ok_bind (value : α) (rest : α → Deciding β) :
    (liftM (Except.ok value : Except Failure α) >>= rest) = rest value := rfl

theorem lift_bind_congr {outcome : Except Failure α} {first second : α → Deciding β}
    (hrest : ∀ value, outcome = .ok value → first value = second value) :
    (liftM outcome >>= first : Deciding β) = liftM outcome >>= second := by
  cases outcome with
  | error failure => rfl
  | ok value => exact hrest value rfl

theorem plainly_lift_bind {outcome : Except Failure α} {rest : α → Deciding β}
    (hrest : ∀ value, outcome = .ok value → (rest value).Plainly goal) :
    (liftM outcome >>= rest).Plainly goal := by
  cases outcome with
  | error failure =>
    exact ⟨.error (.failure failure), fun _ ↦ rfl, fun _ hvalue ↦ absurd hvalue (by simp)⟩
  | ok value =>
    rw [lift_ok_bind]
    exact hrest value rfl

/-! ## What computations leave behind -/

end Deciding

/-- A later state of the settings and the journal: events may have been noted, and settings that
nothing had resolved may have been resolved from the environment. -/
structure Ambient.Later (environment : Environment) (before after : Ambient) : Prop where
  journal : ∃ events, after.journal = before.journal ++ events
  settings : after.settings = before.settings ∨
    (before.settings = none ∧ after.settings = some environment.settings.1)

namespace Ambient.Later

variable {environment : Environment} {before after last : Ambient}

theorem refl (ambient : Ambient) : ambient.Later environment ambient :=
  ⟨⟨[], (List.append_nil _).symm⟩, .inl rfl⟩

theorem trans (hfirst : before.Later environment after) (hsecond : after.Later environment last) :
    before.Later environment last := by
  obtain ⟨first, hfirst'⟩ := hfirst.journal
  obtain ⟨second, hsecond'⟩ := hsecond.journal
  refine ⟨⟨first ++ second, by rw [hsecond', hfirst', List.append_assoc]⟩, ?_⟩
  rcases hsecond.settings with hsame | ⟨hnone, hresolved⟩
  · rw [hsame]
    exact hfirst.settings
  · rcases hfirst.settings with hsame | ⟨-, hsome⟩
    · exact .inr ⟨hsame ▸ hnone, hresolved⟩
    · rw [hsome] at hnone
      exact absurd hnone (by simp)

theorem note (ambient : Ambient) (events : Journal) :
    ambient.Later environment (ambient.note events) :=
  ⟨⟨events, rfl⟩, .inl rfl⟩

theorem resolve (ambient : Ambient) (environment : Environment) :
    ambient.Later environment (ambient.resolve environment).2 := by
  unfold Ambient.resolve
  split
  · exact refl ambient
  · next hnone => exact ⟨⟨_, rfl⟩, .inr ⟨hnone, rfl⟩⟩

/-- The settings that are resolved, or would be, stay the same. -/
theorem resolve_eq (hlater : before.Later environment after) :
    (after.resolve environment).1 = (before.resolve environment).1 := by
  unfold Ambient.resolve
  rcases hlater.settings with hsame | ⟨hnone, hresolved⟩
  · rw [hsame]
    split <;> rfl
  · rw [hnone, hresolved]

/-- Settings that have been resolved stay as they are. -/
theorem settings_eq_some {settings : Settings} (hlater : before.Later environment after)
    (hsettings : before.settings = some settings) : after.settings = some settings := by
  rcases hlater.settings with hsame | ⟨hnone, -⟩
  · exact hsame.trans hsettings
  · exact absurd (hsettings.symm.trans hnone) (by simp)

end Ambient.Later

theorem Ambient.settings_resolve (ambient : Ambient) (environment : Environment) :
    (ambient.resolve environment).2.settings = some (ambient.resolve environment).1 := by
  unfold resolve
  split
  · next hsettings => exact hsettings
  · rfl

theorem Ambient.note_nil (ambient : Ambient) : ambient.note [] = ambient := by
  rw [note, List.append_nil]

/-- What is later whatever the environment gives has not resolved the settings. -/
theorem Ambient.settings_eq_of_later {before after : Ambient}
    (hlater : ∀ environment, before.Later environment after) :
    after.settings = before.settings := by
  rcases (hlater {}).settings with hsame | ⟨-, hdefault⟩
  · exact hsame
  · rcases (hlater ⟨fun _ ↦ some [0x31]⟩).settings with hsame | ⟨-, hones⟩
    · exact hsame
    · exact absurd (Option.some.inj (hdefault.symm.trans hones)) (by decide)

/-- A computation that leaves nothing behind but settings that have become resolved and events, and
every value it can decide on satisfies a condition; `resolved` are the settings it works with. -/
def Deciding.Remarks {α : Type} (environment : Environment) (resolved : Settings)
    (body : Deciding α) (condition : α → Prop) : Prop :=
  ∀ ambient, (ambient.resolve environment).1 = resolved →
    ambient.Later environment (body.run.run ambient).2 ∧
      ∀ value, (body.run.run ambient).1 = .ok value → condition value

namespace Deciding

variable {environment : Environment} {resolved : Settings}

theorem remarks_pure {value : α} (hvalue : condition value) :
    (pure value : Deciding α).Remarks environment resolved condition :=
  fun ambient _ ↦ ⟨.refl ambient, fun _ hother ↦ Except.ok.inj hother ▸ hvalue⟩

/-- What a computation decides on does not depend on the settings it works with. -/
theorem ensures_of_remarks {body : Deciding α}
    (hbody : ∀ resolved, body.Remarks environment resolved condition) : body.Ensures condition :=
  fun ambient value ↦ (hbody _ ambient rfl).2 value

theorem remarks_weaken {body : Deciding α} {weaker : α → Prop}
    (hbody : body.Remarks environment resolved condition)
    (hweaker : ∀ value, condition value → weaker value) :
    body.Remarks environment resolved weaker :=
  fun ambient hresolved ↦ (hbody ambient hresolved).imp_right fun hvalue value heq ↦
    hweaker value (hvalue value heq)

theorem remarks_refuse (failure : Failure) :
    (refuse failure : Deciding α).Remarks environment resolved condition :=
  fun ambient _ ↦ ⟨.refl ambient, ensures_refuse failure ambient⟩

theorem remarks_ite {test : Prop} [Decidable test] {first second : Deciding α}
    (hfirst : first.Remarks environment resolved condition)
    (hsecond : second.Remarks environment resolved condition) :
    (if test then first else second).Remarks environment resolved condition := by
  split
  · exact hfirst
  · exact hsecond

theorem remarks_bind {body : Deciding α} {rest : α → Deciding β}
    (hbody : body.Remarks environment resolved condition)
    (hrest : ∀ value, condition value → (rest value).Remarks environment resolved goal) :
    (body >>= rest).Remarks environment resolved goal := by
  intro ambient hresolved
  obtain ⟨hlater, hvalue⟩ := hbody ambient hresolved
  rw [run_bind]
  cases hrun : body.run.run ambient with
  | mk outcome after =>
    rw [hrun] at hlater hvalue
    cases outcome with
    | error interruption => exact ⟨hlater, fun _ hresult ↦ absurd hresult (by simp)⟩
    | ok value =>
      obtain ⟨hlast, hgoal⟩ := hrest value (hvalue value rfl) after
        (hlater.resolve_eq.trans hresolved)
      exact ⟨hlater.trans hlast, hgoal⟩

theorem remarks_lift {outcome : Except Failure α}
    (houtcome : ∀ value, outcome = .ok value → condition value) :
    (liftM outcome : Deciding α).Remarks environment resolved condition :=
  fun ambient _ ↦ ⟨.refl ambient, ensures_lift houtcome ambient⟩

/-- What has been looked up may be anything that the lookup can give. -/
theorem remarks_found {outcome : Except Failure α} {rest : α → Deciding β}
    (hrest : ∀ value, outcome = .ok value → (rest value).Remarks environment resolved goal) :
    ((liftM outcome : Deciding α) >>= rest).Remarks environment resolved goal :=
  remarks_bind (remarks_lift fun _ houtcome ↦ houtcome) hrest

theorem remarks_ofDriver (outcome : Except Interruption α) :
    (ofDriver outcome).Remarks environment resolved fun _ ↦ True :=
  fun ambient _ ↦ ⟨.refl ambient, fun _ _ ↦ trivial⟩

theorem remarks_remark (message : String) (fields : List (String × String)) :
    (remark message fields).Remarks environment resolved fun _ ↦ True :=
  fun ambient _ ↦ ⟨.note ambient _, fun _ _ ↦ trivial⟩

theorem remarks_settings (platform : Platform) :
    (settings platform).Remarks platform.environment resolved fun found ↦ found = resolved :=
  fun ambient hresolved ↦ ⟨.resolve ambient platform.environment,
    fun _ hvalue ↦ (Except.ok.inj hvalue).symm.trans hresolved⟩

/-- What a computation decides may be anything. -/
theorem remarks_after {body : Deciding α} {rest : α → Deciding β}
    (hbody : body.Remarks environment resolved condition)
    (hrest : ∀ value, (rest value).Remarks environment resolved goal) :
    (body >>= rest).Remarks environment resolved goal :=
  remarks_bind hbody fun value _ ↦ hrest value

theorem remarks_map {body : Deciding α} {change : α → β}
    (hbody : body.Remarks environment resolved fun value ↦ goal (change value)) :
    (change <$> body).Remarks environment resolved goal := by
  rw [← bind_pure_comp]
  exact remarks_bind hbody fun _ hvalue ↦ remarks_pure hvalue

theorem remarks_tryCatch {body : Deciding α} {handle : Interruption → Deciding α}
    (hbody : body.Remarks environment resolved condition)
    (hhandle : ∀ interruption, (handle interruption).Remarks environment resolved condition) :
    (tryCatch body handle).Remarks environment resolved condition := by
  intro ambient hresolved
  obtain ⟨hlater, hvalue⟩ := hbody ambient hresolved
  rw [run_tryCatch]
  cases hrun : body.run.run ambient with
  | mk outcome after =>
    rw [hrun] at hlater hvalue
    cases outcome with
    | error interruption =>
      obtain ⟨hlast, hcaught⟩ := hhandle interruption after
        (hlater.resolve_eq.trans hresolved)
      exact ⟨hlater.trans hlast, hcaught⟩
    | ok value => exact ⟨hlater, hvalue⟩

theorem remarks_guardDriver {body : Deciding α} (hbody : body.Remarks environment resolved condition) :
    (guardDriver body).Remarks environment resolved condition := by
  apply remarks_tryCatch hbody
  intro interruption
  cases interruption <;> exact remarks_refuse _

/-! ## Computations that resolve the settings -/

/-- However a computation ends, the settings are resolved. -/
def Resolves (environment : Environment) (body : Deciding α) : Prop :=
  ∀ ambient, (body.run.run ambient).2.settings = some (ambient.resolve environment).1

theorem resolves_settings (platform : Platform) :
    (settings platform).Resolves platform.environment :=
  fun ambient ↦ ambient.settings_resolve platform.environment

/-- It is enough that the settings are resolved at first. -/
theorem resolves_bind {body : Deciding α} {rest : α → Deciding β}
    (hbody : body.Resolves environment)
    (hrest : ∀ value resolved, (rest value).Remarks environment resolved fun _ ↦ True) :
    (body >>= rest).Resolves environment := by
  intro ambient
  have hfirst := hbody ambient
  rw [run_bind]
  generalize body.run.run ambient = result at hfirst ⊢
  obtain ⟨interruption | value, after⟩ := result
  · exact hfirst
  · exact (hrest value _ after rfl).1.settings_eq_some hfirst

theorem resolves_tryCatch {body : Deciding α} {handle : Interruption → Deciding α}
    (hbody : body.Resolves environment)
    (hhandle : ∀ interruption resolved,
      (handle interruption).Remarks environment resolved fun _ ↦ True) :
    (tryCatch body handle).Resolves environment := by
  intro ambient
  have hfirst := hbody ambient
  rw [run_tryCatch]
  generalize body.run.run ambient = result at hfirst ⊢
  obtain ⟨interruption | value, after⟩ := result
  · exact (hhandle interruption _ after rfl).1.settings_eq_some hfirst
  · exact hfirst

theorem resolves_guardDriver {body : Deciding α} (hbody : body.Resolves environment) :
    (guardDriver body).Resolves environment := by
  refine resolves_tryCatch hbody fun interruption resolved ↦ ?_
  cases interruption <;> exact remarks_refuse _

end Deciding

end Offload
