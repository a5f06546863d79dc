import Offload.Proofs.Backend.Choice

/-!
# Counting devices and making them

How many devices a family has, what one of them is, and making one are three questions that each
back-end answers by itself. Where there is no driver, the answers agree in every build: the last two
are given for the indices below the number of devices, are refused for all others, and where there
is no number, all three are refused for one reason. A device on a context of the host is made for
the same indices as one without.

The agreement is asserted for explicit families only. The open choice has no number of devices.
-/

namespace Offload

/-- There is no driver: its library is missing, and every call of it panics, with whatever text. -/
structure Driver.Absent (driver : Driver) : Prop where
  count : ∃ text, driver.count = .error (.panic text)
  info : ∀ index, ∃ text, driver.info index = .error (.panic text)
  device : ∀ index, ∃ text, driver.device index = .error (.panic text)
  context : ∀ index, ∃ text, driver.context index = .error (.panic text)
  adopt : ∀ native, ∃ text, driver.adopt native = .error (.panic text)

theorem Driver.absent_missing : Driver.missing.Absent :=
  ⟨⟨_, rfl⟩, fun _ ↦ ⟨_, rfl⟩, fun _ ↦ ⟨_, rfl⟩, fun _ ↦ ⟨_, rfl⟩, fun _ ↦ ⟨_, rfl⟩⟩

/-- An interruption without the text that a panic of the driver has left in it. -/
def Interruption.plain : Interruption → Interruption
  | .failure (.backendUnavailable family _) => .failure (.backendUnavailable family "")
  | .failure cause => .failure cause
  | .panic _ => .panic none

namespace Selection

open Deciding

variable {platform : Platform} {family : Family} {index : Nat}

/-- What comes of counting the devices of a family, and of two questions about the one at an index:
it is there, it is not, or there are no devices for a reason that is the same up to the text of a
panic. -/
inductive Enumerated {α β : Type} (family : Family) (index : Nat) :
    Except Interruption Nat → Except Interruption α → Except Interruption β → Prop where
  | below {count : Nat} (hindex : index < count) (made : α) (told : β) :
    Enumerated family index (.ok count) (.ok made) (.ok told)
  | past {count : Nat} (hindex : count ≤ index) :
    Enumerated family index (.ok count) (.error (.failure (.indexOutOfRange family index count)))
      (.error (.failure (.indexOutOfRange family index count)))
  | without {counting making telling : Interruption} (hmaking : making.plain = counting.plain)
    (htelling : telling.plain = counting.plain) :
    Enumerated family index (.error counting) (.error making) (.error telling)

theorem Enumerated.map {α β γ δ : Type} {counted : Except Interruption Nat}
    {made : Except Interruption α} {told : Except Interruption β}
    (henumerated : Enumerated family index counted made told) (change : α → γ) (alter : β → δ) :
    Enumerated family index counted (made.map change) (told.map alter) := by
  cases henumerated with
  | below hindex made told => exact .below hindex (change made) (alter told)
  | past hindex => exact .past hindex
  | without hmaking htelling => exact .without hmaking htelling

/-! ## The host -/

/-- What the host says to a question about the device at an index, with its answer if there is such
a device. -/
def hostAnswer {α : Type} (platform : Platform) (index : Nat) (answer : α) :
    Except Interruption α :=
  if platform.hasHost then
    if index < hostDeviceCount then .ok answer
    else .error (.failure (.indexOutOfRange .cpu index hostDeviceCount))
  else .error (.failure (.backendNotEnabled .cpu))

theorem map_hostAnswer {α β : Type} (change : α → β) (platform : Platform) (index : Nat)
    (answer : α) :
    (hostAnswer platform index answer).map change = hostAnswer platform index (change answer) := by
  unfold hostAnswer
  split
  · split <;> rfl
  · rfl

/-- Whether there is an answer does not depend on what it is. -/
theorem hostAnswer_eq_ok {α β : Type} {answer value : α}
    (hanswer : hostAnswer platform index answer = .ok value) (other : β) :
    hostAnswer platform index other = .ok other := by
  unfold hostAnswer at hanswer ⊢
  split at hanswer
  · next hhost =>
    split at hanswer
    · next hindex => rw [if_pos hhost, if_pos hindex]
    · exact absurd hanswer (by simp)
  · exact absurd hanswer (by simp)

theorem outcome_checkHostIndex {α : Type} (index : Nat) (answer : α) (ambient : Ambient) :
    ((checkHostIndex index >>= fun _ ↦ pure answer).run.run ambient).1 =
      if index < hostDeviceCount then .ok answer
      else .error (.failure (.indexOutOfRange .cpu index hostDeviceCount)) := by
  by_cases hindex : index < hostDeviceCount
  · rw [checkHostIndex, if_neg (Nat.not_le_of_lt hindex), if_pos hindex]
    rfl
  · rw [checkHostIndex, if_pos (Nat.le_of_not_lt hindex), if_neg hindex]
    rfl

theorem outcome_device_cpu (platform : Platform) (index : Nat) (ambient : Ambient) :
    ((device platform .cpu index).run.run ambient).1 =
      hostAnswer platform index (.deviceWithContext index) := by
  show ((hostDevice platform index).run.run ambient).1 = _
  cases hhost : platform.hasHost with
  | false =>
    rw [hostDevice, hostAnswer, if_neg (by simp [hhost]), if_neg (by simp [hhost])]
    rfl
  | true =>
    rw [hostDevice, hostAnswer, if_pos hhost, if_pos hhost]
    exact outcome_checkHostIndex index _ (ambient.note [_])

/-- On a context of the host a device is made where one could be made without, and it is on this
context. -/
theorem outcome_deviceOn_host (platform : Platform) (id : ObjectId) (adopted : Bool)
    (ranges : RangeTracker) (index : Nat) (ambient : Ambient) :
    ((deviceOn platform id (.host adopted ranges) index).run.run ambient).1 =
      hostAnswer platform index (.device (.host index id)) := by
  have henables : platform.enables (Context.host adopted ranges).family = platform.hasHost := rfl
  cases hhost : platform.hasHost with
  | false =>
    rw [deviceOn, hostAnswer, if_neg (by simp [henables, hhost]), if_neg (by simp [hhost])]
    rfl
  | true =>
    rw [deviceOn, hostAnswer, if_pos (henables.trans hhost), if_pos hhost]
    exact outcome_checkHostIndex index _ ambient

theorem enumerated_host (platform : Platform) (index : Nat) (ambient : Ambient) {α β : Type}
    (made : α) (told : β) :
    Enumerated .cpu index ((deviceCount platform .cpu).run.run ambient).1
      (hostAnswer platform index made) (hostAnswer platform index told) := by
  have hcount : ((deviceCount platform .cpu).run.run ambient).1 =
      if platform.hasHost then .ok hostDeviceCount
      else .error (.failure (.backendNotEnabled .cpu)) := by
    unfold deviceCount Platform.enables
    cases platform.hasHost <;> rfl
  rw [hcount, hostAnswer, hostAnswer]
  split
  · split
    · next hindex => exact .below hindex made told
    · next hindex => exact .past (Nat.le_of_not_lt hindex)
  · exact .without rfl rfl

/-! ## The graphics back-end -/

/-- The graphics back-end does not get beyond a driver that is absent, if it is part of the build at
all. -/
def Unavailable {α : Type} (platform : Platform) (outcome : Except Interruption α) : Prop :=
  ∃ interruption, outcome = .error interruption ∧
    interruption.plain = .failure
      (if platform.hasGpu then .backendUnavailable .gpu "" else .backendNotEnabled .gpu)

theorem unavailable_of_panics {α : Type} {body : Deciding α} {ambient after : Ambient}
    {text : Option String} (hgpu : platform.hasGpu = true)
    (hpanics : body.run.run ambient = (.error (.panic text), after)) :
    Unavailable platform ((guardDriver body).run.run ambient).1 := by
  rw [run_guardDriver, hpanics]
  exact ⟨_, rfl, by rw [if_pos hgpu]; rfl⟩

theorem unavailable_of_not_hasGpu {α : Type} (hgpu : platform.hasGpu = false) (ambient : Ambient) :
    Unavailable platform
      ((refuse (.backendNotEnabled .gpu) : Deciding α).run.run ambient).1 :=
  ⟨_, rfl, by rw [if_neg (by simp [hgpu])]; rfl⟩

theorem unavailable_deviceCount (habsent : platform.driver.Absent) (ambient : Ambient) :
    Unavailable platform ((deviceCount platform .gpu).run.run ambient).1 := by
  obtain ⟨text, hcount⟩ := habsent.count
  have hunfold : deviceCount platform .gpu =
      if platform.hasGpu then guardDriver (ofDriver platform.driver.count)
      else refuse (.backendNotEnabled .gpu) := by
    unfold deviceCount Platform.enables
    cases platform.hasGpu <;> rfl
  rw [hunfold]
  cases hgpu : platform.hasGpu with
  | false => exact unavailable_of_not_hasGpu hgpu ambient
  | true =>
    rw [hcount]
    exact unavailable_of_panics hgpu rfl

theorem unavailable_device (habsent : platform.driver.Absent) (index : Nat) (ambient : Ambient) :
    Unavailable platform ((device platform .gpu index).run.run ambient).1 := by
  obtain ⟨text, hcount⟩ := habsent.count
  show Unavailable platform ((gpuDevice platform index).run.run ambient).1
  rw [gpuDevice]
  cases hgpu : platform.hasGpu with
  | false => exact unavailable_of_not_hasGpu hgpu ambient
  | true =>
    have hpanics : (Creation.device <$> newGpuDevice platform index).run.run ambient =
        (.error (.panic text), ambient) := by
      rw [newGpuDevice, hcount]
      rfl
    exact unavailable_of_panics hgpu hpanics

/-- Where the devices cannot be counted, none of them can be told about, for the same reason. -/
theorem outcome_deviceInfo_of_not_counted {interruption : Interruption} {ambient : Ambient}
    (hcount : ((deviceCount platform family).run.run ambient).1 = .error interruption) :
    ((deviceInfo platform family index).run.run ambient).1 = .error interruption := by
  unfold deviceInfo
  rw [run_bind]
  generalize (deviceCount platform family).run.run ambient = result at hcount
  obtain ⟨outcome, after⟩ := result
  obtain rfl : outcome = .error interruption := hcount
  rfl

theorem outcome_deviceInfo_cpu (platform : Platform) (index : Nat) (ambient : Ambient) :
    ((deviceInfo platform .cpu index).run.run ambient).1 = hostAnswer platform index {} := by
  cases hhost : platform.hasHost with
  | false =>
    rw [hostAnswer, if_neg (by simp [hhost])]
    apply outcome_deviceInfo_of_not_counted
    unfold deviceCount Platform.enables
    simp only [hhost]
    rfl
  | true =>
    have hcount : deviceCount platform .cpu = pure hostDeviceCount := by
      unfold deviceCount Platform.enables
      simp only [hhost]
      rfl
    unfold deviceInfo
    rw [hcount, pure_bind, hostAnswer, if_pos hhost]
    by_cases hindex : index < hostDeviceCount
    · rw [if_neg (Nat.not_le_of_lt hindex), if_pos hindex]
      rfl
    · rw [if_pos (Nat.le_of_not_lt hindex), if_neg hindex]
      rfl

theorem unavailable_deviceInfo (habsent : platform.driver.Absent) (index : Nat)
    (ambient : Ambient) :
    Unavailable platform ((deviceInfo platform .gpu index).run.run ambient).1 := by
  obtain ⟨interruption, hcount, hplain⟩ := unavailable_deviceCount habsent ambient
  exact ⟨interruption, outcome_deviceInfo_of_not_counted hcount, hplain⟩

/-! ## Agreement -/

/-- Without a driver, counting the devices of an explicit family, making one and telling about it
agree, at whatever moments they are asked for and whatever texts the driver panics with. -/
theorem enumerated (hfamily : family ≠ .auto) (habsent : platform.driver.Absent)
    {making telling : Driver} (hmaking : making.Absent) (htelling : telling.Absent) (index : Nat)
    (first second third : Ambient) :
    Enumerated family index ((deviceCount platform family).run.run first).1
      ((device { platform with driver := making } family index).run.run second).1
      ((deviceInfo { platform with driver := telling } family index).run.run third).1 := by
  cases family with
  | auto => exact absurd rfl hfamily
  | cpu =>
    rw [outcome_device_cpu, outcome_deviceInfo_cpu]
    exact enumerated_host platform index first _ _
  | gpu =>
    obtain ⟨counted, hcount, hplain⟩ := unavailable_deviceCount habsent first
    obtain ⟨made, hmade, hsame⟩ :=
      @unavailable_device { platform with driver := making } hmaking index second
    obtain ⟨told, htold, halike⟩ :=
      @unavailable_deviceInfo { platform with driver := telling } htelling index third
    rw [hcount, hmade, htold]
    exact .without (hsame.trans hplain.symm) (halike.trans hplain.symm)

/-! ## Devices on a context -/

/-- A context of the host does with a native handle of a device what it does with the first index,
up to an event. -/
theorem run_deviceOnNative (platform : Platform) (id : ObjectId) (context : Context)
    (native : Nat) : ∃ events, ∀ ambient, (deviceOnNative platform id context native).run.run ambient =
      (deviceOn platform id context 0).run.run (ambient.note events) := by
  unfold deviceOnNative
  split
  · exact ⟨[_], fun ambient ↦ rfl⟩
  · exact ⟨[], fun ambient ↦ by rw [Ambient.note_nil]⟩

/-- No device is made on a foreign context. -/
theorem deviceOn_foreign (platform : Platform) (id : ObjectId) (family : Family) (native : Nat)
    (adopted : Bool) (index : Nat) :
    deviceOn platform id (.foreign family native adopted) index =
      refuse (if platform.enables family then .familyMismatch family family
        else .backendNotEnabled family) := by
  show (if platform.enables family then _ else _) = _
  split <;> rfl

end Selection

end Offload
