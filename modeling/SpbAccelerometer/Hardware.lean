import SpbAccelerometer.SensorDevice
import SpbAccelerometer.Registry

/-!
# The registers realise the data update mode

With every transfer succeeding and the requests handled one at a time, the ADXL345 follows
the sensor object (`realizes_runDevice`): `POWER_CTL` is in measurement mode exactly outside
`Off`, `m_InterruptsEnabled` holds the activity interrupt exactly while eventing, and
`BW_RATE` and `THRESH_ACT` hold the codes of the arbitrated report interval and change
sensitivity.  `INT_ENABLE` holds the activity interrupt while eventing, but not only then:
`SetReportInterval` and `SetChangeSensitivity` end by enabling it whatever the mode, and a
change of the settings that keeps the mode leaves it enabled (`intEnable_after_second_connect`).
The interrupt routine masks `INT_SOURCE` with `m_InterruptsEnabled`, so the interrupts the
driver acts on are still those of `Eventing` (`Realizes.validInterrupts`).

`THRESH_ACT` is `(BYTE)(s / r)` for the smallest arbitrated sensitivity `s` and the step `r`:
the integer part when it is below `256` (`threshAct_of_lt`), and its low byte above, since
no client's sensitivity is bounded: `16` g in steps of `1/16` g programs `0`
(`threshAct_wraps`).
-/

namespace SpbAccelerometer

variable (c : Adxl345)

/-- The registers and `m_InterruptsEnabled` realise a mode: measurement outside `Off`, the
activity interrupt enabled while eventing, and `INT_ENABLE` either off or the activity
interrupt. -/
structure ModeRealized (regs : RegisterFile) (interruptsEnabled : UInt8) (mode : DataUpdateMode) :
    Prop where
  powerCtl : regs c.powerCtl = if mode = .off then c.powerCtlStandby else c.powerCtlMeasure
  interruptsEnabled : interruptsEnabled = modeInterrupts c mode
  intEnable_eventing : mode = .eventing → regs c.intEnable = c.intActivity
  intEnable : regs c.intEnable = 0 ∨ regs c.intEnable = c.intActivity

/-- The hardware realises the sensor object: its mode, and the arbitrated settings of its
client manager. -/
structure SensorDevice.Realizes (d : SensorDevice) : Prop where
  mode : ModeRealized c d.bus.regs d.interruptsEnabled d.dataUpdateMode
  bwRate : d.bus.regs c.bwRate = c.rateCode d.clientManager.minReportInterval
  threshAct : d.bus.regs c.threshAct = newThreshold c (copyValues d.clientManager.minSensitivityValues [])

theorem modeRealized_setMode (regs : RegisterFile) (mode : DataUpdateMode) :
    ModeRealized c (regs.setMode c mode) (modeInterrupts c mode) mode := by
  obtain ⟨h₁, -, -, -, -, -, h₇, -⟩ := c.registers_ne
  cases mode <;> constructor <;> simp [RegisterFile.setMode, h₁, h₇]

/-- Reprogramming a settings register enables the activity interrupt and keeps the mode. -/
theorem ModeRealized.reprogram {regs : RegisterFile} {ie : UInt8} {mode : DataUpdateMode}
    (h : ModeRealized c regs ie mode) {reg : UInt8} (hpc : c.powerCtl ≠ reg) (val : UInt8) : ModeRealized c (regs.reprogram c reg val) ie mode :=
  ⟨by rw [RegisterFile.reprogram_other c c.registers_ne.1 hpc, h.powerCtl], h.interruptsEnabled,
    fun _ => RegisterFile.reprogram_intEnable .., .inr (RegisterFile.reprogram_intEnable ..)⟩

theorem setMode_bwRate (regs : RegisterFile) (mode : DataUpdateMode) :
    regs.setMode c mode c.bwRate = regs c.bwRate := by
  obtain ⟨-, h₂, -, h₄, -, -⟩ := c.registers_ne
  cases mode <;> simp [RegisterFile.setMode, h₂, h₄]

theorem setMode_threshAct (regs : RegisterFile) (mode : DataUpdateMode) :
    regs.setMode c mode c.threshAct = regs c.threshAct := by
  obtain ⟨-, -, h₃, -, h₅, -⟩ := c.registers_ne
  cases mode <;> simp [RegisterFile.setMode, h₃, h₅]

/-- The interrupts the interrupt routine acts on, `INT_SOURCE & m_InterruptsEnabled` for an
`INT_SOURCE` within `INT_ENABLE`: the activity interrupt while eventing, none otherwise. -/
theorem ModeRealized.validInterrupts {regs : RegisterFile} {ie : UInt8} {mode : DataUpdateMode}
    (h : ModeRealized c regs ie mode) : regs c.intEnable &&& ie = modeInterrupts c mode := by
  rw [h.interruptsEnabled]
  cases mode with
  | eventing => rw [h.intEnable_eventing rfl]; exact UInt8.eq_of_toBitVec_eq BitVec.and_self
  | _ => exact UInt8.eq_of_toBitVec_eq BitVec.and_zero

/-! ## The requests keep the registers in step -/

/-- What the requests rely on besides the hardware: the sensor object is initialised, no
transfer fails, and the client manager keeps its arbitration. -/
structure SensorDevice.Operating (d : SensorDevice) : Prop where
  initialized : d.initialized = true
  sensorInitialized : d.sensorInitialized = true
  reliable : d.bus.faults = []
  arbitrated : d.clientManager.Arbitrated

namespace SensorDevice

variable {c} {d : SensorDevice}

theorem Operating.of_sameConfig {d' : SensorDevice} (ho : d.Operating) (hs : SameConfig d d') :
    d'.Operating :=
  ⟨hs.initialized ▸ ho.1, hs.sensorInitialized ▸ ho.2, hs.reliable ho.3, hs.clientManager ▸ ho.4⟩

theorem Realizes.of_sameConfig {d' : SensorDevice} (hr : d.Realizes c) (hs : SameConfig d d') :
    d'.Realizes c := by
  obtain ⟨hregs, hie, hmode, hcm, -⟩ := hs
  exact ⟨hregs ▸ hie ▸ hmode ▸ hr.1, hregs ▸ hcm ▸ hr.2, hregs ▸ hcm ▸ hr.3⟩

theorem Operating.withClientManager (ho : d.Operating) {cm : ClientManager} (hcm : cm.Arbitrated) :
    { d with clientManager := cm }.Operating :=
  ⟨ho.1, ho.2, ho.3, hcm⟩

theorem Operating.withIdle (ho : d.Operating) (n : Int) : { d with idleReferences := n }.Operating :=
  ⟨ho.1, ho.2, ho.3, ho.4⟩

theorem Realizes.withIdle (hr : d.Realizes c) (n : Int) : { d with idleReferences := n }.Realizes c :=
  ⟨hr.1, hr.2, hr.3⟩

/-- A request of the client manager that fails leaves it as it was. -/
theorem Operating.run_failed (ho : d.Operating) (r : ClientRequest)
    (hr : ¬(r.run d.clientManager).1.succeeded = true) : (r.run d.clientManager).2 = d.clientManager :=
  ho.arbitrated.run_failed r (Bool.not_eq_true _ ▸ hr)

/-- The state `SetDataUpdateMode(mode)` leaves on a reliable bus realises the mode. -/
theorem realizes_setMode (ho : d.Operating) (hr : d.Realizes c) (mode : DataUpdateMode) (log) :
    let d' := { d with
      bus := { d.bus with regs := d.bus.regs.setMode c mode, log := log }
      interruptsEnabled := modeInterrupts c mode
      dataUpdateMode := mode }
    d'.Operating ∧ d'.Realizes c :=
  ⟨⟨ho.1, ho.2, ho.3, ho.4⟩, ⟨modeRealized_setMode c _ _,
    (setMode_bwRate c _ _).trans hr.bwRate, (setMode_threshAct c _ _).trans hr.threshAct⟩⟩

theorem realizes_setDataUpdateMode (ho : d.Operating) (hr : d.Realizes c) (mode : DataUpdateMode) :
    (setDataUpdateMode c d mode).2.Operating ∧ (setDataUpdateMode c d mode).2.Realizes c := by
  rw [setDataUpdateMode_reliable c ho.reliable]
  exact realizes_setMode ho hr mode _

theorem realizes_applyDataUpdateMode (ho : d.Operating) (hr : d.Realizes c) :
    let a := applyDataUpdateMode c d
    a.1 = .sOk ∧ a.2.Operating ∧ a.2.Realizes c ∧
      a.2.dataUpdateMode = d.clientManager.getDataUpdateMode := by
  simp only [applyDataUpdateMode]
  split_ifs with hne
  · obtain ⟨ho', hr'⟩ := realizes_setDataUpdateMode ho hr d.clientManager.getDataUpdateMode
    rw [setDataUpdateMode_reliable c ho.reliable] at ho' hr' ⊢
    exact ⟨rfl, ho', hr', rfl⟩
  · exact ⟨rfl, ho, hr, (not_not.1 hne).symm⟩

/-- **`ApplyUpdatedProperties` on a reliable bus.**  It succeeds, programs the arbitrated
settings and sets the mode the client manager asks for. -/
theorem realizes_applyUpdatedProperties (ho : d.Operating)
    (hm : ModeRealized c d.bus.regs d.interruptsEnabled d.dataUpdateMode) :
    let a := applyUpdatedProperties c d
    a.1 = .sOk ∧ a.2.Operating ∧ a.2.Realizes c ∧
      a.2.dataUpdateMode = d.clientManager.getDataUpdateMode := by
  obtain ⟨-, h₂, h₃, -, -, -, -, -, -, h₁₀, h₁₁, h₁₂⟩ := c.registers_ne
  rw [applyUpdatedProperties_reliable c ho.reliable ho.initialized ho.sensorInitialized]
  exact realizes_applyDataUpdateMode ⟨ho.1, ho.2, ho.3, ho.4⟩
    ⟨(hm.reprogram c h₁₀ _).reprogram c h₁₁ _,
      by simp only [RegisterFile.reprogram_other c h₂ h₁₂, RegisterFile.reprogram_self c h₂],
      RegisterFile.reprogram_self c h₃ _⟩

theorem realizes_pollForData (ho : d.Operating) (hr : d.Realizes c) :
    (pollForData c d).2.Operating ∧ (pollForData c d).2.Realizes c :=
  ⟨ho.of_sameConfig (sameConfig_pollForData c d), hr.of_sameConfig (sameConfig_pollForData c d)⟩

theorem realizes_clientSubscribeToEvents (ho : d.Operating) (hr : d.Realizes c) (h : IWDFFile) :
    (clientSubscribeToEvents c d h).2.Operating ∧ (clientSubscribeToEvents c d h).2.Realizes c := by
  have hf := ho.run_failed (.subscribe h)
  simp only [ClientRequest.run] at hf
  simp only [clientSubscribeToEvents]
  split_ifs with hok
  · obtain ⟨-, ho', hr', -⟩ := realizes_applyUpdatedProperties
      (ho.withClientManager (ho.arbitrated.subscribe h)) hr.mode
    exact ⟨ho', hr'⟩
  · rw [hf hok]; exact ⟨ho, hr⟩

theorem realizes_clientUnsubscribeFromEvents (ho : d.Operating) (hr : d.Realizes c) (h : IWDFFile) :
    (clientUnsubscribeFromEvents c d h).2.Operating ∧
      (clientUnsubscribeFromEvents c d h).2.Realizes c := by
  have hf := ho.run_failed (.unsubscribe h)
  simp only [ClientRequest.run] at hf
  simp only [clientUnsubscribeFromEvents]
  split_ifs with hok
  · obtain ⟨-, ho', hr', -⟩ := realizes_applyUpdatedProperties
      (ho.withClientManager (ho.arbitrated.unsubscribe h)) hr.mode
    exact ⟨ho', hr'⟩
  · rw [hf hok]; exact ⟨ho, hr⟩

theorem realizes_clientConnect (ho : d.Operating) (hr : d.Realizes c) (h : IWDFFile) :
    (clientConnect c d h).2.Operating ∧ (clientConnect c d h).2.Realizes c := by
  have hf := ho.run_failed (.connect h)
  simp only [ClientRequest.run] at hf
  obtain ⟨-, ho', hr', -⟩ := realizes_applyUpdatedProperties
    (ho.withClientManager (ho.arbitrated.connect h)) hr.mode
  simp only [clientConnect]
  generalize applyUpdatedProperties c { d with clientManager := (d.clientManager.connect h).2 } = a
    at ho' hr' ⊢
  simp only [Bus.call_reliable ho'.reliable, HRESULT.succeeded_sOk, if_true,
    setDataUpdateMode_reliable c, ho'.reliable]
  split_ifs with hok hone
  · exact realizes_pollForData ⟨ho'.1, ho'.2, rfl, ho'.4⟩ ⟨modeRealized_setMode c _ .polling,
      (setMode_bwRate c _ .polling).trans hr'.bwRate, (setMode_threshAct c _ .polling).trans hr'.threshAct⟩
  · exact ⟨ho', hr'⟩
  · rw [hf hok]; exact ⟨ho, hr⟩

theorem realizes_clientDisconnect (ho : d.Operating) (hr : d.Realizes c) (h : IWDFFile) :
    (clientDisconnect c d h).2.Operating ∧ (clientDisconnect c d h).2.Realizes c := by
  have hf := ho.run_failed (.disconnect h)
  simp only [ClientRequest.run] at hf
  obtain ⟨-, ho', hr', -⟩ := realizes_applyUpdatedProperties
    (ho.withClientManager (ho.arbitrated.disconnect h)) hr.mode
  simp only [clientDisconnect]
  generalize applyUpdatedProperties c { d with clientManager := (d.clientManager.disconnect h).2 } = a
    at ho' hr' ⊢
  split_ifs with hok hzero
  · exact realizes_setDataUpdateMode (ho'.withIdle _) (hr'.withIdle _) .off
  · exact ⟨ho', hr'⟩
  · rw [hf hok]; exact ⟨ho, hr⟩

theorem realizes_setProperties (ho : d.Operating) (hr : d.Realizes c) (h : IWDFFile)
    (props : List (PropertyKey × PropValue)) (hp : ∀ kv ∈ props, isTestProperty kv.1 = false) :
    (setProperties c d h props).2.2.Operating ∧ (setProperties c d h props).2.2.Realizes c := by
  obtain ⟨rs, hrs⟩ := setPropertiesLoop_eq h props hp d [] false
  simp only [setProperties, hrs]
  obtain ⟨-, ho', hr', -⟩ := realizes_applyUpdatedProperties
    (ho.withClientManager (ho.arbitrated.runRequests rs)) hr.mode
  exact ⟨ho', hr'⟩

theorem realizes_stop (ho : d.Operating) (hr : d.Realizes c) :
    (stop c d).2.Operating ∧ (stop c d).2.Realizes c := by
  have hs := sameConfig_setState d .noData
  simp only [stop]
  split_ifs
  · exact realizes_setDataUpdateMode (ho.of_sameConfig hs) (hr.of_sameConfig hs) .off
  · exact ⟨ho.of_sameConfig hs, hr.of_sameConfig hs⟩

end SensorDevice

/-- The requests the invariant covers: `SetProperties` carries none of the test properties,
which write any register. -/
def DeviceRequest.NoTestProperties : DeviceRequest → Prop
  | .setProperties _ props => ∀ kv ∈ props, SensorDevice.isTestProperty kv.1 = false
  | _ => True

namespace SensorDevice

variable {c} {d : SensorDevice}

theorem realizes_handle (ho : d.Operating) (hr : d.Realizes c) (r : DeviceRequest)
    (hr' : r.NoTestProperties) : (r.handle c d).2.Operating ∧ (r.handle c d).2.Realizes c := by
  cases r with
  | clientConnect h => exact realizes_clientConnect ho hr h
  | clientDisconnect h => exact realizes_clientDisconnect ho hr h
  | clientSubscribeToEvents h => exact realizes_clientSubscribeToEvents ho hr h
  | clientUnsubscribeFromEvents h => exact realizes_clientUnsubscribeFromEvents ho hr h
  | setProperties h props => exact realizes_setProperties ho hr h props hr'
  | stop => exact realizes_stop ho hr

theorem realizes_runDevice_of (ho : d.Operating) (hr : d.Realizes c) (rs : List DeviceRequest)
    (hrs : ∀ r ∈ rs, r.NoTestProperties) :
    (runDevice c rs d).Operating ∧ (runDevice c rs d).Realizes c := by
  induction rs generalizing d with
  | nil => exact ⟨ho, hr⟩
  | cons r rest ih =>
    obtain ⟨ho', hr'⟩ := realizes_handle ho hr r (hrs r (List.mem_cons_self _ _))
    exact ih ho' hr' fun r' h => hrs r' (List.mem_cons_of_mem _ h)

/-! ## `Start` -/

/-- The sensor object after `Initialize`, before `Start`: initialised, no client, the client
manager set up with the defaults of `GetDefaultSettableProperties`, the mode `Off`, and no
interrupt enabled. -/
structure Fresh (c : Adxl345) (minReportInterval : UInt32) (d : SensorDevice) : Prop where
  initialized : d.initialized = true
  sensorInitialized : d.sensorInitialized = true
  reliable : d.bus.faults = []
  clientManager : d.clientManager = (ClientManager.new.initializeManager c.defaultReportInterval
    minReportInterval (defaultChangeSensitivities c)).2
  dataUpdateMode : d.dataUpdateMode = .off
  intEnable : d.bus.regs c.intEnable = 0
  interruptsEnabled : d.interruptsEnabled = 0

/-- The arbitrated sensitivity of the defaults is the default sensitivity. -/
theorem minChangeSensitivity_defaults :
    minChangeSensitivity (copyValues (copyValues (defaultChangeSensitivities c) []) []) =
      c.defaultChangeSensitivity := by
  have h := c.defaultChangeSensitivity_le_dblMax
  simp only [defaultChangeSensitivities, copyValues, setValue, minChangeSensitivity]
  simp only [List.foldl, PropVariant.vt, PropVariant.real, lt_irrefl, and_false, if_false, true_and]
  split_ifs <;> linarith

/-- `Start` on a fresh sensor object with a reliable bus configures the ADXL345, which then
realises the mode `Off` and the default settings. -/
theorem realizes_start {mi : UInt32} (hf : d.Fresh c mi) :
    (start c d).2.Operating ∧ (start c d).2.Realizes c := by
  have h := c.registers_nodup
  simp only [List.nodup_cons, List.mem_cons, List.mem_singleton, not_or, List.not_mem_nil,
    not_false_eq_true, List.nodup_nil, and_true] at h
  have hcount : ¬(0 < d.clientManager.getClientCount) := by
    simp [hf.clientManager, ClientManager.getClientCount, ClientManager.initializeManager,
      ClientManager.new]
  simp only [start, configureHardware, hf.sensorInitialized, hf.initialized, if_true,
    Bus.configure_reliable _ hf.reliable, HRESULT.succeeded_sOk, true_and, hcount, if_false]
  refine ⟨⟨rfl, rfl, hf.reliable, hf.clientManager ▸
    arbitrated_initializeManager (by simp [defaultChangeSensitivities, setValue,
      PropVariant.IsReal, PropVariant.vt])⟩, ⟨⟨?_, ?_, ?_, ?_⟩, ?_, ?_⟩⟩
  all_goals simp [configurationSettings, hf.dataUpdateMode, hf.interruptsEnabled, hf.intEnable,
    hf.clientManager, modeInterrupts, h, ClientManager.initializeManager, ClientManager.new,
    newThreshold, minChangeSensitivity_defaults]

theorem fresh_initialDevice (c : Adxl345) (mi : UInt32) : (initialDevice c mi).Fresh c mi :=
  ⟨rfl, rfl, rfl, rfl, rfl, rfl, rfl⟩

end SensorDevice

open SensorDevice

/-- **The registers realise the mode.**  From `Start` on a fresh sensor object, after every
sequence of requests handled one at a time with every transfer succeeding, `POWER_CTL`,
`m_InterruptsEnabled` and `INT_ENABLE` realise the data update mode, and `BW_RATE` and
`THRESH_ACT` hold the codes of the arbitrated settings. -/
theorem realizes_runDevice {mi : UInt32} {d : SensorDevice} (hf : d.Fresh c mi)
    (rs : List DeviceRequest) (hrs : ∀ r ∈ rs, r.NoTestProperties) :
    (runDevice c rs (start c d).2).Realizes c :=
  (realizes_runDevice_of (realizes_start hf).1 (realizes_start hf).2 rs hrs).2

/-- `(BYTE)x` keeps the low byte of the integer part. -/
theorem byteOfDouble_toNat (x : ℚ) : (byteOfDouble x).toNat = ⌊x⌋.toNat % 256 :=
  BitVec.toNat_ofNat ..

/-- Below `256` steps, `THRESH_ACT` holds the number of whole steps in the smallest arbitrated
sensitivity: the threshold at or below it. -/
theorem threshAct_of_lt {mi : UInt32} {d : SensorDevice} (hf : d.Fresh c mi)
    (rs : List DeviceRequest) (hrs : ∀ r ∈ rs, r.NoTestProperties) :
    (let d' := runDevice c rs (start c d).2
    let x := minChangeSensitivity (copyValues d'.clientManager.minSensitivityValues []) /
      c.changeSensitivityResolution
    x < 256 → (d'.bus.regs c.threshAct).toNat = ⌊x⌋.toNat) := by
  intro d' x hx
  have hr := (realizes_runDevice_of (realizes_start hf).1 (realizes_start hf).2 rs hrs).2
  have hlt : ⌊x⌋.toNat < 256 := by
    have := Int.floor_lt.2 (show x < ((256 : ℤ) : ℚ) by exact_mod_cast hx)
    omega
  rw [hr.threshAct, newThreshold, byteOfDouble_toNat, Nat.mod_eq_of_lt hlt]

/-- A second client leaves the activity interrupt enabled in `INT_ENABLE` while the mode stays
`Polling` and `m_InterruptsEnabled` is `0`. -/
theorem intEnable_after_second_connect :
    (let d := runDevice Adxl345.dataSheet [.clientConnect 1, .clientConnect 2]
      (start Adxl345.dataSheet (initialDevice Adxl345.dataSheet 10)).2
    d.dataUpdateMode = .polling ∧ d.interruptsEnabled = 0 ∧
      d.bus.regs Adxl345.dataSheet.intEnable = Adxl345.dataSheet.intActivity) := by
  with_unfolding_all decide

/-- One client asks for `16` g on every axis, `256` steps of `1/16` g: `THRESH_ACT` receives the
low byte of `256`, the most sensitive threshold `0`. -/
theorem threshAct_wraps :
    (let d := runDevice Adxl345.dataSheet [.clientConnect 1, .setProperties 1
      [(.sensorPropertyChangeSensitivity, .unknown [(.sensorDataTypeAccelerationXG, .r8 16),
        (.sensorDataTypeAccelerationYG, .r8 16), (.sensorDataTypeAccelerationZG, .r8 16)])]]
      (start Adxl345.dataSheet (initialDevice Adxl345.dataSheet 10)).2
    ⌊minChangeSensitivity (copyValues d.clientManager.minSensitivityValues []) /
        Adxl345.dataSheet.changeSensitivityResolution⌋ = 256 ∧
      d.bus.regs Adxl345.dataSheet.threshAct = 0) := by
  intro d
  have hm : d.clientManager.minSensitivityValues = [(.sensorDataTypeAccelerationXG, .r8 16),
      (.sensorDataTypeAccelerationYG, .r8 16), (.sensorDataTypeAccelerationZG, .r8 16)] := by
    with_unfolding_all decide
  have hs : minChangeSensitivity (copyValues d.clientManager.minSensitivityValues []) = 16 := by
    simp only [hm, copyValues, setValue, minChangeSensitivity, List.foldl, PropVariant.vt,
      PropVariant.real, true_and, lt_irrefl, if_false]
    norm_num [dblMax]
  have hf : ⌊(16 : ℚ) / Adxl345.dataSheet.changeSensitivityResolution⌋ = 256 := by
    norm_num [Adxl345.dataSheet]
  have hr : d.bus.regs Adxl345.dataSheet.threshAct =
      newThreshold Adxl345.dataSheet (copyValues d.clientManager.minSensitivityValues []) :=
    (realizes_runDevice_of (realizes_start (fresh_initialDevice _ _)).1
      (realizes_start (fresh_initialDevice _ _)).2 _
      (by simp [DeviceRequest.NoTestProperties, isTestProperty])).2.threshAct
  refine ⟨by rw [hs, hf], ?_⟩
  rw [hr, newThreshold, hs, byteOfDouble, hf]
  rfl

end SpbAccelerometer
