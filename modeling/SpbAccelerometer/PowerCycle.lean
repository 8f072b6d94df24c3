import SpbAccelerometer.SensorDdi

/-!
# `Stop` and `Start`: the part across power cycles

`Start` runs `ConfigureHardware`, which writes `POWER_CTL` standby, the default `BW_RATE` and
`THRESH_ACT`, and leaves `INT_ENABLE`; then, with a client, `ApplyUpdatedProperties`, which
programs the arbitrated settings and calls `SetDataUpdateMode` only when the mode the client
manager asks for differs from `m_DataUpdateMode`.  `Stop` sets the mode `Off`.

Once `RuntimeClassInitialize` succeeded, the sensor object is driven by the calls of the class
extension, the interrupt routine, the work item it queues and the report manager's timer
(`DriverEvent`), in any order.  The power protocol asks that each `Start` after the first
come after a `Stop`, with no call of the class extension between them (`PowerOrdered`).

    Booted, reliable, Realizes, mode Off → Start → Realizes          (realizes_start_off)
    reliable, clients, mode = the clients' mode ≠ Off → Start →
      the part in standby, the mode kept, not Realizes             (start_leaves_standby)
    RuntimeClassInitialize on a reliable bus, then Start, then any events whose calls
      follow the power protocol → Realizes   (driver_realizes_mode_across_power_cycles)

So the registers follow the sensor object across power cycles as long as each `Start` comes
after a `Stop`; a `Start` on a running sensor leaves the part in standby while the driver
polls or waits for events.  The interrupt path and the timer only read the part and the
caches (`sameConfig_event`).  The count of clients is a `ULONG`: a run has fewer than `2^32`
calls, so that `Start` finds no client exactly when there is none.
-/

namespace SpbAccelerometer

variable (c : Adxl345)

/-! ## Algorithm -/

/-- The calls the invariant covers: `OnSetProperties` carries none of the test properties,
which write any register. -/
def DdiCall.NoTestProperties : DdiCall → Prop
  | .onSetProperties _ _ props => ∀ kv ∈ props, SensorDevice.isTestProperty kv.1 = false
  | _ => True

/-- The power protocol between consecutive framework calls: a `Start` comes right after a
`Stop`. -/
def PowerOrdered (a b : DdiCall) : Prop := b = .start → a = .stop

/-- What drives the sensor object once `RuntimeClassInitialize` succeeded: a call of the class
extension, the interrupt routine, the work item it queues, and the report manager's timer.  A
run takes them in any order: the work item is not tied to a routine that queued it. -/
inductive DriverEvent where
  | ddi (call : DdiCall)
  | interruptIsr
  | interruptWorkItem
  | reportIntervalExpired

namespace DriverEvent

/-- The call of the class extension an event is, if it is one. -/
def ddiCall : DriverEvent → Option DdiCall
  | ddi call => some call
  | _ => none

/-- The sensor object after an event. -/
def run (sensorId : String) : DriverEvent → SensorDevice → SensorDevice
  | ddi call, d => call.run c sensorId d
  | interruptIsr, d => (SensorDevice.onInterruptIsr c d).2
  | interruptWorkItem, d => (SensorDevice.onInterruptWorkItem c d).2
  | reportIntervalExpired, d => (SensorDevice.reportIntervalExpired d).2.2.2

end DriverEvent

/-- The sensor object after a run of events. -/
def runEvents (sensorId : String) (events : List DriverEvent) (d : SensorDevice) : SensorDevice :=
  events.foldl (fun d e => e.run c sensorId d) d

/-- The calls of the sensor object a framework call other than `Start` forwards: requests with
none of the test properties, and the two reads. -/
def DeviceCall.Forwarded : DeviceCall → Prop
  | .request r => r.NoTestProperties
  | .getProperties _ | .getDataFields _ => True
  | _ => False

/-! ## Lemmas -/

/-! ### The calls a framework call forwards -/

theorem DdiCall.forwarded_toCall {sensorId : String} {call : DdiCall} (hc : call.NoTestProperties)
    (hs : call ≠ .start) {dc : DeviceCall} (h : call.toCall sensorId = some dc) : dc.Forwarded := by
  cases call <;> simp only [DdiCall.toCall] at h
  case start => exact absurd rfl hs
  case onSetProperties =>
    split_ifs at h
    cases h
    exact hc
  all_goals first
    | (cases h; trivial)
    | (split_ifs at h; cases h; trivial)

/-! ### The clients a call adds -/

theorem uint32_eq_zero_of_not_pos {n : UInt32} (h : ¬ 0 < n) : n = 0 :=
  uint32_toNat_inj.1 (Nat.eq_zero_of_not_pos fun hp => h (uint32_lt_iff.2 hp))

namespace ClientManager

variable {s : ClientManager}

theorem size_connect_le (h : IWDFFile) : (s.connect h).2.clientList.size ≤ s.clientList.size + 1 := by
  unfold connect
  split_ifs with h₀ h₁ h₂
  · exact Nat.le_succ _
  · exact Nat.le_succ _
  · exact Nat.le_succ _
  · rw [recalculateProperties_clientList]
    exact (ClientMap.size_assign_of_find_none newEntry (Option.not_isSome_iff_eq_none.1 h₂)).le

theorem size_disconnect_le (h : IWDFFile) : (s.disconnect h).2.clientList.size ≤ s.clientList.size := by
  unfold disconnect
  split_ifs
  · exact le_rfl
  · exact le_rfl
  · exact le_rfl
  · split
    · exact le_rfl
    · rw [recalculateProperties_clientList]
      exact Nat.le_of_succ_le (ClientMap.size_erase_of_find_some ‹_›).le

theorem size_subscribe (h : IWDFFile) : (s.subscribe h).2.clientList.size = s.clientList.size := by
  unfold subscribe
  split_ifs
  · rfl
  · split
    · rfl
    · split_ifs
      · rfl
      · rw [recalculateProperties_clientList]; exact ClientMap.size_assign_of_find_some _ ‹_›

theorem size_unsubscribe (h : IWDFFile) : (s.unsubscribe h).2.clientList.size = s.clientList.size := by
  unfold unsubscribe
  split_ifs
  · rfl
  · split
    · rfl
    · split_ifs
      · rfl
      · rw [recalculateProperties_clientList]; exact ClientMap.size_assign_of_find_some _ ‹_›

theorem size_setDesiredChangeSensitivity (h : IWDFFile) (values : PortableDeviceValues) :
    (s.setDesiredChangeSensitivity h values).2.2.clientList.size = s.clientList.size := by
  unfold setDesiredChangeSensitivity
  split_ifs
  · rfl
  · split
    · rfl
    · rw [recalculateProperties_clientList]; exact ClientMap.size_assign_of_find_some _ ‹_›

theorem size_setDesiredReportInterval (h : IWDFFile) (reportInterval : UInt32) :
    (s.setDesiredReportInterval h reportInterval).2.clientList.size = s.clientList.size := by
  unfold setDesiredReportInterval
  split_ifs
  · rfl
  · rfl
  · split
    · rfl
    · rw [recalculateProperties_clientList]; exact ClientMap.size_assign_of_find_some _ ‹_›

theorem size_setDesiredProperty (h : IWDFFile) (key : PropertyKey) (var : PropValue) :
    (s.setDesiredProperty h key var).2.2.clientList.size = s.clientList.size := by
  unfold setDesiredProperty
  split_ifs
  · rfl
  · split
    · exact size_setDesiredChangeSensitivity h _
    · rfl
  · split
    · exact size_setDesiredReportInterval h _
    · rfl
  · rfl

/-- With no client, the arbitrated settings are the defaults `ConfigureHardware` writes. -/
theorem arbitrated_of_no_client {mi : UInt32}
    (hcm : ClientManager.Reachable c.defaultReportInterval mi (defaultChangeSensitivities c) s)
    (hlt : s.clientList.size < 2 ^ 32) (h0 : s.clientCount = 0) :
    s.minReportInterval = c.defaultReportInterval ∧ newThreshold c (copyValues s.minSensitivityValues []) =
      byteOfDouble (c.defaultChangeSensitivity / c.changeSensitivityResolution) := by
  have hreal := SensorDevice.defaultChangeSensitivities_real c
  have hnil : s.clientList.entries = [] := by
    rw [← ClientMap.size_eq_zero_iff]
    have hc := (reachable_counted hcm).1
    rw [h0, ← uint32_toNat_inj, uint32_toNat_ofNat, UInt32.toNat_zero, Nat.mod_eq_of_lt hlt] at hc
    exact hc.symm
  have hmins : s.minSensitivityValues = copyValues (defaultChangeSensitivities c) [] := by
    rw [(reachable_arbitrated hreal hcm).mins, hnil, (ClientManager.reachable_config hcm).1]
    simp [arbitratedSensitivities, mapValues, desiredFor, ClientEntries.desiredSensitivities]
  exact ⟨(minReportInterval_spec hreal hcm).2.2 (by simp [hnil]),
    by rw [hmins, newThreshold, SensorDevice.minChangeSensitivity_defaults]⟩

end ClientManager

namespace SensorDevice

variable {d : SensorDevice}

/-- `ClientConnect` changes the client manager as `Connect` does. -/
theorem clientManager_clientConnect (h : IWDFFile) :
    (clientConnect c d h).2.clientManager = (d.clientManager.connect h).2 := by
  have ea := effect_applyUpdatedProperties c { d with clientManager := (d.clientManager.connect h).2 }
  simp only [clientConnect]
  generalize applyUpdatedProperties c { d with clientManager := (d.clientManager.connect h).2 } = a
    at ea ⊢
  split_ifs with hok hone hcall hm
  · exact (((ea.bind (effect_stopIdle a.2 _) hone.1).bind (effect_setDataUpdateMode c _ .polling)
      hcall).bind (effect_pollForData c _) hm).1
  · exact ((ea.bind (effect_stopIdle a.2 _) hone.1).bind (effect_setDataUpdateMode c _ .polling)
      hcall).1
  · exact (ea.bind (effect_stopIdle a.2 _) hone.1).1
  · exact ea.1
  · rfl

/-- `ClientDisconnect` changes the client manager as `Disconnect` does. -/
theorem clientManager_clientDisconnect (h : IWDFFile) :
    (clientDisconnect c d h).2.clientManager = (d.clientManager.disconnect h).2 := by
  have ea := effect_applyUpdatedProperties c
    { d with clientManager := (d.clientManager.disconnect h).2 }
  simp only [clientDisconnect]
  generalize applyUpdatedProperties c { d with clientManager := (d.clientManager.disconnect h).2 } = a
    at ea ⊢
  split_ifs
  · exact (effect_setDataUpdateMode c _ .off).1.trans ea.1
  · exact ea.1
  · rfl

/-- A request that only calls the client manager and then applies the settings. -/
theorem clientManager_applyAfter (r : HRESULT × ClientManager) :
    (if r.1.succeeded then applyUpdatedProperties c { d with clientManager := r.2 }
      else (r.1, { d with clientManager := r.2 })).2.clientManager = r.2 := by
  split
  · exact (effect_applyUpdatedProperties c _).1
  · rfl

theorem size_setPropertiesLoop (h : IWDFFile) :
    ∀ (props : List (PropertyKey × PropValue)) (d : SensorDevice) results fError,
      (setPropertiesLoop h props d results fError).2.2.clientManager.clientList.size =
        d.clientManager.clientList.size
  | [], _, _, _ => rfl
  | (key, var) :: rest, d, results, fError => by
    simp only [setPropertiesLoop]
    split <;> split <;> rw [size_setPropertiesLoop h rest]
    all_goals first
      | exact congrArg (fun cm => cm.clientList.size) (effect_setTestProperty d key var).1
      | exact ClientManager.size_setDesiredProperty h key var

/-- **A call adds at most one client.** -/
theorem size_call_le (call : DeviceCall) :
    (call.run c d).clientManager.clientList.size ≤ d.clientManager.clientList.size + 1 := by
  cases call with
  | request r =>
    cases r with
    | clientConnect h =>
      rw [DeviceCall.run, DeviceRequest.handle, clientManager_clientConnect]
      exact ClientManager.size_connect_le h
    | clientDisconnect h =>
      rw [DeviceCall.run, DeviceRequest.handle, clientManager_clientDisconnect]
      exact (ClientManager.size_disconnect_le h).trans (Nat.le_succ _)
    | clientSubscribeToEvents h =>
      rw [DeviceCall.run, DeviceRequest.handle, clientSubscribeToEvents, clientManager_applyAfter,
        ClientManager.size_subscribe]
      exact Nat.le_succ _
    | clientUnsubscribeFromEvents h =>
      rw [DeviceCall.run, DeviceRequest.handle, clientUnsubscribeFromEvents, clientManager_applyAfter,
        ClientManager.size_unsubscribe]
      exact Nat.le_succ _
    | setProperties h props =>
      rw [DeviceCall.run, DeviceRequest.handle, setProperties]
      dsimp only
      rw [(effect_applyUpdatedProperties c _).1, size_setPropertiesLoop]
      exact Nat.le_succ _
    | stop =>
      have e := effect_setState d .noData
      rw [DeviceCall.run, DeviceRequest.handle]
      simp only [stop]
      split
      · rw [(effect_setDataUpdateMode c _ .off).1, e.1]; exact Nat.le_succ _
      · rw [e.1]; exact Nat.le_succ _
  | start => rw [DeviceCall.run, clientManager_start]; exact Nat.le_succ _
  | pollForData => rw [DeviceCall.run, (effect_pollForData c d).1]; exact Nat.le_succ _
  | interruptWorkItem => rw [DeviceCall.run, clientManager_onInterruptWorkItem]; exact Nat.le_succ _
  | getProperties keys =>
    rw [DeviceCall.run, getProperties]; dsimp only
    rw [clientManager_getPropertiesLoop]; exact Nat.le_succ _
  | getDataFields keys =>
    rw [DeviceCall.run, getDataFields]; dsimp only
    split <;> rw [clientManager_pollIfStale] <;> exact Nat.le_succ _
  | reportIntervalExpired =>
    simp only [DeviceCall.run, reportIntervalExpired, hasStateChanged, getProperty_state]
    split_ifs <;> exact Nat.le_succ _

/-! ### The calls that only read -/

theorem sameConfig_getTestProperty (key : PropertyKey) : SameConfig d (d.getTestProperty key).2.2 := by
  unfold getTestProperty
  split_ifs
  all_goals first | exact .refl d | exact sameConfig_readRegister d _ _ _

theorem sameConfig_getProperty (key : PropertyKey) : SameConfig d (d.getProperty key).2.2 := by
  unfold getProperty
  split_ifs
  · exact sameConfig_getTestProperty key
  · exact .refl d
  · split <;> exact .refl d

theorem sameConfig_getPropertiesLoop :
    ∀ (keys : List PropertyKey) (d : SensorDevice) values fError,
      SameConfig d (getPropertiesLoop keys d values fError).2.2
  | [], d, _, _ => .refl d
  | key :: keys, d, values, fError => by
    simp only [getPropertiesLoop]
    split <;> exact (sameConfig_getProperty key).trans (sameConfig_getPropertiesLoop keys _ _ _)

theorem sameConfig_getDataFields (keys : List PropertyKey) :
    SameConfig d (getDataFields c d keys).2.2 := by
  have hp : SameConfig d (pollIfStale c d).2 := by
    simp only [pollIfStale, getProperty_state]
    split_ifs <;> first | exact sameConfig_pollForData c d | exact .refl d
  simp only [getDataFields]
  split <;> exact hp

/-! ### `Start` -/

/-- On a reliable bus, `ConfigureHardware` writes `POWER_CTL` standby and the default `BW_RATE`
and `THRESH_ACT`, and leaves `INT_ENABLE`. -/
theorem configure_regs {b : Bus} (hb : b.faults = []) :
    let regs := (Bus.configure (configurationSettings c) b).2.regs
    regs c.powerCtl = c.powerCtlStandby ∧ regs c.bwRate = c.rateCode c.defaultReportInterval ∧
      regs c.threshAct = byteOfDouble (c.defaultChangeSensitivity / c.changeSensitivityResolution) ∧
      regs c.intEnable = b.regs c.intEnable := by
  have h := c.registers_nodup
  simp only [List.nodup_cons, List.mem_cons, List.mem_singleton, not_or, List.not_mem_nil,
    not_false_eq_true, List.nodup_nil, and_true] at h
  rw [Bus.configure_reliable _ hb]
  simp [configurationSettings, Function.update, h, Ne.symm h.1.1, Ne.symm h.1.2.1,
    Ne.symm h.2.1.1, Ne.symm h.2.1.2.1, Ne.symm h.2.2.1.1]

/-- `Stop` finds the state in the cache `Initialize` filled. -/
theorem Booted.stateCached {mi : UInt32} (hB : d.Booted c mi) :
    (getValue d.sensorPropertyValues .sensorPropertyState).isSome :=
  isSome_getValue_iff.2 (hB.initialized.complete.properties ▸
    (by decide : PropertyKey.sensorPropertyState ∈ supportedProperties))

/-- `ConfigureHardware` on an initialised object with a reliable bus. -/
theorem configureHardware_reliable (ho : d.Operating) :
    configureHardware c d = (.sOk, { d with bus := (Bus.configure (configurationSettings c) d.bus).2 }) := by
  simp [configureHardware, ho.initialized, Bus.configure_reliable _ ho.reliable]

theorem Operating.configure (ho : d.Operating) :
    { d with bus := (Bus.configure (configurationSettings c) d.bus).2 }.Operating :=
  ⟨ho.1, ho.2, by simp [Bus.configure_reliable _ ho.reliable, ho.reliable], ho.4⟩

/-- **`Start` from `Off` keeps the part in step.**  On a reliable bus, `Start` of an object
`Initialize` led to whose registers realise the mode `Off` leaves registers that realise the
mode it sets: the settings the clients ask for, or with no client the defaults
`ConfigureHardware` writes. -/
theorem realizes_start_off {mi : UInt32} (hB : d.Booted c mi) (ho : d.Operating) (hr : d.Realizes c)
    (hoff : d.dataUpdateMode = .off) (hlt : d.clientManager.clientList.size < 2 ^ 32) :
    (start c d).2.Operating ∧ (start c d).2.Realizes c := by
  obtain ⟨hpc, hbw, hth, hie⟩ := configure_regs c ho.reliable
  have ho₁ := ho.configure c
  have hm₁ : ModeRealized c (Bus.configure (configurationSettings c) d.bus).2.regs d.interruptsEnabled
      d.dataUpdateMode := by
    have hm := hr.mode
    rw [hoff] at hm ⊢
    exact ⟨by simpa using hpc, hm.interruptsEnabled, fun h => absurd h (by decide),
      hie ▸ hm.intEnable⟩
  unfold start
  rw [if_pos ho.sensorInitialized, configureHardware_reliable c ho]
  dsimp only
  obtain ⟨ha, ho₂, hr₂, -⟩ := realizes_applyUpdatedProperties ho₁ hm₁
  split_ifs with hcount hok
  · exact realizes_pollForData ho₂ hr₂
  · exact absurd (by rw [ha]; rfl) hok
  · -- no client: the registers hold the defaults
    simp only [HRESULT.succeeded_sOk, true_and, ClientManager.getClientCount] at hcount
    obtain ⟨hmin, hth'⟩ := ClientManager.arbitrated_of_no_client c hB.clientManager hlt
      (uint32_eq_zero_of_not_pos hcount)
    exact ⟨ho₁, hm₁, hmin ▸ hbw, hth' ▸ hth⟩

/-- `Start` after `Start` and `Stop` on the object `Initialize` leaves. -/
theorem realizes_start_off_restarted :
    (let d₀ := ((initializeSensor Adxl345.dataSheet (construct ⟨fun _ => 0, [], [], fun _ => 0⟩) 10).getD
      (.sOk, construct ⟨fun _ => 0, [], [], fun _ => 0⟩)).2
    let d := (stop Adxl345.dataSheet (start Adxl345.dataSheet d₀).2).2
    d.Booted Adxl345.dataSheet 10 ∧ d.Operating ∧ d.Realizes Adxl345.dataSheet ∧
      d.dataUpdateMode = .off ∧ d.clientManager.clientList.size < 2 ^ 32 ∧
      (start Adxl345.dataSheet d).2.Operating ∧
      (start Adxl345.dataSheet d).2.Realizes Adxl345.dataSheet) := by
  intro d₀ d
  have he : initializeSensor Adxl345.dataSheet (construct ⟨fun _ => 0, [], [], fun _ => 0⟩) 10 =
      some (.sOk, d₀) := rfl
  have hB₀ : d₀.Booted Adxl345.dataSheet 10 := .init (constructed_construct _) he rfl
  have hf := (setUp_of_initializeSensor rfl he rfl).fresh (constructed_construct _) rfl rfl
  obtain ⟨ho₁, hr₁⟩ := realizes_start hf
  obtain ⟨ho, hr⟩ := realizes_stop ho₁ hr₁
  have hB₁ : (start Adxl345.dataSheet d₀).2.Booted Adxl345.dataSheet 10 := hB₀.run .start
  have hB : d.Booted Adxl345.dataSheet 10 := hB₁.run (.request .stop)
  obtain ⟨hoff, hcm, -⟩ := stop_reliable (c := Adxl345.dataSheet) ho₁.reliable hB₁.stateCached
  have hlt : d.clientManager.clientList.size < 2 ^ 32 := by
    rw [hcm, clientManager_start, hf.clientManager]
    decide
  exact ⟨hB, ho, hr, hoff, hlt, realizes_start_off _ hB ho hr hoff hlt⟩

/-- **`Start` on a running sensor leaves the part in standby.**  `ConfigureHardware` writes
`POWER_CTL` standby; with the mode the clients ask for already set, `ApplyDataUpdateMode` does
not call `SetDataUpdateMode`, so nothing writes `POWER_CTL` back, and the registers no longer
realise the mode the driver keeps. -/
theorem start_leaves_standby (ho : d.Operating) (hcount : 0 < d.clientManager.getClientCount)
    (hmode : d.clientManager.getDataUpdateMode = d.dataUpdateMode) :
    (start c d).2.dataUpdateMode = d.dataUpdateMode ∧
      (start c d).2.bus.regs c.powerCtl = c.powerCtlStandby ∧ ¬ (start c d).2.Realizes c := by
  have hon : d.dataUpdateMode ≠ .off := by
    rw [← hmode, ClientManager.getDataUpdateMode, if_neg fun h => absurd hcount (by
      rw [ClientManager.getClientCount, h]; decide)]
    split <;> nofun
  suffices h : (start c d).2.dataUpdateMode = d.dataUpdateMode ∧
      (start c d).2.bus.regs c.powerCtl = c.powerCtlStandby from
    ⟨h.1, h.2, fun hr => c.powerCtlMeasure_ne_standby (by
      have hp := hr.mode.powerCtl
      rw [h.1, if_neg hon, h.2] at hp
      exact hp.symm)⟩
  obtain ⟨-, -, -, -, -, -, -, -, -, h₁₀, h₁₁, -⟩ := c.registers_ne
  have ho₁ := ho.configure c
  unfold start
  rw [if_pos ho.sensorInitialized, configureHardware_reliable c ho]
  dsimp only
  rw [if_pos ⟨rfl, hcount⟩, applyUpdatedProperties_reliable c ho₁.reliable ho₁.initialized
    ho₁.sensorInitialized, applyDataUpdateMode]
  simp only [hmode, ne_eq, not_true_eq_false, if_false, HRESULT.succeeded_sOk, if_true]
  rw [(sameConfig_pollForData c _).dataUpdateMode, (sameConfig_pollForData c _).regs]
  dsimp only
  rw [RegisterFile.reprogram_other c c.registers_ne.1 h₁₁, RegisterFile.reprogram_other c c.registers_ne.1 h₁₀]
  exact ⟨rfl, (configure_regs c ho.reliable).1⟩

/-- A second `Start` with one client connected, polling. -/
theorem start_leaves_standby_connected :
    (let d := (clientConnect Adxl345.dataSheet
      (start Adxl345.dataSheet (initialDevice Adxl345.dataSheet 10)).2 1).2
    d.Operating ∧ 0 < d.clientManager.getClientCount ∧
      d.clientManager.getDataUpdateMode = d.dataUpdateMode ∧ d.dataUpdateMode = .polling ∧
      (start Adxl345.dataSheet d).2.dataUpdateMode = d.dataUpdateMode ∧
      (start Adxl345.dataSheet d).2.bus.regs Adxl345.dataSheet.powerCtl =
        Adxl345.dataSheet.powerCtlStandby ∧
      ¬ (start Adxl345.dataSheet d).2.Realizes Adxl345.dataSheet) := by
  intro d
  have hf := fresh_initialDevice Adxl345.dataSheet 10
  have ho : d.Operating :=
    (realizes_clientConnect (realizes_start hf).1 (realizes_start hf).2 1).1
  have hcount : 0 < d.clientManager.getClientCount := by with_unfolding_all decide
  have hmode : d.clientManager.getDataUpdateMode = d.dataUpdateMode := by with_unfolding_all decide
  have hpoll : d.dataUpdateMode = .polling := by with_unfolding_all decide
  exact ⟨ho, hcount, hmode, hpoll, start_leaves_standby _ ho hcount hmode⟩

/-! ### Framework calls -/

theorem realizes_forwarded (ho : d.Operating) (hr : d.Realizes c) {dc : DeviceCall}
    (h : dc.Forwarded) : (dc.run c d).Operating ∧ (dc.run c d).Realizes c := by
  cases dc with
  | request r => exact realizes_handle ho hr r h
  | getProperties keys =>
    have hs := sameConfig_getPropertiesLoop keys d [] false
    exact ⟨ho.of_sameConfig hs, hr.of_sameConfig hs⟩
  | getDataFields keys =>
    have hs := sameConfig_getDataFields c (d := d) keys
    exact ⟨ho.of_sameConfig hs, hr.of_sameConfig hs⟩
  | _ => exact h.elim

/-- A framework call adds at most one client. -/
theorem size_ddiCall_le (sensorId : String) (call : DdiCall) :
    (call.run c sensorId d).clientManager.clientList.size ≤ d.clientManager.clientList.size + 1 := by
  rw [DdiCall.run_eq]
  cases call.toCall sensorId with
  | none => exact Nat.le_succ _
  | some dc => exact size_call_le c dc

/-- **One framework call keeps the part in step.**  On a booted object whose registers realise
its mode, every call the class extension makes, with `Start` only on a stopped sensor, leaves
registers that realise the mode. -/
theorem realizes_ddiCall {mi : UInt32} (hB : d.Booted c mi) (ho : d.Operating) (hr : d.Realizes c)
    (hlt : d.clientManager.clientList.size < 2 ^ 32) (sensorId : String) {call : DdiCall}
    (hc : call.NoTestProperties) (hstart : call = .start → d.dataUpdateMode = .off) :
    (call.run c sensorId d).Operating ∧ (call.run c sensorId d).Realizes c := by
  by_cases hs : call = .start
  · subst hs
    exact realizes_start_off c hB ho hr (hstart rfl) hlt
  rw [DdiCall.run_eq]
  cases h : call.toCall sensorId with
  | none => exact ⟨ho, hr⟩
  | some dc => exact realizes_forwarded c ho hr (DdiCall.forwarded_toCall hc hs h)

/-! ### The interrupt path and the timer -/

theorem sameConfig_requestData : SameConfig d (requestData c d).2.2 := by
  simp only [requestData]
  split_ifs <;> first | exact .refl _ | exact sameConfig_readRegister d _ _ _

theorem sameConfig_onInterruptWorkItem : SameConfig d (onInterruptWorkItem c d).2 := by
  have h := sameConfig_requestData c (d := d)
  simp only [onInterruptWorkItem, dataAvailable, setTimeStamp]
  split
  · refine h.trans (SameConfig.trans ?_ (sameConfig_setState _ _))
    exact ⟨rfl, rfl, rfl, rfl, rfl, rfl, rfl, id⟩
  · exact h

theorem sameConfig_reportIntervalExpired : SameConfig d (reportIntervalExpired d).2.2.2 := by
  simp only [reportIntervalExpired, hasStateChanged, getProperty_state]
  split_ifs <;> exact ⟨rfl, rfl, rfl, rfl, rfl, rfl, rfl, id⟩

/-- The interrupt routine only reads `INT_SOURCE`. -/
theorem onInterruptIsr_snd :
    (onInterruptIsr c d).2 = if d.initialized then d.withFaults d.bus.faults.tail else d := by
  simp only [onInterruptIsr, Bus.next_eq, withFaults]
  split_ifs <;> rfl

/-- The interrupt routine, the work item and the timer leave the configuration alone. -/
theorem sameConfig_event (sensorId : String) {e : DriverEvent} (he : e.ddiCall = none) :
    SameConfig d (e.run c sensorId d) := by
  cases e with
  | ddi call => cases he
  | interruptIsr =>
    rw [DriverEvent.run, onInterruptIsr_snd]
    split_ifs
    · exact sameConfig_of_bus rfl fun hb => by rw [hb]; rfl
    · exact .refl d
  | interruptWorkItem => exact sameConfig_onInterruptWorkItem c
  | reportIntervalExpired => exact sameConfig_reportIntervalExpired

/-- `Booted` does not depend on the failures still to come: a call that reads nothing draws
them anew. -/
theorem Booted.withFaults {mi : UInt32} (hB : d.Booted c mi) (faults : List Bool) :
    (d.withFaults faults).Booted c mi :=
  hB.step (.getProperties []) faults

theorem Booted.event {mi : UInt32} (hB : d.Booted c mi) (sensorId : String) (e : DriverEvent) :
    (e.run c sensorId d).Booted c mi := by
  cases e with
  | ddi call => exact hB.runDdi sensorId [call]
  | interruptIsr =>
    rw [DriverEvent.run, onInterruptIsr_snd]
    split_ifs
    · exact hB.withFaults c _
    · exact hB
  | interruptWorkItem => exact hB.run .interruptWorkItem
  | reportIntervalExpired => exact hB.run .reportIntervalExpired

theorem DriverEvent.eq_ddi_of_ddiCall {e : DriverEvent} {call : DdiCall} (h : e.ddiCall = some call) :
    e = .ddi call := by
  cases e <;> cases h
  rfl

/-- **A run keeps the part in step.**  From a booted object whose registers realise its mode,
stopped when the last call was `Stop`, every run of events whose calls follow the power
protocol, with fewer clients than a `ULONG` counts, leaves registers that realise the mode. -/
theorem realizes_runEvents_of {mi : UInt32} (sensorId : String) (events : List DriverEvent) :
    ∀ {prev : DdiCall} {d : SensorDevice}, d.Booted c mi → d.Operating → d.Realizes c →
      (prev = .stop → d.dataUpdateMode = .off) →
      d.clientManager.clientList.size + (events.filterMap DriverEvent.ddiCall).length < 2 ^ 32 →
      (∀ call ∈ events.filterMap DriverEvent.ddiCall, call.NoTestProperties) →
      List.Chain PowerOrdered prev (events.filterMap DriverEvent.ddiCall) →
      (runEvents c sensorId events d).Operating ∧ (runEvents c sensorId events d).Realizes c := by
  induction events with
  | nil => exact fun _ ho hr _ _ _ _ => ⟨ho, hr⟩
  | cons e rest ih =>
    intro prev d hB ho hr hprev hn hc hch
    have hB' := hB.event c sensorId e
    cases hcall : e.ddiCall with
    | none =>
      -- the interrupt path and the timer: the configuration stays
      have hs := sameConfig_event c (d := d) sensorId hcall
      simp only [List.filterMap_cons, hcall] at hn hc hch
      exact ih hB' (ho.of_sameConfig hs) (hr.of_sameConfig hs)
        (fun h => hs.dataUpdateMode ▸ hprev h) (hs.clientManager ▸ hn) hc hch
    | some call =>
      -- a call of the class extension
      obtain rfl := DriverEvent.eq_ddi_of_ddiCall hcall
      simp only [List.filterMap_cons, hcall, List.length_cons, List.mem_cons, forall_eq_or_imp,
        List.chain_cons] at hn hc hch
      have hsz := size_ddiCall_le c (d := d) sensorId call
      obtain ⟨ho', hr'⟩ := realizes_ddiCall c hB ho hr (by omega) sensorId hc.1
        (fun h => hprev (hch.1 h))
      have hoff : call = .stop → (call.run c sensorId d).dataUpdateMode = .off := by
        rintro rfl
        exact (stop_reliable (c := c) ho.reliable hB.stateCached).1
      exact ih (d := call.run c sensorId d) hB' ho' hr' hoff (by omega) hc.2 hch.2

end SensorDevice

open SensorDevice

/-- The object `RuntimeClassInitialize` returns is one `Initialize` set up. -/
theorem SensorDdi.initializeSensor_of_runtimeClassInitialize {bus : Bus} {mi : UInt32}
    {hr : HRESULT} {d : SensorDevice}
    (he : SensorDdi.runtimeClassInitialize c bus mi = some (hr, some d)) :
    initializeSensor c (construct bus.call.2) mi = some (hr, d) := by
  simp only [SensorDdi.runtimeClassInitialize] at he
  split_ifs at he
  · obtain ⟨⟨hr', d'⟩, he', h⟩ := Option.map_eq_some'.1 he
    cases h
    exact he'
  · cases he

/-- **The registers follow the driver across power cycles.**  When `RuntimeClassInitialize`
succeeds on a part whose transfers all succeed and whose activity interrupt is off, then after
`Start` and every run of framework calls, interrupts and timer expiries in which each later
`Start` comes after a `Stop` with no call between them, with fewer than `2^32` calls and none
setting a test property, `POWER_CTL`, `m_InterruptsEnabled` and `INT_ENABLE` realise the data
update mode, and `BW_RATE` and `THRESH_ACT` hold the codes of the arbitrated settings. -/
theorem driver_realizes_mode_across_power_cycles {bus : Bus} {mi : UInt32} {hr : HRESULT}
    {d : SensorDevice} (he : SensorDdi.runtimeClassInitialize c bus mi = some (hr, some d))
    (hs : hr.succeeded = true) (hb : bus.faults = []) (hie : bus.regs c.intEnable = 0)
    (sensorId : String) (events : List DriverEvent)
    (hn : (events.filterMap DriverEvent.ddiCall).length < 2 ^ 32)
    (hc : ∀ call ∈ events.filterMap DriverEvent.ddiCall, call.NoTestProperties)
    (hp : List.Chain PowerOrdered .start (events.filterMap DriverEvent.ddiCall)) :
    (runEvents c sensorId (.ddi .start :: events) d).Realizes c := by
  have he' := SensorDdi.initializeSensor_of_runtimeClassInitialize c he
  rw [Bus.call_reliable hb] at he'
  have hsu := setUp_of_initializeSensor rfl he' hs
  have hf := hsu.fresh (constructed_construct bus) hie (hsu.reliable hb)
  have hB : d.Booted c mi := .init (constructed_construct bus) he' hs
  have h0 : (DdiCall.start.run c sensorId d).clientManager.clientList.size = 0 := by
    rw [DdiCall.run, clientManager_start, hf.clientManager]; rfl
  exact (realizes_runEvents_of c sensorId events (d := DdiCall.start.run c sensorId d)
    (hB.runDdi sensorId [.start]) (realizes_start hf).1 (realizes_start hf).2
    (fun h : DdiCall.start = .stop => nomatch h) (by omega) hc hp).2

/-- Connect, subscribe, an activity interrupt, the timer, `Stop`, `Start` and a read of the
data fields, on the part with every transfer succeeding. -/
theorem driver_realizes_mode_across_power_cycles_resumed :
    (let d := ((initializeSensor Adxl345.dataSheet (construct ⟨fun _ => 0, [], [], fun _ => 0⟩) 10).getD
      (.sOk, construct ⟨fun _ => 0, [], [], fun _ => 0⟩)).2
    let events : List DriverEvent := [.ddi (.onClientConnect 1 (some "accelerometer")),
      .ddi (.onClientSubscribeToEvents 1 (some "accelerometer")), .interruptIsr,
      .interruptWorkItem, .reportIntervalExpired, .ddi .stop, .reportIntervalExpired, .ddi .start,
      .ddi (.onGetDataFields 1 (some "accelerometer") supportedDataFields)]
    SensorDdi.runtimeClassInitialize Adxl345.dataSheet ⟨fun _ => 0, [], [], fun _ => 0⟩ 10 = some (.sOk, some d) ∧
      HRESULT.sOk.succeeded = true ∧ ([] : List Bool) = [] ∧
      (fun _ => 0 : RegisterFile) Adxl345.dataSheet.intEnable = 0 ∧
      (events.filterMap DriverEvent.ddiCall).length < 2 ^ 32 ∧
      (∀ call ∈ events.filterMap DriverEvent.ddiCall, call.NoTestProperties) ∧
      List.Chain PowerOrdered .start (events.filterMap DriverEvent.ddiCall) ∧
      (runEvents Adxl345.dataSheet "accelerometer" (.ddi .start :: events) d).Realizes
        Adxl345.dataSheet) := by
  intro d events
  have he : SensorDdi.runtimeClassInitialize Adxl345.dataSheet ⟨fun _ => 0, [], [], fun _ => 0⟩ 10 =
      some (.sOk, some d) := rfl
  have hc : ∀ call ∈ events.filterMap DriverEvent.ddiCall, call.NoTestProperties := by
    simp [events, DriverEvent.ddiCall, DdiCall.NoTestProperties]
  have hp : List.Chain PowerOrdered .start (events.filterMap DriverEvent.ddiCall) := by
    simp [events, DriverEvent.ddiCall, PowerOrdered]
  exact ⟨he, rfl, rfl, rfl, by decide, hc, hp,
    driver_realizes_mode_across_power_cycles _ he rfl rfl rfl _ _ (by decide) hc hp⟩

end SpbAccelerometer
