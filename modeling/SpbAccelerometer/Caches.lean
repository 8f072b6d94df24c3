import SpbAccelerometer.SupportedKeys
import SpbAccelerometer.Faults
import SpbAccelerometer.DataPaths

/-!
# The caches: their keys, and what a report brings into them

`InitializeSensorDriverInterface` fills the property cache with the supported properties and
the data field cache with the supported data fields.  Every later write into either cache is
a `SetValue` of a key it already holds: the state, the time stamp, and the axes of a report,
which `RequestData` only ever adds under the three supported axis keys.  So after any
sequence of requests, data arrivals, `Stop` and `Start` the two caches hold exactly the
supported keys, and `GetProperties` and `GetDataFields` answer every supported key from the
cache, never with an error (`caches_hold_supported_keys`).

`RequestData` adds the three axes of a report one after the other, each only if the one
before was in range, and `PollForData` and `OnInterruptWorkItem` merge the values only when
`RequestData` succeeded.  A report therefore reaches the data field cache whole or not at all
(`ReportArrived`, `dataArrival_whole_report`): with its three axes in range, each is cached
decoded; with one out of range, the in-range axes of the same report are dropped with it, and
no axis is reported as an error of its own (`out_of_range_axis_drops_sample`).
-/

namespace SpbAccelerometer

variable (c : Adxl345)

/-! ## Calls that leave the caches alone -/

theorem SameCaches.refl (d : SensorDevice) : SameCaches d d := ⟨rfl, rfl, rfl⟩

theorem SameCaches.trans {d₁ d₂ d₃ : SensorDevice} (h₁ : SameCaches d₁ d₂)
    (h₂ : SameCaches d₂ d₃) : SameCaches d₁ d₃ :=
  ⟨h₂.1.trans h₁.1, h₂.2.trans h₁.2, h₂.3.trans h₁.3⟩

namespace SensorDevice

variable (d : SensorDevice)

theorem sameCaches_setReportInterval (interval : UInt32) :
    SameCaches d (setReportInterval c d interval).2 := by
  simp only [setReportInterval]; split_ifs <;> exact ⟨rfl, rfl, rfl⟩

theorem sameCaches_setChangeSensitivity (var : PropValue) :
    SameCaches d (setChangeSensitivity c d var).2 := by
  simp only [setChangeSensitivity]; split_ifs <;> (try split) <;> exact ⟨rfl, rfl, rfl⟩

theorem sameCaches_applyDataUpdateMode : SameCaches d (applyDataUpdateMode c d).2 := by
  simp only [applyDataUpdateMode]; split_ifs
  exacts [sameCaches_setDataUpdateMode c d _, ⟨rfl, rfl, rfl⟩]

theorem sameCaches_applyUpdatedProperties : SameCaches d (applyUpdatedProperties c d).2 := by
  have e₁ := sameCaches_setReportInterval c d
    (d.clientManager.getArbitratedProperty .sensorPropertyCurrentReportInterval).2.ulVal
  simp only [applyUpdatedProperties]
  split_ifs
  · refine e₁.trans (SameCaches.trans ?_ ((sameCaches_setChangeSensitivity c _ _).trans
      (sameCaches_applyDataUpdateMode c _)))
    exact ⟨rfl, rfl, rfl⟩
  · refine e₁.trans (SameCaches.trans ?_ (sameCaches_setChangeSensitivity c _ _))
    exact ⟨rfl, rfl, rfl⟩
  · exact e₁.trans ⟨rfl, rfl, rfl⟩
  · exact e₁
  all_goals exact ⟨rfl, rfl, rfl⟩

theorem sameCaches_configureHardware : SameCaches d (configureHardware c d).2 := by
  simp only [configureHardware]; split_ifs <;> exact ⟨rfl, rfl, rfl⟩

theorem sameCaches_getProperty (key : PropertyKey) : SameCaches d (getProperty d key).2.2 := by
  simp only [getProperty, getTestProperty]
  split_ifs <;> (try split) <;> exact ⟨rfl, rfl, rfl⟩

theorem sameCaches_setTestProperty (key : PropertyKey) (var : PropValue) :
    SameCaches d (setTestProperty d key var).2 := by
  simp only [setTestProperty]; split_ifs <;> exact ⟨rfl, rfl, rfl⟩

theorem sameCaches_setProperties (h : IWDFFile) (props : List (PropertyKey × PropValue)) :
    SameCaches d (setProperties c d h props).2.2 := by
  have hl : ∀ (props : List (PropertyKey × PropValue)) d results fError,
      SameCaches d (setPropertiesLoop h props d results fError).2.2 := by
    intro props
    induction props with
    | nil => exact fun d _ _ => SameCaches.refl d
    | cons kv rest ih =>
      intro d results fError
      simp only [setPropertiesLoop]
      split_ifs
      all_goals first
        | exact (sameCaches_setTestProperty d _ _).trans (ih _ _ _)
        | (refine SameCaches.trans ?_ (ih _ _ _); exact ⟨rfl, rfl, rfl⟩)
  exact (hl props d [] false).trans (sameCaches_applyUpdatedProperties c _)

theorem sameCaches_getPropertiesLoop (keys : List PropertyKey) :
    ∀ (d : SensorDevice) values fError, SameCaches d (getPropertiesLoop keys d values fError).2.2 := by
  induction keys with
  | nil => exact fun d _ _ => SameCaches.refl d
  | cons key keys ih =>
    intro d values fError
    simp only [getPropertiesLoop]
    split_ifs <;> exact (sameCaches_getProperty d key).trans (ih _ _ _)

/-! ## The keys of the caches are the supported ones -/

/-- The keys of both caches are the tables of supported keys, in their order. -/
structure CachesComplete : Prop where
  properties : d.sensorPropertyValues.map Prod.fst = supportedProperties
  dataFields : d.sensorDataFieldValues.map Prod.fst = supportedDataFields

variable {c d}

theorem CachesComplete.of_sameCaches {d' : SensorDevice} (h : d.CachesComplete)
    (hs : SameCaches d d') : d'.CachesComplete :=
  ⟨hs.1 ▸ h.1, hs.2 ▸ h.2⟩

/-- New values of supported data fields keep the keys. -/
theorem CachesComplete.copyDataFields (h : d.CachesComplete) {values : PortableDeviceValues}
    (hv : ∀ kv ∈ values, kv.1 ∈ supportedDataFields) :
    { d with sensorDataFieldValues := copyValues values d.sensorDataFieldValues }.CachesComplete :=
  ⟨h.1, (keys_copyValues_of_mem fun kv hkv => h.2 ▸ hv kv hkv).trans h.2⟩

theorem complete_setTimeStamp (h : d.CachesComplete) : (setTimeStamp d).2.CachesComplete :=
  ⟨h.1, (keys_setValue_of_mem _ (by rw [h.2]; decide)).trans h.2⟩

theorem complete_setState (h : d.CachesComplete) (newState : SensorState) :
    (setState d newState).2.CachesComplete := by
  simp only [setState, getProperty_state]
  split_ifs
  · exact ⟨(keys_setValue_of_mem _ (by rw [h.1]; decide)).trans h.1, h.2⟩
  all_goals exact h

/-- The values of a report are the three axes, which are supported data fields. -/
theorem supported_of_axes {values : PortableDeviceValues}
    (h : values.map Prod.fst =
      [.sensorDataTypeAccelerationXG, .sensorDataTypeAccelerationYG, .sensorDataTypeAccelerationZG]) :
    ∀ kv ∈ values, kv.1 ∈ supportedDataFields := by
  intro kv hkv
  have hk := List.mem_map_of_mem Prod.fst hkv
  rw [h] at hk
  simp only [List.mem_cons, List.mem_singleton, List.not_mem_nil, or_false] at hk
  rcases hk with hk | hk | hk <;> rw [hk] <;> decide

theorem complete_pollForData (h : d.CachesComplete) : (pollForData c d).2.CachesComplete := by
  have hr := h.of_sameCaches (sameCaches_requestNewData c d)
  simp only [pollForData]
  split_ifs with hok
  · exact complete_setState (complete_setTimeStamp
      (hr.copyDataFields (supported_of_axes (keys_requestNewData c hok)))) _
  · exact hr

theorem complete_onInterruptWorkItem (h : d.CachesComplete) :
    (onInterruptWorkItem c d).2.CachesComplete := by
  have hr := h.of_sameCaches (sameCaches_requestData c d)
  simp only [onInterruptWorkItem, dataAvailable]
  split_ifs with hok
  · exact complete_setState ((complete_setTimeStamp hr).copyDataFields
      (supported_of_axes (keys_requestData c hok))) _
  · exact hr

theorem complete_clientConnect (h : d.CachesComplete) (hdl : IWDFFile) :
    (clientConnect c d hdl).2.CachesComplete := by
  have ha := CachesComplete.of_sameCaches (d := { d with clientManager := (d.clientManager.connect hdl).2 })
    ⟨h.1, h.2⟩ (sameCaches_applyUpdatedProperties c _)
  simp only [clientConnect]
  split_ifs
  · refine complete_pollForData (CachesComplete.of_sameCaches ?_ (sameCaches_setDataUpdateMode c _ _))
    exact ⟨ha.1, ha.2⟩
  · refine CachesComplete.of_sameCaches ?_ (sameCaches_setDataUpdateMode c _ _)
    exact ⟨ha.1, ha.2⟩
  · exact ⟨ha.1, ha.2⟩
  · exact ha
  · exact ⟨h.1, h.2⟩

theorem complete_stop (h : d.CachesComplete) : (stop c d).2.CachesComplete := by
  have hs := complete_setState h .noData
  simp only [stop]
  split_ifs
  exacts [hs.of_sameCaches (sameCaches_setDataUpdateMode c _ _), hs]

theorem complete_start (h : d.CachesComplete) : (start c d).2.CachesComplete := by
  have hr := h.of_sameCaches (sameCaches_configureHardware c d)
  have ha := hr.of_sameCaches (sameCaches_applyUpdatedProperties c (configureHardware c d).2)
  simp only [start]
  split_ifs
  exacts [complete_pollForData ha, ha, hr, h]

theorem complete_handle (h : d.CachesComplete) (r : DeviceRequest) :
    (r.handle c d).2.CachesComplete := by
  cases r with
  | clientConnect hdl => exact complete_clientConnect h hdl
  | clientDisconnect hdl =>
    have ha := CachesComplete.of_sameCaches
      (d := { d with clientManager := (d.clientManager.disconnect hdl).2 }) ⟨h.1, h.2⟩
      (sameCaches_applyUpdatedProperties c _)
    simp only [DeviceRequest.handle, clientDisconnect]
    split_ifs
    · refine CachesComplete.of_sameCaches ?_ (sameCaches_setDataUpdateMode c _ _)
      exact ⟨ha.1, ha.2⟩
    · exact ha
    · exact ⟨h.1, h.2⟩
  | clientSubscribeToEvents hdl | clientUnsubscribeFromEvents hdl =>
    simp only [DeviceRequest.handle, clientSubscribeToEvents, clientUnsubscribeFromEvents]
    split_ifs
    · refine CachesComplete.of_sameCaches ?_ (sameCaches_applyUpdatedProperties c _)
      exact ⟨h.1, h.2⟩
    · exact ⟨h.1, h.2⟩
  | setProperties hdl props => exact h.of_sameCaches (sameCaches_setProperties c d hdl props)
  | stop => exact complete_stop h

theorem complete_pollIfStale (h : d.CachesComplete) : (pollIfStale c d).2.CachesComplete := by
  simp only [pollIfStale, getProperty_state]
  split_ifs <;> first | exact complete_pollForData h | exact h

theorem complete_getDataFields (h : d.CachesComplete) (keys : List PropertyKey) :
    (getDataFields c d keys).2.2.CachesComplete := by
  simp only [getDataFields]
  split_ifs <;> exact complete_pollIfStale h

theorem complete_reportIntervalExpired (h : d.CachesComplete) :
    (reportIntervalExpired d).2.2.2.CachesComplete := by
  simp only [reportIntervalExpired, hasStateChanged, getProperty_state]
  split_ifs <;> exact ⟨h.1, h.2⟩

/-! ## `GetProperties` and `GetDataFields` find every supported key -/

/-- `GetProperty` of a supported property reads the cache, where it is. -/
theorem getProperty_supported (h : d.CachesComplete) {k : PropertyKey}
    (hk : k ∈ supportedProperties) :
    ∃ v, getValue d.sensorPropertyValues k = some v ∧ getProperty d k = (.sOk, .var v, d) := by
  have hnt : isTestProperty k = false ∧ k ≠ .sensorPropertyChangeSensitivity ∧
      k ≠ .sensorPropertyCurrentReportInterval := by
    revert k; decide
  obtain ⟨v, hv⟩ := Option.isSome_iff_exists.1 (isSome_getValue_iff.2 (h.1 ▸ hk))
  refine ⟨v, hv, ?_⟩
  simp [getProperty, hnt, hv]

theorem getValue_getPropertiesLoop (h : d.CachesComplete) {k : PropertyKey}
    (hk : k ∈ supportedProperties) {v : PropVariant} (hv : getValue d.sensorPropertyValues k = some v)
    (keys : List PropertyKey) (values : List (PropertyKey × PropValue)) (fError : Bool)
    (hin : k ∈ keys ∨ getValue values k = some (.var v)) :
    getValue (getPropertiesLoop keys d values fError).1 k = some (.var v) := by
  induction keys generalizing d values fError with
  | nil => simpa using hin
  | cons key keys ih =>
    have hs := sameCaches_getProperty d key
    simp only [getPropertiesLoop]
    by_cases hkey : key = k
    · subst hkey
      obtain ⟨v', hv', hr⟩ := getProperty_supported h hk
      rw [hv] at hv'
      cases hv'
      simp only [hr, HRESULT.succeeded_sOk, if_true]
      exact ih h hv _ _ (.inr (getValue_setValue_self _ _ _))
    · have hin' : k ∈ keys ∨ getValue values k = some (.var v) := by
        simpa [Ne.symm hkey] using hin
      split_ifs
      all_goals
        refine ih (h.of_sameCaches hs) (hs.1 ▸ hv) _ _ ?_
        rwa [getValue_setValue_ne _ _ (Ne.symm hkey)]

theorem getValue_getDataFieldsLoop {k : PropertyKey} {v : PropVariant}
    (hv : getValue d.sensorDataFieldValues k = some v) (keys : List PropertyKey)
    (values : PortableDeviceValues) (fError : Bool) (hin : k ∈ keys ∨ getValue values k = some v) :
    getValue (getDataFieldsLoop d keys values fError).1 k = some v := by
  induction keys generalizing values fError with
  | nil => simpa using hin
  | cons key keys ih =>
    simp only [getDataFieldsLoop]
    by_cases hkey : key = k
    · subst hkey
      simp only [hv]
      exact ih _ _ (.inr (getValue_setValue_self _ _ _))
    · have hin' : k ∈ keys ∨ getValue values k = some v := by simpa [Ne.symm hkey] using hin
      split
      all_goals
        refine ih _ _ ?_
        rwa [getValue_setValue_ne _ _ (Ne.symm hkey)]

end SensorDevice

/-- A call into the initialised sensor object: a request of the framework, `Start`, a poll,
the interrupt work item, `GetProperties`, `GetDataFields` or the report timer. -/
inductive DeviceCall where
  | request (r : DeviceRequest)
  | start
  | pollForData
  | interruptWorkItem
  | getProperties (keys : List PropertyKey)
  | getDataFields (keys : List PropertyKey)
  | reportIntervalExpired

/-- The sensor object after a call. -/
def DeviceCall.run (c : Adxl345) : DeviceCall → SensorDevice → SensorDevice
  | request r, d => (r.handle c d).2
  | start, d => (SensorDevice.start c d).2
  | pollForData, d => (SensorDevice.pollForData c d).2
  | interruptWorkItem, d => (SensorDevice.onInterruptWorkItem c d).2
  | getProperties keys, d => (d.getProperties keys).2.2
  | getDataFields keys, d => (SensorDevice.getDataFields c d keys).2.2
  | reportIntervalExpired, d => (SensorDevice.reportIntervalExpired d).2.2.2

/-- The sensor objects reachable after a successful `InitializeSensorDriverInterface`: any
object with the caches it filled (the rest of `Initialize` leaves them alone), then any
sequence of calls, each under any pattern of failures. -/
inductive SensorDevice.Initialized (c : Adxl345) : SensorDevice → Prop
  | init {d₀ d : SensorDevice} {minReportInterval : UInt32}
      (hs : (d₀.initializeSensorDriverInterface minReportInterval).1.succeeded = true)
      (hp : d.sensorPropertyValues =
        (d₀.initializeSensorDriverInterface minReportInterval).2.sensorPropertyValues)
      (hf : d.sensorDataFieldValues =
        (d₀.initializeSensorDriverInterface minReportInterval).2.sensorDataFieldValues) :
      Initialized c d
  | step {d : SensorDevice} (call : DeviceCall) (faults : List Bool) :
      Initialized c d → Initialized c (call.run c (d.withFaults faults))

namespace SensorDevice

variable {c} {d : SensorDevice}

theorem complete_run (h : d.CachesComplete) (call : DeviceCall) : (call.run c d).CachesComplete := by
  cases call with
  | request r => exact complete_handle h r
  | start => exact complete_start h
  | pollForData => exact complete_pollForData h
  | interruptWorkItem => exact complete_onInterruptWorkItem h
  | getProperties keys =>
    exact h.of_sameCaches ((sameCaches_getPropertiesLoop keys d [] false))
  | getDataFields keys => exact complete_getDataFields h keys
  | reportIntervalExpired => exact complete_reportIntervalExpired h

theorem Initialized.complete (hd : d.Initialized c) : d.CachesComplete := by
  induction hd with
  | @init d₀ d mi _ hp hf =>
    obtain ⟨h₁, h₂⟩ := keys_initializeSensorDriverInterface d₀ mi
    exact ⟨hp ▸ h₁, hf ▸ h₂⟩
  | @step d call faults _ ih => exact complete_run (d := d.withFaults faults) ⟨ih.1, ih.2⟩ call

end SensorDevice

open SensorDevice

/-- **The caches hold exactly the supported keys.**  After a successful
`InitializeSensorDriverInterface`, whatever requests, polls, interrupts, `Start`, `Stop` and
reads followed, under any failures: the keys of the property cache are the supported
properties and those of the data field cache the supported data fields, so none was removed
and none added.  `GetProperties` then reports the cached value, never an error, for every
supported property it is asked for, and `GetDataFields`, when it succeeds, the cached value
for every supported data field. -/
theorem caches_hold_supported_keys {d : SensorDevice} (hd : d.Initialized c) :
    d.sensorPropertyValues.map Prod.fst = supportedProperties ∧
      d.sensorDataFieldValues.map Prod.fst = supportedDataFields ∧
      (∀ keys k, k ∈ keys → k ∈ supportedProperties →
        ∃ v, getValue d.sensorPropertyValues k = some v ∧
          getValue (d.getProperties keys).2.1 k = some (.var v)) ∧
      (∀ keys k, k ∈ keys → k ∈ supportedDataFields →
        (getDataFields c d keys).1.succeeded = true →
        ∃ v, getValue (getDataFields c d keys).2.2.sensorDataFieldValues k = some v ∧
          getValue (getDataFields c d keys).2.1 k = some v) := by
  have h := hd.complete
  refine ⟨h.1, h.2, fun keys k hin hk => ?_, fun keys k hin hk hok => ?_⟩
  · obtain ⟨v, hv, -⟩ := getProperty_supported h hk
    exact ⟨v, hv, getValue_getPropertiesLoop h hk hv keys [] false (.inl hin)⟩
  · have hp := complete_pollIfStale (c := c) h
    obtain ⟨v, hv⟩ := Option.isSome_iff_exists.1 (isSome_getValue_iff.2 (hp.2 ▸ hk))
    by_cases hs : (pollIfStale c d).1.succeeded = true
    · simp only [getDataFields, hs, if_true]
      exact ⟨v, hv, getValue_getDataFieldsLoop hv keys [] false (.inl hin)⟩
    · simp [getDataFields, hs] at hok

/-- The object `InitializeSensorDriverInterface` fills, after `Start` and a first client. -/
theorem caches_hold_supported_keys_firstClient :
    (let d := DeviceCall.run Adxl345.dataSheet (.request (.clientConnect 1))
      ((DeviceCall.run Adxl345.dataSheet .start
        ((initializeSensorDriverInterface (initialDevice Adxl345.dataSheet 10) 10).2.withFaults
          [])).withFaults [])
    d.Initialized Adxl345.dataSheet ∧
      (d.sensorPropertyValues.map Prod.fst = supportedProperties ∧
      d.sensorDataFieldValues.map Prod.fst = supportedDataFields ∧
      (∀ keys k, k ∈ keys → k ∈ supportedProperties →
        ∃ v, getValue d.sensorPropertyValues k = some v ∧
          getValue (d.getProperties keys).2.1 k = some (.var v)) ∧
      (∀ keys k, k ∈ keys → k ∈ supportedDataFields →
        (getDataFields Adxl345.dataSheet d keys).1.succeeded = true →
        ∃ v, getValue (getDataFields Adxl345.dataSheet d keys).2.2.sensorDataFieldValues k = some v ∧
          getValue (getDataFields Adxl345.dataSheet d keys).2.1 k = some v))) :=
  have hd : Initialized Adxl345.dataSheet _ :=
    .step _ _ (.step _ _ (@Initialized.init _ (initialDevice Adxl345.dataSheet 10) _ 10
      (by rw [initializeSensorDriverInterface_reliable rfl]; rfl) rfl rfl))
  ⟨hd, caches_hold_supported_keys _ hd⟩

/-! ## What a report brings into the caches -/

/-- The axes of a report, each decoded from its two bytes, under their keys: the values
`RequestData` adds when the three are in range. -/
def reportAxes (bytes : List UInt8) : PortableDeviceValues :=
  [(.sensorDataTypeAccelerationXG, .r8 (decodeAxis (bytes.getD 0 0) (bytes.getD 1 0))),
    (.sensorDataTypeAccelerationYG, .r8 (decodeAxis (bytes.getD 2 0) (bytes.getD 3 0))),
    (.sensorDataTypeAccelerationZG, .r8 (decodeAxis (bytes.getD 4 0) (bytes.getD 5 0)))]

/-- What a data path is to do with the report `bytes` read on `d`: when the three axes are in
range, return `S_OK` with each axis, decoded, in the data field cache; otherwise return
`E_INVALIDARG` and leave the caches as they were. -/
def ReportArrived (d : SensorDevice) (bytes : List UInt8) (r : HRESULT × SensorDevice) : Prop :=
  if c.ReportInRange bytes then
    r.1 = .sOk ∧ ∀ kv ∈ reportAxes bytes, getValue r.2.sensorDataFieldValues kv.1 = some kv.2
  else r.1 = .eInvalidArg ∧ SameCaches d r.2

theorem addAxes_of_inRange {bytes : List UInt8} (h : c.ReportInRange bytes) :
    addAxes c bytes = (.sOk, reportAxes bytes) := by
  obtain ⟨hx, hy, hz⟩ := h
  simp only [addAxes, addDataFieldValue_axis c (.inl rfl),
    addDataFieldValue_axis c (.inr (.inl rfl)), addDataFieldValue_axis c (.inr (.inr rfl)),
    if_pos hx, if_pos hy, if_pos hz, HRESULT.succeeded_sOk, if_true]
  rfl

/-- The keys of a report are the three axes. -/
theorem mem_reportAxes {bytes : List UInt8} {kv : PropertyKey × PropVariant}
    (h : kv ∈ reportAxes bytes) : kv.1 = .sensorDataTypeAccelerationXG ∨
      kv.1 = .sensorDataTypeAccelerationYG ∨ kv.1 = .sensorDataTypeAccelerationZG := by
  simp only [reportAxes, List.mem_cons, List.mem_singleton, List.not_mem_nil, or_false] at h
  rcases h with rfl | rfl | rfl <;> simp

/-- Merged into a cache, the axes of a report are found with their values. -/
theorem getValue_copyValues_reportAxes (bytes : List UInt8) (values : PortableDeviceValues)
    {kv : PropertyKey × PropVariant} (h : kv ∈ reportAxes bytes) :
    getValue (copyValues (reportAxes bytes) values) kv.1 = some kv.2 := by
  rw [getValue_copyValues (by simp [reportAxes])]
  simp only [reportAxes, List.mem_cons, List.mem_singleton, List.not_mem_nil, or_false] at h
  rcases h with rfl | rfl | rfl <;> simp [reportAxes, getValue]

namespace SensorDevice

section DataArrival

variable {c} {d : SensorDevice}

theorem setState_sOk (h : (getValue d.sensorPropertyValues .sensorPropertyState).isSome)
    (newState : SensorState) : (setState d newState).1 = .sOk := by
  obtain ⟨v, hv⟩ := Option.isSome_iff_exists.1 h
  have h₁ : (getProperty d .sensorPropertyState).1 = .sOk := by
    simp [getProperty, isTestProperty, hv]
  simp only [setState, h₁, HRESULT.succeeded_sOk, if_true]
  split_ifs <;> rfl

@[simp] theorem sensorDataFieldValues_setState (newState : SensorState) :
    (setState d newState).2.sensorDataFieldValues = d.sensorDataFieldValues := by
  simp only [setState, getProperty_state]; split_ifs <;> rfl

variable (hi : d.initialized = true) (hb : d.bus.faults = [])
include hi hb

/-- On a reliable bus, `RequestData` of a report in range returns its axes. -/
theorem requestData_of_inRange (h : c.ReportInRange (d.bus.regs.read c.dataX0 dataReportSizeBytes)) :
    requestData c d = (.sOk, reportAxes (d.bus.regs.read c.dataX0 dataReportSizeBytes),
      { d with bus := { d.bus with log := d.bus.log ++ [(.requestData, true)] } }) := by
  simp [requestData, hi, Bus.readRegister_reliable hb, addAxes_of_inRange c h]

/-- With the data registers holding a report that has an axis out of range, `PollForData`
and `OnInterruptWorkItem` return `E_INVALIDARG` and leave the caches as they were. -/
theorem dataArrival_out_of_range (h : ¬c.ReportInRange (d.bus.regs.read c.dataX0 dataReportSizeBytes)) :
    (pollForData c d).1 = .eInvalidArg ∧ SameCaches d (pollForData c d).2 ∧
      (onInterruptWorkItem c d).1 = .eInvalidArg ∧ SameCaches d (onInterruptWorkItem c d).2 := by
  have hr : (requestData c d).1 = .eInvalidArg := by
    simp [requestData, hi, Bus.readRegister_reliable hb, addAxes_fst, h]
  have hs := sameCaches_requestData c d
  simp only [pollForData, onInterruptWorkItem, requestNewData, hi, if_true, hr]
  exact ⟨rfl, hs, rfl, hs⟩

end DataArrival

end SensorDevice

open SensorDevice

/-- **A report reaches the cache whole or not at all.**  On a reliable bus, with the state in
the property cache, both data paths do with the report in the data registers what
`ReportArrived` says: `PollForData` and `OnInterruptWorkItem` cache the three decoded axes
when all are in range, and otherwise return `E_INVALIDARG` with the caches untouched, the
in-range axes dropped with the others and no axis reported as an error of its own. -/
theorem dataArrival_whole_report {d : SensorDevice} (hi : d.initialized = true)
    (hb : d.bus.faults = []) (hst : (getValue d.sensorPropertyValues .sensorPropertyState).isSome) :
    (let bytes := d.bus.regs.read c.dataX0 dataReportSizeBytes
    ReportArrived c d bytes (pollForData c d) ∧ ReportArrived c d bytes (onInterruptWorkItem c d)) := by
  intro bytes
  unfold ReportArrived
  split_ifs with h
  · simp only [pollForData, onInterruptWorkItem, dataAvailable, requestNewData, hi, if_true,
      requestData_of_inRange hi hb h, HRESULT.succeeded_sOk, setTimeStamp,
      sensorDataFieldValues_setState]
    refine ⟨⟨setState_sOk (by exact hst) _, fun kv hkv => ?_⟩, setState_sOk (by exact hst) _,
      fun kv hkv => getValue_copyValues_reportAxes bytes _ hkv⟩
    have hts : kv.1 ≠ .sensorDataTypeTimestamp := by
      rcases mem_reportAxes hkv with h | h | h <;> simp [h]
    rw [getValue_setValue_ne _ _ hts, getValue_copyValues_reportAxes bytes _ hkv]
  · obtain ⟨h₁, h₂, h₃, h₄⟩ := dataArrival_out_of_range hi hb h
    exact ⟨⟨h₁, h₂⟩, h₃, h₄⟩

open SensorDevice

/-- After `Start` and a first client, whose `ClientConnect` polled once. -/
theorem dataArrival_whole_report_firstClient :
    (let d := runDevice Adxl345.dataSheet [.clientConnect 1]
      (start Adxl345.dataSheet (initialDevice Adxl345.dataSheet 10)).2
    d.initialized = true ∧ d.bus.faults = [] ∧
      (getValue d.sensorPropertyValues .sensorPropertyState).isSome ∧
      (let bytes := d.bus.regs.read Adxl345.dataSheet.dataX0 dataReportSizeBytes
      ReportArrived Adxl345.dataSheet d bytes (pollForData Adxl345.dataSheet d) ∧
        ReportArrived Adxl345.dataSheet d bytes (onInterruptWorkItem Adxl345.dataSheet d))) := by
  intro d
  have hi : d.initialized = true := by with_unfolding_all decide
  have hb : d.bus.faults = [] := by with_unfolding_all decide
  have hst : (getValue d.sensorPropertyValues .sensorPropertyState).isSome := by
    with_unfolding_all decide
  exact ⟨hi, hb, hst, dataArrival_whole_report Adxl345.dataSheet hi hb hst⟩

/-- After a first client polled a report of zeros, the part holds a report with X at `17` g,
out of range, and Y and Z at `1` and `2` g: both data paths drop the report, so the cache
keeps `0` for Y and Z. -/
theorem out_of_range_axis_drops_sample :
    (let d₀ := runDevice Adxl345.dataSheet [.clientConnect 1]
      (start Adxl345.dataSheet (initialDevice Adxl345.dataSheet 10)).2
    let d := { d₀ with bus := { d₀.bus with
      regs := d₀.bus.regs.write Adxl345.dataSheet.dataX0 [0x00, 0x11, 0x00, 0x01, 0x00, 0x02] } }
    decodeAxis 0x00 0x11 = 17 ∧ decodeAxis 0x00 0x01 = 1 ∧ decodeAxis 0x00 0x02 = 2 ∧
      getValue d.sensorDataFieldValues .sensorDataTypeAccelerationYG = some (.r8 0) ∧
      (pollForData Adxl345.dataSheet d).1 = .eInvalidArg ∧
      (pollForData Adxl345.dataSheet d).2.sensorDataFieldValues = d.sensorDataFieldValues ∧
      (onInterruptWorkItem Adxl345.dataSheet d).1 = .eInvalidArg ∧
      (onInterruptWorkItem Adxl345.dataSheet d).2.sensorDataFieldValues = d.sensorDataFieldValues) := by
  intro d₀ d
  obtain ⟨h₁, h₂, h₃, h₄⟩ := dataArrival_out_of_range (c := Adxl345.dataSheet) (d := d)
    (by with_unfolding_all decide) (by with_unfolding_all decide) (by with_unfolding_all decide)
  refine ⟨?_, ?_, ?_, ?_, h₁, h₂.2, h₃, h₄.2⟩ <;> with_unfolding_all decide

end SpbAccelerometer
