import SpbAccelerometer.AccelerometerDevice

/-!
# `CSensorDevice`: the data update mode and the client requests

The base class keeps the client manager, the property and data-field caches and the data
update mode `m_DataUpdateMode`.  After every change of the clients it calls
`ApplyUpdatedProperties`, which programs the arbitrated report interval and change
sensitivity and, when the client manager asks for another mode, calls `SetDataUpdateMode`.
`SetDataUpdateMode` records the new mode only when its device state was set.

The requests of the framework are `ClientConnect`, `ClientDisconnect`,
`ClientSubscribeToEvents`, `ClientUnsubscribeFromEvents`, `SetProperties` and `Stop`; the
first client stops idle detection (`StopIdle`) and the last one resumes it.  Here each
request runs alone, as when the queue hands them over one at a time.
-/

namespace SpbAccelerometer

variable (c : Adxl345)

/-- The registers `SetDataUpdateMode(mode)` leaves when every transfer succeeds. -/
def RegisterFile.setMode (regs : RegisterFile) : DataUpdateMode → RegisterFile
  | .off => Function.update (Function.update regs c.intEnable 0) c.powerCtl c.powerCtlStandby
  | .polling => Function.update (Function.update regs c.intEnable 0) c.powerCtl c.powerCtlMeasure
  | .eventing => Function.update (Function.update regs c.powerCtl c.powerCtlMeasure) c.intEnable
      c.intActivity

/-- The accesses `SetDataUpdateMode(mode)` makes when every transfer succeeds. -/
def modeAccesses : DataUpdateMode → List (AccessSite × Bool)
  | .off => [(.standbyIntEnable, true), (.standbyIntSource, true), (.standbyPowerCtl, true)]
  | .polling => [(.pollingIntEnable, true), (.pollingPowerCtl, true)]
  | .eventing => [(.eventingPowerCtl, true), (.eventingIntEnable, true)]

/-- `m_InterruptsEnabled` in a mode: the activity interrupt while eventing. -/
def modeInterrupts : DataUpdateMode → UInt8
  | .eventing => c.intActivity
  | _ => 0

namespace SensorDevice

/-- `SetDataUpdateMode(Mode)`. -/
def setDataUpdateMode (d : SensorDevice) (mode : DataUpdateMode) : HRESULT × SensorDevice :=
  let r := match mode with
    | .off => setDeviceStateStandby c d
    | .polling => setDeviceStatePolling c d
    | .eventing => setDeviceStateEventing c d
  if r.1.succeeded then (r.1, { r.2 with dataUpdateMode := mode }) else r

theorem setDataUpdateMode_reliable {d : SensorDevice} (hb : d.bus.faults = []) (mode : DataUpdateMode) :
    setDataUpdateMode c d mode = (.sOk, { d with
      bus := { d.bus with regs := d.bus.regs.setMode c mode, log := d.bus.log ++ modeAccesses mode }
      interruptsEnabled := modeInterrupts c mode
      dataUpdateMode := mode }) := by
  cases mode <;> simp [setDataUpdateMode, setDeviceStateStandby_reliable hb,
    setDeviceStatePolling_reliable hb, setDeviceStateEventing_reliable hb, RegisterFile.setMode,
    modeAccesses, modeInterrupts]

/-- `IsTestProperty(key)`. -/
def isTestProperty (key : PropertyKey) : Bool :=
  key = .sensorPropertyTestRegister ∨ key = .sensorPropertyTestDataSize ∨
    key = .sensorPropertyTestData

/-- `GetTestProperty(key, pVar)`. -/
def getTestProperty (d : SensorDevice) (key : PropertyKey) : HRESULT × PropValue × SensorDevice :=
  if d.initialized then
    if key = .sensorPropertyTestRegister then (.sOk, .var (.ui4 d.testRegister), d)
    else if key = .sensorPropertyTestDataSize then (.sOk, .var (.ui4 d.testDataSize), d)
    else if key = .sensorPropertyTestData then
      let r := d.bus.readRegister .testData (UInt8.ofNat d.testRegister.toNat) d.testDataSize.toNat
      (r.1, if r.1.succeeded then .var (.vectorUi1 r.2.1) else .var .empty, { d with bus := r.2.2 })
    else (.errorNotFound, .var .empty, d)
  else (.eUnexpected, .var .empty, d)

/-- `GetProperty(key, pVar)`: test properties from the device, the settable ones from the
client manager, the others from the property cache. -/
def getProperty (d : SensorDevice) (key : PropertyKey) : HRESULT × PropValue × SensorDevice :=
  if isTestProperty key then getTestProperty d key
  else if key = .sensorPropertyChangeSensitivity ∨ key = .sensorPropertyCurrentReportInterval then
    let r := d.clientManager.getArbitratedProperty key
    (r.1, r.2, d)
  else match getValue d.sensorPropertyValues key with
    | some v => (.sOk, .var v, d)
    | none => (.errorNotFound, .var .empty, d)

/-- `SetState(newState)`: a state that differs from the cached one is written and flagged
for the next report. -/
def setState (d : SensorDevice) (newState : SensorState) : HRESULT × SensorDevice :=
  let r := getProperty d .sensorPropertyState
  let d := r.2.2
  if r.1.succeeded then
    if r.2.1.ulVal ≠ newState.toUInt32 then
      (.sOk, { d with
        sensorPropertyValues :=
          setValue d.sensorPropertyValues .sensorPropertyState (.ui4 newState.toUInt32)
        stateChanged := true })
    else (.sOk, d)
  else (r.1, d)

/-- `HasStateChanged()`: the flag, which it clears. -/
def hasStateChanged (d : SensorDevice) : Bool × SensorDevice :=
  (d.stateChanged, { d with stateChanged := false })

/-- `SetTimeStamp()`. -/
def setTimeStamp (d : SensorDevice) : HRESULT × SensorDevice :=
  (.sOk, { d with
    sensorDataFieldValues := setValue d.sensorDataFieldValues .sensorDataTypeTimestamp (.filetime d.time) })

/-- `PollForData()`: read a sample, merge it into the cache, stamp it, and mark the sensor
ready. -/
def pollForData (d : SensorDevice) : HRESULT × SensorDevice :=
  let r := requestNewData c d
  let d := r.2.2
  if r.1.succeeded then
    let t := setTimeStamp { d with sensorDataFieldValues := copyValues r.2.1 d.sensorDataFieldValues }
    setState t.2 .ready
  else (r.1, d)

/-- `DataAvailable(pValues)`: stamp, merge, mark the sensor ready. -/
def dataAvailable (d : SensorDevice) (values : PortableDeviceValues) : HRESULT × SensorDevice :=
  let t := setTimeStamp d
  setState { t.2 with sensorDataFieldValues := copyValues values t.2.sensorDataFieldValues } .ready

/-- `OnInterruptWorkItem`: `RequestData`, then `DataAvailable` with the values read. -/
def onInterruptWorkItem (d : SensorDevice) : HRESULT × SensorDevice :=
  let r := requestData c d
  if r.1.succeeded then dataAvailable r.2.2 r.2.1 else (r.1, r.2.2)

/-- The loop of `GetDataFields`: `GetDataField` of each key, then `SetValue` of the value or
`SetErrorValue` of the failure, and `fError`. -/
def getDataFieldsLoop (d : SensorDevice) :
    List PropertyKey → PortableDeviceValues → Bool → PortableDeviceValues × Bool
  | [], values, fError => (values, fError)
  | key :: keys, values, fError =>
    match getValue d.sensorDataFieldValues key with
    | some v => getDataFieldsLoop d keys (setValue values key v) fError
    | none => getDataFieldsLoop d keys (setValue values key (.error .errorNotFound)) true

/-- The first block of `GetDataFields`: `PollForData()` when polling or when the sensor is
not `READY`. -/
def pollIfStale (d : SensorDevice) : HRESULT × SensorDevice :=
  let r := getProperty d .sensorPropertyState
  let current := if r.1.succeeded then r.2.1.ulVal else SensorState.notAvailable.toUInt32
  if d.dataUpdateMode = .polling ∨ current ≠ SensorState.ready.toUInt32 then pollForData c r.2.2
  else (r.1, r.2.2)

/-- `GetDataFields(appId, pDataFields, ppDataFieldValues)`: new data first when polling or
when the sensor is not `READY`, then the cached value of each key. -/
def getDataFields (d : SensorDevice) (keys : List PropertyKey) :
    HRESULT × PortableDeviceValues × SensorDevice :=
  let p := pollIfStale c d
  if p.1.succeeded then
    let l := getDataFieldsLoop p.2 keys [] false
    (if l.2 then .sFalse else p.1, l.1, p.2)
  else (p.1, [], p.2)

/-- The loop of `GetProperties`: `GetProperty` of each key, then `SetValue` of the value or
`SetErrorValue` of the failure, and `fError`. -/
def getPropertiesLoop :
    List PropertyKey → SensorDevice → List (PropertyKey × PropValue) → Bool →
      List (PropertyKey × PropValue) × Bool × SensorDevice
  | [], d, values, fError => (values, fError, d)
  | key :: keys, d, values, fError =>
    let r := getProperty d key
    if r.1.succeeded then getPropertiesLoop keys r.2.2 (setValue values key r.2.1) fError
    else getPropertiesLoop keys r.2.2 (setValue values key (.var (.error r.1))) true

/-- `GetProperties(appId, pProperties, ppPropertyValues)`: the status, the values and the
state; `S_FALSE` when a key failed. -/
def getProperties (d : SensorDevice) (keys : List PropertyKey) :
    HRESULT × List (PropertyKey × PropValue) × SensorDevice :=
  let l := getPropertiesLoop keys d [] false
  (if l.2.1 then .sFalse else .sOk, l.1, l.2.2)

/-- `ReportIntervalExpired()`: the status, the state passed to `PostStateChange` and the
parameters passed to `PostDataEvent` (each posted at most once), and the device.  The
parameters are the data field cache (`GetAllDataFields`). -/
def reportIntervalExpired (d : SensorDevice) :
    HRESULT × List UInt32 × List PortableDeviceValues × SensorDevice :=
  let fields := d.sensorDataFieldValues
  let r := hasStateChanged d
  if r.1 then
    let p := getProperty r.2 .sensorPropertyState
    if p.1.succeeded then (.sOk, [p.2.1.ulVal], [fields], p.2.2) else (p.1, [], [], p.2.2)
  else (.sOk, [], [fields], r.2)

/-- The end of `ApplyUpdatedProperties`: the mode the client manager asks for, set when it
differs from the current one. -/
def applyDataUpdateMode (d : SensorDevice) : HRESULT × SensorDevice :=
  let newMode := d.clientManager.getDataUpdateMode
  if newMode ≠ d.dataUpdateMode then setDataUpdateMode c d newMode else (.sOk, d)

/-- `ApplyUpdatedProperties()`. -/
def applyUpdatedProperties (d : SensorDevice) : HRESULT × SensorDevice :=
  if d.sensorInitialized then
    let v := d.clientManager.getArbitratedProperty .sensorPropertyCurrentReportInterval
    if v.1.succeeded then
      let r := setReportInterval c d v.2.ulVal
      if r.1.succeeded then
        let d := { r.2 with reportInterval := v.2.ulVal }
        let s := d.clientManager.getArbitratedProperty .sensorPropertyChangeSensitivity
        if s.1.succeeded then
          let r := setChangeSensitivity c d s.2
          if r.1.succeeded then applyDataUpdateMode c r.2 else r
        else (s.1, d)
      else r
    else (v.1, d)
  else (.eUnexpected, d)

/-- On a bus with no failure left, `ApplyUpdatedProperties` programs the arbitrated interval and
sensitivities and then sets the mode the client manager asks for. -/
theorem applyUpdatedProperties_reliable {d : SensorDevice} (hb : d.bus.faults = [])
    (hi : d.initialized = true) (hsi : d.sensorInitialized = true) :
    applyUpdatedProperties c d = applyDataUpdateMode c { d with
      bus := { d.bus with
        regs := (d.bus.regs.reprogram c c.bwRate (c.rateCode d.clientManager.minReportInterval)).reprogram
          c c.threshAct (newThreshold c (copyValues d.clientManager.minSensitivityValues []))
        log := d.bus.log ++
          [(.intervalIntEnableOff, true), (.intervalBwRate, true), (.intervalIntEnableOn, true),
            (.sensitivityIntEnableOff, true), (.sensitivityThreshAct, true),
            (.sensitivityIntEnableOn, true)] }
      reportInterval := d.clientManager.minReportInterval
      deviceReportInterval := d.clientManager.minReportInterval
      deviceChangeSensitivity := copyValues d.clientManager.minSensitivityValues [] } := by
  simp [applyUpdatedProperties, hsi, ClientManager.getArbitratedProperty, PropValue.ulVal,
    PropVariant.ulVal, setReportInterval_reliable, setChangeSensitivity_reliable, hb, hi]

/-! ## Requests -/

/-- `ClientConnect(appId)`. -/
def clientConnect (d : SensorDevice) (h : IWDFFile) : HRESULT × SensorDevice :=
  let r := d.clientManager.connect h
  let d := { d with clientManager := r.2 }
  if r.1.succeeded then
    let clientCount := d.clientManager.getClientCount
    let a := applyUpdatedProperties c d
    if a.1.succeeded ∧ clientCount = 1 then
      let s := a.2.bus.call
      let d := { a.2 with
        bus := s.2
        idleReferences := if s.1.succeeded then a.2.idleReferences + 1 else a.2.idleReferences }
      if s.1.succeeded then
        let m := setDataUpdateMode c d .polling
        if m.1.succeeded then pollForData c m.2 else m
      else (s.1, d)
    else a
  else (r.1, d)

/-- `ClientDisconnect(appId)`. -/
def clientDisconnect (d : SensorDevice) (h : IWDFFile) : HRESULT × SensorDevice :=
  let r := d.clientManager.disconnect h
  let d := { d with clientManager := r.2 }
  if r.1.succeeded then
    let clientCount := d.clientManager.getClientCount
    let a := applyUpdatedProperties c d
    if a.1.succeeded ∧ clientCount = 0 then
      setDataUpdateMode c { a.2 with idleReferences := a.2.idleReferences - 1 } .off
    else a
  else (r.1, d)

/-- `ClientSubscribeToEvents(appId)`. -/
def clientSubscribeToEvents (d : SensorDevice) (h : IWDFFile) : HRESULT × SensorDevice :=
  let r := d.clientManager.subscribe h
  let d := { d with clientManager := r.2 }
  if r.1.succeeded then applyUpdatedProperties c d else (r.1, d)

/-- `ClientUnsubscribeFromEvents(appId)`. -/
def clientUnsubscribeFromEvents (d : SensorDevice) (h : IWDFFile) : HRESULT × SensorDevice :=
  let r := d.clientManager.unsubscribe h
  let d := { d with clientManager := r.2 }
  if r.1.succeeded then applyUpdatedProperties c d else (r.1, d)

/-- The loop of `SetProperties`: each pair goes to `SetTestProperty` or to the client
manager; the results, `fError` and the state. -/
def setPropertiesLoop (h : IWDFFile) :
    List (PropertyKey × PropValue) → SensorDevice → List (PropertyKey × PropValue) → Bool →
      List (PropertyKey × PropValue) × Bool × SensorDevice
  | [], d, results, fError => (results, fError, d)
  | (key, var) :: rest, d, results, fError =>
    let r : HRESULT × PropValue × SensorDevice :=
      if isTestProperty key then
        let t := setTestProperty d key var
        (t.1, .var .empty, t.2)
      else
        let t := d.clientManager.setDesiredProperty h key var
        (t.1, t.2.1, { d with clientManager := t.2.2 })
    if r.1.succeeded then
      setPropertiesLoop h rest r.2.2 (setValue results key r.2.1) (fError || r.1 != .sOk)
    else setPropertiesLoop h rest r.2.2 (setValue results key (.var (.error r.1))) true

/-- `SetProperties(appId, pProperties, ppResults)`: the status, the results and the state.
The arbitrated values are applied whatever the pairs did. -/
def setProperties (d : SensorDevice) (h : IWDFFile) (props : List (PropertyKey × PropValue)) :
    HRESULT × List (PropertyKey × PropValue) × SensorDevice :=
  let l := setPropertiesLoop h props d [] false
  let a := applyUpdatedProperties c l.2.2
  (if a.1.succeeded ∧ l.2.1 then .sFalse else a.1, l.1, a.2)

/-- `Stop()`. -/
def stop (d : SensorDevice) : HRESULT × SensorDevice :=
  let r := setState d .noData
  if r.1.succeeded then setDataUpdateMode c r.2 .off else r

/-- `Start()`. -/
def start (d : SensorDevice) : HRESULT × SensorDevice :=
  if d.sensorInitialized then
    let r := configureHardware c d
    if r.1.succeeded ∧ 0 < r.2.clientManager.getClientCount then
      let a := applyUpdatedProperties c r.2
      if a.1.succeeded then pollForData c a.2 else a
    else r
  else (.eUnexpected, d)

/-- The sensor object as `Initialize` leaves it, on a part whose registers read zero: the
client manager set up with the defaults, the state `NO_DATA` and the minimum interval in
the property cache, the mode `Off`. -/
def initialDevice (minReportInterval : UInt32) : SensorDevice where
  bus := ⟨fun _ => 0, [], [], fun _ => 0⟩
  initialized := true
  interruptsEnabled := 0
  testRegister := 0
  testDataSize := 0
  sensorInitialized := true
  clientManager := (ClientManager.new.initializeManager c.defaultReportInterval minReportInterval
    (defaultChangeSensitivities c)).2
  dataUpdateMode := .off
  sensorPropertyValues := [(.sensorPropertyState, .ui4 SensorState.noData.toUInt32),
    (.sensorPropertyMinReportInterval, .ui4 minReportInterval)]
  sensorDataFieldValues := []
  stateChanged := false
  time := 0
  reportInterval := 0
  deviceReportInterval := 0
  deviceChangeSensitivity := []
  idleReferences := 0

/-! ## Frames -/

/-- What the data paths leave alone: the registers, the device state, the client manager, the
idle references, and a bus with no failure left. -/
structure SameConfig (d d' : SensorDevice) : Prop where
  regs : d'.bus.regs = d.bus.regs
  interruptsEnabled : d'.interruptsEnabled = d.interruptsEnabled
  dataUpdateMode : d'.dataUpdateMode = d.dataUpdateMode
  clientManager : d'.clientManager = d.clientManager
  initialized : d'.initialized = d.initialized
  sensorInitialized : d'.sensorInitialized = d.sensorInitialized
  idleReferences : d'.idleReferences = d.idleReferences
  reliable : d.bus.faults = [] → d'.bus.faults = []

theorem SameConfig.refl (d : SensorDevice) : SameConfig d d :=
  ⟨rfl, rfl, rfl, rfl, rfl, rfl, rfl, id⟩

theorem SameConfig.trans {d₁ d₂ d₃ : SensorDevice} (h₁ : SameConfig d₁ d₂) (h₂ : SameConfig d₂ d₃) :
    SameConfig d₁ d₃ :=
  ⟨h₂.1.trans h₁.1, h₂.2.trans h₁.2, h₂.3.trans h₁.3, h₂.4.trans h₁.4, h₂.5.trans h₁.5,
    h₂.6.trans h₁.6, h₂.7.trans h₁.7, h₂.8 ∘ h₁.8⟩

/-- A device whose bus only moved on or logged keeps its configuration. -/
theorem sameConfig_of_bus {d : SensorDevice} {b : Bus} (hregs : b.regs = d.bus.regs)
    (hb : d.bus.faults = [] → b.faults = []) : SameConfig d { d with bus := b } :=
  ⟨hregs, rfl, rfl, rfl, rfl, rfl, rfl, hb⟩

theorem sameConfig_readRegister (d : SensorDevice) (site : AccessSite) (reg : UInt8) (n : Nat) :
    SameConfig d { d with bus := (d.bus.readRegister site reg n).2.2 } :=
  sameConfig_of_bus (Bus.readRegister_regs ..) fun hb => by simp [Bus.readRegister_faults, hb]

theorem getProperty_state (d : SensorDevice) : (getProperty d .sensorPropertyState).2.2 = d := by
  simp [getProperty, isTestProperty]; split <;> rfl

theorem getProperty_state_of_getValue {d : SensorDevice} {v : PropVariant}
    (h : getValue d.sensorPropertyValues .sensorPropertyState = some v) :
    (d.getProperty .sensorPropertyState).2.1 = .var v := by
  simp [getProperty, isTestProperty, h]

theorem sameConfig_setState (d : SensorDevice) (newState : SensorState) :
    SameConfig d (setState d newState).2 := by
  simp only [setState, getProperty_state]
  split_ifs <;> exact ⟨rfl, rfl, rfl, rfl, rfl, rfl, rfl, id⟩

theorem sameConfig_requestNewData (d : SensorDevice) : SameConfig d (requestNewData c d).2.2 := by
  simp only [requestNewData, requestData]
  split_ifs <;> first | exact SameConfig.refl _ | exact sameConfig_readRegister d _ _ _

theorem sameConfig_pollForData (d : SensorDevice) : SameConfig d (pollForData c d).2 := by
  have h := sameConfig_requestNewData c d
  simp only [pollForData]
  split
  · refine h.trans (SameConfig.trans ?_ (sameConfig_setState _ _))
    exact ⟨rfl, rfl, rfl, rfl, rfl, rfl, rfl, id⟩
  · exact h

/-- Without test properties, the loop of `SetProperties` only passes the pairs to the client
manager. -/
theorem setPropertiesLoop_eq (h : IWDFFile) (props : List (PropertyKey × PropValue))
    (hp : ∀ kv ∈ props, isTestProperty kv.1 = false) (d : SensorDevice)
    (results : List (PropertyKey × PropValue)) (fError : Bool) :
    ∃ rs, (setPropertiesLoop h props d results fError).2.2 =
      { d with clientManager := runRequests rs d.clientManager } := by
  induction props generalizing d results fError with
  | nil => exact ⟨[], rfl⟩
  | cons kv rest ih =>
    obtain ⟨key, var⟩ := kv
    have hkey : isTestProperty key = false := hp _ (List.mem_cons_self _ _)
    have hrest := fun kv h => hp kv (List.mem_cons_of_mem _ h)
    simp only [setPropertiesLoop, hkey, Bool.false_eq_true, if_false]
    split
    all_goals
      obtain ⟨rs, hrs⟩ := ih hrest { d with clientManager := (d.clientManager.setDesiredProperty h key var).2.2 } _ _
      exact ⟨.setDesiredProperty h key var :: rs, hrs⟩

end SensorDevice

/-- A request of the framework to the sensor object. -/
inductive DeviceRequest where
  | clientConnect (h : IWDFFile)
  | clientDisconnect (h : IWDFFile)
  | clientSubscribeToEvents (h : IWDFFile)
  | clientUnsubscribeFromEvents (h : IWDFFile)
  | setProperties (h : IWDFFile) (props : List (PropertyKey × PropValue))
  | stop

namespace DeviceRequest

/-- The status and the state after a request. -/
def handle (c : Adxl345) : DeviceRequest → SensorDevice → HRESULT × SensorDevice
  | clientConnect h, d => d.clientConnect c h
  | clientDisconnect h, d => d.clientDisconnect c h
  | clientSubscribeToEvents h, d => d.clientSubscribeToEvents c h
  | clientUnsubscribeFromEvents h, d => d.clientUnsubscribeFromEvents c h
  | setProperties h props, d =>
    let r := d.setProperties c h props
    (r.1, r.2.2)
  | stop, d => d.stop c

end DeviceRequest

/-- The state after a sequence of requests, each handled on the state the one before left. -/
def runDevice (c : Adxl345) (rs : List DeviceRequest) (d : SensorDevice) : SensorDevice :=
  rs.foldl (fun d r => (r.handle c d).2) d

end SpbAccelerometer
