import SpbAccelerometer.Initialize
import SpbAccelerometer.SetProperties

/-!
# The entry points: the interrupt routine and `CSensorDdi`

`OnInterruptIsr` reads `INT_SOURCE` and queues the work item when
`INT_SOURCE & m_InterruptsEnabled` has the activity bit.  On the runs where the registers
realise the mode, `m_InterruptsEnabled` is `0` outside `Eventing`, so whatever the part
latched, the routine queues work only while eventing and only for an activity event, and
while eventing it recognises every activity event it reads (`isr_only_while_eventing`).

`CSensorDdi` receives the calls of the sensor class extension.  Each `On…` method refuses a
null argument with `E_INVALIDARG` and an object id other than the sensor's with
`GetSensorObject`'s `ERROR_NOT_FOUND`, and otherwise calls the sensor object's method.  So
a call does to the sensor object what the call it forwards does, and a refused call nothing
(`DdiCall.run_eq`).  Every object the framework drives after a
successful `RuntimeClassInitialize` is therefore one `Booted` reaches, and the minimum report
interval it advertises is the one it enforces, whatever the calls
(`driver_enforces_advertised_minimum`).

`Stop` sets the state `NoData` and the mode `Off`; `Start` configures the part again and,
with a client, applies the mode the client manager computes.  On a reliable bus the pair is a
round trip: after `Stop` the sensor is off, and the `Start` after it gives back the mode the
clients ask for, the clients kept (`stop_start_restores_mode`).

`OnGetSupportedSensorObjects` asks for the supported properties (`CopyKeys` of the table
`AddPropertyKeys` filled) and then for their values: on every object reached after
`InitializeSensorDriverInterface`, the one object it reports is the property cache itself,
each key with its cached value, in the cache's order, with `S_OK`
(`supportedSensorObjects_eq_cache`).
-/

namespace SpbAccelerometer

variable (c : Adxl345)

/-! ## The interrupt routine -/

namespace SensorDevice

/-- `OnInterruptIsr`: the interrupt is recognised, and the work item queued, when the read of
`INT_SOURCE` succeeds and `INT_SOURCE & m_InterruptsEnabled` has `ADXL345_INT_ACTIVITY`.
`ReadRegister` refuses before `InitializeDevice`.  `RetrieveContext` returns the context
`ConnectInterrupt` set; the read is not logged, the log records the request and data paths. -/
def onInterruptIsr (d : SensorDevice) : Bool × SensorDevice :=
  if d.initialized then
    let t := d.bus.next
    let d := { d with bus := t.2 }
    if t.1 then
      let validInterrupts := t.2.regs c.intSource &&& d.interruptsEnabled
      (decide (0 < validInterrupts &&& c.intActivity), d)
    else (false, d)
  else (false, d)

end SensorDevice

/-- The activity bit of `INT_SOURCE & m_InterruptsEnabled` when the registers realise a mode:
that of `INT_SOURCE` while eventing, none otherwise. -/
theorem ModeRealized.activity {regs : RegisterFile} {ie : UInt8} {mode : DataUpdateMode}
    (h : ModeRealized c regs ie mode) (x : UInt8) :
    (x &&& ie) &&& c.intActivity = if mode = .eventing then x &&& c.intActivity else 0 := by
  rw [h.interruptsEnabled]
  cases mode with
  | eventing =>
    exact UInt8.eq_of_toBitVec_eq ((BitVec.and_assoc _ _ _).trans (congrArg _ BitVec.and_self))
  | _ =>
    exact UInt8.eq_of_toBitVec_eq
      ((congrArg (· &&& c.intActivity.toBitVec) (BitVec.and_zero (x := x.toBitVec))).trans
        BitVec.zero_and)

namespace SensorDevice

variable {c}

/-- The routine on an object whose registers realise its mode, whatever the outcome of its
read. -/
theorem onInterruptIsr_realized {d : SensorDevice} (hr : d.Realizes c) (hi : d.initialized = true)
    (faults : List Bool) :
    (onInterruptIsr c (d.withFaults faults)).1 = (faults.headD true &&
      (d.dataUpdateMode = .eventing && decide (0 < d.bus.regs c.intSource &&& c.intActivity))) := by
  have hm := hr.mode.activity c (d.bus.regs c.intSource)
  simp only [onInterruptIsr, withFaults, hi, if_true, Bus.next_eq]
  split_ifs with h₁
  · rw [hm, h₁]; split_ifs <;> simp [*]
  · rw [Bool.not_eq_true] at h₁; rw [h₁]; rfl

end SensorDevice

open SensorDevice

/-- **Interrupts are acted on only while eventing.**  From `Start` on a fresh object, after
any requests without test properties handled on a reliable bus, whatever `INT_SOURCE` holds
and whatever the outcome of the routine's own read: the routine recognises an interrupt,
and queues the work item, only in the mode `Eventing` and only for an activity event; in
`Eventing`, a read that succeeds recognises every activity event. -/
theorem isr_only_while_eventing {mi : UInt32} {d : SensorDevice} (hf : d.Fresh c mi)
    (rs : List DeviceRequest) (hrs : ∀ r ∈ rs, r.NoTestProperties) (faults : List Bool) :
    (let d' := runDevice c rs (start c d).2
    ((onInterruptIsr c (d'.withFaults faults)).1 = true →
        d'.dataUpdateMode = .eventing ∧ 0 < d'.bus.regs c.intSource &&& c.intActivity) ∧
      (d'.dataUpdateMode = .eventing → faults.headD true = true →
        0 < d'.bus.regs c.intSource &&& c.intActivity →
        (onInterruptIsr c (d'.withFaults faults)).1 = true)) := by
  intro d'
  obtain ⟨ho, hr⟩ := realizes_runDevice_of (realizes_start hf).1 (realizes_start hf).2 rs hrs
  rw [onInterruptIsr_realized hr ho.initialized faults]
  constructor
  · intro h
    simp only [Bool.and_eq_true, decide_eq_true_eq] at h
    exact h.2
  · intro hm hf' hx; rw [hf']; simpa [hx] using hm

/-- Two clients, the second subscribed: eventing, and an activity event is acted on. -/
theorem isr_only_while_eventing_subscribed :
    (initialDevice Adxl345.dataSheet 10).Fresh Adxl345.dataSheet 10 ∧
      (∀ r ∈ [DeviceRequest.clientConnect 1, .clientSubscribeToEvents 1], r.NoTestProperties) ∧
      (let d' := runDevice Adxl345.dataSheet [.clientConnect 1, .clientSubscribeToEvents 1]
        (start Adxl345.dataSheet (initialDevice Adxl345.dataSheet 10)).2
      ((onInterruptIsr Adxl345.dataSheet (d'.withFaults [])).1 = true →
          d'.dataUpdateMode = .eventing ∧
            0 < d'.bus.regs Adxl345.dataSheet.intSource &&& Adxl345.dataSheet.intActivity) ∧
        (d'.dataUpdateMode = .eventing → ([] : List Bool).headD true = true →
          0 < d'.bus.regs Adxl345.dataSheet.intSource &&& Adxl345.dataSheet.intActivity →
          (onInterruptIsr Adxl345.dataSheet (d'.withFaults [])).1 = true)) :=
  have hrs : ∀ r ∈ [DeviceRequest.clientConnect 1, .clientSubscribeToEvents 1],
      r.NoTestProperties := by simp [DeviceRequest.NoTestProperties]
  ⟨fresh_initialDevice _ _, hrs, isr_only_while_eventing _ (fresh_initialDevice _ _) _ hrs []⟩

/-! ## `CSensorDdi` -/

/-- An `IPortableDeviceKeyCollection`. -/
abbrev PortableDeviceKeyCollection := List PropertyKey

/-- `CopyKeys(pSourceKeys, pTargetKeys)`: `Add` of every source key, in order. -/
def copyKeys (source target : PortableDeviceKeyCollection) : PortableDeviceKeyCollection :=
  source.foldl (fun t key => t ++ [key]) target

theorem copyKeys_eq (source target : PortableDeviceKeyCollection) :
    copyKeys source target = target ++ source := by
  induction source generalizing target with
  | nil => simp [copyKeys]
  | cons key rest ih => simp only [copyKeys, List.foldl_cons] at ih ⊢; simp [ih]

namespace SensorDevice

/-- `GetSupportedProperties(ppSupportedProperties)`: a copy of `m_spSupportedSensorProperties`,
which `AddPropertyKeys` filled with the table. -/
def getSupportedProperties : HRESULT × PortableDeviceKeyCollection :=
  (.sOk, copyKeys supportedProperties [])

/-- `GetSupportedDataFields(ppSupportedDataFields)`. -/
def getSupportedDataFields : HRESULT × PortableDeviceKeyCollection :=
  (.sOk, copyKeys supportedDataFields [])

end SensorDevice

namespace SensorDdi

/-- `GetSensorObject(objectId, ppSensor)`: `S_OK` for the id of the sensor object,
`HRESULT_FROM_WIN32(ERROR_NOT_FOUND)` otherwise.  The `else if` repeats the first comparison,
so its branch is never taken. -/
def getSensorObject (sensorId objectId : String) : HRESULT :=
  if objectId = sensorId then .sOk else .errorNotFound

/-- The body every `On…` method that reaches the sensor object shares: `E_INVALIDARG` when
`objectId` (`none`) or another pointer it checks (`argsNull`) is null, the status of
`GetSensorObject` for another object, and the sensor object's method otherwise. -/
def forwardToSensor {α : Type} (sensorId : String) (argsNull : Bool) (objectId : Option String)
    (refuse : HRESULT → α) (method : α) : α :=
  match objectId with
  | some id =>
    if argsNull then refuse .eInvalidArg
    else
      let hr := getSensorObject sensorId id
      if hr.succeeded then method else refuse hr
  | none => refuse .eInvalidArg

/-- The method runs exactly for a well-formed call addressed to the sensor; a refused call
returns `ERROR_NOT_FOUND` for another object and `E_INVALIDARG` for a null argument. -/
theorem forwardToSensor_eq {α : Type} (sensorId : String) (argsNull : Bool)
    (objectId : Option String) (refuse : HRESULT → α) (method : α) :
    forwardToSensor sensorId argsNull objectId refuse method =
      if argsNull = false ∧ objectId = some sensorId then method
      else refuse (if argsNull = false ∧ objectId.isSome then .errorNotFound else .eInvalidArg) := by
  cases objectId with
  | none => simp [forwardToSensor]
  | some id =>
    cases argsNull <;> by_cases h : id = sensorId <;> simp [forwardToSensor, getSensorObject, h, HRESULT.succeeded]

/-- `OnClientConnect(appId, objectId)`; `appId` `0` is `nullptr`. -/
def onClientConnect (sensorId : String) (appId : IWDFFile) (objectId : Option String)
    (d : SensorDevice) : HRESULT × SensorDevice :=
  forwardToSensor sensorId (appId == 0) objectId (·, d) (d.clientConnect c appId)

/-- `OnClientDisconnect(appId, objectId)`. -/
def onClientDisconnect (sensorId : String) (appId : IWDFFile) (objectId : Option String)
    (d : SensorDevice) : HRESULT × SensorDevice :=
  forwardToSensor sensorId (appId == 0) objectId (·, d) (d.clientDisconnect c appId)

/-- `OnClientSubscribeToEvents(appId, objectId)`. -/
def onClientSubscribeToEvents (sensorId : String) (appId : IWDFFile) (objectId : Option String)
    (d : SensorDevice) : HRESULT × SensorDevice :=
  forwardToSensor sensorId (appId == 0) objectId (·, d) (d.clientSubscribeToEvents c appId)

/-- `OnClientUnsubscribeFromEvents(appId, objectId)`. -/
def onClientUnsubscribeFromEvents (sensorId : String) (appId : IWDFFile)
    (objectId : Option String) (d : SensorDevice) : HRESULT × SensorDevice :=
  forwardToSensor sensorId (appId == 0) objectId (·, d) (d.clientUnsubscribeFromEvents c appId)

/-- `OnSetProperties(appId, objectId, pProperties, ppResults)`. -/
def onSetProperties (sensorId : String) (appId : IWDFFile) (objectId : Option String)
    (props : List (PropertyKey × PropValue)) (d : SensorDevice) :
    HRESULT × List (PropertyKey × PropValue) × SensorDevice :=
  forwardToSensor sensorId (appId == 0) objectId (fun hr => (hr, [], d))
    (d.setProperties c appId props)

/-- `OnGetProperties(appId, objectId, pProperties, ppPropertyValues)`.  Unlike the others it
accepts a null `appId`: the class extension queries the enumeration properties so. -/
def onGetProperties (sensorId : String) (_appId : IWDFFile) (objectId : Option String)
    (keys : PortableDeviceKeyCollection) (d : SensorDevice) :
    HRESULT × List (PropertyKey × PropValue) × SensorDevice :=
  forwardToSensor sensorId false objectId (fun hr => (hr, [], d)) (d.getProperties keys)

/-- `OnGetDataFields(appId, objectId, pDataFields, ppDataFieldValues)`. -/
def onGetDataFields (sensorId : String) (appId : IWDFFile) (objectId : Option String)
    (keys : PortableDeviceKeyCollection) (d : SensorDevice) :
    HRESULT × PortableDeviceValues × SensorDevice :=
  forwardToSensor sensorId (appId == 0) objectId (fun hr => (hr, [], d)) (getDataFields c d keys)

/-- `OnGetSupportedProperties(objectId, ppSupportedProperties)`. -/
def onGetSupportedProperties (sensorId : String) (objectId : Option String) :
    HRESULT × PortableDeviceKeyCollection :=
  forwardToSensor sensorId false objectId (·, []) SensorDevice.getSupportedProperties

/-- `OnGetSupportedDataFields(objectId, ppSupportedDataFields)`. -/
def onGetSupportedDataFields (sensorId : String) (objectId : Option String) :
    HRESULT × PortableDeviceKeyCollection :=
  forwardToSensor sensorId false objectId (·, []) SensorDevice.getSupportedDataFields

/-- `OnGetSupportedEvents(objectId, ppSupportedEvents, pEventCount)`, for the event table and
the outcome of `CoTaskMemAlloc`. -/
def onGetSupportedEvents (sensorId : String) (objectId : Option String) (events : List EventKey)
    (allocated : Bool) : HRESULT × Option (List (Option Nat)) × UInt32 :=
  forwardToSensor sensorId false objectId (fun hr => (hr, none, 0))
    (getSupportedEvents events allocated)

/-- `OnGetSupportedSensorObjects(ppSensorCollection)`: the supported properties of the sensor
object, then their values through `OnGetProperties` with a null `appId`, added as the one
entry of the collection. -/
def onGetSupportedSensorObjects (sensorId : String) (d : SensorDevice) :
    HRESULT × List (List (PropertyKey × PropValue)) × SensorDevice :=
  let k := onGetSupportedProperties sensorId (some sensorId)
  if k.1.succeeded then
    let p := onGetProperties sensorId 0 (some sensorId) k.2 d
    if p.1.succeeded then (.sOk, [p.2.1], p.2.2) else (p.1, [], p.2.2)
  else (k.1, [], d)

theorem onGetSupportedProperties_self (sensorId : String) :
    onGetSupportedProperties sensorId (some sensorId) = (.sOk, supportedProperties) := by
  simp [onGetSupportedProperties, forwardToSensor_eq, SensorDevice.getSupportedProperties, copyKeys_eq]

theorem onGetProperties_self (sensorId : String) (appId : IWDFFile)
    (keys : PortableDeviceKeyCollection) (d : SensorDevice) :
    onGetProperties sensorId appId (some sensorId) keys d = d.getProperties keys := by
  simp [onGetProperties, forwardToSensor_eq]

/-- `GetProperties` succeeds, with `S_FALSE` when a key failed. -/
theorem getProperties_succeeded (d : SensorDevice) (keys : List PropertyKey) :
    (d.getProperties keys).1.succeeded = true := by
  simp only [SensorDevice.getProperties]; split <;> rfl

/-- `OnGetSupportedSensorObjects` returns `S_OK` and one object, the values `GetProperties`
gives for the supported properties, whatever they are. -/
theorem onGetSupportedSensorObjects_eq (sensorId : String) (d : SensorDevice) :
    onGetSupportedSensorObjects sensorId d =
      (.sOk, [(d.getProperties supportedProperties).2.1], (d.getProperties supportedProperties).2.2) := by
  simp [onGetSupportedSensorObjects, onGetSupportedProperties_self, onGetProperties_self,
    getProperties_succeeded]

end SensorDdi

/-- A call of the sensor class extension into `CSensorDdi` that reaches the sensor object. -/
inductive DdiCall where
  | start
  | stop
  | onClientConnect (appId : IWDFFile) (objectId : Option String)
  | onClientDisconnect (appId : IWDFFile) (objectId : Option String)
  | onClientSubscribeToEvents (appId : IWDFFile) (objectId : Option String)
  | onClientUnsubscribeFromEvents (appId : IWDFFile) (objectId : Option String)
  | onSetProperties (appId : IWDFFile) (objectId : Option String)
      (props : List (PropertyKey × PropValue))
  | onGetProperties (appId : IWDFFile) (objectId : Option String) (keys : PortableDeviceKeyCollection)
  | onGetDataFields (appId : IWDFFile) (objectId : Option String) (keys : PortableDeviceKeyCollection)
  | onGetSupportedSensorObjects

namespace DdiCall

/-- The sensor object after a call; `Start()` and `Stop()` call the sensor object's. -/
def run (sensorId : String) : DdiCall → SensorDevice → SensorDevice
  | start, d => (SensorDevice.start c d).2
  | stop, d => (SensorDevice.stop c d).2
  | onClientConnect h o, d => (SensorDdi.onClientConnect c sensorId h o d).2
  | onClientDisconnect h o, d => (SensorDdi.onClientDisconnect c sensorId h o d).2
  | onClientSubscribeToEvents h o, d => (SensorDdi.onClientSubscribeToEvents c sensorId h o d).2
  | onClientUnsubscribeFromEvents h o, d =>
    (SensorDdi.onClientUnsubscribeFromEvents c sensorId h o d).2
  | onSetProperties h o props, d => (SensorDdi.onSetProperties c sensorId h o props d).2.2
  | onGetProperties h o keys, d => (SensorDdi.onGetProperties sensorId h o keys d).2.2
  | onGetDataFields h o keys, d => (SensorDdi.onGetDataFields c sensorId h o keys d).2.2
  | onGetSupportedSensorObjects, d => (SensorDdi.onGetSupportedSensorObjects sensorId d).2.2

/-- What a call asks of the sensor object: the call of the object it forwards to, or none
when it is refused. -/
def toCall (sensorId : String) : DdiCall → Option DeviceCall
  | start => some .start
  | stop => some (.request .stop)
  | onClientConnect h o =>
    if h ≠ 0 ∧ o = some sensorId then some (.request (.clientConnect h)) else none
  | onClientDisconnect h o =>
    if h ≠ 0 ∧ o = some sensorId then some (.request (.clientDisconnect h)) else none
  | onClientSubscribeToEvents h o =>
    if h ≠ 0 ∧ o = some sensorId then some (.request (.clientSubscribeToEvents h)) else none
  | onClientUnsubscribeFromEvents h o =>
    if h ≠ 0 ∧ o = some sensorId then some (.request (.clientUnsubscribeFromEvents h)) else none
  | onSetProperties h o props =>
    if h ≠ 0 ∧ o = some sensorId then some (.request (.setProperties h props)) else none
  | onGetProperties _ o keys => if o = some sensorId then some (.getProperties keys) else none
  | onGetDataFields h o keys =>
    if h ≠ 0 ∧ o = some sensorId then some (.getDataFields keys) else none
  | onGetSupportedSensorObjects => some (.getProperties supportedProperties)

end DdiCall

/-- The sensor object after a sequence of calls of the class extension. -/
def runDdi (sensorId : String) (calls : List DdiCall) (d : SensorDevice) : SensorDevice :=
  calls.foldl (fun d call => call.run c sensorId d) d

namespace DdiCall

open SensorDdi

/-- A call does to the sensor object what the call it forwards does, and nothing when it is
refused. -/
theorem run_eq (sensorId : String) (call : DdiCall) (d : SensorDevice) :
    call.run c sensorId d = ((call.toCall sensorId).map fun dc => dc.run c d).getD d := by
  cases call
  case start | stop => rfl
  case onGetSupportedSensorObjects =>
    simp [run, toCall, onGetSupportedSensorObjects_eq, DeviceCall.run]
  all_goals
    simp only [run, toCall, SensorDdi.onClientConnect, SensorDdi.onClientDisconnect,
      SensorDdi.onClientSubscribeToEvents, SensorDdi.onClientUnsubscribeFromEvents,
      SensorDdi.onSetProperties, SensorDdi.onGetProperties, SensorDdi.onGetDataFields,
      forwardToSensor_eq, beq_eq_false_iff_ne, true_and]
    split_ifs <;> rfl

end DdiCall

namespace SensorDevice

variable {c}

theorem withFaults_self (d : SensorDevice) : d.withFaults d.bus.faults = d := rfl

/-- A call on the failures the bus already holds is a step of `Booted`. -/
theorem Booted.run {mi : UInt32} {d : SensorDevice} (hd : d.Booted c mi) (call : DeviceCall) :
    (call.run c d).Booted c mi := by
  have h := hd.step call d.bus.faults
  rwa [withFaults_self] at h

/-- The framework drives only booted objects: every sequence of calls of the class extension
leaves an object `Booted` reaches. -/
theorem Booted.runDdi {mi : UInt32} {d : SensorDevice} (hd : d.Booted c mi)
    (sensorId : String) (calls : List DdiCall) : (runDdi c sensorId calls d).Booted c mi := by
  induction calls generalizing d with
  | nil => exact hd
  | cons call rest ih =>
    apply ih
    show (call.run c sensorId d).Booted c mi
    rw [DdiCall.run_eq]
    cases call.toCall sensorId with
    | none => exact hd
    | some dc => exact hd.run dc

end SensorDevice

/-- `CSensorDdi::RuntimeClassInitialize(pWdfDevice, pWdfResourcesRaw, pWdfResourcesTranslated)`:
`Make<CAccelerometerDevice>()`, drawn like a framework call, then `Initialize` of the new object
on the part behind `bus`; the status and the sensor object, `none` when `Make` failed.  The
outer `none` is `Initialize`'s null dereference. -/
def SensorDdi.runtimeClassInitialize (bus : Bus) (minReportInterval : UInt32) :
    Option (HRESULT × Option SensorDevice) :=
  let m := bus.call
  if m.1.succeeded then
    (initializeSensor c (construct m.2) minReportInterval).map fun r => (r.1, some r.2)
  else some (.eOutOfMemory, none)

open SensorDevice

/-- **What is advertised is enforced, from the driver's entry point.**  Whatever the part and
the failures, when `RuntimeClassInitialize` succeeds, then after every sequence of calls of the
class extension: the property cache advertises `SENSOR_PROPERTY_MIN_REPORT_INTERVAL = mi`, the
client manager enforces that minimum, every interval a client set is `0` or at least `mi`,
and the arbitrated interval is the default or at least `mi`. -/
theorem driver_enforces_advertised_minimum {bus : Bus} {mi : UInt32} {hr : HRESULT}
    {d : SensorDevice} (he : SensorDdi.runtimeClassInitialize c bus mi = some (hr, some d))
    (hs : hr.succeeded = true) (sensorId : String) (calls : List DdiCall) :
    (let d' := runDdi c sensorId calls d
    getValue d'.sensorPropertyValues .sensorPropertyMinReportInterval = some (.ui4 mi) ∧
      d'.clientManager.minSupportedReportInterval = mi ∧
      (∀ x ∈ d'.clientManager.clientList.entries,
        x.2.desiredReportInterval = 0 ∨ mi ≤ x.2.desiredReportInterval) ∧
      (d'.clientManager.minReportInterval = c.defaultReportInterval ∨
        mi ≤ d'.clientManager.minReportInterval)) := by
  have hb : d.Booted c mi := by
    simp only [SensorDdi.runtimeClassInitialize] at he
    split_ifs at he
    · obtain ⟨⟨hr', d'⟩, he', h⟩ := Option.map_eq_some'.1 he
      cases h
      exact .init (constructed_construct _) he' hs
    · cases he
  have hd := hb.runDdi sensorId calls
  have hcm := hd.clientManager
  have hmi := (ClientManager.reachable_config hcm).2.2
  exact ⟨hd.advertised, hmi, fun x hx => hmi ▸ hcm.intervalsAllowed x hx,
    hcm.minReportInterval_allowed (defaultChangeSensitivities_real c)⟩

/-- A part with every transfer succeeding, `Start`, and a client. -/
theorem driver_enforces_advertised_minimum_connected :
    (let d := ((initializeSensor Adxl345.dataSheet (construct ⟨fun _ => 0, [], [], fun _ => 0⟩) 10).getD
      (.sOk, construct ⟨fun _ => 0, [], [], fun _ => 0⟩)).2
    SensorDdi.runtimeClassInitialize Adxl345.dataSheet ⟨fun _ => 0, [], [], fun _ => 0⟩ 10 = some (.sOk, some d) ∧
      HRESULT.sOk.succeeded = true ∧
      (let d' := runDdi Adxl345.dataSheet "accelerometer"
        [.start, .onClientConnect 1 (some "accelerometer")] d
      getValue d'.sensorPropertyValues .sensorPropertyMinReportInterval = some (.ui4 10) ∧
        d'.clientManager.minSupportedReportInterval = 10 ∧
        (∀ x ∈ d'.clientManager.clientList.entries,
          x.2.desiredReportInterval = 0 ∨ 10 ≤ x.2.desiredReportInterval) ∧
        (d'.clientManager.minReportInterval = Adxl345.dataSheet.defaultReportInterval ∨
          10 ≤ d'.clientManager.minReportInterval))) := by
  intro d
  have he : SensorDdi.runtimeClassInitialize Adxl345.dataSheet ⟨fun _ => 0, [], [], fun _ => 0⟩ 10 =
      some (.sOk, some d) := rfl
  exact ⟨he, rfl, driver_enforces_advertised_minimum Adxl345.dataSheet he rfl _ _⟩

/-! ## `Stop` and `Start` -/

namespace SensorDevice

variable {c} {d : SensorDevice}

/-- On a reliable bus, `Stop` of an object whose cache holds the state turns it off and keeps
its flags and its clients. -/
theorem stop_reliable (hb : d.bus.faults = [])
    (hst : (getValue d.sensorPropertyValues .sensorPropertyState).isSome) :
    (stop c d).2.dataUpdateMode = .off ∧ (stop c d).2.clientManager = d.clientManager ∧
      (stop c d).2.initialized = d.initialized ∧
      (stop c d).2.sensorInitialized = d.sensorInitialized ∧ (stop c d).2.bus.faults = [] := by
  have hs := sameConfig_setState d .noData
  have e : stop c d = setDataUpdateMode c (setState d .noData).2 .off := by
    simp only [stop, setState_sOk hst, HRESULT.succeeded_sOk, if_true]
  rw [e, setDataUpdateMode_reliable c (hs.reliable hb)]
  exact ⟨rfl, hs.clientManager, hs.initialized, hs.sensorInitialized, hs.reliable hb⟩

theorem applyUpdatedProperties_sOk (hb : d.bus.faults = []) (hi : d.initialized = true)
    (hsi : d.sensorInitialized = true) : (applyUpdatedProperties c d).1 = .sOk := by
  rw [applyUpdatedProperties_reliable c hb hi hsi]
  exact (applyDataUpdateMode_reliable c (by exact hb)).1

/-- On a reliable bus, `Start` of an initialised object that is off sets the mode the client
manager asks for. -/
theorem start_mode_reliable (hi : d.initialized = true) (hsi : d.sensorInitialized = true)
    (hb : d.bus.faults = []) (hoff : d.dataUpdateMode = .off) :
    (start c d).2.dataUpdateMode = d.clientManager.getDataUpdateMode := by
  have hcfg : configureHardware c d =
      (.sOk, { d with bus := (Bus.configure (configurationSettings c) d.bus).2 }) := by
    simp [configureHardware, hi, Bus.configure_reliable _ hb]
  have hb' : ({ d with bus := (Bus.configure (configurationSettings c) d.bus).2 } :
      SensorDevice).bus.faults = [] := by
    simp [Bus.configure_reliable _ hb, hb]
  unfold start
  rw [if_pos hsi, hcfg]
  dsimp only
  simp only [HRESULT.succeeded_sOk, true_and]
  split_ifs with hn ha
  · rw [(sameConfig_pollForData c _).dataUpdateMode, mode_applyUpdatedProperties, if_pos ha]
  · exact absurd (by rw [applyUpdatedProperties_sOk hb' hi hsi]; rfl) ha
  · -- no client: `Start` leaves the mode `Off`
    have h0 : d.clientManager.clientCount = 0 := uint32_toNat_inj.1 (by
      have h := mt uint32_lt_iff.2 hn
      simp only [ClientManager.getClientCount] at h
      exact Nat.eq_zero_of_not_pos h)
    simp [hoff, ClientManager.getDataUpdateMode, h0]

end SensorDevice

/-- **`Stop` then `Start` gives back the mode the clients ask for.**  On a reliable bus, for
every initialised object whose cache holds the state, the framework's `Stop` turns the sensor
off, and the `Start` after it sets the mode the client manager asks for, the clients kept. -/
theorem stop_start_restores_mode (sensorId : String) {d : SensorDevice}
    (hi : d.initialized = true) (hsi : d.sensorInitialized = true) (hb : d.bus.faults = [])
    (hst : (getValue d.sensorPropertyValues .sensorPropertyState).isSome) :
    (runDdi c sensorId [.stop] d).dataUpdateMode = .off ∧
      (runDdi c sensorId [.stop, .start] d).dataUpdateMode = d.clientManager.getDataUpdateMode ∧
      (runDdi c sensorId [.stop, .start] d).clientManager = d.clientManager := by
  obtain ⟨h₁, h₂, h₃, h₄, h₅⟩ := stop_reliable (c := c) hb hst
  refine ⟨h₁, ?_, ?_⟩
  · show (start c (stop c d).2).2.dataUpdateMode = _
    rw [start_mode_reliable (h₃.trans hi) (h₄.trans hsi) h₅ h₁, h₂]
  · show (start c (stop c d).2).2.clientManager = _
    rw [clientManager_start, h₂]

/-- The object `Initialize` leaves, with no client. -/
theorem stop_start_restores_mode_initial :
    (initialDevice Adxl345.dataSheet 10).initialized = true ∧
      (initialDevice Adxl345.dataSheet 10).sensorInitialized = true ∧
      (initialDevice Adxl345.dataSheet 10).bus.faults = [] ∧
      (getValue (initialDevice Adxl345.dataSheet 10).sensorPropertyValues
        .sensorPropertyState).isSome ∧
      ((runDdi Adxl345.dataSheet "accelerometer" [.stop]
          (initialDevice Adxl345.dataSheet 10)).dataUpdateMode = .off ∧
        (runDdi Adxl345.dataSheet "accelerometer" [.stop, .start]
          (initialDevice Adxl345.dataSheet 10)).dataUpdateMode =
            (initialDevice Adxl345.dataSheet 10).clientManager.getDataUpdateMode ∧
        (runDdi Adxl345.dataSheet "accelerometer" [.stop, .start]
          (initialDevice Adxl345.dataSheet 10)).clientManager =
            (initialDevice Adxl345.dataSheet 10).clientManager) :=
  ⟨rfl, rfl, rfl, rfl, stop_start_restores_mode Adxl345.dataSheet _ rfl rfl rfl rfl⟩

/-! ## The enumeration -/

namespace SensorDevice

variable {d : SensorDevice}

/-- `GetProperties` of keys of the property cache, each once, appends their cached values and
changes nothing. -/
theorem getPropertiesLoop_entries (h : d.CachesComplete) (l : PortableDeviceValues)
    (hl : ∀ kv ∈ l, kv ∈ d.sensorPropertyValues) (pre : List (PropertyKey × PropValue))
    (hn : (pre.map Prod.fst ++ l.map Prod.fst).Nodup) (fError : Bool) :
    getPropertiesLoop (l.map Prod.fst) d pre fError =
      (pre ++ l.map fun kv => (kv.1, .var kv.2), fError, d) := by
  induction l generalizing pre with
  | nil => simp [getPropertiesLoop]
  | cons kv rest ih =>
    have hkv := hl kv (List.mem_cons_self _ _)
    obtain ⟨v, hv, hp⟩ := getProperty_supported h (h.1 ▸ List.mem_map_of_mem Prod.fst hkv)
    have hv' : v = kv.2 := Option.some.inj
      (hv.symm.trans (getValue_of_mem (h.1 ▸ (by decide : supportedProperties.Nodup)) hkv))
    have hnot : kv.1 ∉ pre.map Prod.fst := fun hm =>
      (List.nodup_append.1 hn).2.2 hm (List.mem_cons_self _ _)
    simp only [List.map_cons, getPropertiesLoop, hp, HRESULT.succeeded_sOk, if_true,
      setValue_of_not_mem _ hnot, hv']
    rw [ih (fun kv h => hl kv (List.mem_cons_of_mem _ h)) _ (by simpa using hn)]
    simp

end SensorDevice

/-- **The enumeration reports the property cache.**  On every object reached after a
successful `InitializeSensorDriverInterface`, under any calls and failures since,
`OnGetSupportedSensorObjects` succeeds, changes nothing, and reports one object: every entry
of the property cache with its cached value, in the cache's order. -/
theorem supportedSensorObjects_eq_cache {d : SensorDevice} (hd : d.Initialized c)
    (sensorId : String) :
    SensorDdi.onGetSupportedSensorObjects sensorId d =
      (.sOk, [d.sensorPropertyValues.map fun kv => (kv.1, .var kv.2)], d) := by
  have h := hd.complete
  have hl := getPropertiesLoop_entries h d.sensorPropertyValues (fun _ => id) []
    (by rw [List.map_nil, List.nil_append, h.1]; decide) false
  rw [h.1] at hl
  simp [SensorDdi.onGetSupportedSensorObjects_eq, getProperties, hl]

/-- The object `InitializeSensorDriverInterface` fills. -/
theorem supportedSensorObjects_eq_cache_filled :
    (let d := (initializeSensorDriverInterface (initialDevice Adxl345.dataSheet 10) 10).2
    d.Initialized Adxl345.dataSheet ∧
      SensorDdi.onGetSupportedSensorObjects "accelerometer" d =
        (.sOk, [d.sensorPropertyValues.map fun kv => (kv.1, .var kv.2)], d)) :=
  have hd : Initialized Adxl345.dataSheet _ :=
    @Initialized.init _ (initialDevice Adxl345.dataSheet 10) _ 10
      (by rw [initializeSensorDriverInterface_reliable rfl]; rfl) rfl rfl
  ⟨hd, supportedSensorObjects_eq_cache Adxl345.dataSheet hd _⟩

end SpbAccelerometer
