import SpbAccelerometer.SensorDevice

/-!
# The tables of supported keys: `InitializeSensorDriverInterface` and `GetSupportedEvents`

`InitializeSensorDriverInterface` creates the two caches, enters every key of the tables of
supported properties and data fields with an empty value (`AddPropertyKeys`,
`AddDataFieldKeys`), sets the unique id (`SetUniqueID`) and the default property values
(`SetDefaultPropertyValues`).  Whatever the outcome, the keys of the two caches are then the
two tables, in their order (`keys_initializeSensorDriverInterface`).

`CAccelerometerDevice` names its supported events in a table of `PROPERTYKEY`s
(`g_SupportedAccelerometerEvents`), and `CSensorDevice::GetSupportedEvents` copies their
format `GUID`s into a buffer of `count` entries:

    for (DWORD i = 0; i < count; count++) { *(pBuf + i) = events[i].fmtid; }

The loop increments `count`, not `i`.  With `DWORD` arithmetic it still ends: `count` climbs
to `2^32 - 1`, wraps to `0`, and `0 < 0` fails.  So for every table of at least one event
the call returns `S_OK`, a buffer where only entry `0` was written, and an event count of
`0` (`getSupportedEvents_reports_no_event`).
-/

namespace SpbAccelerometer

/-! ## `InitializeSensorDriverInterface` -/

/-- `g_SupportedAccelerometerProperties`. -/
def supportedProperties : List PropertyKey :=
  [.wpdObjectId, .sensorPropertyType, .sensorPropertyPersistentUniqueId,
    .sensorPropertyManufacturer, .sensorPropertyModel, .sensorPropertySerialNumber,
    .sensorPropertyFriendlyName, .sensorPropertyDescription, .sensorPropertyConnectionType,
    .sensorPropertyRangeMinimum, .sensorPropertyRangeMaximum, .sensorPropertyResolution,
    .sensorPropertyState, .sensorPropertyMinReportInterval, .wpdFunctionalObjectCategory]

/-- `g_SupportedAccelerometerDataFields`. -/
def supportedDataFields : List PropertyKey :=
  [.sensorDataTypeTimestamp, .sensorDataTypeAccelerationXG, .sensorDataTypeAccelerationYG,
    .sensorDataTypeAccelerationZG]

/-- `VT_LPWSTR`: the strings `SetDefaultPropertyValues` stores, as `PropVariant.other`. -/
def vtLpwstr : Nat := 31

/-- `VT_CLSID`: the `GUID`s `SetUniqueID` and `SetDefaultPropertyValues` store. -/
def vtClsid : Nat := 72

/-- `VT_UNKNOWN`: the per-data-field collections of the range and the resolution. -/
def vtUnknown : Nat := 13

/-- The values `SetDefaultPropertyValues` sets, in its order; the connection type is
`SENSOR_CONNECTION_TYPE_PC_INTEGRATED`, `0`. -/
def defaultPropertyValues (minReportInterval : UInt32) : PortableDeviceValues :=
  [(.wpdObjectId, .other vtLpwstr), (.wpdFunctionalObjectCategory, .other vtClsid),
    (.sensorPropertyType, .other vtClsid), (.sensorPropertyManufacturer, .other vtLpwstr),
    (.sensorPropertyModel, .other vtLpwstr), (.sensorPropertySerialNumber, .other vtLpwstr),
    (.sensorPropertyFriendlyName, .other vtLpwstr), (.sensorPropertyDescription, .other vtLpwstr),
    (.sensorPropertyConnectionType, .ui4 0), (.sensorPropertyState, .ui4 SensorState.noData.toUInt32),
    (.sensorPropertyMinReportInterval, .ui4 minReportInterval),
    (.sensorPropertyRangeMinimum, .other vtUnknown), (.sensorPropertyRangeMaximum, .other vtUnknown),
    (.sensorPropertyResolution, .other vtUnknown)]

/-- The loop of `AddPropertyKeys` and `AddDataFieldKeys`: each key of the table set to
`VT_EMPTY`. -/
def addKeys (values : PortableDeviceValues) (keys : List PropertyKey) : PortableDeviceValues :=
  keys.foldl (fun vs key => setValue vs key .empty) values

namespace SensorDevice

/-- `AddPropertyKeys()`. -/
def addPropertyKeys (d : SensorDevice) : HRESULT × SensorDevice :=
  (.sOk, { d with sensorPropertyValues := addKeys d.sensorPropertyValues supportedProperties })

/-- `AddDataFieldKeys()`. -/
def addDataFieldKeys (d : SensorDevice) : HRESULT × SensorDevice :=
  (.sOk, { d with sensorDataFieldValues := addKeys d.sensorDataFieldValues supportedDataFields })

/-- `SetUniqueID(pWdfDevice)`: the `GUID` read from the device's property store, or created
and stored there (framework calls that may fail), becomes
`SENSOR_PROPERTY_PERSISTENT_UNIQUE_ID`. -/
def setUniqueID (d : SensorDevice) : HRESULT × SensorDevice :=
  let s := d.bus.call
  let d := { d with bus := s.2 }
  if s.1.succeeded then
    (.sOk, { d with
      sensorPropertyValues :=
        setValue d.sensorPropertyValues .sensorPropertyPersistentUniqueId (.other vtClsid) })
  else (s.1, d)

/-- `SetDefaultPropertyValues()`. -/
def setDefaultPropertyValues (d : SensorDevice) (minReportInterval : UInt32) :
    HRESULT × SensorDevice :=
  (.sOk, { d with
    sensorPropertyValues := copyValues (defaultPropertyValues minReportInterval) d.sensorPropertyValues })

/-- `InitializeSensorDriverInterface(pWdfDevice)`, on the object the constructor left: the two
caches are created empty, then filled. -/
def initializeSensorDriverInterface (d : SensorDevice) (minReportInterval : UInt32) :
    HRESULT × SensorDevice :=
  let a := addPropertyKeys { d with sensorPropertyValues := [], sensorDataFieldValues := [] }
  if a.1.succeeded then
    let b := addDataFieldKeys a.2
    if b.1.succeeded then
      let u := setUniqueID b.2
      if u.1.succeeded then setDefaultPropertyValues u.2 minReportInterval else u
    else b
  else a

end SensorDevice

open SensorDevice

/-- Distinct new keys are appended in their order. -/
theorem keys_addKeys {values : PortableDeviceValues} {keys : List PropertyKey}
    (h : (values.map Prod.fst ++ keys).Nodup) :
    (addKeys values keys).map Prod.fst = values.map Prod.fst ++ keys := by
  induction keys generalizing values with
  | nil => simp [addKeys]
  | cons key keys ih =>
    have hk : key ∉ values.map Prod.fst := fun hk => (List.nodup_append.1 h).2.2 hk (List.mem_cons_self _ _)
    have hv := keys_setValue_of_not_mem PropVariant.empty hk
    simp only [addKeys, List.foldl_cons] at ih ⊢
    rw [ih (by rwa [hv, List.append_assoc]), hv, List.append_assoc, List.singleton_append]

theorem keys_defaultPropertyValues (minReportInterval : UInt32) :
    ∀ kv ∈ defaultPropertyValues minReportInterval, kv.1 ∈ supportedProperties := by
  simp [defaultPropertyValues, supportedProperties]

@[simp] theorem addPropertyKeys_fst (d : SensorDevice) : (addPropertyKeys d).1 = .sOk := by
  simp only [addPropertyKeys]

@[simp] theorem addPropertyKeys_snd (d : SensorDevice) : (addPropertyKeys d).2 =
    { d with sensorPropertyValues := addKeys d.sensorPropertyValues supportedProperties } := by
  simp only [addPropertyKeys]

@[simp] theorem addDataFieldKeys_fst (d : SensorDevice) : (addDataFieldKeys d).1 = .sOk := by
  simp only [addDataFieldKeys]

@[simp] theorem addDataFieldKeys_snd (d : SensorDevice) : (addDataFieldKeys d).2 =
    { d with sensorDataFieldValues := addKeys d.sensorDataFieldValues supportedDataFields } := by
  simp only [addDataFieldKeys]

theorem keys_setUniqueID {d : SensorDevice}
    (h : .sensorPropertyPersistentUniqueId ∈ d.sensorPropertyValues.map Prod.fst) :
    (setUniqueID d).2.sensorPropertyValues.map Prod.fst = d.sensorPropertyValues.map Prod.fst ∧
      (setUniqueID d).2.sensorDataFieldValues = d.sensorDataFieldValues := by
  simp only [setUniqueID]
  split
  · exact ⟨keys_setValue_of_mem _ h, rfl⟩
  · exact ⟨rfl, rfl⟩

@[simp] theorem setDefaultPropertyValues_sensorPropertyValues (d : SensorDevice)
    (minReportInterval : UInt32) :
    (setDefaultPropertyValues d minReportInterval).2.sensorPropertyValues =
      copyValues (defaultPropertyValues minReportInterval) d.sensorPropertyValues := by
  simp only [setDefaultPropertyValues]

@[simp] theorem setDefaultPropertyValues_sensorDataFieldValues (d : SensorDevice)
    (minReportInterval : UInt32) :
    (setDefaultPropertyValues d minReportInterval).2.sensorDataFieldValues =
      d.sensorDataFieldValues := by
  simp only [setDefaultPropertyValues]

/-- `AddPropertyKeys` and `AddDataFieldKeys` cannot fail: the initialisation is `SetUniqueID`
on the filled caches, then `SetDefaultPropertyValues` when it succeeded. -/
theorem initializeSensorDriverInterface_eq (d : SensorDevice) (minReportInterval : UInt32) :
    initializeSensorDriverInterface d minReportInterval =
      (let u := setUniqueID { d with
        sensorPropertyValues := addKeys [] supportedProperties
        sensorDataFieldValues := addKeys [] supportedDataFields }
      if u.1.succeeded then setDefaultPropertyValues u.2 minReportInterval else u) := by
  simp only [initializeSensorDriverInterface, addPropertyKeys_fst, addPropertyKeys_snd,
    addDataFieldKeys_fst, addDataFieldKeys_snd, HRESULT.succeeded_sOk, if_true]

/-- The caches `InitializeSensorDriverInterface` leaves hold the supported keys, in the order
of the tables, whether or not it succeeded. -/
theorem keys_initializeSensorDriverInterface (d : SensorDevice) (minReportInterval : UInt32) :
    (initializeSensorDriverInterface d minReportInterval).2.sensorPropertyValues.map Prod.fst =
        supportedProperties ∧
      (initializeSensorDriverInterface d minReportInterval).2.sensorDataFieldValues.map Prod.fst =
        supportedDataFields := by
  have hp : (addKeys [] supportedProperties).map Prod.fst = supportedProperties :=
    keys_addKeys (by decide)
  have hf : (addKeys [] supportedDataFields).map Prod.fst = supportedDataFields :=
    keys_addKeys (by decide)
  rw [initializeSensorDriverInterface_eq]
  generalize hu : setUniqueID _ = u
  obtain ⟨hup, huf⟩ := hu ▸ keys_setUniqueID (by rw [hp]; decide)
  rw [hp] at hup
  replace huf : u.2.sensorDataFieldValues.map Prod.fst = supportedDataFields := by rw [huf]; exact hf
  dsimp only
  by_cases h : u.1.succeeded = true
  · have hk : ∀ kv ∈ defaultPropertyValues minReportInterval,
        kv.1 ∈ u.2.sensorPropertyValues.map Prod.fst :=
      fun kv h => hup ▸ keys_defaultPropertyValues _ kv h
    rw [if_pos h, setDefaultPropertyValues_sensorPropertyValues,
      setDefaultPropertyValues_sensorDataFieldValues, keys_copyValues_of_mem hk]
    exact ⟨hup, huf⟩
  · rw [if_neg h]
    exact ⟨hup, huf⟩

/-- With no failure left on the bus, `InitializeSensorDriverInterface` succeeds. -/
theorem initializeSensorDriverInterface_reliable {d : SensorDevice} (hb : d.bus.faults = [])
    (minReportInterval : UInt32) :
    (initializeSensorDriverInterface d minReportInterval).1 = .sOk := by
  rw [initializeSensorDriverInterface_eq]
  simp [setUniqueID, Bus.call_reliable hb, setDefaultPropertyValues]

/-- A `PROPERTYKEY` of the event table: the format `GUID`, by its value, and the id. -/
structure EventKey where
  fmtid : Nat
  pid : UInt32
  deriving DecidableEq, Repr

/-- `g_SupportedAccelerometerEvents`: `{SENSOR_EVENT_DATA_UPDATED, 0}` and
`{SENSOR_EVENT_STATE_CHANGED, 0}`, for the two `GUID`s. -/
def supportedEvents (dataUpdated stateChanged : Nat) : List EventKey :=
  [⟨dataUpdated, 0⟩, ⟨stateChanged, 0⟩]

/-- The loop of `GetSupportedEvents`: `*(pBuf + i) = events[i].fmtid`, then `count++`, while
`i < count`; the buffer and `count` when it ends.  An entry never written is `none`. -/
def supportedEventsLoop (events : List EventKey) (i count : UInt32) (buf : List (Option Nat)) :
    List (Option Nat) × UInt32 :=
  if i < count then
    supportedEventsLoop events i (count + 1) (buf.set i.toNat (events[i.toNat]?.map EventKey.fmtid))
  else (buf, count)
termination_by (2 ^ 32 - count.toNat) % 2 ^ 32
decreasing_by
  have hi : i.toNat < count.toNat := ‹i < count›
  have hc : count.toNat < 2 ^ 32 := count.toBitVec.isLt
  rw [uint32_toNat_add, show (1 : UInt32).toNat = 1 from rfl]
  omega

/-- `GetSupportedEvents(ppSupportedEvents, pEventCount)`: the status, `*ppSupportedEvents`
(`none` for `nullptr`) and `*pEventCount`, for the table the subclass returns and whether
`CoTaskMemAlloc` returned a buffer. -/
def getSupportedEvents (events : List EventKey) (allocated : Bool) :
    HRESULT × Option (List (Option Nat)) × UInt32 :=
  let count := UInt32.ofNat events.length
  if allocated then
    let r := supportedEventsLoop events 0 count (List.replicate count.toNat none)
    (.sOk, some r.1, r.2)
  else (.eOutOfMemory, none, 0)

/-- The loop writes entry `i` (when it runs at all) and leaves `count` at `0`: `i` never
moves, so the test fails only once `count` has wrapped. -/
theorem supportedEventsLoop_eq (events : List EventKey) (i count : UInt32)
    (buf : List (Option Nat)) :
    supportedEventsLoop events i count buf =
      if i < count then (buf.set i.toNat (events[i.toNat]?.map EventKey.fmtid), 0)
      else (buf, count) := by
  induction count, buf using supportedEventsLoop.induct events i with
  | case1 count buf h ih =>
    rw [supportedEventsLoop, if_pos h, if_pos h, ih, List.set_set]
    split_ifs with h'
    · rfl
    · -- `count + 1` is not above `i < count`: it wrapped to `0`
      have hi : i.toNat < count.toNat := h
      have hc : count.toNat < 2 ^ 32 := count.toBitVec.isLt
      have h0 : (count + 1).toNat = 0 := by
        rw [uint32_lt_iff, uint32_toNat_add, show (1 : UInt32).toNat = 1 from rfl] at h'
        rw [uint32_toNat_add, show (1 : UInt32).toNat = 1 from rfl]
        omega
      rw [show count + 1 = 0 from uint32_toNat_inj.1 h0]
  | case2 count buf h =>
    rw [supportedEventsLoop, if_neg h, if_neg h]

/-- **The event count is `0`.**  For every table of at least one event, `GetSupportedEvents`
succeeds with `*pEventCount = 0` and a buffer of `count` entries of which only the first
was written, with `events[0].fmtid`. -/
theorem getSupportedEvents_reports_no_event (e : EventKey) (rest : List EventKey) :
    getSupportedEvents (e :: rest) true =
      (.sOk, some ((List.replicate ((rest.length + 1) % 2 ^ 32) none).set 0 (some e.fmtid)), 0) := by
  simp only [getSupportedEvents, if_true, supportedEventsLoop_eq, uint32_toNat_ofNat,
    List.length_cons, show (0 : UInt32).toNat = 0 from rfl, List.getElem?_cons_zero, Option.map_some']
  split_ifs with h
  · rfl
  · have h0 : (rest.length + 1) % 2 ^ 32 = 0 := by
      simpa [uint32_lt_iff, uint32_toNat_ofNat] using h
    rw [h0, show UInt32.ofNat (rest.length + 1) = 0 from
      uint32_toNat_inj.1 (by rw [uint32_toNat_ofNat, h0]; rfl)]
    rfl

end SpbAccelerometer
