import SpbAccelerometer.Adxl345
import SpbAccelerometer.ClientManager

/-!
# `CAccelerometerDevice`: the register sequences

The sensor object is one `CAccelerometerDevice`, which derives from `CSensorDevice`; its
members are the fields of `SensorDevice`.  This module models the methods of the derived
class, which program the ADXL345:

* `SetDeviceStateStandby`, `SetDeviceStatePolling`, `SetDeviceStateEventing`, the three
  device states;
* `SetReportInterval` and `SetChangeSensitivity`, which both turn the interrupts off, write
  one register and turn the activity interrupt back on (`Bus.reprogram`);
* `RequestData`, which reads the three axes and checks each against the range;
* `ConfigureHardware` and the test property `SENSOR_PROPERTY_TEST_DATA`.

Buffer allocations (`new BYTE[n]`) are taken to succeed.  Three members are ghosts, not
members of the classes: `deviceReportInterval` and `deviceChangeSensitivity` record the
last value passed to `SetReportInterval` and `SetChangeSensitivity`, and `idleReferences`
counts the successful `StopIdle` calls minus the `ResumeIdle` calls.
-/

namespace SpbAccelerometer

/-- `SensorState`, with the values of `sensorsapi.h`. -/
inductive SensorState where
  | ready | notAvailable | noData | initializing | accessDenied | error
  deriving DecidableEq, Repr

/-- The value of a state in `SENSOR_PROPERTY_STATE`. -/
def SensorState.toUInt32 : SensorState → UInt32
  | ready => 0
  | notAvailable => 1
  | noData => 2
  | initializing => 3
  | accessDenied => 4
  | error => 5

/-- `pVar->ulVal`, read without a type check. -/
def PropValue.ulVal : PropValue → UInt32
  | .var v => v.ulVal
  | .unknown _ => 0

/-- `pVar->caub.pElems`, read without a type check: the bytes of a `VT_VECTOR | VT_UI1`
variant, and a null pointer for the others, whose value `PropVariantInit` left clear where
`caub.pElems` lies. -/
def PropValue.caubElems : PropValue → Option (List UInt8)
  | .var (.vectorUi1 bytes) => some bytes
  | _ => none

/-- The members of the sensor object the modelled methods read or write. -/
structure SensorDevice where
  bus : Bus
  initialized : Bool
  interruptsEnabled : UInt8
  testRegister : UInt32
  testDataSize : UInt32
  sensorInitialized : Bool
  clientManager : ClientManager
  dataUpdateMode : DataUpdateMode
  sensorPropertyValues : PortableDeviceValues
  sensorDataFieldValues : PortableDeviceValues
  stateChanged : Bool
  /-- The time `GetSystemTimePreciseAsFileTime` returns. -/
  time : Nat
  /-- The report interval of `m_pReportManager`. -/
  reportInterval : UInt32
  deviceReportInterval : UInt32
  deviceChangeSensitivity : PortableDeviceValues
  idleReferences : Int

variable (c : Adxl345)

/-! ## Device states -/

namespace SensorDevice

/-- `SetDeviceStateStandby()`: interrupts off, stale interrupts cleared, standby.  The
`POWER_CTL` write is made whatever happened before, and its status is the result. -/
def setDeviceStateStandby (d : SensorDevice) : HRESULT × SensorDevice :=
  let w := d.bus.writeRegister .standbyIntEnable c.intEnable (some [0])
  let ie := if w.1.succeeded then 0 else d.interruptsEnabled
  let bus := if w.1.succeeded then (w.2.readRegister .standbyIntSource c.intSource 1).2.2 else w.2
  let p := bus.writeRegister .standbyPowerCtl c.powerCtl (some [c.powerCtlStandby])
  (p.1, { d with bus := p.2, interruptsEnabled := ie })

/-- `SetDeviceStatePolling()`: interrupts off, then measurement mode. -/
def setDeviceStatePolling (d : SensorDevice) : HRESULT × SensorDevice :=
  let w := d.bus.writeRegister .pollingIntEnable c.intEnable (some [0])
  if w.1.succeeded then
    let p := w.2.writeRegister .pollingPowerCtl c.powerCtl (some [c.powerCtlMeasure])
    (p.1, { d with bus := p.2, interruptsEnabled := 0 })
  else (w.1, { d with bus := w.2 })

/-- `SetDeviceStateEventing()`: measurement mode, then the activity interrupt. -/
def setDeviceStateEventing (d : SensorDevice) : HRESULT × SensorDevice :=
  let p := d.bus.writeRegister .eventingPowerCtl c.powerCtl (some [c.powerCtlMeasure])
  if p.1.succeeded then
    let w := p.2.writeRegister .eventingIntEnable c.intEnable (some [c.intActivity])
    (w.1, { d with
      bus := w.2
      interruptsEnabled := if w.1.succeeded then c.intActivity else d.interruptsEnabled })
  else (p.1, { d with bus := p.2 })

section Reliable

/-! On a bus with no failure left, the three device states write their registers and succeed. -/

variable {c} {d : SensorDevice} (hb : d.bus.faults = [])
include hb

theorem setDeviceStateStandby_reliable : setDeviceStateStandby c d =
    (.sOk, { d with
      bus := { d.bus with
        regs := Function.update (Function.update d.bus.regs c.intEnable 0) c.powerCtl c.powerCtlStandby
        log := d.bus.log ++ [(.standbyIntEnable, true), (.standbyIntSource, true), (.standbyPowerCtl, true)] }
      interruptsEnabled := 0 }) := by
  simp [setDeviceStateStandby, Bus.writeRegister, Bus.readRegister, Bus.next, hb]

theorem setDeviceStatePolling_reliable : setDeviceStatePolling c d =
    (.sOk, { d with
      bus := { d.bus with
        regs := Function.update (Function.update d.bus.regs c.intEnable 0) c.powerCtl c.powerCtlMeasure
        log := d.bus.log ++ [(.pollingIntEnable, true), (.pollingPowerCtl, true)] }
      interruptsEnabled := 0 }) := by
  simp [setDeviceStatePolling, Bus.writeRegister, Bus.next, hb]

theorem setDeviceStateEventing_reliable : setDeviceStateEventing c d =
    (.sOk, { d with
      bus := { d.bus with
        regs := Function.update (Function.update d.bus.regs c.powerCtl c.powerCtlMeasure) c.intEnable
          c.intActivity
        log := d.bus.log ++ [(.eventingPowerCtl, true), (.eventingIntEnable, true)] }
      interruptsEnabled := c.intActivity }) := by
  simp [setDeviceStateEventing, Bus.writeRegister, Bus.next, hb]

end Reliable

end SensorDevice

/-! ## Report interval and change sensitivity -/

/-- The register update `SetReportInterval` and `SetChangeSensitivity` share: interrupts
off, `reg := val`, the activity interrupt on, each write only after the one before
succeeded. -/
def Bus.reprogram (b : Bus) (sites : AccessSite × AccessSite × AccessSite) (reg val : UInt8) :
    HRESULT × Bus :=
  let w := b.writeRegister sites.1 c.intEnable (some [0])
  if w.1.succeeded then
    let v := w.2.writeRegister sites.2.1 reg (some [val])
    if v.1.succeeded then v.2.writeRegister sites.2.2 c.intEnable (some [c.intActivity]) else v
  else w

/-- The registers after a successful `Bus.reprogram`. -/
def RegisterFile.reprogram (regs : RegisterFile) (reg val : UInt8) : RegisterFile :=
  Function.update (Function.update (Function.update regs c.intEnable 0) reg val) c.intEnable
    c.intActivity

theorem Bus.reprogram_reliable {b : Bus} (hb : b.faults = []) (sites : AccessSite × AccessSite × AccessSite)
    (reg val : UInt8) : b.reprogram c sites reg val =
      (.sOk, { b with
        regs := b.regs.reprogram c reg val
        log := b.log ++ [(sites.1, true), (sites.2.1, true), (sites.2.2, true)] }) := by
  simp [Bus.reprogram, RegisterFile.reprogram, Bus.writeRegister, Bus.next, hb]

theorem Bus.reprogram_sOk {b : Bus} {sites : AccessSite × AccessSite × AccessSite} {reg val : UInt8}
    (h : (b.reprogram c sites reg val).1.succeeded = true) : (b.reprogram c sites reg val).1 = .sOk := by
  revert h; simp only [Bus.reprogram]; split_ifs <;> exact Bus.writeRegister_sOk

@[simp] theorem RegisterFile.reprogram_intEnable (regs : RegisterFile) (reg val : UInt8) :
    regs.reprogram c reg val c.intEnable = c.intActivity := by
  simp [RegisterFile.reprogram]

theorem RegisterFile.reprogram_self {regs : RegisterFile} {reg : UInt8} (h : reg ≠ c.intEnable)
    (val : UInt8) : regs.reprogram c reg val reg = val := by
  simp [RegisterFile.reprogram, h]

theorem RegisterFile.reprogram_other {regs : RegisterFile} {reg r : UInt8} (h : r ≠ c.intEnable)
    (h' : r ≠ reg) (val : UInt8) : regs.reprogram c reg val r = regs r := by
  simp [RegisterFile.reprogram, h, h']

/-- The smallest `VT_R8` value of a collection, or `DBL_MAX`. -/
def minChangeSensitivity (values : PortableDeviceValues) : ℚ :=
  values.foldl (fun m kv => if kv.2.vt = .r8 ∧ kv.2.real < m then kv.2.real else m) dblMax

/-- `(BYTE)x` for a non-negative double: the integer part, then its low byte. -/
def byteOfDouble (x : ℚ) : UInt8 := UInt8.ofNat ⌊x⌋.toNat

/-- The `THRESH_ACT` value `SetChangeSensitivity` computes. -/
def newThreshold (values : PortableDeviceValues) : UInt8 :=
  byteOfDouble (minChangeSensitivity values / c.changeSensitivityResolution)

namespace SensorDevice

/-- `SetReportInterval(ReportInterval)`. -/
def setReportInterval (d : SensorDevice) (interval : UInt32) : HRESULT × SensorDevice :=
  if d.initialized then
    let r := d.bus.reprogram c (.intervalIntEnableOff, .intervalBwRate, .intervalIntEnableOn)
      c.bwRate (c.rateCode interval)
    (r.1, { d with bus := r.2, deviceReportInterval := interval })
  else (.eUnexpected, d)

/-- `SetChangeSensitivity(pVar)`: the value must be a collection (`VT_UNKNOWN`). -/
def setChangeSensitivity (d : SensorDevice) (var : PropValue) : HRESULT × SensorDevice :=
  if d.initialized then
    match var with
    | .unknown values =>
      let r := d.bus.reprogram c (.sensitivityIntEnableOff, .sensitivityThreshAct,
        .sensitivityIntEnableOn) c.threshAct (newThreshold c values)
      (r.1, { d with bus := r.2, deviceChangeSensitivity := values })
    | .var _ => (.eInvalidArg, d)
  else (.eUnexpected, d)

/-- `SetChangeSensitivity` succeeds only with `S_OK`. -/
theorem setChangeSensitivity_sOk {d : SensorDevice} {var : PropValue}
    (h : (setChangeSensitivity c d var).1.succeeded = true) : (setChangeSensitivity c d var).1 = .sOk := by
  revert h
  simp only [setChangeSensitivity]
  split_ifs
  · split
    · exact Bus.reprogram_sOk c
    · simp [HRESULT.succeeded]
  · simp [HRESULT.succeeded]

section Reliable

variable {c} {d : SensorDevice} (hb : d.bus.faults = []) (hi : d.initialized = true)
include hb hi

theorem setReportInterval_reliable (interval : UInt32) : setReportInterval c d interval =
    (.sOk, { d with
      bus := { d.bus with
        regs := d.bus.regs.reprogram c c.bwRate (c.rateCode interval)
        log := d.bus.log ++
          [(.intervalIntEnableOff, true), (.intervalBwRate, true), (.intervalIntEnableOn, true)] }
      deviceReportInterval := interval }) := by
  simp [setReportInterval, hi, Bus.reprogram_reliable c hb]

theorem setChangeSensitivity_reliable (values : PortableDeviceValues) :
    setChangeSensitivity c d (.unknown values) =
    (.sOk, { d with
      bus := { d.bus with
        regs := d.bus.regs.reprogram c c.threshAct (newThreshold c values)
        log := d.bus.log ++ [(.sensitivityIntEnableOff, true), (.sensitivityThreshAct, true),
          (.sensitivityIntEnableOn, true)] }
      deviceChangeSensitivity := values }) := by
  simp [setChangeSensitivity, hi, Bus.reprogram_reliable c hb]

end Reliable

end SensorDevice

/-! ## Data -/

/-- An axis from its two bytes: the little-endian `SHORT`, in units of `1/256` g. -/
def decodeAxis (lo hi : UInt8) : ℚ :=
  ((hi.toNat * 256 + lo.toNat : Int) - if 128 ≤ hi.toNat then 65536 else 0) / 256

/-- `AddDataFieldValue(key, pVar, pValues)`: an acceleration must be a `VT_R8` value in
`[ACCELEROMETER_MIN_ACCELERATION_G, ACCELEROMETER_MAX_ACCELERATION_G]`. -/
def addDataFieldValue (key : PropertyKey) (var : PropVariant) (values : PortableDeviceValues) :
    HRESULT × PortableDeviceValues :=
  if key = .sensorDataTypeAccelerationXG ∨ key = .sensorDataTypeAccelerationYG ∨
      key = .sensorDataTypeAccelerationZG then
    if var.vt ≠ .r8 then (.eInvalidArg, values)
    else if var.real < c.minAccelerationG ∨ var.real > c.maxAccelerationG then (.eInvalidArg, values)
    else (.sOk, setValue values key var)
  else (.sOk, setValue values key var)

/-- The three axes of a data report added one after the other, each only if the one before
was accepted. -/
def addAxes (bytes : List UInt8) : HRESULT × PortableDeviceValues :=
  let x := addDataFieldValue c .sensorDataTypeAccelerationXG
    (.r8 (decodeAxis (bytes.getD 0 0) (bytes.getD 1 0))) []
  if x.1.succeeded then
    let y := addDataFieldValue c .sensorDataTypeAccelerationYG
      (.r8 (decodeAxis (bytes.getD 2 0) (bytes.getD 3 0))) x.2
    if y.1.succeeded then
      addDataFieldValue c .sensorDataTypeAccelerationZG
        (.r8 (decodeAxis (bytes.getD 4 0) (bytes.getD 5 0))) y.2
    else y
  else x

/-- A decoded acceleration that `AddDataFieldValue` accepts. -/
def Adxl345.InRange (x : ℚ) : Prop := c.minAccelerationG ≤ x ∧ x ≤ c.maxAccelerationG

instance (x : ℚ) : Decidable (c.InRange x) := inferInstanceAs (Decidable (_ ∧ _))

/-- The three axes of a report are in range. -/
def Adxl345.ReportInRange (bytes : List UInt8) : Prop :=
  c.InRange (decodeAxis (bytes.getD 0 0) (bytes.getD 1 0)) ∧
    c.InRange (decodeAxis (bytes.getD 2 0) (bytes.getD 3 0)) ∧
    c.InRange (decodeAxis (bytes.getD 4 0) (bytes.getD 5 0))

instance (bytes : List UInt8) : Decidable (c.ReportInRange bytes) :=
  inferInstanceAs (Decidable (_ ∧ _ ∧ _))

theorem addDataFieldValue_axis {key : PropertyKey}
    (hk : key = .sensorDataTypeAccelerationXG ∨ key = .sensorDataTypeAccelerationYG ∨
      key = .sensorDataTypeAccelerationZG) (x : ℚ) (values : PortableDeviceValues) :
    addDataFieldValue c key (.r8 x) values =
      if c.InRange x then (.sOk, setValue values key (.r8 x)) else (.eInvalidArg, values) := by
  simp only [addDataFieldValue, if_pos hk, PropVariant.vt, PropVariant.real, ne_eq,
    not_true_eq_false, if_false, gt_iff_lt, ← not_le, ← not_and_or, Adxl345.InRange, ite_not]

/-- The axes of a report are accepted together or not at all: `S_OK` exactly when the three
are in range, `E_INVALIDARG` otherwise. -/
theorem addAxes_fst (bytes : List UInt8) :
    (addAxes c bytes).1 = if c.ReportInRange bytes then .sOk else .eInvalidArg := by
  simp only [addAxes, Adxl345.ReportInRange, addDataFieldValue_axis c (.inl rfl),
    addDataFieldValue_axis c (.inr (.inl rfl)), addDataFieldValue_axis c (.inr (.inr rfl))]
  split_ifs <;> simp_all [HRESULT.succeeded]

namespace SensorDevice

/-- `RequestData(pValues)`: read the data registers and decode the axes into a new
collection. -/
def requestData (d : SensorDevice) : HRESULT × PortableDeviceValues × SensorDevice :=
  if d.initialized then
    let r := d.bus.readRegister .requestData c.dataX0 dataReportSizeBytes
    let d := { d with bus := r.2.2 }
    if r.1.succeeded then
      let a := addAxes c r.2.1
      (a.1, a.2, d)
    else (r.1, [], d)
  else (.eUnexpected, [], d)

/-- `RequestNewData(pValues)`. -/
def requestNewData (d : SensorDevice) : HRESULT × PortableDeviceValues × SensorDevice :=
  if d.initialized then requestData c d else (.eUnexpected, [], d)

/-! ## Configuration and test properties -/

end SensorDevice

/-- The change sensitivities of `GetDefaultSettableProperties`: the default for each axis,
as a `VT_R8` value. -/
def defaultChangeSensitivities : PortableDeviceValues :=
  setValue (setValue (setValue [] .sensorDataTypeAccelerationXG (.r8 c.defaultChangeSensitivity))
    .sensorDataTypeAccelerationYG (.r8 c.defaultChangeSensitivity))
    .sensorDataTypeAccelerationZG (.r8 c.defaultChangeSensitivity)

/-- `g_ConfigurationSettings`. -/
def configurationSettings : List (UInt8 × UInt8) :=
  [(c.powerCtl, c.powerCtlStandby),
   (c.dataFormat, c.dataFormatSetting),
   (c.fifoCtl, c.fifoCtlModeBypass),
   (c.bwRate, c.rateCode c.defaultReportInterval),
   (c.threshAct, byteOfDouble (c.defaultChangeSensitivity / c.changeSensitivityResolution)),
   (c.actInactCtl, c.actInactCtlSetting),
   (c.intMap, c.intActivity)]

/-- The loop of `ConfigureHardware`: write each setting and read it back; a failed transfer
or a value read back that differs stops the loop. -/
def Bus.configure : List (UInt8 × UInt8) → Bus → HRESULT × Bus
  | [], b => (.sOk, b)
  | (reg, val) :: rest, b =>
    let w := b.writeRegister .configureWrite reg (some [val])
    if w.1.succeeded then
      let r := w.2.readRegister .configureRead reg 1
      if r.1.succeeded then
        if r.2.1 ≠ [val] then (.eUnexpected, r.2.2) else Bus.configure rest r.2.2
      else (r.1, r.2.2)
    else w

/-- On a bus with no failure left, every setting is written and read back. -/
theorem Bus.configure_reliable (settings : List (UInt8 × UInt8)) {b : Bus} (hb : b.faults = []) :
    Bus.configure settings b = (.sOk, { b with
      regs := settings.foldl (fun regs s => Function.update regs s.1 s.2) b.regs
      log := b.log ++ settings.flatMap fun _ => [(.configureWrite, true), (.configureRead, true)] }) := by
  induction settings generalizing b with
  | nil => simp [Bus.configure]
  | cons s rest ih =>
    simp [Bus.configure, Bus.writeRegister_reliable hb, Bus.readRegister, Bus.next, hb,
      ih]

namespace SensorDevice

/-- `ConfigureHardware()`. -/
def configureHardware (d : SensorDevice) : HRESULT × SensorDevice :=
  if d.initialized then
    let r := Bus.configure (configurationSettings c) d.bus
    (r.1, { d with bus := r.2 })
  else (.eUnexpected, d)

/-- `SetTestProperty(key, pVar)`.  For `SENSOR_PROPERTY_TEST_DATA`, `WriteRegister` copies
`m_TestDataSize` bytes from `caub.pElems`, whatever the length of the vector: past its end, the
bytes memory holds there. -/
def setTestProperty (d : SensorDevice) (key : PropertyKey) (var : PropValue) :
    HRESULT × SensorDevice :=
  if d.initialized then
    if key = .sensorPropertyTestRegister then (.sOk, { d with testRegister := var.ulVal })
    else if key = .sensorPropertyTestDataSize then (.sOk, { d with testDataSize := var.ulVal })
    else if key = .sensorPropertyTestData then
      let w := d.bus.writeRegister .testData (UInt8.ofNat d.testRegister.toNat)
        (var.caubElems.map fun bytes => d.bus.memcpy bytes d.testDataSize.toNat)
      (w.1, { d with bus := w.2 })
    else (.errorNotFound, d)
  else (.eUnexpected, d)

end SensorDevice

end SpbAccelerometer
