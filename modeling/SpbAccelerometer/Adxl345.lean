import SpbAccelerometer.Basic
import Mathlib.Data.Rat.Floor

/-!
# The ADXL345 on the SPB bus

The accelerometer is a file of byte registers.  `WriteRegister(reg, buffer, n)` writes `n`
bytes from `reg` on (the part increments the address), `ReadRegister(reg, buffer, n)` reads
them back.  Each transfer goes over the bus and may fail; the model draws the outcome of
every transfer, and of every framework call that may fail, from a list of outcomes
(`Bus.faults`, `true` for success, success once the list is used up), so that a theorem
over all lists is a theorem over every pattern of failures.  A failed write leaves the
registers as they were.  The bus also keeps a log of the accesses and their outcomes, named
by the place in the driver that issued them (`AccessSite`).

`Adxl345.h`, which holds the register map, the register values and the data-rate table, is
not part of the sources: its constants are the fields of `Adxl345`, a parameter of the
model, together with the facts about them the driver relies on.
-/

namespace SpbAccelerometer

/-- `DBL_MAX`, the start of the minimum in `SetChangeSensitivity`. -/
def dblMax : ℚ := ((2 ^ 53 - 1) * 2 ^ 971 : ℕ)

/-- The constants of `Adxl345.h` and the accelerometer's limits. -/
structure Adxl345 where
  intEnable : UInt8
  intSource : UInt8
  powerCtl : UInt8
  bwRate : UInt8
  threshAct : UInt8
  dataFormat : UInt8
  fifoCtl : UInt8
  actInactCtl : UInt8
  intMap : UInt8
  dataX0 : UInt8
  powerCtlStandby : UInt8
  powerCtlMeasure : UInt8
  intActivity : UInt8
  /-- `ADXL345_DATA_FORMAT_FULL_RES | ADXL345_DATA_FORMAT_JUSTIFY_RIGHT | ADXL345_DATA_FORMAT_RANGE_16G`. -/
  dataFormatSetting : UInt8
  fifoCtlModeBypass : UInt8
  /-- `ADXL345_ACT_INACT_CTL_ACT_ACDC | ADXL345_ACT_INACT_CTL_ACT_X | _Y | _Z`. -/
  actInactCtlSetting : UInt8
  /-- `_GetDataRateFromReportInterval(interval).RateCode`. -/
  rateCode : UInt32 → UInt8
  /-- `ACCELEROMETER_CHANGE_SENSITIVITY_RESOLUTION`. -/
  changeSensitivityResolution : ℚ
  minAccelerationG : ℚ
  maxAccelerationG : ℚ
  /-- `DEFAULT_ACCELEROMETER_CURRENT_REPORT_INTERVAL`. -/
  defaultReportInterval : UInt32
  /-- `DEFAULT_ACCELEROMETER_CHANGE_SENSITIVITY`. -/
  defaultChangeSensitivity : ℚ
  /-- The registers the driver configures are distinct. -/
  registers_nodup :
    [intEnable, powerCtl, bwRate, threshAct, dataFormat, fifoCtl, actInactCtl, intMap].Nodup
  intActivity_ne_zero : intActivity ≠ 0
  powerCtlMeasure_ne_standby : powerCtlMeasure ≠ powerCtlStandby
  /-- The default is a `double`. -/
  defaultChangeSensitivity_le_dblMax : defaultChangeSensitivity ≤ dblMax

namespace Adxl345

variable (c : Adxl345)

/-- The four registers that realise a data update mode are distinct. -/
theorem registers_ne :
    c.powerCtl ≠ c.intEnable ∧ c.bwRate ≠ c.intEnable ∧ c.threshAct ≠ c.intEnable ∧
      c.bwRate ≠ c.powerCtl ∧ c.threshAct ≠ c.powerCtl ∧ c.threshAct ≠ c.bwRate ∧
      c.intEnable ≠ c.powerCtl ∧ c.intEnable ≠ c.bwRate ∧ c.intEnable ≠ c.threshAct ∧
      c.powerCtl ≠ c.bwRate ∧ c.powerCtl ≠ c.threshAct ∧ c.bwRate ≠ c.threshAct := by
  have h := c.registers_nodup
  simp only [List.nodup_cons, List.mem_cons, List.mem_singleton, not_or] at h
  obtain ⟨⟨h₁₂, h₁₃, h₁₄, -⟩, ⟨h₂₃, h₂₄, -⟩, ⟨h₃₄, -⟩, -⟩ := h
  exact ⟨Ne.symm h₁₂, Ne.symm h₁₃, Ne.symm h₁₄, Ne.symm h₂₃, Ne.symm h₂₄, Ne.symm h₃₄,
    h₁₂, h₁₃, h₁₄, h₂₃, h₂₄, h₃₄⟩

/-- The rate code of the data sheet for the slowest output rate whose period is at most the
interval (in ms). -/
def dataSheetRateCode (interval : UInt32) : UInt8 :=
  if 160 ≤ interval then 0x06 else if 80 ≤ interval then 0x07 else if 40 ≤ interval then 0x08
  else if 20 ≤ interval then 0x09 else if 10 ≤ interval then 0x0A else if 5 ≤ interval then 0x0B
  else 0x0C

/-- The register map and register values of the ADXL345 data sheet, with its rate codes, a
62.5 mg threshold step, the ±16 g range, a 100 ms default interval and a 0.02 g default
sensitivity. -/
def dataSheet : Adxl345 where
  intEnable := 0x2E
  intSource := 0x30
  powerCtl := 0x2D
  bwRate := 0x2C
  threshAct := 0x24
  dataFormat := 0x31
  fifoCtl := 0x38
  actInactCtl := 0x27
  intMap := 0x2F
  dataX0 := 0x32
  powerCtlStandby := 0x00
  powerCtlMeasure := 0x08
  intActivity := 0x10
  dataFormatSetting := 0x0B
  fifoCtlModeBypass := 0x00
  actInactCtlSetting := 0xF0
  rateCode := dataSheetRateCode
  changeSensitivityResolution := 1 / 16
  minAccelerationG := -16
  maxAccelerationG := 16
  defaultReportInterval := 100
  defaultChangeSensitivity := 1 / 50
  registers_nodup := by decide
  intActivity_ne_zero := by decide
  powerCtlMeasure_ne_standby := by decide
  defaultChangeSensitivity_le_dblMax := by norm_num [dblMax]

end Adxl345

/-- `ADXL345_DATA_REPORT_SIZE_BYTES`: three 16-bit axes. -/
def dataReportSizeBytes : Nat := 6

/-! ## Registers -/

/-- The register file. -/
abbrev RegisterFile := UInt8 → UInt8

/-- `n` bytes written from `reg` on. -/
def RegisterFile.write (regs : RegisterFile) (reg : UInt8) : List UInt8 → RegisterFile
  | [] => regs
  | b :: bs => RegisterFile.write (Function.update regs reg b) (reg + 1) bs

/-- `n` bytes read from `reg` on. -/
def RegisterFile.read (regs : RegisterFile) (reg : UInt8) (n : Nat) : List UInt8 :=
  (List.range n).map fun i => regs (reg + UInt8.ofNat i)

@[simp] theorem RegisterFile.write_single (regs : RegisterFile) (reg b : UInt8) :
    regs.write reg [b] = Function.update regs reg b := rfl

@[simp] theorem RegisterFile.read_one (regs : RegisterFile) (reg : UInt8) : regs.read reg 1 = [regs reg] := by
  have h : reg + 0 = reg := UInt8.eq_of_toBitVec_eq (BitVec.add_zero _)
  simp [RegisterFile.read, List.range_succ, h]

/-- The places in the driver that access a register. -/
inductive AccessSite where
  | configureWrite | configureRead
  | standbyIntEnable | standbyIntSource | standbyPowerCtl
  | pollingIntEnable | pollingPowerCtl
  | eventingPowerCtl | eventingIntEnable
  | intervalIntEnableOff | intervalBwRate | intervalIntEnableOn
  | sensitivityIntEnableOff | sensitivityThreshAct | sensitivityIntEnableOn
  | requestData
  | testData
  deriving DecidableEq, Repr

/-! ## The bus -/

/-- The registers, the outcomes of the transfers still to come, the log of the accesses
made, and what memory holds past the end of a caller's buffer: `stray i` is the byte `i`
places after its last byte. -/
structure Bus where
  regs : RegisterFile
  faults : List Bool
  log : List (AccessSite × Bool)
  stray : Nat → UInt8

namespace Bus

/-- The outcome of the next transfer or framework call. -/
def next (b : Bus) : Bool × Bus :=
  match b.faults with
  | [] => (true, b)
  | ok :: rest => (ok, { b with faults := rest })

/-- `WriteRegister(reg, pDataBuffer, dataBufferLength)` of the bytes of a buffer: a null
`pDataBuffer` (`none`) is `E_INVALIDARG`, with no transfer; otherwise one transfer writes the
bytes from `reg` on. -/
def writeRegister (b : Bus) (site : AccessSite) (reg : UInt8) :
    Option (List UInt8) → HRESULT × Bus
  | none => (.eInvalidArg, b)
  | some bytes =>
    let t := b.next
    if t.1 then (.sOk, { t.2 with regs := t.2.regs.write reg bytes, log := t.2.log ++ [(site, true)] })
    else (.ioFailure, { t.2 with log := t.2.log ++ [(site, false)] })

/-- The `n` bytes `memcpy` takes from a caller's buffer holding `bytes`: its bytes, then, past
its end, what memory holds there. -/
def memcpy (b : Bus) (bytes : List UInt8) (n : Nat) : List UInt8 :=
  (List.range n).map fun i => bytes.getD i (b.stray (i - bytes.length))

/-- `ReadRegister(reg, buffer, n)`: the status and the bytes read. -/
def readRegister (b : Bus) (site : AccessSite) (reg : UInt8) (n : Nat) :
    HRESULT × List UInt8 × Bus :=
  let t := b.next
  if t.1 then (.sOk, t.2.regs.read reg n, { t.2 with log := t.2.log ++ [(site, true)] })
  else (.ioFailure, [], { t.2 with log := t.2.log ++ [(site, false)] })

/-- A framework call that may fail (`StopIdle`): its status. -/
def call (b : Bus) : HRESULT × Bus :=
  let t := b.next
  (if t.1 then .sOk else .ioFailure, t.2)

/-- The next outcome is the head of `faults`, success when none is left. -/
theorem next_eq (b : Bus) : b.next = (b.faults.headD true, { b with faults := b.faults.tail }) := by
  rcases b with ⟨regs, _ | ⟨ok, rest⟩, log, stray⟩ <;> rfl

theorem readRegister_regs (b : Bus) (site : AccessSite) (reg : UInt8) (n : Nat) :
    (b.readRegister site reg n).2.2.regs = b.regs := by
  simp only [readRegister, next_eq]; split <;> rfl

theorem readRegister_faults (b : Bus) (site : AccessSite) (reg : UInt8) (n : Nat) :
    (b.readRegister site reg n).2.2.faults = b.faults.tail := by
  simp only [readRegister, next_eq]; split <;> rfl

theorem call_snd (b : Bus) : b.call.2 = { b with faults := b.faults.tail } := by
  simp only [call, next_eq]

theorem call_log (b : Bus) : b.call.2.log = b.log := by
  rw [call_snd]

/-- A null buffer is refused before any transfer. -/
@[simp] theorem writeRegister_none (b : Bus) (site : AccessSite) (reg : UInt8) :
    b.writeRegister site reg none = (.eInvalidArg, b) := rfl

/-- Each transfer logs its site and whether it succeeded, as its status says. -/
theorem writeRegister_log (b : Bus) (site : AccessSite) (reg : UInt8) (bytes : List UInt8) :
    (b.writeRegister site reg (some bytes)).2.log =
      b.log ++ [(site, (b.writeRegister site reg (some bytes)).1.succeeded)] := by
  simp only [writeRegister, next_eq]; split <;> rfl

theorem readRegister_log (b : Bus) (site : AccessSite) (reg : UInt8) (n : Nat) :
    (b.readRegister site reg n).2.2.log = b.log ++ [(site, (b.readRegister site reg n).1.succeeded)] := by
  simp only [readRegister, next_eq]; split <;> rfl

/-- A write that succeeds returns `S_OK`. -/
theorem writeRegister_sOk {b : Bus} {site : AccessSite} {reg : UInt8} {buffer : Option (List UInt8)}
    (h : (b.writeRegister site reg buffer).1.succeeded = true) :
    (b.writeRegister site reg buffer).1 = .sOk := by
  revert h; cases buffer <;> simp only [writeRegister] <;> (try split) <;> simp [HRESULT.succeeded]

/-- `memcpy` copies exactly the `n` bytes it is asked for. -/
@[simp] theorem length_memcpy (b : Bus) (bytes : List UInt8) (n : Nat) :
    (b.memcpy bytes n).length = n := by
  simp [memcpy]

/-- From a buffer of at least `n` bytes, `memcpy` takes its first `n`. -/
theorem memcpy_of_le (b : Bus) {bytes : List UInt8} {n : Nat} (h : n ≤ bytes.length) :
    b.memcpy bytes n = bytes.take n := by
  apply List.ext_getElem (by simp [h])
  intro i h₁ _
  simp only [length_memcpy] at h₁
  simp only [memcpy, List.getElem_map, List.getElem_range, List.getElem_take]
  rw [List.getD_eq_getElem _ _ (by omega)]

section Reliable

/-! With no failure left in `faults`, every transfer succeeds and the bus only records it. -/

variable {b : Bus} (hb : b.faults = [])
include hb

theorem next_reliable : b.next = (true, b) := by
  unfold next; rw [hb]

theorem writeRegister_reliable (site : AccessSite) (reg : UInt8) (bytes : List UInt8) :
    b.writeRegister site reg (some bytes) =
      (.sOk, { b with regs := b.regs.write reg bytes, log := b.log ++ [(site, true)] }) := by
  simp only [writeRegister, next_reliable hb, if_true]

theorem readRegister_reliable (site : AccessSite) (reg : UInt8) (n : Nat) :
    b.readRegister site reg n = (.sOk, b.regs.read reg n, { b with log := b.log ++ [(site, true)] }) := by
  simp only [readRegister, next_reliable hb, if_true]

theorem call_reliable : b.call = (.sOk, b) := by
  simp only [call, next_reliable hb, if_true]

end Reliable

end Bus

end SpbAccelerometer
