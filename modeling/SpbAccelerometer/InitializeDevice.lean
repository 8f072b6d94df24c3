import SpbAccelerometer.Initialize
import SpbAccelerometer.Resources

/-!
# `InitializeDevice`: the ACPI configuration, the resources and the SPB request

`CSensorDevice::Initialize` draws the three stages of `CAccelerometerDevice::InitializeDevice`
as three framework outcomes (`SensorDevice.initializeDevice`).  Here the stages are the code:
`GetConfigurationData` evaluates the device's `_DSM` through `IOCTL_ACPI_EVAL_METHOD` with the
input `PrepareInputParametersForDsm` builds and checks the reply (`ParseAcpiOutputBuffer`),
`ParseResources` finds the resource hub connection, and `InitializeRequest` opens the SPB
request on its resource hub path.  `Platform.initializeDevice` runs them on the ACPI driver's
replies and the resource lists of a `Platform`.

    ∃ outcomes, initializeDevice (d.withFaults (outcomes ++ rest)) = the same device,
      and the same success                                    (initializeDevice_refines)
    initialised → resources well formed, request on their connection
                                                          (initializeDevice_opens_connection)
    reliable bus, resources and reply well formed → initialised, request on the connection
                                                              (initializeDevice_reliable)

So the three outcomes the rest of the development draws cover every run of the code, and the
object they initialise talks to the one I2C connection of its resources.
-/

namespace SpbAccelerometer

/-! ## Algorithm -/

/-! ### `acpiioct.h` -/

/-- `ACPI_METHOD_ARGUMENT`: `Type`, `DataLength`, and the bytes of the union of `Argument`
and `Data` in memory order. -/
structure AcpiMethodArgument where
  type : UInt16
  dataLength : UInt16
  data : List UInt8
  deriving DecidableEq, Repr

/-- `ACPI_METHOD_ARGUMENT_INTEGER`. -/
def acpiMethodArgumentInteger : UInt16 := 0

/-- `ACPI_METHOD_ARGUMENT_BUFFER`. -/
def acpiMethodArgumentBuffer : UInt16 := 2

/-- `ACPI_METHOD_ARGUMENT_PACKAGE`. -/
def acpiMethodArgumentPackage : UInt16 := 3

/-- The bytes of a `ULONG` in memory order. -/
def ulongBytes (v : UInt32) : List UInt8 :=
  [v.toUInt8, (v >>> 8).toUInt8, (v >>> 16).toUInt8, (v >>> 24).toUInt8]

/-- `ACPI_METHOD_SET_ARGUMENT_INTEGER(MethodArgument, IntData)`. -/
def AcpiMethodArgument.integer (intData : UInt32) : AcpiMethodArgument :=
  ⟨acpiMethodArgumentInteger, 4, ulongBytes intData⟩

/-- `ACPI_METHOD_SET_ARGUMENT_BUFFER(MethodArgument, BuffData, BuffLength)`. -/
def AcpiMethodArgument.buffer (buffData : List UInt8) (buffLength : UInt16) :
    AcpiMethodArgument :=
  ⟨acpiMethodArgumentBuffer, buffLength, buffData.take buffLength.toNat⟩

/-- `ACPI_EVAL_INPUT_BUFFER_COMPLEX`. -/
structure AcpiEvalInputBufferComplex where
  signature : UInt32
  methodNameAsUlong : UInt32
  size : UInt32
  argumentCount : UInt32
  argument : List AcpiMethodArgument
  deriving DecidableEq, Repr

/-- `ACPI_EVAL_OUTPUT_BUFFER`, with `Argument[0]`, the one argument the driver reads. -/
structure AcpiEvalOutputBuffer where
  signature : UInt32
  length : UInt32
  count : UInt32
  argument : AcpiMethodArgument
  deriving DecidableEq, Repr

/-- `ACPI_EVAL_INPUT_BUFFER_COMPLEX_SIGNATURE`, `'CieA'`. -/
def acpiEvalInputBufferComplexSignature : UInt32 := 0x43696541

/-- `ACPI_EVAL_OUTPUT_BUFFER_SIGNATURE`, `'BoeA'`. -/
def acpiEvalOutputBufferSignature : UInt32 := 0x426F6541

/-- `sizeof(ACPI_EVAL_OUTPUT_BUFFER)`: three `ULONG`s and one `ACPI_METHOD_ARGUMENT`. -/
def sizeofAcpiEvalOutputBuffer : Nat := 20

/-! ### The ACPI configuration -/

/-- `ACPI_DSM_GUID`, `{7681541E-8827-4239-8D9D-36BE7FE12542}`, in memory order. -/
def acpiDsmGuid : List UInt8 :=
  [0x1e, 0x54, 0x81, 0x76, 0x27, 0x88, 0x39, 0x42,
    0x8d, 0x9d, 0x36, 0xbe, 0x7f, 0xe1, 0x25, 0x42]

/-- `ACPI_DSM_ARGUMENTS_COUNT`. -/
def acpiDsmArgumentsCount : UInt32 := 4

/-- `ACPI_DSM_REVISION`. -/
def acpiDsmRevision : UInt32 := 1

/-- `ACPI_DSM_CONFIG_FUNCTION`. -/
def acpiDsmConfigFunction : UInt32 := 1

/-- `ACPI_DSM_CONFIG_COUNT`. -/
def acpiDsmConfigCount : UInt32 := 1

/-- `sizeof(SPB_ACCELEROMETER_CONFIG)`: four `BYTE`s. -/
def sizeofSpbAccelerometerConfig : UInt16 := 4

/-- `inputBufferSize` of `GetConfigurationData`: `sizeof(ACPI_EVAL_INPUT_BUFFER_COMPLEX)`,
`sizeof(ACPI_METHOD_ARGUMENT)` for each argument past the first, and `sizeof(GUID)`. -/
def inputBufferSize : UInt32 := 24 + 8 * (acpiDsmArgumentsCount - 1) + 16

/-- `PrepareInputParametersForDsm(pInputBuffer, InputBufferSize, FunctionIndex)`: `_DSM` with
the UUID, the revision, the function index and an empty package. -/
def prepareInputParametersForDsm (inputBufferSize functionIndex : UInt32) :
    AcpiEvalInputBufferComplex where
  methodNameAsUlong := 0x4D53445F
  signature := acpiEvalInputBufferComplexSignature
  argumentCount := 4
  size := inputBufferSize
  argument :=
    [.buffer acpiDsmGuid 16, .integer acpiDsmRevision, .integer functionIndex,
      ⟨acpiMethodArgumentPackage, 4, ulongBytes 0⟩]

/-- The statuses of `GetConfigurationData`: an `HRESULT` of the model, or
`HRESULT_FROM_WIN32` of one of the three codes only the configuration path returns. -/
inductive AcpiStatus where
  | hr (h : HRESULT)
  | errorInvalidName
  | errorBadLength
  | errorInvalidData
  deriving DecidableEq, Repr

/-- `SUCCEEDED(hr)`. -/
def AcpiStatus.succeeded : AcpiStatus → Bool
  | hr h => h.succeeded
  | _ => false

/-- `ParseAcpiOutputBuffer(pOutputBuffer)`: the signature, the count, and the type and length
of the first argument, in this order.  The configuration it then finds is only traced. -/
def parseAcpiOutputBuffer (out : AcpiEvalOutputBuffer) : AcpiStatus :=
  if out.signature ≠ acpiEvalOutputBufferSignature then .errorInvalidName
  else if out.count ≠ acpiDsmConfigCount then .errorBadLength
  else if out.argument.type ≠ acpiMethodArgumentBuffer then .errorInvalidData
  else if out.argument.dataLength ≠ sizeofSpbAccelerometerConfig then .errorBadLength
  else .hr .sOk

/-- What the ACPI driver gives back for an `IOCTL_ACPI_EVAL_METHOD` request: its
`GetInformation()`, the bytes written, and the output memory. -/
structure AcpiReply where
  information : Nat
  output : AcpiEvalOutputBuffer
  deriving DecidableEq, Repr

/-- Framework calls made one after the other while they succeed: the status of the first that
fails, `S_OK` when none does. -/
def Bus.calls : Nat → Bus → HRESULT × Bus
  | 0, b => (.sOk, b)
  | n + 1, b =>
    let c := b.call
    if c.1.succeeded then calls n c.2 else c

/-- `GetConfigurationData(pWdfDevice)`: `GetDriver`, which may leave `spDriver` null, the two
`CreateWdfMemory`, the input buffer, `GetDefaultIoTarget`, which may leave `spLocalTarget`
null, then `CreateRequest`, `CreateWdfFile`, `FormatRequestForIoctl`, `Send` and
`GetCompletionStatus`, the length of the reply and `ParseAcpiOutputBuffer`.  A null pointer
jumps to `exit` with `hr` as it is, `S_OK`.  `acpi` is the ACPI driver's reply to an input. -/
def getConfigurationData (acpi : AcpiEvalInputBufferComplex → AcpiReply) (b : Bus) :
    AcpiStatus × Bus :=
  let driver := b.next
  if driver.1 = false then (.hr .sOk, driver.2)
  else
    let memories := driver.2.calls 2
    if memories.1.succeeded = false then (.hr memories.1, memories.2)
    else
      let input := prepareInputParametersForDsm inputBufferSize acpiDsmConfigFunction
      let target := memories.2.next
      if target.1 = false then (.hr memories.1, target.2)
      else
        let sent := target.2.calls 5
        if sent.1.succeeded = false then (.hr sent.1, sent.2)
        else
          let reply := acpi input
          if reply.information < sizeofAcpiEvalOutputBuffer then (.errorBadLength, sent.2)
          else (parseAcpiOutputBuffer reply.output, sent.2)

/-! ### `InitializeRequest` -/

/-- `InitializeRequest(pWdfDevice, id)`: `Make<CSpbRequest>()`, the resource hub path of `id`
(`RESOURCE_HUB_CREATE_PATH_FROM_ID`), `m_pSpbRequest->Initialize` on that path and the data
buffer's `new`, each drawn like a framework call and made when the one before succeeded; the
status, and the connection id whose path the request was initialised on. -/
def initializeRequest (id : UInt32 × UInt32) (b : Bus) :
    HRESULT × Option (UInt32 × UInt32) × Bus :=
  let spbRequest := b.call
  if spbRequest.1.succeeded = false then (.eOutOfMemory, none, spbRequest.2)
  else
    let path := spbRequest.2.call
    if path.1.succeeded = false then (path.1, none, path.2)
    else
      let request := path.2.call
      if request.1.succeeded = false then (request.1, none, request.2)
      else
        let dataBuffer := request.2.call
        if dataBuffer.1.succeeded then (.sOk, some id, dataBuffer.2)
        else (.eOutOfMemory, some id, dataBuffer.2)

/-! ### `InitializeDevice` -/

/-- What `InitializeDevice` finds around the device: the ACPI driver's replies, and the raw
and the translated resource lists (`none` is a null translated list). -/
structure Platform where
  acpi : AcpiEvalInputBufferComplex → AcpiReply
  resourcesRaw : List (Option ResourceDescriptor)
  resourcesTranslated : Option (List (Option ResourceDescriptor))

/-- The status of `InitializeDevice`: that of the stage that failed, or of `InitializeRequest`. -/
inductive InitializeStatus where
  | configuration (s : AcpiStatus)
  | resources (s : ResourceStatus)
  | hr (h : HRESULT)
  deriving DecidableEq, Repr

/-- `SUCCEEDED(hr)`. -/
def InitializeStatus.succeeded : InitializeStatus → Bool
  | configuration s => s.succeeded
  | resources s => s.succeeded
  | hr h => h.succeeded

/-- `InitializeDevice(pWdfDevice, pWdfResourcesRaw, pWdfResourcesTranslated)` on the platform
`p`: once, `GetConfigurationData`, `ParseResources` from `requestId = 0` and
`InitializeRequest` on the id it found, each when the one before succeeded; the device is
initialised when the three did.  The status, and the connection id the new SPB request was
initialised on. -/
def Platform.initializeDevice (p : Platform) (d : SensorDevice) :
    InitializeStatus × Option (UInt32 × UInt32) × SensorDevice :=
  if d.initialized then (.hr .sOk, none, d)
  else
    let g := getConfigurationData p.acpi d.bus
    if g.1.succeeded = false then (.configuration g.1, none, { d with bus := g.2 })
    else
      let r := parseResources p.resourcesRaw p.resourcesTranslated (0, 0) g.2
      if r.1.succeeded = false then (.resources r.1, none, { d with bus := r.2.2 })
      else
        let q := initializeRequest r.2.1 r.2.2
        (.hr q.1, q.2.1, { d with bus := q.2.2, initialized := q.1.succeeded })

/-! ## Well-formed replies -/

/-- A reply `GetConfigurationData` accepts: at least an `ACPI_EVAL_OUTPUT_BUFFER` written, with
its signature, one argument, and that argument a buffer of a configuration's length. -/
structure AcpiReplyValid (reply : AcpiReply) : Prop where
  information : sizeofAcpiEvalOutputBuffer ≤ reply.information
  signature : reply.output.signature = acpiEvalOutputBufferSignature
  count : reply.output.count = acpiDsmConfigCount
  type : reply.output.argument.type = acpiMethodArgumentBuffer
  dataLength : reply.output.argument.dataLength = sizeofSpbAccelerometerConfig

/-! ## Lemmas -/

/-! ### Drawing outcomes -/

namespace Bus

/-- `b'` is `b` with outcomes drawn: the registers, the log and the memory as they were. -/
structure Draws (b b' : Bus) : Prop where
  regs : b'.regs = b.regs
  log : b'.log = b.log
  stray : b'.stray = b.stray

variable {b b₁ b₂ : Bus}

theorem Draws.refl (b : Bus) : b.Draws b := ⟨rfl, rfl, rfl⟩

theorem Draws.trans (h₁ : b.Draws b₁) (h₂ : b₁.Draws b₂) : b.Draws b₂ :=
  ⟨h₂.regs.trans h₁.regs, h₂.log.trans h₁.log, h₂.stray.trans h₁.stray⟩

/-- A bus that only drew outcomes is the old one with the outcomes left. -/
theorem Draws.eq (h : b.Draws b₁) : { b with faults := b₁.faults } = b₁ := by
  obtain ⟨regs, faults, log, stray⟩ := b₁
  obtain ⟨hr, hl, hs⟩ := h
  subst hr hl hs; rfl

theorem draws_next (b : Bus) : b.Draws b.next.2 := by
  rw [next_eq]; exact ⟨rfl, rfl, rfl⟩

theorem draws_call (b : Bus) : b.Draws b.call.2 := by
  rw [call_snd]; exact ⟨rfl, rfl, rfl⟩

theorem draws_calls : ∀ (n : Nat) (b : Bus), b.Draws (b.calls n).2
  | 0, b => .refl b
  | n + 1, b => by
    simp only [calls]
    split
    · exact (draws_call b).trans (draws_calls n _)
    · exact draws_call b

theorem calls_reliable (hb : b.faults = []) : ∀ n, b.calls n = (.sOk, b)
  | 0 => rfl
  | n + 1 => by simp only [calls, call_reliable hb, HRESULT.succeeded_sOk, if_true, calls_reliable hb n]

end Bus

theorem draws_connectInterrupt (b : Bus) : b.Draws (connectInterrupt b).2 := by
  simp only [connectInterrupt]
  split_ifs
  · exact (Bus.draws_call b).trans ((Bus.draws_call _).trans (Bus.draws_call _))
  · exact (Bus.draws_call b).trans (Bus.draws_call _)
  · exact Bus.draws_call b

theorem ParseState.draws_parseDescriptor (s : ParseState) (desc : ResourceDescriptor) :
    s.bus.Draws (s.parseDescriptor desc).bus := by
  cases desc with
  | interrupt =>
    simp only [parseDescriptor]
    split_ifs
    · exact draws_connectInterrupt s.bus
    · exact .refl _
  | connection => simp only [parseDescriptor]; split_ifs <;> exact .refl _
  | other => exact .refl _

theorem draws_parseResourcesLoop (raw : List (Option ResourceDescriptor)) :
    ∀ (i : Nat) (ts : List (Option ResourceDescriptor)) (s : ParseState),
      s.bus.Draws (parseResourcesLoop raw i ts s).bus
  | _, [], s => .refl s.bus
  | i, t :: rest, s => by
    simp only [parseResourcesLoop]
    split
    · split
      · exact (s.draws_parseDescriptor _).trans (draws_parseResourcesLoop raw _ rest _)
      · exact s.draws_parseDescriptor _
    · exact .refl s.bus

theorem draws_parseResources (raw : List (Option ResourceDescriptor))
    (ts : Option (List (Option ResourceDescriptor))) (requestId : UInt32 × UInt32) (b : Bus) :
    b.Draws (parseResources raw ts requestId b).2.2 := by
  cases ts with
  | none => exact .refl b
  | some ts =>
    simp only [parseResources]
    split_ifs <;> exact draws_parseResourcesLoop raw 0 ts ⟨_, _, _, _, b⟩

theorem draws_getConfigurationData (acpi : AcpiEvalInputBufferComplex → AcpiReply) (b : Bus) :
    b.Draws (getConfigurationData acpi b).2 := by
  have h₁ := Bus.draws_next b
  have h₂ := h₁.trans (Bus.draws_calls 2 _)
  have h₃ := h₂.trans (Bus.draws_next _)
  have h₄ := h₃.trans (Bus.draws_calls 5 _)
  simp only [getConfigurationData]
  split_ifs <;> assumption

theorem draws_initializeRequest (id : UInt32 × UInt32) (b : Bus) :
    b.Draws (initializeRequest id b).2.2 := by
  have h₁ := Bus.draws_call b
  have h₂ := h₁.trans (Bus.draws_call _)
  have h₃ := h₂.trans (Bus.draws_call _)
  have h₄ := h₃.trans (Bus.draws_call _)
  simp only [initializeRequest]
  split_ifs <;> assumption

/-! ### The stages -/

/-- On a reliable bus, `GetConfigurationData` evaluates `_DSM` and checks the reply. -/
theorem getConfigurationData_reliable (acpi : AcpiEvalInputBufferComplex → AcpiReply) {b : Bus}
    (hb : b.faults = []) :
    getConfigurationData acpi b =
      (if (acpi (prepareInputParametersForDsm inputBufferSize acpiDsmConfigFunction)).information <
          sizeofAcpiEvalOutputBuffer then .errorBadLength
        else parseAcpiOutputBuffer
          (acpi (prepareInputParametersForDsm inputBufferSize acpiDsmConfigFunction)).output, b) := by
  simp only [getConfigurationData, Bus.next_reliable hb, Bus.calls_reliable hb,
    HRESULT.succeeded_sOk, Bool.true_eq_false, if_false]
  split <;> rfl

theorem initializeRequest_reliable (id : UInt32 × UInt32) {b : Bus} (hb : b.faults = []) :
    initializeRequest id b = (.sOk, some id, b) := by
  simp [initializeRequest, Bus.call_reliable hb]

/-- A request that `InitializeRequest` set up is on the path of the id it was given. -/
theorem initializeRequest_target {id : UInt32 × UInt32} {b : Bus}
    (h : (initializeRequest id b).1.succeeded = true) : (initializeRequest id b).2.1 = some id := by
  revert h
  simp only [initializeRequest]
  split_ifs <;> simp_all [HRESULT.succeeded]

/-- A well-formed reply passes the checks of `ParseAcpiOutputBuffer`. -/
theorem AcpiReplyValid.parse {reply : AcpiReply} (h : AcpiReplyValid reply) :
    parseAcpiOutputBuffer reply.output = .hr .sOk := by
  simp [parseAcpiOutputBuffer, h.signature, h.count, h.type, h.dataLength]

/-- On a reliable bus, a well-formed reply to the configuration function is accepted. -/
theorem getConfigurationData_valid (acpi : AcpiEvalInputBufferComplex → AcpiReply) {b : Bus}
    (hb : b.faults = [])
    (ha : AcpiReplyValid (acpi (prepareInputParametersForDsm inputBufferSize acpiDsmConfigFunction))) :
    getConfigurationData acpi b = (.hr .sOk, b) := by
  rw [getConfigurationData_reliable acpi hb, if_neg (Nat.not_lt.2 ha.information), ha.parse]

/-! ### `InitializeDevice` -/

namespace Platform

variable (p : Platform) {d : SensorDevice}

/-- What `InitializeDevice` does to an uninitialised device: it stops at the first stage that
fails, and initialises the device as `InitializeRequest` succeeds. -/
theorem initializeDevice_cases (hd : d.initialized = false) :
    let g := getConfigurationData p.acpi d.bus
    let r := parseResources p.resourcesRaw p.resourcesTranslated (0, 0) g.2
    let q := initializeRequest r.2.1 r.2.2
    (g.1.succeeded = false ∧ p.initializeDevice d = (.configuration g.1, none, { d with bus := g.2 })) ∨
      (g.1.succeeded = true ∧ r.1.succeeded = false ∧
        p.initializeDevice d = (.resources r.1, none, { d with bus := r.2.2 })) ∨
      (g.1.succeeded = true ∧ r.1.succeeded = true ∧
        p.initializeDevice d = (.hr q.1, q.2.1, { d with bus := q.2.2, initialized := q.1.succeeded })) := by
  intro g r q
  unfold initializeDevice
  rw [if_neg (by simp [hd])]
  by_cases h₁ : g.1.succeeded = false
  · exact .inl ⟨h₁, if_pos h₁⟩
  · by_cases h₂ : r.1.succeeded = false
    · exact .inr (.inl ⟨by simpa using h₁, h₂, by dsimp only; rw [if_neg h₁, if_pos h₂]⟩)
    · exact .inr (.inr ⟨by simpa using h₁, by simpa using h₂, by dsimp only; rw [if_neg h₁, if_neg h₂]⟩)

end Platform

theorem HRESULT.succeeded_ite (ok : Bool) :
    (if ok then HRESULT.sOk else .ioFailure).succeeded = ok := by
  cases ok <;> rfl

/-- The drawn `InitializeDevice` of an uninitialised device stops at the first outcome that
fails. -/
theorem SensorDevice.initializeDevice_withFaults {d : SensorDevice} (hd : d.initialized = false)
    (rest : List Bool) (o : Bool) :
    (d.withFaults (false :: rest)).initializeDevice = (.ioFailure, d.withFaults rest) ∧
      (d.withFaults (true :: false :: rest)).initializeDevice = (.ioFailure, d.withFaults rest) ∧
      (d.withFaults (true :: true :: o :: rest)).initializeDevice =
        (if o then .sOk else .ioFailure, { d.withFaults rest with initialized := o }) := by
  refine ⟨?_, ?_, ?_⟩ <;> simp only [initializeDevice, withFaults, hd, Bus.call, Bus.next]
  · rfl
  · rfl
  · cases o <;> simp [hd, HRESULT.succeeded]

theorem SensorDevice.with_bus_eq_withFaults {d : SensorDevice} {b : Bus} (h : d.bus.Draws b) :
    { d with bus := b } = d.withFaults b.faults := by
  rw [← h.eq]; rfl

/-! ## Refinement -/

/-- **The three drawn outcomes cover `InitializeDevice`.**  For every platform and every run of
the framework calls, the `InitializeDevice` of `Initialize`, which draws each stage as one
framework outcome, leaves the same object with the same success when its outcomes are those of
the stages, followed by the outcomes the code left. -/
theorem initializeDevice_refines (p : Platform) (d : SensorDevice) :
    ∃ outcomes : List Bool,
      (d.withFaults (outcomes ++ (p.initializeDevice d).2.2.bus.faults)).initializeDevice.2 =
          (p.initializeDevice d).2.2 ∧
        (d.withFaults
          (outcomes ++ (p.initializeDevice d).2.2.bus.faults)).initializeDevice.1.succeeded =
            (p.initializeDevice d).1.succeeded := by
  cases hi : d.initialized
  case true =>
    have he : p.initializeDevice d = (.hr .sOk, none, d) := by simp [Platform.initializeDevice, hi]
    have hw : d.withFaults d.bus.faults = d := rfl
    refine ⟨[], ?_⟩
    rw [he, List.nil_append, hw]
    simp [SensorDevice.initializeDevice, hi, InitializeStatus.succeeded]
  case false =>
    have hg := draws_getConfigurationData p.acpi d.bus
    have hr := hg.trans (draws_parseResources p.resourcesRaw p.resourcesTranslated (0, 0) _)
    have hq := hr.trans (draws_initializeRequest
      (parseResources p.resourcesRaw p.resourcesTranslated (0, 0) (getConfigurationData p.acpi d.bus).2).2.1 _)
    obtain ⟨h₁, he⟩ | ⟨-, h₂, he⟩ | ⟨-, -, he⟩ := p.initializeDevice_cases hi <;> rw [he]
    · -- `GetConfigurationData` failed
      refine ⟨[false], ?_⟩
      rw [List.singleton_append, (SensorDevice.initializeDevice_withFaults hi _ true).1,
        SensorDevice.with_bus_eq_withFaults hg]
      exact ⟨rfl, h₁.symm⟩
    · -- `ParseResources` failed
      refine ⟨[true, false], ?_⟩
      rw [List.cons_append, List.singleton_append,
        (SensorDevice.initializeDevice_withFaults hi _ true).2.1, SensorDevice.with_bus_eq_withFaults hr]
      exact ⟨rfl, h₂.symm⟩
    · -- `InitializeRequest` ran
      refine ⟨[true, true, (initializeRequest
        (parseResources p.resourcesRaw p.resourcesTranslated (0, 0) (getConfigurationData p.acpi d.bus).2).2.1
        (parseResources p.resourcesRaw p.resourcesTranslated (0, 0)
          (getConfigurationData p.acpi d.bus).2).2.2).1.succeeded], ?_⟩
      rw [List.cons_append, List.cons_append, List.singleton_append,
        (SensorDevice.initializeDevice_withFaults hi _ _).2.2, HRESULT.succeeded_ite]
      refine ⟨?_, rfl⟩
      rw [← SensorDevice.with_bus_eq_withFaults hq]

/-! ## What an initialised device talks to -/

/-- **An initialised device talks to the connection of its resources.**  Whatever the replies
and the outcomes of the framework calls, when `InitializeDevice` initialises a device, the
translated resource list has no null descriptor and is well formed with the raw one, and the
new SPB request was initialised on the resource hub path of its one I2C connection. -/
theorem initializeDevice_opens_connection (p : Platform) {d : SensorDevice}
    (hd : d.initialized = false) (h : (p.initializeDevice d).2.2.initialized = true) :
    ∃ ds id, p.resourcesTranslated = some (ds.map some) ∧ ResourcesValid p.resourcesRaw ds id ∧
      (p.initializeDevice d).2.1 = some id := by
  obtain ⟨-, he⟩ | ⟨-, -, he⟩ | ⟨-, h₂, he⟩ := p.initializeDevice_cases hd <;> rw [he] at h ⊢
  · exact absurd (hd ▸ h) Bool.false_ne_true
  · exact absurd (hd ▸ h) Bool.false_ne_true
  · obtain ⟨ts, ht⟩ : ∃ ts, p.resourcesTranslated = some ts := by
      cases ht : p.resourcesTranslated with
      | none => rw [ht] at h₂; exact absurd h₂ Bool.false_ne_true
      | some ts => exact ⟨ts, rfl⟩
    rw [ht] at h₂ h ⊢
    obtain ⟨ds, rfl, hv⟩ := parseResources_valid_of_succeeded h₂
    exact ⟨ds, _, rfl, hv, initializeRequest_target h⟩

/-- A platform whose `_DSM` answers, with an I2C connection `(7, 0)` and an interrupt. -/
theorem initializeDevice_opens_connection_answered :
    (SensorDevice.construct ⟨fun _ => 0, [], [], fun _ => 0⟩).initialized = false ∧
      (Platform.initializeDevice
          ⟨fun _ => ⟨20, ⟨acpiEvalOutputBufferSignature, 24, 1, ⟨2, 4, [1, 2, 3, 4]⟩⟩⟩,
            [some .other, some .other], some [some (.connection 1 1 7 0), some .interrupt]⟩
          (SensorDevice.construct ⟨fun _ => 0, [], [], fun _ => 0⟩)).2.2.initialized = true ∧
      ∃ ds id, some [some (.connection 1 1 7 0), some .interrupt] = some (ds.map some) ∧
        ResourcesValid [some .other, some .other] ds id ∧
        (Platform.initializeDevice
          ⟨fun _ => ⟨20, ⟨acpiEvalOutputBufferSignature, 24, 1, ⟨2, 4, [1, 2, 3, 4]⟩⟩⟩,
            [some .other, some .other], some [some (.connection 1 1 7 0), some .interrupt]⟩
          (SensorDevice.construct ⟨fun _ => 0, [], [], fun _ => 0⟩)).2.1 = some id :=
  ⟨rfl, rfl, @initializeDevice_opens_connection
    ⟨fun _ => ⟨20, ⟨acpiEvalOutputBufferSignature, 24, 1, ⟨2, 4, [1, 2, 3, 4]⟩⟩⟩,
      [some .other, some .other], some [some (.connection 1 1 7 0), some .interrupt]⟩
    (SensorDevice.construct ⟨fun _ => 0, [], [], fun _ => 0⟩) rfl rfl⟩

/-- **`InitializeDevice` on a platform that answers.**  On a reliable bus, with well-formed
resources and a well-formed reply to the configuration function of `_DSM`, `InitializeDevice`
initialises the device, touching nothing else, and initialises the SPB request on the resource
hub path of the I2C connection. -/
theorem initializeDevice_reliable (p : Platform) {d : SensorDevice} (hd : d.initialized = false)
    (hb : d.bus.faults = []) {ds : List ResourceDescriptor} {id : UInt32 × UInt32}
    (ht : p.resourcesTranslated = some (ds.map some)) (hv : ResourcesValid p.resourcesRaw ds id)
    (ha : AcpiReplyValid (p.acpi (prepareInputParametersForDsm inputBufferSize acpiDsmConfigFunction))) :
    p.initializeDevice d = (.hr .sOk, some id, { d with initialized := true }) := by
  simp [Platform.initializeDevice, hd, getConfigurationData_valid p.acpi hb ha, ht,
    parseResources_reliable_of_valid hv _ hb, initializeRequest_reliable _ hb, AcpiStatus.succeeded,
    ResourceStatus.succeeded]

theorem initializeDevice_reliable_answered :
    (SensorDevice.construct ⟨fun _ => 0, [], [], fun _ => 0⟩).initialized = false ∧
      AcpiReplyValid ⟨20, ⟨acpiEvalOutputBufferSignature, 24, 1, ⟨2, 4, [1, 2, 3, 4]⟩⟩⟩ ∧
      ResourcesValid [some .other, some .other] [.connection 1 1 7 0, .interrupt] (7, 0) ∧
      Platform.initializeDevice
          ⟨fun _ => ⟨20, ⟨acpiEvalOutputBufferSignature, 24, 1, ⟨2, 4, [1, 2, 3, 4]⟩⟩⟩,
            [some .other, some .other], some [some (.connection 1 1 7 0), some .interrupt]⟩
          (SensorDevice.construct ⟨fun _ => 0, [], [], fun _ => 0⟩) =
        (.hr .sOk, some (7, 0), { SensorDevice.construct ⟨fun _ => 0, [], [], fun _ => 0⟩ with initialized := true }) :=
  have ha : AcpiReplyValid ⟨20, ⟨acpiEvalOutputBufferSignature, 24, 1, ⟨2, 4, [1, 2, 3, 4]⟩⟩⟩ :=
    ⟨le_refl _, rfl, rfl, rfl, rfl⟩
  have hv : ResourcesValid [some .other, some .other] [.connection 1 1 7 0, .interrupt] (7, 0) :=
    ⟨fun i hi => match i, hi with
      | 0, _ => ⟨_, rfl⟩
      | 1, _ => ⟨_, rfl⟩
      | _ + 2, h => absurd h (by simp), rfl, by simp⟩
  ⟨rfl, ha, hv, initializeDevice_reliable _ rfl rfl
    (show _ = some ([.connection 1 1 7 0, .interrupt].map some) from rfl) hv ha⟩

end SpbAccelerometer
