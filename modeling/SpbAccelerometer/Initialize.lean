import SpbAccelerometer.Caches

/-!
# `Initialize`: from the constructors to the object `Start` runs on

`CSensorDevice::Initialize` runs on the object the constructors left
(`SensorDevice.Constructed`): `InitializeDevice` (three framework calls, then
`m_fInitialized`), `InitializeSensorDriverInterface` (the two caches), the defaults of
`GetDefaultSettableProperties` and the minimum report interval read back from the property
cache, a new client manager initialised with them, a new report manager, and the
`IWDFDevice2` interface; `m_fSensorInitialized` is set when all of it succeeded.

* On a reliable bus, `Initialize` of a constructed object succeeds and leaves an object that
  is `Fresh` and holds the caches of a successful `InitializeSensorDriverInterface`
  (`initialize_constructed`): the start states of `Reachable` and of `Initialized` are
  states of the driver itself.
* `Make<CClientManager>()` and `Make<CReportManager>()` may fail.  The check after the
  second tests `m_pClientManager`, not `m_pReportManager`, so a report manager that could
  not be made is used at once: `initializeSensor` returns `none` there.
-/

namespace SpbAccelerometer

variable (c : Adxl345)

/-! ## Algorithm -/

namespace SensorDevice

/-- What the constructors `CSensorDevice()` and `CAccelerometerDevice()` set: nothing
initialised, no interrupt enabled, no state change, the mode `Off`.  They leave
`m_TestRegister` and `m_TestDataSize` undefined, and the caches, the client manager and the
report manager null until `Initialize`. -/
structure Constructed (d : SensorDevice) : Prop where
  initialized : d.initialized = false
  interruptsEnabled : d.interruptsEnabled = 0
  sensorInitialized : d.sensorInitialized = false
  stateChanged : d.stateChanged = false
  dataUpdateMode : d.dataUpdateMode = .off

/-- The object the constructors leave on a bus, with the members they leave undefined at `0`,
the null caches empty and a client manager not yet made. -/
def construct (bus : Bus) : SensorDevice where
  bus := bus
  initialized := false
  interruptsEnabled := 0
  testRegister := 0
  testDataSize := 0
  sensorInitialized := false
  clientManager := ClientManager.new
  dataUpdateMode := .off
  sensorPropertyValues := []
  sensorDataFieldValues := []
  stateChanged := false
  time := 0
  reportInterval := 0
  deviceReportInterval := 0
  deviceChangeSensitivity := []
  idleReferences := 0

theorem constructed_construct (bus : Bus) : (construct bus).Constructed :=
  ⟨rfl, rfl, rfl, rfl, rfl⟩

/-- `InitializeDevice(pWdfDevice, pWdfResourcesRaw, pWdfResourcesTranslated)`: once, the
framework calls of `GetConfigurationData`, `ParseResources` and `InitializeRequest`, each
made when the one before succeeded; the device is initialised when the three did. -/
def initializeDevice (d : SensorDevice) : HRESULT × SensorDevice :=
  if d.initialized then (.sOk, d)
  else
    let g := d.bus.call
    if g.1.succeeded then
      let p := g.2.call
      if p.1.succeeded then
        let r := p.2.call
        if r.1.succeeded then (.sOk, { d with bus := r.2, initialized := true })
        else (r.1, { d with bus := r.2 })
      else (p.1, { d with bus := p.2 })
    else (g.1, { d with bus := g.2 })

end SensorDevice

/-- The minimum report interval `Initialize` gives the client manager: the cached
`SENSOR_PROPERTY_MIN_REPORT_INTERVAL` when it is a `VT_UI4`, `1` otherwise. -/
def cachedMinReportInterval (values : PortableDeviceValues) : UInt32 :=
  match getValue values .sensorPropertyMinReportInterval with
  | some (.ui4 v) => v
  | _ => 1

namespace SensorDevice

/-- `Initialize(pWdfDevice, pWdfResourcesRaw, pWdfResourcesTranslated, pSensorDdi)`.
`minReportInterval` is `ACCELEROMETER_MIN_REPORT_INTERVAL`, which `SetDefaultPropertyValues`
caches; `GetDefaultSettableProperties` gives `DEFAULT_ACCELEROMETER_CURRENT_REPORT_INTERVAL`
and `defaultChangeSensitivities`.  The outcome of each `Make` is drawn like a framework
call's.  `none` is the call of `m_pReportManager->Initialize` on a null pointer. -/
def initializeSensor (d : SensorDevice) (minReportInterval : UInt32) : Option (HRESULT × SensorDevice) :=
  if d.sensorInitialized then some (.sOk, d)
  else
    let i := initializeDevice d
    let s := if i.1.succeeded then initializeSensorDriverInterface i.2 minReportInterval else i
    if s.1.succeeded then
      let mc := s.2.bus.call
      let d := { s.2 with bus := mc.2 }
      if mc.1.succeeded then
        let m := ClientManager.new.initializeManager c.defaultReportInterval
          (cachedMinReportInterval d.sensorPropertyValues) (defaultChangeSensitivities c)
        let d := { d with clientManager := m.2 }
        if m.1.succeeded then
          let mr := d.bus.call
          if mr.1.succeeded then
            let q := mr.2.call
            let d := { d with bus := q.2, reportInterval := c.defaultReportInterval }
            if q.1.succeeded then some (.sOk, { d with sensorInitialized := true })
            else some (q.1, d)
          else none
        else some (m.1, d)
      else some (.eOutOfMemory, d)
    else some s

end SensorDevice

/-! ## The stages -/

/-- `CClientManager::Initialize` succeeds. -/
theorem ClientManager.initializeManager_fst (s : ClientManager) (di mi : UInt32)
    (D : PortableDeviceValues) : (s.initializeManager di mi D).1 = .sOk := rfl

/-- The status of a framework call is the next outcome. -/
theorem Bus.call_fst_succeeded (b : Bus) : b.call.1.succeeded = b.faults.headD true := by
  simp only [Bus.call, Bus.next_eq]; split <;> simp_all [HRESULT.succeeded]

namespace SensorDevice

variable {c} {d : SensorDevice}

/-- What `InitializeDevice` can do: move the bus on by framework calls, and set
`m_fInitialized` when it succeeds. -/
theorem initializeDevice_cases (d : SensorDevice) : ∃ b flag,
    (initializeDevice d).2 = { d with bus := b, initialized := flag } ∧ b.regs = d.bus.regs ∧
      (d.bus.faults = [] → b.faults = []) ∧ ((initializeDevice d).1.succeeded = true → flag = true) := by
  simp only [initializeDevice]
  split_ifs with h
  · exact ⟨d.bus, d.initialized, rfl, rfl, id, fun _ => h⟩
  all_goals
    refine ⟨_, _, rfl, by simp [Bus.call_snd], fun hb => by simp [Bus.call_snd, hb], ?_⟩
    simp_all

/-- What `InitializeSensorDriverInterface` can do: fill the caches and move the bus on by a
framework call. -/
theorem initializeSensorDriverInterface_cases (d : SensorDevice) (mi : UInt32) : ∃ b pv fv,
    (initializeSensorDriverInterface d mi).2 =
      { d with bus := b, sensorPropertyValues := pv, sensorDataFieldValues := fv } ∧
      b.regs = d.bus.regs ∧ (d.bus.faults = [] → b.faults = []) := by
  rw [initializeSensorDriverInterface_eq]
  simp only [setUniqueID, setDefaultPropertyValues]
  split_ifs <;> exact ⟨_, _, _, rfl, by simp [Bus.call_snd], fun hb => by simp [Bus.call_snd, hb]⟩

/-- After a successful `InitializeSensorDriverInterface` the cache holds the minimum
interval `SetDefaultPropertyValues` set. -/
theorem getValue_minReportInterval {mi : UInt32}
    (h : (initializeSensorDriverInterface d mi).1.succeeded = true) :
    getValue (initializeSensorDriverInterface d mi).2.sensorPropertyValues
      .sensorPropertyMinReportInterval = some (.ui4 mi) := by
  rw [initializeSensorDriverInterface_eq] at h ⊢
  generalize setUniqueID _ = u at h ⊢
  dsimp only at h ⊢
  by_cases hu : u.1.succeeded = true
  · rw [if_pos hu, setDefaultPropertyValues_sensorPropertyValues,
      getValue_copyValues (by simp [defaultPropertyValues])]
    simp [defaultPropertyValues, getValue]
  · rw [if_neg hu] at h; exact absurd h hu

variable (c)

/-- What a successful `Initialize` leaves of the object it ran on: both flags set, the client
manager initialised with the defaults and `mi`, the caches of a successful
`InitializeSensorDriverInterface`, the registers, `m_InterruptsEnabled` and the mode as they
were, and a bus moved on by framework calls only. -/
structure SetUp (mi : UInt32) (d d' : SensorDevice) : Prop where
  initialized : d'.initialized = true
  sensorInitialized : d'.sensorInitialized = true
  clientManager : d'.clientManager = (ClientManager.new.initializeManager c.defaultReportInterval
    mi (defaultChangeSensitivities c)).2
  caches : ∃ d₀ : SensorDevice, (d₀.initializeSensorDriverInterface mi).1.succeeded = true ∧
    d'.sensorPropertyValues = (d₀.initializeSensorDriverInterface mi).2.sensorPropertyValues ∧
    d'.sensorDataFieldValues = (d₀.initializeSensorDriverInterface mi).2.sensorDataFieldValues
  regs : d'.bus.regs = d.bus.regs
  interruptsEnabled : d'.interruptsEnabled = d.interruptsEnabled
  dataUpdateMode : d'.dataUpdateMode = d.dataUpdateMode
  reliable : d.bus.faults = [] → d'.bus.faults = []

variable {c}

/-- A successful `Initialize` of an object not yet initialised sets it up. -/
theorem setUp_of_initializeSensor {mi : UInt32} {hr : HRESULT} {d' : SensorDevice}
    (hn : d.sensorInitialized = false) (he : initializeSensor c d mi = some (hr, d'))
    (hs : hr.succeeded = true) : SetUp c mi d d' := by
  obtain ⟨b₁, flag, hi, hb₁, hr₁, hf₁⟩ := initializeDevice_cases d
  simp only [initializeSensor, hn, Bool.false_eq_true, if_false,
    ClientManager.initializeManager_fst, HRESULT.succeeded_sOk, if_true] at he
  split_ifs at he with h₁ h₂ h₃ h₄ h₅
  · obtain ⟨rfl, rfl⟩ := Prod.mk.inj_iff.1 (Option.some.inj he)
    obtain ⟨b₂, pv, fv, hs₂, hb₂, hr₂⟩ := initializeSensorDriverInterface_cases (initializeDevice d).2 mi
    have hmi := getValue_minReportInterval h₂
    refine ⟨?_, rfl, ?_, ⟨_, h₂, rfl, rfl⟩, ?_, ?_, ?_, fun hb => ?_⟩
    · rw [hs₂, hi]; exact hf₁ h₁
    · simp only [cachedMinReportInterval, hmi]
    · simp only [Bus.call_snd]; rw [hs₂, hb₂, hi, hb₁]
    · rw [hs₂, hi]
    · rw [hs₂, hi]
    · have hb₂' := hr₂ (by rw [hi]; exact hr₁ hb)
      simp [Bus.call_snd, hs₂, hb₂']
  -- every other branch returns a failure, or dereferences null
  all_goals first
    | cases he
    | (have hst := (Prod.ext_iff.1 (Option.some.inj he)).1
       subst hst)
  · exact absurd hs h₅
  · exact absurd hs (by decide)
  · exact absurd hs h₂
  · exact absurd hs h₁

/-- A constructed object whose part has the activity interrupt off, set up on a reliable bus,
is the object `Start` expects. -/
theorem SetUp.fresh {mi : UInt32} {d' : SensorDevice} (hs : SetUp c mi d d') (hd : d.Constructed)
    (hie : d.bus.regs c.intEnable = 0) (hb : d'.bus.faults = []) : d'.Fresh c mi :=
  ⟨hs.initialized, hs.sensorInitialized, hb, hs.clientManager, hs.dataUpdateMode.trans hd.dataUpdateMode,
    hs.regs ▸ hie, hs.interruptsEnabled.trans hd.interruptsEnabled⟩

/-- The caches a successful `Initialize` leaves are those `Initialized` starts from. -/
theorem SetUp.cachesInitialized {mi : UInt32} {d' : SensorDevice} (hs : SetUp c mi d d') :
    d'.Initialized c :=
  let ⟨_, h, hp, hf⟩ := hs.caches
  .init h hp hf

/-- On a reliable bus, `Initialize` of an object not yet initialised returns `S_OK`. -/
theorem initializeSensor_reliable (hn : d.sensorInitialized = false) (hb : d.bus.faults = [])
    (mi : UInt32) : ∃ d', initializeSensor c d mi = some (.sOk, d') := by
  obtain ⟨b₁, flag, hi, -, hr₁, -⟩ := initializeDevice_cases d
  have h₁ : (initializeDevice d).1 = .sOk := by
    simp only [initializeDevice, Bus.call_reliable hb]; split <;> rfl
  have hb₁ : (initializeDevice d).2.bus.faults = [] := by rw [hi]; exact hr₁ hb
  obtain ⟨b₂, pv, fv, hs₂, -, hr₂⟩ := initializeSensorDriverInterface_cases (initializeDevice d).2 mi
  have hb₂ : (initializeSensorDriverInterface (initializeDevice d).2 mi).2.bus.faults = [] := by
    rw [hs₂]; exact hr₂ hb₁
  simp only [initializeSensor, hn, h₁, initializeSensorDriverInterface_reliable hb₁,
    Bus.call_reliable hb₂, HRESULT.succeeded_sOk, ClientManager.initializeManager, if_true,
    Bool.false_eq_true, if_false]
  exact ⟨_, rfl⟩

end SensorDevice

open SensorDevice

/-- **`Initialize` leaves the object the development starts from.**  On a reliable bus and a
part with the activity interrupt off, `Initialize` of the constructed object returns `S_OK`,
and its object is `Fresh` (the start of `Reachable`, through `Start`) and holds the caches
`Initialized` starts from. -/
theorem initialize_constructed {d : SensorDevice} (hd : d.Constructed) (hb : d.bus.faults = [])
    (hie : d.bus.regs c.intEnable = 0) (mi : UInt32) :
    ∃ d', initializeSensor c d mi = some (.sOk, d') ∧ d'.Fresh c mi ∧ d'.Initialized c := by
  obtain ⟨d', he⟩ := initializeSensor_reliable hd.sensorInitialized hb mi
  have hs := setUp_of_initializeSensor hd.sensorInitialized he rfl
  exact ⟨d', he, hs.fresh hd hie (hs.reliable hb), hs.cachesInitialized⟩

theorem initialize_constructed_dataSheet :
    (construct ⟨fun _ => 0, [], [], fun _ => 0⟩).Constructed ∧ (construct ⟨fun _ => 0, [], [], fun _ => 0⟩).bus.faults = [] ∧
      (construct ⟨fun _ => 0, [], [], fun _ => 0⟩).bus.regs Adxl345.dataSheet.intEnable = 0 ∧
      ∃ d', initializeSensor Adxl345.dataSheet (construct ⟨fun _ => 0, [], [], fun _ => 0⟩) 10 = some (.sOk, d') ∧
        d'.Fresh Adxl345.dataSheet 10 ∧ d'.Initialized Adxl345.dataSheet :=
  ⟨constructed_construct _, rfl, rfl,
    initialize_constructed Adxl345.dataSheet (constructed_construct ⟨fun _ => 0, [], [], fun _ => 0⟩) rfl rfl 10⟩

/-! ## The intervals the client manager accepts -/

namespace ClientManager

/-- Every interval a client set is `0` or at least the minimum supported interval. -/
def IntervalsAllowed (s : ClientManager) : Prop :=
  ∀ x ∈ s.clientList.entries,
    x.2.desiredReportInterval = 0 ∨ s.minSupportedReportInterval ≤ x.2.desiredReportInterval

variable {s : ClientManager}

/-- A state whose new entries are allowed, with the same minimum. -/
theorem IntervalsAllowed.of_entries (hs : s.IntervalsAllowed) {s' : ClientManager}
    (hmin : s'.minSupportedReportInterval = s.minSupportedReportInterval)
    (hx : ∀ x ∈ s'.clientList.entries, x ∈ s.clientList.entries ∨
      x.2.desiredReportInterval = 0 ∨ s.minSupportedReportInterval ≤ x.2.desiredReportInterval) :
    s'.IntervalsAllowed := fun x h => hmin ▸ (hx x h).elim (hs x) id

theorem IntervalsAllowed.recalculate {s : ClientManager} (hs : s.IntervalsAllowed) :
    (recalculateProperties s).2.IntervalsAllowed := by
  simpa [IntervalsAllowed] using hs

/-- An entry that replaces the entry of `h` by one with the same interval, or with an allowed
one. -/
theorem IntervalsAllowed.assign (hs : s.IntervalsAllowed) {h : IWDFFile} {e : ClientEntry}
    {s' : ClientManager} (hl : s'.clientList = s.clientList.assign h e)
    (hmin : s'.minSupportedReportInterval = s.minSupportedReportInterval)
    (he : e.desiredReportInterval = 0 ∨ s.minSupportedReportInterval ≤ e.desiredReportInterval) :
    (recalculateProperties s').2.IntervalsAllowed := by
  refine IntervalsAllowed.recalculate (hs.of_entries hmin fun x hx => ?_)
  rw [hl] at hx
  rcases ClientEntries.mem_assign hx with rfl | hx
  exacts [.inr he, .inl hx]

/-- The interval of a client's entry. -/
theorem IntervalsAllowed.find (hs : s.IntervalsAllowed) {h : IWDFFile} {e : ClientEntry}
    (hf : s.clientList.find h = some e) :
    e.desiredReportInterval = 0 ∨ s.minSupportedReportInterval ≤ e.desiredReportInterval :=
  hs (h, e) (ClientEntries.mem_of_find hf)

/-- No request stores an interval below the minimum but `0`. -/
theorem IntervalsAllowed.run (hs : s.IntervalsAllowed) (r : ClientRequest) :
    (r.run s).2.IntervalsAllowed := by
  cases r with
  | connect h =>
    simp only [ClientRequest.run, connect]
    split_ifs
    all_goals first
      | exact hs
      | exact hs.assign rfl rfl (.inl rfl)
  | disconnect h =>
    simp only [ClientRequest.run, disconnect]
    split_ifs
    all_goals first
      | exact hs
      | split
        · exact hs
        · exact IntervalsAllowed.recalculate (hs.of_entries rfl fun x hx =>
            .inl ((ClientEntries.erase_sublist _ h).subset hx))
  | subscribe h | unsubscribe h =>
    simp only [ClientRequest.run, subscribe, unsubscribe]
    split_ifs
    · exact hs
    · split
      · exact hs
      · next entry hf =>
        split_ifs
        exacts [hs, hs.assign rfl rfl (hs.find (e := entry) hf)]
  | setDesiredProperty h key var =>
    simp only [ClientRequest.run, setDesiredProperty]
    split_ifs
    · exact hs
    · split
      · simp only [setDesiredChangeSensitivity, if_neg ‹¬h = 0›]
        split
        · exact hs
        · next entry hf => exact hs.assign rfl rfl (hs.find (e := entry) hf)
      · exact hs
    · split
      · simp only [setDesiredReportInterval, if_neg ‹¬h = 0›]
        split_ifs with hv
        · exact hs
        · split
          · exact hs
          · exact hs.assign rfl rfl ((interval_accepted_iff _ _).1 hv)
      · exact hs
    · exact hs

/-- In every state reachable from `Initialize(di, mi, D)`, every interval a client set is `0`
or at least `mi`. -/
theorem Reachable.intervalsAllowed {di mi : UInt32} {D : PortableDeviceValues}
    (hs : Reachable di mi D s) : s.IntervalsAllowed := by
  induction hs with
  | init => intro x hx; simp [new, ClientMap.empty, initializeManager] at hx
  | step r _ ih => exact ih.run r

/-- The arbitrated interval is the default, or a set interval and then at least `mi`. -/
theorem Reachable.minReportInterval_allowed {di mi : UInt32} {D : PortableDeviceValues}
    (hreal : ∀ kv ∈ D, kv.2.IsReal) (hs : Reachable di mi D s) :
    s.minReportInterval = di ∨ mi ≤ s.minReportInterval := by
  obtain ⟨-, hmin⟩ := reachable_intervalArbitrated hreal hs
  obtain ⟨-, hdi, hmi⟩ := reachable_config hs
  obtain ⟨hmem, -, -⟩ :=
    foldl_min_spec ulongMax.toNat (ClientEntries.explicitIntervals s.clientList.entries)
  split_ifs at hmin with heq
  · exact .inl (hdi ▸ uint32_toNat_inj.1 hmin)
  · obtain ⟨⟨x, hx, hxv⟩, h0⟩ := mem_explicitIntervals.1 (hmem.resolve_left heq)
    have hx0 : x.2.desiredReportInterval ≠ 0 := fun h => h0 (by rw [← hxv, h]; rfl)
    have hle := (hs.intervalsAllowed x hx).resolve_left hx0
    rw [hmi] at hle
    exact .inr (by rw [uint32_le_iff, hmin, ← hxv]; exact hle)

end ClientManager

/-! ## What the calls keep of the property cache and the client manager -/

namespace SensorDevice

variable {d₁ d₂ d₃ : SensorDevice}

/-- Every property but the state keeps its cached value. -/
def PropertiesKept (d d' : SensorDevice) : Prop :=
  ∀ k, k ≠ .sensorPropertyState →
    getValue d'.sensorPropertyValues k = getValue d.sensorPropertyValues k

theorem PropertiesKept.refl (d : SensorDevice) : PropertiesKept d d := fun _ _ => rfl

theorem PropertiesKept.trans (h₁ : PropertiesKept d₁ d₂) (h₂ : PropertiesKept d₂ d₃) :
    PropertiesKept d₁ d₃ := fun k hk => (h₂ k hk).trans (h₁ k hk)

theorem PropertiesKept.of_eq (h : d₂.sensorPropertyValues = d₁.sensorPropertyValues) :
    PropertiesKept d₁ d₂ := fun _ _ => by rw [h]

end SensorDevice

open SensorDevice in
theorem SameCaches.propertiesKept {d₁ d₂ : SensorDevice} (h : SameCaches d₁ d₂) :
    PropertiesKept d₁ d₂ := .of_eq h.1

namespace SensorDevice

variable (d : SensorDevice)

/-! `SetState` is the one write into the property cache after `Initialize`. -/

theorem propertiesKept_setState (newState : SensorState) : PropertiesKept d (setState d newState).2 := by
  simp only [setState, getProperty_state]
  split_ifs
  · exact fun k hk => getValue_setValue_ne _ _ hk
  all_goals exact .refl _

theorem propertiesKept_pollForData : PropertiesKept d (pollForData c d).2 := by
  have h := (sameCaches_requestNewData c d).propertiesKept
  simp only [pollForData]
  split_ifs
  exacts [h.trans (propertiesKept_setState _ _), h]

theorem propertiesKept_onInterruptWorkItem : PropertiesKept d (onInterruptWorkItem c d).2 := by
  have h := (sameCaches_requestData c d).propertiesKept
  simp only [onInterruptWorkItem, dataAvailable]
  split_ifs
  exacts [h.trans (propertiesKept_setState _ _), h]

/-- A request that applies the settings after the client manager answered. -/
theorem propertiesKept_apply (cm : ClientManager) :
    PropertiesKept d (applyUpdatedProperties c { d with clientManager := cm }).2 :=
  (sameCaches_applyUpdatedProperties c _).propertiesKept

theorem propertiesKept_setDataUpdateMode (mode : DataUpdateMode) :
    PropertiesKept d (setDataUpdateMode c d mode).2 :=
  (sameCaches_setDataUpdateMode c d mode).propertiesKept

theorem propertiesKept_handle (r : DeviceRequest) : PropertiesKept d (r.handle c d).2 := by
  cases r with
  | clientConnect hdl =>
    have ha := propertiesKept_apply c d (d.clientManager.connect hdl).2
    simp only [DeviceRequest.handle, clientConnect]
    split_ifs
    · exact ha.trans ((PropertiesKept.of_eq (by rfl)).trans
        ((propertiesKept_setDataUpdateMode c _ _).trans (propertiesKept_pollForData c _)))
    · exact ha.trans ((PropertiesKept.of_eq (by rfl)).trans (propertiesKept_setDataUpdateMode c _ _))
    · exact ha.trans (.of_eq (by rfl))
    · exact ha
    · exact .of_eq (by rfl)
  | clientDisconnect hdl =>
    have ha := propertiesKept_apply c d (d.clientManager.disconnect hdl).2
    simp only [DeviceRequest.handle, clientDisconnect]
    split_ifs
    exacts [ha.trans ((PropertiesKept.of_eq (by rfl)).trans (propertiesKept_setDataUpdateMode c _ _)), ha,
      .of_eq (by rfl)]
  | clientSubscribeToEvents hdl | clientUnsubscribeFromEvents hdl =>
    simp only [DeviceRequest.handle, clientSubscribeToEvents, clientUnsubscribeFromEvents]
    split_ifs
    exacts [propertiesKept_apply c d _, .of_eq (by rfl)]
  | setProperties hdl props => exact (sameCaches_setProperties c d hdl props).propertiesKept
  | stop =>
    simp only [DeviceRequest.handle, stop]
    split_ifs
    exacts [(propertiesKept_setState d _).trans (propertiesKept_setDataUpdateMode c _ _),
      propertiesKept_setState d _]

theorem propertiesKept_start : PropertiesKept d (start c d).2 := by
  have hr := (sameCaches_configureHardware c d).propertiesKept
  have ha := hr.trans (sameCaches_applyUpdatedProperties c (configureHardware c d).2).propertiesKept
  simp only [start]
  split_ifs
  exacts [ha.trans (propertiesKept_pollForData c _), ha, hr, .refl _]

theorem propertiesKept_pollIfStale : PropertiesKept d (pollIfStale c d).2 := by
  simp only [pollIfStale, getProperty_state]
  split_ifs <;> first | exact propertiesKept_pollForData c d | exact .refl _

theorem propertiesKept_run (call : DeviceCall) : PropertiesKept d (call.run c d) := by
  cases call with
  | request r => exact propertiesKept_handle c d r
  | start => exact propertiesKept_start c d
  | pollForData => exact propertiesKept_pollForData c d
  | interruptWorkItem => exact propertiesKept_onInterruptWorkItem c d
  | getProperties keys => exact (sameCaches_getPropertiesLoop keys d [] false).propertiesKept
  | getDataFields keys =>
    simp only [DeviceCall.run, getDataFields]
    split_ifs <;> exact propertiesKept_pollIfStale c d
  | reportIntervalExpired =>
    simp only [DeviceCall.run, reportIntervalExpired, hasStateChanged, getProperty_state]
    split_ifs <;> exact .of_eq rfl

/-! The calls other than the requests leave the client manager alone. -/

theorem clientManager_getProperty (key : PropertyKey) :
    (getProperty d key).2.2.clientManager = d.clientManager := by
  simp only [getProperty, getTestProperty]
  split_ifs <;> (try split) <;> rfl

theorem clientManager_getPropertiesLoop (keys : List PropertyKey) :
    ∀ (d : SensorDevice) values fError,
      (getPropertiesLoop keys d values fError).2.2.clientManager = d.clientManager := by
  induction keys with
  | nil => exact fun _ _ _ => rfl
  | cons key keys ih =>
    intro d values fError
    simp only [getPropertiesLoop]
    split_ifs <;> rw [ih, clientManager_getProperty]

theorem clientManager_onInterruptWorkItem :
    (onInterruptWorkItem c d).2.clientManager = d.clientManager := by
  have hr : (requestData c d).2.2.clientManager = d.clientManager := by
    simp only [requestData]; split_ifs <;> rfl
  simp only [onInterruptWorkItem, dataAvailable]
  split_ifs
  · rw [(effect_setState _ _).1]; exact hr
  · exact hr

theorem clientManager_pollIfStale : (pollIfStale c d).2.clientManager = d.clientManager := by
  simp only [pollIfStale, getProperty_state]
  split_ifs <;> first | exact (effect_pollForData c d).1 | rfl

/-- What a call does to the client manager: the requests it passes, none but for a request
of the framework. -/
theorem clientManager_call {di mi : UInt32} {D : PortableDeviceValues}
    (hreal : ∀ kv ∈ D, kv.2.IsReal) (hs : ClientManager.Reachable di mi D d.clientManager)
    (call : DeviceCall) : ∃ rs, (call.run c d).clientManager = runRequests rs d.clientManager := by
  cases call with
  | request r => exact (outcome_handle c d hreal hs r).clientManager
  | start => exact ⟨[], clientManager_start c d⟩
  | pollForData => exact ⟨[], (effect_pollForData c d).1⟩
  | interruptWorkItem => exact ⟨[], clientManager_onInterruptWorkItem c d⟩
  | getProperties keys => exact ⟨[], clientManager_getPropertiesLoop keys d [] false⟩
  | getDataFields keys =>
    refine ⟨[], ?_⟩
    simp only [DeviceCall.run, getDataFields]
    split_ifs <;> exact clientManager_pollIfStale c d
  | reportIntervalExpired =>
    refine ⟨[], ?_⟩
    simp only [DeviceCall.run, reportIntervalExpired, hasStateChanged, getProperty_state]
    split_ifs <;> rfl

end SensorDevice

/-! ## From `Initialize` on -/

/-- The sensor objects a successful `Initialize` of a constructed object leads to, under any
failures, through any sequence of calls, each under any failures. -/
inductive SensorDevice.Booted (c : Adxl345) (mi : UInt32) : SensorDevice → Prop
  | init {d d' : SensorDevice} {hr : HRESULT} (hd : d.Constructed)
      (he : initializeSensor c d mi = some (hr, d')) (hs : hr.succeeded = true) : Booted c mi d'
  | step {d : SensorDevice} (call : DeviceCall) (faults : List Bool) :
      Booted c mi d → Booted c mi (call.run c (d.withFaults faults))

namespace SensorDevice

variable {c} {mi : UInt32} {d : SensorDevice}

/-- Every object reached from `Initialize` is one `Initialized` reaches: its caches hold the
supported keys. -/
theorem Booted.initialized (hd : d.Booted c mi) : d.Initialized c := by
  induction hd with
  | init hd he hs => exact (setUp_of_initializeSensor hd.sensorInitialized he hs).cachesInitialized
  | step call faults _ ih => exact .step call faults ih

/-- The client manager of every object reached from `Initialize` is reachable from its own
`Initialize`. -/
theorem Booted.clientManager (hd : d.Booted c mi) :
    ClientManager.Reachable c.defaultReportInterval mi (defaultChangeSensitivities c)
      d.clientManager := by
  induction hd with
  | init hd he hs =>
    rw [(setUp_of_initializeSensor hd.sensorInitialized he hs).clientManager]; exact .init
  | @step d call faults _ ih =>
    obtain ⟨rs, hrs⟩ := clientManager_call c (d.withFaults faults)
      (defaultChangeSensitivities_real c) ih call
    rw [hrs]
    exact ih.runRequests rs

/-- The property cache of every object reached from `Initialize` holds the minimum interval. -/
theorem Booted.advertised (hd : d.Booted c mi) :
    getValue d.sensorPropertyValues .sensorPropertyMinReportInterval = some (.ui4 mi) := by
  induction hd with
  | init hd he hs =>
    obtain ⟨_, h, hp, -⟩ := (setUp_of_initializeSensor hd.sensorInitialized he hs).caches
    rw [hp]; exact getValue_minReportInterval h
  | @step d call faults _ ih =>
    rw [propertiesKept_run c (d.withFaults faults) call _ (by decide)]; exact ih

end SensorDevice

open SensorDevice

/-- **What is advertised is enforced.**  From a successful `Initialize` of the constructed
object, under any failures, through any sequence of requests, `Start`, polls, interrupts and
reads, each under any failures: the property cache advertises
`SENSOR_PROPERTY_MIN_REPORT_INTERVAL = mi`, the client manager enforces that same minimum,
every interval a client set is `0` or at least `mi`, and the arbitrated interval passed to
`SetReportInterval` is the default or at least `mi`. -/
theorem advertised_minimum_enforced {mi : UInt32} {d : SensorDevice} (hd : d.Booted c mi) :
    getValue d.sensorPropertyValues .sensorPropertyMinReportInterval = some (.ui4 mi) ∧
      d.clientManager.minSupportedReportInterval = mi ∧
      (∀ x ∈ d.clientManager.clientList.entries,
        x.2.desiredReportInterval = 0 ∨ mi ≤ x.2.desiredReportInterval) ∧
      (d.clientManager.minReportInterval = c.defaultReportInterval ∨
        mi ≤ d.clientManager.minReportInterval) := by
  have hs := hd.clientManager
  have hmi := (ClientManager.reachable_config hs).2.2
  refine ⟨hd.advertised, hmi, fun x hx => hmi ▸ hs.intervalsAllowed x hx,
    hs.minReportInterval_allowed (defaultChangeSensitivities_real c)⟩

/-- `Initialize` on a reliable bus, `Start`, and a first client. -/
theorem advertised_minimum_enforced_connected :
    (let d₀ := ((initializeSensor Adxl345.dataSheet (construct ⟨fun _ => 0, [], [], fun _ => 0⟩) 10).getD
      (.sOk, construct ⟨fun _ => 0, [], [], fun _ => 0⟩)).2
    let d := DeviceCall.run Adxl345.dataSheet (.request (.clientConnect 1))
      ((DeviceCall.run Adxl345.dataSheet .start (d₀.withFaults [])).withFaults [])
    d.Booted Adxl345.dataSheet 10 ∧
      (getValue d.sensorPropertyValues .sensorPropertyMinReportInterval = some (.ui4 10) ∧
        d.clientManager.minSupportedReportInterval = 10 ∧
        (∀ x ∈ d.clientManager.clientList.entries,
          x.2.desiredReportInterval = 0 ∨ 10 ≤ x.2.desiredReportInterval) ∧
        (d.clientManager.minReportInterval = Adxl345.dataSheet.defaultReportInterval ∨
          10 ≤ d.clientManager.minReportInterval))) := by
  intro d₀ d
  have hd : d.Booted Adxl345.dataSheet 10 :=
    .step _ [] (.step _ [] (.init (constructed_construct ⟨fun _ => 0, [], [], fun _ => 0⟩) rfl rfl))
  exact ⟨hd, advertised_minimum_enforced Adxl345.dataSheet hd⟩

end SpbAccelerometer
