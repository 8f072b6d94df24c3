import SpbAccelerometer.ClientMap

/-!
# `CClientManager`

The client manager keeps the connected clients (`m_pClientList`), their number
(`m_ClientCount`) and the number of subscribers (`m_SubscriberCount`), and after every change
recomputes the arbitrated settings: the minimum change sensitivity per data field
(`m_spMinSensitivityValues`) and the minimum report interval (`m_minReportInterval`,
`m_minReportIntervalExplicitlySet`).

Each public method is a function `ClientManager → HRESULT × ClientManager` (with the extra
output where the method has one).  Methods run under `m_ClientListCS`, so they are atomic;
`RecalculateProperties` is a function of its own that the mutating methods call last, and
whose `HRESULT` they return.  `CoCreateInstance`, `GetCount`, `GetAt` and `SetValue` on a
collection are taken to succeed; a `GetValue` of an absent key fails with
`ERROR_NOT_FOUND`.
-/

namespace SpbAccelerometer

/-- `DATA_UPDATE_MODE`. -/
inductive DataUpdateMode where
  | off
  | polling
  | eventing
  deriving DecidableEq, Repr

/-- `ULONG_MAX`, the "not set" value of the running minimum in `RecalculateProperties`. -/
def ulongMax : UInt32 := 0xFFFFFFFF

/-- `CURRENT_REPORT_INTERVAL_NOT_SET`. -/
def currentReportIntervalNotSet : UInt32 := 0

/-- The members of `CClientManager`. -/
structure ClientManager where
  clientList : ClientMap
  clientCount : UInt32
  subscriberCount : UInt32
  defaultSensitivityValues : PortableDeviceValues
  minSensitivityValues : PortableDeviceValues
  defaultReportInterval : UInt32
  minSupportedReportInterval : UInt32
  minReportInterval : UInt32
  minReportIntervalExplicitlySet : Bool
  deriving DecidableEq

namespace ClientManager

/-- The constructor `CClientManager()`. -/
def new : ClientManager where
  clientList := .empty
  clientCount := 0
  subscriberCount := 0
  defaultSensitivityValues := []
  minSensitivityValues := []
  defaultReportInterval := 0
  minSupportedReportInterval := 0
  minReportInterval := 0
  minReportIntervalExplicitlySet := false

/-- `Initialize(DefaultReportInterval, MinReportInterval, pDefaultChangeSensitivities)`. -/
def initializeManager (s : ClientManager) (defaultReportInterval minReportInterval : UInt32)
    (defaultChangeSensitivities : PortableDeviceValues) : HRESULT × ClientManager :=
  (.sOk, { s with
    defaultSensitivityValues := copyValues defaultChangeSensitivities s.defaultSensitivityValues
    minSensitivityValues := copyValues defaultChangeSensitivities s.minSensitivityValues
    defaultReportInterval := defaultReportInterval
    minSupportedReportInterval := minReportInterval
    minReportInterval := defaultReportInterval })

/-! ## `RecalculateProperties` -/

/-- The `min` of the fold: a `VT_NULL` minimum takes the client's value, a `VT_R4` or `VT_R8`
minimum puts the smaller value into the client's variant, any other type fails. -/
def foldMinValue (varMin var : PropVariant) : Except HRESULT PropVariant :=
  match varMin.vt with
  | .null => .ok var
  | .r4 | .r8 => .ok (var.withReal (min varMin.real var.real))
  | _ => .error .errorNotSupported

/-- The inner loop: one client's desired change sensitivities folded into the minima. -/
def foldDesiredSensitivities (mins : PortableDeviceValues) :
    PortableDeviceValues → HRESULT × PortableDeviceValues
  | [] => (.sOk, mins)
  | (key, var) :: rest =>
    if var.vt = .null then foldDesiredSensitivities mins rest
    else match getValue mins key with
      | none => (.errorNotFound, mins)
      | some varMin =>
        match foldMinValue varMin var with
        | .error hr => (hr, mins)
        | .ok var' => foldDesiredSensitivities (setValue mins key var') rest

/-- The loop over the clients: minima, running report interval and explicit flag. -/
def foldClients (mins : PortableDeviceValues) (minInterval : UInt32) (explicitlySet : Bool) :
    ClientEntries → HRESULT × PortableDeviceValues × UInt32 × Bool
  | [] => (.sOk, mins, minInterval, explicitlySet)
  | (_, entry) :: rest =>
    let r := foldDesiredSensitivities mins entry.desiredSensitivityValues
    if r.1.succeeded then
      if entry.desiredReportInterval ≠ currentReportIntervalNotSet ∧
          entry.desiredReportInterval < minInterval then
        foldClients r.2 entry.desiredReportInterval true rest
      else foldClients r.2 minInterval explicitlySet rest
    else (r.1, r.2, minInterval, explicitlySet)

/-- The last loop: every minimum still `VT_NULL` takes its default (`SetValue` of the key at
index `i` replaces the pair at index `i`). -/
def fillDefaults (defaults : PortableDeviceValues) :
    PortableDeviceValues → HRESULT × PortableDeviceValues
  | [] => (.sOk, [])
  | (key, var) :: rest =>
    if var.vt = .null then
      match getValue defaults key with
      | none => (.errorNotFound, (key, var) :: rest)
      | some d =>
        let r := fillDefaults defaults rest
        (r.1, (key, d) :: r.2)
    else
      let r := fillDefaults defaults rest
      (r.1, (key, var) :: r.2)

/-- `RecalculateProperties()`: reset the minima to `VT_NULL` and the interval to `ULONG_MAX`,
fold the clients in, then fill in the defaults. -/
def recalculateProperties (s : ClientManager) : HRESULT × ClientManager :=
  let r := foldClients (s.minSensitivityValues.map fun kv => (kv.1, PropVariant.null))
    ulongMax false s.clientList.entries
  if r.1.succeeded then
    let f := fillDefaults s.defaultSensitivityValues r.2.1
    (f.1, { s with
      minSensitivityValues := f.2
      minReportInterval := if r.2.2.1 = ulongMax then s.defaultReportInterval else r.2.2.1
      minReportIntervalExplicitlySet := r.2.2.2 })
  else
    (r.1, { s with
      minSensitivityValues := r.2.1
      minReportInterval := r.2.2.1
      minReportIntervalExplicitlySet := r.2.2.2 })

section Frame

variable (s : ClientManager)

@[simp] theorem recalculateProperties_clientList :
    (recalculateProperties s).2.clientList = s.clientList := by
  simp only [recalculateProperties]; split <;> rfl

@[simp] theorem recalculateProperties_clientCount :
    (recalculateProperties s).2.clientCount = s.clientCount := by
  simp only [recalculateProperties]; split <;> rfl

@[simp] theorem recalculateProperties_subscriberCount :
    (recalculateProperties s).2.subscriberCount = s.subscriberCount := by
  simp only [recalculateProperties]; split <;> rfl

@[simp] theorem recalculateProperties_defaultSensitivityValues :
    (recalculateProperties s).2.defaultSensitivityValues = s.defaultSensitivityValues := by
  simp only [recalculateProperties]; split <;> rfl

@[simp] theorem recalculateProperties_defaultReportInterval :
    (recalculateProperties s).2.defaultReportInterval = s.defaultReportInterval := by
  simp only [recalculateProperties]; split <;> rfl

@[simp] theorem recalculateProperties_minSupportedReportInterval :
    (recalculateProperties s).2.minSupportedReportInterval = s.minSupportedReportInterval := by
  simp only [recalculateProperties]; split <;> rfl

end Frame

/-! ## Clients -/

/-- The entry of a new client: not subscribed, no desired values. -/
def newEntry : ClientEntry := ⟨false, [], currentReportIntervalNotSet⟩

/-- `Connect(pClientFile)`. -/
def connect (s : ClientManager) (h : IWDFFile) : HRESULT × ClientManager :=
  if h = 0 then (.eInvalidArg, s)
  else if s.clientList.size ≠ s.clientCount.toNat then (.errorInvalidState, s)
  else if (s.clientList.find h).isSome then (.errorFileExists, s)
  else recalculateProperties
    { s with clientList := s.clientList.assign h newEntry, clientCount := s.clientCount + 1 }

/-- `Disconnect(pClientFile)`. -/
def disconnect (s : ClientManager) (h : IWDFFile) : HRESULT × ClientManager :=
  if h = 0 then (.eInvalidArg, s)
  else if s.clientCount = 0 then (.errorInvalidState, s)
  else if s.clientList.size ≠ s.clientCount.toNat then (.errorInvalidState, s)
  else match s.clientList.find h with
    | none => (.errorFileNotFound, s)
    | some entry => recalculateProperties
      { s with
        clientList := s.clientList.erase h
        subscriberCount := if entry.subscribed then s.subscriberCount - 1 else s.subscriberCount
        clientCount := s.clientCount - 1 }

/-- `Subscribe(pClientFile)`. -/
def subscribe (s : ClientManager) (h : IWDFFile) : HRESULT × ClientManager :=
  if h = 0 then (.eInvalidArg, s)
  else match s.clientList.find h with
    | none => (.errorFileNotFound, s)
    | some entry =>
      if entry.subscribed then (.errorInvalidState, s)
      else recalculateProperties
        { s with
          clientList := s.clientList.assign h { entry with subscribed := true }
          subscriberCount := s.subscriberCount + 1 }

/-- `Unsubscribe(pClientFile)`. -/
def unsubscribe (s : ClientManager) (h : IWDFFile) : HRESULT × ClientManager :=
  if h = 0 then (.eInvalidArg, s)
  else match s.clientList.find h with
    | none => (.errorFileNotFound, s)
    | some entry =>
      if !entry.subscribed then (.errorInvalidState, s)
      else recalculateProperties
        { s with
          clientList := s.clientList.assign h { entry with subscribed := false }
          subscriberCount := s.subscriberCount - 1 }

/-- `GetClientCount()`. -/
def getClientCount (s : ClientManager) : UInt32 := s.clientCount

/-- `GetSubscriberCount()`. -/
def getSubscriberCount (s : ClientManager) : UInt32 := s.subscriberCount

/-- `GetDataUpdateMode()`. -/
def getDataUpdateMode (s : ClientManager) : DataUpdateMode :=
  if s.clientCount = 0 then .off
  else if 0 < s.subscriberCount ∨ s.minReportIntervalExplicitlySet = true then .eventing
  else .polling

/-! ## Settable properties -/

/-- `hrTemp` of `SetDesiredChangeSensitivity` for one field: the key must have a minimum, and
the value must be `VT_NULL` or of the minimum's type, and not negative. -/
def checkDesiredSensitivity (mins : PortableDeviceValues) (key : PropertyKey)
    (var : PropVariant) : HRESULT :=
  match getValue mins key with
  | none => .errorNotFound
  | some varTemp =>
    if (var.vt ≠ varTemp.vt ∧ var.vt ≠ .null) ∨ (var.vt = .r4 ∧ var.real < 0) ∨
        (var.vt = .r8 ∧ var.real < 0) then .eInvalidArg
    else .sOk

theorem checkDesiredSensitivity_succeeded {mins : PortableDeviceValues} {key : PropertyKey}
    {var : PropVariant} : (checkDesiredSensitivity mins key var).succeeded = true ↔
      checkDesiredSensitivity mins key var = .sOk := by
  unfold checkDesiredSensitivity
  split
  · simp [HRESULT.succeeded]
  · split_ifs <;> simp [HRESULT.succeeded]

/-- The loop of `SetDesiredChangeSensitivity`: the client's desired values, the per-field
results (`SetValue` of the value, or `SetErrorValue`) and `fError`. -/
def setDesiredSensitivities (mins : PortableDeviceValues) :
    PortableDeviceValues → PortableDeviceValues → PortableDeviceValues → Bool →
      PortableDeviceValues × PortableDeviceValues × Bool
  | [], desired, results, fError => (desired, results, fError)
  | (key, var) :: rest, desired, results, fError =>
    let hrTemp := checkDesiredSensitivity mins key var
    if hrTemp.succeeded then
      setDesiredSensitivities mins rest (setValue desired key var) (setValue results key var) fError
    else setDesiredSensitivities mins rest desired (setValue results key (.error hrTemp)) true

/-- `SetDesiredChangeSensitivity(pClientFile, pValues, ppResults)`. -/
def setDesiredChangeSensitivity (s : ClientManager) (h : IWDFFile) (values : PortableDeviceValues) :
    HRESULT × PortableDeviceValues × ClientManager :=
  if h = 0 then (.eInvalidArg, [], s)
  else match s.clientList.find h with
    | none => (.errorFileNotFound, [], s)
    | some entry =>
      let l := setDesiredSensitivities s.minSensitivityValues values
        entry.desiredSensitivityValues [] false
      let r := recalculateProperties
        { s with clientList := s.clientList.assign h { entry with desiredSensitivityValues := l.1 } }
      (if r.1.succeeded ∧ l.2.2 then .sFalse else r.1, l.2.1, r.2)

/-- `SetDesiredReportInterval(pClientFile, reportInterval)`. -/
def setDesiredReportInterval (s : ClientManager) (h : IWDFFile) (reportInterval : UInt32) :
    HRESULT × ClientManager :=
  if h = 0 then (.eInvalidArg, s)
  else if reportInterval ≠ 0 ∧ reportInterval < s.minSupportedReportInterval then (.eInvalidArg, s)
  else match s.clientList.find h with
    | none => (.errorFileNotFound, s)
    | some entry => recalculateProperties
      { s with clientList := s.clientList.assign h { entry with desiredReportInterval := reportInterval } }

/-- `SetDesiredProperty(pClientFile, key, pVar, pVarResult)`: the status, `*pVarResult` and the
new state.  `*pVarResult` stays `VT_EMPTY` unless the call succeeds. -/
def setDesiredProperty (s : ClientManager) (h : IWDFFile) (key : PropertyKey) (var : PropValue) :
    HRESULT × PropValue × ClientManager :=
  if h = 0 then (.eInvalidArg, .var .empty, s)
  else if key = .sensorPropertyChangeSensitivity then
    match var with
    | .unknown values =>
      let r := setDesiredChangeSensitivity s h values
      (r.1, if r.1.succeeded then .unknown r.2.1 else .var .empty, r.2.2)
    | .var _ => (.eInvalidArg, .var .empty, s)
  else if key = .sensorPropertyCurrentReportInterval then
    match var with
    | .var (.ui4 reportInterval) =>
      let r := setDesiredReportInterval s h reportInterval
      (r.1, if r.1.succeeded then var else .var .empty, r.2)
    | _ => (.eInvalidArg, .var .empty, s)
  else (.errorNotFound, .var .empty, s)

/-- `GetArbitratedProperty(key, pVar)`: a copy of the minima, or the minimum interval. -/
def getArbitratedProperty (s : ClientManager) (key : PropertyKey) : HRESULT × PropValue :=
  if key = .sensorPropertyChangeSensitivity then
    (.sOk, .unknown (copyValues s.minSensitivityValues []))
  else if key = .sensorPropertyCurrentReportInterval then
    (.sOk, .var (.ui4 s.minReportInterval))
  else (.errorNotFound, .var .empty)

end ClientManager

/-- A call into the client manager from the sensor device. -/
inductive ClientRequest where
  | connect (h : IWDFFile)
  | disconnect (h : IWDFFile)
  | subscribe (h : IWDFFile)
  | unsubscribe (h : IWDFFile)
  | setDesiredProperty (h : IWDFFile) (key : PropertyKey) (var : PropValue)
  deriving DecidableEq, Repr

namespace ClientRequest

/-- The handle a request is made for. -/
def handle : ClientRequest → IWDFFile
  | connect h | disconnect h | subscribe h | unsubscribe h | setDesiredProperty h _ _ => h

/-- The status and the state after a request. -/
def run : ClientRequest → ClientManager → HRESULT × ClientManager
  | connect h, s => s.connect h
  | disconnect h, s => s.disconnect h
  | subscribe h, s => s.subscribe h
  | unsubscribe h, s => s.unsubscribe h
  | setDesiredProperty h key var, s =>
    let r := s.setDesiredProperty h key var
    (r.1, r.2.2)

open ClientManager in
/-- What a request does to the state: nothing, or a new map and counters followed by
`RecalculateProperties`, whose success makes the request succeed. -/
theorem run_cases (r : ClientRequest) (s : ClientManager) :
    (r.run s).2 = s ∨ ∃ m c sc,
      let t := recalculateProperties { s with clientList := m, clientCount := c, subscriberCount := sc }
      (r.run s).2 = t.2 ∧ (t.1.succeeded = true → (r.run s).1.succeeded = true) := by
  generalize hr : r.run s = res
  cases r <;> simp only [run, ClientManager.connect, ClientManager.disconnect,
    ClientManager.subscribe, ClientManager.unsubscribe, ClientManager.setDesiredProperty,
    setDesiredChangeSensitivity, setDesiredReportInterval] at hr <;> repeat' split at hr
  all_goals subst hr; first
    | exact .inl rfl
    | exact .inr ⟨_, _, _, rfl, id⟩
    | exact .inr ⟨_, _, _, rfl, fun _ => rfl⟩

/-- No request changes what `Initialize` set. -/
theorem run_config (r : ClientRequest) (s : ClientManager) :
    (r.run s).2.defaultSensitivityValues = s.defaultSensitivityValues ∧
      (r.run s).2.defaultReportInterval = s.defaultReportInterval ∧
      (r.run s).2.minSupportedReportInterval = s.minSupportedReportInterval := by
  rcases r.run_cases s with h | ⟨m, c, sc, h, -⟩ <;> rw [h] <;> simp

end ClientRequest

/-- The states reachable from `Initialize(defaultInterval, minInterval, defaults)` on a new
client manager, by any sequence of requests, successful or not. -/
inductive ClientManager.Reachable (defaultInterval minInterval : UInt32)
    (defaults : PortableDeviceValues) : ClientManager → Prop where
  | init : Reachable defaultInterval minInterval defaults
      (ClientManager.new.initializeManager defaultInterval minInterval defaults).2
  | step {s : ClientManager} (r : ClientRequest) :
      Reachable defaultInterval minInterval defaults s →
      Reachable defaultInterval minInterval defaults (r.run s).2

/-- The state after a sequence of requests, each made on the state the one before left. -/
def runRequests (rs : List ClientRequest) (s : ClientManager) : ClientManager :=
  rs.foldl (fun s r => (r.run s).2) s

theorem runRequests_append_singleton (rs : List ClientRequest) (r : ClientRequest)
    (s : ClientManager) : runRequests (rs ++ [r]) s = (r.run (runRequests rs s)).2 := by
  simp [runRequests]

theorem runRequests_append (rs₁ rs₂ : List ClientRequest) (s : ClientManager) :
    runRequests (rs₁ ++ rs₂) s = runRequests rs₂ (runRequests rs₁ s) :=
  List.foldl_append ..

theorem ClientManager.Reachable.runRequests {di mi : UInt32} {D : PortableDeviceValues}
    {s : ClientManager} (hs : Reachable di mi D s) (rs : List ClientRequest) :
    Reachable di mi D (runRequests rs s) := by
  induction rs generalizing s with
  | nil => exact hs
  | cons r rest ih => exact ih (.step r hs)

/-- What `Initialize` set stays in every reachable state. -/
theorem ClientManager.reachable_config {di mi : UInt32} {D : PortableDeviceValues}
    {s : ClientManager} (hs : Reachable di mi D s) :
    s.defaultSensitivityValues = copyValues D [] ∧ s.defaultReportInterval = di ∧
      s.minSupportedReportInterval = mi := by
  induction hs with
  | init => exact ⟨rfl, rfl, rfl⟩
  | step r _ ih =>
    obtain ⟨h1, h2, h3⟩ := r.run_config _
    exact ⟨h1.trans ih.1, h2.trans ih.2.1, h3.trans ih.2.2⟩

end SpbAccelerometer
