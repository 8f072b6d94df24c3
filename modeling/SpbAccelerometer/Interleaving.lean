import SpbAccelerometer.Faults
import SpbAccelerometer.Threads

/-!
# Requests in parallel

The driver's queue is created with `WdfIoQueueDispatchParallel`: the framework may call
`ClientConnect`, `ClientDisconnect`, `ClientSubscribeToEvents`,
`ClientUnsubscribeFromEvents`, `SetProperties` and `Stop` on several threads at once.  Each
call into `CClientManager` is atomic under the client manager's locks, each device
programming call (`SetReportInterval`, `SetChangeSensitivity`, `SetDeviceState*`) under the
device lock; nothing holds a lock across them.  Here a request is a thread with a program
counter (`Pc`) and the locals of the handler, and one `RequestThread.step` is one atomic
step on the shared `SensorDevice`:

* the client manager call of the request (with `GetClientCount` under the client lock for
  `ClientConnect` and `ClientDisconnect`), or one pair of `SetProperties`;
* in `ApplyUpdatedProperties`: each `GetArbitratedProperty` read, `SetReportInterval`,
  `m_pReportManager->SetReportInterval`, `SetChangeSensitivity`, the
  `GetDataUpdateMode` read with its comparison against `m_DataUpdateMode`;
* in `SetDataUpdateMode`: the `SetDeviceState*` call, then the assignment of
  `m_DataUpdateMode`;
* `StopIdle`, `ResumeIdle`, and `PollForData` after the first connection.

`Stop` runs `SetState(NO_DATA)` as one step.  A `Driver` is the sensor object with the
threads in flight, and `Driver.run` follows a schedule, a list of thread indices.

Every step is a client manager request or leaves the client manager alone
(`step_clientManager`), so the client manager stays arbitrated whatever the interleaving
(`Driver.arbitrated_run`).  The configuration of the device does not follow it:
`mode_after_interleaved_subscribe` is a schedule of an unsubscribe and a subscribe after
which both have returned, every transfer succeeded, and `m_DataUpdateMode` is `Polling`
while the client manager asks for `Eventing`.
-/

namespace SpbAccelerometer

variable (c : Adxl345)

/-- The atomic step a request handler makes next. -/
inductive Pc where
  /-- The client manager call of the request, or `SetState(NO_DATA)` for `Stop`. -/
  | request
  /-- The pairs of `SetProperties` still to pass on. -/
  | setProperty (h : IWDFFile) (rest : List (PropertyKey × PropValue))
  | getReportInterval
  | setReportInterval
  | reportManagerInterval
  | getChangeSensitivity
  | setChangeSensitivity
  | getDataUpdateMode
  /-- `SetDataUpdateMode(mode)`, called from `ApplyUpdatedProperties` or after it. -/
  | setDeviceState (mode : DataUpdateMode) (inApply : Bool)
  | assignDataUpdateMode (mode : DataUpdateMode) (inApply : Bool)
  | stopIdle
  | pollForData
  | resumeIdle
  | done
  deriving DecidableEq

/-- What follows a successful `ApplyUpdatedProperties`: idle detection stops for the first
client and resumes after the last one. -/
def DeviceRequest.afterApply (r : DeviceRequest) (clientCount : UInt32) : Pc :=
  match r with
  | .clientConnect _ => if clientCount = 1 then .stopIdle else .done
  | .clientDisconnect _ => if clientCount = 0 then .resumeIdle else .done
  | _ => .done

/-- What follows a `SetDataUpdateMode` made outside `ApplyUpdatedProperties`: the first
`PollForData` after a connection, nothing after a disconnection or `Stop`. -/
def DeviceRequest.afterDataUpdateMode : DeviceRequest → Pc
  | .clientConnect _ => .pollForData
  | _ => .done

/-- A request in flight: the request, where it stands and the locals of its handler. -/
structure RequestThread where
  request : DeviceRequest
  pc : Pc
  hr : HRESULT
  clientCount : UInt32
  /-- `var` of `ApplyUpdatedProperties`: the arbitrated report interval, then the arbitrated
  change sensitivity; cleared when the block that reads them is left. -/
  var : PropValue
  fError : Bool

namespace RequestThread

/-- A request as the queue hands it over. -/
def init (r : DeviceRequest) : RequestThread :=
  ⟨r, .request, .sOk, 0, .var .empty, false⟩

/-- The status the handler returns. -/
def status (t : RequestThread) : HRESULT :=
  match t.request with
  | .setProperties _ _ => if t.hr.succeeded ∧ t.fError then .sFalse else t.hr
  | _ => t.hr

/-- The first step of `ClientConnect`, `ClientDisconnect`, `ClientSubscribeToEvents` and
`ClientUnsubscribeFromEvents`: the client manager call, with the client count read under the
same lock. -/
def clientStep (cr : ClientRequest) (t : RequestThread) (d : SensorDevice) :
    RequestThread × SensorDevice :=
  let r := cr.run d.clientManager
  ({ t with
      pc := if r.1.succeeded then .getReportInterval else .done
      hr := r.1
      clientCount := r.2.getClientCount },
    { d with clientManager := r.2 })

/-- The first step of a request. -/
def requestStep (t : RequestThread) (d : SensorDevice) : RequestThread × SensorDevice :=
  match t.request with
  | .clientConnect h => clientStep (.connect h) t d
  | .clientDisconnect h => clientStep (.disconnect h) t d
  | .clientSubscribeToEvents h => clientStep (.subscribe h) t d
  | .clientUnsubscribeFromEvents h => clientStep (.unsubscribe h) t d
  | .setProperties h props => ({ t with pc := .setProperty h props }, d)
  | .stop =>
    let r := d.setState .noData
    ({ t with pc := if r.1.succeeded then .setDeviceState .off false else .done, hr := r.1 }, r.2)

/-- One pair of `SetProperties`: to `SetTestProperty` or to the client manager. -/
def setPropertyStep (h : IWDFFile) (key : PropertyKey) (var : PropValue) (d : SensorDevice) :
    HRESULT × SensorDevice :=
  if SensorDevice.isTestProperty key then d.setTestProperty key var
  else
    let r := d.clientManager.setDesiredProperty h key var
    (r.1, { d with clientManager := r.2.2 })

/-- The `SetDeviceState*` call for a mode. -/
def setDeviceState (mode : DataUpdateMode) (d : SensorDevice) : HRESULT × SensorDevice :=
  match mode with
  | .off => d.setDeviceStateStandby c
  | .polling => d.setDeviceStatePolling c
  | .eventing => d.setDeviceStateEventing c

/-- The next atomic step of a request on the shared sensor object; a request that has
returned makes none. -/
def step (t : RequestThread) (d : SensorDevice) : RequestThread × SensorDevice :=
  match t.pc with
  | .request => t.requestStep d
  | .setProperty _ [] => ({ t with pc := .getReportInterval }, d)
  | .setProperty h ((key, var) :: rest) =>
    let r := setPropertyStep h key var d
    ({ t with
        pc := .setProperty h rest
        fError := if r.1.succeeded then t.fError || r.1 != .sOk else true }, r.2)
  | .getReportInterval =>
    if d.sensorInitialized then
      let v := d.clientManager.getArbitratedProperty .sensorPropertyCurrentReportInterval
      ({ t with
          pc := if v.1.succeeded then .setReportInterval else .done
          hr := v.1
          var := if v.1.succeeded then v.2 else .var .empty }, d)
    else ({ t with pc := .done, hr := .eUnexpected }, d)
  | .setReportInterval =>
    let r := d.setReportInterval c t.var.ulVal
    ({ t with
        pc := if r.1.succeeded then .reportManagerInterval else .done
        hr := r.1
        var := if r.1.succeeded then t.var else .var .empty }, r.2)
  | .reportManagerInterval =>
    ({ t with pc := .getChangeSensitivity }, { d with reportInterval := t.var.ulVal })
  | .getChangeSensitivity =>
    let s := d.clientManager.getArbitratedProperty .sensorPropertyChangeSensitivity
    ({ t with
        pc := if s.1.succeeded then .setChangeSensitivity else .done
        hr := s.1
        var := if s.1.succeeded then s.2 else .var .empty }, d)
  | .setChangeSensitivity =>
    let r := d.setChangeSensitivity c t.var
    ({ t with
        pc := if r.1.succeeded then .getDataUpdateMode else .done
        hr := r.1
        var := .var .empty }, r.2)
  | .getDataUpdateMode =>
    let newMode := d.clientManager.getDataUpdateMode
    ({ t with pc := if newMode ≠ d.dataUpdateMode then .setDeviceState newMode true
        else t.request.afterApply t.clientCount }, d)
  | .setDeviceState mode inApply =>
    let r := setDeviceState c mode d
    ({ t with
        pc := if r.1.succeeded then .assignDataUpdateMode mode inApply else .done
        hr := r.1 }, r.2)
  | .assignDataUpdateMode mode inApply =>
    ({ t with pc := if inApply then t.request.afterApply t.clientCount else t.request.afterDataUpdateMode },
      { d with dataUpdateMode := mode })
  | .stopIdle =>
    let s := d.bus.call
    ({ t with pc := if s.1.succeeded then .setDeviceState .polling false else .done, hr := s.1 },
      { d with
          bus := s.2
          idleReferences := if s.1.succeeded then d.idleReferences + 1 else d.idleReferences })
  | .pollForData =>
    let r := d.pollForData c
    ({ t with pc := .done, hr := r.1 }, r.2)
  | .resumeIdle =>
    ({ t with pc := .setDeviceState .off false }, { d with idleReferences := d.idleReferences - 1 })
  | .done => (t, d)

/-- **One step is one client manager request, or none.**  The client manager calls are the
only steps that change it. -/
theorem step_clientManager (t : RequestThread) (d : SensorDevice) :
    ∃ rs, (t.step c d).2.clientManager = runRequests rs d.clientManager := by
  have keep : ∀ {r : HRESULT × SensorDevice}, Effect d r →
      ∃ rs, r.2.clientManager = runRequests rs d.clientManager := fun e => ⟨[], e.clientManager⟩
  obtain ⟨req, pc, hr, cc, var, fe⟩ := t
  cases pc
  case request =>
    cases req
    case setProperties => exact ⟨[], rfl⟩
    case stop => exact keep (SensorDevice.effect_setState d _)
    all_goals exact ⟨[_], rfl⟩
  case setProperty h rest =>
    rcases rest with _ | ⟨⟨key, var⟩, rest⟩
    · exact ⟨[], rfl⟩
    · show ∃ rs, (setPropertyStep h key var d).2.clientManager = _
      unfold setPropertyStep
      split
      · exact keep (SensorDevice.effect_setTestProperty d key var)
      · exact ⟨[.setDesiredProperty h key var], rfl⟩
  case getReportInterval => simp only [step]; split <;> exact ⟨[], rfl⟩
  case setReportInterval => exact keep (SensorDevice.effect_setReportInterval c d _)
  case setChangeSensitivity => exact keep (SensorDevice.effect_setChangeSensitivity c d _)
  case setDeviceState mode _ =>
    cases mode
    exacts [keep (SensorDevice.effect_setDeviceStateStandby c d),
      keep (SensorDevice.effect_setDeviceStatePolling c d),
      keep (SensorDevice.effect_setDeviceStateEventing c d)]
  case pollForData => exact keep (SensorDevice.effect_pollForData c d)
  all_goals exact ⟨[], rfl⟩

/-! ## One request alone

A request whose steps follow each other with no other request in between does what the
handler of `SensorDevice` does: `serves_handle`. -/

/-- Running alone, the request returns `res.1` and leaves `res.2`. -/
def Serves (r : DeviceRequest) (d : SensorDevice) (res : HRESULT × SensorDevice) : Prop :=
  ∃ t, Threads.Runs (step c) (init r, d) (t, res.2) ∧ t.pc = .done ∧ t.status = res.1

theorem setDataUpdateMode_eq (d : SensorDevice) (m : DataUpdateMode) :
    d.setDataUpdateMode c m =
      if (setDeviceState c m d).1.succeeded then
        ((setDeviceState c m d).1, { (setDeviceState c m d).2 with dataUpdateMode := m })
      else setDeviceState c m d := by
  cases m <;> rfl

/-- The two steps of `SetDataUpdateMode`. -/
theorem runs_setDataUpdateMode {t : RequestThread} {m : DataUpdateMode} {b : Bool}
    (ht : t.pc = .setDeviceState m b) (d : SensorDevice) :
    Threads.Runs (step c) (t, d) ({ t with
      pc := if (d.setDataUpdateMode c m).1.succeeded then
        (if b then t.request.afterApply t.clientCount else t.request.afterDataUpdateMode) else .done
      hr := (d.setDataUpdateMode c m).1 }, (d.setDataUpdateMode c m).2) := by
  rw [setDataUpdateMode_eq]
  refine Threads.Runs.next (step c) ?_
  simp only [step, ht]
  split <;> rename_i h
  · refine Threads.Runs.next (step c) ?_
    simp only [step, h, if_true]
    exact .refl
  · exact .refl

/-- The end of `ApplyUpdatedProperties`, after a successful `SetChangeSensitivity`. -/
theorem runs_applyDataUpdateMode {t : RequestThread} (ht : t.pc = .getDataUpdateMode)
    (hhr : t.hr = .sOk) (d : SensorDevice) :
    Threads.Runs (step c) (t, d) ({ t with
      pc := if (d.applyDataUpdateMode c).1.succeeded then t.request.afterApply t.clientCount else .done
      hr := (d.applyDataUpdateMode c).1 }, (d.applyDataUpdateMode c).2) := by
  unfold SensorDevice.applyDataUpdateMode
  refine Threads.Runs.next (step c) ?_
  simp only [step, ht]
  split
  · exact runs_setDataUpdateMode c (b := true) rfl d
  · simp only [HRESULT.succeeded_sOk, if_true, hhr]
    exact .refl

/-- The steps of `ApplyUpdatedProperties`. -/
theorem runs_applyUpdatedProperties {t : RequestThread} (ht : t.pc = .getReportInterval)
    (hv : t.var = .var .empty) (d : SensorDevice) : Threads.Runs (step c) (t, d) ({ t with
      pc := if (d.applyUpdatedProperties c).1.succeeded then t.request.afterApply t.clientCount else .done
      hr := (d.applyUpdatedProperties c).1 }, (d.applyUpdatedProperties c).2) := by
  obtain ⟨req, pc, hr, cc, var, fe⟩ := t
  subst ht hv
  unfold SensorDevice.applyUpdatedProperties
  refine Threads.Runs.next (step c) ?_
  simp only [step]
  split
  · simp only [ClientManager.getArbitratedProperty, reduceCtorEq, if_true, if_false,
      HRESULT.succeeded_sOk]
    refine Threads.Runs.next (step c) ?_
    simp only [step]
    split <;> rename_i h₁
    · refine Threads.Runs.next (step c) (Threads.Runs.next (step c) (Threads.Runs.next (step c) ?_))
      simp only [step, ClientManager.getArbitratedProperty, if_true, HRESULT.succeeded_sOk]
      split <;> rename_i h₂
      · exact runs_applyDataUpdateMode c rfl (SensorDevice.setChangeSensitivity_sOk c h₂) _
      · exact .refl
    · exact .refl
  · exact .refl

/-- The client manager call of a request and the `ApplyUpdatedProperties` after it. -/
theorem runs_clientStep (cr : ClientRequest) {t : RequestThread} (hpc : t.pc = .request)
    (hv : t.var = .var .empty) (hreq : ∀ d, t.requestStep d = clientStep cr t d)
    (d : SensorDevice) :
    let r := cr.run d.clientManager
    let t' := { t with clientCount := r.2.getClientCount }
    let a := SensorDevice.applyUpdatedProperties c { d with clientManager := r.2 }
    Threads.Runs (step c) (t, d) (if r.1.succeeded then
        ({ t' with pc := if a.1.succeeded then t.request.afterApply r.2.getClientCount else .done, hr := a.1 }, a.2)
      else ({ t' with pc := .done, hr := r.1 }, { d with clientManager := r.2 })) := by
  refine Threads.Runs.next (step c) ?_
  simp only [step, hpc, hreq, clientStep]
  split
  · exact runs_applyUpdatedProperties c rfl (by exact hv) _
  · exact .refl

/-- `StopIdle`, `SetDataUpdateMode(Polling)` and the first `PollForData` of `ClientConnect`. -/
theorem runs_stopIdle {t : RequestThread} (hpc : t.pc = .stopIdle)
    (hnext : t.request.afterDataUpdateMode = .pollForData) (d : SensorDevice) :
    let s := d.bus.call
    let d' := { d with
      bus := s.2
      idleReferences := if s.1.succeeded then d.idleReferences + 1 else d.idleReferences }
    let m := d'.setDataUpdateMode c .polling
    Threads.Runs (step c) (t, d) (if s.1.succeeded then
        if m.1.succeeded then ({ t with pc := .done, hr := (m.2.pollForData c).1 }, (m.2.pollForData c).2)
        else ({ t with pc := .done, hr := m.1 }, m.2)
      else ({ t with pc := .done, hr := s.1 }, d')) := by
  refine Threads.Runs.next (step c) ?_
  simp only [step, hpc]
  split <;> rename_i h₁
  · refine Threads.Runs.trans (step c) (runs_setDataUpdateMode c (b := false) (by rfl) _) ?_
    split <;> rename_i h₂
    · simp only [h₂, if_true, Bool.false_eq_true, if_false, hnext]
      exact Threads.Runs.next (step c) .refl
    · simp only [h₂, Bool.false_eq_true, if_false]
      exact .refl
  · exact .refl

/-- `ResumeIdle` and `SetDataUpdateMode(Off)` after the last client of `ClientDisconnect`. -/
theorem runs_resumeIdle {t : RequestThread} (hpc : t.pc = .resumeIdle)
    (hnext : t.request.afterDataUpdateMode = .done) (d : SensorDevice) :
    let m := { d with idleReferences := d.idleReferences - 1 }.setDataUpdateMode c .off
    Threads.Runs (step c) (t, d) ({ t with pc := .done, hr := m.1 }, m.2) := by
  refine Threads.Runs.next (step c) ?_
  simp only [step, hpc]
  refine Threads.Runs.trans (step c) (runs_setDataUpdateMode c (b := false) (by rfl) _) ?_
  simp only [Bool.false_eq_true, if_false, hnext, ite_self]
  exact .refl

/-- The pairs of `SetProperties`, one step each. -/
theorem runs_setPropertiesLoop (h : IWDFFile) (props : List (PropertyKey × PropValue))
    {t : RequestThread} (hpc : t.pc = .setProperty h props) (d : SensorDevice)
    (results : List (PropertyKey × PropValue)) :
    Threads.Runs (step c) (t, d) ({ t with
      pc := .getReportInterval
      fError := (d.setPropertiesLoop h props results t.fError).2.1 },
      (d.setPropertiesLoop h props results t.fError).2.2) := by
  induction props generalizing t d results with
  | nil =>
    refine Threads.Runs.next (step c) ?_
    simp only [step, hpc]
    exact .refl
  | cons kv rest ih =>
    obtain ⟨key, var⟩ := kv
    refine Threads.Runs.next (step c) ?_
    simp only [step, hpc]
    have hs : ∀ fe, SensorDevice.setPropertiesLoop h ((key, var) :: rest) d results fe =
        let r := setPropertyStep h key var d
        if r.1.succeeded then
          SensorDevice.setPropertiesLoop h rest r.2 (setValue results key
            (if SensorDevice.isTestProperty key then .var .empty
              else (d.clientManager.setDesiredProperty h key var).2.1)) (fe || r.1 != .sOk)
        else SensorDevice.setPropertiesLoop h rest r.2 (setValue results key (.var (.error r.1))) true := by
      intro fe
      simp only [SensorDevice.setPropertiesLoop, setPropertyStep]
      split <;> rfl
    simp only [hs]
    split
    · exact ih (t := { t with
        pc := .setProperty h rest
        fError := t.fError || (setPropertyStep h key var d).1 != .sOk }) rfl _ _
    · exact ih (t := { t with pc := .setProperty h rest, fError := true }) rfl _ _

/-- A request that only calls the client manager and then applies the settings. -/
theorem serves_request (r : DeviceRequest) (cr : ClientRequest)
    (hreq : ∀ d, (init r).requestStep d = clientStep cr (init r) d)
    (hafter : ∀ n, r.afterApply n = .done) (hstatus : ∀ t : RequestThread, t.request = r → t.status = t.hr)
    (d : SensorDevice) :
    Serves c r d (if (cr.run d.clientManager).1.succeeded then
        SensorDevice.applyUpdatedProperties c { d with clientManager := (cr.run d.clientManager).2 }
      else ((cr.run d.clientManager).1, { d with clientManager := (cr.run d.clientManager).2 })) := by
  have e := runs_clientStep c cr (t := init r) rfl rfl hreq d
  simp only at e ⊢
  split at e <;> rename_i h₁ <;> simp only [h₁, if_true, Bool.false_eq_true, if_false]
  · exact ⟨_, e, by simp only [init, hafter, ite_self], hstatus _ rfl⟩
  · exact ⟨_, e, rfl, hstatus _ rfl⟩

theorem serves_clientConnect (h : IWDFFile) (d : SensorDevice) :
    Serves c (.clientConnect h) d (d.clientConnect c h) := by
  have e := runs_clientStep c (.connect h) (t := init (.clientConnect h)) rfl rfl
    (fun _ => rfl) d
  simp only [ClientRequest.run] at e
  unfold SensorDevice.clientConnect
  simp only
  generalize SensorDevice.applyUpdatedProperties c
    { d with clientManager := (d.clientManager.connect h).2 } = a at e ⊢
  split at e <;> rename_i h₁ <;> simp only [h₁, if_true, Bool.false_eq_true, if_false]
  · by_cases h₂ : a.1.succeeded = true ∧ (d.clientManager.connect h).2.getClientCount = 1
    · simp only [h₂, DeviceRequest.afterApply, if_true] at e
      have e₂ := Threads.Runs.trans (step c) e (runs_stopIdle c (by rfl) (by rfl) a.2)
      simp only [h₂, and_self, if_true] at e₂ ⊢
      split at e₂ <;> rename_i h₃ <;> simp only [h₃, if_true, Bool.false_eq_true, if_false]
      · split at e₂ <;> rename_i h₄ <;> simp only [h₄, if_true, Bool.false_eq_true, if_false]
        all_goals exact ⟨_, e₂, rfl, rfl⟩
      · exact ⟨_, e₂, rfl, rfl⟩
    · rw [if_neg h₂]
      refine ⟨_, e, ?_, rfl⟩
      by_cases ha : a.1.succeeded = true <;> simp_all [init, DeviceRequest.afterApply]
  · exact ⟨_, e, rfl, rfl⟩

theorem serves_clientDisconnect (h : IWDFFile) (d : SensorDevice) :
    Serves c (.clientDisconnect h) d (d.clientDisconnect c h) := by
  have e := runs_clientStep c (.disconnect h) (t := init (.clientDisconnect h)) rfl rfl
    (fun _ => rfl) d
  simp only [ClientRequest.run] at e
  unfold SensorDevice.clientDisconnect
  simp only
  generalize SensorDevice.applyUpdatedProperties c
    { d with clientManager := (d.clientManager.disconnect h).2 } = a at e ⊢
  split at e <;> rename_i h₁ <;> simp only [h₁, if_true, Bool.false_eq_true, if_false]
  · by_cases h₂ : a.1.succeeded = true ∧ (d.clientManager.disconnect h).2.getClientCount = 0
    · simp only [h₂, DeviceRequest.afterApply, if_true] at e
      rw [if_pos h₂]
      exact ⟨_, Threads.Runs.trans (step c) e (runs_resumeIdle c (by rfl) (by rfl) a.2), rfl, rfl⟩
    · rw [if_neg h₂]
      refine ⟨_, e, ?_, rfl⟩
      by_cases ha : a.1.succeeded = true <;> simp_all [init, DeviceRequest.afterApply]
  · exact ⟨_, e, rfl, rfl⟩

theorem serves_setProperties (h : IWDFFile) (props : List (PropertyKey × PropValue))
    (d : SensorDevice) :
    Serves c (.setProperties h props) d
      ((d.setProperties c h props).1, (d.setProperties c h props).2.2) :=
  ⟨_, Threads.Runs.next (step c) (Threads.Runs.trans (step c)
      (runs_setPropertiesLoop c h props (t := { init (.setProperties h props) with
        pc := .setProperty h props }) rfl d [])
      (runs_applyUpdatedProperties c rfl rfl _)),
    by simp only [init, DeviceRequest.afterApply, ite_self], rfl⟩

theorem serves_stop (d : SensorDevice) : Serves c .stop d (d.stop c) := by
  unfold SensorDevice.stop
  by_cases h₁ : (d.setState .noData).1.succeeded = true
  · have e : Threads.Runs (step c) (init .stop, d) ({ init .stop with
        pc := .setDeviceState .off false
        hr := (d.setState .noData).1 }, (d.setState .noData).2) :=
      .single (by simp only [step, init, requestStep, h₁, if_true])
    rw [if_pos h₁]
    exact ⟨_, Threads.Runs.trans (step c) e (runs_setDataUpdateMode c rfl _),
      by simp only [init, DeviceRequest.afterDataUpdateMode, Bool.false_eq_true, if_false, ite_self],
      rfl⟩
  · rw [if_neg h₁]
    exact ⟨{ init .stop with pc := .done, hr := (d.setState .noData).1 },
      .single (by simp only [step, init, requestStep, h₁, Bool.false_eq_true, if_false]), rfl,
      rfl⟩

/-- **A request running alone does what its handler does**: it returns the handler's status
and leaves the handler's state. -/
theorem serves_handle (r : DeviceRequest) (d : SensorDevice) : Serves c r d (r.handle c d) := by
  cases r with
  | clientConnect h => exact serves_clientConnect c h d
  | clientDisconnect h => exact serves_clientDisconnect c h d
  | clientSubscribeToEvents h =>
    exact serves_request c (.clientSubscribeToEvents h) (.subscribe h) (fun _ => rfl) (fun _ => rfl)
      (fun t ht => by simp only [status, ht]) d
  | clientUnsubscribeFromEvents h =>
    exact serves_request c (.clientUnsubscribeFromEvents h) (.unsubscribe h) (fun _ => rfl) (fun _ => rfl)
      (fun t ht => by simp only [status, ht]) d
  | setProperties h props => exact serves_setProperties c h props d
  | stop => exact serves_stop c d

end RequestThread

/-- The statuses and the state of requests handled one at a time. -/
def handleAll (c : Adxl345) : List DeviceRequest → SensorDevice → List HRESULT × SensorDevice
  | [], d => ([], d)
  | r :: rs, d =>
    let x := r.handle c d
    let y := handleAll c rs x.2
    (x.1 :: y.1, y.2)

theorem handleAll_snd (rs : List DeviceRequest) (d : SensorDevice) :
    (handleAll c rs d).2 = runDevice c rs d := by
  induction rs generalizing d with
  | nil => rfl
  | cons r rs ih => exact ih _

/-- The sensor object and the requests in flight. -/
abbrev Driver := Threads SensorDevice RequestThread

namespace Driver

/-- The requests `rs` issued at once on `d`. -/
def issue (d : SensorDevice) (rs : List DeviceRequest) : Driver :=
  ⟨d, rs.map RequestThread.init⟩

/-- Every request has returned. -/
def Returned (s : Driver) : Prop := ∀ t ∈ s.threads, t.pc = .done

instance (s : Driver) : Decidable s.Returned :=
  inferInstanceAs (Decidable (∀ t ∈ s.threads, t.pc = .done))

/-- **Whatever the interleaving, the client manager goes through a sequence of its own
requests**, as if they had been made one at a time. -/
theorem clientManager_run (s : Driver) (schedule : List Nat) :
    ∃ rs, (s.run (RequestThread.step c) schedule).shared.clientManager =
      runRequests rs s.shared.clientManager := by
  refine Threads.run_induction (RequestThread.step c)
    (fun s' => ∃ rs, s'.shared.clientManager = runRequests rs s.shared.clientManager) ?_
    ⟨[], rfl⟩ schedule
  refine fun s' i => Threads.stepThread_induction (RequestThread.step c)
    (fun s' => ∃ rs, s'.shared.clientManager = runRequests rs s.shared.clientManager) ?_ s' i
  rintro s' _ t _ ⟨rs, hrs⟩
  obtain ⟨rs', h'⟩ := RequestThread.step_clientManager c t s'.shared
  exact ⟨rs ++ rs', by rw [runRequests_append, ← hrs]; exact h'⟩

theorem arbitrated_run {s : Driver} (h : s.shared.clientManager.Arbitrated) (schedule : List Nat) :
    (s.run (RequestThread.step c) schedule).shared.clientManager.Arbitrated := by
  obtain ⟨rs, hrs⟩ := clientManager_run c s schedule
  exact hrs ▸ h.runRequests rs

theorem reachable_run {di mi : UInt32} {D : PortableDeviceValues} {s : Driver}
    (h : ClientManager.Reachable di mi D s.shared.clientManager) (schedule : List Nat) :
    ClientManager.Reachable di mi D (s.run (RequestThread.step c) schedule).shared.clientManager := by
  obtain ⟨rs, hrs⟩ := clientManager_run c s schedule
  exact hrs ▸ h.runRequests rs

/-! ### Serial schedules -/

/-- Requests that follow each other, each thread run to its end before the next starts:
what the handlers do one at a time. -/
theorem run_serial (rs : List DeviceRequest) (pre : List RequestThread) (d : SensorDevice) :
    ∃ ns ts, (⟨d, pre ++ rs.map RequestThread.init⟩ : Driver).run (RequestThread.step c)
        (serial ns pre.length) = ⟨(handleAll c rs d).2, pre ++ ts⟩ ∧
      ts.map RequestThread.status = (handleAll c rs d).1 ∧ ∀ t ∈ ts, t.pc = .done := by
  induction rs generalizing pre d with
  | nil => exact ⟨[], [], rfl, rfl, by simp⟩
  | cons r rs ih =>
    obtain ⟨t, hrun, hpc, hst⟩ := RequestThread.serves_handle c r d
    obtain ⟨n, hn⟩ := Threads.run_replicate_of_runs _ (i := pre.length) hrun
      ⟨d, pre ++ (r :: rs).map RequestThread.init⟩
      rfl (by rw [List.getElem?_append_right (le_refl _), Nat.sub_self]; simp)
    obtain ⟨ns, ts, hns, hts, hdone⟩ := ih (pre ++ [t]) (r.handle c d).2
    refine ⟨n :: ns, t :: ts, ?_, by simp [handleAll, hst, hts], ?_⟩
    · rw [serial, Threads.run_append, hn]
      simpa [List.set_append_right] using hns
    · simpa [hpc] using hdone

/-- **Requests run one after the other do what the handlers do one at a time**: every
request returns, with the status of its handler, and the sensor object is left as
`runDevice` leaves it. -/
theorem serial_handleAll (rs : List DeviceRequest) (d : SensorDevice) :
    ∃ ns, Returned (issue d rs |>.run (RequestThread.step c) (serial ns 0)) ∧
      (issue d rs |>.run (RequestThread.step c) (serial ns 0)).threads.map RequestThread.status =
        (handleAll c rs d).1 ∧
      (issue d rs |>.run (RequestThread.step c) (serial ns 0)).shared = runDevice c rs d := by
  obtain ⟨ns, ts, hrun, hst, hdone⟩ := run_serial c rs [] d
  simp only [List.nil_append, List.length_nil] at hrun
  refine ⟨ns, ?_, ?_, ?_⟩ <;> simp only [issue, hrun]
  exacts [hdone, hst, handleAll_snd c rs d]

end Driver

/-! ## A lost update of the mode -/

/-- Two clients connected and the second subscribed; the second unsubscribes while the first
subscribes.  The unsubscribe reads the mode the client manager asks for (`Polling`); the
whole subscribe then runs, reads `Eventing`, finds it equal to `m_DataUpdateMode` and
returns; the unsubscribe then sets `Polling`.  Both return `S_OK`, every transfer
succeeded, and the device polls with interrupts off while a client is subscribed; the same
two requests one after the other leave the device eventing. -/
theorem mode_after_interleaved_subscribe :
    (let d := runDevice Adxl345.dataSheet
        [.clientConnect 1, .clientConnect 2, .clientSubscribeToEvents 2]
        (SensorDevice.start Adxl345.dataSheet (SensorDevice.initialDevice Adxl345.dataSheet 10)).2
      let s := (Driver.issue d [.clientUnsubscribeFromEvents 2, .clientSubscribeToEvents 1]).run
        (RequestThread.step Adxl345.dataSheet)
        (List.replicate 7 0 ++ List.replicate 7 1 ++ List.replicate 2 0)
      Driver.Returned s ∧ s.shared.bus.faults = [] ∧ s.threads.map RequestThread.status = [.sOk, .sOk] ∧
        s.shared.dataUpdateMode = .polling ∧ s.shared.clientManager.getDataUpdateMode = .eventing ∧
        s.shared.interruptsEnabled = 0 ∧
        (runDevice Adxl345.dataSheet [.clientUnsubscribeFromEvents 2, .clientSubscribeToEvents 1]
          d).dataUpdateMode = .eventing) := by
  with_unfolding_all decide

end SpbAccelerometer
