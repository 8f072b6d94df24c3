import SpbAccelerometer.Hardware
import SpbAccelerometer.Contract

/-!
# Failures of the transfers

Here every transfer and `StopIdle` may fail, as `Bus.faults` says.  A request that fails
leaves `m_DataUpdateMode` as it was, except for `ClientConnect` and `ClientDisconnect`: once
their `ApplyUpdatedProperties` has set the mode the client manager asks for, a failure of
`StopIdle`, of `SetDataUpdateMode` or of the first `PollForData` is returned with that mode
in place.  A request that returns `S_OK` made every access succeed, except the first two of
`SetDeviceStateStandby`, whose failures the status of the unchecked `POWER_CTL` write
replaces (`mode_and_accesses_of_status`, from one `Outcome` per request).  So a failed
`ClientConnect` can have moved the mode, and a `ClientDisconnect` that returns `S_OK` can
have lost its `INT_ENABLE` write (`failures_hidden_by_status`).
-/

namespace SpbAccelerometer

/-- The accesses of a request that returned `S_OK`: each succeeded, or is one of the two
accesses of `SetDeviceStateStandby` before its `POWER_CTL` write. -/
def LogOk (accesses : List (AccessSite × Bool)) : Prop :=
  ∀ e ∈ accesses, e.2 = true ∨ e.1 = .standbyIntEnable ∨ e.1 = .standbyIntSource

/-- The log grew from `l` to `l'`, by accesses that are all fine when `P` holds. -/
def Logged (l l' : List (AccessSite × Bool)) (P : Prop) : Prop :=
  ∃ accesses, l' = l ++ accesses ∧ (P → LogOk accesses)

namespace Logged

variable {l l₁ l₂ : List (AccessSite × Bool)} {P Q : Prop}

theorem refl (l : List (AccessSite × Bool)) (P : Prop) : Logged l l P :=
  ⟨[], by simp, fun _ _ h => absurd h (List.not_mem_nil _)⟩

/-- One access, fine exactly when it succeeded. -/
theorem single (l : List (AccessSite × Bool)) (site : AccessSite) (ok : Bool) :
    Logged l (l ++ [(site, ok)]) (ok = true) :=
  ⟨_, rfl, fun h e he => by simp only [List.mem_singleton] at he; exact .inl (he ▸ h)⟩

/-- One of the accesses whose failure `SetDeviceStateStandby` does not report. -/
theorem standby (l : List (AccessSite × Bool)) {site : AccessSite}
    (hsite : site = .standbyIntEnable ∨ site = .standbyIntSource) (ok : Bool) :
    Logged l (l ++ [(site, ok)]) P :=
  ⟨_, rfl, fun _ e he => by simp only [List.mem_singleton] at he; exact .inr (he ▸ hsite)⟩

theorem weaken (h : Logged l l₁ P) (hPQ : Q → P) : Logged l l₁ Q :=
  let ⟨a, ha, hP⟩ := h; ⟨a, ha, hP ∘ hPQ⟩

theorem trans (h₁ : Logged l l₁ P) (h₂ : Logged l₁ l₂ Q) (hQP : Q → P) : Logged l l₂ Q := by
  obtain ⟨a, rfl, ha⟩ := h₁
  obtain ⟨b, rfl, hb⟩ := h₂
  refine ⟨a ++ b, List.append_assoc _ _ _, fun hQ e he => ?_⟩
  rcases List.mem_append.1 he with he | he
  exacts [ha (hQP hQ) e he, hb hQ e he]

end Logged

theorem Bus.logged_writeRegister (b : Bus) (site : AccessSite) (reg : UInt8)
    (buffer : Option (List UInt8)) :
    Logged b.log (b.writeRegister site reg buffer).2.log
      ((b.writeRegister site reg buffer).1.succeeded = true) := by
  cases buffer with
  | none => exact Logged.refl _ _
  | some bytes => rw [Bus.writeRegister_log]; exact Logged.single _ _ _

theorem Bus.logged_readRegister (b : Bus) (site : AccessSite) (reg : UInt8) (n : Nat) :
    Logged b.log (b.readRegister site reg n).2.2.log
      ((b.readRegister site reg n).1.succeeded = true) := by
  rw [Bus.readRegister_log]; exact Logged.single _ _ _

theorem Bus.logged_reprogram (c : Adxl345) (b : Bus) (sites : AccessSite × AccessSite × AccessSite)
    (reg val : UInt8) :
    Logged b.log (b.reprogram c sites reg val).2.log ((b.reprogram c sites reg val).1.succeeded = true) := by
  simp only [Bus.reprogram]
  split_ifs with h₁ h₂
  · exact ((Bus.logged_writeRegister ..).trans (Bus.logged_writeRegister ..) fun _ => h₁).trans
      (Bus.logged_writeRegister ..) fun _ => h₂
  · exact (Bus.logged_writeRegister ..).trans (Bus.logged_writeRegister ..) fun _ => h₁
  · exact Bus.logged_writeRegister ..

/-! ## What each step does to the client manager, the idle references and the log -/

/-- A step of the sensor object leaves the client manager alone and only adds to the log,
accesses that are fine when the step succeeds. -/
structure Effect (d : SensorDevice) (r : HRESULT × SensorDevice) : Prop where
  clientManager : r.2.clientManager = d.clientManager
  log : Logged d.bus.log r.2.bus.log (r.1.succeeded = true)

namespace Effect

variable {d : SensorDevice} {r : HRESULT × SensorDevice}

theorem refl (d : SensorDevice) (hr : HRESULT) : Effect d (hr, d) :=
  ⟨rfl, Logged.refl _ _⟩

/-- A step that runs only when the one before succeeded. -/
theorem bind (h₁ : Effect d r) {r' : HRESULT × SensorDevice} (h₂ : Effect r.2 r')
    (hok : r.1.succeeded = true) : Effect d r' :=
  ⟨h₂.1.trans h₁.1, h₁.2.trans h₂.2 fun _ => hok⟩

/-- A failure returned with the state the step left. -/
theorem fail (h : Effect d r) {hr : HRESULT} (hhr : hr.succeeded = true → r.1.succeeded = true) :
    Effect d (hr, r.2) :=
  ⟨h.1, h.2.weaken hhr⟩

/-- A step from a state that differs from `d'` in none of what an effect looks at. -/
theorem of_eq {d d' : SensorDevice} (h : Effect d' r) (hcm : d'.clientManager = d.clientManager)
    (hlog : d'.bus.log = d.bus.log) : Effect d r :=
  ⟨h.1.trans hcm, hlog ▸ h.2⟩

end Effect

namespace SensorDevice

variable (c : Adxl345) (d : SensorDevice)

theorem effect_setDeviceStateStandby : Effect d (setDeviceStateStandby c d) := by
  refine ⟨rfl, Logged.trans ?_ (Bus.logged_writeRegister ..) id⟩
  split
  · rw [Bus.readRegister_log, Bus.writeRegister_log]
    exact (Logged.standby _ (.inl rfl) _).trans (Logged.standby _ (.inr rfl) _) id
  · rw [Bus.writeRegister_log]; exact Logged.standby _ (.inl rfl) _

theorem effect_setDeviceStatePolling : Effect d (setDeviceStatePolling c d) := by
  simp only [setDeviceStatePolling]
  split_ifs with h
  · exact ⟨rfl, (Bus.logged_writeRegister ..).trans (Bus.logged_writeRegister ..) fun _ => h⟩
  · exact ⟨rfl, Bus.logged_writeRegister ..⟩

theorem effect_setDeviceStateEventing : Effect d (setDeviceStateEventing c d) := by
  simp only [setDeviceStateEventing]
  split
  rename_i h
  · exact ⟨rfl, (Bus.logged_writeRegister ..).trans (Bus.logged_writeRegister ..) fun _ => h⟩
  · exact ⟨rfl, Bus.logged_writeRegister ..⟩

theorem effect_setReportInterval (interval : UInt32) : Effect d (setReportInterval c d interval) := by
  simp only [setReportInterval]
  split_ifs
  exacts [⟨rfl, Bus.logged_reprogram ..⟩, Effect.refl _ _]

theorem effect_setChangeSensitivity (var : PropValue) : Effect d (setChangeSensitivity c d var) := by
  simp only [setChangeSensitivity]
  split_ifs
  · split
    exacts [⟨rfl, Bus.logged_reprogram ..⟩, Effect.refl _ _]
  · exact Effect.refl _ _

theorem effect_setDataUpdateMode (mode : DataUpdateMode) : Effect d (setDataUpdateMode c d mode) := by
  have h : Effect d (match mode with
      | .off => setDeviceStateStandby c d
      | .polling => setDeviceStatePolling c d
      | .eventing => setDeviceStateEventing c d) := by
    cases mode
    exacts [effect_setDeviceStateStandby c d, effect_setDeviceStatePolling c d,
      effect_setDeviceStateEventing c d]
  simp only [setDataUpdateMode]
  split_ifs
  exacts [⟨h.1, h.2⟩, h]

theorem mode_setDataUpdateMode (mode : DataUpdateMode) :
    (setDataUpdateMode c d mode).2.dataUpdateMode =
      if (setDataUpdateMode c d mode).1.succeeded then mode else d.dataUpdateMode := by
  simp only [setDataUpdateMode]
  split_ifs with h
  · rfl
  · cases mode <;> simp only [setDeviceStateStandby, setDeviceStatePolling, setDeviceStateEventing] <;>
      split <;> rfl

theorem effect_applyDataUpdateMode : Effect d (applyDataUpdateMode c d) := by
  simp only [applyDataUpdateMode]
  split_ifs
  exacts [effect_setDataUpdateMode c d _, Effect.refl _ _]

/-- `ApplyUpdatedProperties` sets the mode the client manager asks for when it succeeds, and
leaves the mode alone when it fails. -/
theorem mode_applyDataUpdateMode :
    (applyDataUpdateMode c d).2.dataUpdateMode =
      if (applyDataUpdateMode c d).1.succeeded then d.clientManager.getDataUpdateMode
      else d.dataUpdateMode := by
  by_cases hne : d.clientManager.getDataUpdateMode = d.dataUpdateMode
  · simp [applyDataUpdateMode, hne]
  · simp only [applyDataUpdateMode, if_pos hne]
    exact mode_setDataUpdateMode c d _

theorem mode_setReportInterval (interval : UInt32) :
    (setReportInterval c d interval).2.dataUpdateMode = d.dataUpdateMode := by
  simp only [setReportInterval]; split_ifs <;> rfl

theorem mode_setChangeSensitivity (var : PropValue) :
    (setChangeSensitivity c d var).2.dataUpdateMode = d.dataUpdateMode := by
  simp only [setChangeSensitivity]; split_ifs <;> (try split) <;> rfl

theorem effect_applyUpdatedProperties : Effect d (applyUpdatedProperties c d) := by
  have e₁ := effect_setReportInterval c d
    (d.clientManager.getArbitratedProperty .sensorPropertyCurrentReportInterval).2.ulVal
  simp only [applyUpdatedProperties]
  split_ifs with h₁ h₂ h₃ h₄ h₅
  · refine e₁.bind (Effect.bind ?_ (effect_applyDataUpdateMode c _) h₅) h₃
    exact (effect_setChangeSensitivity c _ _).of_eq rfl rfl
  · refine e₁.bind ?_ h₃
    exact (effect_setChangeSensitivity c _ _).of_eq rfl rfl
  · refine e₁.bind ?_ h₃
    exact (Effect.refl _ _).of_eq rfl rfl
  · exact e₁
  · exact Effect.refl _ _
  · exact Effect.refl _ _

theorem mode_applyUpdatedProperties :
    (applyUpdatedProperties c d).2.dataUpdateMode =
      if (applyUpdatedProperties c d).1.succeeded then d.clientManager.getDataUpdateMode
      else d.dataUpdateMode := by
  have hcm₁ := fun i => (effect_setReportInterval c d i).clientManager
  have hcm₂ := fun d' var => (effect_setChangeSensitivity c d' var).clientManager
  generalize hr : applyUpdatedProperties c d = r
  simp only [applyUpdatedProperties] at hr
  split_ifs at hr <;> subst hr <;> simp_all [mode_applyDataUpdateMode, mode_setChangeSensitivity,
    mode_setReportInterval, HRESULT.succeeded]

theorem effect_requestNewData :
    Effect d ((requestNewData c d).1, (requestNewData c d).2.2) := by
  simp only [requestNewData, requestData]
  split_ifs with h₁ h₂
  · exact ⟨rfl, (Bus.logged_readRegister ..).weaken fun _ => h₂⟩
  · exact ⟨rfl, Bus.logged_readRegister ..⟩
  · exact Effect.refl _ _

theorem effect_setState (newState : SensorState) : Effect d (setState d newState) := by
  have h := sameConfig_setState d newState
  refine ⟨h.clientManager, ?_⟩
  simp only [setState, getProperty_state]
  split_ifs <;> exact Logged.refl _ _

theorem effect_pollForData : Effect d (pollForData c d) := by
  have e := effect_requestNewData c d
  simp only [pollForData]
  split_ifs with h
  · refine e.bind ?_ h
    exact (effect_setState _ _).of_eq rfl rfl
  · exact e

theorem effect_setTestProperty (key : PropertyKey) (var : PropValue) :
    Effect d (setTestProperty d key var) := by
  simp only [setTestProperty]
  split_ifs
  all_goals first | exact ⟨rfl, Logged.refl _ _⟩ | exact ⟨rfl, Bus.logged_writeRegister ..⟩

theorem mode_setTestProperty (key : PropertyKey) (var : PropValue) :
    (setTestProperty d key var).2.dataUpdateMode = d.dataUpdateMode := by
  simp only [setTestProperty]; split_ifs <;> rfl

/-- The loop of `SetProperties` passes some requests to the client manager, keeps the mode, and
when `fError` stays clear made only accesses that succeeded. -/
theorem setPropertiesLoop_effect (h : IWDFFile) (props : List (PropertyKey × PropValue))
    (d : SensorDevice) (results : List (PropertyKey × PropValue)) (fError : Bool) :
    let l := setPropertiesLoop h props d results fError
    (∃ rs, l.2.2.clientManager = runRequests rs d.clientManager) ∧
      l.2.2.dataUpdateMode = d.dataUpdateMode ∧
      Logged d.bus.log l.2.2.bus.log (l.2.1 = false) ∧ (fError = true → l.2.1 = true) := by
  induction props generalizing d results fError with
  | nil => exact ⟨⟨[], rfl⟩, rfl, Logged.refl _ _, id⟩
  | cons kv rest ih =>
    obtain ⟨key, var⟩ := kv
    -- one pair: its status, its state, and what the state shares with `d`
    obtain ⟨hr, d₁, hcm, hmode, hlog, heq⟩ : ∃ (hr : HRESULT) (d₁ : SensorDevice),
        (∃ rs, d₁.clientManager = runRequests rs d.clientManager) ∧
          d₁.dataUpdateMode = d.dataUpdateMode ∧
          Logged d.bus.log d₁.bus.log (hr.succeeded = true) ∧
          setPropertiesLoop h ((key, var) :: rest) d results fError =
            if hr.succeeded then
              setPropertiesLoop h rest d₁ (setValue results key (if isTestProperty key then .var .empty
                else (d.clientManager.setDesiredProperty h key var).2.1)) (fError || hr != .sOk)
            else setPropertiesLoop h rest d₁ (setValue results key (.var (.error hr))) true := by
      by_cases hkey : isTestProperty key
      · have e := effect_setTestProperty d key var
        exact ⟨_, _, ⟨[], e.1⟩, mode_setTestProperty d key var, e.2,
          by simp only [setPropertiesLoop, hkey, if_true]⟩
      · exact ⟨(d.clientManager.setDesiredProperty h key var).1,
          { d with clientManager := (d.clientManager.setDesiredProperty h key var).2.2 },
          ⟨[.setDesiredProperty h key var], rfl⟩, rfl, Logged.refl _ _,
          by simp only [setPropertiesLoop, hkey, Bool.false_eq_true, if_false]⟩
    obtain ⟨rs, hrs⟩ := hcm
    rw [heq]
    split
    · obtain ⟨⟨rs', hrs'⟩, hmode', hlog', hmono⟩ := ih d₁ (setValue results key _)
        (fError || hr != .sOk)
      exact ⟨⟨rs ++ rs', by rw [hrs', hrs]; simp [runRequests, List.foldl_append]⟩,
        hmode'.trans hmode, hlog.trans hlog' fun _ => ‹_›,
        fun hfe => hmono (by simp [hfe])⟩
    · obtain ⟨⟨rs', hrs'⟩, hmode', hlog', hmono⟩ := ih d₁ (setValue results key _) true
      exact ⟨⟨rs ++ rs', by rw [hrs', hrs]; simp [runRequests, List.foldl_append]⟩,
        hmode'.trans hmode,
        hlog.trans hlog' fun hf => absurd (hmono rfl) (by simp [hf]), fun _ => hmono rfl⟩

/-- `StopIdle`, which may fail, with the idle references it leaves. -/
theorem effect_stopIdle (n : Int) :
    Effect d (d.bus.call.1, { d with bus := d.bus.call.2, idleReferences := n }) :=
  ⟨rfl, show Logged _ d.bus.call.2.log _ by rw [Bus.call_log]; exact Logged.refl _ _⟩

end SensorDevice

/-! ## The requests -/

/-- `ClientConnect` and `ClientDisconnect`, the requests that apply the settings and then
change the idle state. -/
def DeviceRequest.ChangesClients : DeviceRequest → Prop
  | .clientConnect _ | .clientDisconnect _ => True
  | _ => False

/-- What a request did, failures of the transfers included: it passed some requests to the
client manager; if it returned `S_OK`, its accesses were fine; if it failed, it left the mode
as it was, or it is a `ClientConnect` or `ClientDisconnect` that left the mode the client
manager asks for. -/
structure Outcome (r : DeviceRequest) (d : SensorDevice) (res : HRESULT × SensorDevice) : Prop where
  clientManager : ∃ rs, res.2.clientManager = runRequests rs d.clientManager
  logged : Logged d.bus.log res.2.bus.log (res.1 = .sOk)
  mode : res.1.succeeded = false → res.2.dataUpdateMode = d.dataUpdateMode ∨
    r.ChangesClients ∧ res.2.dataUpdateMode = res.2.clientManager.getDataUpdateMode

theorem HRESULT.succeeded_of_eq_sOk {hr : HRESULT} (h : hr = .sOk) : hr.succeeded = true := by
  rw [h]; rfl

namespace SensorDevice

variable (c : Adxl345) (d : SensorDevice)

/-- A request that only calls the client manager and then applies the settings. -/
theorem outcome_request (r : DeviceRequest) (req : ClientRequest) :
    Outcome r d (if (req.run d.clientManager).1.succeeded then
      applyUpdatedProperties c { d with clientManager := (req.run d.clientManager).2 }
      else ((req.run d.clientManager).1, { d with clientManager := (req.run d.clientManager).2 })) := by
  have ea := effect_applyUpdatedProperties c { d with clientManager := (req.run d.clientManager).2 }
  have ma := mode_applyUpdatedProperties c { d with clientManager := (req.run d.clientManager).2 }
  split_ifs with hok
  · refine ⟨⟨[req], ea.1⟩, ea.2.weaken HRESULT.succeeded_of_eq_sOk, fun hf => .inl ?_⟩
    rw [ma, hf, if_neg Bool.false_ne_true]
  · exact ⟨⟨[req], rfl⟩, Logged.refl _ _, fun _ => .inl rfl⟩

theorem outcome_clientSubscribeToEvents (h : IWDFFile) :
    Outcome (.clientSubscribeToEvents h) d (clientSubscribeToEvents c d h) :=
  outcome_request c d _ (.subscribe h)

theorem outcome_clientUnsubscribeFromEvents (h : IWDFFile) :
    Outcome (.clientUnsubscribeFromEvents h) d (clientUnsubscribeFromEvents c d h) :=
  outcome_request c d _ (.unsubscribe h)

theorem outcome_clientConnect {di mi : UInt32} {D : PortableDeviceValues}
    (hreal : ∀ kv ∈ D, kv.2.IsReal) (hs : ClientManager.Reachable di mi D d.clientManager)
    (h : IWDFFile) : Outcome (.clientConnect h) d (clientConnect c d h) := by
  have ea := effect_applyUpdatedProperties c { d with clientManager := (d.clientManager.connect h).2 }
  have ma := mode_applyUpdatedProperties c { d with clientManager := (d.clientManager.connect h).2 }
  simp only [clientConnect]
  generalize applyUpdatedProperties c { d with clientManager := (d.clientManager.connect h).2 } = a
    at ea ma ⊢
  split_ifs with hok hone hcall hm
  · -- the first `PollForData` failed after the mode was set to `Polling`
    have eff := ((ea.bind (effect_stopIdle a.2 (a.2.idleReferences + 1)) hone.1).bind
      (effect_setDataUpdateMode c _ .polling) hcall).bind (effect_pollForData c _) hm
    refine ⟨⟨[.connect h], eff.1⟩, eff.2.weaken HRESULT.succeeded_of_eq_sOk,
      fun _ => .inr ⟨trivial, ?_⟩⟩
    rw [eff.1, (sameConfig_pollForData c _).dataUpdateMode, mode_setDataUpdateMode, if_pos hm]
    exact (getDataUpdateMode_first_connect hreal hs hok hone.2).symm
  · -- `SetDataUpdateMode(Polling)` failed
    have eff := (ea.bind (effect_stopIdle a.2 (a.2.idleReferences + 1)) hone.1).bind
      (effect_setDataUpdateMode c _ .polling) hcall
    refine ⟨⟨[.connect h], eff.1⟩, eff.2.weaken HRESULT.succeeded_of_eq_sOk,
      fun _ => .inr ⟨trivial, ?_⟩⟩
    rw [eff.1, mode_setDataUpdateMode, if_neg hm, ma, if_pos hone.1]
  · -- `StopIdle` failed
    refine ⟨⟨[.connect h], ea.1⟩, (ea.bind (effect_stopIdle a.2 _) hone.1).2.weaken
      HRESULT.succeeded_of_eq_sOk, fun _ => .inr ⟨trivial, ?_⟩⟩
    rw [ea.1, ma, if_pos hone.1]
  · refine ⟨⟨[.connect h], ea.1⟩, ea.2.weaken HRESULT.succeeded_of_eq_sOk, fun hf => .inl ?_⟩
    rw [ma, hf, if_neg Bool.false_ne_true]
  · exact ⟨⟨[.connect h], rfl⟩, Logged.refl _ _, fun _ => .inl rfl⟩

theorem outcome_clientDisconnect (h : IWDFFile) :
    Outcome (.clientDisconnect h) d (clientDisconnect c d h) := by
  have ea := effect_applyUpdatedProperties c { d with clientManager := (d.clientManager.disconnect h).2 }
  have ma := mode_applyUpdatedProperties c { d with clientManager := (d.clientManager.disconnect h).2 }
  simp only [clientDisconnect]
  generalize applyUpdatedProperties c { d with clientManager := (d.clientManager.disconnect h).2 } = a
    at ea ma ⊢
  split_ifs with hok hzero
  · -- the last client: `SetDataUpdateMode(Off)` once more
    have eff : Effect { d with clientManager := (d.clientManager.disconnect h).2 }
        (setDataUpdateMode c { a.2 with idleReferences := a.2.idleReferences - 1 } .off) := by
      refine ea.bind ?_ hzero.1
      exact (effect_setDataUpdateMode c _ _).of_eq rfl rfl
    refine ⟨⟨[.disconnect h], eff.1⟩, eff.2.weaken HRESULT.succeeded_of_eq_sOk,
      fun hf => .inr ⟨trivial, ?_⟩⟩
    rw [eff.1, mode_setDataUpdateMode, hf, if_neg Bool.false_ne_true]
    exact ma.trans (if_pos hzero.1)
  · refine ⟨⟨[.disconnect h], ea.1⟩, ea.2.weaken HRESULT.succeeded_of_eq_sOk, fun hf => .inl ?_⟩
    rw [ma, hf, if_neg Bool.false_ne_true]
  · exact ⟨⟨[.disconnect h], rfl⟩, Logged.refl _ _, fun _ => .inl rfl⟩

/-- The status of `SetProperties`: `S_OK` only when the application succeeded and no pair
failed, a failure only when the application failed. -/
theorem status_setProperties (hr : HRESULT) (fError : Bool) :
    ((if hr.succeeded = true ∧ fError = true then HRESULT.sFalse else hr) = .sOk →
      hr.succeeded = true ∧ fError = false) ∧
    ((if hr.succeeded = true ∧ fError = true then HRESULT.sFalse else hr).succeeded = false →
      hr.succeeded = false) := by
  by_cases h : hr.succeeded = true <;> cases fError <;> simp_all
  all_goals rintro rfl; exact absurd h (by decide)

theorem outcome_setProperties (h : IWDFFile) (props : List (PropertyKey × PropValue)) :
    Outcome (.setProperties h props) d
      ((setProperties c d h props).1, (setProperties c d h props).2.2) := by
  obtain ⟨⟨rs, hrs⟩, hmode, hlog, -⟩ := setPropertiesLoop_effect h props d [] false
  have ea := effect_applyUpdatedProperties c (setPropertiesLoop h props d [] false).2.2
  have ma := mode_applyUpdatedProperties c (setPropertiesLoop h props d [] false).2.2
  simp only [setProperties]
  generalize setPropertiesLoop h props d [] false = l at hrs hmode hlog ea ma ⊢
  generalize applyUpdatedProperties c l.2.2 = a at ea ma ⊢
  obtain ⟨hok, hfail⟩ := status_setProperties a.1 l.2.1
  refine ⟨⟨rs, ea.1.trans hrs⟩, hlog.trans (ea.2.weaken fun h => (hok h).1) fun h => (hok h).2,
    fun hf => .inl ?_⟩
  rw [ma, if_neg (by rw [hfail hf]; decide), hmode]

theorem outcome_stop : Outcome .stop d (stop c d) := by
  have e₁ := effect_setState d .noData
  have hs := sameConfig_setState d .noData
  simp only [stop]
  split_ifs with hok
  · have eff := e₁.bind (effect_setDataUpdateMode c _ .off) hok
    refine ⟨⟨[], eff.1⟩, eff.2.weaken HRESULT.succeeded_of_eq_sOk, fun hf => .inl ?_⟩
    rw [mode_setDataUpdateMode, hf, if_neg Bool.false_ne_true, hs.dataUpdateMode]
  · exact ⟨⟨[], e₁.1⟩, e₁.2.weaken HRESULT.succeeded_of_eq_sOk, fun _ => .inl hs.dataUpdateMode⟩

theorem outcome_handle {di mi : UInt32} {D : PortableDeviceValues} (hreal : ∀ kv ∈ D, kv.2.IsReal)
    (hs : ClientManager.Reachable di mi D d.clientManager) (r : DeviceRequest) :
    Outcome r d (r.handle c d) := by
  cases r with
  | clientConnect h => exact outcome_clientConnect c d hreal hs h
  | clientDisconnect h => exact outcome_clientDisconnect c d h
  | clientSubscribeToEvents h => exact outcome_clientSubscribeToEvents c d h
  | clientUnsubscribeFromEvents h => exact outcome_clientUnsubscribeFromEvents c d h
  | setProperties h props => exact outcome_setProperties c d h props
  | stop => exact outcome_stop c d

theorem clientManager_start : (start c d).2.clientManager = d.clientManager := by
  have hcfg : (configureHardware c d).2.clientManager = d.clientManager := by
    simp only [configureHardware]; split_ifs <;> rfl
  simp only [start]
  split_ifs
  · rw [(effect_pollForData c _).1, (effect_applyUpdatedProperties c _).1, hcfg]
  · rw [(effect_applyUpdatedProperties c _).1, hcfg]
  · exact hcfg
  · rfl

/-- The sensor object with the outcomes of the next transfers set to `faults`. -/
def withFaults (faults : List Bool) : SensorDevice := { d with bus := { d.bus with faults := faults } }

/-- The sensor objects reachable from `Start` on a fresh object, by requests handled one at a
time, each under any pattern of failures. -/
inductive Reachable (c : Adxl345) (mi : UInt32) : SensorDevice → Prop
  | init {d : SensorDevice} : d.Fresh c mi → Reachable c mi (start c d).2
  | step {d : SensorDevice} (r : DeviceRequest) (faults : List Bool) :
      Reachable c mi d → Reachable c mi (r.handle c (d.withFaults faults)).2

theorem defaultChangeSensitivities_real : ∀ kv ∈ defaultChangeSensitivities c, kv.2.IsReal := by
  simp [defaultChangeSensitivities, setValue, PropVariant.IsReal, PropVariant.vt]

/-- The client manager of a reachable sensor object is reachable from its `Initialize`. -/
theorem Reachable.clientManager {mi : UInt32} {d : SensorDevice} (hd : d.Reachable c mi) :
    ClientManager.Reachable c.defaultReportInterval mi (defaultChangeSensitivities c)
      d.clientManager := by
  induction hd with
  | init hf => rw [clientManager_start, hf.clientManager]; exact .init
  | @step d r faults _ ih =>
    obtain ⟨rs, hrs⟩ :=
      (outcome_handle c (d.withFaults faults) (defaultChangeSensitivities_real c) ih r).clientManager
    rw [hrs]
    exact ih.runRequests rs

end SensorDevice

open SensorDevice

/-- **Failed requests and the mode, `S_OK` and the accesses.**  From a reachable state, under
any pattern of failures: a request that fails leaves `m_DataUpdateMode` as it was, or is a
`ClientConnect` or `ClientDisconnect` that leaves the mode the client manager asks for; a
request that returns `S_OK` made only accesses that succeeded, but for the first two of
`SetDeviceStateStandby`. -/
theorem mode_and_accesses_of_status (c : Adxl345) {mi : UInt32} {d : SensorDevice}
    (hd : d.Reachable c mi)
    (r : DeviceRequest) (faults : List Bool) :
    (let res := r.handle c (d.withFaults faults)
    (res.1.succeeded = false → res.2.dataUpdateMode = d.dataUpdateMode ∨
      r.ChangesClients ∧ res.2.dataUpdateMode = res.2.clientManager.getDataUpdateMode) ∧
    (res.1 = .sOk → ∃ accesses, res.2.bus.log = d.bus.log ++ accesses ∧ LogOk accesses)) :=
  let o := outcome_handle c (d.withFaults faults) (defaultChangeSensitivities_real c)
    hd.clientManager r
  ⟨o.mode, fun h => let ⟨a, ha, hok⟩ := o.logged; ⟨a, ha, hok h⟩⟩

/-- The first `ClientConnect` with `StopIdle` failing returns the failure with the mode moved
from `Off` to `Polling`; the last `ClientDisconnect` with the `INT_ENABLE` write of
`SetDeviceStateStandby` failing returns `S_OK`. -/
theorem failures_hidden_by_status :
    (let d := (start Adxl345.dataSheet (initialDevice Adxl345.dataSheet 10)).2
    let res := (DeviceRequest.clientConnect 1).handle Adxl345.dataSheet
      (d.withFaults (List.replicate 8 true ++ [false]))
    res.1 = .ioFailure ∧ d.dataUpdateMode = .off ∧ res.2.dataUpdateMode = .polling) ∧
    (let d := runDevice Adxl345.dataSheet [.clientConnect 1]
      (start Adxl345.dataSheet (initialDevice Adxl345.dataSheet 10)).2
    let res := (DeviceRequest.clientDisconnect 1).handle Adxl345.dataSheet
      (d.withFaults (List.replicate 6 true ++ [false]))
    res.1 = .sOk ∧ (AccessSite.standbyIntEnable, false) ∈ res.2.bus.log) := by
  with_unfolding_all decide

/-! ## Idle references -/

/-- The first `ClientConnect` with its first register write failing registers the client but
skips `StopIdle`; the `ClientDisconnect` of that client still calls `ResumeIdle`. -/
theorem idleReferences_after_failed_connect :
    (let d₀ := (start Adxl345.dataSheet (initialDevice Adxl345.dataSheet 10)).2
    let d₁ := ((DeviceRequest.clientConnect 1).handle Adxl345.dataSheet (d₀.withFaults [false])).2
    let d₂ := ((DeviceRequest.clientDisconnect 1).handle Adxl345.dataSheet (d₁.withFaults [])).2
    d₁.clientManager.getClientCount = 1 ∧ d₁.idleReferences = 0 ∧
      d₂.clientManager.getClientCount = 0 ∧ d₂.idleReferences = -1) := by
  with_unfolding_all decide

end SpbAccelerometer
