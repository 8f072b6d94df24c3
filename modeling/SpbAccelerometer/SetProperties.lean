import SpbAccelerometer.Faults

/-!
# `SetProperties` on a batch of pairs

`SetProperties(appId, pProperties, ppResults)` hands each pair to `SetTestProperty` or to
`SetDesiredProperty` of the client manager, and `SetDesiredChangeSensitivity` checks each
field of a change-sensitivity collection against the arbitrated minima.  In a reachable state
the minima have the keys and the types of the defaults (`Arbitrated.vt_minimum`), so a field
is checked against the defaults, and nothing an earlier pair did changes how a later one is
checked.  With every transfer succeeding, the call for a connected client

* answers each pair as `pairOutcome` says, a later pair of a key replacing the entry of an
  earlier one (`batchResults`): the value of an accepted pair, the per-field results of a
  change-sensitivity collection, an error for a rejected pair, and `VT_EMPTY` for a test
  property, which is set, but for `SENSOR_PROPERTY_TEST_DATA` with a value that is not a
  byte vector: its `caub.pElems` is null, and `WriteRegister` refuses it with `E_INVALIDARG`;
* returns `S_FALSE` when a pair or a field was rejected and `S_OK` otherwise;
* leaves the client's settings updated by the accepted pairs and fields (`acceptPair`) and
  the other clients as they were;
* recomputes the arbitrated values and programs them into the device

(`setProperties_batch`).  The loop needs an initialised object and a non-null handle: no
handler writes `m_fInitialized` or `m_fSensorInitialized` (`Reachable.flags`), and no client
is registered under the null handle.
-/

namespace SpbAccelerometer

open ClientManager

/-! ## The flags `Initialize` sets -/

namespace SensorDevice

variable (c : Adxl345) (d : SensorDevice)

@[simp] theorem flags_setDataUpdateMode (mode : DataUpdateMode) :
    (setDataUpdateMode c d mode).2.initialized = d.initialized ∧
      (setDataUpdateMode c d mode).2.sensorInitialized = d.sensorInitialized := by
  cases mode <;> simp only [setDataUpdateMode, setDeviceStateStandby, setDeviceStatePolling,
    setDeviceStateEventing] <;> split_ifs <;> exact ⟨rfl, rfl⟩

@[simp] theorem flags_setReportInterval (interval : UInt32) :
    (setReportInterval c d interval).2.initialized = d.initialized ∧
      (setReportInterval c d interval).2.sensorInitialized = d.sensorInitialized := by
  simp only [setReportInterval]; split_ifs <;> exact ⟨rfl, rfl⟩

@[simp] theorem flags_setChangeSensitivity (var : PropValue) :
    (setChangeSensitivity c d var).2.initialized = d.initialized ∧
      (setChangeSensitivity c d var).2.sensorInitialized = d.sensorInitialized := by
  simp only [setChangeSensitivity]; split_ifs <;> (try split) <;> exact ⟨rfl, rfl⟩

@[simp] theorem flags_applyDataUpdateMode :
    (applyDataUpdateMode c d).2.initialized = d.initialized ∧
      (applyDataUpdateMode c d).2.sensorInitialized = d.sensorInitialized := by
  simp only [applyDataUpdateMode]; split_ifs <;> simp

@[simp] theorem flags_applyUpdatedProperties :
    (applyUpdatedProperties c d).2.initialized = d.initialized ∧
      (applyUpdatedProperties c d).2.sensorInitialized = d.sensorInitialized := by
  simp only [applyUpdatedProperties]; split_ifs <;> simp

@[simp] theorem flags_pollForData :
    (pollForData c d).2.initialized = d.initialized ∧
      (pollForData c d).2.sensorInitialized = d.sensorInitialized :=
  ⟨(sameConfig_pollForData c d).initialized, (sameConfig_pollForData c d).sensorInitialized⟩

@[simp] theorem flags_setState (newState : SensorState) :
    (setState d newState).2.initialized = d.initialized ∧
      (setState d newState).2.sensorInitialized = d.sensorInitialized :=
  ⟨(sameConfig_setState d newState).initialized, (sameConfig_setState d newState).sensorInitialized⟩

@[simp] theorem flags_setTestProperty (key : PropertyKey) (var : PropValue) :
    (setTestProperty d key var).2.initialized = d.initialized ∧
      (setTestProperty d key var).2.sensorInitialized = d.sensorInitialized := by
  simp only [setTestProperty]; split_ifs <;> exact ⟨rfl, rfl⟩

@[simp] theorem flags_setPropertiesLoop (h : IWDFFile) (props : List (PropertyKey × PropValue))
    (results : List (PropertyKey × PropValue)) (fError : Bool) :
    (setPropertiesLoop h props d results fError).2.2.initialized = d.initialized ∧
      (setPropertiesLoop h props d results fError).2.2.sensorInitialized = d.sensorInitialized := by
  induction props generalizing d results fError with
  | nil => exact ⟨rfl, rfl⟩
  | cons kv rest ih =>
    obtain ⟨key, var⟩ := kv
    simp only [setPropertiesLoop]
    split_ifs <;> simp [ih]

theorem flags_handle (r : DeviceRequest) :
    (r.handle c d).2.initialized = d.initialized ∧
      (r.handle c d).2.sensorInitialized = d.sensorInitialized := by
  cases r <;> simp only [DeviceRequest.handle, clientConnect, clientDisconnect,
    clientSubscribeToEvents, clientUnsubscribeFromEvents, setProperties, stop] <;>
    (try split_ifs) <;> simp

theorem flags_start :
    (start c d).2.initialized = d.initialized ∧
      (start c d).2.sensorInitialized = d.sensorInitialized := by
  simp only [start, configureHardware]
  split_ifs <;> simp

/-- Every reachable sensor object is initialised: only `Initialize` sets the two flags. -/
theorem Reachable.flags {mi : UInt32} {d : SensorDevice} (hd : d.Reachable c mi) :
    d.initialized = true ∧ d.sensorInitialized = true := by
  induction hd with
  | init hf =>
    obtain ⟨h₁, h₂⟩ := flags_start c _
    exact ⟨h₁.trans hf.initialized, h₂.trans hf.sensorInitialized⟩
  | @step d r faults _ ih =>
    obtain ⟨h₁, h₂⟩ := flags_handle c (d.withFaults faults) r
    exact ⟨h₁.trans ih.1, h₂.trans ih.2⟩

end SensorDevice

/-! ## What a batch does, pair by pair -/

/-- A field of a change-sensitivity collection is accepted when its key has a default, its
value is `VT_NULL` or of the default's type, and it is not negative. -/
def sensitivityAccepted (defaults : PortableDeviceValues) (key : PropertyKey) (var : PropVariant) :
    Bool :=
  match getValue defaults key with
  | some d => decide ((var.vt = d.vt ∨ var.vt = .null) ∧ 0 ≤ var.real)
  | none => false

/-- The entry of a field in the per-field results: its value when it is accepted, otherwise
`ERROR_NOT_FOUND` for a key with no default and `E_INVALIDARG` for the others. -/
def sensitivityResult (defaults : PortableDeviceValues) (key : PropertyKey) (var : PropVariant) :
    PropVariant :=
  if sensitivityAccepted defaults key var then var
  else .error (if (getValue defaults key).isSome then .eInvalidArg else .errorNotFound)

/-- The per-field results of a collection, added to `results` field by field. -/
def addSensitivityResults (defaults values results : PortableDeviceValues) : PortableDeviceValues :=
  values.foldl (fun rs kv => setValue rs kv.1 (sensitivityResult defaults kv.1 kv.2)) results

/-- Desired sensitivities updated by the accepted fields of a collection. -/
def acceptSensitivities (defaults values desired : PortableDeviceValues) : PortableDeviceValues :=
  values.foldl (fun ds kv => if sensitivityAccepted defaults kv.1 kv.2 then setValue ds kv.1 kv.2 else ds)
    desired

@[simp] theorem addSensitivityResults_cons (D : PortableDeviceValues) (kv : PropertyKey × PropVariant)
    (rest results : PortableDeviceValues) :
    addSensitivityResults D (kv :: rest) results =
      addSensitivityResults D rest (setValue results kv.1 (sensitivityResult D kv.1 kv.2)) := rfl

@[simp] theorem acceptSensitivities_cons (D : PortableDeviceValues) (kv : PropertyKey × PropVariant)
    (rest desired : PortableDeviceValues) :
    acceptSensitivities D (kv :: rest) desired = acceptSensitivities D rest
      (if sensitivityAccepted D kv.1 kv.2 then setValue desired kv.1 kv.2 else desired) := rfl

/-- What one pair of a batch gives: its entry in the results, and whether the pair or a field
of it was rejected.  A test property is set and answered `VT_EMPTY`, but for `TEST_DATA` with a
value that is not a byte vector, whose null `caub.pElems` `WriteRegister` refuses with
`E_INVALIDARG`; the change sensitivity takes a collection and is answered with its per-field
results; the report interval takes a `VT_UI4` of `0` or at least the minimum; no other key can
be set. -/
def pairOutcome (defaults : PortableDeviceValues) (minInterval : UInt32) :
    PropertyKey × PropValue → PropValue × Bool
  | (key, var) =>
    if SensorDevice.isTestProperty key then
      if key = .sensorPropertyTestData ∧ var.caubElems = none then (.var (.error .eInvalidArg), true)
      else (.var .empty, false)
    else if key = .sensorPropertyChangeSensitivity then
      match var with
      | .unknown values => (.unknown (addSensitivityResults defaults values []),
          values.any fun kv => !sensitivityAccepted defaults kv.1 kv.2)
      | .var _ => (.var (.error .eInvalidArg), true)
    else if key = .sensorPropertyCurrentReportInterval then
      match var with
      | .var (.ui4 v) =>
        if v = 0 ∨ minInterval ≤ v then (var, false) else (.var (.error .eInvalidArg), true)
      | _ => (.var (.error .eInvalidArg), true)
    else (.var (.error .errorNotFound), true)

example : pairOutcome [] 10 (.sensorPropertyCurrentReportInterval, .var (.ui4 5)) =
    (.var (.error .eInvalidArg), true) := by decide

/-- A client's settings after one pair: updated by the accepted fields of a change-sensitivity
collection, or set to an accepted report interval. -/
def acceptPair (defaults : PortableDeviceValues) (minInterval : UInt32) (e : ClientEntry) :
    PropertyKey × PropValue → ClientEntry
  | (key, var) =>
    if key = .sensorPropertyChangeSensitivity then
      match var with
      | .unknown values => { e with
          desiredSensitivityValues := acceptSensitivities defaults values e.desiredSensitivityValues }
      | .var _ => e
    else if key = .sensorPropertyCurrentReportInterval then
      match var with
      | .var (.ui4 v) => if v = 0 ∨ minInterval ≤ v then { e with desiredReportInterval := v } else e
      | _ => e
    else e

/-- The results of a batch: the entry of each pair, a later pair of a key replacing the entry
of an earlier one. -/
def batchResults (defaults : PortableDeviceValues) (minInterval : UInt32)
    (props : List (PropertyKey × PropValue)) : List (PropertyKey × PropValue) :=
  props.foldl (fun rs kv => setValue rs kv.1 (pairOutcome defaults minInterval kv).1) []

/-- Some pair of the batch, or some field of one, was rejected. -/
def batchRejects (defaults : PortableDeviceValues) (minInterval : UInt32)
    (props : List (PropertyKey × PropValue)) : Bool :=
  props.any fun kv => (pairOutcome defaults minInterval kv).2

/-! ## The client manager checks against the defaults -/

/-- Not negative, as `SetDesiredChangeSensitivity` tests it for the two floating-point types. -/
theorem real_nonneg_iff (v : PropVariant) :
    0 ≤ v.real ↔ ¬((v.vt = .r4 ∧ v.real < 0) ∨ (v.vt = .r8 ∧ v.real < 0)) := by
  cases v <;> simp [PropVariant.vt, PropVariant.real]

/-- The check of one field is the rule for the defaults, with its two errors. -/
theorem checkDesiredSensitivity_eq (D : PortableDeviceValues) (key : PropertyKey) (var : PropVariant) :
    checkDesiredSensitivity D key var = if sensitivityAccepted D key var then .sOk
      else if (getValue D key).isSome then .eInvalidArg else .errorNotFound := by
  unfold checkDesiredSensitivity sensitivityAccepted
  cases getValue D key with
  | none => rfl
  | some d =>
    simp only [Option.isSome_some, if_true, decide_eq_true_eq, real_nonneg_iff]
    by_cases hc : (var.vt ≠ d.vt ∧ var.vt ≠ .null) ∨ (var.vt = .r4 ∧ var.real < 0) ∨
        (var.vt = .r8 ∧ var.real < 0)
    · rw [if_pos hc, if_neg (by tauto)]
    · rw [if_neg hc, if_pos (by tauto)]

/-- The check reads the minima only through the type of each one. -/
theorem checkDesiredSensitivity_congr {m m' : PortableDeviceValues} {key : PropertyKey}
    (h : (getValue m key).map PropVariant.vt = (getValue m' key).map PropVariant.vt)
    (var : PropVariant) : checkDesiredSensitivity m key var = checkDesiredSensitivity m' key var := by
  unfold checkDesiredSensitivity
  cases hm : getValue m key <;> cases hm' : getValue m' key <;> simp_all

/-- In an arbitrated state every minimum has the type of its default. -/
theorem ClientManager.Arbitrated.vt_minimum {s : ClientManager} (ha : s.Arbitrated) (k : PropertyKey) :
    (getValue s.minSensitivityValues k).map PropVariant.vt =
      (getValue s.defaultSensitivityValues k).map PropVariant.vt := by
  rw [ha.mins, arbitratedSensitivities, getValue_mapValues, Option.map_map]
  cases getValue s.defaultSensitivityValues k with
  | none => rfl
  | some d => cases (desiredFor (ClientEntries.desiredSensitivities s.clientList.entries) k).min? <;> simp

/-- The loop of `SetDesiredChangeSensitivity` against minima of the defaults' types. -/
theorem setDesiredSensitivities_eq {mins D : PortableDeviceValues}
    (hm : ∀ k, (getValue mins k).map PropVariant.vt = (getValue D k).map PropVariant.vt)
    (values desired results : PortableDeviceValues) (fError : Bool) :
    setDesiredSensitivities mins values desired results fError =
      (acceptSensitivities D values desired, addSensitivityResults D values results,
        fError || values.any fun kv => !sensitivityAccepted D kv.1 kv.2) := by
  induction values generalizing desired results fError with
  | nil => simp [setDesiredSensitivities, acceptSensitivities, addSensitivityResults]
  | cons kv rest ih =>
    obtain ⟨k, v⟩ := kv
    have hc := (checkDesiredSensitivity_congr (hm k) v).trans (checkDesiredSensitivity_eq D k v)
    have hf : (if (getValue D k).isSome then HRESULT.eInvalidArg else .errorNotFound).succeeded =
        false := by split <;> rfl
    by_cases ha : sensitivityAccepted D k v <;>
      simp [setDesiredSensitivities, hc, ha, hf, ih, sensitivityResult]

section Pair

variable {s : ClientManager} (ha : s.Arbitrated) {h : IWDFFile} (h0 : h ≠ 0) {e : ClientEntry}
  (hf : s.clientList.find h = some e)
include ha h0 hf

/-- `SetDesiredChangeSensitivity` on a registered handle: `S_FALSE` when a field was rejected,
the per-field results, and the accepted fields stored. -/
theorem setDesiredChangeSensitivity_eq (values : PortableDeviceValues) :
    s.setDesiredChangeSensitivity h values =
      (if values.any (fun kv => !sensitivityAccepted s.defaultSensitivityValues kv.1 kv.2)
        then .sFalse else .sOk,
        addSensitivityResults s.defaultSensitivityValues values [],
        (recalculateProperties { s with clientList := s.clientList.assign h { e with
          desiredSensitivityValues :=
            acceptSensitivities s.defaultSensitivityValues values e.desiredSensitivityValues } }).2) := by
  have hok := (ha.recalculate (s.clientList.assign h { e with desiredSensitivityValues :=
    (setDesiredSensitivities s.minSensitivityValues values e.desiredSensitivityValues [] false).1 })
    s.clientCount s.subscriberCount (fits_assign ha.fits (ha.fits_setDesiredSensitivities hf values))).1
  rw [setDesiredSensitivities_eq ha.vt_minimum] at hok
  simp only [setDesiredChangeSensitivity, if_neg h0, hf, setDesiredSensitivities_eq ha.vt_minimum,
    hok, HRESULT.succeeded_sOk, true_and, Bool.false_or]

/-- `SetDesiredReportInterval` on a registered handle. -/
theorem setDesiredReportInterval_eq (v : UInt32) :
    s.setDesiredReportInterval h v = if v = 0 ∨ s.minSupportedReportInterval ≤ v then
      (.sOk, (recalculateProperties
        { s with clientList := s.clientList.assign h { e with desiredReportInterval := v } }).2)
    else (.eInvalidArg, s) := by
  have hok := (ha.recalculate (s.clientList.assign h { e with desiredReportInterval := v })
    s.clientCount s.subscriberCount (fits_assign ha.fits fun kv hkv => ha.entry hf kv hkv)).1
  by_cases hv : v = 0 ∨ s.minSupportedReportInterval ≤ v
  · simp only [setDesiredReportInterval, if_neg h0, if_neg ((interval_accepted_iff _ _).2 hv), hf,
      if_pos hv]
    exact Prod.ext hok rfl
  · simp only [setDesiredReportInterval, if_neg h0, if_pos ((interval_accepted_iff _ _).not_right.2 hv),
      if_neg hv]

/-- **One pair at the client manager.**  For a key other than a test property, on a registered
non-null handle of an arbitrated state, `SetDesiredProperty` gives the entry and the rejection
that `pairOutcome` gives, and leaves the handle's entry as `acceptPair` says. -/
theorem setDesiredProperty_pairOutcome {key : PropertyKey}
    (hk : SensorDevice.isTestProperty key = false) (var : PropValue) :
    ((if (s.setDesiredProperty h key var).1.succeeded then (s.setDesiredProperty h key var).2.1
        else .var (.error (s.setDesiredProperty h key var).1)),
      !(s.setDesiredProperty h key var).1.succeeded || (s.setDesiredProperty h key var).1 != .sOk) =
        pairOutcome s.defaultSensitivityValues s.minSupportedReportInterval (key, var) ∧
      (s.setDesiredProperty h key var).2.2.clientList.find h =
        some (acceptPair s.defaultSensitivityValues s.minSupportedReportInterval e (key, var)) := by
  simp only [ClientManager.setDesiredProperty, if_neg h0, pairOutcome, acceptPair, hk,
    Bool.false_eq_true, if_false]
  by_cases hcs : key = .sensorPropertyChangeSensitivity
  · subst hcs
    cases var with
    | unknown values =>
      simp only [setDesiredChangeSensitivity_eq ha h0 hf, if_true]
      cases values.any fun kv => !sensitivityAccepted s.defaultSensitivityValues kv.1 kv.2 <;> simp
    | var v => simp [hf, HRESULT.succeeded]
  · by_cases hcri : key = .sensorPropertyCurrentReportInterval
    · subst hcri
      cases var with
      | var v =>
        cases v with
        | ui4 v =>
          simp only [setDesiredReportInterval_eq ha h0 hf]
          by_cases hv : v = 0 ∨ s.minSupportedReportInterval ≤ v <;> simp [hv, hf, HRESULT.succeeded]
        | _ => simp [hf, HRESULT.succeeded]
      | unknown values => simp [hf, HRESULT.succeeded]
    · simp [hcs, hcri, hf, HRESULT.succeeded]

end Pair

/-! ## The loop of `SetProperties` -/

namespace SensorDevice

/-- A state in which the next pair of a batch for `h` is answered as `pairOutcome D mi` says:
the object is operating, and `h` is a non-null handle registered with the entry `e` in a
client manager with the defaults `D` and the minimum interval `mi`. -/
structure Ready (h : IWDFFile) (D : PortableDeviceValues) (mi : UInt32) (e : ClientEntry)
    (d : SensorDevice) : Prop where
  operating : d.Operating
  ne_zero : h ≠ 0
  entry : d.clientManager.clientList.find h = some e
  defaults : d.clientManager.defaultSensitivityValues = D
  minInterval : d.clientManager.minSupportedReportInterval = mi

variable (c : Adxl345) {h : IWDFFile} {D : PortableDeviceValues} {mi : UInt32}

/-- `SetTestProperty` of a test property on an operating object succeeds, but for `TEST_DATA`
with a null `caub.pElems`, and leaves the object operating and the client manager alone. -/
theorem setTestProperty_operating {d : SensorDevice} (ho : d.Operating) {key : PropertyKey}
    (hk : isTestProperty key = true) (var : PropValue) :
    (setTestProperty d key var).1 =
        (if key = .sensorPropertyTestData ∧ var.caubElems = none then .eInvalidArg else .sOk) ∧
      (setTestProperty d key var).2.Operating ∧
      (setTestProperty d key var).2.clientManager = d.clientManager := by
  simp only [isTestProperty, decide_eq_true_eq] at hk
  rcases hk with rfl | rfl | rfl
  · simp [setTestProperty, ho.initialized]; exact ⟨rfl, ho.2, ho.3, ho.4⟩
  · simp [setTestProperty, ho.initialized]; exact ⟨rfl, ho.2, ho.3, ho.4⟩
  · cases h : var.caubElems <;>
      simp [setTestProperty, ho.initialized, h, Bus.writeRegister_reliable ho.reliable] <;>
      exact ⟨rfl, ho.2, ho.3, ho.4⟩

/-- **One pair of the loop.**  From a ready state the loop answers the pair as `pairOutcome`
says and goes on from a state ready for the client's entry after the pair, the other clients
as they were. -/
theorem setPropertiesLoop_cons {e : ClientEntry} {d : SensorDevice} (hr : Ready h D mi e d)
    (key : PropertyKey) (var : PropValue) (rest results : List (PropertyKey × PropValue))
    (fError : Bool) :
    ∃ d₁, Ready h D mi (acceptPair D mi e (key, var)) d₁ ∧
      (∀ h', h' ≠ h → d₁.clientManager.clientList.find h' = d.clientManager.clientList.find h') ∧
      setPropertiesLoop h ((key, var) :: rest) d results fError =
        setPropertiesLoop h rest d₁ (setValue results key (pairOutcome D mi (key, var)).1)
          (fError || (pairOutcome D mi (key, var)).2) := by
  by_cases hk : isTestProperty key
  · obtain ⟨hst, ho, hcm⟩ := setTestProperty_operating hr.operating hk var
    have hkey : key ≠ .sensorPropertyChangeSensitivity ∧ key ≠ .sensorPropertyCurrentReportInterval := by
      simp only [isTestProperty, decide_eq_true_eq] at hk
      rcases hk with rfl | rfl | rfl <;> decide
    refine ⟨_, ⟨ho, hr.ne_zero, ?_, hcm ▸ hr.defaults, hcm ▸ hr.minInterval⟩,
      fun h' _ => by rw [hcm], ?_⟩
    · rw [hcm, hr.entry]; simp [acceptPair, hkey.1, hkey.2]
    · by_cases hp : key = .sensorPropertyTestData ∧ var.caubElems = none
      · simp [setPropertiesLoop, hk, hst, pairOutcome, if_pos hp, HRESULT.succeeded]
      · simp [setPropertiesLoop, hk, hst, pairOutcome, if_neg hp]
  · have hk' : isTestProperty key = false := Bool.eq_false_iff.2 hk
    obtain ⟨hout, hfind⟩ :=
      setDesiredProperty_pairOutcome hr.operating.arbitrated hr.ne_zero hr.entry hk' var
    rw [hr.defaults, hr.minInterval] at hout hfind
    have hcfg := (ClientRequest.setDesiredProperty h key var).run_config d.clientManager
    refine ⟨{ d with clientManager := (d.clientManager.setDesiredProperty h key var).2.2 },
      ⟨hr.operating.withClientManager (hr.operating.arbitrated.setDesiredProperty h key var),
        hr.ne_zero, hfind, hcfg.1.trans hr.defaults, hcfg.2.2.trans hr.minInterval⟩,
      fun h' hne => (ClientRequest.setDesiredProperty h key var).run_find_ne _ hne, ?_⟩
    rw [← hout]
    simp only [setPropertiesLoop, hk', Bool.false_eq_true, if_false]
    generalize d.clientManager.setDesiredProperty h key var = t
    cases t.1.succeeded <;> simp

/-- **The loop of `SetProperties`.**  From a ready state it answers every pair as
`pairOutcome` says, sets `fError` when a pair or a field was rejected, and leaves a ready
state with the client's entry updated by every pair and the other clients as they were. -/
theorem setPropertiesLoop_ready (props : List (PropertyKey × PropValue)) :
    ∀ {e : ClientEntry} {d : SensorDevice} (results : List (PropertyKey × PropValue))
      (fError : Bool), Ready h D mi e d →
      (setPropertiesLoop h props d results fError).1 =
          props.foldl (fun rs kv => setValue rs kv.1 (pairOutcome D mi kv).1) results ∧
        (setPropertiesLoop h props d results fError).2.1 =
          (fError || props.any fun kv => (pairOutcome D mi kv).2) ∧
        Ready h D mi (props.foldl (acceptPair D mi) e) (setPropertiesLoop h props d results fError).2.2 ∧
        ∀ h', h' ≠ h → (setPropertiesLoop h props d results fError).2.2.clientManager.clientList.find h' =
          d.clientManager.clientList.find h' := by
  induction props with
  | nil => intro e d results fError hr; exact ⟨rfl, by simp [setPropertiesLoop], hr, fun _ _ => rfl⟩
  | cons kv rest ih =>
    intro e d results fError hr
    obtain ⟨key, var⟩ := kv
    obtain ⟨d₁, hr₁, hframe, heq⟩ := setPropertiesLoop_cons hr key var rest results fError
    obtain ⟨h₁, h₂, h₃, h₄⟩ := ih _ _ hr₁
    rw [heq]
    exact ⟨h₁, by rw [h₂]; simp [Bool.or_assoc], h₃, fun h' hne => (h₄ h' hne).trans (hframe h' hne)⟩

theorem applyDataUpdateMode_reliable {d : SensorDevice} (hb : d.bus.faults = []) :
    (applyDataUpdateMode c d).1 = .sOk ∧ (applyDataUpdateMode c d).2.clientManager = d.clientManager ∧
      (applyDataUpdateMode c d).2.deviceReportInterval = d.deviceReportInterval ∧
      (applyDataUpdateMode c d).2.deviceChangeSensitivity = d.deviceChangeSensitivity := by
  simp only [applyDataUpdateMode]
  split_ifs
  · rw [setDataUpdateMode_reliable c hb]; exact ⟨rfl, rfl, rfl, rfl⟩
  · exact ⟨rfl, rfl, rfl, rfl⟩

/-- `ApplyUpdatedProperties` on an operating object succeeds, leaves the client manager alone,
and programs the arbitrated interval and sensitivities into the device. -/
theorem applyUpdatedProperties_operating {d : SensorDevice} (ho : d.Operating) :
    (applyUpdatedProperties c d).1 = .sOk ∧
      (applyUpdatedProperties c d).2.clientManager = d.clientManager ∧
      (applyUpdatedProperties c d).2.deviceReportInterval = d.clientManager.minReportInterval ∧
      (applyUpdatedProperties c d).2.deviceChangeSensitivity =
        copyValues d.clientManager.minSensitivityValues [] := by
  rw [applyUpdatedProperties_reliable c ho.reliable ho.initialized ho.sensorInitialized]
  exact applyDataUpdateMode_reliable c (by exact ho.reliable)

/-- `SetProperties` from a ready state: the loop, then `ApplyUpdatedProperties`. -/
theorem setProperties_ready {e : ClientEntry} {d : SensorDevice} (hr : Ready h D mi e d)
    (props : List (PropertyKey × PropValue)) :
    let r := setProperties c d h props
    r.2.1 = batchResults D mi props ∧
      r.1 = (if batchRejects D mi props then .sFalse else .sOk) ∧
      r.2.2.clientManager.clientList.find h = some (props.foldl (acceptPair D mi) e) ∧
      (∀ h', h' ≠ h → r.2.2.clientManager.clientList.find h' = d.clientManager.clientList.find h') ∧
      r.2.2.deviceReportInterval = r.2.2.clientManager.minReportInterval ∧
      r.2.2.deviceChangeSensitivity = copyValues r.2.2.clientManager.minSensitivityValues [] := by
  obtain ⟨h₁, h₂, h₃, h₄⟩ := setPropertiesLoop_ready props [] false hr
  obtain ⟨a₁, a₂, a₃, a₄⟩ := applyUpdatedProperties_operating c h₃.operating
  simp only [setProperties, a₁, a₂, a₃, a₄, h₂, HRESULT.succeeded_sOk, true_and, Bool.false_or]
  exact ⟨h₁, rfl, h₃.entry, h₄, trivial⟩

end SensorDevice

open SensorDevice

end SpbAccelerometer
