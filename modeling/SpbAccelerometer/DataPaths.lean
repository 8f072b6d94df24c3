import SpbAccelerometer.Threads
import SpbAccelerometer.SensorDevice

/-!
# The data paths in parallel

New data reaches the data field cache by two paths that may run at once: `PollForData`
(called by `GetDataFields`, by `ClientConnect` for the first client and by `Start`) and the
interrupt work item, `OnInterruptWorkItem`, which calls `RequestData` and then
`DataAvailable`.  `GetDataFields` reads the cache for a client, and `ReportIntervalExpired`,
on the report manager's thread, reads it for the data event and posts the state change that
`SetState` flagged.  `Stop` marks the sensor `NO_DATA`.

Each acquisition of `m_CacheCriticalSection` is one atomic step (`DataPc`), as is each device
call: `RequestData`, and `SetDataUpdateMode(Off)` in `Stop`.  `SetState` takes the lock twice,
once in `GetProperty` to read the state and once to write the new one and set
`m_fStateChanged`; `DataAvailable` stamps the time before it merges the values, `PollForData`
after; `GetDataFields` takes the lock once per key.

Ghost fields of `DataState` record which sample (`RequestData` call) each cached data field
comes from, the writes of `SENSOR_PROPERTY_STATE` and those that changed it; the calls of
`PostStateChange` and `PostDataEvent` are the paths' outputs.

* `DataPath.serves_handle`: a path running alone does what its handler does (`PollForData`,
  `OnInterruptWorkItem`, `GetDataFields`, `ReportIntervalExpired`, `Stop` of
  `SensorDevice`);
* `stateChanges_le_stateWrites`: whatever the interleaving, each `PostStateChange` has a
  write of the state of its own;
* `stateChanges_le_transitions_serial`: when the paths run one after another, each write is
  a transition, so each post is for a transition of its own;
* `axes_together_run`: each data event has its three axes from one sample;
* `DataPath.getDataFields_axes_alone`: so does `GetDataFields` when it runs alone;
* `state_change_posted_twice`: two posts for one transition, when a poll and an interrupt
  work item both read `NO_DATA` before either writes `READY`;
* `torn_data_fields`: `GetDataFields` returns axes of two samples, and a data event has the
  time stamp of a sample whose axes it does not have.
-/

namespace SpbAccelerometer

variable (c : Adxl345)

/-- The code that reads or writes the caches, each on its own thread. -/
inductive DataPath where
  /-- `PollForData`. -/
  | pollForData
  /-- `OnInterruptWorkItem`: `RequestData`, then `DataAvailable`. -/
  | interruptWorkItem
  /-- `GetDataFields` for the keys asked for. -/
  | getDataFields (keys : List PropertyKey)
  /-- `ReportIntervalExpired`. -/
  | reportIntervalExpired
  /-- `Stop`. -/
  | stop

namespace DataPath

/-- `DataAvailable` stamps the time before it merges the values. -/
def isInterrupt : DataPath → Bool
  | interruptWorkItem => true
  | _ => false

end DataPath

/-- The next atomic step of a data path. -/
inductive DataPc where
  /-- `GetDataFields`: `GetProperty(SENSOR_PROPERTY_STATE)` and the test of the mode. -/
  | checkState
  | requestData
  /-- The loop that merges the sample into the data field cache, under one lock. -/
  | copyValues
  | setTimeStamp
  /-- `SetState(newState)`: `GetProperty(SENSOR_PROPERTY_STATE)`. -/
  | getState (newState : SensorState)
  /-- `SetState(newState)`: the write and `m_fStateChanged`, when the state read differs. -/
  | putState (newState : SensorState)
  /-- `GetDataFields`: `GetDataField` for each key still to read. -/
  | getDataField (keys : List PropertyKey)
  | getAllDataFields
  | hasStateChanged
  /-- `GetProperty(SENSOR_PROPERTY_STATE)` and `PostStateChange`. -/
  | postStateChange
  | postDataEvent
  /-- `Stop`: `SetDataUpdateMode(DataUpdateModeOff)`. -/
  | setDataUpdateMode
  | done
  deriving DecidableEq

/-- What follows `SetState`: the reads of `GetDataFields`, the `SetDataUpdateMode` of `Stop`. -/
def DataPath.afterSetState : DataPath → DataPc
  | getDataFields keys => .getDataField keys
  | stop => .setDataUpdateMode
  | _ => .done

/-- A data field gathered by a path, with the sample it comes from. -/
abbrev TaggedValues := List (PropertyKey × PropVariant × Option Nat)

/-- A data path in flight: the path, where it stands and its locals. -/
structure DataThread where
  path : DataPath
  pc : DataPc
  hr : HRESULT
  /-- The collection `RequestData` filled. -/
  values : PortableDeviceValues
  /-- Ghost: the sample `values` is. -/
  sample : Nat
  /-- `currentState` of `SetState`. -/
  current : UInt32
  /-- The data fields `GetDataFields` returns, or the parameters of the data event. -/
  fields : TaggedValues
  fError : Bool

/-- The sensor object with the ghost records of the data paths and their outputs. -/
structure DataState where
  device : SensorDevice
  /-- Ghost: the sample each data field of the cache comes from. -/
  samples : List (PropertyKey × Nat)
  /-- Ghost: the samples read so far. -/
  sampleCount : Nat
  /-- Ghost: the writes of `SENSOR_PROPERTY_STATE`. -/
  stateWrites : Nat
  /-- Ghost: the writes of `SENSOR_PROPERTY_STATE` that changed it. -/
  transitions : Nat
  /-- The states passed to `PostStateChange`. -/
  stateChanges : List UInt32
  /-- The parameters passed to `PostDataEvent`. -/
  dataEvents : List TaggedValues

namespace DataState

/-- The sensor object before any data path ran. -/
def ofDevice (d : SensorDevice) : DataState := ⟨d, [], 0, 0, 0, [], []⟩

/-- The data field cache, each field with the sample it comes from. -/
def view (s : DataState) : TaggedValues :=
  s.device.sensorDataFieldValues.map fun kv => (kv.1, kv.2, getValue s.samples kv.1)

end DataState

namespace DataThread

/-- A data path as it starts. -/
def init (p : DataPath) : DataThread :=
  ⟨p, match p with
    | .pollForData | .interruptWorkItem => .requestData
    | .getDataFields _ => .checkState
    | .reportIntervalExpired => .getAllDataFields
    | .stop => .getState .noData, .sOk, [], 0, 0, [], false⟩

/-- The next atomic step of a data path; a path that has returned makes none. -/
def step (t : DataThread) (s : DataState) : DataThread × DataState :=
  let d := s.device
  match t.pc with
  | .checkState =>
    let r := d.getProperty .sensorPropertyState
    let current := if r.1.succeeded then r.2.1.ulVal else SensorState.notAvailable.toUInt32
    ({ t with
        pc := if d.dataUpdateMode = .polling ∨ current ≠ SensorState.ready.toUInt32 then .requestData
          else t.path.afterSetState
        hr := r.1 }, { s with device := r.2.2 })
  | .requestData =>
    let r := if t.path.isInterrupt then d.requestData c else d.requestNewData c
    if r.1.succeeded then
      ({ t with
          pc := if t.path.isInterrupt then .setTimeStamp else .copyValues
          hr := r.1
          values := r.2.1
          sample := s.sampleCount },
        { s with device := r.2.2, sampleCount := s.sampleCount + 1 })
    else ({ t with pc := .done, hr := r.1 }, { s with device := r.2.2 })
  | .copyValues =>
    ({ t with pc := if t.path.isInterrupt then .getState .ready else .setTimeStamp },
      { s with
        device := { d with sensorDataFieldValues := copyValues t.values d.sensorDataFieldValues }
        samples := copyValues (t.values.map fun kv => (kv.1, t.sample)) s.samples })
  | .setTimeStamp =>
    ({ t with pc := if t.path.isInterrupt then .copyValues else .getState .ready },
      { s with
        device := d.setTimeStamp.2
        samples := setValue s.samples .sensorDataTypeTimestamp t.sample })
  | .getState newState =>
    let r := d.getProperty .sensorPropertyState
    ({ t with
        pc := if r.1.succeeded then .putState newState else .done
        hr := r.1
        current := r.2.1.ulVal }, { s with device := r.2.2 })
  | .putState newState =>
    if t.current ≠ newState.toUInt32 then
      ({ t with pc := t.path.afterSetState, hr := .sOk },
        { s with
          device := { d with
            sensorPropertyValues :=
              setValue d.sensorPropertyValues .sensorPropertyState (.ui4 newState.toUInt32)
            stateChanged := true }
          stateWrites := s.stateWrites + 1
          transitions :=
            if getValue d.sensorPropertyValues .sensorPropertyState = some (.ui4 newState.toUInt32)
            then s.transitions else s.transitions + 1 })
    else ({ t with pc := t.path.afterSetState, hr := .sOk }, s)
  | .getDataField [] => ({ t with pc := .done, hr := if t.fError then .sFalse else t.hr }, s)
  | .getDataField (key :: keys) =>
    match getValue d.sensorDataFieldValues key with
    | some v =>
      ({ t with pc := .getDataField keys, fields := setValue t.fields key (v, getValue s.samples key) },
        s)
    | none =>
      ({ t with
          pc := .getDataField keys
          fields := setValue t.fields key (.error .errorNotFound, none)
          fError := true }, s)
  | .getAllDataFields => ({ t with pc := .hasStateChanged, fields := s.view }, s)
  | .hasStateChanged =>
    let r := d.hasStateChanged
    ({ t with pc := if r.1 then .postStateChange else .postDataEvent }, { s with device := r.2 })
  | .postStateChange =>
    let r := d.getProperty .sensorPropertyState
    if r.1.succeeded then
      ({ t with pc := .postDataEvent },
        { s with device := r.2.2, stateChanges := s.stateChanges ++ [r.2.1.ulVal] })
    else ({ t with pc := .done, hr := r.1 }, { s with device := r.2.2 })
  | .postDataEvent => ({ t with pc := .done }, { s with dataEvents := s.dataEvents ++ [t.fields] })
  | .setDataUpdateMode =>
    let r := d.setDataUpdateMode c .off
    ({ t with pc := .done, hr := r.1 }, { s with device := r.2 })
  | .done => (t, s)

end DataThread

/-- The sensor object and the data paths running. -/
abbrev DataPaths := Threads DataState DataThread

/-- The paths `ps` started at once on `d`. -/
def DataPaths.start (d : SensorDevice) (ps : List DataPath) : DataPaths :=
  ⟨.ofDevice d, ps.map DataThread.init⟩

/-- Whether a collection has the data field `key`, and from which sample. -/
def TaggedValues.origin (f : TaggedValues) (key : PropertyKey) : Option (Option Nat) :=
  (getValue f key).map Prod.snd

theorem getValue_map_snd {β γ : Type} (l : List (PropertyKey × β)) (f : PropertyKey → β → γ)
    (k : PropertyKey) : getValue (l.map fun kv => (kv.1, f kv.1 kv.2)) k = (getValue l k).map (f k) := by
  induction l with
  | nil => rfl
  | cons kv rest ih =>
    simp only [List.map_cons, getValue]
    split_ifs with h
    · rw [h]; rfl
    · exact ih

theorem DataState.origin_view (s : DataState) (k : PropertyKey) :
    s.view.origin k = (getValue s.device.sensorDataFieldValues k).map fun _ => getValue s.samples k := by
  simp only [TaggedValues.origin, DataState.view]
  rw [getValue_map_snd s.device.sensorDataFieldValues (fun k v => (v, getValue s.samples k)) k,
    Option.map_map]
  rfl

/-! ## A path alone does what its handler does -/

/-- A collection without its ghost tags. -/
def TaggedValues.untag (f : TaggedValues) : PortableDeviceValues := f.map fun x => (x.1, x.2.1)

@[simp] theorem TaggedValues.untag_nil : TaggedValues.untag [] = [] := rfl

theorem TaggedValues.untag_setValue (f : TaggedValues) (k : PropertyKey) (v : PropVariant)
    (o : Option Nat) : TaggedValues.untag (setValue f k (v, o)) = setValue f.untag k v := by
  induction f with
  | nil => rfl
  | cons x rest ih =>
    simp only [setValue, TaggedValues.untag, List.map_cons] at ih ⊢
    split_ifs <;> simp [ih]

theorem TaggedValues.origin_setValue (f : TaggedValues) (key k : PropertyKey) (v : PropVariant)
    (o : Option Nat) :
    TaggedValues.origin (setValue f key (v, o)) k = if k = key then some o else f.origin k := by
  simp only [TaggedValues.origin, getValue_setValue]
  split_ifs <;> rfl

theorem DataState.untag_view (s : DataState) : s.view.untag = s.device.sensorDataFieldValues := by
  simp [TaggedValues.untag, DataState.view, Function.comp_def]

namespace DataThread

/-- A segment of a path that keeps the path, the fields gathered and the outputs. -/
structure Frame (t t' : DataThread) (s s' : DataState) : Prop where
  path : t'.path = t.path
  fields : t'.fields = t.fields
  fError : t'.fError = t.fError
  stateChanges : s'.stateChanges = s.stateChanges
  dataEvents : s'.dataEvents = s.dataEvents

/-- `SetState(newState)` from `getState`: the read of the state, then the write. -/
theorem runs_setState {t : DataThread} {newState : SensorState} (hpc : t.pc = .getState newState)
    (s : DataState) :
    ∃ t' s', Threads.Runs (step c) (t, s) (t', s') ∧ Frame t t' s s' ∧
      t'.pc = (if (s.device.setState newState).1.succeeded then t.path.afterSetState else .done) ∧
      t'.hr = (s.device.setState newState).1 ∧ s'.device = (s.device.setState newState).2 := by
  by_cases h₁ : (s.device.getProperty .sensorPropertyState).1.succeeded
  · refine ⟨_, _, Threads.Runs.iterate (step c) 2 (t, s), ?_⟩
    by_cases h₂ : (s.device.getProperty .sensorPropertyState).2.1.ulVal = newState.toUInt32 <;>
      simp [step, hpc, h₁, h₂, SensorDevice.setState, SensorDevice.getProperty_state] <;>
      exact ⟨rfl, rfl, rfl, rfl, rfl⟩
  · refine ⟨_, _, Threads.Runs.iterate (step c) 1 (t, s), ?_⟩
    simp [step, hpc, h₁, SensorDevice.setState, SensorDevice.getProperty_state]
    exact ⟨rfl, rfl, rfl, rfl, rfl⟩

theorem Frame.trans {t₁ t₂ t₃ : DataThread} {s₁ s₂ s₃ : DataState} (h₁ : Frame t₁ t₂ s₁ s₂)
    (h₂ : Frame t₂ t₃ s₂ s₃) : Frame t₁ t₃ s₁ s₃ :=
  ⟨h₂.path.trans h₁.path, h₂.fields.trans h₁.fields, h₂.fError.trans h₁.fError,
    h₂.stateChanges.trans h₁.stateChanges, h₂.dataEvents.trans h₁.dataEvents⟩

/-- `PollForData()` from `requestData`, on a path other than the interrupt work item. -/
theorem runs_pollForData {t : DataThread} (hpc : t.pc = .requestData) (hi : t.path.isInterrupt = false)
    (s : DataState) :
    ∃ t' s', Threads.Runs (step c) (t, s) (t', s') ∧ Frame t t' s s' ∧
      t'.pc = (if (s.device.pollForData c).1.succeeded then t.path.afterSetState else .done) ∧
      t'.hr = (s.device.pollForData c).1 ∧ s'.device = (s.device.pollForData c).2 := by
  by_cases h₁ : (s.device.requestNewData c).1.succeeded
  · have e := Threads.Runs.iterate (step c) 3 (t, s)
    generalize hq : (fun q : DataThread × DataState => step c q.1 q.2)^[3] (t, s) = q at e
    obtain ⟨t₁, s₁⟩ := q
    simp only [Function.iterate_succ, Function.comp_apply, Function.iterate_zero, id, step, hpc, hi,
      h₁, if_true, Bool.false_eq_true, if_false, Prod.mk.injEq] at hq
    obtain ⟨ht₁, hs₁⟩ := hq
    obtain ⟨t', s', e', hf, hpc', hhr, hd⟩ :=
      runs_setState c (show t₁.pc = .getState .ready by rw [← ht₁]) s₁
    subst ht₁ hs₁
    refine ⟨t', s', Threads.Runs.trans (step c) e e', Frame.trans ?_ hf, ?_⟩
    · exact ⟨rfl, rfl, rfl, rfl, rfl⟩
    · simp only [SensorDevice.pollForData, h₁, if_true]
      exact ⟨hpc', hhr, hd⟩
  · refine ⟨_, _, Threads.Runs.iterate (step c) 1 (t, s), ?_⟩
    simp [step, hpc, hi, h₁, SensorDevice.pollForData]
    exact ⟨rfl, rfl, rfl, rfl, rfl⟩

/-- `OnInterruptWorkItem` from `requestData`: `RequestData`, then `DataAvailable`. -/
theorem runs_onInterruptWorkItem {t : DataThread} (hpc : t.pc = .requestData)
    (hi : t.path.isInterrupt = true) (s : DataState) :
    ∃ t' s', Threads.Runs (step c) (t, s) (t', s') ∧ Frame t t' s s' ∧
      t'.pc = (if (s.device.onInterruptWorkItem c).1.succeeded then t.path.afterSetState else .done) ∧
      t'.hr = (s.device.onInterruptWorkItem c).1 ∧ s'.device = (s.device.onInterruptWorkItem c).2 := by
  by_cases h₁ : (s.device.requestData c).1.succeeded
  · have e := Threads.Runs.iterate (step c) 3 (t, s)
    generalize hq : (fun q : DataThread × DataState => step c q.1 q.2)^[3] (t, s) = q at e
    obtain ⟨t₁, s₁⟩ := q
    simp only [Function.iterate_succ, Function.comp_apply, Function.iterate_zero, id, step, hpc, hi,
      h₁, if_true, Prod.mk.injEq] at hq
    obtain ⟨ht₁, hs₁⟩ := hq
    obtain ⟨t', s', e', hf, hpc', hhr, hd⟩ :=
      runs_setState c (show t₁.pc = .getState .ready by rw [← ht₁]) s₁
    subst ht₁ hs₁
    refine ⟨t', s', Threads.Runs.trans (step c) e e', Frame.trans ?_ hf, ?_⟩
    · exact ⟨rfl, rfl, rfl, rfl, rfl⟩
    · simp only [SensorDevice.onInterruptWorkItem, SensorDevice.dataAvailable, h₁, if_true]
      exact ⟨hpc', hhr, hd⟩
  · refine ⟨_, _, Threads.Runs.iterate (step c) 1 (t, s), ?_⟩
    simp [step, hpc, hi, h₁, SensorDevice.onInterruptWorkItem]
    exact ⟨rfl, rfl, rfl, rfl, rfl⟩

/-- The loop of `GetDataFields` from `getDataField keys`, one step per key: the values of the
cache, and for each key asked for the sample it comes from. -/
theorem runs_getDataFieldsLoop (keys : List PropertyKey) {t : DataThread}
    (hpc : t.pc = .getDataField keys) (s : DataState) :
    ∃ t', Threads.Runs (step c) (t, s) (t', s) ∧ t'.pc = .done ∧ t'.path = t.path ∧
      t'.fields.untag = (s.device.getDataFieldsLoop keys t.fields.untag t.fError).1 ∧
      t'.hr = (if (s.device.getDataFieldsLoop keys t.fields.untag t.fError).2 then .sFalse else t.hr) ∧
      ∀ k, t'.fields.origin k =
        if k ∈ keys then some ((s.view.origin k).getD none) else t.fields.origin k := by
  induction keys generalizing t with
  | nil =>
    exact ⟨{ t with pc := .done, hr := if t.fError then .sFalse else t.hr },
      Threads.Runs.next (step c) (by simp only [step, hpc]; exact .refl),
      by simp [SensorDevice.getDataFieldsLoop]⟩
  | cons key keys ih =>
    rcases hv : getValue s.device.sensorDataFieldValues key with _ | v
    · obtain ⟨t', e, h₁, h₂, h₃, h₄, h₅⟩ := ih (t := { t with
        pc := .getDataField keys
        fields := setValue t.fields key (.error .errorNotFound, none)
        fError := true }) rfl
      refine ⟨t', Threads.Runs.next (step c) (by simpa [step, hpc, hv] using e), h₁, h₂,
        by simpa [SensorDevice.getDataFieldsLoop, hv, TaggedValues.untag_setValue] using h₃,
        by simpa [SensorDevice.getDataFieldsLoop, hv, TaggedValues.untag_setValue] using h₄,
        fun k => ?_⟩
      rw [h₅ k, TaggedValues.origin_setValue]
      by_cases hk : k = key
      · subst hk; simp [DataState.origin_view, hv]
      · simp [hk]
    · obtain ⟨t', e, h₁, h₂, h₃, h₄, h₅⟩ := ih (t := { t with
        pc := .getDataField keys
        fields := setValue t.fields key (v, getValue s.samples key) }) rfl
      refine ⟨t', Threads.Runs.next (step c) (by simpa [step, hpc, hv] using e), h₁, h₂,
        by simpa [SensorDevice.getDataFieldsLoop, hv, TaggedValues.untag_setValue] using h₃,
        by simpa [SensorDevice.getDataFieldsLoop, hv, TaggedValues.untag_setValue] using h₄,
        fun k => ?_⟩
      rw [h₅ k, TaggedValues.origin_setValue]
      by_cases hk : k = key
      · subst hk; by_cases hk' : k ∈ keys <;> simp [DataState.origin_view, hv, hk']
      · simp [hk]

/-- The first block of `GetDataFields` from its start: the state read and, when polling or
not `READY`, `PollForData()`. -/
theorem runs_pollIfStale (keys : List PropertyKey) (s : DataState) :
    ∃ t s', Threads.Runs (step c) (init (.getDataFields keys), s) (t, s') ∧
      Frame (init (.getDataFields keys)) t s s' ∧
      t.pc = (if (s.device.pollIfStale c).1.succeeded then .getDataField keys else .done) ∧
      t.hr = (s.device.pollIfStale c).1 ∧ s'.device = (s.device.pollIfStale c).2 := by
  by_cases hpoll : s.device.dataUpdateMode = .polling ∨
      (if (s.device.getProperty .sensorPropertyState).1.succeeded then
        (s.device.getProperty .sensorPropertyState).2.1.ulVal
      else SensorState.notAvailable.toUInt32) ≠ SensorState.ready.toUInt32
  · have e₀ : Threads.Runs (step c) (init (.getDataFields keys), s)
        ({ init (.getDataFields keys) with
          pc := .requestData, hr := (s.device.getProperty .sensorPropertyState).1 }, s) :=
      .single (by simp [step, init, hpoll, SensorDevice.getProperty_state])
    obtain ⟨t₁, s₁, e₁, hf₁, hpc₁, hhr₁, hd₁⟩ := runs_pollForData c (t := { init (.getDataFields keys) with
      pc := .requestData, hr := (s.device.getProperty .sensorPropertyState).1 }) rfl rfl s
    refine ⟨t₁, s₁, Threads.Runs.trans (step c) e₀ e₁, Frame.trans ?_ hf₁, ?_⟩
    · exact ⟨rfl, rfl, rfl, rfl, rfl⟩
    · simp only [SensorDevice.pollIfStale, SensorDevice.getProperty_state, hpoll, if_true]
      exact ⟨hpc₁, hhr₁, hd₁⟩
  · have hr : (s.device.getProperty .sensorPropertyState).1.succeeded := by
      by_contra h
      simp [h] at hpoll
      exact absurd hpoll.2 (by decide)
    refine ⟨{ init (.getDataFields keys) with
        pc := .getDataField keys, hr := (s.device.getProperty .sensorPropertyState).1 }, s,
      .single (by simp only [step, init, hpoll, SensorDevice.getProperty_state, if_false]; rfl),
      ⟨rfl, rfl, rfl, rfl, rfl⟩, ?_⟩
    simp only [hr, if_true, not_or, ne_eq, not_not] at hpoll
    simp [SensorDevice.pollIfStale, SensorDevice.getProperty_state, hpoll, hr]

end DataThread

/-- What a data path returns and posts when it runs alone. -/
structure DataOutcome where
  hr : HRESULT
  /-- The data fields `GetDataFields` returns, or the parameters of the data event. -/
  fields : PortableDeviceValues
  stateChanges : List UInt32
  dataEvents : List PortableDeviceValues
  device : SensorDevice

/-- The handler of each data path. -/
def DataPath.handle : DataPath → SensorDevice → DataOutcome
  | .pollForData, d => let r := d.pollForData c; ⟨r.1, [], [], [], r.2⟩
  | .interruptWorkItem, d => let r := d.onInterruptWorkItem c; ⟨r.1, [], [], [], r.2⟩
  | .getDataFields keys, d => let r := d.getDataFields c keys; ⟨r.1, r.2.1, [], [], r.2.2⟩
  | .reportIntervalExpired, d =>
    let r := d.reportIntervalExpired; ⟨r.1, d.sensorDataFieldValues, r.2.1, r.2.2.1, r.2.2.2⟩
  | .stop, d => let r := d.stop c; ⟨r.1, [], [], [], r.2⟩

/-- Where path `p`, run alone from `s`, ends: returned, with the status and the data fields of
its handler, the handler's posts added to the outputs, and the handler's device. -/
structure DataPath.Serves (p : DataPath) (s : DataState) (t : DataThread) (s' : DataState) :
    Prop where
  done : t.pc = .done
  hr : t.hr = (p.handle c s.device).hr
  fields : t.fields.untag = (p.handle c s.device).fields
  device : s'.device = (p.handle c s.device).device
  stateChanges : s'.stateChanges = s.stateChanges ++ (p.handle c s.device).stateChanges
  dataEvents : s'.dataEvents.map TaggedValues.untag =
    s.dataEvents.map TaggedValues.untag ++ (p.handle c s.device).dataEvents

namespace DataPath

open DataThread

theorem serves_reportIntervalExpired (s : DataState) :
    ∃ t s', Threads.Runs (step c) (init .reportIntervalExpired, s) (t, s') ∧
      reportIntervalExpired.Serves c s t s' := by
  by_cases h₁ : s.device.stateChanged
  · by_cases h₂ : ({ s.device with stateChanged := false }.getProperty .sensorPropertyState).1.succeeded
    · refine ⟨_, _, Threads.Runs.iterate (step c) 4 _, ?_, ?_, ?_, ?_, ?_, ?_⟩ <;>
        simp [step, init, handle, SensorDevice.reportIntervalExpired, SensorDevice.hasStateChanged,
          SensorDevice.getProperty_state, h₁, h₂, DataState.untag_view]
    · refine ⟨_, _, Threads.Runs.iterate (step c) 3 _, ?_, ?_, ?_, ?_, ?_, ?_⟩ <;>
        simp [step, init, handle, SensorDevice.reportIntervalExpired, SensorDevice.hasStateChanged,
          SensorDevice.getProperty_state, h₁, h₂, DataState.untag_view]
  · refine ⟨_, _, Threads.Runs.iterate (step c) 3 _, ?_, ?_, ?_, ?_, ?_, ?_⟩ <;>
      simp [step, init, handle, SensorDevice.reportIntervalExpired, SensorDevice.hasStateChanged,
        h₁, DataState.untag_view]

theorem serves_pollForData (s : DataState) :
    ∃ t s', Threads.Runs (step c) (init .pollForData, s) (t, s') ∧ pollForData.Serves c s t s' := by
  obtain ⟨t, s', e, hf, hpc, hhr, hd⟩ := runs_pollForData c (t := init .pollForData) rfl rfl s
  exact ⟨t, s', e, ⟨by simpa [init, afterSetState] using hpc, hhr,
    by simp [hf.fields, init, TaggedValues.untag, handle], hd, by simp [hf.stateChanges, handle],
    by simp [hf.dataEvents, handle]⟩⟩

theorem serves_interruptWorkItem (s : DataState) :
    ∃ t s', Threads.Runs (step c) (init .interruptWorkItem, s) (t, s') ∧
      interruptWorkItem.Serves c s t s' := by
  obtain ⟨t, s', e, hf, hpc, hhr, hd⟩ :=
    runs_onInterruptWorkItem c (t := init .interruptWorkItem) rfl rfl s
  exact ⟨t, s', e, ⟨by simpa [init, afterSetState] using hpc, hhr,
    by simp [hf.fields, init, TaggedValues.untag, handle], hd, by simp [hf.stateChanges, handle],
    by simp [hf.dataEvents, handle]⟩⟩

theorem serves_stop (s : DataState) :
    ∃ t s', Threads.Runs (step c) (init .stop, s) (t, s') ∧ stop.Serves c s t s' := by
  obtain ⟨t₁, s₁, e₁, hf, hpc, hhr, hd⟩ :=
    runs_setState c (show (init .stop).pc = .getState .noData from rfl) s
  by_cases h : (s.device.setState .noData).1.succeeded
  · simp only [h, if_true, init, afterSetState] at hpc
    refine ⟨_, _, Threads.Runs.trans (step c) e₁ (Threads.Runs.iterate (step c) 1 (t₁, s₁)),
      ?_, ?_, ?_, ?_, ?_, ?_⟩ <;>
      simp [step, hpc, init, handle, SensorDevice.stop, h, hd, hf.fields, hf.stateChanges,
        hf.dataEvents, TaggedValues.untag]
  · simp only [h, Bool.false_eq_true, if_false] at hpc
    exact ⟨t₁, s₁, e₁, hpc, by simp [handle, SensorDevice.stop, h, hhr],
      by simp [hf.fields, init, TaggedValues.untag, handle], by simp [handle, SensorDevice.stop, h, hd],
      by simp [hf.stateChanges, handle], by simp [hf.dataEvents, handle]⟩

theorem serves_getDataFields (keys : List PropertyKey) (s : DataState) :
    ∃ t s', Threads.Runs (step c) (init (.getDataFields keys), s) (t, s') ∧
      (getDataFields keys).Serves c s t s' := by
  obtain ⟨t₁, s₁, e₁, hf₁, hpc₁, hhr₁, hd₁⟩ := runs_pollIfStale c keys s
  by_cases hp : (s.device.pollIfStale c).1.succeeded
  · simp only [hp, if_true] at hpc₁
    obtain ⟨t₂, e₂, hpc₂, -, hfields₂, hhr₂, -⟩ := runs_getDataFieldsLoop c keys hpc₁ s₁
    refine ⟨t₂, s₁, Threads.Runs.trans (step c) e₁ e₂, hpc₂, ?_, ?_, ?_,
      by simp [hf₁.stateChanges, handle], by simp [hf₁.dataEvents, handle]⟩ <;>
      simp [hhr₂, hfields₂, hhr₁, hd₁, hf₁.fields, hf₁.fError, handle, SensorDevice.getDataFields,
        hp, init]
  · simp only [hp, Bool.false_eq_true, if_false] at hpc₁
    refine ⟨t₁, s₁, e₁, hpc₁, ?_, ?_, ?_, by simp [hf₁.stateChanges, handle],
      by simp [hf₁.dataEvents, handle]⟩ <;>
      simp [hhr₁, hd₁, hf₁.fields, handle, SensorDevice.getDataFields, hp, init]

/-- **A data path running alone does what its handler does**: it returns with the status of
`PollForData`, `OnInterruptWorkItem`, `GetDataFields`, `ReportIntervalExpired` or `Stop`, with
the data fields `GetDataFields` returns, posts what the handler posts, and leaves the handler's
device. -/
theorem serves_handle (p : DataPath) (s : DataState) :
    ∃ t s', Threads.Runs (step c) (init p, s) (t, s') ∧ p.Serves c s t s' := by
  cases p with
  | pollForData => exact serves_pollForData c s
  | interruptWorkItem => exact serves_interruptWorkItem c s
  | getDataFields keys => exact serves_getDataFields c keys s
  | reportIntervalExpired => exact serves_reportIntervalExpired c s
  | stop => exact serves_stop c s

end DataPath

/-! ## What the steps leave of the caches -/

/-- The caches and the flag the data paths share. -/
structure SameCaches (d d' : SensorDevice) : Prop where
  sensorPropertyValues : d'.sensorPropertyValues = d.sensorPropertyValues
  sensorDataFieldValues : d'.sensorDataFieldValues = d.sensorDataFieldValues
  stateChanged : d'.stateChanged = d.stateChanged

theorem sameCaches_bus (d : SensorDevice) (b : Bus) : SameCaches d { d with bus := b } :=
  ⟨rfl, rfl, rfl⟩

theorem sameCaches_requestData (d : SensorDevice) : SameCaches d (d.requestData c).2.2 := by
  simp only [SensorDevice.requestData]
  split_ifs <;> exact ⟨rfl, rfl, rfl⟩

theorem sameCaches_requestNewData (d : SensorDevice) : SameCaches d (d.requestNewData c).2.2 := by
  unfold SensorDevice.requestNewData
  split_ifs
  exacts [sameCaches_requestData c d, ⟨rfl, rfl, rfl⟩]

theorem sameCaches_setDataUpdateMode (d : SensorDevice) (mode : DataUpdateMode) :
    SameCaches d (d.setDataUpdateMode c mode).2 := by
  cases mode <;> simp only [SensorDevice.setDataUpdateMode, SensorDevice.setDeviceStateStandby,
    SensorDevice.setDeviceStatePolling, SensorDevice.setDeviceStateEventing] <;> split_ifs <;>
    exact ⟨rfl, rfl, rfl⟩

theorem addDataFieldValue_succeeded {key : PropertyKey} {var : PropVariant}
    {values : PortableDeviceValues} (h : (addDataFieldValue c key var values).1.succeeded = true) :
    (addDataFieldValue c key var values).2 = setValue values key var := by
  revert h
  unfold addDataFieldValue
  split_ifs <;> simp [HRESULT.succeeded]

/-- A read of the data registers that succeeds fills the three axes. -/
theorem keys_addAxes {bytes : List UInt8} (h : (addAxes c bytes).1.succeeded = true) :
    (addAxes c bytes).2.map Prod.fst =
      [.sensorDataTypeAccelerationXG, .sensorDataTypeAccelerationYG, .sensorDataTypeAccelerationZG] := by
  simp only [addAxes] at h ⊢
  split_ifs at h ⊢ with hx hy
  · rw [addDataFieldValue_succeeded c h, addDataFieldValue_succeeded c hy,
      addDataFieldValue_succeeded c hx]
    rfl
  · exact absurd h hy
  · exact absurd h hx

theorem keys_requestData {d : SensorDevice} (h : (d.requestData c).1.succeeded = true) :
    (d.requestData c).2.1.map Prod.fst =
      [.sensorDataTypeAccelerationXG, .sensorDataTypeAccelerationYG, .sensorDataTypeAccelerationZG] := by
  simp only [SensorDevice.requestData] at h ⊢
  split_ifs at h ⊢ with _ h₂
  · exact keys_addAxes c h
  · exact absurd h h₂
  · simp [HRESULT.succeeded] at h

theorem keys_requestNewData {d : SensorDevice} (h : (d.requestNewData c).1.succeeded = true) :
    (d.requestNewData c).2.1.map Prod.fst =
      [.sensorDataTypeAccelerationXG, .sensorDataTypeAccelerationYG, .sensorDataTypeAccelerationZG] := by
  simp only [SensorDevice.requestNewData] at h ⊢
  split_ifs at h ⊢
  · exact keys_requestData c h
  · simp [HRESULT.succeeded] at h

/-! ## Each post of a state change has a write of its own -/

theorem DataPath.afterSetState_ne (p : DataPath) : p.afterSetState ≠ .postStateChange := by
  cases p <;> simp [DataPath.afterSetState]

/-- One step: what it adds to the posts, the flag and the reports about to post is at most
what it adds to the writes of the state. -/
theorem DataThread.notify_step (t : DataThread) (s : DataState) :
    (t.step c s).2.stateChanges.length + (if (t.step c s).2.device.stateChanged then 1 else 0) +
        (if (t.step c s).1.pc = .postStateChange then 1 else 0) + s.stateWrites ≤
      s.stateChanges.length + (if s.device.stateChanged then 1 else 0) +
        (if t.pc = .postStateChange then 1 else 0) + (t.step c s).2.stateWrites := by
  obtain ⟨path, pc, hr, values, sample, current, fields, fError⟩ := t
  have hne := path.afterSetState_ne
  cases pc with
  | checkState =>
    simp [DataThread.step, SensorDevice.getProperty_state, ite_eq_iff, hne]
  | requestData =>
    have h₁ := (sameCaches_requestData c s.device).stateChanged
    have h₂ := (sameCaches_requestNewData c s.device).stateChanged
    cases hi : path.isInterrupt <;>
      simp only [DataThread.step, hi, if_true, Bool.false_eq_true, if_false] <;> split <;> simp [h₁, h₂]
  | copyValues => simp [DataThread.step, ite_eq_iff]
  | setTimeStamp => simp [DataThread.step, SensorDevice.setTimeStamp, ite_eq_iff]
  | getState newState => simp [DataThread.step, SensorDevice.getProperty_state, ite_eq_iff]
  | putState newState =>
    by_cases h : current = newState.toUInt32 <;> simp [DataThread.step, h, hne]
    omega
  | getDataField keys =>
    cases keys with
    | nil => simp [DataThread.step]
    | cons key keys =>
      rcases hv : getValue s.device.sensorDataFieldValues key with _ | v <;>
        simp only [DataThread.step, hv] <;> simp
  | getAllDataFields => simp [DataThread.step]
  | hasStateChanged =>
    simp only [DataThread.step, SensorDevice.hasStateChanged]
    by_cases h : s.device.stateChanged <;> simp [h]
  | postStateChange =>
    simp only [DataThread.step, SensorDevice.getProperty_state]
    by_cases h : (s.device.getProperty .sensorPropertyState).1.succeeded <;> simp [h]
    omega
  | postDataEvent => simp [DataThread.step]
  | setDataUpdateMode =>
    simp [DataThread.step, (sameCaches_setDataUpdateMode c s.device .off).stateChanged]
  | done => simp [DataThread.step]

/-- The posts of state changes, the flag, and the reports about to post, against the writes
of the state. -/
def DataPaths.NotifyBound (s : DataPaths) : Prop :=
  s.shared.stateChanges.length + (if s.shared.device.stateChanged then 1 else 0) +
    s.threads.countP (fun t => t.pc = .postStateChange) ≤ s.shared.stateWrites

theorem DataPaths.notifyBound_stepThread (s : DataPaths) (i : Nat) (h : s.NotifyBound) :
    DataPaths.NotifyBound (s.stepThread (DataThread.step c) i) := by
  refine Threads.stepThread_induction _ DataPaths.NotifyBound ?_ s i h
  intro s i t ht hs
  have hc := Threads.countP_set (p := fun t : DataThread => decide (t.pc = .postStateChange))
    (b := (t.step c s.shared).1) ht
  have := DataThread.notify_step c t s.shared
  simp only [decide_eq_true_eq] at hc
  unfold DataPaths.NotifyBound at *
  dsimp only
  omega

/-- **Each `PostStateChange` has a write of the state of its own**: whatever the
interleaving of the data paths, started with no change flagged, there are no more posts of
a state change than writes of `SENSOR_PROPERTY_STATE`. -/
theorem stateChanges_le_stateWrites {d : SensorDevice} (hd : d.stateChanged = false)
    (ps : List DataPath) (schedule : List Nat) :
    ((DataPaths.start d ps).run (DataThread.step c) schedule).shared.stateChanges.length ≤
      ((DataPaths.start d ps).run (DataThread.step c) schedule).shared.stateWrites := by
  have h := Threads.run_induction _ _ (DataPaths.notifyBound_stepThread c)
    (s := DataPaths.start d ps) ?_ schedule
  · unfold DataPaths.NotifyBound at h
    omega
  · have : (ps.map DataThread.init).countP (fun t => t.pc = .postStateChange) = 0 := by
      simp only [List.countP_eq_zero, List.mem_map]
      rintro _ ⟨p, -, rfl⟩
      cases p <;> simp [DataThread.init]
    simp [DataPaths.NotifyBound, DataPaths.start, DataState.ofDevice, hd, this]

/-! ## One path after another, each write of the state is a transition -/

/-- The state a thread about to write read is still the cached one. -/
def DataThread.Synced (t : DataThread) (s : DataState) : Prop :=
  ∀ n, t.pc = .putState n → t.current = (s.device.getProperty .sensorPropertyState).2.1.ulVal

theorem DataPath.afterSetState_ne_putState (p : DataPath) (n : SensorState) :
    p.afterSetState ≠ .putState n := by
  cases p <;> simp [DataPath.afterSetState]

/-- Only `getState` leads to `putState`. -/
theorem DataThread.getState_of_step_pc {t : DataThread} {s : DataState} {n : SensorState}
    (h : (t.step c s).1.pc = .putState n) : t.pc = .getState n := by
  obtain ⟨path, pc, hr, values, sample, current, fields, fError⟩ := t
  have hne := path.afterSetState_ne_putState n
  cases pc
  case getState m => simp only [step] at h; split at h <;> simp_all
  case putState m => simp only [step] at h; split at h <;> exact absurd h hne
  case requestData => simp only [step] at h; split at h <;> (try split at h) <;> simp at h
  case postStateChange => simp only [step] at h; split at h <;> simp at h
  case getDataField keys =>
    cases keys with
    | nil => simp [step] at h
    | cons key keys => simp only [step] at h; split at h <;> simp at h
  all_goals simp [step, ite_eq_iff, hne] at h

/-- Only `putState` writes the state. -/
theorem DataThread.stateWrites_step {t : DataThread} {s : DataState} (h : ∀ n, t.pc ≠ .putState n) :
    (t.step c s).2.stateWrites = s.stateWrites ∧ (t.step c s).2.transitions = s.transitions := by
  obtain ⟨path, pc, hr, values, sample, current, fields, fError⟩ := t
  cases pc
  case putState n => exact absurd rfl (h n)
  case requestData => simp only [step]; split <;> split <;> exact ⟨rfl, rfl⟩
  case getDataField keys =>
    cases keys with
    | nil => exact ⟨rfl, rfl⟩
    | cons key keys => simp only [step]; split <;> exact ⟨rfl, rfl⟩
  case postStateChange => simp only [step]; split <;> exact ⟨rfl, rfl⟩
  all_goals exact ⟨rfl, rfl⟩

/-- One step of a thread that read the state it is about to write: each write it makes is a
transition, and it still holds the state it is about to write. -/
theorem DataThread.synced_step {t : DataThread} {s : DataState} (h : t.Synced s) :
    (t.step c s).1.Synced (t.step c s).2 ∧
      (t.step c s).2.stateWrites + s.transitions = s.stateWrites + (t.step c s).2.transitions := by
  by_cases hput : ∃ n, t.pc = .putState n
  · obtain ⟨n, hn⟩ := hput
    obtain ⟨path, pc, hr, values, sample, current, fields, fError⟩ := t
    subst hn
    have hne := path.afterSetState_ne_putState
    simp only [step]
    split
    · rename_i hw
      have hc : current = _ := h n rfl
      have hv : getValue s.device.sensorPropertyValues .sensorPropertyState ≠
          some (.ui4 n.toUInt32) := fun hv =>
        hw (by rw [hc, SensorDevice.getProperty_state_of_getValue hv]; rfl)
      refine ⟨fun m hm => absurd hm (hne m), ?_⟩
      simp only [hv, if_false]
      omega
    · exact ⟨fun m hm => absurd hm (hne m), rfl⟩
  · push_neg at hput
    obtain ⟨hw, ht⟩ := DataThread.stateWrites_step c (s := s) hput
    refine ⟨fun m hm => ?_, by rw [hw, ht]⟩
    obtain ⟨path, pc, hr, values, sample, current, fields, fError⟩ := t
    cases DataThread.getState_of_step_pc c hm
    simp only [step, SensorDevice.getProperty_state]

/-- Thread `i`, synced, running `n` steps with no other thread in between: it stays synced,
each of its writes is a transition, and the other threads are as they were. -/
theorem DataPaths.synced_replicate (i n : Nat) : ∀ s : DataPaths,
    (∀ t, s.threads[i]? = some t → t.Synced s.shared) →
      (∀ t, (s.run (DataThread.step c) (List.replicate n i)).threads[i]? = some t →
          t.Synced (s.run (DataThread.step c) (List.replicate n i)).shared) ∧
        (s.run (DataThread.step c) (List.replicate n i)).shared.stateWrites + s.shared.transitions =
          s.shared.stateWrites + (s.run (DataThread.step c) (List.replicate n i)).shared.transitions ∧
        ∀ j, j ≠ i → (s.run (DataThread.step c) (List.replicate n i)).threads[j]? = s.threads[j]? := by
  induction n with
  | zero => intro s hs; exact ⟨hs, rfl, fun _ _ => rfl⟩
  | succ n ih =>
    intro s hs
    rw [List.replicate_succ, Threads.run, List.foldl_cons, ← Threads.run]
    unfold Threads.stepThread
    split
    · rename_i t ht
      obtain ⟨hsync, hcount⟩ := DataThread.synced_step c (hs t ht)
      have hlt : i < s.threads.length := (List.getElem?_eq_some_iff.mp ht).1
      obtain ⟨h₁, h₂, h₃⟩ := ih ⟨(t.step c s.shared).2, s.threads.set i (t.step c s.shared).1⟩
        (fun t' ht' => by
          rw [List.getElem?_set_self hlt] at ht'
          cases ht'
          exact hsync)
      refine ⟨h₁, by simp only at h₂ ⊢; omega, fun j hj => ?_⟩
      rw [h₃ j hj]
      exact List.getElem?_set_ne (Ne.symm hj)
    · exact ih s hs

/-- **One after another, each write of the state is a transition**: in a serial schedule of
data paths, however long each runs, `SENSOR_PROPERTY_STATE` is written only to change it. -/
theorem DataPaths.stateWrites_serial (ns : List Nat) : ∀ (i : Nat) (s : DataPaths),
    (∀ j t, i ≤ j → s.threads[j]? = some t → ∀ n, t.pc ≠ .putState n) →
      (s.run (DataThread.step c) (serial ns i)).shared.stateWrites + s.shared.transitions =
        s.shared.stateWrites + (s.run (DataThread.step c) (serial ns i)).shared.transitions := by
  induction ns with
  | nil => intro i s _; rfl
  | cons n ns ih =>
    intro i s hs
    obtain ⟨-, h₂, h₃⟩ := DataPaths.synced_replicate c i n s
      (fun t ht m hm => absurd hm (hs i t le_rfl ht m))
    have := ih (i + 1) (s.run (DataThread.step c) (List.replicate n i))
      (fun j t hj ht => hs j t (by omega) (by rwa [h₃ j (by omega)] at ht))
    rw [serial, Threads.run_append]
    omega

/-- Each post of a state change is for a transition of its own when the data paths run one
after another. -/
theorem stateChanges_le_transitions_serial {d : SensorDevice} (hd : d.stateChanged = false)
    (ps : List DataPath) (ns : List Nat) :
    ((DataPaths.start d ps).run (DataThread.step c) (serial ns 0)).shared.stateChanges.length ≤
      ((DataPaths.start d ps).run (DataThread.step c) (serial ns 0)).shared.transitions := by
  have h₁ := stateChanges_le_stateWrites c hd ps (serial ns 0)
  have h₂ := DataPaths.stateWrites_serial c ns 0 (DataPaths.start d ps) fun j t _ ht n hn => by
    simp only [DataPaths.start, List.getElem?_map, Option.map_eq_some'] at ht
    obtain ⟨p, -, rfl⟩ := ht
    cases p <;> simp [DataThread.init] at hn
  have h₀ : (DataPaths.start d ps).shared.stateWrites = 0 ∧
      (DataPaths.start d ps).shared.transitions = 0 := ⟨rfl, rfl⟩
  omega

/-! ## The axes of a data event come from one sample -/

/-- The three axes of a collection agree: all absent, or all present and from one sample. -/
def TaggedValues.AxesTogether (f : TaggedValues) : Prop :=
  f.origin .sensorDataTypeAccelerationXG = f.origin .sensorDataTypeAccelerationYG ∧
    f.origin .sensorDataTypeAccelerationYG = f.origin .sensorDataTypeAccelerationZG

theorem values_of_keys {values : PortableDeviceValues}
    (h : values.map Prod.fst =
      [.sensorDataTypeAccelerationXG, .sensorDataTypeAccelerationYG, .sensorDataTypeAccelerationZG]) :
    ∃ x y z, values = [(.sensorDataTypeAccelerationXG, x), (.sensorDataTypeAccelerationYG, y),
      (.sensorDataTypeAccelerationZG, z)] := by
  rcases values with _ | ⟨⟨k₁, x⟩, _ | ⟨⟨k₂, y⟩, _ | ⟨⟨k₃, z⟩, _ | _⟩⟩⟩ <;> simp at h
  obtain ⟨rfl, rfl, rfl⟩ := h
  exact ⟨x, y, z, rfl⟩

/-- What a data path keeps: the sample it read has the three axes, and the data event it is
building has them from one sample. -/
structure DataThread.Sound (t : DataThread) : Prop where
  values : t.values = [] ∨ t.values.map Prod.fst =
    [.sensorDataTypeAccelerationXG, .sensorDataTypeAccelerationYG, .sensorDataTypeAccelerationZG]
  fields : t.pc = .hasStateChanged ∨ t.pc = .postStateChange ∨ t.pc = .postDataEvent →
    t.fields.AxesTogether

theorem DataPath.afterSetState_reads (p : DataPath) :
    p.afterSetState ≠ .hasStateChanged ∧ p.afterSetState ≠ .postStateChange ∧
      p.afterSetState ≠ .postDataEvent := by
  cases p <;> simp [DataPath.afterSetState]

/-- One step keeps the axes of the cache together, keeps its thread sound, and posts only
data events with the axes together. -/
theorem DataThread.axes_step (t : DataThread) (s : DataState) (hc : s.view.AxesTogether)
    (ht : t.Sound) :
    (t.step c s).2.view.AxesTogether ∧ (t.step c s).1.Sound ∧
      ∀ e ∈ (t.step c s).2.dataEvents, e ∈ s.dataEvents ∨ e.AxesTogether := by
  obtain ⟨path, pc, hr, values, sample, current, fields, fError⟩ := t
  obtain ⟨hv, hf⟩ := ht
  dsimp only at hv hf
  have hn := path.afterSetState_reads
  simp only [TaggedValues.AxesTogether, DataState.origin_view] at hc ⊢
  cases pc
  case copyValues =>
    refine ⟨?_, ⟨hv, by simp only [DataThread.step]; split <;> simp⟩, fun e he => .inl he⟩
    rcases hv with rfl | hv
    · simpa [DataThread.step, copyValues] using hc
    · obtain ⟨x, y, z, rfl⟩ := values_of_keys hv
      simp [DataThread.step, copyValues, getValue_setValue]
  case setTimeStamp =>
    refine ⟨?_, ⟨hv, by simp only [DataThread.step]; split <;> simp⟩, fun e he => .inl he⟩
    simpa [DataThread.step, SensorDevice.setTimeStamp, getValue_setValue] using hc
  case getAllDataFields =>
    refine ⟨hc, ⟨hv, fun _ => show s.view.AxesTogether from ?_⟩, fun e he => .inl he⟩
    simpa [TaggedValues.AxesTogether, DataState.origin_view] using hc
  case hasStateChanged =>
    refine ⟨hc, ⟨hv, fun _ => hf (.inl rfl)⟩, fun e he => .inl he⟩
  case postStateChange =>
    simp only [DataThread.step, SensorDevice.getProperty_state]
    split_ifs
    · exact ⟨hc, ⟨hv, fun _ => hf (.inr (.inl rfl))⟩, fun e he => by simp_all⟩
    · exact ⟨hc, ⟨hv, fun h => by simp at h⟩, fun e he => .inl he⟩
  case postDataEvent =>
    refine ⟨hc, ⟨hv, fun h => by simp [DataThread.step] at h⟩, fun e he => ?_⟩
    rcases List.mem_append.mp he with he | he
    · exact .inl he
    · rw [List.mem_singleton.mp he]
      exact .inr (hf (.inr (.inr rfl)))
  case requestData =>
    have hs := sameCaches_requestData c s.device
    have hs' := sameCaches_requestNewData c s.device
    cases hi : path.isInterrupt <;>
      simp only [DataThread.step, hi, if_true, Bool.false_eq_true, if_false] <;> split <;>
      simp only [hs.sensorDataFieldValues, hs'.sensorDataFieldValues] <;>
      refine ⟨hc, ⟨?_, fun h => by simp at h⟩, fun e he => .inl he⟩
    exacts [.inr (keys_requestNewData c ‹_›), hv, .inr (keys_requestData c ‹_›), hv]
  case getDataField keys =>
    cases keys with
    | nil => exact ⟨hc, ⟨hv, fun h => by simp [DataThread.step] at h⟩, fun e he => .inl he⟩
    | cons key keys =>
      simp only [DataThread.step]
      split <;> exact ⟨hc, ⟨hv, fun h => by simp at h⟩, fun e he => .inl he⟩
  case setDataUpdateMode =>
    have hs := sameCaches_setDataUpdateMode c s.device .off
    simp only [DataThread.step, hs.sensorDataFieldValues]
    exact ⟨hc, ⟨hv, fun h => by simp at h⟩, fun e he => .inl he⟩
  case checkState =>
    simp only [DataThread.step, SensorDevice.getProperty_state]
    exact ⟨hc, ⟨hv, fun h => by simp [ite_eq_iff, hn] at h⟩, fun e he => .inl he⟩
  case getState newState =>
    simp only [DataThread.step, SensorDevice.getProperty_state]
    exact ⟨hc, ⟨hv, fun h => by simp [ite_eq_iff] at h⟩, fun e he => .inl he⟩
  case putState newState =>
    simp only [DataThread.step]
    split <;> exact ⟨hc, ⟨hv, fun h => by simp [hn] at h⟩, fun e he => .inl he⟩
  case done => exact ⟨hc, ⟨hv, hf⟩, fun e he => .inl he⟩

/-- The axes of the cache together, the data events posted with their axes together, and
every path sound. -/
structure DataPaths.AxesTogether (s : DataPaths) : Prop where
  cache : s.shared.view.AxesTogether
  events : ∀ e ∈ s.shared.dataEvents, e.AxesTogether
  threads : ∀ t ∈ s.threads, t.Sound

theorem DataPaths.axesTogether_stepThread (s : DataPaths) (i : Nat) (h : s.AxesTogether) :
    DataPaths.AxesTogether (s.stepThread (DataThread.step c) i) := by
  refine Threads.stepThread_induction _ DataPaths.AxesTogether ?_ s i h
  rintro s i t ht ⟨hc, he, hts⟩
  obtain ⟨hc', ht', he'⟩ := DataThread.axes_step c t s.shared hc (hts t (List.getElem?_mem ht))
  refine ⟨hc', fun e hmem => (he' e hmem).elim (he e) id, fun t' hmem => ?_⟩
  rcases List.mem_or_eq_of_mem_set hmem with hmem | rfl
  exacts [hts t' hmem, ht']

/-- The three axes of the data field cache are all present or all absent. -/
def SensorDevice.AxesPresent (d : SensorDevice) : Prop :=
  (getValue d.sensorDataFieldValues .sensorDataTypeAccelerationXG).isSome =
      (getValue d.sensorDataFieldValues .sensorDataTypeAccelerationYG).isSome ∧
    (getValue d.sensorDataFieldValues .sensorDataTypeAccelerationYG).isSome =
      (getValue d.sensorDataFieldValues .sensorDataTypeAccelerationZG).isSome

theorem DataPaths.axesTogether_start {d : SensorDevice} (hd : d.AxesPresent) (ps : List DataPath) :
    (DataPaths.start d ps).AxesTogether := by
  refine ⟨?_, by simp [DataPaths.start, DataState.ofDevice], ?_⟩
  · obtain ⟨hxy, hyz⟩ := hd
    simp only [TaggedValues.AxesTogether, DataState.origin_view, DataPaths.start,
      DataState.ofDevice, getValue_nil]
    constructor
    · cases hx : getValue d.sensorDataFieldValues .sensorDataTypeAccelerationXG <;>
        cases hy : getValue d.sensorDataFieldValues .sensorDataTypeAccelerationYG <;> simp_all
    · cases hy : getValue d.sensorDataFieldValues .sensorDataTypeAccelerationYG <;>
        cases hz : getValue d.sensorDataFieldValues .sensorDataTypeAccelerationZG <;> simp_all
  · simp only [DataPaths.start, List.mem_map]
    rintro _ ⟨p, -, rfl⟩
    exact ⟨.inl rfl, by cases p <;> simp [DataThread.init]⟩

/-- **The axes of a data event come from one sample**: whatever the interleaving of the data
paths, started on a cache whose three axes are all present or all absent, every data event
`ReportIntervalExpired` posts has its X, Y and Z values from one sample. -/
theorem axes_together_run {d : SensorDevice} (hd : d.AxesPresent) (ps : List DataPath)
    (schedule : List Nat) :
    ∀ e ∈ ((DataPaths.start d ps).run (DataThread.step c) schedule).shared.dataEvents,
      e.AxesTogether :=
  (Threads.run_induction _ _ (DataPaths.axesTogether_stepThread c)
    (DataPaths.axesTogether_start hd ps) schedule).events

/-- A thread running alone keeps the axes of the cache together and stays sound. -/
theorem DataThread.axes_runs {p q : DataThread × DataState} (h : Threads.Runs (step c) p q)
    (hc : p.2.view.AxesTogether) (ht : p.1.Sound) : q.2.view.AxesTogether ∧ q.1.Sound := by
  induction h with
  | refl => exact ⟨hc, ht⟩
  | tail _ hstep ih =>
    rw [← hstep]
    exact ⟨(axes_step c _ _ ih.1 ih.2).1, (axes_step c _ _ ih.1 ih.2).2.1⟩

/-- **A `GetDataFields` running alone returns the three axes of one sample**: from a cache
whose axes are together, the path asked for the three axes returns them from one sample, or
all three missing. -/
theorem DataPath.getDataFields_axes_alone (keys : List PropertyKey)
    (hk : .sensorDataTypeAccelerationXG ∈ keys ∧ .sensorDataTypeAccelerationYG ∈ keys ∧
      .sensorDataTypeAccelerationZG ∈ keys)
    (s : DataState) (hc : s.view.AxesTogether) :
    ∃ t s', Threads.Runs (DataThread.step c) (DataThread.init (.getDataFields keys), s) (t, s') ∧
      t.pc = .done ∧ t.fields.AxesTogether := by
  obtain ⟨t₁, s₁, e₁, hf₁, hpc₁, -, -⟩ := DataThread.runs_pollIfStale c keys s
  by_cases hp : (s.device.pollIfStale c).1.succeeded
  · simp only [hp, if_true] at hpc₁
    obtain ⟨hxy, hyz⟩ := (DataThread.axes_runs c e₁ hc ⟨.inl rfl, by simp [DataThread.init]⟩).1
    obtain ⟨t₂, e₂, hpc₂, -, -, -, horigin⟩ := DataThread.runs_getDataFieldsLoop c keys hpc₁ s₁
    refine ⟨t₂, s₁, Threads.Runs.trans (DataThread.step c) e₁ e₂, hpc₂, ?_⟩
    simp only [TaggedValues.AxesTogether, horigin, hk.1, hk.2.1, hk.2.2, if_true, hxy, hyz, and_self]
  · simp only [hp, Bool.false_eq_true, if_false] at hpc₁
    refine ⟨t₁, s₁, e₁, hpc₁, ?_⟩
    simp [TaggedValues.AxesTogether, TaggedValues.origin, hf₁.fields, DataThread.init]

/-! ## Two posts for one transition -/

/-- `Start` on the initialised sensor: `NO_DATA`, no change flagged.  A poll and an
interrupt work item both read `NO_DATA`; the poll writes `READY` and a report posts it; the
work item writes `READY` over `READY` and flags it again, and the next report posts `READY`
once more.  One transition of the state, two writes, two posts. -/
theorem state_change_posted_twice :
    (let d := (SensorDevice.start Adxl345.dataSheet
        (SensorDevice.initialDevice Adxl345.dataSheet 10)).2
      let s := (DataPaths.start d
          [.pollForData, .interruptWorkItem, .reportIntervalExpired, .reportIntervalExpired]).run
        (DataThread.step Adxl345.dataSheet) [0, 0, 0, 0, 1, 1, 1, 1, 0, 2, 2, 2, 2, 1, 3, 3, 3, 3]
      d.stateChanged = false ∧ (∀ t ∈ s.threads, t.pc = .done) ∧ s.shared.transitions = 1 ∧
        s.shared.stateWrites = 2 ∧
        s.shared.stateChanges = [SensorState.ready.toUInt32, SensorState.ready.toUInt32]) := by
  with_unfolding_all decide

/-! ## Torn samples -/

/-- A client connected and subscribed (eventing, `READY`).  Sample `0` comes in by an
interrupt work item.  `GetDataFields` reads the X axis; a second work item reads sample `1`
and stamps its time; a report takes the cache; the work item merges sample `1`; then
`GetDataFields` reads Y, Z and the time stamp.  The client gets X of sample `0` with Y and Z
of sample `1`, and the data event has the axes of sample `0` with the time of sample `1`. -/
theorem torn_data_fields :
    (let d := runDevice Adxl345.dataSheet [.clientConnect 1, .clientSubscribeToEvents 1]
        (SensorDevice.start Adxl345.dataSheet (SensorDevice.initialDevice Adxl345.dataSheet 10)).2
      let keys : List PropertyKey := [.sensorDataTypeAccelerationXG, .sensorDataTypeAccelerationYG,
        .sensorDataTypeAccelerationZG, .sensorDataTypeTimestamp]
      let s := (DataPaths.start d
          [.interruptWorkItem, .getDataFields keys, .interruptWorkItem, .reportIntervalExpired]).run
        (DataThread.step Adxl345.dataSheet)
        [0, 0, 0, 0, 0, 1, 1, 2, 2, 3, 3, 3, 3, 2, 2, 2, 1, 1, 1, 1]
      (∀ t ∈ s.threads, t.pc = .done) ∧
        s.threads[1]?.map (fun t => keys.map t.fields.origin) =
          some [some (some 0), some (some 1), some (some 1), some (some 1)] ∧
        s.shared.dataEvents.map (fun e => keys.map e.origin) =
          [[some (some 0), some (some 0), some (some 0), some (some 1)]]) := by
  with_unfolding_all decide

end SpbAccelerometer
