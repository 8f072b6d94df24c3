import SpbAccelerometer.Adxl345

/-!
# `ParseResources`: the resource hub connection and the interrupt

`InitializeDevice` finds the driver's resources with `ParseResources`.  It walks the
translated resource list, taking the raw descriptor of the same index, and stops at the first
failure: a null descriptor is `E_POINTER`; an I2C serial connection gives the resource hub id
(`*pRequestId`), and a second one is `ERROR_INVALID_PARAMETER`; the first interrupt is
connected (`ConnectInterrupt`, three framework calls) and later ones are passed over.  When
the walk succeeds without a connection or without an interrupt the result is
`ERROR_RESOURCE_NOT_PRESENT`.

    parseResources raw (some ts) id₀ b succeeds →
      ts holds no null, the raw list none at the same indices, one I2C connection,
      whose id is returned, and an interrupt                  (parseResources_accepts_only_valid)
    b.faults = [] → such a list → parseResources raw (some ts) id₀ b = (S_OK, its id, b)
                                                              (parseResources_accepts_valid)

Whatever the outcomes of the framework calls, what is accepted is well formed; on a reliable
bus everything well formed is accepted, and each way of being ill formed has its own status
(`parseResources_error_paths`).
-/

namespace SpbAccelerometer

/-! ## Algorithm -/

/-- `CM_RESOURCE_CONNECTION_CLASS_SERIAL`. -/
def cmResourceConnectionClassSerial : UInt8 := 1

/-- `CM_RESOURCE_CONNECTION_TYPE_SERIAL_I2C`. -/
def cmResourceConnectionTypeSerialI2c : UInt8 := 1

/-- A `CM_PARTIAL_RESOURCE_DESCRIPTOR`, by the fields `ParseResources` reads. -/
inductive ResourceDescriptor where
  /-- `CmResourceTypeConnection`: `u.Connection.Class`, `Type`, `IdLowPart`, `IdHighPart`. -/
  | connection (connectionClass connectionType : UInt8) (idLowPart idHighPart : UInt32)
  /-- `CmResourceTypeInterrupt`. -/
  | interrupt
  /-- Any other resource type. -/
  | other
  deriving DecidableEq, Repr

/-- The statuses of `ParseResources`: an `HRESULT` of the model, or one of the three codes
only it returns. -/
inductive ResourceStatus where
  | hr (h : HRESULT)
  | ePointer
  | errorInvalidParameter
  | errorResourceNotPresent
  deriving DecidableEq, Repr

/-- `SUCCEEDED(hr)`. -/
def ResourceStatus.succeeded : ResourceStatus → Bool
  | hr h => h.succeeded
  | _ => false

/-- `ConnectInterrupt(pWdfDevice, RawResource, TranslatedResource)`: `QueryInterface`,
`CreateInterrupt` and `AssignContext`, each a framework call made when the one before
succeeded. -/
def connectInterrupt (b : Bus) : HRESULT × Bus :=
  let q := b.call
  if q.1.succeeded then
    let i := q.2.call
    if i.1.succeeded then i.2.call else i
  else q

/-- The locals of the loop of `ParseResources`: `hr`, `*pRequestId`, `fRequestFound`,
`fInterruptFound`, and the bus the framework calls go through. -/
structure ParseState where
  hr : ResourceStatus
  requestId : UInt32 × UInt32
  requestFound : Bool
  interruptFound : Bool
  bus : Bus

/-- The `switch` on the type of one translated descriptor. -/
def ParseState.parseDescriptor (s : ParseState) : ResourceDescriptor → ParseState
  | .connection connectionClass connectionType idLowPart idHighPart =>
    if connectionClass = cmResourceConnectionClassSerial ∧
        connectionType = cmResourceConnectionTypeSerialI2c then
      if s.requestFound = false then
        { s with requestId := (idLowPart, idHighPart), requestFound := true }
      else { s with hr := .errorInvalidParameter }
    else s
  | .interrupt =>
    if s.interruptFound = false then
      let r := connectInterrupt s.bus
      { s with hr := .hr r.1, bus := r.2, interruptFound := r.1.succeeded }
    else s
  | .other => s

/-- The `for` loop from index `i` over the rest of the translated list; `raw[i]` is
`pWdfResourcesRaw->GetDescriptor(i)`, null past its end. -/
def parseResourcesLoop (raw : List (Option ResourceDescriptor)) :
    Nat → List (Option ResourceDescriptor) → ParseState → ParseState
  | _, [], s => s
  | i, t :: rest, s =>
    match t, raw[i]? with
    | some desc, some (some _) =>
      let s := s.parseDescriptor desc
      if s.hr.succeeded then parseResourcesLoop raw (i + 1) rest s else s
    | _, _ => { s with hr := .ePointer }

/-- `ParseResources(pWdfDevice, pWdfResourcesRaw, pWdfResourcesTranslated, pRequestId)`: the
status, `*pRequestId` (`requestId` on entry) and the bus.  `none` is a null translated list. -/
def parseResources (raw : List (Option ResourceDescriptor))
    (translated : Option (List (Option ResourceDescriptor))) (requestId : UInt32 × UInt32)
    (b : Bus) : ResourceStatus × (UInt32 × UInt32) × Bus :=
  match translated with
  | none => (.hr .eInvalidArg, requestId, b)
  | some ts =>
    let s := parseResourcesLoop raw 0 ts ⟨.hr .sOk, requestId, false, false, b⟩
    if s.hr.succeeded ∧ (s.requestFound = false ∨ s.interruptFound = false) then
      (.errorResourceNotPresent, s.requestId, s.bus)
    else (s.hr, s.requestId, s.bus)

/-! ## Well-formed resources -/

/-- The resource hub id of an I2C serial connection. -/
def ResourceDescriptor.i2cId : ResourceDescriptor → Option (UInt32 × UInt32)
  | .connection connectionClass connectionType idLowPart idHighPart =>
    if connectionClass = cmResourceConnectionClassSerial ∧
        connectionType = cmResourceConnectionTypeSerialI2c then some (idLowPart, idHighPart)
    else none
  | _ => none

/-- Resources the driver can run on: a raw descriptor beside each translated one, one I2C
serial connection, with resource hub id `id`, and an interrupt. -/
structure ResourcesValid (raw : List (Option ResourceDescriptor)) (ds : List ResourceDescriptor)
    (id : UInt32 × UInt32) : Prop where
  raw : ∀ i < ds.length, ∃ r, raw[i]? = some (some r)
  connection : ds.filterMap ResourceDescriptor.i2cId = [id]
  interrupt : ResourceDescriptor.interrupt ∈ ds

/-- The connection ids found so far: `*pRequestId` once `fRequestFound` is set. -/
def ParseState.found (s : ParseState) : List (UInt32 × UInt32) :=
  if s.requestFound then [s.requestId] else []

/-! ## Lemmas -/

theorem connectInterrupt_reliable {b : Bus} (hb : b.faults = []) :
    connectInterrupt b = (.sOk, b) := by
  simp [connectInterrupt, Bus.call_reliable hb]

namespace ParseState

variable {s : ParseState}

/-- A descriptor that leaves `hr` succeeded adds its id, if it is an I2C connection, to those
found, and sets `fInterruptFound` when it is an interrupt. -/
theorem parseDescriptor_succeeded {desc : ResourceDescriptor}
    (h : (s.parseDescriptor desc).hr.succeeded = true) :
    (s.parseDescriptor desc).found = s.found ++ [desc].filterMap ResourceDescriptor.i2cId ∧
      ((s.parseDescriptor desc).interruptFound = true ↔
        s.interruptFound = true ∨ .interrupt = desc) := by
  cases desc with
  | connection cls type lo hi =>
    simp only [parseDescriptor, ResourceDescriptor.i2cId] at h ⊢
    split_ifs at h ⊢ with hc hf <;>
      simp_all [found, ResourceStatus.succeeded, ResourceDescriptor.i2cId]
  | interrupt =>
    simp only [parseDescriptor] at h ⊢
    split_ifs at h ⊢ with hf <;>
      simp_all [found, ResourceStatus.succeeded, ResourceDescriptor.i2cId]
  | other => simp [parseDescriptor, ResourceDescriptor.i2cId]

/-- On a reliable bus, a descriptor that finds no second connection leaves `S_OK` and the
bus. -/
theorem parseDescriptor_reliable (hs : s.hr = .hr .sOk) (hb : s.bus.faults = [])
    {desc : ResourceDescriptor}
    (hl : (s.found ++ [desc].filterMap ResourceDescriptor.i2cId).length ≤ 1) :
    (s.parseDescriptor desc).hr = .hr .sOk ∧ (s.parseDescriptor desc).bus = s.bus := by
  cases desc with
  | connection cls type lo hi =>
    simp only [parseDescriptor, ResourceDescriptor.i2cId] at hl ⊢
    split_ifs at hl ⊢ with hc hf <;> simp_all [found, ResourceDescriptor.i2cId]
  | interrupt =>
    simp only [parseDescriptor]
    split_ifs <;> simp [hs, connectInterrupt_reliable hb]
  | other => exact ⟨hs, rfl⟩

theorem found_length_le (s : ParseState) : s.found.length ≤ 1 := by
  unfold found; split <;> simp

/-- A second I2C connection is refused. -/
theorem parseDescriptor_second (hf : s.requestFound = true) {desc : ResourceDescriptor}
    {id : UInt32 × UInt32} (hd : desc.i2cId = some id) :
    (s.parseDescriptor desc).hr = .errorInvalidParameter := by
  cases desc with
  | connection cls type lo hi =>
    simp only [ResourceDescriptor.i2cId] at hd
    split_ifs at hd with hc
    simp [parseDescriptor, hc, hf]
  | _ => cases hd

end ParseState

/-- The loop goes on past a descriptor with its raw descriptor that leaves `hr` succeeded. -/
theorem parseResourcesLoop_cons {raw : List (Option ResourceDescriptor)} {i : Nat}
    {r : ResourceDescriptor} (hr : raw[i]? = some (some r)) {s : ParseState}
    {desc : ResourceDescriptor} (h : (s.parseDescriptor desc).hr.succeeded = true)
    (rest : List (Option ResourceDescriptor)) :
    parseResourcesLoop raw i (some desc :: rest) s =
      parseResourcesLoop raw (i + 1) rest (s.parseDescriptor desc) := by
  simp only [parseResourcesLoop, hr, h, if_true]

/-- What the loop accepts: no null descriptor, the ids of its I2C connections added to those
found, an interrupt noted. -/
theorem parseResourcesLoop_sound (raw : List (Option ResourceDescriptor)) :
    ∀ (ts : List (Option ResourceDescriptor)) (i : Nat) (s : ParseState),
      (parseResourcesLoop raw i ts s).hr.succeeded = true →
      ∃ ds : List ResourceDescriptor, ts = ds.map some ∧
        (∀ j < ds.length, ∃ r, raw[i + j]? = some (some r)) ∧
        (parseResourcesLoop raw i ts s).found = s.found ++ ds.filterMap ResourceDescriptor.i2cId ∧
        ((parseResourcesLoop raw i ts s).interruptFound = true ↔
          s.interruptFound = true ∨ .interrupt ∈ ds)
  | [], _, s, _ => ⟨[], rfl, by simp, by simp [parseResourcesLoop], by simp [parseResourcesLoop]⟩
  | t :: rest, i, s, h => by
    rcases t with _ | desc
    · simp [parseResourcesLoop, ResourceStatus.succeeded] at h
    rcases hr : raw[i]? with _ | _ | r
    · simp [parseResourcesLoop, hr, ResourceStatus.succeeded] at h
    · simp [parseResourcesLoop, hr, ResourceStatus.succeeded] at h
    · simp only [parseResourcesLoop, hr] at h ⊢
      split_ifs at h ⊢ with h₁
      · obtain ⟨hf, hi⟩ := ParseState.parseDescriptor_succeeded h₁
        obtain ⟨ds, rfl, hraw, hfound, hint⟩ := parseResourcesLoop_sound raw rest (i + 1) _ h
        refine ⟨desc :: ds, rfl, fun j hj => ?_, ?_, ?_⟩
        · cases j with
          | zero => exact ⟨r, hr⟩
          | succ j =>
            rw [show i + (j + 1) = i + 1 + j by omega]
            exact hraw j (by simpa using hj)
        · rw [hfound, hf, List.append_assoc, ← List.filterMap_append, List.singleton_append]
        · rw [hint, hi]; simp [or_assoc]
      · exact absurd h h₁

/-- On a reliable bus, a loop over well-formed descriptors keeps `S_OK` and the bus, and finds
their connection ids and interrupts. -/
theorem parseResourcesLoop_reliable (raw : List (Option ResourceDescriptor)) :
    ∀ (ds : List ResourceDescriptor) (i : Nat) (s : ParseState), s.hr = .hr .sOk →
      s.bus.faults = [] → (∀ j < ds.length, ∃ r, raw[i + j]? = some (some r)) →
      (s.found ++ ds.filterMap ResourceDescriptor.i2cId).length ≤ 1 →
      (parseResourcesLoop raw i (ds.map some) s).hr = .hr .sOk ∧
        (parseResourcesLoop raw i (ds.map some) s).bus = s.bus ∧
        (parseResourcesLoop raw i (ds.map some) s).found =
          s.found ++ ds.filterMap ResourceDescriptor.i2cId ∧
        ((parseResourcesLoop raw i (ds.map some) s).interruptFound = true ↔
          s.interruptFound = true ∨ .interrupt ∈ ds)
  | [], _, s, hs, _, _, _ => ⟨hs, rfl, by simp [parseResourcesLoop], by simp [parseResourcesLoop]⟩
  | desc :: ds, i, s, hs, hb, hraw, hl => by
    obtain ⟨r, hr⟩ := hraw 0 (by simp)
    rw [Nat.add_zero] at hr
    have hl₁ : (s.found ++ [desc].filterMap ResourceDescriptor.i2cId).length ≤ 1 := by
      rw [← List.singleton_append, List.filterMap_append, ← List.append_assoc,
        List.length_append] at hl
      omega
    obtain ⟨hs₁, hb₁⟩ := ParseState.parseDescriptor_reliable hs hb hl₁
    obtain ⟨hf, hi⟩ := @ParseState.parseDescriptor_succeeded s desc (by rw [hs₁]; rfl)
    obtain ⟨h₁, h₂, h₃, h₄⟩ := parseResourcesLoop_reliable raw ds (i + 1) _ hs₁ (hb₁ ▸ hb)
      (fun j hj => by
        rw [show i + 1 + j = i + (j + 1) by omega]; exact hraw (j + 1) (by simpa using hj))
      (by rwa [hf, List.append_assoc, ← List.filterMap_append, List.singleton_append])
    rw [List.map_cons, parseResourcesLoop_cons hr (by rw [hs₁]; rfl)]
    refine ⟨h₁, h₂.trans hb₁, ?_, ?_⟩
    · rw [h₃, hf, List.append_assoc, ← List.filterMap_append, List.singleton_append]
    · rw [h₄, hi]; simp [or_assoc]

/-- On a reliable bus, a second I2C connection ends the loop with `ERROR_INVALID_PARAMETER`
when no null descriptor comes first. -/
theorem parseResourcesLoop_invalid (raw : List (Option ResourceDescriptor)) :
    ∀ (ds : List ResourceDescriptor) (i : Nat) (s : ParseState), s.hr = .hr .sOk →
      s.bus.faults = [] → (∀ j < ds.length, ∃ r, raw[i + j]? = some (some r)) →
      2 ≤ (s.found ++ ds.filterMap ResourceDescriptor.i2cId).length →
      (parseResourcesLoop raw i (ds.map some) s).hr = .errorInvalidParameter
  | [], _, s, _, _, _, hl => by have := s.found_length_le; simp at hl; omega
  | desc :: ds, i, s, hs, hb, hraw, hl => by
    obtain ⟨r, hr⟩ := hraw 0 (by simp)
    rw [Nat.add_zero] at hr
    rw [← List.singleton_append, List.filterMap_append, ← List.append_assoc] at hl
    by_cases hl₁ : (s.found ++ [desc].filterMap ResourceDescriptor.i2cId).length ≤ 1
    · obtain ⟨hs₁, hb₁⟩ := ParseState.parseDescriptor_reliable hs hb hl₁
      have hf := (@ParseState.parseDescriptor_succeeded s desc (by rw [hs₁]; rfl)).1
      rw [List.map_cons, parseResourcesLoop_cons hr (by rw [hs₁]; rfl)]
      exact parseResourcesLoop_invalid raw ds (i + 1) _ hs₁ (hb₁ ▸ hb)
        (fun j hj => by
          rw [show i + 1 + j = i + (j + 1) by omega]; exact hraw (j + 1) (by simpa using hj))
        (by rwa [hf])
    · -- the descriptor is the second connection
      have h₁ := s.found_length_le
      have hfound : s.requestFound = true := by
        by_contra hn; simp [ParseState.found, hn] at hl₁ h₁
        cases h : desc.i2cId <;> simp [h] at hl₁
      obtain ⟨id, hid⟩ : ∃ id, desc.i2cId = some id := by
        cases h : desc.i2cId <;> simp [h] at hl₁ ⊢; omega
      have he := ParseState.parseDescriptor_second hfound hid
      simp [parseResourcesLoop, hr, he, ResourceStatus.succeeded]

/-- On a reliable bus, with at most one I2C connection, a null descriptor ends the loop with
`E_POINTER`. -/
theorem parseResourcesLoop_pointer (raw : List (Option ResourceDescriptor)) :
    ∀ (ts : List (Option ResourceDescriptor)) (i : Nat) (s : ParseState), s.hr = .hr .sOk →
      s.bus.faults = [] →
      (s.found ++ (ts.filterMap id).filterMap ResourceDescriptor.i2cId).length ≤ 1 →
      ¬ (∃ ds : List ResourceDescriptor, ts = ds.map some ∧
        ∀ j < ds.length, ∃ r, raw[i + j]? = some (some r)) →
      (parseResourcesLoop raw i ts s).hr = .ePointer
  | [], _, _, _, _, _, hn => absurd ⟨[], rfl, by simp⟩ hn
  | none :: _, _, _, _, _, _, _ => by simp [parseResourcesLoop]
  | some desc :: rest, i, s, hs, hb, hl, hn => by
    rcases hr : raw[i]? with _ | _ | r
    · simp [parseResourcesLoop, hr]
    · simp [parseResourcesLoop, hr]
    · rw [show (some desc :: rest).filterMap id = desc :: rest.filterMap id from rfl,
        ← List.singleton_append, List.filterMap_append, ← List.append_assoc] at hl
      have hl₁ : (s.found ++ [desc].filterMap ResourceDescriptor.i2cId).length ≤ 1 := by
        simp only [List.length_append] at hl ⊢; omega
      obtain ⟨hs₁, hb₁⟩ := ParseState.parseDescriptor_reliable hs hb hl₁
      have hf := (@ParseState.parseDescriptor_succeeded s desc (by rw [hs₁]; rfl)).1
      rw [parseResourcesLoop_cons hr (by rw [hs₁]; rfl)]
      refine parseResourcesLoop_pointer raw rest (i + 1) _ hs₁ (hb₁ ▸ hb) (by rwa [hf]) ?_
      rintro ⟨ds, rfl, hraw⟩
      refine hn ⟨desc :: ds, rfl, fun j hj => ?_⟩
      cases j with
      | zero => exact ⟨r, hr⟩
      | succ j =>
        rw [show i + (j + 1) = i + 1 + j by omega]
        exact hraw j (by simpa using hj)

theorem parseResources_valid_of_succeeded {raw ts : List (Option ResourceDescriptor)}
    {requestId : UInt32 × UInt32} {b : Bus}
    (h : (parseResources raw (some ts) requestId b).1.succeeded = true) :
    ∃ ds, ts = ds.map some ∧
      ResourcesValid raw ds (parseResources raw (some ts) requestId b).2.1 := by
  simp only [parseResources] at h ⊢
  split_ifs at h ⊢ with hn
  · simp [ResourceStatus.succeeded] at h
  · obtain ⟨ds, rfl, hraw, hfound, hint⟩ := parseResourcesLoop_sound raw ts 0 _ h
    simp only [not_and, not_or, Bool.not_eq_false] at hn
    obtain ⟨hf, hi⟩ := hn h
    refine ⟨ds, rfl, ⟨fun j hj => by simpa using hraw j hj, ?_, ?_⟩⟩
    · simpa [ParseState.found, hf] using hfound.symm
    · simpa using hint.1 hi

/-- **What `ParseResources` accepts is well formed.**  Whatever the outcomes of the framework
calls of `ConnectInterrupt`, when `ParseResources` succeeds, the translated list has no null
descriptor, and with the raw list it is well formed: one I2C serial connection, whose
resource hub id is the `*pRequestId` returned, and an interrupt. -/
theorem parseResources_accepts_only_valid (raw ts : List (Option ResourceDescriptor))
    (requestId : UInt32 × UInt32) (b : Bus)
    (h : (parseResources raw (some ts) requestId b).1.succeeded = true) :
    ∃ ds, ts = ds.map some ∧
      ResourcesValid raw ds (parseResources raw (some ts) requestId b).2.1 :=
  parseResources_valid_of_succeeded h

/-- An I2C connection with id `(7, 0)`, then an interrupt. -/
theorem parseResources_accepts_only_valid_connected :
    (parseResources [some .other, some .other]
      (some [some (.connection 1 1 7 0), some .interrupt]) (0, 0) ⟨fun _ => 0, [], [], fun _ => 0⟩).1.succeeded
        = true ∧
      ∃ ds, [some (.connection 1 1 7 0), some .interrupt] = ds.map some ∧
        ResourcesValid [some .other, some .other] ds
          (parseResources [some .other, some .other]
            (some [some (.connection 1 1 7 0), some .interrupt]) (0, 0) ⟨fun _ => 0, [], [], fun _ => 0⟩).2.1 :=
  ⟨rfl, parseResources_accepts_only_valid _ _ _ _ rfl⟩

theorem parseResources_reliable_of_valid {raw : List (Option ResourceDescriptor)}
    {ds : List ResourceDescriptor} {id : UInt32 × UInt32} (hv : ResourcesValid raw ds id)
    (requestId : UInt32 × UInt32) {b : Bus} (hb : b.faults = []) :
    parseResources raw (some (ds.map some)) requestId b = (.hr .sOk, id, b) := by
  obtain ⟨h₁, h₂, h₃, h₄⟩ := parseResourcesLoop_reliable raw ds 0
    ⟨.hr .sOk, requestId, false, false, b⟩ rfl hb (fun j hj => by simpa using hv.raw j hj)
    (by simp [ParseState.found, hv.connection])
  simp only [ParseState.found, hv.connection, Bool.false_eq_true, if_false, List.nil_append] at h₃
  have hf :
      (parseResourcesLoop raw 0 (ds.map some) ⟨.hr .sOk, requestId, false, false, b⟩).requestFound =
        true := by
    by_contra hn; simp [hn] at h₃
  have hi := h₄.2 (.inr hv.interrupt)
  simp only [hf, if_true, List.cons.injEq, and_true] at h₃
  simp [parseResources, h₁, h₂, h₃, hf, hi, ResourceStatus.succeeded]

/-- **`ParseResources` accepts what is well formed.**  On a reliable bus, every translated list
with no null descriptor that is well formed with the raw list is accepted: `S_OK`, the id of
its one I2C serial connection, and the bus as it was. -/
theorem parseResources_accepts_valid (raw : List (Option ResourceDescriptor))
    {ds : List ResourceDescriptor} {id : UInt32 × UInt32} (hv : ResourcesValid raw ds id)
    (requestId : UInt32 × UInt32) {b : Bus} (hb : b.faults = []) :
    parseResources raw (some (ds.map some)) requestId b = (.hr .sOk, id, b) :=
  parseResources_reliable_of_valid hv requestId hb

theorem parseResources_accepts_valid_connected :
    ResourcesValid [some .other, some .other] [.connection 1 1 7 0, .interrupt] (7, 0) ∧
      (⟨fun _ => 0, [], [], fun _ => 0⟩ : Bus).faults = [] ∧
      parseResources [some .other, some .other]
        (some ([.connection 1 1 7 0, .interrupt].map some)) (0, 0) ⟨fun _ => 0, [], [], fun _ => 0⟩ =
          (.hr .sOk, (7, 0), ⟨fun _ => 0, [], [], fun _ => 0⟩) :=
  have hv : ResourcesValid [some .other, some .other] [.connection 1 1 7 0, .interrupt] (7, 0) :=
    ⟨fun i hi => match i, hi with
      | 0, _ => ⟨_, rfl⟩
      | 1, _ => ⟨_, rfl⟩
      | _ + 2, h => absurd h (by simp), rfl, by simp⟩
  ⟨hv, rfl, parseResources_accepts_valid _ hv (0, 0) rfl⟩

/-- **Each refusal of `ParseResources` has its status.**  On a reliable bus: a null
translated list is `E_INVALIDARG`; with at most one I2C connection, a null descriptor,
translated or raw, is `E_POINTER`; with no null descriptor, a second I2C connection is
`ERROR_INVALID_PARAMETER`, and a missing connection or interrupt `ERROR_RESOURCE_NOT_PRESENT`. -/
theorem parseResources_error_paths (raw : List (Option ResourceDescriptor))
    (requestId : UInt32 × UInt32) {b : Bus} (hb : b.faults = []) :
    (parseResources raw none requestId b).1 = .hr .eInvalidArg ∧
    (∀ ts : List (Option ResourceDescriptor),
      ((ts.filterMap id).filterMap ResourceDescriptor.i2cId).length ≤ 1 →
      ¬ (∃ ds : List ResourceDescriptor, ts = ds.map some ∧
        ∀ j < ds.length, ∃ r, raw[j]? = some (some r)) →
      (parseResources raw (some ts) requestId b).1 = .ePointer) ∧
    (∀ ds : List ResourceDescriptor, (∀ j < ds.length, ∃ r, raw[j]? = some (some r)) →
      2 ≤ (ds.filterMap ResourceDescriptor.i2cId).length →
      (parseResources raw (some (ds.map some)) requestId b).1 = .errorInvalidParameter) ∧
    (∀ ds : List ResourceDescriptor, (∀ j < ds.length, ∃ r, raw[j]? = some (some r)) →
      (ds.filterMap ResourceDescriptor.i2cId).length ≤ 1 →
      (ds.filterMap ResourceDescriptor.i2cId = [] ∨ .interrupt ∉ ds) →
      (parseResources raw (some (ds.map some)) requestId b).1 = .errorResourceNotPresent) := by
  have hstart : ParseState.found ⟨.hr .sOk, requestId, false, false, b⟩ = [] := rfl
  refine ⟨rfl, fun ts hl hn => ?_, fun ds hraw hl => ?_, fun ds hraw hl hm => ?_⟩
  · have h := parseResourcesLoop_pointer raw ts 0 ⟨.hr .sOk, requestId, false, false, b⟩ rfl hb
      (by rwa [hstart]) (by simpa using hn)
    simp [parseResources, h, ResourceStatus.succeeded]
  · have h := parseResourcesLoop_invalid raw ds 0 ⟨.hr .sOk, requestId, false, false, b⟩ rfl hb
      (by simpa using hraw) (by rwa [hstart])
    simp [parseResources, h, ResourceStatus.succeeded]
  · obtain ⟨h₁, -, h₃, h₄⟩ := parseResourcesLoop_reliable raw ds 0
      ⟨.hr .sOk, requestId, false, false, b⟩ rfl hb (by simpa using hraw) (by rwa [hstart])
    rw [hstart, List.nil_append] at h₃
    have hmiss : (parseResourcesLoop raw 0 (ds.map some)
        ⟨.hr .sOk, requestId, false, false, b⟩).requestFound = false ∨
        (parseResourcesLoop raw 0 (ds.map some)
          ⟨.hr .sOk, requestId, false, false, b⟩).interruptFound = false := by
      rcases hm with hm | hm
      · left; by_contra hf; simp [ParseState.found, hf, hm] at h₃
      · right; by_contra hi; simp [hi, hm] at h₄
    simp [parseResources, h₁, hmiss, ResourceStatus.succeeded]

/-- A null descriptor, two connections, and no interrupt. -/
theorem parseResources_error_paths_refused :
    (⟨fun _ => 0, [], [], fun _ => 0⟩ : Bus).faults = [] ∧
      (parseResources [some .other] (some [none]) (0, 0) ⟨fun _ => 0, [], [], fun _ => 0⟩).1 = .ePointer ∧
      (parseResources [some .other, some .other]
        (some ([.connection 1 1 7 0, .connection 1 1 8 0].map some)) (0, 0)
          ⟨fun _ => 0, [], [], fun _ => 0⟩).1 = .errorInvalidParameter ∧
      (parseResources [some .other] (some ([.connection 1 1 7 0].map some)) (0, 0)
        ⟨fun _ => 0, [], [], fun _ => 0⟩).1 = .errorResourceNotPresent := by
  refine ⟨rfl, (parseResources_error_paths [some .other] (0, 0) rfl).2.1 [none] (by decide) ?_,
    (parseResources_error_paths [some .other, some .other] (0, 0) rfl).2.2.1 _ ?_ (by decide),
    (parseResources_error_paths [some .other] (0, 0) rfl).2.2.2 _ ?_ (by decide) (.inr (by decide))⟩
  · rintro ⟨ds, h, -⟩; cases ds <;> simp at h
  · intro j hj
    match j, hj with
    | 0, _ => exact ⟨_, rfl⟩
    | 1, _ => exact ⟨_, rfl⟩
  · intro j hj
    match j, hj with
    | 0, _ => exact ⟨_, rfl⟩

end SpbAccelerometer
