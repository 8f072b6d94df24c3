import SpbAccelerometer.Registry

/-!
# The arbitrated report interval and the data update mode

`RecalculateProperties` starts the running minimum at `ULONG_MAX` and lowers it for every
client whose `desiredReportInterval` is set (`!= CURRENT_REPORT_INTERVAL_NOT_SET`) and
smaller; the flag `m_minReportIntervalExplicitlySet` records that it was lowered, and a
minimum still at `ULONG_MAX` at the end becomes the default.  So, over the set intervals `I`
of the clients (`explicitIntervals`):

    m_minReportIntervalExplicitlySet  =  some v ∈ I is below ULONG_MAX
    m_minReportInterval               =  min I, or the default when min I = ULONG_MAX or I = []

in every reachable state (`reachable_intervalArbitrated`, `minReportInterval_spec`).  The
start value doubles as the "not set" mark: `SetDesiredReportInterval` accepts `0xFFFFFFFF`,
and a client that sets it counts as one that set nothing (`reportInterval_ulongMax_ignored`).
-/

namespace SpbAccelerometer

open ClientManager

/-- The report intervals the clients set, in the map's order. -/
def ClientEntries.explicitIntervals (es : ClientEntries) : List Nat :=
  (es.map fun x => x.2.desiredReportInterval.toNat).filter (· ≠ 0)

theorem mem_explicitIntervals {es : ClientEntries} {v : Nat} :
    v ∈ ClientEntries.explicitIntervals es ↔
      (∃ x ∈ es, x.2.desiredReportInterval.toNat = v) ∧ v ≠ 0 := by
  simp [ClientEntries.explicitIntervals]

/-! ## The interval part of the client loop -/

/-- The smallest of a start value and a list, with its two characterising properties. -/
theorem foldl_min_spec (c : Nat) (L : List Nat) :
    (L.foldl min c = c ∨ L.foldl min c ∈ L) ∧ L.foldl min c ≤ c ∧ ∀ v ∈ L, L.foldl min c ≤ v := by
  have h : (c :: L).min? = some (L.foldl min c) := rfl
  have hle := (List.le_min?_iff (fun _ _ _ => le_min_iff) h).1 le_rfl
  exact ⟨List.mem_cons.1 (List.min?_mem min_choice h), hle _ (List.mem_cons_self _ _),
    fun v hv => hle v (List.mem_cons_of_mem _ hv)⟩

section Loop

variable {D : PortableDeviceValues} (hD : (D.map Prod.fst).Nodup) (hreal : ∀ kv ∈ D, kv.2.IsReal)
include hD hreal

/-- On fitting clients the loop leaves the smallest set interval below the start, and sets
the flag when one is below it. -/
theorem foldClients_interval (es : ClientEntries) (C : PortableDeviceValues) (cur : UInt32)
    (flag : Bool) (hes : ∀ x ∈ es, ∀ kv ∈ x.2.desiredSensitivityValues, SensitivityFits D kv) :
    (foldClients (foldedMinima D C) cur flag es).2.2.1.toNat =
        (ClientEntries.explicitIntervals es).foldl min cur.toNat ∧
      (foldClients (foldedMinima D C) cur flag es).2.2.2 =
        (flag || (ClientEntries.explicitIntervals es).any (· < cur.toNat)) := by
  induction es generalizing C cur flag with
  | nil => simp [foldClients, ClientEntries.explicitIntervals]
  | cons x rest ih =>
    have hx := foldDesiredSensitivities_spec hD hreal C _ (hes x (List.mem_cons_self _ _))
    have hrest := fun y hy => hes y (List.mem_cons_of_mem _ hy)
    simp only [foldClients, hx, HRESULT.succeeded_sOk, if_true]
    have hcons : ClientEntries.explicitIntervals (x :: rest) =
        (if x.2.desiredReportInterval.toNat ≠ 0 then [x.2.desiredReportInterval.toNat] else []) ++
          ClientEntries.explicitIntervals rest := by
      by_cases h0 : x.2.desiredReportInterval.toNat = 0 <;>
        simp [ClientEntries.explicitIntervals, List.filter_cons, h0]
    have h0 : x.2.desiredReportInterval ≠ currentReportIntervalNotSet ↔
        x.2.desiredReportInterval.toNat ≠ 0 := by
      rw [currentReportIntervalNotSet, Ne, Ne, ← uint32_toNat_inj]; rfl
    rw [hcons]
    split
    · next hlt =>
      rw [uint32_lt_iff, h0] at hlt
      obtain ⟨ih1, ih2⟩ := ih (C ++ x.2.desiredSensitivityValues) x.2.desiredReportInterval true hrest
      simp [hlt.1, hlt.2, ih1, ih2, min_eq_right hlt.2.le]
    · next hlt =>
      rw [uint32_lt_iff, h0] at hlt
      obtain ⟨ih1, ih2⟩ := ih (C ++ x.2.desiredSensitivityValues) cur flag hrest
      by_cases hz : x.2.desiredReportInterval.toNat = 0
      · simp [hz, ih1, ih2]
      · have hge : cur.toNat ≤ x.2.desiredReportInterval.toNat := by omega
        simp [hz, ih1, ih2, min_eq_left hge, Nat.not_lt.2 hge]

end Loop

/-- The interval members after a successful recalculation. -/
def IntervalArbitrated (s : ClientManager) : Prop :=
  let m := (ClientEntries.explicitIntervals s.clientList.entries).foldl min ulongMax.toNat
  s.minReportIntervalExplicitlySet =
      (ClientEntries.explicitIntervals s.clientList.entries).any (· < ulongMax.toNat) ∧
    s.minReportInterval.toNat = if m = ulongMax.toNat then s.defaultReportInterval.toNat else m

theorem recalculateProperties_intervalArbitrated (s : ClientManager)
    (hD : (s.defaultSensitivityValues.map Prod.fst).Nodup)
    (hreal : ∀ kv ∈ s.defaultSensitivityValues, kv.2.IsReal)
    (hkeys : s.minSensitivityValues.map Prod.fst = s.defaultSensitivityValues.map Prod.fst)
    (hfits : ∀ x ∈ s.clientList.entries, ∀ kv ∈ x.2.desiredSensitivityValues,
      SensitivityFits s.defaultSensitivityValues kv) :
    IntervalArbitrated (recalculateProperties s).2 := by
  obtain ⟨hok, -⟩ := foldClients_spec hD hreal s.clientList.entries [] ulongMax false hfits
  obtain ⟨h1, h2⟩ := foldClients_interval hD hreal s.clientList.entries [] ulongMax false hfits
  rw [← resetMinima_eq hkeys] at hok h1 h2
  simp only [IntervalArbitrated, recalculateProperties, hok, HRESULT.succeeded_sOk, if_true,
    recalculateProperties_clientList]
  refine ⟨by simpa using h2, ?_⟩
  rw [← h1]
  simp only [uint32_toNat_inj]
  split <;> rfl

theorem reachable_intervalArbitrated {di mi : UInt32} {D : PortableDeviceValues}
    (hreal : ∀ kv ∈ D, kv.2.IsReal) {s : ClientManager} (hs : Reachable di mi D s) :
    IntervalArbitrated s := by
  induction hs with
  | init =>
    simp [IntervalArbitrated, ClientManager.new, ClientMap.empty, initializeManager,
      ClientEntries.explicitIntervals]
  | step r hs ih =>
    rcases r.run_cases _ with h | ⟨m, c, sc, h, -⟩
    · rw [h]; exact ih
    · have ha := reachable_arbitrated hreal hs
      have ha' := ha.run r
      rw [h] at ha' ⊢
      exact recalculateProperties_intervalArbitrated _ ha.nodup ha.real
        ((congrArg (List.map Prod.fst) ha.mins).trans (keys_mapValues _ _)) (by simpa using ha'.fits)

/-- A set interval is below the start value `ULONG_MAX` unless it is `0xFFFFFFFF`. -/
theorem explicitIntervals_below_iff (es : ClientEntries) :
    (∃ v ∈ ClientEntries.explicitIntervals es, v < ulongMax.toNat) ↔
      ∃ x ∈ es, x.2.desiredReportInterval ≠ 0 ∧ x.2.desiredReportInterval ≠ ulongMax := by
  simp only [mem_explicitIntervals, Ne, ← uint32_toNat_inj]
  constructor
  · rintro ⟨_, ⟨⟨x, hx, rfl⟩, h0⟩, hlt⟩
    exact ⟨x, hx, h0, hlt.ne⟩
  · rintro ⟨x, hx, h0, hmax⟩
    have : x.2.desiredReportInterval.toNat < 2 ^ 32 := x.2.desiredReportInterval.toBitVec.isLt
    exact ⟨_, ⟨⟨x, hx, rfl⟩, h0⟩, by simp [ulongMax] at hmax ⊢; omega⟩

/-- **The arbitrated report interval.**  In every reachable state the explicit flag is set
iff some client set an interval other than `0` and `0xFFFFFFFF`; the arbitrated interval is
then a set interval no larger than any other, and otherwise the default. -/
theorem minReportInterval_spec {di mi : UInt32} {D : PortableDeviceValues}
    (hreal : ∀ kv ∈ D, kv.2.IsReal) {s : ClientManager} (hs : Reachable di mi D s) :
    (s.minReportIntervalExplicitlySet = true ↔ ∃ x ∈ s.clientList.entries,
      x.2.desiredReportInterval ≠ 0 ∧ x.2.desiredReportInterval ≠ ulongMax) ∧
    ((∃ x ∈ s.clientList.entries,
        x.2.desiredReportInterval ≠ 0 ∧ x.2.desiredReportInterval ≠ ulongMax) →
      (∃ x ∈ s.clientList.entries, s.minReportInterval = x.2.desiredReportInterval) ∧
        ∀ x ∈ s.clientList.entries, x.2.desiredReportInterval ≠ 0 →
          s.minReportInterval ≤ x.2.desiredReportInterval) ∧
    ((∀ x ∈ s.clientList.entries,
        x.2.desiredReportInterval = 0 ∨ x.2.desiredReportInterval = ulongMax) →
      s.minReportInterval = di) := by
  obtain ⟨hflag, hmin⟩ := reachable_intervalArbitrated hreal hs
  obtain ⟨-, hdi, -⟩ := reachable_config hs
  obtain ⟨hmem, hc, hle⟩ := foldl_min_spec ulongMax.toNat (ClientEntries.explicitIntervals s.clientList.entries)
  rw [← explicitIntervals_below_iff]
  refine ⟨by simp [hflag], fun ⟨v, hv, hlt⟩ => ?_, fun hall => ?_⟩
  · have hne : (ClientEntries.explicitIntervals s.clientList.entries).foldl min ulongMax.toNat ≠
        ulongMax.toNat := by have := hle v hv; omega
    rw [if_neg hne] at hmin
    obtain ⟨⟨x, hx, hxm⟩, -⟩ := mem_explicitIntervals.1 (hmem.resolve_left hne)
    refine ⟨⟨x, hx, uint32_toNat_inj.1 (hmin.trans hxm.symm)⟩, fun y hy hy0 => ?_⟩
    rw [uint32_le_iff, hmin]
    exact hle _ (mem_explicitIntervals.2 ⟨⟨y, hy, rfl⟩, by simpa [← uint32_toNat_inj] using hy0⟩)
  · have hL : ∀ v ∈ ClientEntries.explicitIntervals s.clientList.entries, v = ulongMax.toNat := by
      intro v hv
      obtain ⟨⟨x, hx, rfl⟩, h0⟩ := mem_explicitIntervals.1 hv
      rcases hall x hx with h | h
      · simp [h] at h0
      · rw [h]
    have heq : (ClientEntries.explicitIntervals s.clientList.entries).foldl min ulongMax.toNat =
        ulongMax.toNat := hmem.elim id (hL _)
    rw [if_pos heq, hdi] at hmin
    exact uint32_toNat_inj.1 hmin

/-- **The data update mode.**  With fewer than `2^32` clients: `Off` without clients,
`Eventing` when a client subscribed or set an interval other than `0` and `0xFFFFFFFF`,
`Polling` otherwise. -/
theorem getDataUpdateMode_spec {di mi : UInt32} {D : PortableDeviceValues}
    (hreal : ∀ kv ∈ D, kv.2.IsReal) {s : ClientManager} (hs : Reachable di mi D s)
    (hlt : s.clientList.size < 2 ^ 32) :
    s.getDataUpdateMode =
      if s.clientList.entries = [] then .off
      else if (∃ x ∈ s.clientList.entries, x.2.subscribed = true) ∨
          ∃ x ∈ s.clientList.entries,
            x.2.desiredReportInterval ≠ 0 ∧ x.2.desiredReportInterval ≠ ulongMax
        then .eventing else .polling := by
  obtain ⟨hc, hsc, -⟩ := clientCount_eq_size hs hlt
  have h0 : s.clientCount = 0 ↔ s.clientList.entries = [] := by
    rw [← uint32_toNat_inj, ← hc, UInt32.toNat_zero, ClientMap.size_eq_zero_iff]
  have hsub : 0 < s.subscriberCount ↔ ∃ x ∈ s.clientList.entries, x.2.subscribed = true := by
    rw [uint32_lt_iff, ← hsc, UInt32.toNat_zero, ClientMap.subscribers_pos_iff]
  simp only [getDataUpdateMode, h0, hsub, (minReportInterval_spec hreal hs).1]

/-- `SetDesiredReportInterval` accepts `0xFFFFFFFF`, and the recalculation then takes it
for its own "not set" mark: the only client has a set interval, yet the flag stays clear,
the arbitrated interval is the default and the mode is `Polling`. -/
theorem reportInterval_ulongMax_ignored :
    (let s := ((ClientManager.new.initializeManager 100 10 []).2.connect 1).2
    let r := s.setDesiredProperty 1 .sensorPropertyCurrentReportInterval (.var (.ui4 0xFFFFFFFF))
    Reachable 100 10 [] r.2.2 ∧ r.1 = .sOk ∧
      r.2.2.clientList.find 1 = some ⟨false, [], 0xFFFFFFFF⟩ ∧
      r.2.2.minReportIntervalExplicitlySet = false ∧
      r.2.2.getArbitratedProperty .sensorPropertyCurrentReportInterval = (.sOk, .var (.ui4 100)) ∧
      r.2.2.getDataUpdateMode = .polling) :=
  ⟨.step (.setDesiredProperty 1 .sensorPropertyCurrentReportInterval (.var (.ui4 0xFFFFFFFF)))
    (.step (.connect 1) .init), by decide⟩

end SpbAccelerometer
