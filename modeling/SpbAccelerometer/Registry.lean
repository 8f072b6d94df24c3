import SpbAccelerometer.Arbitration

/-!
# The client registry: counters and arbitrated sensitivities in every reachable state

Two invariants of the reachable states of `CClientManager`:

* `Counted`: `m_ClientCount` and `m_SubscriberCount` are the number of entries of the map
  and the number of subscribed entries, modulo `2^32` (the counters are `ULONG`).  Every
  request keeps it, whatever `Initialize` was given (`counted_run`).
* `Arbitrated`: every value a client stored fits the defaults, and
  `m_spMinSensitivityValues` is `arbitratedSensitivities` of the current clients.  Every
  request keeps it when the defaults are `VT_R4` or `VT_R8` values, as
  `CAccelerometerDevice::GetDefaultSettableProperties` provides (`arbitrated_run`).

With fewer than `2^32` clients the counters are exact, so the `ERROR_INVALID_STATE`
sanity checks of `Connect` and `Disconnect` never fire (`clientCount_eq_size`).
-/

namespace SpbAccelerometer

open ClientManager

/-- The counters match the map, modulo `2^32`. -/
def ClientManager.Counted (s : ClientManager) : Prop :=
  s.clientCount = UInt32.ofNat s.clientList.size ∧
    s.subscriberCount = UInt32.ofNat s.clientList.subscribers

section Counted

variable {s : ClientManager} (hc : s.Counted)
include hc

theorem counted_connect (h : IWDFFile) : (s.connect h).2.Counted := by
  unfold connect
  split_ifs with h0 hsz hf
  · exact hc
  · exact hc
  · exact hc
  · have hf : s.clientList.find h = none := by simpa using hf
    simp [Counted, ClientMap.size_assign_of_find_none _ hf,
      ClientMap.subscribers_assign_of_find_none _ hf, newEntry, hc.1, hc.2, uint32_ofNat_add_one]

theorem counted_disconnect (h : IWDFFile) : (s.disconnect h).2.Counted := by
  unfold disconnect
  split_ifs
  · exact hc
  · exact hc
  · exact hc
  · split
    · exact hc
    · rename_i e hf
      have hsz := ClientMap.size_erase_of_find_some hf
      have hsub := ClientMap.subscribers_erase hf
      refine ⟨by simp [hc.1, ← hsz, uint32_ofNat_sub_one], ?_⟩
      cases hsubs : e.subscribed
      · simp only [hsubs, Bool.toNat_false, Nat.add_zero] at hsub
        simp [hsub, hc.2]
      · simp only [hsubs, Bool.toNat_true] at hsub
        simp [hc.2, ← hsub, uint32_ofNat_sub_one]

/-- An assignment to a registered client that keeps its subscription keeps the counters. -/
theorem counted_assign {h : IWDFFile} {e : ClientEntry} (hf : s.clientList.find h = some e)
    (e' : ClientEntry) (hsub : e'.subscribed = e.subscribed) :
    (recalculateProperties { s with clientList := s.clientList.assign h e' }).2.Counted := by
  have := ClientMap.subscribers_assign e' hf
  rw [hsub] at this
  have hs : (s.clientList.assign h e').subscribers = s.clientList.subscribers := by omega
  simp [Counted, ClientMap.size_assign_of_find_some e' hf, hc.1, hc.2, hs]

theorem counted_subscribe (h : IWDFFile) : (s.subscribe h).2.Counted := by
  unfold subscribe
  split_ifs
  · exact hc
  · split
    · exact hc
    · rename_i e hf
      split_ifs with hs
      · exact hc
      · have := ClientMap.subscribers_assign { e with subscribed := true } hf
        simp only [hs, Bool.toNat_false, Bool.toNat_true, Nat.add_zero] at this
        simp [Counted, ClientMap.size_assign_of_find_some _ hf, hc.1, hc.2, this,
          uint32_ofNat_add_one]

theorem counted_unsubscribe (h : IWDFFile) : (s.unsubscribe h).2.Counted := by
  unfold unsubscribe
  split_ifs
  · exact hc
  · split
    · exact hc
    · rename_i e hf
      split_ifs with hs
      · exact hc
      · have hs : e.subscribed = true := by simpa using hs
        have := ClientMap.subscribers_assign { e with subscribed := false } hf
        simp only [hs, Bool.toNat_false, Bool.toNat_true, Nat.add_zero] at this
        simp [Counted, ClientMap.size_assign_of_find_some _ hf, hc.1, hc.2, ← this,
          uint32_ofNat_sub_one]

theorem counted_setDesiredProperty (h : IWDFFile) (key : PropertyKey) (var : PropValue) :
    (s.setDesiredProperty h key var).2.2.Counted := by
  unfold setDesiredProperty setDesiredChangeSensitivity setDesiredReportInterval
  split_ifs
  · exact hc
  · split
    · dsimp only; split
      · exact hc
      · rename_i e hf; exact counted_assign hc hf _ rfl
    · exact hc
  · split
    · dsimp only; split
      · exact hc
      · split
        · exact hc
        · rename_i e hf; exact counted_assign hc hf _ rfl
    · exact hc
  · exact hc

end Counted

theorem counted_run {s : ClientManager} (hc : s.Counted) (r : ClientRequest) : (r.run s).2.Counted := by
  cases r with
  | connect h => exact counted_connect hc h
  | disconnect h => exact counted_disconnect hc h
  | subscribe h => exact counted_subscribe hc h
  | unsubscribe h => exact counted_unsubscribe hc h
  | setDesiredProperty h key var => exact counted_setDesiredProperty hc h key var

theorem reachable_counted {di mi : UInt32} {D : PortableDeviceValues} {s : ClientManager}
    (hs : Reachable di mi D s) : s.Counted := by
  induction hs with
  | init => exact ⟨rfl, rfl⟩
  | step r _ ih => exact counted_run ih r

/-- **The counters are exact.**  In every reachable state with fewer than `2^32` clients,
`m_ClientCount` is the number of entries (so the `client list entries != client count`
checks pass), `m_SubscriberCount` the number of subscribed entries, and both counters are
positive wherever `Disconnect` or `Unsubscribe` decrement them. -/
theorem clientCount_eq_size {di mi : UInt32} {D : PortableDeviceValues} {s : ClientManager}
    (hs : Reachable di mi D s) (hlt : s.clientList.size < 2 ^ 32) :
    s.clientList.size = s.clientCount.toNat ∧
      s.clientList.subscribers = s.subscriberCount.toNat ∧
      ∀ h e, s.clientList.find h = some e →
        0 < s.clientCount.toNat ∧ (e.subscribed = true → 0 < s.subscriberCount.toNat) := by
  obtain ⟨hcount, hsubs⟩ := reachable_counted hs
  have hle := ClientMap.subscribers_le_size s.clientList
  have hc : s.clientCount.toNat = s.clientList.size := by
    rw [hcount, uint32_toNat_ofNat, Nat.mod_eq_of_lt hlt]
  have hsc : s.subscriberCount.toNat = s.clientList.subscribers := by
    rw [hsubs, uint32_toNat_ofNat, Nat.mod_eq_of_lt (by omega)]
  refine ⟨hc.symm, hsc.symm, fun h e hf => ⟨?_, fun hsub => ?_⟩⟩
  · have := ClientMap.size_erase_of_find_some hf; omega
  · have := ClientMap.subscribers_erase hf
    simp only [hsub, Bool.toNat_true] at this; omega

/-- Two clients connected and the first subscribed. -/
theorem clientCount_eq_size_twoClients :
    (let s := ((ClientRequest.subscribe 1).run ((ClientRequest.connect 2).run
      ((ClientRequest.connect 1).run (ClientManager.new.initializeManager 100 10 []).2).2).2).2
    Reachable 100 10 [] s ∧ s.clientList.size < 2 ^ 32 ∧
      s.clientList.size = s.clientCount.toNat ∧
      s.clientList.subscribers = s.subscriberCount.toNat ∧
      ∀ h e, s.clientList.find h = some e →
        0 < s.clientCount.toNat ∧ (e.subscribed = true → 0 < s.subscriberCount.toNat)) :=
  have hs := Reachable.step (.subscribe 1) (.step (.connect 2) (.step (.connect 1) .init))
  have hlt : ClientMap.size _ < 2 ^ 32 := by decide
  ⟨hs, hlt, clientCount_eq_size hs hlt⟩

/-! ## Arbitrated sensitivities -/

/-- The stored values fit the defaults and the minima are the arbitrated sensitivities. -/
structure ClientManager.Arbitrated (s : ClientManager) : Prop where
  nodup : (s.defaultSensitivityValues.map Prod.fst).Nodup
  real : ∀ kv ∈ s.defaultSensitivityValues, kv.2.IsReal
  fits : ∀ x ∈ s.clientList.entries, ∀ kv ∈ x.2.desiredSensitivityValues,
    SensitivityFits s.defaultSensitivityValues kv
  mins : s.minSensitivityValues =
    arbitratedSensitivities s.defaultSensitivityValues s.clientList.entries

theorem keys_mapValues {β γ : Type} (f : PropertyKey → β → γ) (vs : List (PropertyKey × β)) :
    (mapValues f vs).map Prod.fst = vs.map Prod.fst := by
  simp [mapValues]

/-- A value `SetDesiredChangeSensitivity` accepts against the arbitrated minima fits the
defaults. -/
theorem fits_of_checkDesiredSensitivity {D : PortableDeviceValues} {es : ClientEntries}
    {k : PropertyKey} {v : PropVariant}
    (h : checkDesiredSensitivity (arbitratedSensitivities D es) k v = .sOk) :
    SensitivityFits D (k, v) := by
  unfold checkDesiredSensitivity at h
  rw [arbitratedSensitivities, getValue_mapValues] at h
  cases hd : getValue D k with
  | none => simp [hd] at h
  | some d =>
    have hvt : ((desiredFor (ClientEntries.desiredSensitivities es) k).min?.elim d d.withReal).vt =
        d.vt := by cases (desiredFor _ k).min? <;> simp
    simp only [hd, Option.map_some', hvt] at h
    refine ⟨d, hd, ?_⟩
    split_ifs at h with hc
    simp only [not_or, not_and, not_not] at hc
    by_cases hn : v.vt = .null
    · exact .inl hn
    · exact .inr (not_imp_comm.1 hc.1 hn)

theorem mem_setDesiredSensitivities {mins values desired results : PortableDeviceValues}
    {fError : Bool} {kv : PropertyKey × PropVariant}
    (hkv : kv ∈ (setDesiredSensitivities mins values desired results fError).1) :
    kv ∈ desired ∨ checkDesiredSensitivity mins kv.1 kv.2 = .sOk := by
  induction values generalizing desired results fError with
  | nil => exact .inl hkv
  | cons p rest ih =>
    obtain ⟨k, v⟩ := p
    simp only [setDesiredSensitivities] at hkv
    split_ifs at hkv with hok
    · rcases ih hkv with h | h
      · rcases mem_setValue h with rfl | h
        · exact .inr (checkDesiredSensitivity_succeeded.1 hok)
        · exact .inl h
      · exact .inr h
    · exact ih hkv

section Arbitrated

/-- Entries of a map assigned one fitting entry all fit. -/
theorem fits_assign {D : PortableDeviceValues} {m : ClientMap}
    (hfits : ∀ x ∈ m.entries, ∀ kv ∈ x.2.desiredSensitivityValues, SensitivityFits D kv)
    {h : IWDFFile} {e : ClientEntry} (he : ∀ kv ∈ e.desiredSensitivityValues, SensitivityFits D kv) :
    ∀ x ∈ (m.assign h e).entries, ∀ kv ∈ x.2.desiredSensitivityValues, SensitivityFits D kv := by
  intro x hx
  rcases ClientEntries.mem_assign hx with rfl | hx
  · exact he
  · exact hfits x hx

variable {s : ClientManager} (ha : s.Arbitrated)
include ha

theorem ClientManager.Arbitrated.entry {h : IWDFFile} {e : ClientEntry} (hf : s.clientList.find h = some e) :
    ∀ kv ∈ e.desiredSensitivityValues, SensitivityFits s.defaultSensitivityValues kv :=
  ha.fits _ (ClientEntries.mem_of_find hf)

/-- Recalculation over a new map of fitting clients succeeds and restores the invariant. -/
theorem ClientManager.Arbitrated.recalculate (m : ClientMap) (c sc : UInt32)
    (hfits : ∀ x ∈ m.entries, ∀ kv ∈ x.2.desiredSensitivityValues,
      SensitivityFits s.defaultSensitivityValues kv) :
    let s' := { s with clientList := m, clientCount := c, subscriberCount := sc }
    (recalculateProperties s').1 = .sOk ∧ (recalculateProperties s').2.Arbitrated := by
  intro s'
  have hkeys : s'.minSensitivityValues.map Prod.fst = s'.defaultSensitivityValues.map Prod.fst := by
    show s.minSensitivityValues.map Prod.fst = _
    rw [ha.mins, arbitratedSensitivities, keys_mapValues]
  obtain ⟨hok, hmins⟩ := recalculateProperties_spec s' ha.nodup ha.real hkeys hfits
  exact ⟨hok, ⟨by simpa using ha.nodup, by simpa using ha.real, by simpa using hfits,
    by simpa using hmins⟩⟩

theorem ClientManager.Arbitrated.connect (h : IWDFFile) : (s.connect h).2.Arbitrated := by
  unfold ClientManager.connect
  split_ifs
  · exact ha
  · exact ha
  · exact ha
  · exact (ha.recalculate _ _ _ (fits_assign ha.fits (by simp [newEntry]))).2

theorem ClientManager.Arbitrated.disconnect (h : IWDFFile) : (s.disconnect h).2.Arbitrated := by
  unfold ClientManager.disconnect
  split_ifs
  · exact ha
  · exact ha
  · exact ha
  · split
    · exact ha
    · exact (ha.recalculate _ _ _ fun x hx =>
        ha.fits x ((ClientEntries.erase_sublist _ h).subset hx)).2

theorem ClientManager.Arbitrated.subscribe (h : IWDFFile) : (s.subscribe h).2.Arbitrated := by
  unfold ClientManager.subscribe
  split_ifs
  · exact ha
  · split
    · exact ha
    · rename_i e hf
      split_ifs
      · exact ha
      · refine (ha.recalculate _ _ _ (fits_assign ha.fits ?_)).2
        exact fun kv hkv => ha.entry hf kv hkv

theorem ClientManager.Arbitrated.unsubscribe (h : IWDFFile) : (s.unsubscribe h).2.Arbitrated := by
  unfold ClientManager.unsubscribe
  split_ifs
  · exact ha
  · split
    · exact ha
    · rename_i e hf
      split_ifs
      · exact ha
      · refine (ha.recalculate _ _ _ (fits_assign ha.fits ?_)).2
        exact fun kv hkv => ha.entry hf kv hkv

/-- The desired values after `SetDesiredChangeSensitivity` fit the defaults. -/
theorem ClientManager.Arbitrated.fits_setDesiredSensitivities {h : IWDFFile} {e : ClientEntry}
    (hf : s.clientList.find h = some e) (values : PortableDeviceValues) :
    ∀ kv ∈ (setDesiredSensitivities s.minSensitivityValues values
      e.desiredSensitivityValues [] false).1, SensitivityFits s.defaultSensitivityValues kv := by
  intro kv hkv
  rcases mem_setDesiredSensitivities hkv with h' | h'
  · exact ha.entry hf kv h'
  · rw [ha.mins] at h'; exact fits_of_checkDesiredSensitivity h'

theorem ClientManager.Arbitrated.setDesiredProperty (h : IWDFFile) (key : PropertyKey) (var : PropValue) :
    (s.setDesiredProperty h key var).2.2.Arbitrated := by
  unfold ClientManager.setDesiredProperty setDesiredChangeSensitivity setDesiredReportInterval
  split_ifs
  · exact ha
  · split
    · dsimp only; split
      · exact ha
      · rename_i e hf
        exact (ha.recalculate _ _ _
          (fits_assign ha.fits (ha.fits_setDesiredSensitivities hf _))).2
    · exact ha
  · split
    · dsimp only; split
      · exact ha
      · split
        · exact ha
        · rename_i e hf
          refine (ha.recalculate _ _ _ (fits_assign ha.fits ?_)).2
          exact fun kv hkv => ha.entry hf kv hkv
    · exact ha
  · exact ha

theorem ClientManager.Arbitrated.run (r : ClientRequest) : (r.run s).2.Arbitrated := by
  cases r with
  | connect h => exact ha.connect h
  | disconnect h => exact ha.disconnect h
  | subscribe h => exact ha.subscribe h
  | unsubscribe h => exact ha.unsubscribe h
  | setDesiredProperty h key var => exact ha.setDesiredProperty h key var

/-- A request that fails leaves the client manager as it was: the recalculation after a
change never fails. -/
theorem ClientManager.Arbitrated.run_failed (r : ClientRequest)
    (hr : (r.run s).1.succeeded = false) : (r.run s).2 = s := by
  rcases r.run_cases s with h | ⟨m, c, sc, h, hok⟩
  · exact h
  · have ha' := ha.run r
    rw [h] at ha'
    have hsok := (ha.recalculate m c sc (by simpa using ha'.fits)).1
    exact absurd (hok (by rw [hsok]; rfl)) (by simp [hr])

theorem ClientManager.Arbitrated.runRequests (rs : List ClientRequest) :
    (runRequests rs s).Arbitrated := by
  induction rs generalizing s with
  | nil => exact ha
  | cons r rest ih => exact ih (ha.run r)

end Arbitrated

theorem arbitrated_initializeManager {di mi : UInt32} {D : PortableDeviceValues}
    (hreal : ∀ kv ∈ D, kv.2.IsReal) : (ClientManager.new.initializeManager di mi D).2.Arbitrated := by
  have hnd : ((copyValues D []).map Prod.fst).Nodup := nodup_keys_copyValues D List.nodup_nil
  refine ⟨hnd, fun kv hkv => ?_, fun x hx => ?_, ?_⟩
  · rcases mem_copyValues hkv with h | h
    · exact hreal kv h
    · simp [ClientManager.new] at h
  · simp [ClientManager.new, ClientMap.empty, initializeManager] at hx
  · simp [ClientManager.new, ClientMap.empty, initializeManager, arbitratedSensitivities, mapValues,
      desiredFor, ClientEntries.desiredSensitivities]

theorem reachable_arbitrated {di mi : UInt32} {D : PortableDeviceValues}
    (hreal : ∀ kv ∈ D, kv.2.IsReal) {s : ClientManager} (hs : Reachable di mi D s) :
    s.Arbitrated := by
  induction hs with
  | init => exact arbitrated_initializeManager hreal
  | step r _ ih => exact ih.run r

/-- **The arbitrated change sensitivities.**  In every reachable state the map that
`GetArbitratedProperty(SENSOR_PROPERTY_CHANGE_SENSITIVITY)` returns has the keys of the
defaults, and holds for each key the smallest non-null value a connected client stored, or
the default when no connected client stored one. -/
theorem getArbitratedProperty_changeSensitivity {di mi : UInt32} {D : PortableDeviceValues}
    (hreal : ∀ kv ∈ D, kv.2.IsReal) {s : ClientManager} (hs : Reachable di mi D s) :
    ∃ A, s.getArbitratedProperty .sensorPropertyChangeSensitivity = (.sOk, .unknown A) ∧
      A.map Prod.fst = (copyValues D []).map Prod.fst ∧
      ∀ k d, getValue (copyValues D []) k = some d →
        (getValue A k = some d ∧
          ∀ x ∈ s.clientList.entries, ∀ v, (k, v) ∈ x.2.desiredSensitivityValues → v.vt = .null) ∨
        ∃ x ∈ s.clientList.entries, ∃ v, (k, v) ∈ x.2.desiredSensitivityValues ∧
          v.vt ≠ .null ∧ getValue A k = some v ∧
          ∀ y ∈ s.clientList.entries, ∀ w, (k, w) ∈ y.2.desiredSensitivityValues →
            w.vt ≠ .null → v.real ≤ w.real := by
  obtain ⟨hD, -, -⟩ := reachable_config hs
  have ha := reachable_arbitrated hreal hs
  have hA : copyValues s.minSensitivityValues [] = s.minSensitivityValues :=
    copyValues_nil (by rw [ha.mins, arbitratedSensitivities, keys_mapValues]; exact ha.nodup)
  refine ⟨_, if_pos rfl, by rw [hA, ha.mins, arbitratedSensitivities, keys_mapValues, hD],
    fun k d hd => ?_⟩
  rw [← hD] at hd
  have hget : getValue (copyValues s.minSensitivityValues []) k =
      some ((desiredFor (ClientEntries.desiredSensitivities s.clientList.entries) k).min?.elim
        d d.withReal) := by
    rw [hA, ha.mins, arbitratedSensitivities, getValue_mapValues, hd]; rfl
  cases hm : (desiredFor (ClientEntries.desiredSensitivities s.clientList.entries) k).min? with
  | none =>
    refine .inl ⟨by rw [hget, hm]; rfl, fun x hx v hv => ?_⟩
    by_contra hn
    have := mem_desiredFor.2 ⟨x, hx, v, hv, hn, rfl⟩
    simp [List.min?_eq_none_iff.1 hm] at this
  | some m =>
    obtain ⟨x, hx, v, hv, hn, rfl⟩ := mem_desiredFor.1 (List.min?_mem min_choice hm)
    obtain ⟨d', hd', hvt⟩ := ha.fits x hx (k, v) hv
    rw [hd] at hd'; cases hd'
    have hv' := PropVariant.eq_withReal_of_vt_eq (ha.real _ (mem_of_getValue hd)) (hvt.resolve_left hn)
    refine .inr ⟨x, hx, v, hv, hn, by rw [hget, hm, Option.elim_some, ← hv'], ?_⟩
    exact fun y hy w hw hwn => (List.le_min?_iff (fun _ _ _ => le_min_iff) hm).1 le_rfl _
      (mem_desiredFor.2 ⟨y, hy, w, hw, hwn, rfl⟩)

/-- One client connected and stored a value for the X axis. -/
theorem getArbitratedProperty_changeSensitivity_oneClient :
    (let D : PortableDeviceValues := [(.sensorDataTypeAccelerationXG, .r8 1)]
    let s := ((ClientRequest.setDesiredProperty 1 .sensorPropertyChangeSensitivity
      (.unknown [(.sensorDataTypeAccelerationXG, .r8 (1 / 2))])).run
        ((ClientRequest.connect 1).run (ClientManager.new.initializeManager 100 10 D).2).2).2
    (∀ kv ∈ D, kv.2.IsReal) ∧ Reachable 100 10 D s ∧
    ∃ A, s.getArbitratedProperty .sensorPropertyChangeSensitivity = (.sOk, .unknown A) ∧
      A.map Prod.fst = (copyValues D []).map Prod.fst ∧
      ∀ k d, getValue (copyValues D []) k = some d →
        (getValue A k = some d ∧
          ∀ x ∈ s.clientList.entries, ∀ v, (k, v) ∈ x.2.desiredSensitivityValues → v.vt = .null) ∨
        ∃ x ∈ s.clientList.entries, ∃ v, (k, v) ∈ x.2.desiredSensitivityValues ∧
          v.vt ≠ .null ∧ getValue A k = some v ∧
          ∀ y ∈ s.clientList.entries, ∀ w, (k, w) ∈ y.2.desiredSensitivityValues →
            w.vt ≠ .null → v.real ≤ w.real) :=
  have hreal : ∀ kv ∈ ([(.sensorDataTypeAccelerationXG, .r8 1)] : PortableDeviceValues),
    kv.2.IsReal := by decide
  have hs := Reachable.step _ (Reachable.step (ClientRequest.connect 1) Reachable.init)
  ⟨hreal, hs, getArbitratedProperty_changeSensitivity hreal hs⟩

end SpbAccelerometer
