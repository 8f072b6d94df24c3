import SpbAccelerometer.ReportInterval

/-!
# When a request fails, and what it changes

Every method of `CClientManager` checks its arguments and the client's registration before
it touches the map, and returns the `HRESULT` of `RecalculateProperties` once it did.  In a
reachable state with fewer than `2^32` clients and floating-point defaults, the sanity
checks on the counters pass and the recalculation succeeds, so a request on a non-null
handle

* succeeds exactly when its documented precondition holds (`ClientRequest.Admissible`),
* leaves the whole state as it was when it fails,
* changes the entry of no other handle and nothing `Initialize` set

(`run_succeeded_iff_admissible`).  Every method refuses the null handle first, so no client
is ever registered under it (`Reachable.find_zero`).  The counters are `ULONG`s: after `2^32`
connections the client count reads `0` and the next `Connect` fails on the sanity check
although its handle is new (`connect_fails_after_wrap`).
-/

namespace SpbAccelerometer

open ClientManager

/-- The documented precondition of a request: the handle is registered (not registered for
`Connect`), the subscription is in the other state, and a settable property gets a value of
its type, a report interval being `0` or at least the supported minimum. -/
def ClientRequest.Admissible (s : ClientManager) : ClientRequest → Prop
  | .connect h => s.clientList.find h = none
  | .disconnect h => (s.clientList.find h).isSome
  | .subscribe h => ∃ e, s.clientList.find h = some e ∧ e.subscribed = false
  | .unsubscribe h => ∃ e, s.clientList.find h = some e ∧ e.subscribed = true
  | .setDesiredProperty h key var => (s.clientList.find h).isSome ∧
      ((key = .sensorPropertyChangeSensitivity ∧ ∃ values, var = .unknown values) ∨
        (key = .sensorPropertyCurrentReportInterval ∧
          ∃ v, var = .var (.ui4 v) ∧ (v = 0 ∨ s.minSupportedReportInterval ≤ v)))

/-- A result settles a request on handle `h` with precondition `P`: it succeeds iff `P`,
fails without a trace, and leaves the entries of the other handles alone. -/
structure Settles (s : ClientManager) (h : IWDFFile) (P : Prop) (res : HRESULT × ClientManager) :
    Prop where
  succeeded_iff : res.1.succeeded = true ↔ P
  unchanged : res.1.succeeded = false → res.2 = s
  frame : ∀ h', h' ≠ h → res.2.clientList.find h' = s.clientList.find h'

theorem Settles.fail {s : ClientManager} {h : IWDFFile} {P : Prop} {hr : HRESULT}
    (hhr : hr.succeeded = false) (hP : ¬P) : Settles s h P (hr, s) :=
  ⟨by simp [hhr, hP], fun _ => rfl, fun _ _ => rfl⟩

theorem Settles.recalc {s t : ClientManager} {h : IWDFFile} {P : Prop} {hr : HRESULT}
    (hP : P) (hhr : hr.succeeded = true)
    (hframe : ∀ h', h' ≠ h → t.clientList.find h' = s.clientList.find h') :
    Settles s h P (hr, (recalculateProperties t).2) :=
  ⟨by simp [hhr, hP], by simp [hhr], fun h' hne => by simpa using hframe h' hne⟩

/-- The same, for a request that returns the recalculation's own `HRESULT`. -/
theorem Settles.recalculate {s t : ClientManager} {h : IWDFFile} {P : Prop} (hP : P)
    (hhr : (recalculateProperties t).1.succeeded = true)
    (hframe : ∀ h', h' ≠ h → t.clientList.find h' = s.clientList.find h') :
    Settles s h P (recalculateProperties t) :=
  @Settles.recalc s t h P _ hP hhr hframe

/-- The recalculation after a request of the client manager succeeds on fitting clients. -/
theorem ClientManager.Arbitrated.recalculate_succeeded {s : ClientManager} (ha : s.Arbitrated)
    {m : ClientMap} {c sc : UInt32}
    (hfits : ∀ x ∈ m.entries, ∀ kv ∈ x.2.desiredSensitivityValues,
      SensitivityFits s.defaultSensitivityValues kv) :
    (recalculateProperties { s with clientList := m, clientCount := c, subscriberCount := sc }).1.succeeded =
      true := by
  rw [(ha.recalculate m c sc hfits).1]; rfl

/-- A report interval `SetDesiredReportInterval` does not refuse. -/
theorem interval_accepted_iff (v m : UInt32) : ¬(v ≠ 0 ∧ v < m) ↔ (v = 0 ∨ m ≤ v) := by
  rw [uint32_lt_iff, uint32_le_iff, not_and_or, not_not, Nat.not_lt]

section Requests

variable {s : ClientManager} (ha : s.Arbitrated) {h : IWDFFile} (h0 : h ≠ 0)
include ha h0

theorem connect_settles (hc : s.clientList.size = s.clientCount.toNat) : Settles s h (s.clientList.find h = none) (s.connect h) := by
  unfold ClientManager.connect
  rw [if_neg h0, if_neg (not_not.2 hc)]
  split
  · next hf => exact .fail rfl fun hn => by simp [hn] at hf
  · next hf =>
    exact .recalculate (by simpa using hf) (ha.recalculate_succeeded (fits_assign ha.fits (by simp [newEntry])))
      fun h' hne => ClientMap.find_assign_ne _ _ hne.symm

theorem disconnect_settles (hc : s.clientList.size = s.clientCount.toNat) :
    Settles s h (s.clientList.find h).isSome (s.disconnect h) := by
  unfold ClientManager.disconnect
  rw [if_neg h0]
  cases hf : s.clientList.find h with
  | none => split_ifs <;> exact .fail rfl (by simp)
  | some e =>
    have hpos : s.clientCount ≠ 0 := by
      intro hz
      have := ClientMap.size_erase_of_find_some hf
      rw [hc, hz] at this; simp at this
    rw [if_neg hpos, if_neg (not_not.2 hc)]
    exact .recalculate rfl
      (ha.recalculate_succeeded fun x hx => ha.fits x ((ClientEntries.erase_sublist _ h).subset hx))
      fun h' hne => ClientMap.find_erase_ne _ hne.symm

theorem subscribe_settles :
    Settles s h (∃ e, s.clientList.find h = some e ∧ e.subscribed = false) (s.subscribe h) := by
  unfold ClientManager.subscribe
  rw [if_neg h0]
  cases hf : s.clientList.find h with
  | none => exact .fail rfl (by simp)
  | some e =>
    dsimp only
    cases hsub : e.subscribed <;> simp only [Bool.false_eq_true, Bool.not_false, Bool.not_true,
      ↓reduceIte]
    · exact .recalculate ⟨e, rfl, hsub⟩
        (ha.recalculate_succeeded (fits_assign ha.fits fun kv hkv => ha.entry hf kv hkv))
        fun h' hne => ClientMap.find_assign_ne _ _ hne.symm
    · exact .fail rfl (by simp [hsub])

theorem unsubscribe_settles :
    Settles s h (∃ e, s.clientList.find h = some e ∧ e.subscribed = true) (s.unsubscribe h) := by
  unfold ClientManager.unsubscribe
  rw [if_neg h0]
  cases hf : s.clientList.find h with
  | none => exact .fail rfl (by simp)
  | some e =>
    dsimp only
    cases hsub : e.subscribed <;> simp only [Bool.false_eq_true, Bool.not_false, Bool.not_true,
      ↓reduceIte]
    · exact .fail rfl (by simp [hsub])
    · exact .recalculate ⟨e, rfl, hsub⟩
        (ha.recalculate_succeeded (fits_assign ha.fits fun kv hkv => ha.entry hf kv hkv))
        fun h' hne => ClientMap.find_assign_ne _ _ hne.symm

theorem setDesiredProperty_settles (key : PropertyKey) (var : PropValue) :
    Settles s h ((ClientRequest.setDesiredProperty h key var).Admissible s)
      ((s.setDesiredProperty h key var).1, (s.setDesiredProperty h key var).2.2) := by
  unfold ClientManager.setDesiredProperty
  rw [if_neg h0]
  split_ifs with hcs hcri
  · subst hcs
    rcases var with v | values
    · exact .fail rfl (by simp [ClientRequest.Admissible])
    simp only [setDesiredChangeSensitivity, if_neg h0]
    cases hf : s.clientList.find h with
    | none => exact .fail rfl (by simp [ClientRequest.Admissible, hf])
    | some e =>
      dsimp only
      refine .recalc ⟨by simp [hf], .inl ⟨rfl, values, rfl⟩⟩ ?_
        fun h' hne => ClientMap.find_assign_ne _ _ hne.symm
      split_ifs
      · rfl
      · exact ha.recalculate_succeeded (fits_assign ha.fits (ha.fits_setDesiredSensitivities hf values))
  · subst hcri
    split
    · next v =>
      simp only [setDesiredReportInterval, if_neg h0]
      split_ifs with hv
      · refine .fail rfl fun ⟨_, hP⟩ => ?_
        simp only [PropValue.var.injEq, PropVariant.ui4.injEq, exists_eq_left', hcs, false_and,
          true_and, false_or] at hP
        exact (interval_accepted_iff _ _).2 hP hv
      cases hf : s.clientList.find h with
      | none => exact .fail rfl (by simp [ClientRequest.Admissible, hf])
      | some e =>
        exact .recalc ⟨by simp [hf], .inr ⟨rfl, v, rfl, (interval_accepted_iff _ _).1 hv⟩⟩
          (ha.recalculate_succeeded (fits_assign ha.fits fun kv hkv => ha.entry hf kv hkv))
          fun h' hne => ClientMap.find_assign_ne _ _ hne.symm
    · next hv =>
      refine .fail rfl fun ⟨_, hP⟩ => ?_
      rcases hP with ⟨hk, -⟩ | ⟨-, v, hvar, -⟩
      · exact hcs hk
      · exact hv v hvar
  · exact .fail rfl (by simp [ClientRequest.Admissible, hcs, hcri])

end Requests

/-- **Requests fail exactly on a violated precondition, and then without a trace.**  In a
reachable state with fewer than `2^32` clients, a request on a non-null handle succeeds iff
its documented precondition holds, leaves the state as it was when it fails, and changes
neither the entry of another handle nor what `Initialize` set. -/
theorem run_succeeded_iff_admissible {di mi : UInt32} {D : PortableDeviceValues}
    (hreal : ∀ kv ∈ D, kv.2.IsReal) {s : ClientManager} (hs : Reachable di mi D s)
    (hlt : s.clientList.size < 2 ^ 32) (r : ClientRequest) (h0 : r.handle ≠ 0) :
    ((r.run s).1.succeeded = true ↔ r.Admissible s) ∧
      ((r.run s).1.succeeded = false → (r.run s).2 = s) ∧
      (∀ h', h' ≠ r.handle → (r.run s).2.clientList.find h' = s.clientList.find h') ∧
      (r.run s).2.defaultSensitivityValues = s.defaultSensitivityValues ∧
      (r.run s).2.defaultReportInterval = s.defaultReportInterval ∧
      (r.run s).2.minSupportedReportInterval = s.minSupportedReportInterval := by
  have ha := reachable_arbitrated hreal hs
  have hc := (clientCount_eq_size hs hlt).1
  have key : Settles s r.handle (r.Admissible s) (r.run s) := by
    cases r with
    | connect h => exact connect_settles ha h0 hc
    | disconnect h => exact disconnect_settles ha h0 hc
    | subscribe h => exact subscribe_settles ha h0
    | unsubscribe h => exact unsubscribe_settles ha h0
    | setDesiredProperty h key var => exact setDesiredProperty_settles ha h0 key var
  exact ⟨key.succeeded_iff, key.unchanged, key.frame, r.run_config s⟩

/-- A subscription of the one connected client. -/
theorem run_succeeded_iff_admissible_subscribe :
    (let s := ((ClientRequest.connect 1).run (ClientManager.new.initializeManager 100 10 []).2).2
    let r := ClientRequest.subscribe 1
    (∀ kv ∈ ([] : PortableDeviceValues), kv.2.IsReal) ∧ Reachable 100 10 [] s ∧
      s.clientList.size < 2 ^ 32 ∧ r.handle ≠ 0 ∧
      ((r.run s).1.succeeded = true ↔ r.Admissible s) ∧
      ((r.run s).1.succeeded = false → (r.run s).2 = s) ∧
      (∀ h', h' ≠ r.handle → (r.run s).2.clientList.find h' = s.clientList.find h') ∧
      (r.run s).2.defaultSensitivityValues = s.defaultSensitivityValues ∧
      (r.run s).2.defaultReportInterval = s.defaultReportInterval ∧
      (r.run s).2.minSupportedReportInterval = s.minSupportedReportInterval) :=
  have hreal : ∀ kv ∈ ([] : PortableDeviceValues), kv.2.IsReal := by simp
  have hs := Reachable.step (.connect 1) .init
  have hlt : ClientMap.size _ < 2 ^ 32 := by decide
  ⟨hreal, hs, hlt, by decide, run_succeeded_iff_admissible hreal hs hlt (.subscribe 1) (by decide)⟩

/-! ## The null handle -/

/-- A request on the null handle is refused before it touches the state. -/
theorem ClientRequest.run_handle_zero (r : ClientRequest) (s : ClientManager) (h0 : r.handle = 0) :
    (r.run s).2 = s := by
  cases r <;> simp only [ClientRequest.handle] at h0 <;> subst h0 <;>
    simp [ClientRequest.run, ClientManager.connect, ClientManager.disconnect,
      ClientManager.subscribe, ClientManager.unsubscribe, ClientManager.setDesiredProperty]

/-- A request leaves the entry of every other handle alone, whatever its outcome. -/
theorem ClientRequest.run_find_ne (r : ClientRequest) (s : ClientManager) {h' : IWDFFile}
    (hne : h' ≠ r.handle) : (r.run s).2.clientList.find h' = s.clientList.find h' := by
  cases r <;> simp only [ClientRequest.handle] at hne <;>
    simp only [ClientRequest.run, ClientManager.connect, ClientManager.disconnect,
      ClientManager.subscribe, ClientManager.unsubscribe, ClientManager.setDesiredProperty,
      setDesiredChangeSensitivity, setDesiredReportInterval] <;> repeat' split
  all_goals first
    | rfl
    | simp [ClientMap.find_assign_ne _ _ (Ne.symm hne), ClientMap.find_erase_ne _ (Ne.symm hne)]

/-- No client is ever registered under the null handle. -/
theorem ClientManager.Reachable.find_zero {di mi : UInt32} {D : PortableDeviceValues}
    {s : ClientManager} (hs : Reachable di mi D s) : s.clientList.find 0 = none := by
  induction hs with
  | init => rfl
  | step r _ ih =>
    by_cases h0 : r.handle = 0
    · rw [r.run_handle_zero _ h0]; exact ih
    · rw [r.run_find_ne _ (Ne.symm h0)]; exact ih

theorem ClientManager.Reachable.ne_zero {di mi : UInt32} {D : PortableDeviceValues}
    {s : ClientManager} (hs : Reachable di mi D s) {h : IWDFFile} {e : ClientEntry}
    (hf : s.clientList.find h = some e) : h ≠ 0 := by
  rintro rfl
  rw [hs.find_zero] at hf
  cases hf

/-! ## Past `2^32` clients -/

theorem connect_clientList {s : ClientManager} {h : IWDFFile} (h0 : h ≠ 0)
    (hc : s.clientList.size = s.clientCount.toNat) (hf : s.clientList.find h = none) :
    (s.connect h).2.clientList = s.clientList.assign h newEntry := by
  simp [ClientManager.connect, h0, hc, hf]

/-- The first client puts the client manager in polling mode: it has subscribed to nothing and
asked for no interval. -/
theorem getDataUpdateMode_first_connect {di mi : UInt32} {D : PortableDeviceValues}
    (hreal : ∀ kv ∈ D, kv.2.IsReal) {s : ClientManager} (hs : Reachable di mi D s) {h : IWDFFile}
    (hok : (s.connect h).1.succeeded = true) (hone : (s.connect h).2.getClientCount = 1) :
    (s.connect h).2.getDataUpdateMode = .polling := by
  obtain ⟨h0, hsz, hf⟩ :
      h ≠ 0 ∧ s.clientList.size = s.clientCount.toNat ∧ s.clientList.find h = none := by
    unfold ClientManager.connect at hok
    split_ifs at hok with h0 hsz hf <;> simp_all [HRESULT.succeeded]
  have hcount : (s.connect h).2.clientCount = s.clientCount + 1 := by
    simp [ClientManager.connect, h0, hsz, hf]
  have hsubs : (s.connect h).2.subscriberCount = s.subscriberCount := by
    simp [ClientManager.connect, h0, hsz, hf]
  have hzero : s.clientCount = 0 := by
    rw [ClientManager.getClientCount, hcount, ← uint32_toNat_inj, uint32_toNat_add] at hone
    rw [← uint32_toNat_inj]
    have : s.clientCount.toNat < 2 ^ 32 := s.clientCount.toNat_lt_size
    have h1 : (1 : UInt32).toNat = 1 := rfl
    rw [h1] at hone
    rw [UInt32.toNat_zero]
    omega
  have hempty : s.clientList.entries = [] := by
    rw [← ClientMap.size_eq_zero_iff, hsz, hzero]; rfl
  have hsub0 : s.subscriberCount = 0 := by
    rw [(reachable_counted hs).2, ClientMap.subscribers, hempty]; rfl
  have hflag : (s.connect h).2.minReportIntervalExplicitlySet = false := by
    have := (minReportInterval_spec hreal (hs.step (.connect h))).1
    simp only [ClientRequest.run, connect_clientList h0 hsz hf, ClientMap.assign, hempty,
      ClientEntries.assign, List.mem_singleton] at this
    simpa [newEntry, currentReportIntervalNotSet] using this
  simp [ClientManager.getDataUpdateMode, hcount, hzero, hsubs, hsub0, hflag]

/-- Connecting the next handle of a map holding the handles up to `n` adds it. -/
theorem connect_next {di mi : UInt32} {D : PortableDeviceValues} {s : ClientManager}
    (hs : Reachable di mi D s) {n : Nat} (hn : n < 2 ^ 32) (hsize : s.clientList.size = n)
    (hfind : ∀ h, n < h → s.clientList.find h = none) :
    (s.connect (n + 1)).2.clientList.size = n + 1 ∧
      ∀ h, n + 1 < h → (s.connect (n + 1)).2.clientList.find h = none := by
  have hc : s.clientList.size = s.clientCount.toNat := by
    rw [(reachable_counted hs).1, uint32_toNat_ofNat, Nat.mod_eq_of_lt (by omega)]
  have hf := hfind (n + 1) (by omega)
  rw [connect_clientList (Nat.succ_ne_zero n) hc hf]
  exact ⟨by rw [ClientMap.size_assign_of_find_none _ hf, hsize],
    fun h hh => by rw [ClientMap.find_assign_ne _ _ (show n + 1 ≠ h by omega), hfind h (by omega)]⟩

/-- Connecting the handles `1, …, n` one after the other registers each of them. -/
theorem connect_range {n : Nat} (hn : n ≤ 2 ^ 32) :
    (runRequests ((List.range n).map fun i => ClientRequest.connect (i + 1))
        (ClientManager.new.initializeManager 100 10 []).2).clientList.size = n ∧
      ∀ h, n < h → (runRequests ((List.range n).map fun i => ClientRequest.connect (i + 1))
        (ClientManager.new.initializeManager 100 10 []).2).clientList.find h = none := by
  induction n with
  | zero => exact ⟨rfl, fun _ _ => rfl⟩
  | succ n ih =>
    obtain ⟨hsize, hfind⟩ := ih (by omega)
    rw [List.range_succ, List.map_append, List.map_singleton, runRequests_append_singleton]
    exact connect_next (Reachable.init.runRequests _) (by omega) hsize hfind

/-- After `2^32` connections the client count has wrapped to `0`, and `Connect` of a new
handle fails on the sanity check with `ERROR_INVALID_STATE`. -/
theorem connect_fails_after_wrap :
    (let s := runRequests ((List.range (2 ^ 32)).map fun i => ClientRequest.connect (i + 1))
      (ClientManager.new.initializeManager 100 10 []).2
    Reachable 100 10 [] s ∧ s.clientList.find (2 ^ 32 + 1) = none ∧
      (s.connect (2 ^ 32 + 1)).1 = .errorInvalidState) := by
  intro s
  have hs : Reachable 100 10 [] s := Reachable.init.runRequests _
  obtain ⟨hsize, hfind⟩ := connect_range (le_refl (2 ^ 32))
  have hcount : s.clientCount = 0 := by
    rw [(reachable_counted hs).1, hsize]; rfl
  refine ⟨hs, hfind _ (by omega), ?_⟩
  simp [ClientManager.connect, hcount, hsize]

end SpbAccelerometer
