import SpbAccelerometer.ClientManager

/-!
# What `RecalculateProperties` computes for the change sensitivities

For defaults `D` with distinct keys and floating-point values, and clients whose stored
values each name a key of `D` and are `VT_NULL` or of that key's type (`SensitivityFits`),
`RecalculateProperties` succeeds and leaves, for every key `k` of `D`,

    the smallest non-null value the clients stored for k, as a variant of D's type,
    or D's value for k when no client stored one              (arbitratedSensitivities)

(`recalculateProperties_spec`).  The statement depends on the clients only through the
values they stored, so neither the map's iteration order nor the history of the requests
matters.  The proof follows the three loops: the fold over one client's pairs
(`foldDesiredSensitivities_spec`), the fold over the clients (`foldClients_spec`) and the
filling in of the defaults (`fillDefaults_foldedMinima`).
-/

namespace SpbAccelerometer

open ClientManager

/-- The non-null values stored for `k` in a list of desired pairs, in order. -/
def desiredFor (desired : PortableDeviceValues) (k : PropertyKey) : List ℚ :=
  desired.filterMap fun kv => if kv.1 = k ∧ kv.2.vt ≠ .null then some kv.2.real else none

/-- All stored change sensitivities, client after client. -/
def ClientEntries.desiredSensitivities (es : ClientEntries) : PortableDeviceValues :=
  es.flatMap fun x => x.2.desiredSensitivityValues

/-- A stored value fits the defaults: its key has a default, and it is `VT_NULL` or of the
default's type. -/
def SensitivityFits (defaults : PortableDeviceValues) (kv : PropertyKey × PropVariant) : Prop :=
  ∃ d, getValue defaults kv.1 = some d ∧ (kv.2.vt = .null ∨ kv.2.vt = d.vt)

/-- A collection with every value replaced by a function of its key and value. -/
def mapValues {β γ : Type} (f : PropertyKey → β → γ) (vs : List (PropertyKey × β)) :
    List (PropertyKey × γ) :=
  vs.map fun kv => (kv.1, f kv.1 kv.2)

/-- The minima after the client loop: the smallest stored value, or `VT_NULL`. -/
def foldedMinima (defaults desired : PortableDeviceValues) : PortableDeviceValues :=
  mapValues (fun k d => (desiredFor desired k).min?.elim .null d.withReal) defaults

/-- The arbitrated change sensitivities of a set of clients: per default key, the smallest
value the clients stored, or the default. -/
def arbitratedSensitivities (defaults : PortableDeviceValues) (es : ClientEntries) :
    PortableDeviceValues :=
  mapValues (fun k d => (desiredFor es.desiredSensitivities k).min?.elim d d.withReal) defaults

/-! ## Lemmas on the collections -/

section

variable {β γ : Type}

theorem getValue_mapValues (vs : List (PropertyKey × β)) (f : PropertyKey → β → γ) (k : PropertyKey) :
    getValue (mapValues f vs) k = (getValue vs k).map (f k) := by
  unfold mapValues
  induction vs with
  | nil => rfl
  | cons kv rest ih =>
    obtain ⟨k1, v1⟩ := kv
    by_cases h : k1 = k
    · subst h; simp [getValue]
    · simp [getValue, h, ih]

theorem mem_of_getValue {vs : List (PropertyKey × β)} {k : PropertyKey} {v : β}
    (h : getValue vs k = some v) : (k, v) ∈ vs := by
  induction vs with
  | nil => simp at h
  | cons kv rest ih =>
    obtain ⟨k1, v1⟩ := kv
    by_cases e : k1 = k
    · subst e; simp only [getValue, if_true, Option.some.injEq] at h; subst h; simp
    · simp only [getValue, e, if_false] at h; exact List.mem_cons_of_mem _ (ih h)

theorem getValue_of_mem {vs : List (PropertyKey × β)} (hnd : (vs.map Prod.fst).Nodup)
    {k : PropertyKey} {v : β} (h : (k, v) ∈ vs) : getValue vs k = some v := by
  induction vs with
  | nil => simp at h
  | cons kv rest ih =>
    obtain ⟨k1, v1⟩ := kv
    simp only [List.map_cons, List.nodup_cons] at hnd
    rcases List.mem_cons.1 h with e | h
    · cases e; simp [getValue]
    · have : k1 ≠ k := fun e => hnd.1 (e ▸ List.mem_map_of_mem Prod.fst h)
      simp [getValue, this, ih hnd.2 h]

/-- `SetValue` on a collection with distinct keys changes the value of its key only. -/
theorem setValue_mapValues {vs : List (PropertyKey × β)} (hnd : (vs.map Prod.fst).Nodup)
    (f : PropertyKey → β → γ) {k : PropertyKey} (hk : k ∈ vs.map Prod.fst) (w : γ) :
    setValue (mapValues f vs) k w = mapValues (fun k' v => if k' = k then w else f k' v) vs := by
  unfold mapValues
  induction vs with
  | nil => simp at hk
  | cons kv rest ih =>
    obtain ⟨k1, v1⟩ := kv
    simp only [List.map_cons, List.nodup_cons, List.mem_cons] at hnd hk
    by_cases h : k1 = k
    · subst h
      have : ∀ x ∈ rest, x.1 ≠ k1 := fun x hx e => hnd.1 (e ▸ List.mem_map_of_mem Prod.fst hx)
      simp only [setValue, if_true, List.map_cons, List.cons.injEq, true_and]
      exact (List.map_congr_left fun x hx => by simp [this x hx]).symm
    · simp [setValue, h, ih hnd.2 (hk.resolve_left (Ne.symm h))]

end

/-! ## The arithmetic of one fold step -/

theorem min?_append_singleton (l : List ℚ) (a : ℚ) :
    (l ++ [a]).min? = some (l.min?.elim a (fun m => min m a)) := by
  cases l with
  | nil => rfl
  | cons x xs =>
    simp only [List.cons_append, List.min?_cons', List.foldl_append, List.foldl_cons,
      List.foldl_nil, Option.elim_some]

theorem desiredFor_append (C P : PortableDeviceValues) (k : PropertyKey) :
    desiredFor (C ++ P) k = desiredFor C k ++ desiredFor P k := by
  simp [desiredFor]

theorem desiredFor_pair (k' k : PropertyKey) (v : PropVariant) :
    desiredFor [(k', v)] k = if k' = k ∧ v.vt ≠ .null then [v.real] else [] := by
  by_cases h : k' = k ∧ v.vt ≠ .null <;> simp [desiredFor, h]

/-- The values `desiredFor` collects from the clients are the non-null values they stored. -/
theorem mem_desiredFor {es : ClientEntries} {k : PropertyKey} {q : ℚ} :
    q ∈ desiredFor (ClientEntries.desiredSensitivities es) k ↔
      ∃ x ∈ es, ∃ v, (k, v) ∈ x.2.desiredSensitivityValues ∧ v.vt ≠ .null ∧ v.real = q := by
  simp only [desiredFor, ClientEntries.desiredSensitivities, List.mem_filterMap, List.mem_flatMap]
  constructor
  · rintro ⟨⟨k', v⟩, ⟨x, hx, hv⟩, h⟩
    split_ifs at h with hk
    cases hk.1; cases h
    exact ⟨x, hx, v, hv, hk.2, rfl⟩
  · rintro ⟨x, hx, v, hv, hn, rfl⟩
    exact ⟨(k, v), ⟨x, hx, hv⟩, by simp [hn]⟩

/-- One `min` of the fold, whatever the running minimum: the default's variant holding the
smaller of the two values. -/
theorem foldMinValue_elim {d v : PropVariant} (hd : d.IsReal) (hv : v.vt = d.vt) (o : Option ℚ) :
    foldMinValue (o.elim .null d.withReal) v =
      .ok (d.withReal (o.elim v.real (fun m => min m v.real))) := by
  have hvd := PropVariant.eq_withReal_of_vt_eq hd hv
  cases o with
  | none => simpa [foldMinValue, PropVariant.vt] using hvd
  | some m =>
    have hvt : (d.withReal m).vt = .r4 ∨ (d.withReal m).vt = .r8 := by simpa using hd
    rw [Option.elim_some, Option.elim_some, foldMinValue]
    rcases hvt with h | h <;> simp only [h, PropVariant.real_withReal hd] <;>
      rw [hvd, PropVariant.withReal_withReal]

/-! ## The three loops -/

section Loops

variable {D : PortableDeviceValues} (hD : (D.map Prod.fst).Nodup) (hreal : ∀ kv ∈ D, kv.2.IsReal)
include hD hreal

/-- The fold over one client's pairs. -/
theorem foldDesiredSensitivities_spec (C P : PortableDeviceValues)
    (hP : ∀ kv ∈ P, SensitivityFits D kv) :
    foldDesiredSensitivities (foldedMinima D C) P = (.sOk, foldedMinima D (C ++ P)) := by
  induction P generalizing C with
  | nil => simp [foldDesiredSensitivities]
  | cons kv rest ih =>
    obtain ⟨k, v⟩ := kv
    have hrest : ∀ kv ∈ rest, SensitivityFits D kv := fun kv hkv => hP kv (List.mem_cons_of_mem _ hkv)
    have happ : C ++ (k, v) :: rest = C ++ [(k, v)] ++ rest := by simp
    by_cases hv : v.vt = .null
    · have hsame : foldedMinima D (C ++ [(k, v)]) = foldedMinima D C := by
        simp [foldedMinima, desiredFor_append, desiredFor_pair, hv]
      rw [foldDesiredSensitivities, if_pos hv, ← hsame, ih _ hrest, happ]
    · obtain ⟨d, hdk, hvt⟩ := hP (k, v) (List.mem_cons_self _ _)
      have hvt : v.vt = d.vt := hvt.resolve_left hv
      have hdr : d.IsReal := hreal _ (mem_of_getValue hdk)
      have hget : getValue (foldedMinima D C) k =
          some ((desiredFor C k).min?.elim .null d.withReal) := by
        rw [foldedMinima, getValue_mapValues, hdk]; rfl
      have hkD : k ∈ D.map Prod.fst := isSome_getValue_iff.1 (by simp [hdk])
      have hset : setValue (foldedMinima D C) k
          (d.withReal ((desiredFor C k).min?.elim v.real fun m => min m v.real)) =
          foldedMinima D (C ++ [(k, v)]) := by
        rw [foldedMinima, setValue_mapValues hD _ hkD, foldedMinima, mapValues, mapValues]
        refine List.map_congr_left fun kv hkv => ?_
        by_cases e : kv.1 = k
        · have hkv2 : kv.2 = d := by
            have := getValue_of_mem hD (show (kv.1, kv.2) ∈ D from hkv)
            rw [e, hdk] at this; exact (Option.some.inj this).symm
          simp [e, hkv2, desiredFor_append, desiredFor_pair, hv, min?_append_singleton]
        · simp [e, Ne.symm e, desiredFor_append, desiredFor_pair]
      rw [foldDesiredSensitivities, if_neg hv, hget]
      simp only [foldMinValue_elim hdr hvt]
      rw [hset, ih _ hrest, happ]

/-- The fold over the clients: it succeeds and leaves the minima of all stored values. -/
theorem foldClients_spec (es : ClientEntries) (C : PortableDeviceValues) (cur : UInt32) (flag : Bool)
    (hes : ∀ x ∈ es, ∀ kv ∈ x.2.desiredSensitivityValues, SensitivityFits D kv) :
    (foldClients (foldedMinima D C) cur flag es).1 = .sOk ∧
      (foldClients (foldedMinima D C) cur flag es).2.1 =
        foldedMinima D (C ++ ClientEntries.desiredSensitivities es) := by
  induction es generalizing C cur flag with
  | nil => simp [foldClients, ClientEntries.desiredSensitivities]
  | cons x rest ih =>
    have hx := foldDesiredSensitivities_spec hD hreal C _ (hes x (List.mem_cons_self _ _))
    have hrest := fun y hy => hes y (List.mem_cons_of_mem _ hy)
    have happ : C ++ ClientEntries.desiredSensitivities (x :: rest) =
        C ++ x.2.desiredSensitivityValues ++ ClientEntries.desiredSensitivities rest := by
      simp [ClientEntries.desiredSensitivities]
    rw [happ]
    simp only [foldClients, hx, HRESULT.succeeded_sOk, if_true]
    split <;> exact ih _ _ _ hrest

/-- The last loop puts the default where no client stored a value. -/
theorem fillDefaults_foldedMinima (C : PortableDeviceValues) :
    fillDefaults D (foldedMinima D C) =
      (.sOk, mapValues (fun k d => (desiredFor C k).min?.elim d d.withReal) D) := by
  suffices ∀ E : PortableDeviceValues, (∀ kv ∈ E, kv ∈ D) →
      fillDefaults D (foldedMinima E C) =
        (.sOk, mapValues (fun k d => (desiredFor C k).min?.elim d d.withReal) E) from
    this D fun _ h => h
  intro E hE
  induction E with
  | nil => rfl
  | cons kv rest ih =>
    obtain ⟨k, d⟩ := kv
    have hmem : (k, d) ∈ D := hE _ (List.mem_cons_self _ _)
    have ih := ih fun x hx => hE x (List.mem_cons_of_mem _ hx)
    have hdr : d.IsReal := hreal _ hmem
    simp only [foldedMinima, mapValues, List.map_cons] at ih ⊢
    cases hm : (desiredFor C k).min? with
    | none =>
      simp [fillDefaults, PropVariant.vt, getValue_of_mem hD hmem, ih]
    | some m =>
      have hvt : d.vt ≠ .null := by rcases hdr with h | h <;> rw [h] <;> decide
      simp [fillDefaults, hvt, ih]

end Loops

/-- The first loop of `RecalculateProperties` sets every minimum to `VT_NULL`. -/
theorem resetMinima_eq {mins D : PortableDeviceValues} (hkeys : mins.map Prod.fst = D.map Prod.fst) :
    mins.map (fun kv => (kv.1, PropVariant.null)) = foldedMinima D [] := by
  have := congrArg (List.map fun k => (k, PropVariant.null)) hkeys
  simpa [foldedMinima, mapValues, desiredFor] using this

/-- **`RecalculateProperties` on well-typed clients.**  It succeeds and leaves the arbitrated
change sensitivities; it changes nothing but the three arbitrated members. -/
theorem recalculateProperties_spec (s : ClientManager)
    (hD : (s.defaultSensitivityValues.map Prod.fst).Nodup)
    (hreal : ∀ kv ∈ s.defaultSensitivityValues, kv.2.IsReal)
    (hkeys : s.minSensitivityValues.map Prod.fst = s.defaultSensitivityValues.map Prod.fst)
    (hfits : ∀ x ∈ s.clientList.entries, ∀ kv ∈ x.2.desiredSensitivityValues,
      SensitivityFits s.defaultSensitivityValues kv) :
    (recalculateProperties s).1 = .sOk ∧
      (recalculateProperties s).2.minSensitivityValues =
        arbitratedSensitivities s.defaultSensitivityValues s.clientList.entries := by
  obtain ⟨hok, hmins⟩ := foldClients_spec hD hreal s.clientList.entries [] ulongMax false hfits
  rw [← resetMinima_eq hkeys] at hok hmins
  simp only [recalculateProperties, hok, HRESULT.succeeded_sOk, if_true, hmins, List.nil_append,
    fillDefaults_foldedMinima hD hreal]
  exact ⟨trivial, rfl⟩

end SpbAccelerometer
