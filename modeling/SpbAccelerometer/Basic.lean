import Mathlib.Algebra.Order.Ring.Unbundled.Rat
import Mathlib.Data.List.Nodup
import Mathlib.Algebra.Order.Ring.Nat

/-!
# The driver's values: `HRESULT`, `PROPVARIANT`, property keys and `IPortableDeviceValues`

Everything the client manager and the sensor device exchange is a status code, a
`PROPVARIANT` or a keyed collection of them.  The collection (`IPortableDeviceValues`) is a
list of key/value pairs in insertion order: `SetValue` replaces the value of a key in place
or appends the key, `GetValue` returns the value of a key or fails, `GetAt i` reads the
`i`-th pair.  Loops of the form `for (i = 0; i < count; i++) GetAt(i, ...)` are recursions
over that list.

Floating-point members of a variant (`fltVal`, `dblVal`) are modelled as rationals, so a
sensitivity is an element of a linear order without `NaN`.
-/

namespace SpbAccelerometer

/-- The status codes the modelled functions return.  `ioFailure` is the code a failed SPB
transfer or framework call hands back; the driver only tests it with `FAILED`. -/
inductive HRESULT where
  | sOk
  | sFalse
  | eInvalidArg
  | eUnexpected
  | eOutOfMemory
  | errorFileExists
  | errorFileNotFound
  | errorInvalidState
  | errorNotFound
  | errorNotSupported
  | ioFailure
  deriving DecidableEq, Repr

/-- `SUCCEEDED(hr)`: `S_OK` and `S_FALSE` are the success codes the driver produces. -/
def HRESULT.succeeded : HRESULT → Bool
  | .sOk | .sFalse => true
  | _ => false

@[simp] theorem HRESULT.succeeded_sOk : HRESULT.sOk.succeeded = true := rfl
@[simp] theorem HRESULT.succeeded_sFalse : HRESULT.sFalse.succeeded = true := rfl

/-! ## `ULONG` arithmetic -/

theorem uint32_toNat_ofNat (n : Nat) : (UInt32.ofNat n).toNat = n % 2 ^ 32 := BitVec.toNat_ofNat ..

theorem uint32_toNat_add (a b : UInt32) : (a + b).toNat = (a.toNat + b.toNat) % 2 ^ 32 :=
  BitVec.toNat_add ..

theorem uint32_toNat_sub (a b : UInt32) : (a - b).toNat = (2 ^ 32 - b.toNat + a.toNat) % 2 ^ 32 :=
  BitVec.toNat_sub ..

theorem uint32_ofNat_add_one (n : Nat) : UInt32.ofNat n + 1 = UInt32.ofNat (n + 1) := by
  apply UInt32.toNat.inj
  rw [uint32_toNat_add, uint32_toNat_ofNat, uint32_toNat_ofNat]
  simp

theorem uint32_ofNat_sub_one {n : Nat} (h : 0 < n) : UInt32.ofNat n - 1 = UInt32.ofNat (n - 1) := by
  apply UInt32.toNat.inj
  rw [uint32_toNat_sub, uint32_toNat_ofNat, uint32_toNat_ofNat]
  simp; omega

theorem uint32_lt_iff {a b : UInt32} : a < b ↔ a.toNat < b.toNat := Iff.rfl

theorem uint32_le_iff {a b : UInt32} : a ≤ b ↔ a.toNat ≤ b.toNat := Iff.rfl

theorem uint32_toNat_inj {a b : UInt32} : a.toNat = b.toNat ↔ a = b :=
  ⟨UInt32.toNat.inj, congrArg _⟩

/-- The `VARTYPE` tag of a variant. -/
inductive VarType where
  | empty | null | ui4 | r4 | r8 | error | filetime | vectorUi1 | other
  deriving DecidableEq, Repr

/-- A scalar `PROPVARIANT`: the variant kinds the driver reads or stores.  `other` stands for
strings, GUIDs and every type code no modelled function reads. -/
inductive PropVariant where
  | empty
  | null
  | ui4 (v : UInt32)
  | r4 (v : ℚ)
  | r8 (v : ℚ)
  | error (hr : HRESULT)
  | filetime (t : Nat)
  | vectorUi1 (bytes : List UInt8)
  | other (tag : Nat)
  deriving DecidableEq, Repr

namespace PropVariant

/-- `var.vt`. -/
def vt : PropVariant → VarType
  | empty => .empty
  | null => .null
  | ui4 _ => .ui4
  | r4 _ => .r4
  | r8 _ => .r8
  | error _ => .error
  | filetime _ => .filetime
  | vectorUi1 _ => .vectorUi1
  | other _ => .other

/-- The floating-point member of the union (`fltVal` for `VT_R4`, `dblVal` for `VT_R8`). -/
def real : PropVariant → ℚ
  | r4 x | r8 x => x
  | _ => 0

/-- `var.fltVal = x` / `var.dblVal = x`: the variant keeps its type and takes the value `x`. -/
def withReal : PropVariant → ℚ → PropVariant
  | r4 _, x => r4 x
  | r8 _, x => r8 x
  | v, _ => v

/-- `var.ulVal`, read by the code without a type check; a variant of another type reads 0. -/
def ulVal : PropVariant → UInt32
  | ui4 v => v
  | _ => 0

/-- A variant of one of the two floating-point types. -/
def IsReal (v : PropVariant) : Prop := v.vt = .r4 ∨ v.vt = .r8

instance (v : PropVariant) : Decidable v.IsReal :=
  inferInstanceAs (Decidable (_ ∨ _))

@[simp] theorem vt_withReal (v : PropVariant) (x : ℚ) : (v.withReal x).vt = v.vt := by
  cases v <;> rfl

@[simp] theorem real_withReal {v : PropVariant} (hv : v.IsReal) (x : ℚ) :
    (v.withReal x).real = x := by
  cases v <;> simp_all [IsReal, vt, withReal, real]

theorem withReal_withReal (v : PropVariant) (x y : ℚ) :
    (v.withReal x).withReal y = v.withReal y := by
  cases v <;> rfl

theorem IsReal.ne_null {v : PropVariant} (hv : v.IsReal) : v ≠ null := by
  rintro rfl; simp [IsReal, vt] at hv

/-- Two real variants of one type differ only in their value. -/
theorem eq_withReal_of_vt_eq {v d : PropVariant} (hd : d.IsReal) (h : v.vt = d.vt) :
    v = d.withReal v.real := by
  cases v <;> cases d <;> simp_all [IsReal, vt, withReal, real]

end PropVariant

/-- The property and data-field keys the driver names; `other n` is any other `PROPERTYKEY`. -/
inductive PropertyKey where
  | wpdObjectId
  | wpdFunctionalObjectCategory
  | sensorPropertyType
  | sensorPropertyPersistentUniqueId
  | sensorPropertyManufacturer
  | sensorPropertyModel
  | sensorPropertySerialNumber
  | sensorPropertyFriendlyName
  | sensorPropertyDescription
  | sensorPropertyConnectionType
  | sensorPropertyRangeMinimum
  | sensorPropertyRangeMaximum
  | sensorPropertyResolution
  | sensorPropertyChangeSensitivity
  | sensorPropertyCurrentReportInterval
  | sensorPropertyState
  | sensorPropertyMinReportInterval
  | sensorPropertyTestRegister
  | sensorPropertyTestDataSize
  | sensorPropertyTestData
  | sensorDataTypeTimestamp
  | sensorDataTypeAccelerationXG
  | sensorDataTypeAccelerationYG
  | sensorDataTypeAccelerationZG
  | other (n : Nat)
  deriving DecidableEq, Repr

/-! ## `IPortableDeviceValues` -/

section Values

variable {β : Type}

/-- `SetValue(key, var)`: replace the value of `key` in place, or append the pair. -/
def setValue : List (PropertyKey × β) → PropertyKey → β → List (PropertyKey × β)
  | [], k, v => [(k, v)]
  | (k', v') :: rest, k, v => if k' = k then (k, v) :: rest else (k', v') :: setValue rest k v

/-- `GetValue(key, &var)`: the value of `key`, `none` when the call fails. -/
def getValue : List (PropertyKey × β) → PropertyKey → Option β
  | [], _ => none
  | (k', v') :: rest, k => if k' = k then some v' else getValue rest k

/-- `CopyValues(source, target)`: `SetValue` of every source pair, in order. -/
def copyValues (source target : List (PropertyKey × β)) : List (PropertyKey × β) :=
  source.foldl (fun t kv => setValue t kv.1 kv.2) target

@[simp] theorem getValue_nil (k : PropertyKey) : getValue ([] : List (PropertyKey × β)) k = none :=
  rfl

@[simp] theorem getValue_setValue_self (vs : List (PropertyKey × β)) (k : PropertyKey) (v : β) :
    getValue (setValue vs k v) k = some v := by
  induction vs with
  | nil => simp [setValue, getValue]
  | cons kv rest ih => by_cases h : kv.1 = k <;> simp_all [setValue, getValue]

theorem getValue_setValue_ne (vs : List (PropertyKey × β)) {k k' : PropertyKey} (v : β)
    (h : k' ≠ k) : getValue (setValue vs k v) k' = getValue vs k' := by
  induction vs with
  | nil => simp [setValue, getValue, Ne.symm h]
  | cons kv rest ih =>
    obtain ⟨k1, v1⟩ := kv
    simp only [setValue, getValue]
    split_ifs <;> simp_all [getValue]

theorem getValue_setValue (vs : List (PropertyKey × β)) (k k' : PropertyKey) (v : β) :
    getValue (setValue vs k v) k' = if k' = k then some v else getValue vs k' := by
  split
  · subst_vars; simp
  · exact getValue_setValue_ne vs v ‹_›

theorem mem_setValue {vs : List (PropertyKey × β)} {k : PropertyKey} {v : β}
    {x : PropertyKey × β} (hx : x ∈ setValue vs k v) : x = (k, v) ∨ x ∈ vs := by
  induction vs with
  | nil => simpa [setValue] using hx
  | cons kv rest ih =>
    simp only [setValue] at hx
    split_ifs at hx
    · rcases List.mem_cons.1 hx with e | e
      · exact .inl e
      · exact .inr (List.mem_cons_of_mem _ e)
    · rcases List.mem_cons.1 hx with e | e
      · exact .inr (e ▸ List.mem_cons_self _ _)
      · exact (ih e).imp id (List.mem_cons_of_mem _)

theorem keys_setValue_of_mem {vs : List (PropertyKey × β)} {k : PropertyKey} (v : β)
    (h : k ∈ vs.map Prod.fst) : (setValue vs k v).map Prod.fst = vs.map Prod.fst := by
  induction vs with
  | nil => simp at h
  | cons kv rest ih =>
    by_cases hk : kv.1 = k
    · simp [setValue, hk]
    · have : k ∈ rest.map Prod.fst := by
        obtain ⟨k1, v1⟩ := kv
        simp only [List.map_cons, List.mem_cons] at h
        exact h.resolve_left (Ne.symm hk)
      simp [setValue, hk, ih this]

theorem keys_setValue_of_not_mem {vs : List (PropertyKey × β)} {k : PropertyKey} (v : β)
    (h : k ∉ vs.map Prod.fst) : (setValue vs k v).map Prod.fst = vs.map Prod.fst ++ [k] := by
  induction vs with
  | nil => simp [setValue]
  | cons kv rest ih =>
    have hk : kv.1 ≠ k := fun e => h (by simp [e])
    simp_all [setValue]

/-- A key is present exactly when `GetValue` finds it. -/
theorem isSome_getValue_iff {vs : List (PropertyKey × β)} {k : PropertyKey} :
    (getValue vs k).isSome ↔ k ∈ vs.map Prod.fst := by
  induction vs with
  | nil => simp
  | cons kv rest ih =>
    by_cases h : kv.1 = k
    · simp [getValue, h]
    · simp [getValue, h, ih, Ne.symm h]

/-- `CopyValues` of a source with distinct keys: the source's value, else the target's. -/
theorem getValue_copyValues {source : List (PropertyKey × β)}
    (h : (source.map Prod.fst).Nodup) (target : List (PropertyKey × β)) (k : PropertyKey) :
    getValue (copyValues source target) k = (getValue source k).or (getValue target k) := by
  induction source generalizing target with
  | nil => rfl
  | cons kv rest ih =>
    obtain ⟨hk, hrest⟩ := List.nodup_cons.1 h
    simp only [copyValues, List.foldl_cons] at ih ⊢
    rw [ih hrest, getValue_setValue]
    by_cases hkv : kv.1 = k
    · subst hkv
      have hnone : getValue rest kv.1 = none := by
        rw [← Option.not_isSome_iff_eq_none, isSome_getValue_iff]; exact hk
      simp [getValue, hnone]
    · simp [getValue, hkv, Ne.symm hkv]

/-- Copying values of keys already present keeps the keys. -/
theorem keys_copyValues_of_mem {source target : List (PropertyKey × β)}
    (h : ∀ kv ∈ source, kv.1 ∈ target.map Prod.fst) :
    (copyValues source target).map Prod.fst = target.map Prod.fst := by
  induction source generalizing target with
  | nil => rfl
  | cons kv rest ih =>
    have hkv := keys_setValue_of_mem kv.2 (h kv (List.mem_cons_self _ _))
    exact (ih fun kv' h' => hkv ▸ h kv' (List.mem_cons_of_mem _ h')).trans hkv

theorem nodup_keys_setValue {vs : List (PropertyKey × β)} (k : PropertyKey) (v : β)
    (h : (vs.map Prod.fst).Nodup) : ((setValue vs k v).map Prod.fst).Nodup := by
  by_cases hk : k ∈ vs.map Prod.fst
  · rwa [keys_setValue_of_mem v hk]
  · rw [keys_setValue_of_not_mem v hk, List.nodup_append]
    exact ⟨h, List.nodup_singleton k, fun a ha hb => hk (List.mem_singleton.1 hb ▸ ha)⟩

theorem nodup_keys_copyValues (source : List (PropertyKey × β)) {target : List (PropertyKey × β)}
    (h : (target.map Prod.fst).Nodup) : ((copyValues source target).map Prod.fst).Nodup := by
  induction source generalizing target with
  | nil => exact h
  | cons kv rest ih => exact ih (nodup_keys_setValue kv.1 kv.2 h)

theorem mem_copyValues {source target : List (PropertyKey × β)} {x : PropertyKey × β}
    (hx : x ∈ copyValues source target) : x ∈ source ∨ x ∈ target := by
  induction source generalizing target with
  | nil => exact .inr hx
  | cons kv rest ih =>
    rcases ih hx with h | h
    · exact .inl (List.mem_cons_of_mem _ h)
    · rcases mem_setValue h with rfl | h
      · exact .inl (List.mem_cons_self _ _)
      · exact .inr h

theorem setValue_of_not_mem {vs : List (PropertyKey × β)} {k : PropertyKey} (v : β)
    (h : k ∉ vs.map Prod.fst) : setValue vs k v = vs ++ [(k, v)] := by
  induction vs with
  | nil => rfl
  | cons kv rest ih =>
    have hk : kv.1 ≠ k := fun e => h (by simp [e])
    simp_all [setValue]

theorem copyValues_eq_append {source pre : List (PropertyKey × β)}
    (h : ((pre ++ source).map Prod.fst).Nodup) : copyValues source pre = pre ++ source := by
  induction source generalizing pre with
  | nil => simp [copyValues]
  | cons kv rest ih =>
    have hk : kv.1 ∉ pre.map Prod.fst := by
      simp only [List.map_append, List.map_cons, List.nodup_append] at h
      exact fun hm => h.2.2 hm (List.mem_cons_self _ _)
    have := @ih (pre ++ [kv]) (by simpa using h)
    simpa [copyValues, setValue_of_not_mem kv.2 hk] using this

/-- Copying a collection with distinct keys into an empty one gives the collection back. -/
theorem copyValues_nil {source : List (PropertyKey × β)} (h : (source.map Prod.fst).Nodup) :
    copyValues source [] = source :=
  copyValues_eq_append (by simpa using h)

end Values

/-- `IPortableDeviceValues` holding scalar variants. -/
abbrev PortableDeviceValues := List (PropertyKey × PropVariant)

/-- A `PROPVARIANT` that may also hold an `IPortableDeviceValues` (`VT_UNKNOWN`), as the
per-data-field change sensitivity does.  A `VT_UNKNOWN` always holds a collection here: a null
`punkVal` is not expressed. -/
inductive PropValue where
  | var (v : PropVariant)
  | unknown (values : PortableDeviceValues)
  deriving DecidableEq, Repr

end SpbAccelerometer
