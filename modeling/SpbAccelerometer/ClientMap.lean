import SpbAccelerometer.Basic

/-!
# `CLIENT_MAP`: the client list of the client manager

`std::map<IWDFFile*, CLIENT_ENTRY>` keeps one entry per handle, in increasing handle order,
and `RecalculateProperties` iterates it in that order.  `ClientMap` is the sorted list of
entries together with the proof that it is sorted, so every map the model builds has
distinct handles.  `m_pClientList.find(h)` is `ClientMap.find`, the assignment
`m_pClientList[h] = entry` is `ClientMap.assign` (replace in place, or insert at its place),
and `m_pClientList.erase(iter)` is `ClientMap.erase`.

The counters of the client manager are checked against the map by sums over its entries
(`ClientMap.total`): `total_assign` and `total_erase` say how one assignment or one erasure
changes such a sum.
-/

namespace SpbAccelerometer

/-- An `IWDFFile*` client handle; `0` is `nullptr`. -/
abbrev IWDFFile := Nat

/-- `CLIENT_ENTRY`. -/
structure ClientEntry where
  subscribed : Bool
  desiredSensitivityValues : PortableDeviceValues
  desiredReportInterval : UInt32
  deriving DecidableEq, Repr

/-- The entries of a map in iteration order. -/
abbrev ClientEntries := List (IWDFFile × ClientEntry)

namespace ClientEntries

/-- Lookup of the first entry of a handle. -/
def find : ClientEntries → IWDFFile → Option ClientEntry
  | [], _ => none
  | (h', e') :: rest, h => if h' = h then some e' else find rest h

/-- `m[h] = e` on a sorted list: replace the entry of `h`, or insert it before the first
larger handle. -/
def assign : ClientEntries → IWDFFile → ClientEntry → ClientEntries
  | [], h, e => [(h, e)]
  | (h', e') :: rest, h, e =>
    if h' = h then (h, e) :: rest
    else if h < h' then (h, e) :: (h', e') :: rest
    else (h', e') :: assign rest h e

/-- Removal of the first entry of a handle. -/
def erase : ClientEntries → IWDFFile → ClientEntries
  | [], _ => []
  | (h', e') :: rest, h => if h' = h then rest else (h', e') :: erase rest h

/-- Entries in strictly increasing handle order. -/
def Sorted (m : ClientEntries) : Prop := m.Pairwise (fun a b => a.1 < b.1)

theorem mem_assign {m : ClientEntries} {h : IWDFFile} {e : ClientEntry} {x : IWDFFile × ClientEntry}
    (hx : x ∈ assign m h e) : x = (h, e) ∨ x ∈ m := by
  induction m with
  | nil => simpa [assign] using hx
  | cons p rest ih =>
    simp only [assign] at hx
    split_ifs at hx
    · simp only [List.mem_cons] at hx ⊢; tauto
    · simp only [List.mem_cons] at hx ⊢; tauto
    · rcases List.mem_cons.1 hx with rfl | hx
      · exact .inr (List.mem_cons_self _ _)
      · exact (ih hx).imp id (List.mem_cons_of_mem _)

theorem sorted_assign {m : ClientEntries} (hs : Sorted m) (h : IWDFFile) (e : ClientEntry) :
    Sorted (assign m h e) := by
  induction m with
  | nil => simp [assign, Sorted]
  | cons p rest ih =>
    obtain ⟨hp, hrest⟩ := List.pairwise_cons.1 hs
    simp only [assign]
    split_ifs with h1 h2
    · subst h1; exact List.pairwise_cons.2 ⟨hp, hrest⟩
    · exact List.pairwise_cons.2 ⟨fun x hx => by
        rcases List.mem_cons.1 hx with rfl | hx
        · exact h2
        · exact Nat.lt_trans h2 (hp x hx), hs⟩
    · refine List.pairwise_cons.2 ⟨fun x hx => ?_, ih hrest⟩
      rcases mem_assign hx with rfl | hx
      · exact Nat.lt_of_le_of_ne (Nat.le_of_not_lt h2) h1
      · exact hp x hx

theorem erase_sublist (m : ClientEntries) (h : IWDFFile) : (erase m h).Sublist m := by
  induction m with
  | nil => exact List.Sublist.slnil
  | cons p rest ih =>
    simp only [erase]
    split_ifs
    · exact List.sublist_cons_self _ _
    · exact ih.cons₂ _

theorem find_assign (m : ClientEntries) (h h' : IWDFFile) (e : ClientEntry) :
    find (assign m h e) h' = if h = h' then some e else find m h' := by
  induction m with
  | nil => simp [assign, find]
  | cons p rest ih =>
    obtain ⟨h1, e1⟩ := p
    simp only [assign]
    split_ifs with a b c <;> simp_all [find]

theorem find_erase_ne (m : ClientEntries) {h h' : IWDFFile} (hne : h ≠ h') :
    find (erase m h) h' = find m h' := by
  induction m with
  | nil => rfl
  | cons p rest ih =>
    obtain ⟨h1, e1⟩ := p
    simp only [erase]
    split_ifs with a
    · subst a; simp [find, hne]
    · simp only [find, ih]

theorem find_eq_none_of_lt {m : ClientEntries} {h : IWDFFile} (hlt : ∀ x ∈ m, h < x.1) :
    find m h = none := by
  induction m with
  | nil => rfl
  | cons p rest ih =>
    have := hlt p (List.mem_cons_self _ _)
    simp [find, Nat.ne_of_gt this, ih (fun x hx => hlt x (List.mem_cons_of_mem _ hx))]

theorem find_erase_self {m : ClientEntries} (hs : Sorted m) (h : IWDFFile) :
    find (erase m h) h = none := by
  induction m with
  | nil => rfl
  | cons p rest ih =>
    obtain ⟨hp, hrest⟩ := List.pairwise_cons.1 hs
    simp only [erase]
    split_ifs with a
    · subst a; exact find_eq_none_of_lt hp
    · simp [find, a, ih hrest]

theorem mem_of_find {m : ClientEntries} {h : IWDFFile} {e : ClientEntry} (hf : find m h = some e) :
    (h, e) ∈ m := by
  induction m with
  | nil => simp [find] at hf
  | cons p rest ih =>
    obtain ⟨h1, e1⟩ := p
    simp only [find] at hf
    split_ifs at hf with a
    · cases hf; subst a; exact List.mem_cons_self _ _
    · exact List.mem_cons_of_mem _ (ih hf)

/-- The sum of `f` over the entries. -/
def total (f : ClientEntry → Nat) (m : ClientEntries) : Nat := (m.map (fun x => f x.2)).sum

@[simp] theorem total_nil (f : ClientEntry → Nat) : total f [] = 0 := rfl

@[simp] theorem total_cons (f : ClientEntry → Nat) (p : IWDFFile × ClientEntry) (m : ClientEntries) :
    total f (p :: m) = f p.2 + total f m := by
  simp [total]

/-- An assignment adds the new entry and drops the entry it replaces. -/
theorem total_assign {m : ClientEntries} (hs : Sorted m) (f : ClientEntry → Nat) (h : IWDFFile)
    (e : ClientEntry) : total f (assign m h e) + (find m h).elim 0 f = total f m + f e := by
  induction m with
  | nil => simp [assign, find]
  | cons p rest ih =>
    obtain ⟨hp, hrest⟩ := List.pairwise_cons.1 hs
    obtain ⟨h1, e1⟩ := p
    simp only [assign, find]
    split_ifs with a b
    · simp; omega
    · have : find rest h = none := find_eq_none_of_lt (fun x hx => Nat.lt_trans b (hp x hx))
      simp [this]; omega
    · have := ih hrest; simp; omega

/-- An erasure drops the entry it removes. -/
theorem total_erase (m : ClientEntries) (f : ClientEntry → Nat) (h : IWDFFile) :
    total f (erase m h) + (find m h).elim 0 f = total f m := by
  induction m with
  | nil => rfl
  | cons p rest ih =>
    obtain ⟨h1, e1⟩ := p
    simp only [erase, find]
    split_ifs <;> simp <;> omega

end ClientEntries

/-- `CLIENT_MAP`: entries in strictly increasing handle order. -/
structure ClientMap where
  entries : ClientEntries
  sorted : ClientEntries.Sorted entries

instance : DecidableEq ClientMap := fun a b =>
  decidable_of_iff (a.entries = b.entries) (by cases a; cases b; simp)

namespace ClientMap

/-- The empty map. -/
def empty : ClientMap := ⟨[], List.Pairwise.nil⟩

/-- `m_pClientList.find(h)`. -/
def find (m : ClientMap) (h : IWDFFile) : Option ClientEntry := m.entries.find h

/-- `m_pClientList[h] = e`. -/
def assign (m : ClientMap) (h : IWDFFile) (e : ClientEntry) : ClientMap :=
  ⟨m.entries.assign h e, ClientEntries.sorted_assign m.sorted h e⟩

/-- `m_pClientList.erase(iter)` for the iterator `find(h)` returned. -/
def erase (m : ClientMap) (h : IWDFFile) : ClientMap :=
  ⟨m.entries.erase h, m.sorted.sublist (ClientEntries.erase_sublist m.entries h)⟩

/-- `m_pClientList.size()`. -/
def size (m : ClientMap) : Nat := m.entries.length

/-- The number of entries whose `fSubscribed` is `TRUE`. -/
def subscribers (m : ClientMap) : Nat := ClientEntries.total (fun e => e.subscribed.toNat) m.entries

@[simp] theorem find_empty (h : IWDFFile) : empty.find h = none := rfl

theorem find_assign (m : ClientMap) (h h' : IWDFFile) (e : ClientEntry) :
    (m.assign h e).find h' = if h = h' then some e else m.find h' :=
  ClientEntries.find_assign _ _ _ _

@[simp] theorem find_assign_self (m : ClientMap) (h : IWDFFile) (e : ClientEntry) :
    (m.assign h e).find h = some e := by
  simp [find_assign]

theorem find_assign_ne (m : ClientMap) {h h' : IWDFFile} (e : ClientEntry) (hne : h ≠ h') :
    (m.assign h e).find h' = m.find h' := by
  simp [find_assign, hne]

@[simp] theorem find_erase_self (m : ClientMap) (h : IWDFFile) : (m.erase h).find h = none :=
  ClientEntries.find_erase_self m.sorted h

theorem find_erase_ne (m : ClientMap) {h h' : IWDFFile} (hne : h ≠ h') :
    (m.erase h).find h' = m.find h' :=
  ClientEntries.find_erase_ne _ hne

theorem size_eq_total (m : ClientMap) : m.size = ClientEntries.total (fun _ => 1) m.entries := by
  rw [size]
  induction m.entries with
  | nil => rfl
  | cons p rest ih => simp only [List.length_cons, ClientEntries.total_cons, ih]; omega

theorem size_assign_of_find_none {m : ClientMap} {h : IWDFFile} (e : ClientEntry)
    (hf : m.find h = none) : (m.assign h e).size = m.size + 1 := by
  have := ClientEntries.total_assign m.sorted (fun _ => 1) h e
  simp only [find] at hf
  simp_all [size_eq_total, assign]

theorem size_assign_of_find_some {m : ClientMap} {h : IWDFFile} {e' : ClientEntry} (e : ClientEntry)
    (hf : m.find h = some e') : (m.assign h e).size = m.size := by
  have := ClientEntries.total_assign m.sorted (fun _ => 1) h e
  simp only [find] at hf
  simp_all [size_eq_total, assign]

theorem size_erase_of_find_some {m : ClientMap} {h : IWDFFile} {e : ClientEntry}
    (hf : m.find h = some e) : (m.erase h).size + 1 = m.size := by
  have := ClientEntries.total_erase m.entries (fun _ => 1) h
  simp only [find] at hf
  simp_all [size_eq_total, erase]

theorem subscribers_assign {m : ClientMap} {h : IWDFFile} {e' : ClientEntry} (e : ClientEntry)
    (hf : m.find h = some e') :
    (m.assign h e).subscribers + e'.subscribed.toNat = m.subscribers + e.subscribed.toNat := by
  have := ClientEntries.total_assign m.sorted (fun e => e.subscribed.toNat) h e
  simp only [find] at hf
  simp_all [subscribers, assign]

theorem subscribers_assign_of_find_none {m : ClientMap} {h : IWDFFile} (e : ClientEntry)
    (hf : m.find h = none) : (m.assign h e).subscribers = m.subscribers + e.subscribed.toNat := by
  have := ClientEntries.total_assign m.sorted (fun e => e.subscribed.toNat) h e
  simp only [find] at hf
  simp_all [subscribers, assign]

theorem subscribers_erase {m : ClientMap} {h : IWDFFile} {e : ClientEntry}
    (hf : m.find h = some e) : (m.erase h).subscribers + e.subscribed.toNat = m.subscribers := by
  have := ClientEntries.total_erase m.entries (fun e => e.subscribed.toNat) h
  simp only [find] at hf
  simp_all [subscribers, erase]

theorem subscribers_le_size (m : ClientMap) : m.subscribers ≤ m.size := by
  rw [size_eq_total, subscribers]
  induction m.entries with
  | nil => rfl
  | cons p rest ih => simp only [ClientEntries.total_cons]; have := Bool.toNat_le p.2.subscribed; omega

theorem subscribers_pos_iff (m : ClientMap) :
    0 < m.subscribers ↔ ∃ x ∈ m.entries, x.2.subscribed = true := by
  rw [subscribers]
  induction m.entries with
  | nil => simp
  | cons p rest ih => cases h : p.2.subscribed <;> simp [h, ih, Nat.one_add]

theorem size_eq_zero_iff (m : ClientMap) : m.size = 0 ↔ m.entries = [] :=
  List.length_eq_zero

end ClientMap

end SpbAccelerometer
