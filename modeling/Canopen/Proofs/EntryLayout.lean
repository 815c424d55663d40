import Canopen.Proofs.Resolution

/-! # Where the entries of a mapping lie

A descriptor is resolved behind those before it, and what comes of it depends on them in one way only:
its bytes start where theirs end, and must still fit into the frame (`resolveEntry_of_fits`).  So a
mapping can be resolved exactly if each descriptor can be resolved by itself and all lengths together
fit, the entries follow one another in the order of the descriptors, and the first descriptor that
fails behind those before it decides the error (`resolve_layout`). -/

namespace Canopen

/-! ### Descriptors -/

namespace MappingDescriptor

/-- The number of bytes that a descriptor asks for, if it is a whole number. -/
def byteLength (d : MappingDescriptor) : Nat := d.byteLength?.getD 0

/-- The number of bytes that descriptors ask for together. -/
def totalLength : List MappingDescriptor → Nat
  | [] => 0
  | d :: ds => d.byteLength + totalLength ds

/-- Where the entry at a position starts, if those before it follow `mapped` bytes of others. -/
def start (mapped : Nat) (ds : List MappingDescriptor) (j : Nat) : Nat :=
  mapped + totalLength (ds.take j)

/-- The object that is named asks for a transmission when its value changes. -/
def DetectsChange (attributes : Attributes) (d : MappingDescriptor) : Prop :=
  d.isDummy = false ∧ ∃ object info, attributes d.index = some object ∧
    object.info d.sub = some info ∧ info.detectChange = true

theorem byteLength_of_some {d : MappingDescriptor} {len : Nat} (h : d.byteLength? = some len) :
    d.byteLength = len := by
  unfold byteLength
  rw [h, Option.getD_some]

@[simp] theorem start_zero (mapped : Nat) (ds : List MappingDescriptor) : start mapped ds 0 = mapped :=
  rfl

@[simp] theorem start_cons_succ (mapped : Nat) (d : MappingDescriptor) (ds : List MappingDescriptor)
    (j : Nat) : start mapped (d :: ds) (j + 1) = start (mapped + d.byteLength) ds j :=
  (Nat.add_assoc _ _ _).symm

end MappingDescriptor

/-- The entry of a descriptor has the length that is asked for, and belongs to the object that is
named, or to none if this is a dummy entry. -/
structure Target.IsOf (t : Target) (direction : Direction) (d : MappingDescriptor) : Prop where
  len : d.byteLength? = some t.len
  place : if d.isDummy then t = .dummy direction t.len
    else ∃ multibyte, t = .object ⟨d.index, d.sub⟩ t.len multibyte

/-! ### One entry -/

/-- An entry at the start of the frame, moved behind other entries. -/
def ResolvedEntry.behind (e : ResolvedEntry) (mapped : Nat) : ResolvedEntry :=
  ⟨e.target, mapped + e.totalLen, e.changeFlags <<< mapped⟩

section entry
variable {attributes : Attributes} {direction : Direction} {d : MappingDescriptor} {mapped len : Nat}

theorem resolveEntry_of_unaligned (h : d.byteLength? = none) :
    resolveEntry attributes direction d mapped = .error ⟨.notMappable, ⟨d.index, d.sub⟩⟩ := by
  unfold resolveEntry
  rw [h]

theorem resolveEntry_of_exceeds (h : d.byteLength? = some len) (hlen : maxPdoLength < mapped + len) :
    resolveEntry attributes direction d mapped = .error ⟨.lengthExceeded, ⟨d.index, d.sub⟩⟩ := by
  unfold resolveEntry
  rw [h]
  exact if_pos hlen

/-- Entries before a descriptor move its entry, and change nothing else. -/
theorem resolveEntry_of_fits (h : d.byteLength? = some len) (hlen : mapped + len ≤ maxPdoLength) :
    resolveEntry attributes direction d mapped =
      (resolveEntry attributes direction d 0).map (·.behind mapped) := by
  have hfits : ¬ maxPdoLength < mapped + len := Nat.not_lt.mpr hlen
  have hfits' : ¬ maxPdoLength < 0 + len := by omega
  unfold resolveEntry
  rw [h]
  dsimp only
  rw [if_neg hfits, if_neg hfits']
  by_cases hdummy : d.isDummy = true
  · rw [if_pos hdummy, if_pos hdummy]
    by_cases hsize : dummySize d.index < len
    · rw [if_pos hsize, if_pos hsize]
      rfl
    · rw [if_neg hsize, if_neg hsize]
      simp [Except.map, ResolvedEntry.behind]
  · rw [if_neg hdummy, if_neg hdummy]
    cases attributes d.index with
    | none => rfl
    | some object =>
        dsimp only
        by_cases hsub : object.maxSub < d.sub
        · rw [if_pos hsub, if_pos hsub]
          rfl
        · rw [if_neg hsub, if_neg hsub]
          cases object.info d.sub with
          | none => rfl
          | some info =>
              dsimp only
              by_cases hpermitted : (direction.permits info && decide (len ≤ info.size)) = true
              · rw [if_pos hpermitted, if_pos hpermitted]
                by_cases hdetects : direction = .transmit ∧ info.detectChange = true
                · simp [hdetects, Except.map, ResolvedEntry.behind, byteMask]
                · simp [hdetects, Except.map, ResolvedEntry.behind]
              · rw [if_neg hpermitted, if_neg hpermitted]
                rfl

theorem resolveEntry_zero_ok {e : ResolvedEntry} (h : resolveEntry attributes direction d 0 = .ok e) :
    e.target.IsOf direction d ∧ e.totalLen = e.target.len ∧
      ∀ i, e.changeFlags.testBit i = true ↔
        direction = .transmit ∧ i < e.target.len ∧ d.DetectsChange attributes := by
  unfold resolveEntry at h
  dsimp only at h
  split at h
  · cases h
  · rename_i len hlen
    split at h
    · cases h
    · split at h
      · rename_i hdummy
        split at h
        · cases h
        · cases h
          refine ⟨⟨hlen, ?_⟩, Nat.zero_add len, fun i => ?_⟩
          · rw [if_pos hdummy]
            rfl
          · simp [MappingDescriptor.DetectsChange, hdummy]
      · rename_i hdummy
        split at h
        · cases h
        · rename_i object hobject
          split at h
          · cases h
          · split at h
            · cases h
            · rename_i info hinfo
              split at h
              · cases h
                refine ⟨⟨hlen, ?_⟩, Nat.zero_add len, fun i => ?_⟩
                · rw [if_neg hdummy]
                  exact ⟨_, rfl⟩
                · have hdetects : d.DetectsChange attributes ↔ info.detectChange = true := by
                    simp [MappingDescriptor.DetectsChange, hdummy, hobject, hinfo]
                  rw [hdetects]
                  dsimp only [Target.len]
                  by_cases h : direction = .transmit ∧ info.detectChange = true
                  · rw [if_pos h, testBit_byteMask]
                    simp [h]
                  · rw [if_neg h]
                    simp only [Nat.zero_testBit, Bool.false_eq_true, false_iff]
                    exact fun ⟨htransmit, _, hinfo⟩ => h ⟨htransmit, hinfo⟩
              · cases h

/-- A descriptor can be resolved behind others if it can be resolved by itself and still fits. -/
theorem resolveEntry_eq_ok_iff {e' : ResolvedEntry} :
    resolveEntry attributes direction d mapped = .ok e' ↔
      ∃ e, resolveEntry attributes direction d 0 = .ok e ∧ mapped + d.byteLength ≤ maxPdoLength ∧
        e' = e.behind mapped := by
  cases hlen : d.byteLength? with
  | none =>
      rw [resolveEntry_of_unaligned hlen, resolveEntry_of_unaligned hlen]
      constructor
      · intro h
        cases h
      · rintro ⟨e, h, _⟩
        cases h
  | some len =>
      rw [MappingDescriptor.byteLength_of_some hlen]
      by_cases hfits : mapped + len ≤ maxPdoLength
      · rw [resolveEntry_of_fits hlen hfits]
        constructor
        · intro h
          cases he : resolveEntry attributes direction d 0 with
          | error err =>
              rw [he] at h
              cases h
          | ok e =>
              rw [he] at h
              exact ⟨e, rfl, hfits, (Except.ok.inj h).symm⟩
        · rintro ⟨e, he, _, rfl⟩
          rw [he]
          rfl
      · rw [resolveEntry_of_exceeds hlen (Nat.lt_of_not_le hfits)]
        constructor
        · intro h
          cases h
        · rintro ⟨e, _, h, _⟩
          exact absurd h hfits

theorem totalLen_behind {e : ResolvedEntry} (h : resolveEntry attributes direction d 0 = .ok e)
    (mapped : Nat) : (e.behind mapped).totalLen = mapped + d.byteLength := by
  obtain ⟨hof, htotal, _⟩ := resolveEntry_zero_ok h
  rw [MappingDescriptor.byteLength_of_some hof.len, ← htotal]
  rfl

/-- None of the rules for a descriptor that fits is about the length of the frame. -/
theorem fault_of_fits {err : MappingError} (h : resolveEntry attributes direction d mapped = .error err)
    (hlen : d.byteLength? = some len) (hfits : mapped + len ≤ maxPdoLength) :
    err.fault ≠ .lengthExceeded := by
  unfold resolveEntry at h
  rw [hlen] at h
  dsimp only at h
  rw [if_neg (Nat.not_lt.mpr hfits)] at h
  split at h
  · split at h
    · cases h
      exact nofun
    · cases h
  · split at h
    · cases h
      exact nofun
    · split at h
      · cases h
        exact nofun
      · split at h
        · cases h
          exact nofun
        · split at h
          · cases h
          · cases h
            exact nofun

theorem fault_eq_lengthExceeded_iff {err : MappingError}
    (h : resolveEntry attributes direction d mapped = .error err) :
    err.fault = .lengthExceeded ↔
      ∃ len, d.byteLength? = some len ∧ maxPdoLength < mapped + len := by
  constructor
  · intro hfault
    cases hlen : d.byteLength? with
    | none =>
        rw [resolveEntry_of_unaligned hlen] at h
        rw [← Except.error.inj h] at hfault
        cases hfault
    | some len =>
        exact ⟨len, rfl, Nat.lt_of_not_le fun hfits => fault_of_fits h hlen hfits hfault⟩
  · rintro ⟨len, hlen, hexceeds⟩
    rw [resolveEntry_of_exceeds hlen hexceeds] at h
    rw [← Except.error.inj h]

end entry

/-! ### Entries behind one another -/

/-- Resolve descriptors behind `mapped` bytes of other entries, each behind those before it. -/
def resolveEntries (attributes : Attributes) (direction : Direction) :
    Nat → List MappingDescriptor → Except MappingError (List ResolvedEntry)
  | _, [] => .ok []
  | mapped, d :: ds => do
    let e ← resolveEntry attributes direction d mapped
    let es ← resolveEntries attributes direction e.totalLen ds
    return e :: es

/-- The mapping with one more entry. -/
def MappedPdo.push (m : MappedPdo) (e : ResolvedEntry) : MappedPdo :=
  ⟨m.targets ++ [e.target], e.totalLen, m.changeFlags ||| e.changeFlags⟩

/-- The descriptor at a position is the first that fails behind those before it, with this error. -/
structure FailsFirst (attributes : Attributes) (direction : Direction) (mapped : Nat)
    (ds : List MappingDescriptor) (j : Nat) (d : MappingDescriptor) (err : MappingError) : Prop where
  here : ds[j]? = some d
  before : ∀ (i : Nat) (d' : MappingDescriptor), i < j → ds[i]? = some d' →
    ∃ e, resolveEntry attributes direction d' (MappingDescriptor.start mapped ds i) = .ok e
  error : resolveEntry attributes direction d (MappingDescriptor.start mapped ds j) = .error err

open MappingDescriptor

section entries
variable {attributes : Attributes} {direction : Direction} {ds : List MappingDescriptor} {mapped : Nat}
  {es : List ResolvedEntry}

theorem resolveEntries_cons_of_error {d : MappingDescriptor} {err : MappingError}
    (h : resolveEntry attributes direction d mapped = .error err) :
    resolveEntries attributes direction mapped (d :: ds) = .error err := by
  unfold resolveEntries
  rw [h]
  rfl

theorem resolveEntries_cons_of_ok {d : MappingDescriptor} {e : ResolvedEntry}
    (he : resolveEntry attributes direction d 0 = .ok e)
    (hfits : mapped + d.byteLength ≤ maxPdoLength) :
    resolveEntries attributes direction mapped (d :: ds) =
      (resolveEntries attributes direction (mapped + d.byteLength) ds).map (e.behind mapped :: ·) := by
  have hbehind := resolveEntry_eq_ok_iff.mpr ⟨e, he, hfits, rfl⟩
  have htotal := totalLen_behind he mapped
  rw [← htotal]
  show (do
    let e' ← resolveEntry attributes direction d mapped
    let es ← resolveEntries attributes direction e'.totalLen ds
    return e' :: es) = _
  rw [hbehind]
  show (do
    let es ← resolveEntries attributes direction (e.behind mapped).totalLen ds
    return e.behind mapped :: es) = _
  cases resolveEntries attributes direction (e.behind mapped).totalLen ds with
  | ok es => rfl
  | error err => rfl

theorem resolveEntries_cons_ok {d : MappingDescriptor} :
    resolveEntries attributes direction mapped (d :: ds) = .ok es ↔
      ∃ e es', resolveEntry attributes direction d 0 = .ok e ∧
        mapped + d.byteLength ≤ maxPdoLength ∧
        resolveEntries attributes direction (mapped + d.byteLength) ds = .ok es' ∧
        es = e.behind mapped :: es' := by
  cases hd : resolveEntry attributes direction d mapped with
  | error err =>
      rw [resolveEntries_cons_of_error hd]
      constructor
      · intro h
        cases h
      · rintro ⟨e, _, he, hfits, _⟩
        rw [resolveEntry_eq_ok_iff.mpr ⟨e, he, hfits, rfl⟩] at hd
        cases hd
  | ok e' =>
      obtain ⟨e, he, hfits, rfl⟩ := resolveEntry_eq_ok_iff.mp hd
      rw [resolveEntries_cons_of_ok he hfits, he]
      cases resolveEntries attributes direction (mapped + d.byteLength) ds with
      | error err =>
          constructor
          · intro h
            cases h
          · rintro ⟨_, _, _, _, h, _⟩
            cases h
      | ok es' =>
          constructor
          · intro h
            exact ⟨e, es', rfl, hfits, rfl, (Except.ok.inj h).symm⟩
          · rintro ⟨e₁, es₁, he₁, _, hes₁, rfl⟩
            rw [Except.ok.inj he₁, Except.ok.inj hes₁]
            rfl

/-- Descriptors can be resolved behind one another if each can be resolved by itself and all fit. -/
theorem exists_resolveEntries_iff (h : mapped ≤ maxPdoLength) :
    (∃ es, resolveEntries attributes direction mapped ds = .ok es) ↔
      (∀ d ∈ ds, ∃ e, resolveEntry attributes direction d 0 = .ok e) ∧
        mapped + totalLength ds ≤ maxPdoLength := by
  induction ds generalizing mapped with
  | nil =>
      constructor
      · intro _
        exact ⟨by simp, h⟩
      · intro _
        exact ⟨[], rfl⟩
  | cons d ds ih =>
      have hsum : mapped + totalLength (d :: ds) = mapped + d.byteLength + totalLength ds :=
        (Nat.add_assoc _ _ _).symm
      rw [hsum]
      constructor
      · rintro ⟨es, hes⟩
        obtain ⟨e, es', he, hfits, hes', _⟩ := resolveEntries_cons_ok.mp hes
        obtain ⟨hall, hle⟩ := (ih hfits).mp ⟨es', hes'⟩
        exact ⟨List.forall_mem_cons.mpr ⟨⟨e, he⟩, hall⟩, hle⟩
      · rintro ⟨hall, hle⟩
        obtain ⟨⟨e, he⟩, hall⟩ := List.forall_mem_cons.mp hall
        have hfits : mapped + d.byteLength ≤ maxPdoLength := by omega
        obtain ⟨es', hes'⟩ := (ih hfits).mpr ⟨hall, hle⟩
        exact ⟨_, resolveEntries_cons_ok.mpr ⟨e, es', he, hfits, hes', rfl⟩⟩

theorem length_resolveEntries (h : resolveEntries attributes direction mapped ds = .ok es) :
    es.length = ds.length := by
  induction ds generalizing mapped es with
  | nil =>
      rw [← Except.ok.inj h]
      rfl
  | cons d ds ih =>
      obtain ⟨e, es', _, _, hes', rfl⟩ := resolveEntries_cons_ok.mp h
      simp only [List.length_cons, ih hes']

/-- The entry of a descriptor is the one it has by itself, moved to where it starts. -/
theorem getElem?_resolveEntries (h : resolveEntries attributes direction mapped ds = .ok es) {j : Nat}
    {d : MappingDescriptor} (hd : ds[j]? = some d) :
    ∃ e, resolveEntry attributes direction d 0 = .ok e ∧
      es[j]? = some (e.behind (start mapped ds j)) := by
  induction ds generalizing mapped es j with
  | nil => cases hd
  | cons d' ds ih =>
      obtain ⟨e, es', he, _, hes', rfl⟩ := resolveEntries_cons_ok.mp h
      cases j with
      | zero =>
          obtain rfl := Option.some.inj hd
          exact ⟨e, he, rfl⟩
      | succ j =>
          obtain ⟨e', he', hget⟩ := ih hes' hd
          exact ⟨e', he', by rw [start_cons_succ]; exact hget⟩

theorem FailsFirst.cons {d d' : MappingDescriptor} {e : ResolvedEntry} {j : Nat} {err : MappingError}
    (h : FailsFirst attributes direction (mapped + d.byteLength) ds j d' err)
    (hd : resolveEntry attributes direction d mapped = .ok e) :
    FailsFirst attributes direction mapped (d :: ds) (j + 1) d' err where
  here := h.here
  before := by
    intro i d'' hi hd''
    cases i with
    | zero =>
        obtain rfl := Option.some.inj hd''
        exact ⟨e, hd⟩
    | succ i =>
        rw [start_cons_succ]
        exact h.before i d'' (Nat.lt_of_succ_lt_succ hi) hd''
  error := by
    rw [start_cons_succ]
    exact h.error

/-- Resolution behind one another fails at the first descriptor that fails. -/
theorem exists_failsFirst {err : MappingError}
    (h : resolveEntries attributes direction mapped ds = .error err) :
    ∃ j d, FailsFirst attributes direction mapped ds j d err := by
  induction ds generalizing mapped with
  | nil => cases h
  | cons d ds ih =>
      cases hd : resolveEntry attributes direction d mapped with
      | error err' =>
          rw [resolveEntries_cons_of_error hd] at h
          obtain rfl := Except.error.inj h
          exact ⟨0, d, rfl, fun _ _ hlt => absurd hlt (Nat.not_lt_zero _), hd⟩
      | ok e' =>
          obtain ⟨e, he, hfits, _⟩ := resolveEntry_eq_ok_iff.mp hd
          rw [resolveEntries_cons_of_ok he hfits] at h
          cases hds : resolveEntries attributes direction (mapped + d.byteLength) ds with
          | ok es =>
              rw [hds] at h
              cases h
          | error err' =>
              rw [hds] at h
              obtain rfl := Except.error.inj h
              obtain ⟨j, d', hfails⟩ := ih hds
              exact ⟨j + 1, d', hfails.cons hd⟩

end entries

/-! ### Mappings -/

namespace MappedPdo

variable {attributes : Attributes} {direction : Direction} {ds : List MappingDescriptor}

/-- The entries of a mapping: one for each descriptor, in order and one behind the other. -/
structure LaidOut (m : MappedPdo) (attributes : Attributes) (direction : Direction)
    (ds : List MappingDescriptor) : Prop where
  length_eq : m.targets.length = ds.length
  target : ∀ (j : Nat) (d : MappingDescriptor), ds[j]? = some d →
    ∃ e, resolveEntry attributes direction d 0 = .ok e ∧ m.targets[j]? = some e.target ∧
      e.target.IsOf direction d
  dataLen_eq : m.dataLen = totalLength ds
  testBit_changeFlags : ∀ i, m.changeFlags.testBit i = true ↔
    direction = .transmit ∧ ∃ (j : Nat) (d : MappingDescriptor), ds[j]? = some d ∧
      d.DetectsChange attributes ∧ start 0 ds j ≤ i ∧ i < start 0 ds j + d.byteLength

@[simp] theorem targets_foldl_push (m : MappedPdo) (es : List ResolvedEntry) :
    (es.foldl push m).targets = m.targets ++ es.map ResolvedEntry.target := by
  induction es generalizing m with
  | nil => simp
  | cons e es ih => simp [ih, push]

theorem testBit_foldl_push (m : MappedPdo) (es : List ResolvedEntry) (i : Nat) :
    (es.foldl push m).changeFlags.testBit i = true ↔
      m.changeFlags.testBit i = true ∨ ∃ e ∈ es, e.changeFlags.testBit i = true := by
  induction es generalizing m with
  | nil => simp
  | cons e es ih => simp [ih, push, or_assoc]

theorem dataLen_foldl_push {m : MappedPdo} {es : List ResolvedEntry}
    (h : resolveEntries attributes direction m.dataLen ds = .ok es) :
    (es.foldl push m).dataLen = m.dataLen + totalLength ds := by
  induction ds generalizing m es with
  | nil =>
      rw [← Except.ok.inj h]
      rfl
  | cons d ds ih =>
      obtain ⟨e, es', he, _, hes', rfl⟩ := resolveEntries_cons_ok.mp h
      have hpush : (m.push (e.behind m.dataLen)).dataLen = m.dataLen + d.byteLength :=
        totalLen_behind he _
      rw [← hpush] at hes'
      rw [List.foldl_cons, ih hes', hpush, Nat.add_assoc]
      rfl

theorem extend_of_error {m : MappedPdo} {d : MappingDescriptor} {err : MappingError}
    (h : resolveEntry attributes direction d m.dataLen = .error err) :
    extend attributes direction m d = .error err := by
  unfold extend
  rw [h]
  rfl

theorem extend_of_ok {m : MappedPdo} {d : MappingDescriptor} {e : ResolvedEntry}
    (hroom : m.targets.length < maxMappings)
    (h : resolveEntry attributes direction d m.dataLen = .ok e) :
    extend attributes direction m d = .ok (m.push e) := by
  unfold extend
  rw [h]
  exact if_pos hroom

/-- A mapping is made of the entries that come of its descriptors; eight of them have room. -/
theorem foldlM_extend {m : MappedPdo} (h : m.targets.length + ds.length ≤ maxMappings) :
    ds.foldlM (extend attributes direction) m =
      (resolveEntries attributes direction m.dataLen ds).map (·.foldl push m) := by
  induction ds generalizing m with
  | nil => rfl
  | cons d ds ih =>
      rw [List.length_cons] at h
      have hroom : m.targets.length < maxMappings := by omega
      rw [List.foldlM_cons]
      cases hd : resolveEntry attributes direction d m.dataLen with
      | error err =>
          rw [extend_of_error hd, resolveEntries_cons_of_error hd]
          rfl
      | ok e' =>
          obtain ⟨e, he, hfits, rfl⟩ := resolveEntry_eq_ok_iff.mp hd
          have hlength : (m.push (e.behind m.dataLen)).targets.length + ds.length ≤ maxMappings := by
            simp only [push, List.length_append, List.length_singleton]
            omega
          have hpush : (m.push (e.behind m.dataLen)).dataLen = m.dataLen + d.byteLength :=
            totalLen_behind he _
          rw [extend_of_ok hroom hd, resolveEntries_cons_of_ok he hfits, ← hpush]
          show ds.foldlM (extend attributes direction) (m.push (e.behind m.dataLen)) = _
          rw [ih hlength]
          cases resolveEntries attributes direction (m.push (e.behind m.dataLen)).dataLen ds with
          | ok es => rfl
          | error err => rfl

theorem resolve_eq (h : ds.length ≤ maxMappings) :
    resolve attributes direction ds =
      (resolveEntries attributes direction 0 ds).map (·.foldl push empty) := by
  have hlength : empty.targets.length + ds.length ≤ maxMappings := by
    rw [show empty.targets.length = 0 from rfl, Nat.zero_add]
    exact h
  exact foldlM_extend hlength

theorem laidOut_of_resolveEntries {es : List ResolvedEntry}
    (h : resolveEntries attributes direction 0 ds = .ok es) :
    (es.foldl push empty).LaidOut attributes direction ds where
  length_eq := by
    rw [targets_foldl_push, ← length_resolveEntries h]
    simp [empty]
  target := by
    intro j d hd
    obtain ⟨e, he, hget⟩ := getElem?_resolveEntries h hd
    refine ⟨e, he, ?_, (resolveEntry_zero_ok he).1⟩
    rw [targets_foldl_push]
    simp [empty, hget, ResolvedEntry.behind]
  dataLen_eq := by
    have hlen := dataLen_foldl_push (m := empty) h
    rw [hlen]
    exact Nat.zero_add _
  testBit_changeFlags := by
    intro i
    -- the bits of an entry by itself, moved to where it starts
    have hentry : ∀ (j : Nat) (d : MappingDescriptor) (e : ResolvedEntry),
        resolveEntry attributes direction d 0 = .ok e →
          ((e.behind (start 0 ds j)).changeFlags.testBit i = true ↔ direction = .transmit ∧
            d.DetectsChange attributes ∧ start 0 ds j ≤ i ∧ i < start 0 ds j + d.byteLength) := by
      intro j d e he
      obtain ⟨hof, _, hflags⟩ := resolveEntry_zero_ok he
      have hlen := byteLength_of_some hof.len
      show (e.changeFlags <<< start 0 ds j).testBit i = true ↔ _
      rw [Nat.testBit_shiftLeft, Bool.and_eq_true, hflags, hlen]
      simp only [ge_iff_le, decide_eq_true_eq]
      constructor
      · rintro ⟨hle, htransmit, hlt, hdetects⟩
        exact ⟨htransmit, hdetects, hle, by omega⟩
      · rintro ⟨htransmit, hdetects, hle, hlt⟩
        exact ⟨hle, htransmit, by omega, hdetects⟩
    rw [testBit_foldl_push]
    constructor
    · rintro (hempty | ⟨e', he', hbit⟩)
      · simp [empty] at hempty
      · obtain ⟨j, hj⟩ := List.mem_iff_getElem?.mp he'
        have hlt : j < ds.length := by
          rw [← length_resolveEntries h]
          exact (List.getElem?_eq_some_iff.mp hj).1
        have hd := List.getElem?_eq_getElem hlt
        obtain ⟨e, he, hget⟩ := getElem?_resolveEntries h hd
        obtain rfl := Option.some.inj (hj.symm.trans hget)
        obtain ⟨htransmit, hdetects, hle, hlt⟩ := (hentry j _ e he).mp hbit
        exact ⟨htransmit, j, _, hd, hdetects, hle, hlt⟩
    · rintro ⟨htransmit, j, d, hd, hdetects, hle, hlt⟩
      obtain ⟨e, he, hget⟩ := getElem?_resolveEntries h hd
      exact .inr ⟨_, List.mem_of_getElem? hget,
        (hentry j d e he).mpr ⟨htransmit, hdetects, hle, hlt⟩⟩

/-- **Resolution is exact.**  Up to eight descriptors can be resolved if and only if each of them can
be resolved by itself, at the start of the frame, and their lengths add up to no more than a frame
holds.  Then their entries follow one another, and the bytes that are watched for changes are those
of transmitted objects that ask for it.  Otherwise the error is that of the first descriptor that
fails behind those before it; it is that the frame is too short if and only if this descriptor has a
whole number of bytes and ends beyond the frame, whatever else is wrong with it. -/
theorem resolve_layout (attributes : Attributes) (direction : Direction)
    (ds : List MappingDescriptor) (h : ds.length ≤ maxMappings) :
    ((∃ m, resolve attributes direction ds = .ok m) ↔
        (∀ d ∈ ds, ∃ e, resolveEntry attributes direction d 0 = .ok e) ∧
          totalLength ds ≤ maxPdoLength) ∧
      (∀ m, resolve attributes direction ds = .ok m → m.LaidOut attributes direction ds) ∧
      ∀ err, resolve attributes direction ds = .error err →
        ∃ j d, FailsFirst attributes direction 0 ds j d err ∧
          (err.fault = .lengthExceeded ↔
            ∃ len, d.byteLength? = some len ∧ maxPdoLength < start 0 ds j + len) := by
  have hiff : (∃ es, resolveEntries attributes direction 0 ds = .ok es) ↔ _ :=
    exists_resolveEntries_iff (Nat.zero_le maxPdoLength)
  rw [Nat.zero_add] at hiff
  rw [resolve_eq h, ← hiff]
  cases hes : resolveEntries attributes direction 0 ds with
  | ok es =>
      refine ⟨⟨fun _ => ⟨es, rfl⟩, fun _ => ⟨_, rfl⟩⟩, fun m hm => ?_, fun err herr => ?_⟩
      · rw [← Except.ok.inj hm]
        exact laidOut_of_resolveEntries hes
      · cases herr
  | error err =>
      refine ⟨⟨?_, ?_⟩, fun m hm => ?_, fun err' herr => ?_⟩
      · rintro ⟨m, hm⟩
        cases hm
      · rintro ⟨es, hes'⟩
        cases hes'
      · cases hm
      · rw [← Except.error.inj herr]
        obtain ⟨j, d, hfails⟩ := exists_failsFirst hes
        exact ⟨j, d, hfails, fault_eq_lengthExceeded_iff hfails.error⟩

/-- A number of four bytes whose changes are watched, and one of two bytes. -/
def watchedAttributes : Attributes :=
  let number := AppObject.var (SubInfo.u32.readWrite.mappable .both).detectingChange (.ofNumber .u32 0)
  let half := AppObject.var (SubInfo.u16.readWrite.mappable .both) (.ofNumber .u16 0)
  Dictionary.attributes ⟨[⟨0x2000, .application number⟩, ⟨0x2001, .application half⟩]⟩ 0 0

/-- The number of two bytes, a dummy byte, nothing, and the number of four bytes. -/
def mixedEntries : List MappingDescriptor :=
  [⟨0x2001, 0, 16⟩, ⟨5, 0, 8⟩, ⟨0x2001, 0, 0⟩, ⟨0x2000, 0, 32⟩]

/-- The number of four bytes twice, and an object that does not exist. -/
def longEntries : List MappingDescriptor := [⟨0x2000, 0, 32⟩, ⟨0x2000, 0, 32⟩, ⟨0x3000, 0, 8⟩]

/-- The third byte is a dummy byte and the fourth the first one that is watched.  That the frame is
full is noticed before that the object does not exist. -/
theorem resolve_layout_mixed :
    (∃ m, resolve watchedAttributes .transmit mixedEntries = .ok m ∧ m.dataLen = 7 ∧
        m.changeFlags.testBit 2 = false ∧ m.changeFlags.testBit 3 = true) ∧
      ∃ j d, FailsFirst watchedAttributes .transmit 0 longEntries j d
          ⟨.lengthExceeded, ⟨0x3000, 0⟩⟩ ∧
        ∃ len, d.byteLength? = some len ∧ maxPdoLength < start 0 longEntries j + len := by
  constructor
  · obtain ⟨hiff, hlaid, _⟩ := resolve_layout watchedAttributes .transmit mixedEntries (by decide)
    have hentries : ∀ d ∈ mixedEntries,
        ∃ e, resolveEntry watchedAttributes .transmit d 0 = .ok e := by
      simp only [mixedEntries, List.forall_mem_cons]
      exact ⟨⟨_, rfl⟩, ⟨_, rfl⟩, ⟨_, rfl⟩, ⟨_, rfl⟩, by simp⟩
    obtain ⟨m, hm⟩ := hiff.mpr ⟨hentries, by decide⟩
    have hlaidOut := hlaid m hm
    have hflags := hlaidOut.testBit_changeFlags
    have hwatched : MappingDescriptor.DetectsChange watchedAttributes ⟨0x2000, 0, 32⟩ :=
      ⟨rfl, _, _, rfl, rfl, rfl⟩
    have hdummy : ¬ MappingDescriptor.DetectsChange watchedAttributes ⟨5, 0, 8⟩ :=
      fun ⟨h, _⟩ => by cases h
    refine ⟨m, hm, hlaidOut.dataLen_eq, Bool.eq_false_iff.mpr fun hbit => ?_,
      (hflags 3).mpr ⟨rfl, 3, _, rfl, hwatched, by decide, by decide⟩⟩
    obtain ⟨_, j, d, hd, hdetects, hle, hlt⟩ := (hflags 2).mp hbit
    match j, hd with
    | 0, hd =>
        obtain rfl := Option.some.inj hd
        exact absurd hlt (by decide)
    | 1, hd =>
        obtain rfl := Option.some.inj hd
        exact hdummy hdetects
    | 2, hd => exact absurd hle (by decide)
    | 3, hd => exact absurd hle (by decide)
  · obtain ⟨_, _, herror⟩ := resolve_layout watchedAttributes .transmit longEntries (by decide)
    obtain ⟨j, d, hfails, hexceeds⟩ := herror ⟨.lengthExceeded, ⟨0x3000, 0⟩⟩ rfl
    exact ⟨j, d, hfails, hexceeds.mp rfl⟩

end MappedPdo

end Canopen
