import Canopen.Proofs.Run

/-! # What the operations of a device do

Each operation is opened here once; later proofs cite these statements.  A dictionary write is one
of the cases of `Device.Written`, whatever it is addressed to and whether it is accepted; what a write
to a parameter object is answered is among the cases of `Device.Answered`.  A received
frame is one of the cases of `Device.Received`.  A tick acts on each PDO by itself
(`tick_rpdos`, `tick_commits`, `tick_tpdos`), and so does a communication reset
(`resetCommunication_rpdos`, `resetCommunication_tpdos`).  Of the objects of the application, a tick
changes what the committed payloads are scattered over (`tick_objects`). -/

namespace Canopen

theorem flatMap_range {α β : Type} {l : List α} {f : Nat → List β} {g : α → List β}
    (h : ∀ i a, l[i]? = some a → f i = g a) : (List.range l.length).flatMap f = l.flatMap g := by
  induction l generalizing f with
  | nil => rfl
  | cons a l ih =>
      rw [List.length_cons, List.range_succ_eq_map, List.flatMap_cons, List.flatMap_cons,
        List.flatMap_map, h 0 a rfl, ih fun i b hb => h (i + 1) b hb]

/-- A tick changes nothing of a receive PDO but its slots. -/
theorem Rpdo.exists_slots_of_take (r : Rpdo) (syncOccurred toggle : Bool) (nmt : NmtState) :
    ∃ s, (r.take syncOccurred toggle nmt).2 = { r with slots := s } := by
  unfold take
  split
  · split
    · exact ⟨r.slots, rfl⟩
    · exact ⟨_, rfl⟩
  · exact ⟨_, rfl⟩

/-- The objects after payloads were scattered over them, one after the other, each by the mapping
beside it. -/
def Dictionary.scatterAll (objects : Dictionary) (payloads : List (MappedPdo × Payload)) :
    Dictionary :=
  payloads.foldl (fun objects p => p.1.scatter objects p.2.bytes) objects

theorem Dictionary.scatterAll_append (objects : Dictionary)
    (payloads payloads' : List (MappedPdo × Payload)) : objects.scatterAll (payloads ++ payloads') =
      (objects.scatterAll payloads).scatterAll payloads' :=
  List.foldl_append

/-- What a receive PDO scatters at a tick. -/
def Rpdo.scattered (r : Rpdo) (syncOccurred toggle : Bool) (nmt : NmtState) :
    List (MappedPdo × Payload) :=
  (r.take syncOccurred toggle nmt).1.toList.map (r.mapping, ·)

theorem Rpdo.commit_take (r : Rpdo) (syncOccurred toggle : Bool) (nmt : NmtState)
    (objects : Dictionary) :
    (r.take syncOccurred toggle nmt).2.commit objects (r.take syncOccurred toggle nmt).1 =
      objects.scatterAll (r.scattered syncOccurred toggle nmt) := by
  obtain ⟨s, hs⟩ := r.exists_slots_of_take syncOccurred toggle nmt
  unfold scattered
  rw [hs]
  cases (r.take syncOccurred toggle nmt).1 with
  | none => rfl
  | some p => rfl

/-- What neither a tick nor a request for a transmission changes of a transmit PDO. -/
structure Tpdo.SameSetup (t t' : Tpdo) : Prop where
  params : t'.params = t.params
  inhibitTime : t'.inhibitTime = t.inhibitTime
  eventTime : t'.eventTime = t.eventTime
  syncStart : t'.syncStart = t.syncStart
  valid : t'.valid = t.valid
  mapping : t'.mapping = t.mapping
  id : t'.frame.id = t.frame.id
  dlc : t'.frame.dlc = t.frame.dlc

namespace Tpdo

theorem SameSetup.refl (t : Tpdo) : t.SameSetup t := ⟨rfl, rfl, rfl, rfl, rfl, rfl, rfl, rfl⟩

theorem SameSetup.trans {t₁ t₂ t₃ : Tpdo} (h : t₁.SameSetup t₂) (h' : t₂.SameSetup t₃) :
    t₁.SameSetup t₃ where
  params := h'.params.trans h.params
  inhibitTime := h'.inhibitTime.trans h.inhibitTime
  eventTime := h'.eventTime.trans h.eventTime
  syncStart := h'.syncStart.trans h.syncStart
  valid := h'.valid.trans h.valid
  mapping := h'.mapping.trans h.mapping
  id := h'.id.trans h.id
  dlc := h'.dlc.trans h.dlc

theorem sameSetup_requestSend (t : Tpdo) : t.SameSetup t.requestSend :=
  ⟨rfl, rfl, rfl, rfl, rfl, rfl, rfl, rfl⟩

theorem sameSetup_load (t : Tpdo) (objects : Dictionary) : t.SameSetup (t.load objects) :=
  ⟨rfl, rfl, rfl, rfl, rfl, rfl, rfl, rfl⟩

theorem sameSetup_noticeChange (t : Tpdo) (objects : Dictionary) :
    t.SameSetup (Device.noticeChange t objects) := by
  unfold Device.noticeChange
  split
  · exact t.sameSetup_requestSend
  · exact .refl t

/-- A decision whether to send changes nothing of the PDO but what it is based on. -/
theorem exists_schedule (t : Tpdo) (sync : SyncState) (syncOccurred : Bool) (nmt : NmtState) :
    ∃ counter requested, (t.schedule sync syncOccurred nmt).2 =
      { t with syncCounter := counter, sendRequested := requested } := by
  unfold schedule
  dsimp only
  split
  · split
    · split
      · exact ⟨t.syncCounter, true, rfl⟩
      · exact ⟨t.syncCounter, t.sendRequested, rfl⟩
    · split
      · split
        · exact ⟨t.syncCounter, t.sendRequested, rfl⟩
        · exact ⟨_, t.sendRequested, rfl⟩
      · exact ⟨t.syncCounter, t.sendRequested, rfl⟩
  · exact ⟨t.syncCounter, _, rfl⟩

theorem sameSetup_schedule (t : Tpdo) (sync : SyncState) (syncOccurred : Bool) (nmt : NmtState) :
    t.SameSetup (t.schedule sync syncOccurred nmt).2 := by
  obtain ⟨counter, requested, h⟩ := t.exists_schedule sync syncOccurred nmt
  rw [h]
  exact ⟨rfl, rfl, rfl, rfl, rfl, rfl, rfl, rfl⟩

theorem sameSetup_settle (t : Tpdo) (outcome : Transmission) (elapsed : Micros) :
    t.SameSetup (t.settle outcome elapsed) := by
  unfold settle restartTimers
  split
  · split
    · exact ⟨rfl, rfl, rfl, rfl, rfl, rfl, rfl, rfl⟩
    · exact ⟨rfl, rfl, rfl, rfl, rfl, rfl, rfl, rfl⟩
  · exact ⟨rfl, rfl, rfl, rfl, rfl, rfl, rfl, rfl⟩

theorem sameSetup_process {σ : Type} [Transport σ] (t : Tpdo) (objects : Dictionary)
    (sync : SyncState) (syncOccurred : Bool) (elapsed : Micros) (nmt : NmtState) (link : σ) :
    t.SameSetup (t.process objects sync syncOccurred elapsed nmt link).2.1 := by
  have hs := t.sameSetup_schedule sync syncOccurred nmt
  unfold process
  dsimp only
  split
  · exact hs.trans ((sameSetup_load _ objects).trans (sameSetup_settle _ _ _))
  · exact hs.trans (sameSetup_settle _ _ _)

theorem sameSetup_tick {σ : Type} [Transport σ] (t : Tpdo) (objects : Dictionary)
    (sync : SyncState) (syncOccurred : Bool) (elapsed : Micros) (nmt : NmtState) (link : σ) :
    t.SameSetup ((Device.noticeChange t objects).process objects sync syncOccurred elapsed nmt
      link).2.1 :=
  (t.sameSetup_noticeChange objects).trans (sameSetup_process _ _ _ _ _ _ _)

end Tpdo

/-- The PDO with a received frame staged. -/
def Rpdo.stage (r : Rpdo) (f : Frame) (toggle : Bool) : Rpdo :=
  { r with slots := r.slots.set (.forWriting r.synchronous toggle) (some f.data) }

/-- The mapping that the first `count` mapping parameters stand for: none if they cannot be
resolved. -/
def PdoParams.liveMapping (p : PdoParams) (attributes : Attributes) (direction : Direction)
    (count : UInt8) : MappedPdo :=
  match p.resolve attributes direction count with
  | .ok mapping => mapping
  | .error _ => .empty

/-- The PDO with another mapping, and the length of its frame to go with it. -/
def Tpdo.remap (t : Tpdo) (mapping : MappedPdo) : Tpdo :=
  { t with mapping := mapping, frame := { t.frame with dlc := UInt8.ofNat mapping.dataLen } }

theorem Rpdo.configureMapping_pdo (r : Rpdo) (attributes : Attributes) (count : UInt8)
    (errors : ErrorStatus) : (r.configureMapping attributes count errors).pdo =
      { r with mapping := r.params.liveMapping attributes .receive count } := by
  unfold configureMapping PdoParams.liveMapping
  cases r.params.resolve attributes .receive count with
  | ok mapping => rfl
  | error e => rfl

theorem Tpdo.configureMapping_pdo (t : Tpdo) (attributes : Attributes) (count : UInt8)
    (errors : ErrorStatus) : (t.configureMapping attributes count errors).pdo =
      t.remap (t.params.liveMapping attributes .transmit count) := by
  unfold configureMapping PdoParams.liveMapping
  cases t.params.resolve attributes .transmit count with
  | ok mapping => rfl
  | error e => rfl

/-- The PDO with all its stored parameters put into effect. -/
def Rpdo.restart (r : Rpdo) (attributes : Attributes) : Rpdo := (r.reset attributes .fresh).1

/-- The PDO with all its stored parameters put into effect. -/
def Tpdo.restart (t : Tpdo) (attributes : Attributes) : Tpdo := (t.reset attributes .fresh).1

theorem Rpdo.reset_fst (r : Rpdo) (attributes : Attributes) (errors : ErrorStatus) :
    (r.reset attributes errors).1 = r.restart attributes := by
  simp only [restart, reset, configureMapping_pdo]

theorem Tpdo.reset_fst (t : Tpdo) (attributes : Attributes) (errors : ErrorStatus) :
    (t.reset attributes errors).1 = t.restart attributes := by
  simp only [restart, reset, configureMapping_pdo]

theorem Rpdo.params_restart (r : Rpdo) (attributes : Attributes) :
    (r.restart attributes).params = r.params := by
  unfold restart reset
  simp only [configureMapping_pdo]
  rfl

theorem Tpdo.params_restart (t : Tpdo) (attributes : Attributes) :
    (t.restart attributes).params = t.params := by
  unfold restart reset
  simp only [configureMapping_pdo]
  rfl

theorem exists_of_bind_eq_ok {ε α β : Type} {x : Except ε α} {f : α → Except ε β} {b : β}
    (h : (x >>= f) = .ok b) : ∃ a, x = .ok a ∧ f a = .ok b := by
  cases x with
  | error e => cases h
  | ok a => exact ⟨a, rfl, h⟩

theorem AppObject.exists_set_of_write {o o' : AppObject} {sub : UInt8} {data : Bytes}
    (h : o.write sub data = .ok o') : ∃ f, o' = o.set sub f := by
  obtain ⟨s, _, h⟩ := exists_of_bind_eq_ok h
  obtain ⟨f, _, h⟩ := exists_of_bind_eq_ok h
  exact ⟨f, (Except.ok.inj h).symm⟩

theorem AppObject.exists_set_of_writeLeading {o o' : AppObject} {sub : UInt8} {data : Bytes}
    (h : o.writeLeading sub data = .ok o') : ∃ f, o' = o.set sub f := by
  unfold writeLeading at h
  split at h
  · obtain ⟨s, _, h⟩ := exists_of_bind_eq_ok h
    obtain ⟨f, _, h⟩ := exists_of_bind_eq_ok h
    exact ⟨f, (Except.ok.inj h).symm⟩
  · obtain ⟨i, _, h⟩ := exists_of_bind_eq_ok h
    obtain ⟨v, _, h⟩ := exists_of_bind_eq_ok h
    exact exists_set_of_write h

theorem isReserved_of_transmissionTypeOfData {data : Bytes} {t : TransmissionType}
    (h : transmissionTypeOfData data = .ok t) : t.isReserved = false := by
  obtain ⟨t', _, h⟩ := exists_of_bind_eq_ok h
  cases ht : t'.isReserved with
  | true =>
      rw [ht] at h
      cases h
  | false =>
      rw [ht] at h
      rw [← Except.ok.inj h]
      exact ht

theorem Rpdo.writeComm_ok {r r' : Rpdo} {nmt : NmtState} {sub : UInt8} {data : Bytes}
    (h : r.writeComm nmt sub data = .ok r') :
    (sub = 1 ∧ ∃ w stored, wordOfData data = .ok w ∧
        r.params.checkCobIdWrite w r.valid = .ok stored ∧ r' = r.applyCobId stored) ∨
      (sub = 2 ∧ ∃ t : TransmissionType, t.isReserved = false ∧ r' = r.applyTransmissionType t) := by
  obtain ⟨_, _, h⟩ := exists_of_bind_eq_ok h
  split at h
  · rename_i hsub
    obtain ⟨w, hw, h⟩ := exists_of_bind_eq_ok h
    obtain ⟨stored, hs, h⟩ := exists_of_bind_eq_ok h
    exact .inl ⟨hsub, w, stored, hw, hs, (Except.ok.inj h).symm⟩
  · split at h
    · rename_i hsub
      obtain ⟨t, ht, h⟩ := exists_of_bind_eq_ok h
      exact .inr ⟨hsub, t, isReserved_of_transmissionTypeOfData ht, (Except.ok.inj h).symm⟩
    · cases h

theorem Tpdo.writeComm_ok {t t' : Tpdo} {nmt : NmtState} {sub : UInt8} {data : Bytes}
    (h : t.writeComm nmt sub data = .ok t') :
    (sub = 1 ∧ ∃ w stored, wordOfData data = .ok w ∧
        t.params.checkCobIdWrite w t.valid = .ok stored ∧ t' = t.applyCobId stored) ∨
      (∃ type : TransmissionType, type.isReserved = false ∧ t' = t.applyTransmissionType type) ∨
      (t.valid = false ∧ ∃ time, t' = t.applyInhibitTime time) ∨
      (∃ time, t' = t.applyEventTime time) ∨
      (t.valid = false ∧ ∃ start, start ≤ syncStartMax ∧ t' = { t with syncStart := start }) := by
  obtain ⟨_, _, h⟩ := exists_of_bind_eq_ok h
  split at h
  · rename_i hsub
    obtain ⟨w, hw, h⟩ := exists_of_bind_eq_ok h
    obtain ⟨stored, hs, h⟩ := exists_of_bind_eq_ok h
    exact .inl ⟨hsub, w, stored, hw, hs, (Except.ok.inj h).symm⟩
  split at h
  · obtain ⟨type, ht, h⟩ := exists_of_bind_eq_ok h
    exact .inr (.inl ⟨type, isReserved_of_transmissionTypeOfData ht, (Except.ok.inj h).symm⟩)
  split at h
  · obtain ⟨time, _, h⟩ := exists_of_bind_eq_ok h
    split at h
    · cases h
    · rename_i hv
      exact .inr (.inr (.inl ⟨by simpa using hv, time, (Except.ok.inj h).symm⟩))
  split at h
  · obtain ⟨time, _, h⟩ := exists_of_bind_eq_ok h
    exact .inr (.inr (.inr (.inl ⟨time, (Except.ok.inj h).symm⟩)))
  split at h
  · obtain ⟨start, _, h⟩ := exists_of_bind_eq_ok h
    split at h
    · cases h
    · rename_i hv
      simp only [Bool.or_eq_true, decide_eq_true_eq, not_or, Bool.not_eq_true] at hv
      exact .inr (.inr (.inr (.inr ⟨hv.1, start, UInt8.not_lt.mp hv.2, (Except.ok.inj h).symm⟩)))
  · cases h

theorem byteOfData_eq_ok_iff {data : Bytes} {n : UInt8} : byteOfData data = .ok n ↔ data = [n] := by
  constructor
  · intro h
    unfold byteOfData at h
    cases hlength : checkLength data 1 with
    | error e =>
        rw [hlength] at h
        cases h
    | ok u =>
        rw [hlength] at h
        obtain ⟨b, rfl⟩ := List.length_eq_one_iff.mp (checkLength_eq_ok_iff.mp hlength)
        rw [← Except.ok.inj h]
        simp [Bytes.toUInt8, Bytes.toNat]
  · rintro rfl
    have hbyte : Bytes.toUInt8 [n] = n := by simp [Bytes.toUInt8, Bytes.toNat]
    show Except.ok (Bytes.toUInt8 [n]) = Except.ok n
    rw [hbyte]

/-- What a permitted write of mapping parameters is: the PDO is disabled, and an entry is stored at the
position that its sub index says, only while nothing is mapped. -/
theorem checkMappingWrite_cases {p : PdoParams} {valid started : Bool} {m : MappedPdo}
    {direction : Direction} {attributes : Attributes} {nmt : NmtState} {sub : UInt8} {data : Bytes}
    {w : MappingWrite}
    (h : checkMappingWrite p valid m direction attributes started nmt sub data = .ok w) :
    p.restrictions.checkMap nmt = .ok () ∧ valid = false ∧ started = true ∧
      ((sub = 0 ∧ ∃ n : UInt8, data = [n] ∧ n.toNat ≤ maxMappings ∧ w = .count n) ∨
        (sub ≠ 0 ∧ m.dataLen = 0 ∧ ∃ word, w = .entry (sub.toNat - 1) word)) := by
  obtain ⟨_, _, h⟩ := exists_of_bind_eq_ok h
  obtain ⟨_, hpermitted, h⟩ := exists_of_bind_eq_ok h
  cases valid with
  | true => cases h
  | false =>
      cases started with
      | false => cases h
      | true =>
          refine ⟨hpermitted, rfl, rfl, ?_⟩
          simp only [Bool.false_eq_true, Bool.not_true, ↓reduceIte] at h
          split at h
          · rename_i hsub
            obtain ⟨n, hn, h⟩ := exists_of_bind_eq_ok h
            split at h
            · cases h
            · rename_i hle
              exact .inl ⟨hsub, n, byteOfData_eq_ok_iff.mp hn, Nat.le_of_not_lt hle,
                (Except.ok.inj h).symm⟩
          · rename_i hsub
            obtain ⟨word, _, h⟩ := exists_of_bind_eq_ok h
            split at h
            · cases h
            · rename_i hempty
              split at h
              · exact .inr ⟨hsub, Decidable.not_not.mp hempty, word, (Except.ok.inj h).symm⟩
              · cases h

theorem checkMappingWrite_ok {p : PdoParams} {valid started : Bool} {m : MappedPdo}
    {direction : Direction} {attributes : Attributes} {nmt : NmtState} {sub : UInt8} {data : Bytes}
    {w : MappingWrite}
    (h : checkMappingWrite p valid m direction attributes started nmt sub data = .ok w) :
    p.restrictions.checkMap nmt = .ok () ∧ valid = false ∧ started = true ∧
      ((sub = 0 ∧ ∃ n : UInt8, data = [n] ∧ n.toNat ≤ maxMappings ∧ w = .count n) ∨
        (m.dataLen = 0 ∧ ∃ i word, w = .entry i word)) := by
  obtain ⟨hpermitted, hvalid, hstarted, hcount | ⟨_, hempty, word, hw⟩⟩ := checkMappingWrite_cases h
  · exact ⟨hpermitted, hvalid, hstarted, .inl hcount⟩
  · exact ⟨hpermitted, hvalid, hstarted, .inr ⟨hempty, _, word, hw⟩⟩

theorem valid_of_checkMappingWrite {p : PdoParams} {valid started : Bool} {m : MappedPdo}
    {direction : Direction} {attributes : Attributes} {nmt : NmtState} {sub : UInt8} {data : Bytes}
    {w : MappingWrite}
    (h : checkMappingWrite p valid m direction attributes started nmt sub data = .ok w) :
    valid = false :=
  (checkMappingWrite_ok h).2.1

/-- A number of entries that can be resolved is put into effect, and stored. -/
theorem Rpdo.applyMapping_of_ok {r : Rpdo} {attributes : Attributes} {n : UInt8} {m : MappedPdo}
    (h : r.params.resolve attributes .receive n = .ok m) (errors : ErrorStatus) :
    r.applyMapping attributes errors (.count n) = ⟨{ r with
      params := { r.params with mappingCount := n }, mapping := m }, errors, .ok ()⟩ := by
  simp only [applyMapping, configureMapping, h]

/-- One that cannot is reported, and leaves the PDO without a mapping. -/
theorem Rpdo.applyMapping_of_error {r : Rpdo} {attributes : Attributes} {n : UInt8}
    {fault : MappingError} (h : r.params.resolve attributes .receive n = .error fault)
    (errors : ErrorStatus) : r.applyMapping attributes errors (.count n) =
      ⟨{ r with mapping := .empty }, errors.reportMapping fault, .error fault⟩ := by
  simp only [applyMapping, configureMapping, h]

theorem Tpdo.applyMapping_of_ok {t : Tpdo} {attributes : Attributes} {n : UInt8} {m : MappedPdo}
    (h : t.params.resolve attributes .transmit n = .ok m) (errors : ErrorStatus) :
    t.applyMapping attributes errors (.count n) = ⟨{ t.remap m with
      params := { t.params with mappingCount := n } }, errors, .ok ()⟩ := by
  simp only [applyMapping, configureMapping, h, remap]

theorem Tpdo.applyMapping_of_error {t : Tpdo} {attributes : Attributes} {n : UInt8}
    {fault : MappingError} (h : t.params.resolve attributes .transmit n = .error fault)
    (errors : ErrorStatus) : t.applyMapping attributes errors (.count n) =
      ⟨t.remap .empty, errors.reportMapping fault, .error fault⟩ := by
  simp only [applyMapping, configureMapping, h, remap]

/-- Either way the mapping is what so many entries stand for. -/
theorem Rpdo.exists_applyMapping_count (r : Rpdo) (attributes : Attributes) (errors : ErrorStatus)
    (n : UInt8) : ∃ stored, (r.applyMapping attributes errors (.count n)).pdo = { r with
      params := { r.params with mappingCount := stored }
      mapping := r.params.liveMapping attributes .receive n } := by
  cases h : r.params.resolve attributes .receive n with
  | ok m =>
      refine ⟨n, ?_⟩
      rw [applyMapping_of_ok h, PdoParams.liveMapping, h]
  | error fault =>
      refine ⟨r.params.mappingCount, ?_⟩
      rw [applyMapping_of_error h, PdoParams.liveMapping, h]

theorem Tpdo.exists_applyMapping_count (t : Tpdo) (attributes : Attributes) (errors : ErrorStatus)
    (n : UInt8) : ∃ stored, (t.applyMapping attributes errors (.count n)).pdo =
      { t.remap (t.params.liveMapping attributes .transmit n) with
        params := { t.params with mappingCount := stored } } := by
  cases h : t.params.resolve attributes .transmit n with
  | ok m =>
      refine ⟨n, ?_⟩
      rw [applyMapping_of_ok h, PdoParams.liveMapping, h]
  | error fault =>
      refine ⟨t.params.mappingCount, ?_⟩
      rw [applyMapping_of_error h, PdoParams.liveMapping, h]
      rfl

/-- Is this a parameter of the SYNC? -/
def Parameter.isSync : Parameter → Bool
  | .syncCobId | .syncPeriod | .syncWindow | .syncOverflow => true
  | .rpdoComm _ | .rpdoMap _ | .tpdoComm _ | .tpdoMap _ => false

namespace Device

/-! ### Dictionary writes -/

/-- The answer to a write to a parameter object, and the device after it. -/
inductive Answered (d : Device) (sub : UInt8) (data : Bytes) :
    Parameter → WriteOutcome → Device → Prop
  | refused {p : Parameter} (e : AbortCode) : Answered d sub data p (.error e) d
  | sync {p : Parameter} {s : SyncState} : p.isSync = true →
      d.sync.writeParameter p data = .ok s → Answered d sub data p (.ok ()) { d with sync := s }
  | rpdoComm {n : Nat} {r r' : Rpdo} :
      d.rpdos[n]? = some r → r.writeComm d.nmt sub data = .ok r' →
      Answered d sub data (.rpdoComm n) (.ok ()) { d with rpdos := d.rpdos.set n r' }
  | tpdoComm {n : Nat} {t t' : Tpdo} :
      d.tpdos[n]? = some t → t.writeComm d.nmt sub data = .ok t' →
      Answered d sub data (.tpdoComm n) (.ok ()) { d with tpdos := d.tpdos.set n t' }
  | rpdoMap {n : Nat} {r : Rpdo} {w : MappingWrite} :
      d.rpdos[n]? = some r →
      checkMappingWrite r.params r.valid r.mapping .receive d.attributes d.started d.nmt sub data
        = .ok w →
      Answered d sub data (.rpdoMap n)
        (mappingOutcome (r.applyMapping d.attributes d.errors w).outcome) { d with
          rpdos := d.rpdos.set n (r.applyMapping d.attributes d.errors w).pdo
          errors := (r.applyMapping d.attributes d.errors w).errors }
  | tpdoMap {n : Nat} {t : Tpdo} {w : MappingWrite} :
      d.tpdos[n]? = some t →
      checkMappingWrite t.params t.valid t.mapping .transmit d.attributes d.started d.nmt sub data
        = .ok w →
      Answered d sub data (.tpdoMap n)
        (mappingOutcome (t.applyMapping d.attributes d.errors w).outcome) { d with
          tpdos := d.tpdos.set n (t.applyMapping d.attributes d.errors w).pdo
          errors := (t.applyMapping d.attributes d.errors w).errors }

/-- The device after a write to its object dictionary. -/
inductive Written (d : Device) : Device → Prop
  | refused : Written d d
  | application {index : UInt16} {o : AppObject} {sub : UInt8} {f : Field} :
      d.dictionary.application? index = some o → Written d (d.setApplication index (o.set sub f))
  | sync {p : Parameter} {data : Bytes} {s : SyncState} :
      d.sync.writeParameter p data = .ok s → Written d { d with sync := s }
  | rpdoComm {n : Nat} {r r' : Rpdo} {sub : UInt8} {data : Bytes} :
      d.rpdos[n]? = some r → r.writeComm d.nmt sub data = .ok r' →
      Written d { d with rpdos := d.rpdos.set n r' }
  | tpdoComm {n : Nat} {t t' : Tpdo} {sub : UInt8} {data : Bytes} :
      d.tpdos[n]? = some t → t.writeComm d.nmt sub data = .ok t' →
      Written d { d with tpdos := d.tpdos.set n t' }
  | rpdoMap {n : Nat} {r : Rpdo} {sub : UInt8} {data : Bytes} {w : MappingWrite} :
      d.rpdos[n]? = some r →
      checkMappingWrite r.params r.valid r.mapping .receive d.attributes d.started d.nmt sub data
        = .ok w →
      Written d { d with
        rpdos := d.rpdos.set n (r.applyMapping d.attributes d.errors w).pdo
        errors := (r.applyMapping d.attributes d.errors w).errors }
  | tpdoMap {n : Nat} {t : Tpdo} {sub : UInt8} {data : Bytes} {w : MappingWrite} :
      d.tpdos[n]? = some t →
      checkMappingWrite t.params t.valid t.mapping .transmit d.attributes d.started d.nmt sub data
        = .ok w →
      Written d { d with
        tpdos := d.tpdos.set n (t.applyMapping d.attributes d.errors w).pdo
        errors := (t.applyMapping d.attributes d.errors w).errors }

theorem rpdo_eq_ok {d : Device} {n : Nat} {r : Rpdo} (h : d.rpdo n = .ok r) :
    d.rpdos[n]? = some r := by
  unfold rpdo at h
  split at h
  · rename_i hr
    rw [hr, Except.ok.inj h]
  · cases h

theorem tpdo_eq_ok {d : Device} {n : Nat} {t : Tpdo} (h : d.tpdo n = .ok t) :
    d.tpdos[n]? = some t := by
  unfold tpdo at h
  split at h
  · rename_i ht
    rw [ht, Except.ok.inj h]
  · cases h

theorem rpdo_of_getElem? {d : Device} {n : Nat} {r : Rpdo} (h : d.rpdos[n]? = some r) :
    d.rpdo n = .ok r := by
  unfold rpdo
  rw [h]

theorem tpdo_of_getElem? {d : Device} {n : Nat} {t : Tpdo} (h : d.tpdos[n]? = some t) :
    d.tpdo n = .ok t := by
  unfold tpdo
  rw [h]

/-- A write whose checks are all in `result` is refused, or puts the result. -/
theorem answered_answer {α : Type} {d : Device} {sub : UInt8} {data : Bytes} {p : Parameter}
    {result : Except AbortCode α} {put : α → Device}
    (h : ∀ a, result = .ok a → d.Answered sub data p (.ok ()) (put a)) :
    d.Answered sub data p (d.answer result put).1 (d.answer result put).2 := by
  cases result with
  | ok a => exact h a rfl
  | error e => exact .refused e

theorem writeParameter_answered (d : Device) (p : Parameter) (sub : UInt8) (data : Bytes) :
    d.Answered sub data p (d.writeParameter p sub data).1 (d.writeParameter p sub data).2 := by
  have hsync : ∀ p : Parameter, p.isSync = true → ∀ s, (do
      let _ ← p.subInfo sub
      d.sync.writeParameter p data) = .ok s →
        d.Answered sub data p (.ok ()) { d with sync := s } := by
    intro p hp s hs
    obtain ⟨i, _, hs⟩ := exists_of_bind_eq_ok hs
    exact .sync hp hs
  cases p with
  | syncCobId => exact answered_answer (hsync .syncCobId rfl)
  | syncPeriod => exact answered_answer (hsync .syncPeriod rfl)
  | syncWindow => exact answered_answer (hsync .syncWindow rfl)
  | syncOverflow => exact answered_answer (hsync .syncOverflow rfl)
  | rpdoComm n =>
      refine answered_answer fun r' hr' => ?_
      obtain ⟨_, _, hr'⟩ := exists_of_bind_eq_ok hr'
      obtain ⟨r, hr, hr'⟩ := exists_of_bind_eq_ok hr'
      exact .rpdoComm (rpdo_eq_ok hr) hr'
  | tpdoComm n =>
      refine answered_answer fun t' ht' => ?_
      obtain ⟨_, _, ht'⟩ := exists_of_bind_eq_ok ht'
      obtain ⟨t, ht, ht'⟩ := exists_of_bind_eq_ok ht'
      exact .tpdoComm (tpdo_eq_ok ht) ht'
  | rpdoMap n =>
      simp only [writeParameter, writeRpdoMap]
      split
      · exact .refused _
      · rename_i r hr
        split
        · exact .refused _
        · rename_i w hw
          exact .rpdoMap (rpdo_eq_ok hr) hw
  | tpdoMap n =>
      simp only [writeParameter, writeTpdoMap]
      split
      · exact .refused _
      · rename_i t ht
        split
        · exact .refused _
        · rename_i w hw
          exact .tpdoMap (tpdo_eq_ok ht) hw

theorem writeParameter_written (d : Device) (p : Parameter) (sub : UInt8) (data : Bytes) :
    d.Written (d.writeParameter p sub data).2 := by
  have h := d.writeParameter_answered p sub data
  generalize (d.writeParameter p sub data).1 = outcome at h
  generalize (d.writeParameter p sub data).2 = d' at h ⊢
  cases h with
  | refused e => exact .refused
  | sync _ hs => exact .sync hs
  | rpdoComm hr hw => exact .rpdoComm hr hw
  | tpdoComm ht hw => exact .tpdoComm ht hw
  | rpdoMap hr hw => exact .rpdoMap hr hw
  | tpdoMap ht hw => exact .tpdoMap ht hw

/-- A write whose checks are all in `result` leaves the device alone or puts the result. -/
theorem written_answer {α : Type} {d : Device} {result : Except AbortCode α} {put : α → Device}
    (h : ∀ a, result = .ok a → d.Written (put a)) : d.Written (d.answer result put).2 := by
  cases result with
  | ok a => exact h a rfl
  | error e => exact .refused

theorem application?_of_object {d : Device} {index : UInt16} {o : AppObject}
    (h : d.object index = .ok (.application o)) : d.dictionary.application? index = some o := by
  unfold object at h
  split at h
  · rename_i o' ho
    have ho' : o' = .application o := Except.ok.inj h
    simp only [Dictionary.application?, ho, ho']
  · cases h

theorem write_written (d : Device) (id : ObjectId) (data : Bytes) :
    d.Written (d.write id data).2 := by
  unfold write
  split
  · exact .refused
  · rename_i o ho
    refine written_answer fun o' ho' => ?_
    obtain ⟨f, rfl⟩ := AppObject.exists_set_of_write ho'
    exact .application (application?_of_object ho)
  · exact writeParameter_written d _ _ _

theorem writeLeading_written (d : Device) (id : ObjectId) (data : Bytes) :
    d.Written (d.writeLeading id data).2 := by
  unfold writeLeading
  split
  · exact .refused
  · rename_i o ho
    refine written_answer fun o' ho' => ?_
    obtain ⟨f, rfl⟩ := AppObject.exists_set_of_writeLeading ho'
    exact .application (application?_of_object ho)
  · dsimp only
    split
    · exact .refused
    · exact writeParameter_written d _ _ _

theorem Written.nmt {d d' : Device} (h : d.Written d') : d'.nmt = d.nmt := by
  cases h <;> rfl

theorem write_application {d : Device} {id : ObjectId} {o : AppObject}
    (h : d.object id.index = .ok (.application o)) (data : Bytes) :
    ∃ objects, (d.write id data).2 = { d with dictionary := objects } := by
  unfold write
  rw [h]
  dsimp only [answer]
  split
  · exact ⟨_, rfl⟩
  · exact ⟨d.dictionary, rfl⟩

theorem writeLeading_application {d : Device} {id : ObjectId} {o : AppObject}
    (h : d.object id.index = .ok (.application o)) (data : Bytes) :
    ∃ objects, (d.writeLeading id data).2 = { d with dictionary := objects } := by
  unfold writeLeading
  rw [h]
  dsimp only [answer]
  split
  · exact ⟨_, rfl⟩
  · exact ⟨d.dictionary, rfl⟩

/-- The application sets a value of its own. -/
theorem exists_store_eq (d : Device) (index : UInt16) (i : Nat) (v : ScalarValue) :
    ∃ objects, d.store index i v = { d with dictionary := objects } := by
  unfold store
  split
  · exact ⟨_, rfl⟩
  · exact ⟨d.dictionary, rfl⟩

theorem write_parameter {d : Device} {id : ObjectId} {p : Parameter}
    (h : d.object id.index = .ok (.parameter p)) (data : Bytes) :
    d.write id data = d.writeParameter p id.sub data := by
  unfold write
  rw [h]

/-- A write of the leading bytes of a parameter is refused, or is a write of its whole value. -/
theorem writeLeading_parameter {d : Device} {id : ObjectId} {p : Parameter}
    (h : d.object id.index = .ok (.parameter p)) (data : Bytes) :
    (d.writeLeading id data).2 = d ∨
      ∃ info value, p.subInfo id.sub = .ok info ∧
        completeValue info.size (d.read id 0) data = .ok value ∧
        d.writeLeading id data = d.writeParameter p id.sub value := by
  unfold writeLeading
  rw [h]
  dsimp only
  split
  · exact .inl rfl
  · rename_i value hvalue
    obtain ⟨info, hinfo, hvalue⟩ := exists_of_bind_eq_ok hvalue
    exact .inr ⟨info, value, hinfo, hvalue, rfl⟩

/-- A write concerns nothing but the objects of the application, or is one of a parameter. -/
theorem write_cases (d : Device) (id : ObjectId) (data : Bytes) :
    (∃ objects, (d.write id data).2 = { d with dictionary := objects }) ∨
      ∃ p, d.object id.index = .ok (.parameter p) ∧
        d.write id data = d.writeParameter p id.sub data := by
  cases ho : d.object id.index with
  | error e =>
      refine .inl ⟨d.dictionary, ?_⟩
      unfold write
      rw [ho]
  | ok object =>
      cases object with
      | application o => exact .inl (write_application ho data)
      | parameter p => exact .inr ⟨p, rfl, write_parameter ho data⟩

theorem writeLeading_cases (d : Device) (id : ObjectId) (data : Bytes) :
    (∃ objects, (d.writeLeading id data).2 = { d with dictionary := objects }) ∨
      ∃ p info value, d.object id.index = .ok (.parameter p) ∧ p.subInfo id.sub = .ok info ∧
        completeValue info.size (d.read id 0) data = .ok value ∧
        d.writeLeading id data = d.writeParameter p id.sub value := by
  cases ho : d.object id.index with
  | error e =>
      refine .inl ⟨d.dictionary, ?_⟩
      unfold writeLeading
      rw [ho]
  | ok object =>
      cases object with
      | application o => exact .inl (writeLeading_application ho data)
      | parameter p =>
          rcases writeLeading_parameter ho data with hwrite | ⟨info, value, hinfo, hvalue, hwrite⟩
          · exact .inl ⟨d.dictionary, hwrite⟩
          · exact .inr ⟨p, info, value, rfl, hinfo, hvalue, hwrite⟩

/-! ### Reception -/

/-- The device after a frame from the bus, and what became of the frame. -/
inductive Received (d : Device) (f : Frame) : Reception → Device → Prop
  | sync : f.id = d.sync.cobId →
      Received d f (.sync (d.sync.receive f d.nmt).1) { d with sync := (d.sync.receive f d.nmt).2 }
  | accepted {n : Nat} {r : Rpdo} : f.id ≠ d.sync.cobId → d.rpdos[n]? = some r →
      r.cobId = some f.id → r.isReceptive f.dlc d.nmt = true →
      Received d f (.rpdo n true) { d with rpdos := d.rpdos.set n (r.stage f d.sync.toggle) }
  | dropped {n : Nat} {r : Rpdo} : f.id ≠ d.sync.cobId → d.rpdos[n]? = some r →
      r.cobId = some f.id → r.isReceptive f.dlc d.nmt = false → Received d f (.rpdo n false) d
  | unclaimed : f.id ≠ d.sync.cobId → Received d f .unclaimed d

theorem receive_received (d : Device) (f : Frame) : d.Received f (d.receive f).1 (d.receive f).2 := by
  unfold receive
  split
  · rename_i hid
    exact .sync hid
  · rename_i hid
    split
    · exact .unclaimed hid
    · rename_i n hn
      split
      · exact .unclaimed hid
      · rename_i r hr
        obtain ⟨hlt, hc, _⟩ := List.findIdx?_eq_some_iff_getElem.mp hn
        have hget : d.rpdos[n] = r := by
          rw [List.getElem?_eq_getElem hlt] at hr
          exact Option.some.inj hr
        have hcob : r.cobId = some f.id := by simpa [hget] using hc
        cases hrec : r.isReceptive f.dlc d.nmt with
        | true =>
            simp only [Rpdo.receive, hrec, ↓reduceIte]
            exact .accepted hid hr hcob hrec
        | false =>
            have hset : d.rpdos.set n r = d.rpdos := by rw [← hget, List.set_getElem_self]
            simp only [Rpdo.receive, hrec, Bool.false_eq_true, ↓reduceIte, hset]
            exact .dropped hid hr hcob hrec

theorem receive_of_id_eq {d : Device} {f : Frame} (h : f.id = d.sync.cobId) :
    d.receive f =
      (.sync (d.sync.receive f d.nmt).1, { d with sync := (d.sync.receive f d.nmt).2 }) := by
  unfold receive
  rw [if_pos h]

theorem receive_of_unclaimed {d : Device} {f : Frame} (hid : f.id ≠ d.sync.cobId)
    (hn : d.rpdos.findIdx? (fun r => r.cobId == some f.id) = none) :
    d.receive f = (.unclaimed, d) := by
  unfold receive
  rw [if_neg hid, hn]

theorem receive_of_claimed {d : Device} {f : Frame} {n : Nat} {r : Rpdo}
    (hid : f.id ≠ d.sync.cobId)
    (hn : d.rpdos.findIdx? (fun r => r.cobId == some f.id) = some n)
    (hr : d.rpdos[n]? = some r) :
    d.receive f = (.rpdo n (r.receive f d.nmt d.sync.toggle).1,
      { d with rpdos := d.rpdos.set n (r.receive f d.nmt d.sync.toggle).2 }) := by
  unfold receive
  rw [if_neg hid, hn]
  dsimp only
  rw [hr]

theorem Received.nmt {d d' : Device} {f : Frame} {reception : Reception}
    (h : d.Received f reception d') : d'.nmt = d.nmt := by
  cases h <;> rfl

theorem Received.tpdos {d d' : Device} {f : Frame} {reception : Reception}
    (h : d.Received f reception d') : d'.tpdos = d.tpdos := by
  cases h <;> rfl

/-! ### Ticks -/

section tick
variable {σ : Type} [Transport σ]

theorem tickRpdos_eq (syncOccurred toggle : Bool) (nmt : NmtState) (rs : List Rpdo)
    (objects : Dictionary) :
    (tickRpdos syncOccurred toggle nmt rs objects).1 =
        rs.map (fun r => (r.take syncOccurred toggle nmt).1) ∧
      (tickRpdos syncOccurred toggle nmt rs objects).2.1 =
        rs.map (fun r => (r.take syncOccurred toggle nmt).2) := by
  induction rs generalizing objects with
  | nil => exact ⟨rfl, rfl⟩
  | cons r rs ih =>
      obtain ⟨h1, h2⟩ := ih (r.process objects syncOccurred toggle nmt).2.2
      exact ⟨congrArg (_ :: ·) h1, congrArg (_ :: ·) h2⟩

theorem tickRpdos_objects (syncOccurred toggle : Bool) (nmt : NmtState) (rs : List Rpdo)
    (objects : Dictionary) : (tickRpdos syncOccurred toggle nmt rs objects).2.2 =
      objects.scatterAll (rs.flatMap fun r => r.scattered syncOccurred toggle nmt) := by
  induction rs generalizing objects with
  | nil => rfl
  | cons r rs ih =>
      show (tickRpdos syncOccurred toggle nmt rs ((r.take syncOccurred toggle nmt).2.commit objects
        (r.take syncOccurred toggle nmt).1)).2.2 = _
      rw [Rpdo.commit_take, ih, List.flatMap_cons, Dictionary.scatterAll_append]

/-- What becomes of one transmit PDO at a tick, for some state of the transport. -/
theorem tickTpdos_getElem? (objects : Dictionary) (sync : SyncState) (syncOccurred : Bool)
    (elapsed : Micros) (nmt : NmtState) (ts : List Tpdo) (errors : ErrorStatus) (link : σ) (k : Nat) :
    ∃ link' : σ,
      (tickTpdos objects sync syncOccurred elapsed nmt ts errors link).1[k]? =
          ts[k]?.map (fun t =>
            ((noticeChange t objects).process objects sync syncOccurred elapsed nmt link').1) ∧
        (tickTpdos objects sync syncOccurred elapsed nmt ts errors link).2.1[k]? =
          ts[k]?.map (fun t =>
            ((noticeChange t objects).process objects sync syncOccurred elapsed nmt link').2.1) := by
  induction ts generalizing errors link k with
  | nil => exact ⟨link, by simp [tickTpdos], by simp [tickTpdos]⟩
  | cons t ts ih =>
      cases k with
      | zero => exact ⟨link, rfl, rfl⟩
      | succ k => exact ih _ _ k

/-- The decisions about the SYNC at a tick. -/
def syncTick (d : Device) (elapsed : Micros) : SyncTick := d.sync.advance elapsed d.nmt

/-- Does a SYNC take effect at a tick? -/
def syncOccurs (d : Device) (elapsed : Micros) : Bool := (d.syncTick elapsed).event == .sync

variable (d : Device) (elapsed : Micros) (link : σ)

theorem tick_commits : (d.tick elapsed link).1.commits = d.rpdos.map (fun r =>
    (r.take (d.syncOccurs elapsed) (d.syncTick elapsed).next.toggle d.nmt).1) :=
  (tickRpdos_eq _ _ _ _ _).1

theorem tick_rpdos : (d.tick elapsed link).2.1.rpdos = d.rpdos.map (fun r =>
    (r.take (d.syncOccurs elapsed) (d.syncTick elapsed).next.toggle d.nmt).2) :=
  (tickRpdos_eq _ _ _ _ _).2

/-- A tick scatters the payloads that the receive PDOs commit, in order, and changes no object
otherwise. -/
theorem tick_objects : (d.tick elapsed link).2.1.dictionary =
    d.dictionary.scatterAll (d.rpdos.flatMap fun r =>
      r.scattered (d.syncOccurs elapsed) (d.syncTick elapsed).next.toggle d.nmt) :=
  tickRpdos_objects _ _ _ _ _

/-- A tick runs each transmit PDO on the objects that the receive PDOs have left. -/
theorem tick_tpdos (k : Nat) : ∃ link' : σ,
    (d.tick elapsed link).1.transmissions[k]? = d.tpdos[k]?.map (fun t =>
        ((noticeChange t (d.tick elapsed link).2.1.dictionary).process
          (d.tick elapsed link).2.1.dictionary (d.syncTick elapsed).next (d.syncOccurs elapsed)
          elapsed d.nmt link').1) ∧
      (d.tick elapsed link).2.1.tpdos[k]? = d.tpdos[k]?.map (fun t =>
        ((noticeChange t (d.tick elapsed link).2.1.dictionary).process
          (d.tick elapsed link).2.1.dictionary (d.syncTick elapsed).next (d.syncOccurs elapsed)
          elapsed d.nmt link').2.1) :=
  tickTpdos_getElem? _ _ _ _ _ _ _ _ k

end tick

/-! ### Communication resets -/

/-- A reset of receive PDOs treats each of them by itself; reports of the others do not matter. -/
theorem resetRpdos_fst (attributes : Attributes) (rs : List Rpdo) (errors : ErrorStatus) :
    (resetRpdos attributes rs errors).1 = rs.map (fun r => r.restart attributes) := by
  induction rs generalizing errors with
  | nil => rfl
  | cons r rs ih =>
      simp only [resetRpdos, List.map_cons, Rpdo.reset_fst, ih]

theorem resetTpdos_fst (attributes : Attributes) (ts : List Tpdo) (errors : ErrorStatus) :
    (resetTpdos attributes ts errors).1 = ts.map (fun t => t.restart attributes) := by
  induction ts generalizing errors with
  | nil => rfl
  | cons t ts ih =>
      simp only [resetTpdos, List.map_cons, Tpdo.reset_fst, ih]

theorem resetCommunication_rpdos (d : Device) :
    d.resetCommunication.rpdos = d.rpdos.map (fun r => r.restart d.attributes) :=
  resetRpdos_fst _ _ _

theorem resetCommunication_tpdos (d : Device) :
    d.resetCommunication.tpdos = d.tpdos.map (fun t => t.restart d.attributes) :=
  resetTpdos_fst _ _ _

end Device

end Canopen
