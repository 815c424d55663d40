import Canopen.Proofs.PdoState

/-! # Loading a configuration

A PDO is valid after a configuration was loaded if its identifier word can be used and its mappings
can be resolved (`loadConfig_valid_iff`).  Which words can be used is said by `CobIdWord.Usable`.

Bits 11 to 29 of a word are to be clear, but a word whose low half is the pre-defined identifier plus
the node identifier is stored without its bits 16 to 29 before anything is checked.  Such a word makes
the PDO valid even if it asks for a 29-bit identifier (`extended_identifier_accepted`). -/

namespace Canopen

/-! ### Identifier words -/

namespace CobIdWord

theorem and_standardMask {w : CobIdWord} (h : w.toNat < 2048) : w &&& standardMask = w := by
  apply UInt32.toNat_inj.mp
  rw [UInt32.toNat_and]
  exact Nat.and_two_pow_sub_one_of_lt_two_pow (n := 11) h

theorem and_eq_zero {w mask : CobIdWord} (h : w.toNat < 2048) (hmask : standardMask &&& mask = 0) :
    w &&& mask = 0 := by
  rw [← and_standardMask h, UInt32.and_assoc, hmask, UInt32.and_zero]

theorem toNat_lowWord (w : CobIdWord) : w.lowWord.toNat = w.toNat % 65536 :=
  UInt32.toNat_toUInt16 w

theorem toNat_standardId (w : CobIdWord) : w.standardId.toNat = w.toNat % 2048 := by
  have hmask : (w &&& standardMask).toNat = w.toNat % 2048 := by
    rw [UInt32.toNat_and]
    exact Nat.and_two_pow_sub_one_eq_mod w.toNat 11
  unfold standardId
  rw [UInt32.toNat_toUInt16, hmask]
  omega

theorem standardId_eq_lowWord {w : CobIdWord} (h : w.lowWord.toNat < 2048) :
    w.standardId = w.lowWord := by
  apply UInt16.toNat_inj.mp
  rw [toNat_lowWord] at h ⊢
  rw [toNat_standardId]
  omega

/-- The bits of a word that are kept when its identifier is replaced. -/
def flags (w : CobIdWord) : CobIdWord := w &&& (invalidBit ||| bit30)

theorem flags_or_and (w id mask : CobIdWord) :
    (w.flags ||| id) &&& mask = w &&& ((invalidBit ||| bit30) &&& mask) ||| id &&& mask := by
  apply UInt32.toNat_inj.mp
  simp only [flags, UInt32.toNat_or, UInt32.toNat_and, Nat.and_or_distrib_right, Nat.and_assoc]

variable {id : CobIdWord}

theorem isInvalid_flags_or (w : CobIdWord) (h : id.toNat < 2048) :
    isInvalid (w.flags ||| id) = w.isInvalid := by
  have hflag : (invalidBit ||| bit30) &&& invalidBit = invalidBit := by decide
  unfold isInvalid
  rw [flags_or_and, hflag, and_eq_zero h (by decide), UInt32.or_zero]

theorem hasReservedBits_flags_or (w : CobIdWord) (h : id.toNat < 2048) :
    hasReservedBits (w.flags ||| id) = false := by
  have hflag : (invalidBit ||| bit30) &&& reservedMask = 0 := by decide
  unfold hasReservedBits
  rw [flags_or_and, hflag, and_eq_zero h (by decide), UInt32.and_zero, UInt32.or_zero]
  rfl

theorem standardId_flags_or (w : CobIdWord) (h : id.toNat < 2048) :
    standardId (w.flags ||| id) = id.toUInt16 := by
  have hflag : (invalidBit ||| bit30) &&& standardMask = 0 := by decide
  unfold standardId
  rw [flags_or_and, hflag, and_standardMask h, UInt32.and_zero, UInt32.zero_or]

/-- The identifier under which a PDO with this word runs: the pre-defined one follows the node. -/
def effective (w : CobIdWord) (predefinedId : UInt16) (offset : UInt8) : UInt16 :=
  if w.standardId = predefinedId then w.standardId + offset.toUInt16 else w.standardId

/-- A word that makes a PDO valid, on a node whose identifier adds `offset` to the pre-defined
identifier of the PDO. -/
structure Usable (w : CobIdWord) (predefinedId : UInt16) (offset : UInt8) : Prop where
  enabled : w.isInvalid = false
  /-- Bits 11 to 29 are clear, or they are never looked at. -/
  plain : w.hasReservedBits = false ∨
    (predefinedId ≠ 0 ∧ w.lowWord = predefinedId + offset.toUInt16)
  named : w.standardId ≠ 0
  unrestricted : isRestrictedId (w.effective predefinedId offset) = false

end CobIdWord

/-- Can the mappings be resolved to at least one byte? -/
def Maps (attributes : Attributes) (direction : Direction) (ms : List UInt32) : Prop :=
  ∃ m, MappedPdo.resolve attributes direction (ms.map MappingDescriptor.ofWord) = .ok m ∧
    m.dataLen ≠ 0

namespace PdoParams

theorem isSome_effectiveId_iff (p : PdoParams) (w : CobIdWord) (dataLen : Nat) :
    (p.effectiveId w dataLen).isSome = true ↔ w.isInvalid = false ∧ w.hasReservedBits = false ∧
      dataLen ≠ 0 ∧ w.standardId ≠ 0 ∧
      isRestrictedId (w.effective p.predefinedId p.nodeOffset) = false := by
  unfold effectiveId CobIdWord.effective
  cases w.isInvalid <;> cases w.hasReservedBits <;> by_cases hlen : dataLen = 0 <;>
    by_cases hid : w.standardId = 0 <;> simp [hlen, hid]

theorem toNat_predefined_add {p : PdoParams}
    (hp : p.predefinedId.toNat + p.nodeOffset.toNat < 2048) :
    (p.predefinedId + p.nodeOffset.toUInt16).toNat = p.predefinedId.toNat + p.nodeOffset.toNat := by
  rw [UInt16.toNat_add, UInt8.toNat_toUInt16]
  omega

theorem isSome_effectiveId_stripNodeId {p : PdoParams}
    (hp : p.predefinedId.toNat + p.nodeOffset.toNat < 2048) (w : CobIdWord) (dataLen : Nat) :
    (p.effectiveId (p.stripNodeId w) dataLen).isSome = true ↔
      w.Usable p.predefinedId p.nodeOffset ∧ dataLen ≠ 0 := by
  rw [isSome_effectiveId_iff]
  by_cases hstrip : p.predefinedId ≠ 0 ∧ w.lowWord = p.predefinedId + p.nodeOffset.toUInt16
  · have hstored : p.stripNodeId w = w.flags ||| p.predefinedId.toUInt32 := by
      unfold stripNodeId
      rw [if_pos hstrip]
      rfl
    have hsum := toNat_predefined_add hp
    have hid : p.predefinedId.toUInt32.toNat < 2048 := by
      rw [UInt16.toNat_toUInt32]
      omega
    have hne : p.predefinedId.toNat ≠ 0 := fun h => hstrip.1 (UInt16.toNat_inj.mp h)
    have hw : w.standardId = p.predefinedId + p.nodeOffset.toUInt16 := by
      rw [CobIdWord.standardId_eq_lowWord (by rw [hstrip.2, hsum]; exact hp), hstrip.2]
    have hstd : CobIdWord.standardId (w.flags ||| p.predefinedId.toUInt32) = p.predefinedId := by
      rw [CobIdWord.standardId_flags_or w hid, UInt16.toUInt16_toUInt32]
    have heffective : CobIdWord.effective (w.flags ||| p.predefinedId.toUInt32) p.predefinedId
        p.nodeOffset = w.effective p.predefinedId p.nodeOffset := by
      unfold CobIdWord.effective
      rw [hstd, hw, if_pos rfl]
      split
      · rename_i hzero
        rw [hzero]
        exact hzero.symm
      · rfl
    have hnamed : w.standardId ≠ 0 := by
      intro h0
      rw [hw] at h0
      rw [h0] at hsum
      change 0 = _ at hsum
      omega
    rw [hstored, CobIdWord.isInvalid_flags_or w hid, CobIdWord.hasReservedBits_flags_or w hid, hstd,
      heffective]
    constructor
    · rintro ⟨henabled, _, hlen, _, hfree⟩
      exact ⟨⟨henabled, .inr hstrip, hnamed, hfree⟩, hlen⟩
    · rintro ⟨h, hlen⟩
      exact ⟨h.enabled, rfl, hlen, hstrip.1, h.unrestricted⟩
  · have hstored : p.stripNodeId w = w := by
      unfold stripNodeId
      rw [if_neg hstrip]
    rw [hstored]
    constructor
    · rintro ⟨henabled, hplain, hlen, hnamed, hfree⟩
      exact ⟨⟨henabled, .inl hplain, hnamed, hfree⟩, hlen⟩
    · rintro ⟨h, hlen⟩
      exact ⟨h.enabled, h.plain.resolve_right hstrip, hlen, h.named, h.unrestricted⟩

/-- The parameters that a configuration gives to a PDO. -/
def configure (p : PdoParams) (w : Option UInt32) (type : TransmissionType) (ms : List UInt32)
    (restrictions : UInt8) : PdoParams :=
  let p := p.setCobId (w.getD p.predefinedId.toUInt32)
  { { p with transmissionType := type }.setMappings ms with restrictions := ⟨restrictions⟩ }

theorem resolve_configure (p : PdoParams) (w : Option UInt32) (type : TransmissionType)
    {ms : List UInt32} (restrictions : UInt8) (hms : ms.length ≤ maxMappings)
    (attributes : Attributes) (direction : Direction) :
    (p.configure w type ms restrictions).resolve attributes direction
        (p.configure w type ms restrictions).mappingCount =
      MappedPdo.resolve attributes direction (ms.map MappingDescriptor.ofWord) := by
  have hcount : (UInt8.ofNat (min ms.length maxMappings)).toNat = ms.length := by
    rw [Nat.min_eq_left hms, UInt8.toNat_ofNat']
    change ms.length ≤ 8 at hms
    omega
  unfold resolve
  show MappedPdo.resolve _ _ ((p.mappings.load ms).descriptors
    (UInt8.ofNat (min ms.length maxMappings)).toNat) = _
  rw [hcount, MappingTable.descriptors_load hms]

theorem dataLen_liveMapping_ne_zero_iff (p : PdoParams) (attributes : Attributes)
    (direction : Direction) (count : UInt8) :
    (p.liveMapping attributes direction count).dataLen ≠ 0 ↔
      ∃ m, p.resolve attributes direction count = .ok m ∧ m.dataLen ≠ 0 := by
  unfold liveMapping
  cases p.resolve attributes direction count with
  | ok m => simp
  | error e => simp [MappedPdo.empty]

theorem assignIdentity_ids (p : PdoParams) (predefinedId : UInt16) (offset : UInt8) :
    (p.assignIdentity predefinedId offset).predefinedId = predefinedId ∧
      (p.assignIdentity predefinedId offset).nodeOffset = offset := by
  unfold assignIdentity
  dsimp only
  split
  · exact ⟨rfl, rfl⟩
  · exact ⟨rfl, rfl⟩

/-- A PDO that takes its parameters from a configuration runs under some identifier if its word is
usable and its mappings can be resolved. -/
theorem isSome_effectiveId_configure {predefinedId : UInt16} (hpredefined : predefinedId.toNat ≤ 0x500)
    (id : NodeId) (p : PdoParams) (w : Option UInt32) (type : TransmissionType) {ms : List UInt32}
    (restrictions : UInt8) (hms : ms.length ≤ maxMappings) (attributes : Attributes)
    (direction : Direction) :
    let q := (p.assignIdentity predefinedId id.offset).configure w type ms restrictions
    (q.effectiveId q.cobId (q.liveMapping attributes direction q.mappingCount).dataLen).isSome =
        true ↔
      CobIdWord.Usable (w.getD predefinedId.toUInt32) predefinedId id.offset ∧
        Maps attributes direction ms := by
  intro q
  obtain ⟨hid, hoffset⟩ := p.assignIdentity_ids predefinedId id.offset
  have hsum : (p.assignIdentity predefinedId id.offset).predefinedId.toNat +
      (p.assignIdentity predefinedId id.offset).nodeOffset.toNat < 2048 := by
    have hle := id.offset_le
    rw [hid, hoffset]
    omega
  show ((p.assignIdentity predefinedId id.offset).effectiveId
    ((p.assignIdentity predefinedId id.offset).stripNodeId _) _).isSome = true ↔ _
  rw [isSome_effectiveId_stripNodeId hsum, dataLen_liveMapping_ne_zero_iff,
    resolve_configure _ w type restrictions hms, hid, hoffset]
  exact Iff.rfl

end PdoParams

/-! ### Communication resets -/

theorem Rpdo.valid_restart (r : Rpdo) (attributes : Attributes) :
    (r.restart attributes).valid = (r.params.effectiveId r.params.cobId
      (r.params.liveMapping attributes .receive r.params.mappingCount).dataLen).isSome := by
  unfold restart reset
  simp only [configureMapping_pdo]
  rfl

theorem Tpdo.valid_restart {t : Tpdo} (h : t.isSchedulable = true) (attributes : Attributes) :
    (t.restart attributes).valid = (t.params.effectiveId t.params.cobId
      (t.params.liveMapping attributes .transmit t.params.mappingCount).dataLen).isSome := by
  unfold restart reset
  simp only [configureMapping_pdo, h, ↓reduceIte]
  rfl

/-! ### Configurations that pass their check -/

theorem of_checkPdoConfig {pdo : PdoName} {ms : List UInt32} {type : TransmissionType}
    (h : checkPdoConfig pdo ms type = .ok ()) :
    ms.length ≤ maxMappings ∧ type.isReserved = false := by
  unfold checkPdoConfig at h
  split at h
  · cases h
  · rename_i hlen
    split at h
    · cases h
    · rename_i htype
      exact ⟨Nat.le_of_not_lt hlen, Bool.eq_false_iff.mpr htype⟩

theorem TpdoConfig.of_validate {c : TpdoConfig} {n : Nat} (h : c.validate n = .ok ()) :
    c.mappings.length ≤ maxMappings ∧ TransmissionType.isReserved c.transmissionType = false ∧
      c.syncStart ≤ syncStartMax := by
  obtain ⟨_, hpdo, h⟩ := exists_of_bind_eq_ok h
  obtain ⟨hlen, htype⟩ := of_checkPdoConfig hpdo
  split at h
  · cases h
  · rename_i hstart
    exact ⟨hlen, htype, UInt8.not_lt.mp hstart⟩

theorem TpdoConfig.isSchedulable_apply {c : TpdoConfig}
    (htype : TransmissionType.isReserved c.transmissionType = false)
    (hstart : c.syncStart ≤ syncStartMax) (t : Tpdo) : (c.apply t).isSchedulable = true := by
  show (!TransmissionType.isReserved c.transmissionType && decide (c.syncStart ≤ syncStartMax)) = true
  rw [htype, decide_eq_true hstart]
  rfl

theorem of_validateEntries {α : Type} {check : α → Nat → Except ConfigError Unit} {cs : List α}
    {n k : Nat} {c : α} (h : validateEntries check cs n = .ok ()) (hc : cs[k]? = some c) :
    check c (n + k) = .ok () := by
  induction cs generalizing n k with
  | nil => cases hc
  | cons c' cs ih =>
      obtain ⟨_, hcheck, h⟩ := exists_of_bind_eq_ok h
      cases k with
      | zero =>
          obtain rfl := Option.some.inj hc
          exact hcheck
      | succ k =>
          have hk : cs[k]? = some c := hc
          rw [← Nat.add_assoc, Nat.add_right_comm]
          exact ih h hk

theorem exists_of_nodeId {raw : UInt8} (h : 1 ≤ raw ∧ raw ≤ 127 ∨ raw = 255) :
    ∃ id, NodeId.ofRaw raw = .ok id := by
  unfold NodeId.ofRaw
  split
  · exact ⟨_, rfl⟩
  · rename_i hne
    obtain ⟨hpos, hle⟩ := h.resolve_right hne
    have hrange : 0 < raw ∧ raw < 128 := by
      rw [UInt8.le_iff_toNat_le] at hpos hle
      rw [UInt8.lt_iff_toNat_lt, UInt8.lt_iff_toNat_lt]
      change 1 ≤ raw.toNat at hpos
      change raw.toNat ≤ 127 at hle
      change 0 < raw.toNat ∧ raw.toNat < 128
      omega
    unfold ConfiguredId.ofRaw
    rw [dif_pos hrange]
    exact ⟨_, rfl⟩

theorem DeviceConfig.of_validate {c : DeviceConfig} (h : c.validate = .ok ()) :
    (∃ id, NodeId.ofRaw c.nodeId = .ok id) ∧
      (∀ k cfg, c.rpdos[k]? = some cfg → RpdoConfig.validate cfg k = .ok ()) ∧
      ∀ k cfg, c.tpdos[k]? = some cfg → TpdoConfig.validate cfg k = .ok () := by
  unfold validate at h
  dsimp only at h
  split at h
  · cases h
  · rename_i hid
    split at h
    · cases h
    · obtain ⟨_, hrpdos, htpdos⟩ := exists_of_bind_eq_ok h
      refine ⟨exists_of_nodeId ?_, fun k cfg hcfg => ?_, fun k cfg hcfg => ?_⟩
      · by_cases h255 : c.nodeId = 255
        · exact .inr h255
        · exact .inl (Decidable.not_not.mp fun hn => hid ⟨hn, h255⟩)
      · rw [← Nat.zero_add k]
        exact of_validateEntries hrpdos hcfg
      · rw [← Nat.zero_add k]
        exact of_validateEntries htpdos hcfg

/-! ### Loading -/

theorem getElem?_applyEach {α β : Type} {apply : α → β → β} {cs : List α} {xs : List β} {k : Nat}
    {c : α} {x : β} (hc : cs[k]? = some c) (hx : xs[k]? = some x) :
    (applyEach apply cs xs)[k]? = some (apply c x) := by
  induction cs generalizing xs k with
  | nil => cases hc
  | cons c' cs ih =>
      cases xs with
      | nil => cases hx
      | cons x' xs =>
          cases k with
          | zero =>
              obtain rfl := Option.some.inj hc
              obtain rfl := Option.some.inj hx
              rfl
          | succ k => exact ih hc hx

theorem predefinedId_le (k : Nat) :
    (predefinedRpdoId k).toNat ≤ 0x500 ∧ (predefinedTpdoId k).toNat ≤ 0x500 := by
  unfold predefinedRpdoId predefinedTpdoId predefinedPdoCount
  by_cases hk : k < 4
  · rw [if_pos hk, if_pos hk]
    obtain rfl | rfl | rfl | rfl : k = 0 ∨ k = 1 ∨ k = 2 ∨ k = 3 := by omega
    all_goals decide
  · rw [if_neg hk, if_neg hk]
    decide

namespace Node

variable {n : Node} {c : DeviceConfig} {k : Nat}

theorem id_loadConfig (n : Node) (h : c.validate = .ok ()) :
    NodeId.ofRaw c.nodeId = .ok (n.loadConfig c).id := by
  obtain ⟨id, hid⟩ := (DeviceConfig.of_validate h).1
  unfold loadConfig
  rw [hid]
  rfl

/-- The device to which a reset brings the stored values of a configuration. -/
theorem exists_of_loadConfig_id (n : Node) {id : NodeId} (h : NodeId.ofRaw c.nodeId = .ok id) :
    ∃ d : Device, (n.loadConfig c).device = d.resetCommunication ∧
      d.attributes = n.device.attributes ∧
      d.rpdos = applyEach RpdoConfig.apply c.rpdos (n.device.assignIdentity id.offset).rpdos ∧
      d.tpdos = applyEach TpdoConfig.apply c.tpdos (n.device.assignIdentity id.offset).tpdos := by
  unfold loadConfig
  rw [h]
  refine ⟨_, rfl, ?_, rfl, rfl⟩
  simp [Device.attributes, assignIdentity, Device.assignIdentity]

theorem rpdo_loadConfig_id {id : NodeId} {cfg : RpdoConfig} {r : Rpdo}
    (h : NodeId.ofRaw c.nodeId = .ok id) (hcfg : c.rpdos[k]? = some cfg)
    (hr : n.device.rpdos[k]? = some r) :
    (n.loadConfig c).device.rpdos[k]? = some ((cfg.apply { r with
      params := r.params.assignIdentity (predefinedRpdoId k) id.offset }).restart
        n.device.attributes) := by
  obtain ⟨d, hd, hattributes, hrpdos, _⟩ := n.exists_of_loadConfig_id h
  have hassigned : (n.device.assignIdentity id.offset).rpdos[k]? = some { r with
      params := r.params.assignIdentity (predefinedRpdoId k) id.offset } := by
    simp only [Device.assignIdentity, List.getElem?_mapIdx, hr, Option.map_some]
  rw [hd, Device.resetCommunication_rpdos, List.getElem?_map, hattributes, hrpdos,
    getElem?_applyEach hcfg hassigned]
  rfl

theorem tpdo_loadConfig_id {id : NodeId} {cfg : TpdoConfig} {t : Tpdo}
    (h : NodeId.ofRaw c.nodeId = .ok id) (hcfg : c.tpdos[k]? = some cfg)
    (ht : n.device.tpdos[k]? = some t) :
    (n.loadConfig c).device.tpdos[k]? = some ((cfg.apply { t with
      params := t.params.assignIdentity (predefinedTpdoId k) id.offset }).restart
        n.device.attributes) := by
  obtain ⟨d, hd, hattributes, _, htpdos⟩ := n.exists_of_loadConfig_id h
  have hassigned : (n.device.assignIdentity id.offset).tpdos[k]? = some { t with
      params := t.params.assignIdentity (predefinedTpdoId k) id.offset } := by
    simp only [Device.assignIdentity, List.getElem?_mapIdx, ht, Option.map_some]
  rw [hd, Device.resetCommunication_tpdos, List.getElem?_map, hattributes, htpdos,
    getElem?_applyEach hcfg hassigned]
  rfl

theorem rpdo_loadConfig {cfg : RpdoConfig} {r : Rpdo} (h : c.validate = .ok ())
    (hcfg : c.rpdos[k]? = some cfg) (hr : n.device.rpdos[k]? = some r) :
    (n.loadConfig c).device.rpdos[k]? = some ((cfg.apply { r with
      params := r.params.assignIdentity (predefinedRpdoId k)
        (n.loadConfig c).id.offset }).restart n.device.attributes) :=
  rpdo_loadConfig_id (n.id_loadConfig h) hcfg hr

theorem tpdo_loadConfig {cfg : TpdoConfig} {t : Tpdo} (h : c.validate = .ok ())
    (hcfg : c.tpdos[k]? = some cfg) (ht : n.device.tpdos[k]? = some t) :
    (n.loadConfig c).device.tpdos[k]? = some ((cfg.apply { t with
      params := t.params.assignIdentity (predefinedTpdoId k)
        (n.loadConfig c).id.offset }).restart n.device.attributes) :=
  tpdo_loadConfig_id (n.id_loadConfig h) hcfg ht

/-- **A loaded configuration makes exactly those PDOs valid whose identifier word can be used and
whose mappings can be resolved**, among the PDOs that both the node and the configuration have.  The
configuration has passed its check; the node and its objects are arbitrary. -/
theorem loadConfig_valid_iff (n : Node) (c : DeviceConfig) (h : c.validate = .ok ()) :
    let n' := n.loadConfig c
    NodeId.ofRaw c.nodeId = .ok n'.id ∧
      (∀ k cfg, c.rpdos[k]? = some cfg → k < n.device.rpdos.length →
        ∃ r, n'.device.rpdos[k]? = some r ∧ (r.valid = true ↔
          CobIdWord.Usable (cfg.cobId.getD (predefinedRpdoId k).toUInt32) (predefinedRpdoId k)
              n'.id.offset ∧
            Maps n.device.attributes .receive cfg.mappings)) ∧
      ∀ k cfg, c.tpdos[k]? = some cfg → k < n.device.tpdos.length →
        ∃ t, n'.device.tpdos[k]? = some t ∧ (t.valid = true ↔
          CobIdWord.Usable (cfg.cobId.getD (predefinedTpdoId k).toUInt32) (predefinedTpdoId k)
              n'.id.offset ∧
            Maps n.device.attributes .transmit cfg.mappings) := by
  intro n'
  obtain ⟨_, hrpdos, htpdos⟩ := DeviceConfig.of_validate h
  refine ⟨n.id_loadConfig h, fun k cfg hcfg hk => ?_, fun k cfg hcfg hk => ?_⟩
  · have hloaded := rpdo_loadConfig h hcfg (List.getElem?_eq_getElem hk)
    obtain ⟨hlen, _⟩ := of_checkPdoConfig (hrpdos k cfg hcfg)
    refine ⟨_, hloaded, ?_⟩
    rw [Rpdo.valid_restart]
    exact PdoParams.isSome_effectiveId_configure (predefinedId_le k).1 n'.id _ cfg.cobId
      cfg.transmissionType cfg.restrictions hlen n.device.attributes .receive
  · have hloaded := tpdo_loadConfig h hcfg (List.getElem?_eq_getElem hk)
    obtain ⟨hlen, htype, hstart⟩ := TpdoConfig.of_validate (htpdos k cfg hcfg)
    refine ⟨_, hloaded, ?_⟩
    rw [Tpdo.valid_restart (TpdoConfig.isSchedulable_apply htype hstart _)]
    exact PdoParams.isSome_effectiveId_configure (predefinedId_le k).2 n'.id _ cfg.cobId
      cfg.transmissionType cfg.restrictions hlen n.device.attributes .transmit

/-! ### An identifier of 29 bits -/

/-- A node with two receive PDOs and a number that may be mapped. -/
def loader : Node :=
  let byte := AppObject.var (SubInfo.u8.readWrite.mappable .rpdo) (.ofNumber .u8 0)
  Node.start .unconfigured (Device.fresh 2 0 ⟨[⟨0x2000, .application byte⟩]⟩)

/-- Map the number into the receive PDOs of the loader, under the given identifier words. -/
def loaderConfig (words : List (Option UInt32)) : DeviceConfig :=
  { DeviceConfig.initial with
    nodeId := 5
    rpdos := words.map fun w => ⟨w, 254, [0x20000008], 0⟩ }

/-- The first PDO gets its pre-defined identifier, the second one asks for an identifier of 29 bits. -/
theorem loadConfig_valid_iff_loader :
    ∃ r₀ r₁, (loader.loadConfig (loaderConfig [none, some 0x20000205])).device.rpdos = [r₀, r₁] ∧
      r₀.valid = true ∧ r₁.valid = false := by
  obtain ⟨_, hrpdos, _⟩ := loadConfig_valid_iff loader (loaderConfig [none, some 0x20000205]) rfl
  obtain ⟨r₀, hr₀, hvalid₀⟩ := hrpdos 0 _ rfl (by decide)
  obtain ⟨r₁, hr₁, hvalid₁⟩ := hrpdos 1 _ rfl (by decide)
  refine ⟨r₀, r₁, ?_, hvalid₀.mpr ⟨⟨by decide, .inl (by decide), by decide, by decide⟩, _, rfl,
    by decide⟩, ?_⟩
  · rw [← Option.some.inj hr₀, ← Option.some.inj hr₁]
    rfl
  · refine Bool.eq_false_iff.mpr fun hvalid => ?_
    rcases (hvalid₁.mp hvalid).1.plain with hplain | ⟨_, hlow⟩
    · exact absurd hplain (by decide)
    · exact absurd hlow (by decide)

/-- The same word makes the first PDO valid, under the 11-bit identifier in its low half. -/
theorem extended_identifier_accepted :
    let w : CobIdWord := 0x20000205
    (loaderConfig [some w]).validate = .ok () ∧ w.isExtended = true ∧ w.hasReservedBits = true ∧
      ∃ r, (loader.loadConfig (loaderConfig [some w])).device.rpdos[0]? = some r ∧
        r.valid = true ∧ r.cobId = some (.std 0x205) :=
  ⟨rfl, rfl, rfl, _, rfl, rfl, rfl⟩

end Node

end Canopen
