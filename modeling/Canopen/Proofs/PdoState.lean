import Canopen.Proofs.Events
import Canopen.Proofs.Resolution

/-! # The state of a PDO

The mapping, the identifier, the validity and the prepared frame of a PDO are changed by many
operations, one at a time.  `Rpdo.Consistent` and `Tpdo.Consistent` say how they belong together;
`configureCommunication` restores the relation between them from any well-formed mapping, every
dictionary write keeps it, and so it holds after every run of a node
(`pdos_consistent`). -/

namespace Canopen

/-! ### Identifiers -/

namespace PdoParams

theorem effectiveId_eq_some {p : PdoParams} {w : CobIdWord} {dataLen : Nat} {id : UInt16}
    (h : p.effectiveId w dataLen = some id) : 1 ≤ dataLen ∧ isRestrictedId id = false := by
  simp only [effectiveId, Option.ite_none_left_eq_some, Option.some.injEq] at h
  obtain ⟨hw, hid, rfl⟩ := h
  have hlen : dataLen ≠ 0 := by
    rintro rfl
    simp at hw
  exact ⟨Nat.one_le_iff_ne_zero.mpr hlen, by simpa using hid⟩

theorem or_and_or (w m p : UInt32) : (w &&& m ||| p) &&& m ||| p = w &&& m ||| p := by
  apply UInt32.eq_of_toBitVec_eq
  simp only [UInt32.toBitVec_or, UInt32.toBitVec_and]
  ext i hi
  simp only [BitVec.getElem_or, BitVec.getElem_and]
  cases w.toBitVec[i] <;> cases m.toBitVec[i] <;> cases p.toBitVec[i] <;> rfl

theorem or_and_self_right (w m : UInt32) : (w ||| m) &&& m = m := by
  apply UInt32.eq_of_toBitVec_eq
  simp only [UInt32.toBitVec_or, UInt32.toBitVec_and]
  ext i hi
  simp only [BitVec.getElem_or, BitVec.getElem_and]
  cases w.toBitVec[i] <;> cases m.toBitVec[i] <;> rfl

theorem effectiveId_or_invalidBit (p : PdoParams) (w : CobIdWord) (dataLen : Nat) :
    p.effectiveId (w ||| .invalidBit) dataLen = none := by
  have hinv : CobIdWord.isInvalid (w ||| .invalidBit) = true := by
    unfold CobIdWord.isInvalid
    rw [or_and_self_right]
    decide
  simp only [effectiveId, hinv, Bool.true_or, ↓reduceIte]

theorem stripNodeId_stripNodeId (p : PdoParams) (w : CobIdWord) :
    p.stripNodeId (p.stripNodeId w) = p.stripNodeId w := by
  unfold stripNodeId
  split
  · split
    · exact or_and_or _ _ _
    · rfl
  · rfl

theorem stripNodeId_of_checkCobIdWrite {p : PdoParams} {w stored : CobIdWord} {valid : Bool}
    (h : p.checkCobIdWrite w valid = .ok stored) : p.stripNodeId stored = stored := by
  unfold checkCobIdWrite at h
  dsimp only at h
  split at h
  · cases h
  · split at h
    · cases h
    · rw [← Except.ok.inj h, stripNodeId_stripNodeId]

end PdoParams

/-! ### Receive PDOs -/

namespace Rpdo

/-- How the parts of the state of a receive PDO belong together. -/
structure Consistent (r : Rpdo) : Prop where
  mapping : r.mapping.WellFormed
  /-- A valid PDO receives the identifier that its stored word stands for. -/
  identified : r.valid = true → 1 ≤ r.mapping.dataLen ∧
    ∃ id, r.params.effectiveId r.params.cobId r.mapping.dataLen = some id ∧
      isRestrictedId id = false ∧ r.cobId = some (.std id)
  /-- A PDO that is not valid receives nothing. -/
  silent : r.valid = false → r.cobId = none
  synchronous : r.synchronous = decide (r.params.transmissionType ≤ 240)

/-- An identifier word restores the relation, if it stands for the same as the stored word. -/
theorem consistent_configureCommunication {r : Rpdo} {w : CobIdWord} (hm : r.mapping.WellFormed)
    (hw : r.params.effectiveId w r.mapping.dataLen =
      r.params.effectiveId r.params.cobId r.mapping.dataLen) :
    (r.configureCommunication w).Consistent where
  mapping := hm
  identified := by
    intro hv
    obtain ⟨id, hid⟩ := Option.isSome_iff_exists.mp hv
    obtain ⟨hlen, hfree⟩ := PdoParams.effectiveId_eq_some hid
    refine ⟨hlen, id, hw.symm.trans hid, hfree, ?_⟩
    simp only [configureCommunication, hid, Option.map_some]
  silent := by
    intro hv
    have hid : r.params.effectiveId w r.mapping.dataLen = none := by
      simpa [configureCommunication] using hv
    simp only [configureCommunication, hid, Option.map_none]
  synchronous := rfl

theorem consistent_restart (r : Rpdo) (attributes : Attributes) :
    (r.restart attributes).Consistent := by
  unfold restart reset
  simp only [configureMapping_pdo]
  exact consistent_configureCommunication (PdoParams.liveMapping_wellFormed _ _ _ _) rfl

theorem Consistent.applyCobId {r : Rpdo} (hr : r.Consistent) {w : CobIdWord}
    (hw : r.params.stripNodeId w = w) : (r.applyCobId w).Consistent := by
  refine consistent_configureCommunication hr.mapping ?_
  simp only [PdoParams.setCobId, hw]

theorem Consistent.applyTransmissionType {r : Rpdo} (hr : r.Consistent) (t : TransmissionType) :
    (r.applyTransmissionType t).Consistent :=
  ⟨hr.mapping, hr.identified, hr.silent, rfl⟩

theorem Consistent.writeComm {r r' : Rpdo} {nmt : NmtState} {sub : UInt8} {data : Bytes}
    (hr : r.Consistent) (h : r.writeComm nmt sub data = .ok r') : r'.Consistent := by
  rcases writeComm_ok h with ⟨_, w, stored, _, hs, rfl⟩ | ⟨_, t, _, rfl⟩
  · exact hr.applyCobId (PdoParams.stripNodeId_of_checkCobIdWrite hs)
  · exact hr.applyTransmissionType t

theorem Consistent.remap {r : Rpdo} (hr : r.Consistent) (hv : r.valid = false) {p : PdoParams}
    {m : MappedPdo} (hp : p.transmissionType = r.params.transmissionType) (hm : m.WellFormed) :
    { r with params := p, mapping := m }.Consistent where
  mapping := hm
  identified := by
    intro hv'
    rw [show r.valid = true from hv'] at hv
    cases hv
  silent := hr.silent
  synchronous := by
    rw [hp]
    exact hr.synchronous

theorem Consistent.applyMapping {r : Rpdo} (hr : r.Consistent) (hv : r.valid = false)
    (attributes : Attributes) (errors : ErrorStatus) (w : MappingWrite) :
    (r.applyMapping attributes errors w).pdo.Consistent := by
  cases w with
  | entry i w => exact hr.remap hv rfl hr.mapping
  | count n =>
      obtain ⟨_, hpdo⟩ := r.exists_applyMapping_count attributes errors n
      rw [hpdo]
      exact hr.remap hv rfl (r.params.liveMapping_wellFormed attributes .receive n)

theorem Consistent.stage {r : Rpdo} (hr : r.Consistent) (f : Frame) (toggle : Bool) :
    (r.stage f toggle).Consistent :=
  ⟨hr.mapping, hr.identified, hr.silent, hr.synchronous⟩

theorem Consistent.take {r : Rpdo} (hr : r.Consistent) (syncOccurred toggle : Bool)
    (nmt : NmtState) : (r.take syncOccurred toggle nmt).2.Consistent := by
  obtain ⟨s, hs⟩ := exists_slots_of_take r syncOccurred toggle nmt
  rw [hs]
  exact ⟨hr.mapping, hr.identified, hr.silent, hr.synchronous⟩

end Rpdo

/-! ### Transmit PDOs -/

namespace Tpdo

/-- How the parts of the state of a transmit PDO belong together. -/
structure Consistent (t : Tpdo) : Prop where
  mapping : t.mapping.WellFormed
  /-- A valid PDO is sent under the identifier that its stored word stands for. -/
  identified : t.valid = true → 1 ≤ t.mapping.dataLen ∧
    ∃ id, t.params.effectiveId t.params.cobId t.mapping.dataLen = some id ∧
      isRestrictedId id = false ∧ t.frame.id = .std id
  silent : t.valid = false → t.frame.id = .std 0
  dlc : t.frame.dlc.toNat = t.mapping.dataLen

theorem toNat_ofNat_dataLen {m : MappedPdo} (hm : m.WellFormed) :
    (UInt8.ofNat m.dataLen).toNat = m.dataLen := by
  have hle : m.dataLen ≤ 8 := hm.dataLen_le
  rw [UInt8.toNat_ofNat']
  omega

/-- An identifier word restores the relation, if it stands for the same as the stored word or
disables the PDO. -/
theorem consistent_configureCommunication {t : Tpdo} {w : CobIdWord} (hm : t.mapping.WellFormed)
    (hw : ∀ id, t.params.effectiveId w t.mapping.dataLen = some id →
      t.params.effectiveId t.params.cobId t.mapping.dataLen = some id) :
    (t.configureCommunication w).Consistent where
  mapping := hm
  identified := by
    intro hv
    obtain ⟨id, hid⟩ := Option.isSome_iff_exists.mp hv
    obtain ⟨hlen, hfree⟩ := PdoParams.effectiveId_eq_some hid
    refine ⟨hlen, id, hw id hid, hfree, ?_⟩
    simp only [configureCommunication, hid, Option.getD_some]
  silent := by
    intro hv
    have hid : t.params.effectiveId w t.mapping.dataLen = none := by
      simpa [configureCommunication] using hv
    simp only [configureCommunication, hid, Option.getD_none]
  dlc := toNat_ofNat_dataLen hm

/-- The relation concerns nothing but the setup of the PDO. -/
theorem Consistent.of_sameSetup {t t' : Tpdo} (ht : t.Consistent) (h : t.SameSetup t') :
    t'.Consistent where
  mapping := by
    rw [h.mapping]
    exact ht.mapping
  identified := by
    rw [h.valid, h.params, h.mapping, h.id]
    exact ht.identified
  silent := by
    rw [h.valid, h.id]
    exact ht.silent
  dlc := by
    rw [h.dlc, h.mapping]
    exact ht.dlc

theorem consistent_restart (t : Tpdo) (attributes : Attributes) :
    (t.restart attributes).Consistent := by
  have hm := t.params.liveMapping_wellFormed attributes .transmit t.params.mappingCount
  unfold restart reset
  simp only [configureMapping_pdo]
  refine Consistent.of_sameSetup (consistent_configureCommunication hm fun id hid => ?_)
    ⟨rfl, rfl, rfl, rfl, rfl, rfl, rfl, rfl⟩
  -- a PDO that cannot be scheduled is given a word which disables it
  split at hid
  · exact hid
  · rw [PdoParams.effectiveId_or_invalidBit] at hid
    cases hid

theorem Consistent.applyCobId {t : Tpdo} (ht : t.Consistent) {w : CobIdWord}
    (hw : t.params.stripNodeId w = w) : (t.applyCobId w).Consistent := by
  have hc : ({ t with params := t.params.setCobId w }.configureCommunication w).Consistent := by
    refine consistent_configureCommunication ht.mapping fun id hid => ?_
    simpa only [PdoParams.setCobId, hw] using hid
  exact ⟨hc.mapping, hc.identified, hc.silent, hc.dlc⟩

theorem Consistent.writeComm {t t' : Tpdo} {nmt : NmtState} {sub : UInt8} {data : Bytes}
    (ht : t.Consistent) (h : t.writeComm nmt sub data = .ok t') : t'.Consistent := by
  rcases writeComm_ok h with ⟨_, w, stored, _, hs, rfl⟩ | ⟨type, _, rfl⟩ | ⟨_, time, rfl⟩ |
    ⟨time, rfl⟩ | ⟨_, start, _, rfl⟩
  · exact ht.applyCobId (PdoParams.stripNodeId_of_checkCobIdWrite hs)
  · exact ⟨ht.mapping, ht.identified, ht.silent, ht.dlc⟩
  · exact ⟨ht.mapping, ht.identified, ht.silent, ht.dlc⟩
  · exact ⟨ht.mapping, ht.identified, ht.silent, ht.dlc⟩
  · exact ⟨ht.mapping, ht.identified, ht.silent, ht.dlc⟩

theorem Consistent.remap {t : Tpdo} (ht : t.Consistent) (hv : t.valid = false) {p : PdoParams}
    {m : MappedPdo} (hm : m.WellFormed) : { t.remap m with params := p }.Consistent where
  mapping := hm
  identified := by
    intro hv'
    rw [show t.valid = true from hv'] at hv
    cases hv
  silent := ht.silent
  dlc := toNat_ofNat_dataLen hm

theorem Consistent.applyMapping {t : Tpdo} (ht : t.Consistent) (hv : t.valid = false)
    (attributes : Attributes) (errors : ErrorStatus) (w : MappingWrite) :
    (t.applyMapping attributes errors w).pdo.Consistent := by
  cases w with
  | entry i w =>
      refine ⟨ht.mapping, fun hv' => ?_, ht.silent, ht.dlc⟩
      rw [show t.valid = true from hv'] at hv
      cases hv
  | count n =>
      obtain ⟨_, hpdo⟩ := t.exists_applyMapping_count attributes errors n
      rw [hpdo]
      exact ht.remap hv (t.params.liveMapping_wellFormed attributes .transmit n)

end Tpdo

/-! ### All PDOs of a node -/

section step
variable {σ : Type} {n : Node} {k : Nat} {e : Event σ}

theorem Rpdo.Stepped.consistent {r r' : Rpdo} (h : r.Stepped n k e r') (hr : r.Consistent) :
    r'.Consistent := by
  cases h with
  | same => exact hr
  | taken syncOccurred toggle => exact hr.take syncOccurred toggle n.device.nmt
  | staged f _ _ _ => exact hr.stage f n.device.sync.toggle
  | comm _ hw => exact hr.writeComm hw
  | map hw => exact hr.applyMapping (valid_of_checkMappingWrite hw) _ _ _
  | reset params attributes _ => exact Rpdo.consistent_restart _ attributes

theorem Tpdo.Stepped.consistent [Transport σ] {t t' : Tpdo} (h : t.Stepped n k e t')
    (ht : t.Consistent) : t'.Consistent := by
  cases h with
  | same => exact ht
  | requested _ => exact ht.of_sameSetup t.sameSetup_requestSend
  | processed now link link' _ => exact ht.of_sameSetup (t.sameSetup_tick _ _ _ _ _ _)
  | comm _ hw => exact ht.writeComm hw
  | map hw => exact ht.applyMapping (valid_of_checkMappingWrite hw) _ _ _
  | reset _ _ _ _ attributes _ => exact Tpdo.consistent_restart _ attributes

end step

/-- All PDOs are consistent. -/
structure Device.Consistent (d : Device) : Prop where
  rpdos : ∀ r ∈ d.rpdos, r.Consistent
  tpdos : ∀ t ∈ d.tpdos, t.Consistent

theorem Device.consistent_resetCommunication (d : Device) : d.resetCommunication.Consistent where
  rpdos := by
    intro r hr
    rw [resetCommunication_rpdos] at hr
    obtain ⟨r₀, _, rfl⟩ := List.mem_map.mp hr
    exact r₀.consistent_restart d.attributes
  tpdos := by
    intro t ht
    rw [resetCommunication_tpdos] at ht
    obtain ⟨t₀, _, rfl⟩ := List.mem_map.mp ht
    exact t₀.consistent_restart d.attributes

namespace Node

variable {σ : Type} [Transport σ]

theorem consistent_step (n : Node) (e : Event σ) (h : n.device.Consistent) :
    (n.step e).device.Consistent where
  rpdos := by
    intro r' hr'
    obtain ⟨k, hk⟩ := List.mem_iff_getElem?.mp hr'
    obtain ⟨r, hr, hstep⟩ := rpdo_step hk
    exact hstep.consistent (h.rpdos r (List.mem_of_getElem? hr))
  tpdos := by
    intro t' ht'
    obtain ⟨k, hk⟩ := List.mem_iff_getElem?.mp ht'
    obtain ⟨t, ht, hstep⟩ := tpdo_step hk
    exact hstep.consistent (h.tpdos t (List.mem_of_getElem? ht))

/-- **Every PDO is consistent, whatever has happened to the node**: after every run of a node that
was started on a device with any number of fresh PDOs and any object dictionary. -/
theorem pdos_consistent (id : NodeId) (rpdos tpdos : Nat) (dictionary : Dictionary)
    (es : List (Event σ)) :
    let d := ((Node.start id (Device.fresh rpdos tpdos dictionary)).run es).device
    (∀ r ∈ d.rpdos, r.Consistent) ∧ ∀ t ∈ d.tpdos, t.Consistent := by
  have h : ((Node.start id (Device.fresh rpdos tpdos dictionary)).run es).device.Consistent :=
    run_invariant (I := fun n => n.device.Consistent) consistent_step
      (Device.consistent_resetCommunication _) es
  exact ⟨h.rpdos, h.tpdos⟩

end Node

end Canopen
