import Canopen.Proofs.AcceptedWrites
import Canopen.Proofs.IdentifierWord
import Canopen.Proofs.StoredMapping

/-! # The identity of a PDO

`PdoIdentity` is what receive and transmit PDOs have in common as far as their identifiers are
concerned, and `Device.identity?` finds it by the communication object of the PDO.  Sub index one of
that object shows the identifier word (`Device.read_cobIdWord`), and a word that is written to it is
checked, stored and put into effect (`Device.write_cobIdWord`).

`Node.identity_step` says what an event does to the stored word and to what is added to it.  So every
PDO of a node adds the identifier of the node to its own pre-defined one (`Node.identified_run`), a
stored word stays as it is while no other is stored (`Node.cobId_step`), and it is without the node
identifier while that does not change (`Node.stripped_step`). -/

namespace Canopen

/-! ### PDOs by their communication objects -/

namespace Parameter

/-- The pre-defined identifier of the PDO to which a communication object belongs. -/
def predefinedId : Parameter → UInt16
  | rpdoComm k => predefinedRpdoId k
  | tpdoComm k => predefinedTpdoId k
  | _ => 0

theorem toNat_predefinedId_add_lt (p : Parameter) (id : NodeId) :
    p.predefinedId.toNat + id.offset.toNat < 2048 := by
  have hoffset := id.offset_le
  have hid : p.predefinedId.toNat ≤ 0x500 := by
    cases p with
    | rpdoComm k => exact (predefinedId_le k).1
    | tpdoComm k => exact (predefinedId_le k).2
    | _ => exact Nat.zero_le _
  omega

end Parameter

/-- The configuration has an entry for the PDO to which a communication object belongs. -/
def DeviceConfig.Configures (c : DeviceConfig) : Parameter → Prop
  | .rpdoComm k => k < c.rpdos.length
  | .tpdoComm k => k < c.tpdos.length
  | _ => False

/-- The part of a PDO that has to do with its identifier. -/
structure PdoIdentity where
  params : PdoParams
  /-- The number of mapped bytes. -/
  dataLen : Nat
  valid : Bool
  /-- The identifier in use. -/
  cobId : Option CanId
deriving DecidableEq, Repr

namespace PdoIdentity

/-- A word is stored and put into effect. -/
def assume (v : PdoIdentity) (w : CobIdWord) : PdoIdentity :=
  let id := v.params.effectiveId w v.dataLen
  ⟨v.params.setCobId w, v.dataLen, id.isSome, id.map .std⟩

/-- A valid PDO uses the identifier that its stored word stands for. -/
def Consistent (v : PdoIdentity) : Prop :=
  v.valid = true → ∃ id, v.params.effectiveId v.params.cobId v.dataLen = some id ∧
    v.cobId = some (.std id)

end PdoIdentity

namespace Rpdo

def identity (r : Rpdo) : PdoIdentity := ⟨r.params, r.mapping.dataLen, r.valid, r.cobId⟩

theorem identity_applyCobId (r : Rpdo) (w : CobIdWord) :
    (r.applyCobId w).identity = r.identity.assume w := rfl

theorem Consistent.identity {r : Rpdo} (h : r.Consistent) : r.identity.Consistent := by
  intro hv
  obtain ⟨_, id, hid, _, hcobId⟩ := h.identified hv
  exact ⟨id, hid, hcobId⟩

end Rpdo

namespace Tpdo

def identity (t : Tpdo) : PdoIdentity := ⟨t.params, t.mapping.dataLen, t.valid, t.cobId⟩

theorem identity_applyCobId (t : Tpdo) (w : CobIdWord) :
    (t.applyCobId w).identity = t.identity.assume w := by
  have hcobId : (t.applyCobId w).cobId = (t.params.effectiveId w t.mapping.dataLen).map .std := by
    show (if (t.params.effectiveId w t.mapping.dataLen).isSome = true then
      some (CanId.std ((t.params.effectiveId w t.mapping.dataLen).getD 0)) else none) = _
    cases t.params.effectiveId w t.mapping.dataLen with
    | none => rfl
    | some id => rfl
  unfold identity PdoIdentity.assume
  rw [hcobId]
  rfl

theorem Consistent.identity {t : Tpdo} (h : t.Consistent) : t.identity.Consistent := by
  intro hv
  obtain ⟨_, id, hid, _, hframe⟩ := h.identified hv
  refine ⟨id, hid, ?_⟩
  show (if t.valid = true then some t.frame.id else none) = _
  rw [show t.valid = true from hv, hframe]
  rfl

end Tpdo

namespace Device

/-- The identity of the PDO to which a communication object belongs. -/
def identity? (d : Device) : Parameter → Option PdoIdentity
  | .rpdoComm k => d.rpdos[k]?.map Rpdo.identity
  | .tpdoComm k => d.tpdos[k]?.map Tpdo.identity
  | _ => none

variable {d : Device} {index : UInt16} {p : Parameter} {v : PdoIdentity} {w stored : CobIdWord}

theorem object_eq_parameter_iff :
    d.object index = .ok (.parameter p) ↔ d.dictionary.parameter? index = some p := by
  unfold object Dictionary.parameter?
  cases d.dictionary.find? index with
  | none => simp
  | some o =>
      cases o with
      | application o => simp
      | parameter q => simp

theorem Consistent.identity (h : d.Consistent) (hv : d.identity? p = some v) : v.Consistent := by
  cases p with
  | rpdoComm k =>
      obtain ⟨r, hr, rfl⟩ := Option.map_eq_some_iff.mp hv
      exact (h.rpdos r (List.mem_of_getElem? hr)).identity
  | tpdoComm k =>
      obtain ⟨t, ht, rfl⟩ := Option.map_eq_some_iff.mp hv
      exact (h.tpdos t (List.mem_of_getElem? ht)).identity
  | _ => cases hv

theorem read_cobIdWord (ho : d.object index = .ok (.parameter p)) (hv : d.identity? p = some v) :
    d.read ⟨index, 1⟩ 0 4 = .ok (.ofUInt32 (v.params.reportedCobId v.valid)) := by
  have hbytes : d.parameterBytes p 1 = .ok (.ofUInt32 (v.params.reportedCobId v.valid)) := by
    cases p with
    | rpdoComm k =>
        obtain ⟨r, hr, rfl⟩ := Option.map_eq_some_iff.mp hv
        show (do (← d.rpdo k).commBytes 1) = _
        rw [rpdo_of_getElem? hr]
        rfl
    | tpdoComm k =>
        obtain ⟨t, ht, rfl⟩ := Option.map_eq_some_iff.mp hv
        show (do (← d.tpdo k).commBytes 1) = _
        rw [tpdo_of_getElem? ht]
        rfl
    | _ => cases hv
  have hread := read_parameter ho hbytes
  rwa [Bytes.length_ofUInt32] at hread

theorem write_cobIdWord (ho : d.object index = .ok (.parameter p)) (hv : d.identity? p = some v)
    (hnone : v.params.restrictions = .none)
    (hstored : v.params.checkCobIdWrite w v.valid = .ok stored) :
    ∃ d', d.write ⟨index, 1⟩ (.ofUInt32 w) = (.ok (), d') ∧ d'.identity? p = some (v.assume stored) ∧
      d'.dictionary = d.dictionary := by
  cases p with
  | rpdoComm k =>
      obtain ⟨r, hr, rfl⟩ := Option.map_eq_some_iff.mp hv
      have hlt := (List.getElem?_eq_some_iff.mp hr).1
      have hcheck : r.params.checkCobIdWrite w r.valid = .ok stored := hstored
      have hwrite := r.writeComm_cobId d.nmt hnone w
      rw [hcheck] at hwrite
      refine ⟨_, write_rpdoComm ho rfl hr hwrite, ?_, rfl⟩
      show (d.rpdos.set k (r.applyCobId stored))[k]?.map Rpdo.identity = _
      rw [List.getElem?_set_self hlt]
      rfl
  | tpdoComm k =>
      obtain ⟨t, ht, rfl⟩ := Option.map_eq_some_iff.mp hv
      have hlt := (List.getElem?_eq_some_iff.mp ht).1
      have hcheck : t.params.checkCobIdWrite w t.valid = .ok stored := hstored
      have hwrite := t.writeComm_cobId d.nmt hnone w
      rw [hcheck] at hwrite
      refine ⟨_, write_tpdoComm ho rfl ht hwrite, ?_, rfl⟩
      show (d.tpdos.set k (t.applyCobId stored))[k]?.map Tpdo.identity = _
      rw [List.getElem?_set_self hlt, Option.map_some, t.identity_applyCobId]
  | _ => cases hv

theorem write_cobIdWord_error (ho : d.object index = .ok (.parameter p))
    (hv : d.identity? p = some v) (hnone : v.params.restrictions = .none) {e : AbortCode}
    (herror : v.params.checkCobIdWrite w v.valid = .error e) :
    d.write ⟨index, 1⟩ (.ofUInt32 w) = (.error e, d) := by
  cases p with
  | rpdoComm k =>
      obtain ⟨r, hr, rfl⟩ := Option.map_eq_some_iff.mp hv
      have hcheck : r.params.checkCobIdWrite w r.valid = .error e := herror
      rw [write_rpdoComm_eq ho rfl hr, r.writeComm_cobId d.nmt hnone w, hcheck]
      rfl
  | tpdoComm k =>
      obtain ⟨t, ht, rfl⟩ := Option.map_eq_some_iff.mp hv
      have hcheck : t.params.checkCobIdWrite w t.valid = .error e := herror
      rw [write_tpdoComm_eq ho rfl ht, t.writeComm_cobId d.nmt hnone w, hcheck]
      rfl
  | _ => cases hv

end Device

/-! ### What an event does to an identifier word -/

/-- The event stores no identifier word for the PDO to which a communication object belongs: it is no
accepted write to sub index one of that object, and no configuration with an entry for that PDO. -/
def Event.LeavesWord {σ : Type} (n : Node) (p : Parameter) (e : Event σ) : Prop :=
  (∀ data, ¬ e.Writes n p 1 data) ∧ ∀ c, e = .loadConfig c → ¬ c.Configures p

/-- The identifier word of a PDO, and what is added to it, after an event of the node `n` which leaves
the node with the identifier `id`. -/
inductive PdoParams.Moved {σ : Type} (n : Node) (id : NodeId) (p : Parameter) (e : Event σ)
    (q : PdoParams) : PdoParams → Prop
  | kept {q' : PdoParams} : id = n.id → q.SameWord q' → Moved n id p e q q'
  | written {q' : PdoParams} {data : Bytes} {stored : CobIdWord} : id = n.id →
      e.Writes n p 1 data → q.stripNodeId stored = stored →
      { q with cobId := stored }.SameWord q' → Moved n id p e q q'
  | assigned {q' : PdoParams} : (q.assignIdentity p.predefinedId id.offset).SameWord q' →
      Moved n id p e q q'
  | configured {q' : PdoParams} {c : DeviceConfig} (w : CobIdWord) : e = .loadConfig c →
      c.Configures p →
      ((q.assignIdentity p.predefinedId id.offset).setCobId w).SameWord q' → Moved n id p e q q'

section step
variable {σ : Type} {n : Node} {k : Nat} {e : Event σ}

theorem Rpdo.Stepped.moved {r r' : Rpdo} (h : r.Stepped n k e r') (he : ¬ e.IsReset) :
    r.params.Moved n n.id (.rpdoComm k) e r'.params := by
  cases h with
  | same => exact .kept rfl (.refl _)
  | taken syncOccurred toggle =>
      obtain ⟨s, hs⟩ := r.exists_slots_of_take syncOccurred toggle n.device.nmt
      rw [hs]
      exact .kept rfl (.refl _)
  | staged f _ _ _ => exact .kept rfl (.refl _)
  | comm hwrites hw =>
      rcases writeComm_ok hw with ⟨rfl, w, stored, _, hstored, rfl⟩ | ⟨_, t, _, rfl⟩
      · have hstrip := PdoParams.stripNodeId_of_checkCobIdWrite hstored
        exact .written rfl hwrites hstrip ⟨rfl, rfl, hstrip⟩
      · exact .kept rfl ⟨rfl, rfl, rfl⟩
  | map hw =>
      obtain ⟨_, _, _, ⟨_, m, _, _, rfl⟩ | ⟨_, i, word, rfl⟩⟩ := checkMappingWrite_ok hw
      · obtain ⟨stored, hpdo⟩ := r.exists_applyMapping_count n.device.attributes n.device.errors m
        rw [hpdo]
        exact .kept rfl ⟨rfl, rfl, rfl⟩
      · exact .kept rfl ⟨rfl, rfl, rfl⟩
  | reset params attributes hreset => exact absurd hreset he

theorem Tpdo.Stepped.moved [Transport σ] {t t' : Tpdo} (h : t.Stepped n k e t')
    (he : ¬ e.IsReset) : t.params.Moved n n.id (.tpdoComm k) e t'.params := by
  cases h with
  | same => exact .kept rfl (.refl _)
  | requested _ => exact .kept rfl (.refl _)
  | processed now link link' _ =>
      rw [(t.sameSetup_tick _ _ _ _ _ _).params]
      exact .kept rfl (.refl _)
  | comm hwrites hw =>
      rcases writeComm_ok hw with ⟨rfl, w, stored, _, hstored, rfl⟩ | ⟨type, _, rfl⟩ |
        ⟨_, time, rfl⟩ | ⟨time, rfl⟩ | ⟨_, start, _, rfl⟩
      · have hstrip := PdoParams.stripNodeId_of_checkCobIdWrite hstored
        exact .written rfl hwrites hstrip ⟨rfl, rfl, hstrip⟩
      · exact .kept rfl ⟨rfl, rfl, rfl⟩
      · exact .kept rfl (.refl _)
      · exact .kept rfl (.refl _)
      · exact .kept rfl (.refl _)
  | map hw =>
      obtain ⟨_, _, _, ⟨_, m, _, _, rfl⟩ | ⟨_, i, word, rfl⟩⟩ := checkMappingWrite_ok hw
      · obtain ⟨stored, hpdo⟩ := t.exists_applyMapping_count n.device.attributes n.device.errors m
        rw [hpdo]
        exact .kept rfl ⟨rfl, rfl, rfl⟩
      · exact .kept rfl ⟨rfl, rfl, rfl⟩
  | reset params inhibitTime eventTime syncStart attributes hreset => exact absurd hreset he

end step

/-- An entry of a configuration is applied to the item at its position. -/
theorem getElem?_applyEach_of_none {α β : Type} {apply : α → β → β} {cs : List α} {xs : List β}
    {k : Nat} (h : cs[k]? = none) : (applyEach apply cs xs)[k]? = xs[k]? := by
  induction cs generalizing xs k with
  | nil => cases xs <;> rfl
  | cons c cs ih =>
      cases xs with
      | nil => rfl
      | cons x xs =>
          cases k with
          | zero => cases h
          | succ k => exact ih h

namespace Device

variable {d : Device} {p : Parameter} {v v' : PdoIdentity}

/-- A reset puts stored parameters into effect, and changes none of them. -/
theorem identity?_resetCommunication (h : d.resetCommunication.identity? p = some v') :
    ∃ v, d.identity? p = some v ∧ v'.params = v.params := by
  cases p with
  | rpdoComm k =>
      obtain ⟨r', hr', rfl⟩ := Option.map_eq_some_iff.mp h
      rw [resetCommunication_rpdos, List.getElem?_map] at hr'
      obtain ⟨r, hr, rfl⟩ := Option.map_eq_some_iff.mp hr'
      exact ⟨r.identity, Option.map_eq_some_iff.mpr ⟨r, hr, rfl⟩, r.params_restart d.attributes⟩
  | tpdoComm k =>
      obtain ⟨t', ht', rfl⟩ := Option.map_eq_some_iff.mp h
      rw [resetCommunication_tpdos, List.getElem?_map] at ht'
      obtain ⟨t, ht, rfl⟩ := Option.map_eq_some_iff.mp ht'
      exact ⟨t.identity, Option.map_eq_some_iff.mpr ⟨t, ht, rfl⟩, t.params_restart d.attributes⟩
  | _ => cases h

theorem identity?_assignIdentity {offset : UInt8}
    (h : (d.assignIdentity offset).identity? p = some v') :
    ∃ v, d.identity? p = some v ∧ v'.params = v.params.assignIdentity p.predefinedId offset := by
  cases p with
  | rpdoComm k =>
      obtain ⟨r', hr', rfl⟩ := Option.map_eq_some_iff.mp h
      simp only [assignIdentity, List.getElem?_mapIdx] at hr'
      obtain ⟨r, hr, rfl⟩ := Option.map_eq_some_iff.mp hr'
      exact ⟨r.identity, Option.map_eq_some_iff.mpr ⟨r, hr, rfl⟩, rfl⟩
  | tpdoComm k =>
      obtain ⟨t', ht', rfl⟩ := Option.map_eq_some_iff.mp h
      simp only [assignIdentity, List.getElem?_mapIdx] at ht'
      obtain ⟨t, ht, rfl⟩ := Option.map_eq_some_iff.mp ht'
      exact ⟨t.identity, Option.map_eq_some_iff.mpr ⟨t, ht, rfl⟩, rfl⟩
  | _ => cases h

/-- A configuration stores a word for the PDOs that it has entries for. -/
theorem identity?_applyEach {d' : Device} {c : DeviceConfig}
    (hrpdos : d'.rpdos = applyEach RpdoConfig.apply c.rpdos d.rpdos)
    (htpdos : d'.tpdos = applyEach TpdoConfig.apply c.tpdos d.tpdos)
    (h : d'.identity? p = some v') :
    ∃ v, d.identity? p = some v ∧
      (v' = v ∨ c.Configures p ∧ ∃ w, (v.params.setCobId w).SameWord v'.params) := by
  cases p with
  | rpdoComm k =>
      obtain ⟨r', hr', rfl⟩ := Option.map_eq_some_iff.mp h
      rw [hrpdos] at hr'
      cases hc : c.rpdos[k]? with
      | none =>
          rw [getElem?_applyEach_of_none hc] at hr'
          exact ⟨r'.identity, Option.map_eq_some_iff.mpr ⟨r', hr', rfl⟩, .inl rfl⟩
      | some cfg =>
          obtain ⟨r, hr, _⟩ := exists_of_applyEach hr'
          rw [getElem?_applyEach hc hr] at hr'
          obtain rfl := Option.some.inj hr'
          exact ⟨r.identity, Option.map_eq_some_iff.mpr ⟨r, hr, rfl⟩,
            .inr ⟨(List.getElem?_eq_some_iff.mp hc).1, _, ⟨rfl, rfl, rfl⟩⟩⟩
  | tpdoComm k =>
      obtain ⟨t', ht', rfl⟩ := Option.map_eq_some_iff.mp h
      rw [htpdos] at ht'
      cases hc : c.tpdos[k]? with
      | none =>
          rw [getElem?_applyEach_of_none hc] at ht'
          exact ⟨t'.identity, Option.map_eq_some_iff.mpr ⟨t', ht', rfl⟩, .inl rfl⟩
      | some cfg =>
          obtain ⟨t, ht, _⟩ := exists_of_applyEach ht'
          rw [getElem?_applyEach hc ht] at ht'
          obtain rfl := Option.some.inj ht'
          exact ⟨t.identity, Option.map_eq_some_iff.mpr ⟨t, ht, rfl⟩,
            .inr ⟨(List.getElem?_eq_some_iff.mp hc).1, _, ⟨rfl, rfl, rfl⟩⟩⟩
  | _ => cases h

end Device

namespace Node

variable {σ : Type} [Transport σ] {n : Node} {e : Event σ} {p : Parameter} {v v' : PdoIdentity}

/-- No event but a change of the node identifier or a configuration changes the node identifier. -/
theorem id_step (he : ¬ e.IsReset) : (n.step e).id = n.id := by
  cases e with
  | setNodeId id => exact absurd trivial he
  | reset => exact absurd trivial he
  | loadConfig c => exact absurd trivial he
  | _ => rfl

/-- The identity of a PDO when its parameters are given the identity of the node. -/
theorem identity?_setNodeId {id : NodeId} (h : (n.setNodeId id).device.identity? p = some v') :
    ∃ v, n.device.identity? p = some v ∧
      v'.params = v.params.assignIdentity p.predefinedId id.offset := by
  obtain ⟨v₁, hv₁, hparams₁⟩ := Device.identity?_resetCommunication h
  obtain ⟨v, hv, hparams⟩ := Device.identity?_assignIdentity hv₁
  exact ⟨v, hv, hparams₁.trans hparams⟩

theorem identity?_loadConfig {c : DeviceConfig}
    (h : (n.loadConfig c).device.identity? p = some v') :
    ∃ v, n.device.identity? p = some v ∧
      ((v.params.assignIdentity p.predefinedId (n.loadConfig c).id.offset).SameWord v'.params ∨
        c.Configures p ∧ ∃ w, ((v.params.assignIdentity p.predefinedId
          (n.loadConfig c).id.offset).setCobId w).SameWord v'.params) := by
  obtain ⟨d, hd, hrpdos, htpdos⟩ : ∃ d : Device, (n.loadConfig c).device = d.resetCommunication ∧
      d.rpdos = applyEach RpdoConfig.apply c.rpdos
        (n.device.assignIdentity (n.loadConfig c).id.offset).rpdos ∧
      d.tpdos = applyEach TpdoConfig.apply c.tpdos
        (n.device.assignIdentity (n.loadConfig c).id.offset).tpdos := by
    unfold loadConfig
    cases NodeId.ofRaw c.nodeId with
    | ok id => exact ⟨_, rfl, rfl, rfl⟩
    | error e => exact ⟨_, rfl, rfl, rfl⟩
  rw [hd] at h
  obtain ⟨v₁, hv₁, hparams₁⟩ := Device.identity?_resetCommunication h
  rw [hparams₁]
  obtain ⟨v₂, hv₂, happlied⟩ := Device.identity?_applyEach hrpdos htpdos hv₁
  obtain ⟨v, hv, hparams⟩ := Device.identity?_assignIdentity hv₂
  refine ⟨v, hv, ?_⟩
  rw [← hparams]
  rcases happlied with rfl | hconfigured
  · exact .inl (.refl _)
  · exact .inr hconfigured

/-- Every event treats an identifier word in one of the ways of `PdoParams.Moved`. -/
theorem identity_step (h : (n.step e).device.identity? p = some v') :
    ∃ v, n.device.identity? p = some v ∧ v.params.Moved n (n.step e).id p e v'.params := by
  by_cases he : e.IsReset
  · cases e with
    | setNodeId id =>
        obtain ⟨v, hv, hparams⟩ := identity?_setNodeId h
        rw [hparams]
        exact ⟨v, hv, .assigned (.refl _)⟩
    | reset =>
        obtain ⟨v, hv, hparams⟩ := Device.identity?_resetCommunication h
        rw [hparams]
        exact ⟨v, hv, .kept rfl (.refl _)⟩
    | loadConfig c =>
        obtain ⟨v, hv, hassigned | ⟨hconfigures, w, hstored⟩⟩ := identity?_loadConfig h
        · exact ⟨v, hv, .assigned hassigned⟩
        · exact ⟨v, hv, .configured w rfl hconfigures hstored⟩
    | _ => cases he
  · rw [id_step he]
    cases p with
    | rpdoComm k =>
        obtain ⟨r', hr', rfl⟩ := Option.map_eq_some_iff.mp h
        obtain ⟨r, hr, hstep⟩ := rpdo_step hr'
        exact ⟨r.identity, Option.map_eq_some_iff.mpr ⟨r, hr, rfl⟩, hstep.moved he⟩
    | tpdoComm k =>
        obtain ⟨t', ht', rfl⟩ := Option.map_eq_some_iff.mp h
        obtain ⟨t, ht, hstep⟩ := tpdo_step ht'
        exact ⟨t.identity, Option.map_eq_some_iff.mpr ⟨t, ht, rfl⟩, hstep.moved he⟩
    | _ => cases h

theorem exists_identity_step (e : Event σ) (h : n.device.identity? p = some v) :
    ∃ v', (n.step e).device.identity? p = some v' := by
  cases p with
  | rpdoComm k =>
      obtain ⟨r, hr, _⟩ := Option.map_eq_some_iff.mp h
      obtain ⟨r', hr', _⟩ := exists_rpdo_step hr e
      exact ⟨_, Option.map_eq_some_iff.mpr ⟨r', hr', rfl⟩⟩
  | tpdoComm k =>
      obtain ⟨t, ht, _⟩ := Option.map_eq_some_iff.mp h
      obtain ⟨t', ht', _⟩ := exists_tpdo_step ht e
      exact ⟨_, Option.map_eq_some_iff.mpr ⟨t', ht', rfl⟩⟩
  | _ => cases h

/-! ### Runs -/

/-- Every PDO has its pre-defined identifier, and adds the identifier of the node to it. -/
def Identified (n : Node) : Prop :=
  ∀ p v, n.device.identity? p = some v →
    v.params.predefinedId = p.predefinedId ∧ v.params.nodeOffset = n.id.offset

theorem Identified.toNat_lt (h : n.Identified) (hv : n.device.identity? p = some v) :
    v.params.predefinedId.toNat + v.params.nodeOffset.toNat < 2048 := by
  obtain ⟨hpredefined, hoffset⟩ := h p v hv
  rw [hpredefined, hoffset]
  exact p.toNat_predefinedId_add_lt n.id

theorem identified_setNodeId (n : Node) (id : NodeId) : (n.setNodeId id).Identified := by
  intro p v' hv'
  obtain ⟨v, _, hparams⟩ := identity?_setNodeId hv'
  rw [hparams]
  exact v.params.assignIdentity_ids p.predefinedId id.offset

theorem identified_step (n : Node) (e : Event σ) (h : n.Identified) : (n.step e).Identified := by
  intro p v' hv'
  obtain ⟨v, hv, hmoved⟩ := identity_step hv'
  obtain ⟨hpredefined, hoffset⟩ := h p v hv
  obtain ⟨hpredefined', hoffset'⟩ := v.params.assignIdentity_ids p.predefinedId (n.step e).id.offset
  cases hmoved with
  | kept hid hsame =>
      rw [hid]
      exact ⟨hsame.predefinedId.trans hpredefined, hsame.nodeOffset.trans hoffset⟩
  | written hid _ _ hsame =>
      rw [hid]
      exact ⟨hsame.predefinedId.trans hpredefined, hsame.nodeOffset.trans hoffset⟩
  | assigned hsame =>
      exact ⟨hsame.predefinedId.trans hpredefined', hsame.nodeOffset.trans hoffset'⟩
  | configured w _ _ hsame =>
      exact ⟨hsame.predefinedId.trans hpredefined', hsame.nodeOffset.trans hoffset'⟩

theorem identified_start (id : NodeId) (d : Device) : (Node.start id d).Identified :=
  identified_setNodeId ⟨id, none, { d with started := true }⟩ id

theorem identified_run (id : NodeId) (d : Device) (es : List (Event σ)) :
    ((Node.start id d).run es).Identified :=
  run_invariant identified_step (identified_start id d) es

theorem object_step {index : UInt16} (e : Event σ) (h : n.device.object index = .ok (.parameter p)) :
    (n.step e).device.object index = .ok (.parameter p) := by
  rw [Device.object_eq_parameter_iff] at h ⊢
  exact ((n.sameShape_step e).parameter index).trans h

/-- The stored word of a PDO that was configured stays as it is while no other is stored. -/
theorem cobId_step (e : Event σ) (hleaves : e.LeavesWord n p) {w : CobIdWord} (hw : w ≠ .invalidBit)
    (h : ∃ v, n.device.identity? p = some v ∧ v.params.cobId = w) :
    ∃ v, (n.step e).device.identity? p = some v ∧ v.params.cobId = w := by
  obtain ⟨v₀, hv₀, hcobId⟩ := h
  obtain ⟨v', hv'⟩ := exists_identity_step e hv₀
  obtain ⟨v, hv, hmoved⟩ := identity_step hv'
  obtain rfl := Option.some.inj (hv₀.symm.trans hv)
  refine ⟨v', hv', ?_⟩
  cases hmoved with
  | kept _ hsame => exact hsame.cobId.trans hcobId
  | written _ hwrites _ _ => exact absurd hwrites (hleaves.1 _)
  | assigned hsame =>
      have hassigned := PdoParams.cobId_assignIdentity (hcobId ▸ hw) p.predefinedId
        (n.step e).id.offset
      exact hsame.cobId.trans (hassigned.trans hcobId)
  | configured _ he hconfigures _ => exact absurd hconfigures (hleaves.2 _ he)

/-- Every stored word is without the node identifier, where it has one. -/
def Stripped (n : Node) : Prop :=
  ∀ p v, n.device.identity? p = some v → v.params.stripNodeId v.params.cobId = v.params.cobId

theorem stripped_step (n : Node) (e : Event σ) (hid : (n.step e).id.offset = n.id.offset)
    (hidentified : n.Identified) (h : n.Stripped) : (n.step e).Stripped := by
  intro p v' hv'
  obtain ⟨v, hv, hmoved⟩ := identity_step hv'
  have hstripped := h p v hv
  obtain ⟨hpredefined, hoffset⟩ := hidentified p v hv
  have hassigned := PdoParams.stripNodeId_cobId_assignIdentity hpredefined
    (hoffset.trans hid.symm) hstripped
  have hsame : ∃ q : PdoParams, q.SameWord v'.params ∧ q.stripNodeId q.cobId = q.cobId := by
    cases hmoved with
    | kept _ hsame => exact ⟨_, hsame, hstripped⟩
    | written _ _ hstored hsame => exact ⟨_, hsame, hstored⟩
    | assigned hsame => exact ⟨_, hsame, hassigned⟩
    | configured w _ _ hsame => exact ⟨_, hsame, PdoParams.stripNodeId_stripNodeId _ w⟩
  obtain ⟨q, hsame, hq⟩ := hsame
  rw [PdoParams.stripNodeId_congr hsame.predefinedId hsame.nodeOffset, hsame.cobId]
  exact hq

theorem stripped_start (id : NodeId) (rpdos tpdos : Nat) (dictionary : Dictionary) :
    (Node.start id (Device.fresh rpdos tpdos dictionary)).Stripped := by
  intro p v' hv'
  obtain ⟨v, hv, hparams⟩ := identity?_setNodeId
    (n := ⟨id, none, { Device.fresh rpdos tpdos dictionary with started := true }⟩) hv'
  have hfresh : v.params = .fresh := by
    cases p with
    | rpdoComm k =>
        obtain ⟨r, hr, rfl⟩ := Option.map_eq_some_iff.mp hv
        rw [List.eq_of_mem_replicate (List.mem_of_getElem? hr)]
        rfl
    | tpdoComm k =>
        obtain ⟨t, ht, rfl⟩ := Option.map_eq_some_iff.mp hv
        rw [List.eq_of_mem_replicate (List.mem_of_getElem? ht)]
        rfl
    | _ => cases hv
  rw [hparams, hfresh]
  exact PdoParams.stripNodeId_stripNodeId _ _

/-- While a node keeps its identifier, no stored word has it. -/
theorem stripped_run (id : NodeId) (rpdos tpdos : Nat) (dictionary : Dictionary)
    {es : List (Event σ)} (hes : (Node.start id (Device.fresh rpdos tpdos dictionary)).Along
      (fun n e => (n.step e).id.offset = n.id.offset) es) :
    ((Node.start id (Device.fresh rpdos tpdos dictionary)).run es).Stripped := by
  have hstep : ∀ (n : Node) (e : Event σ), (n.step e).id.offset = n.id.offset →
      (n.Identified ∧ n.Stripped) → (n.step e).Identified ∧ (n.step e).Stripped :=
    fun n e he h => ⟨identified_step n e h.1, stripped_step n e he h.1 h.2⟩
  exact (along_invariant hstep hes
    ⟨identified_start id _, stripped_start id rpdos tpdos dictionary⟩).2

end Node

end Canopen
