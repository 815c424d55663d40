import Canopen.Proofs.PartialReads
import Canopen.Proofs.MappingReset

/-! # Protected parameters

Four bits of the restrictions of a PDO protect its parameters against writes to the dictionary.  Two of
them make the communication or the mapping parameters read-only, the other two lock them while the node
is operational.  Only the routines that carry out a write look at these bits, each of them before
anything else; so it has to be shown that nothing but a permitted write or a reset changes a parameter,
or what the PDO is configured to by it (`Rpdo.Stepped.guarded`, `Tpdo.Stepped.guarded`).

The communication and the mapping parameters of a PDO are told apart by the objects that show them
(`Device.guarded?`). -/

namespace Canopen

/-! ### Flags -/

/-- The flag that makes the parameters of an object read-only. -/
def Parameter.readOnlyFlag : Parameter → UInt8
  | rpdoComm _ | tpdoComm _ => PdoRestrictions.commReadOnly
  | rpdoMap _ | tpdoMap _ => PdoRestrictions.mapReadOnly
  | _ => 0

/-- The flag that locks the parameters of an object while the node is operational. -/
def Parameter.lockFlag : Parameter → UInt8
  | rpdoComm _ | tpdoComm _ => PdoRestrictions.commLocked
  | rpdoMap _ | tpdoMap _ => PdoRestrictions.mapLocked
  | _ => 0

namespace PdoRestrictions

/-- Are the parameters of an object protected in this operating state? -/
def checkFor (r : PdoRestrictions) (p : Parameter) (nmt : NmtState) : Except AbortCode Unit :=
  r.check p.readOnlyFlag p.lockFlag nmt

variable {r : PdoRestrictions} {p : Parameter} {nmt : NmtState}

theorem checkFor_of_readOnly (h : r.has p.readOnlyFlag = true) : r.checkFor p nmt = .error .readOnly :=
  if_pos h

theorem checkFor_of_locked (h : r.has p.lockFlag = true) :
    r.checkFor p .operational =
      .error (if r.has p.readOnlyFlag then .readOnly else .cantStoreDeviceState) := by
  unfold checkFor check
  rw [h]
  split
  · rfl
  · rfl

end PdoRestrictions

/-! ### Parameters and what they are in effect as -/

/-- The parameters that an object of a PDO shows, as they are stored, and what the PDO is configured to
by them. -/
inductive ParameterGroup where
  | reception (cobId : CobIdWord) (type : TransmissionType) (valid : Bool)
      (identifier : Option CanId) (synchronous : Bool)
  | transmission (cobId : CobIdWord) (type : TransmissionType) (inhibitTime eventTime : UInt16)
      (syncStart : UInt8) (valid : Bool) (identifier : Option CanId)
  | mapping (count : UInt8) (entries : MappingTable) (live : MappedPdo)
deriving DecidableEq, Repr

/-- A group of parameters, and the restrictions of the PDO that has them. -/
structure Guarded where
  restrictions : PdoRestrictions
  group : ParameterGroup
deriving DecidableEq, Repr

def Rpdo.commGroup (r : Rpdo) : ParameterGroup :=
  .reception r.params.cobId r.params.transmissionType r.valid r.cobId r.synchronous

def Rpdo.mapGroup (r : Rpdo) : ParameterGroup :=
  .mapping r.params.mappingCount r.params.mappings r.mapping

def Tpdo.commGroup (t : Tpdo) : ParameterGroup :=
  .transmission t.params.cobId t.params.transmissionType t.inhibitTime t.eventTime t.syncStart t.valid
    t.cobId

def Tpdo.mapGroup (t : Tpdo) : ParameterGroup :=
  .mapping t.params.mappingCount t.params.mappings t.mapping

/-- The parameters that an object shows, if it is one of a PDO. -/
def Device.guarded? (d : Device) : Parameter → Option Guarded
  | .rpdoComm k => d.rpdos[k]?.map fun r => ⟨r.params.restrictions, r.commGroup⟩
  | .rpdoMap k => d.rpdos[k]?.map fun r => ⟨r.params.restrictions, r.mapGroup⟩
  | .tpdoComm k => d.tpdos[k]?.map fun t => ⟨t.params.restrictions, t.commGroup⟩
  | .tpdoMap k => d.tpdos[k]?.map fun t => ⟨t.params.restrictions, t.mapGroup⟩
  | _ => none

/-! ### Events -/

section step
variable {σ : Type} {n : Node} {k : Nat} {e : Event σ}

theorem Rpdo.checkComm_of_writeComm {r r' : Rpdo} {nmt : NmtState} {sub : UInt8} {data : Bytes}
    (h : r.writeComm nmt sub data = .ok r') : r.params.restrictions.checkComm nmt = .ok () := by
  obtain ⟨_, hpermitted, _⟩ := exists_of_bind_eq_ok h
  exact hpermitted

theorem Tpdo.checkComm_of_writeComm {t t' : Tpdo} {nmt : NmtState} {sub : UInt8} {data : Bytes}
    (h : t.writeComm nmt sub data = .ok t') : t.params.restrictions.checkComm nmt = .ok () := by
  obtain ⟨_, hpermitted, _⟩ := exists_of_bind_eq_ok h
  exact hpermitted

/-- Parameters of a receive PDO are changed by a reset or by a write that the restrictions permit, and
the restrictions by a reset alone. -/
theorem Rpdo.Stepped.guarded {r r' : Rpdo} (h : r.Stepped n k e r') (he : ¬ e.IsReset) :
    r'.params.restrictions = r.params.restrictions ∧
      (r'.commGroup = r.commGroup ∨ r.params.restrictions.checkComm n.device.nmt = .ok ()) ∧
      (r'.mapGroup = r.mapGroup ∨ r.params.restrictions.checkMap n.device.nmt = .ok ()) := by
  cases h with
  | same => exact ⟨rfl, .inl rfl, .inl rfl⟩
  | taken syncOccurred toggle =>
      obtain ⟨s, hs⟩ := r.exists_slots_of_take syncOccurred toggle n.device.nmt
      rw [hs]
      exact ⟨rfl, .inl rfl, .inl rfl⟩
  | staged f _ _ _ => exact ⟨rfl, .inl rfl, .inl rfl⟩
  | comm _ hw =>
      have hpermitted := checkComm_of_writeComm hw
      rcases writeComm_ok hw with ⟨_, w, stored, _, _, rfl⟩ | ⟨_, t, _, rfl⟩
      · exact ⟨rfl, .inr hpermitted, .inl rfl⟩
      · exact ⟨rfl, .inr hpermitted, .inl rfl⟩
  | @map _ _ w hw =>
      have hpermitted := (checkMappingWrite_ok hw).1
      cases w with
      | entry i w => exact ⟨rfl, .inl rfl, .inr hpermitted⟩
      | count count =>
          obtain ⟨stored, hpdo⟩ := r.exists_applyMapping_count n.device.attributes n.device.errors count
          rw [hpdo]
          exact ⟨rfl, .inl rfl, .inr hpermitted⟩
  | reset params attributes hreset => exact absurd hreset he

theorem Tpdo.Stepped.guarded [Transport σ] {t t' : Tpdo} (h : t.Stepped n k e t')
    (he : ¬ e.IsReset) : t'.params.restrictions = t.params.restrictions ∧
      (t'.commGroup = t.commGroup ∨ t.params.restrictions.checkComm n.device.nmt = .ok ()) ∧
      (t'.mapGroup = t.mapGroup ∨ t.params.restrictions.checkMap n.device.nmt = .ok ()) := by
  cases h with
  | same => exact ⟨rfl, .inl rfl, .inl rfl⟩
  | requested _ => exact ⟨rfl, .inl rfl, .inl rfl⟩
  | processed now link link' _ =>
      have hsame := t.sameSetup_tick (n.tick now link).2.1.device.dictionary
        (n.device.syncTick (Micros.elapsed n.lastTick now)).next
        (n.device.syncOccurs (Micros.elapsed n.lastTick now)) (Micros.elapsed n.lastTick now)
        n.device.nmt link'
      refine ⟨congrArg PdoParams.restrictions hsame.params, .inl ?_, .inl ?_⟩
      · unfold commGroup cobId
        rw [hsame.params, hsame.inhibitTime, hsame.eventTime, hsame.syncStart, hsame.valid, hsame.id]
      · unfold mapGroup
        rw [hsame.params, hsame.mapping]
  | comm _ hw =>
      have hpermitted := checkComm_of_writeComm hw
      rcases writeComm_ok hw with ⟨_, w, stored, _, _, rfl⟩ | ⟨type, _, rfl⟩ | ⟨_, time, rfl⟩ |
        ⟨time, rfl⟩ | ⟨_, start, _, rfl⟩
      · exact ⟨rfl, .inr hpermitted, .inl rfl⟩
      · exact ⟨rfl, .inr hpermitted, .inl rfl⟩
      · exact ⟨rfl, .inr hpermitted, .inl rfl⟩
      · exact ⟨rfl, .inr hpermitted, .inl rfl⟩
      · exact ⟨rfl, .inr hpermitted, .inl rfl⟩
  | @map _ _ w hw =>
      have hpermitted := (checkMappingWrite_ok hw).1
      cases w with
      | entry i w => exact ⟨rfl, .inl rfl, .inr hpermitted⟩
      | count count =>
          obtain ⟨stored, hpdo⟩ := t.exists_applyMapping_count n.device.attributes n.device.errors count
          rw [hpdo]
          exact ⟨rfl, .inl rfl, .inr hpermitted⟩
  | reset params inhibitTime eventTime syncStart attributes hreset => exact absurd hreset he

end step

/-! ### Writes -/

/-- A write to a sub object that holds a value of the given size is refused with a code, and changes
nothing.  Leading bytes that are more than the value has are refused for being too many. -/
structure Device.Refuses (d : Device) (id : ObjectId) (size : Nat) (code : AbortCode) : Prop where
  whole : ∀ data, d.write id data = (.error code, d)
  leading : ∀ data : Bytes, data.length ≤ size → d.writeLeading id data = (.error code, d)
  tooLong : ∀ data : Bytes, size < data.length →
    d.writeLeading id data = (.error .lengthTooHigh, d)

theorem Parameter.size_le {p : Parameter} {sub : UInt8} {info : SubInfo}
    (h : p.subInfo sub = .ok info) : info.size ≤ maxCompletedSize := by
  unfold subInfo at h
  split at h
  · rename_i i hi
    obtain rfl := Except.ok.inj h
    unfold subInfo? at hi
    cases p <;> dsimp only at hi <;> repeat' split at hi
    all_goals cases hi
    all_goals decide
  · cases h

section refused
variable {nmt : NmtState} {sub : UInt8} {info : SubInfo} {code : AbortCode}

theorem Rpdo.writeComm_of_error {r : Rpdo} (h : r.params.restrictions.checkComm nmt = .error code)
    (data : Bytes) : r.writeComm nmt sub data = .error code := by
  unfold writeComm
  rw [h]
  rfl

theorem Tpdo.writeComm_of_error {t : Tpdo} (h : t.params.restrictions.checkComm nmt = .error code)
    (data : Bytes) : t.writeComm nmt sub data = .error code := by
  unfold writeComm
  rw [h]
  rfl

theorem checkMappingWrite_of_error {params : PdoParams}
    (h : params.restrictions.checkMap nmt = .error code)
    (hinfo : (Parameter.rpdoMap 0).subInfo sub = .ok info) (valid : Bool) (m : MappedPdo)
    (direction : Direction) (attributes : Attributes) (started : Bool) (data : Bytes) :
    checkMappingWrite params valid m direction attributes started nmt sub data = .error code := by
  unfold checkMappingWrite
  rw [hinfo, h]
  rfl

end refused

namespace Device

variable {d : Device} {p : Parameter} {g : Guarded} {sub : UInt8} {info : SubInfo}
  {code : AbortCode}

theorem hasPdo_of_guarded (h : d.guarded? p = some g) : d.HasPdo p := by
  cases p with
  | rpdoComm k | rpdoMap k =>
      obtain ⟨r, hr, _⟩ := Option.map_eq_some_iff.mp h
      exact (List.getElem?_eq_some_iff.mp hr).1
  | tpdoComm k | tpdoMap k =>
      obtain ⟨t, ht, _⟩ := Option.map_eq_some_iff.mp h
      exact (List.getElem?_eq_some_iff.mp ht).1
  | _ => cases h

theorem writeParameter_guarded (hg : d.guarded? p = some g) (hinfo : p.subInfo sub = .ok info)
    (hwritable : info.access.isWritable = true)
    (hcode : g.restrictions.checkFor p d.nmt = .error code) (data : Bytes) :
    d.writeParameter p sub data = (.error code, d) := by
  have hsub : checkCommSub p sub = .ok () := by
    unfold checkCommSub
    rw [hinfo]
    exact if_pos hwritable
  unfold writeParameter
  cases p with
  | rpdoComm k =>
      obtain ⟨r, hr, rfl⟩ := Option.map_eq_some_iff.mp hg
      dsimp only
      rw [hsub, rpdo_of_getElem? hr]
      show d.answer (r.writeComm d.nmt sub data) _ = _
      rw [Rpdo.writeComm_of_error hcode]
      rfl
  | tpdoComm k =>
      obtain ⟨t, ht, rfl⟩ := Option.map_eq_some_iff.mp hg
      dsimp only
      rw [hsub, tpdo_of_getElem? ht]
      show d.answer (t.writeComm d.nmt sub data) _ = _
      rw [Tpdo.writeComm_of_error hcode]
      rfl
  | rpdoMap k =>
      obtain ⟨r, hr, rfl⟩ := Option.map_eq_some_iff.mp hg
      dsimp only
      unfold writeRpdoMap
      rw [rpdo_of_getElem? hr]
      dsimp only
      rw [checkMappingWrite_of_error hcode hinfo]
  | tpdoMap k =>
      obtain ⟨t, ht, rfl⟩ := Option.map_eq_some_iff.mp hg
      dsimp only
      unfold writeTpdoMap
      rw [tpdo_of_getElem? ht]
      dsimp only
      rw [checkMappingWrite_of_error hcode hinfo]
  | _ => cases hg

/-- A protected parameter is not written, whichever way it is tried. -/
theorem refuses_of_guarded {id : ObjectId} (hg : d.guarded? p = some g)
    (ho : d.object id.index = .ok (.parameter p)) (hinfo : p.subInfo id.sub = .ok info)
    (hwritable : info.access.isWritable = true)
    (hcode : g.restrictions.checkFor p d.nmt = .error code) : d.Refuses id info.size code where
  whole data := by
    rw [write_parameter ho]
    exact writeParameter_guarded hg hinfo hwritable hcode data
  leading data hle := by
    obtain ⟨value, hvalue⟩ : ∃ value, completeValue info.size (d.read id 0) data = .ok value := by
      obtain ⟨present, hpresent⟩ := parameterBytes_eq_ok_iff.mpr ⟨hasPdo_of_guarded hg, info, hinfo⟩
      have hread := readPart_parameter ho hpresent 0 info.size
      unfold completeValue
      by_cases hwhole : data.length = info.size
      · exact ⟨data, if_pos hwhole⟩
      · rw [if_neg hwhole, if_neg (Nat.not_lt.mpr hle),
          if_neg (Nat.not_lt.mpr (Parameter.size_le hinfo)), hread]
        exact ⟨_, rfl⟩
    rw [writeLeading_eq ho hinfo hvalue]
    exact writeParameter_guarded hg hinfo hwritable hcode value
  tooLong data hlt := by
    have hvalue : (do
        let info ← p.subInfo id.sub
        completeValue info.size (d.read id 0) data) = .error .lengthTooHigh := by
      rw [hinfo]
      show completeValue info.size (d.read id 0) data = _
      unfold completeValue
      rw [if_neg (by omega), if_pos hlt]
    unfold writeLeading
    rw [ho]
    dsimp only
    rw [hvalue]

end Device

namespace Node

variable {σ : Type} [Transport σ] {n : Node} {k : Nat} {p : Parameter} {g : Guarded}

/-- An event that is no reset keeps the restrictions, and changes the parameters only if these permit
it. -/
theorem guarded_step (e : Event σ) (he : ¬ e.IsReset) (hg : n.device.guarded? p = some g) :
    ∃ g', (n.step e).device.guarded? p = some g' ∧ g'.restrictions = g.restrictions ∧
      (g'.group = g.group ∨ g.restrictions.checkFor p n.device.nmt = .ok ()) := by
  cases p with
  | rpdoComm k =>
      obtain ⟨r, hr, rfl⟩ := Option.map_eq_some_iff.mp hg
      obtain ⟨r', hr', hstep⟩ := exists_rpdo_step hr e
      obtain ⟨hrestrictions, hcomm, _⟩ := hstep.guarded he
      exact ⟨_, Option.map_eq_some_iff.mpr ⟨r', hr', rfl⟩, hrestrictions, hcomm⟩
  | rpdoMap k =>
      obtain ⟨r, hr, rfl⟩ := Option.map_eq_some_iff.mp hg
      obtain ⟨r', hr', hstep⟩ := exists_rpdo_step hr e
      obtain ⟨hrestrictions, _, hmap⟩ := hstep.guarded he
      exact ⟨_, Option.map_eq_some_iff.mpr ⟨r', hr', rfl⟩, hrestrictions, hmap⟩
  | tpdoComm k =>
      obtain ⟨t, ht, rfl⟩ := Option.map_eq_some_iff.mp hg
      obtain ⟨t', ht', hstep⟩ := exists_tpdo_step ht e
      obtain ⟨hrestrictions, hcomm, _⟩ := hstep.guarded he
      exact ⟨_, Option.map_eq_some_iff.mpr ⟨t', ht', rfl⟩, hrestrictions, hcomm⟩
  | tpdoMap k =>
      obtain ⟨t, ht, rfl⟩ := Option.map_eq_some_iff.mp hg
      obtain ⟨t', ht', hstep⟩ := exists_tpdo_step ht e
      obtain ⟨hrestrictions, _, hmap⟩ := hstep.guarded he
      exact ⟨_, Option.map_eq_some_iff.mpr ⟨t', ht', rfl⟩, hrestrictions, hmap⟩
  | _ => cases hg

theorem guarded_step_of_error {e : Event σ} (he : ¬ e.IsReset) (hg : n.device.guarded? p = some g)
    {code : AbortCode} (hcode : g.restrictions.checkFor p n.device.nmt = .error code) :
    (n.step e).device.guarded? p = some g := by
  obtain ⟨g', hg', hrestrictions, hgroup | hpermitted⟩ := guarded_step e he hg
  · obtain ⟨restrictions, group⟩ := g
    obtain ⟨restrictions', group'⟩ := g'
    obtain rfl : restrictions' = restrictions := hrestrictions
    obtain rfl : group' = group := hgroup
    exact hg'
  · rw [hcode] at hpermitted
    cases hpermitted

/-- What a run without resets leaves of a group of parameters. -/
theorem guarded_run {es : List (Event σ)} (hes : n.Along (fun _ e => ¬ e.IsReset) es)
    (hg : n.device.guarded? p = some g) :
    ∃ g', (n.run es).device.guarded? p = some g' ∧ g'.restrictions = g.restrictions ∧
      (g.restrictions.has p.readOnlyFlag = true → g' = g) := by
  refine along_invariant (I := fun m => ∃ g', m.device.guarded? p = some g' ∧
    g'.restrictions = g.restrictions ∧ (g.restrictions.has p.readOnlyFlag = true → g' = g))
    ?_ hes ⟨g, hg, rfl, fun _ => rfl⟩
  rintro m e he ⟨g₁, hg₁, hrestrictions, hkept⟩
  obtain ⟨g₂, hg₂, hrestrictions', _⟩ := guarded_step e he hg₁
  refine ⟨g₂, hg₂, hrestrictions'.trans hrestrictions, fun hflag => ?_⟩
  obtain rfl := hkept hflag
  have hsame := guarded_step_of_error he hg₁ (PdoRestrictions.checkFor_of_readOnly hflag)
  exact Option.some.inj (hg₂.symm.trans hsame)

/-- **Restrictions hold against whatever is written.**  This is about every group of parameters of
every PDO, and every run without resets.  The restrictions stay as they are.  Parameters that are
read-only, and what the PDO is configured to by them, never change; those that are locked do not change
at an event which the node meets while it is operational.  At any point of the run, writes to the sub
objects that show protected parameters are refused and change nothing, as read-only if they are. -/
theorem restrictions_protect {es : List (Event σ)} (hes : n.Along (fun _ e => ¬ e.IsReset) es)
    (hg : n.device.guarded? p = some g) :
    let d := (n.run es).device
    let readOnly := g.restrictions.has p.readOnlyFlag = true
    let locked := g.restrictions.has p.lockFlag = true
    ∃ g', d.guarded? p = some g' ∧ g'.restrictions = g.restrictions ∧
      (readOnly → g'.group = g.group) ∧
      (locked → d.nmt = .operational → ∀ e : Event σ, ¬ e.IsReset →
        ((n.run es).step e).device.guarded? p = some g') ∧
      ∀ {id : ObjectId} {info : SubInfo}, d.object id.index = .ok (.parameter p) →
        p.subInfo id.sub = .ok info → info.access.isWritable = true →
        (readOnly → d.Refuses id info.size .readOnly) ∧
          (¬ readOnly → locked → d.nmt = .operational →
            d.Refuses id info.size .cantStoreDeviceState) := by
  intro d readOnly locked
  obtain ⟨g', hg', hrestrictions, hkept⟩ := guarded_run hes hg
  refine ⟨g', hg', hrestrictions, fun hflag => congrArg Guarded.group (hkept hflag), ?_, ?_⟩
  · intro hflag hnmt e he
    have hcode := PdoRestrictions.checkFor_of_locked hflag
    rw [← hrestrictions, ← hnmt] at hcode
    exact guarded_step_of_error he hg' hcode
  · intro id info ho hinfo hwritable
    constructor
    · intro hflag
      refine Device.refuses_of_guarded hg' ho hinfo hwritable ?_
      rw [hrestrictions]
      exact PdoRestrictions.checkFor_of_readOnly hflag
    · intro hnot hflag hnmt
      have hcode := PdoRestrictions.checkFor_of_locked hflag
      rw [if_neg hnot, ← hrestrictions, ← hnmt] at hcode
      exact Device.refuses_of_guarded hg' ho hinfo hwritable hcode

/-! ### A receive PDO that is read-only, and a transmit PDO that is locked -/

/-- A byte, and the objects of two PDOs. -/
def guardedObjects : Dictionary :=
  let byte := AppObject.var (SubInfo.u8.readWrite.mappable .both) (.ofNumber .u8 0)
  ⟨[⟨0x1400, .parameter (.rpdoComm 0)⟩, ⟨0x1600, .parameter (.rpdoMap 0)⟩,
    ⟨0x1800, .parameter (.tpdoComm 0)⟩, ⟨0x1A00, .parameter (.tpdoMap 0)⟩,
    ⟨0x2000, .application byte⟩]⟩

/-- An operational node with a receive PDO whose parameters are read-only, and a transmit PDO whose
parameters are locked. -/
def guard : Node :=
  (Node.start .unconfigured (Device.fresh 1 1 guardedObjects)).run (σ := Bus)
    [.loadConfig { DeviceConfig.initial with
      nodeId := 1
      rpdos := [⟨none, 254, [0x20000008], 0x0C⟩]
      tpdos := [⟨none, 254, 10, 0, 0, [0x20000008], 0x03⟩] }, .setNmt .operational]

/-- Attempts to disable both PDOs and to take their mappings away. -/
def assaults : List (Event Bus) :=
  [.write ⟨0x1400, 1⟩ (.ofUInt32 0x80000201), .write ⟨0x1600, 0⟩ [0],
    .write ⟨0x1800, 1⟩ (.ofUInt32 0x80000181), .write ⟨0x1A00, 0⟩ [0]]

/-- The receive PDO keeps its identifier through the attempts, and the mapping of neither PDO can be
taken away afterwards.  Leading bytes are no way around that. -/
theorem restrictions_protect_guard :
    let d := (guard.run assaults).device
    (d.guarded? (.rpdoComm 0)).map Guarded.group =
        some (.reception 0x200 254 true (some (.std 0x201)) false) ∧
      d.write ⟨0x1600, 0⟩ [0] = (.error .readOnly, d) ∧
      d.writeLeading ⟨0x1400, 1⟩ [0] = (.error .readOnly, d) ∧
      d.write ⟨0x1A00, 0⟩ [0] = (.error .cantStoreDeviceState, d) ∧
      ((guard.run assaults).step (.write ⟨0x1A00, 0⟩ [0] : Event Bus)).device.guarded? (.tpdoMap 0) =
        d.guarded? (.tpdoMap 0) := by
  intro d
  have hes : guard.Along (fun _ e => ¬ e.IsReset) assaults := ⟨nofun, nofun, nofun, nofun, trivial⟩
  have hrpdo : guard.device.guarded? (.rpdoComm 0) =
      some ⟨⟨0x0C⟩, .reception 0x200 254 true (some (.std 0x201)) false⟩ := rfl
  obtain ⟨g, hg, _, hkept, _, hcomm⟩ := restrictions_protect hes hrpdo
  obtain ⟨_, _, _, _, _, hrpdoMap⟩ := restrictions_protect hes
    (show guard.device.guarded? (.rpdoMap 0) = some _ from rfl)
  obtain ⟨g', hg', _, _, hstep, htpdoMap⟩ := restrictions_protect hes
    (show guard.device.guarded? (.tpdoMap 0) = some _ from rfl)
  refine ⟨?_, ((hrpdoMap rfl rfl rfl).1 rfl).whole [0],
    ((hcomm rfl rfl rfl).1 rfl).leading [0] (by decide),
    ((htpdoMap rfl rfl rfl).2 (by decide) rfl rfl).whole [0],
    (hstep rfl rfl (.write ⟨0x1A00, 0⟩ [0]) nofun).trans hg'.symm⟩
  rw [hg, Option.map_some, hkept rfl]

end Node

end Canopen
