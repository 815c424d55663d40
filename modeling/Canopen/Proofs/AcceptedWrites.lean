import Canopen.Proofs.Configuration
import Canopen.Proofs.EntryLayout
import Canopen.Proofs.RefusedWrite

/-! # Writes that are accepted

The other side of `RefusedWrite`: which writes to the objects of a disabled PDO pass their checks, and
what each of them does to the PDO (`Device.write_rpdoComm`, `Device.write_rpdoMap` and their
counterparts for transmit PDOs).

An entry that is written is resolved by itself, at the start of the frame.  It passes whenever it is
part of a mapping that can be resolved as a whole (`MappedPdo.exists_resolveEntry_of_resolve`), and
entries that are stored one by one make the same mapping as those of a configuration
(`PdoParams.setMappings_eq_fill`). -/

namespace Canopen

/-! ### Entries by themselves -/

theorem exists_resolveEntry_zero {attributes : Attributes} {direction : Direction}
    {d : MappingDescriptor} {mapped : Nat} {e : ResolvedEntry}
    (h : resolveEntry attributes direction d mapped = .ok e) :
    ∃ e', resolveEntry attributes direction d 0 = .ok e' := by
  obtain ⟨e', he', _⟩ := resolveEntry_eq_ok_iff.mp h
  exact ⟨e', he'⟩

namespace MappedPdo

theorem exists_resolveEntry_of_resolve {attributes : Attributes} {direction : Direction}
    {ds : List MappingDescriptor} {m : MappedPdo} (h : resolve attributes direction ds = .ok m) :
    ∀ d ∈ ds, ∃ e, resolveEntry attributes direction d 0 = .ok e := by
  have key : ∀ (ds : List MappingDescriptor) (m₀ : MappedPdo),
      ds.foldlM (extend attributes direction) m₀ = .ok m →
        ∀ d ∈ ds, ∃ e, resolveEntry attributes direction d 0 = .ok e := by
    intro ds
    induction ds with
    | nil =>
        intro m₀ _ d hd
        cases hd
    | cons d ds ih =>
        intro m₀ h d' hd'
        rw [List.foldlM_cons] at h
        obtain ⟨m₁, h₁, h⟩ := exists_of_bind_eq_ok h
        rcases List.mem_cons.mp hd' with rfl | hd'
        · obtain ⟨e, he, _⟩ := exists_of_bind_eq_ok h₁
          exact exists_resolveEntry_zero he
        · exact ih m₁ h d' hd'
  exact key ds empty h

end MappedPdo

namespace MappingTable

/-- Replace the parameters from a position on, one by one. -/
def fill (t : MappingTable) : Nat → List UInt32 → MappingTable
  | _, [] => t
  | i, w :: ws => (t.set i w).fill (i + 1) ws

theorem words_fill (t : MappingTable) {i : Nat} {ws : List UInt32}
    (h : i + ws.length ≤ maxMappings) :
    (t.fill i ws).words = t.words.take i ++ (ws ++ t.words.drop (i + ws.length)) := by
  induction ws generalizing t i with
  | nil =>
      simp only [fill, List.nil_append, List.length_nil, Nat.add_zero, List.take_append_drop]
  | cons w ws ih =>
      simp only [List.length_cons] at h
      have hi : i < t.words.length := by
        rw [t.length_eq]
        omega
      have htake : (t.words.set i w).take (i + 1) = t.words.take i ++ [w] := by
        rw [List.take_succ_eq_append_getElem (by rw [List.length_set]; exact hi),
          List.take_set_of_le (Nat.le_refl i), List.getElem_set_self]
      have hdrop : (t.words.set i w).drop (i + 1 + ws.length) =
          t.words.drop (i + (ws.length + 1)) := by
        rw [List.drop_set_of_lt (by omega)]
        congr 1
        omega
      have hrest := ih (t.set i w) (i := i + 1) (by omega)
      simp only [fill, List.length_cons]
      rw [hrest]
      show (t.words.set i w).take (i + 1) ++ (ws ++ (t.words.set i w).drop (i + 1 + ws.length)) = _
      rw [htake, hdrop, List.append_assoc]
      rfl

/-- Entry by entry or all at once, the same parameters are stored. -/
theorem fill_zero (t : MappingTable) {ws : List UInt32} (h : ws.length ≤ maxMappings) :
    t.fill 0 ws = t.load ws := by
  apply MappingTable.ext
  have hwords := t.words_fill (show 0 + ws.length ≤ maxMappings by omega)
  rw [hwords]
  simp only [load, List.take_zero, List.nil_append, Nat.zero_add, List.take_of_length_le h]

end MappingTable

namespace PdoParams

variable {ms : List UInt32}

theorem liveMapping_configure (p : PdoParams) (w : Option UInt32) (type : TransmissionType)
    (restrictions : UInt8) (h : ms.length ≤ maxMappings) {attributes : Attributes}
    {direction : Direction} {m : MappedPdo}
    (hm : MappedPdo.resolve attributes direction (ms.map MappingDescriptor.ofWord) = .ok m) :
    (p.configure w type ms restrictions).liveMapping attributes direction
      (p.configure w type ms restrictions).mappingCount = m := by
  unfold liveMapping
  rw [p.resolve_configure w type restrictions h, hm]

theorem toNat_count (h : ms.length ≤ maxMappings) : (UInt8.ofNat ms.length).toNat = ms.length := by
  change ms.length ≤ 8 at h
  rw [UInt8.toNat_ofNat']
  omega

theorem setMappings_eq_fill (p : PdoParams) (h : ms.length ≤ maxMappings) : p.setMappings ms =
    { p with mappings := p.mappings.fill 0 ms, mappingCount := UInt8.ofNat ms.length } := by
  unfold setMappings
  rw [p.mappings.fill_zero h, Nat.min_eq_left h]

/-- As many entries as were stored stand for the mapping as a whole. -/
theorem resolve_fill {p : PdoParams} {t : MappingTable} (hp : p.mappings = t.fill 0 ms)
    (h : ms.length ≤ maxMappings) (attributes : Attributes) (direction : Direction) :
    p.resolve attributes direction (UInt8.ofNat ms.length) =
      MappedPdo.resolve attributes direction (ms.map MappingDescriptor.ofWord) := by
  unfold resolve
  rw [hp, toNat_count h, t.fill_zero h, MappingTable.descriptors_load h]

theorem configure_of_writes {p : PdoParams} {word : Option UInt32} {w : CobIdWord}
    {restrictions : UInt8} (hp : p.restrictions = .none) (h : restrictions = 0)
    (hw : word.getD p.predefinedId.toUInt32 = w) (stored : CobIdWord) (type : TransmissionType)
    (ms : List UInt32) :
    { { p with cobId := stored }.setMappings ms with
      transmissionType := type }.setCobId (p.stripNodeId w) =
        p.configure word type ms restrictions := by
  have hstrip : PdoParams.stripNodeId { { p with cobId := stored }.setMappings ms with
      transmissionType := type } (p.stripNodeId w) = p.stripNodeId w :=
    p.stripNodeId_stripNodeId w
  have hnone : p.restrictions = ⟨restrictions⟩ := by
    rw [hp, h]
    rfl
  unfold setCobId configure
  rw [hstrip, hw, ← hnone]
  rfl

end PdoParams

/-! ### Checks that pass -/

@[simp] theorem wordOfData_ofUInt32 (w : UInt32) : wordOfData (.ofUInt32 w) = .ok w := by
  have hlength := checkLength_eq_ok_iff.mpr (Bytes.length_ofUInt32 w)
  unfold wordOfData
  rw [hlength]
  exact congrArg Except.ok (Bytes.toUInt32_ofUInt32 w)

@[simp] theorem halfOfData_ofUInt16 (v : UInt16) : halfOfData (.ofUInt16 v) = .ok v := by
  have hlength := checkLength_eq_ok_iff.mpr (Bytes.length_ofUInt16 v)
  unfold halfOfData
  rw [hlength]
  exact congrArg Except.ok (Bytes.toUInt16_ofUInt16 v)

@[simp] theorem byteOfData_singleton (b : UInt8) : byteOfData [b] = .ok b :=
  byteOfData_eq_ok_iff.mpr rfl

theorem transmissionTypeOfData_singleton {type : TransmissionType} (h : type.isReserved = false) :
    transmissionTypeOfData [type] = .ok type := by
  have hbyte : byteOfData [type] = .ok type := byteOfData_singleton type
  unfold transmissionTypeOfData
  rw [hbyte]
  show (if type.isReserved = true then _ else _) = _
  rw [h]
  rfl

namespace CobIdWord

theorem hasReservedBits_or_invalidBit (w : CobIdWord) :
    hasReservedBits (w ||| invalidBit) = w.hasReservedBits := by
  have hflag : invalidBit &&& reservedMask = 0 := by decide
  have hmask : (w ||| invalidBit) &&& reservedMask = w &&& reservedMask := by
    apply UInt32.toNat_inj.mp
    have hzero := congrArg UInt32.toNat hflag
    rw [UInt32.toNat_and] at hzero
    rw [UInt32.toNat_and, UInt32.toNat_or, Nat.and_or_distrib_right, hzero, UInt32.toNat_and]
    exact Nat.or_zero _
  unfold hasReservedBits
  rw [hmask]

theorem isInvalid_or_invalidBit (w : CobIdWord) : isInvalid (w ||| invalidBit) = true := by
  unfold isInvalid
  rw [PdoParams.or_and_self_right]
  decide

end CobIdWord

namespace PdoRestrictions

theorem check_of_eq_none {r : PdoRestrictions} (h : r = .none) (readOnly locked : UInt8)
    (nmt : NmtState) : r.check readOnly locked nmt = .ok () := by
  have hclear : ∀ flag, r.has flag = false := by
    intro flag
    simp [h, has, none]
  unfold check
  rw [hclear, hclear]
  rfl

theorem checkComm_of_eq_none {r : PdoRestrictions} (h : r = .none) (nmt : NmtState) :
    r.checkComm nmt = .ok () := check_of_eq_none h _ _ nmt

theorem checkMap_of_eq_none {r : PdoRestrictions} (h : r = .none) (nmt : NmtState) :
    r.checkMap nmt = .ok () := check_of_eq_none h _ _ nmt

end PdoRestrictions

namespace PdoParams

theorem checkCobIdWrite_of_plain (p : PdoParams) {w : CobIdWord} (h : w.hasReservedBits = false) :
    p.checkCobIdWrite w false = .ok (p.stripNodeId w) := by
  unfold checkCobIdWrite
  rw [h]
  rfl

theorem effectiveId_stripNodeId_or_invalidBit {p : PdoParams}
    (hp : p.predefinedId.toNat + p.nodeOffset.toNat < 2048) (w : CobIdWord) (dataLen : Nat) :
    p.effectiveId (p.stripNodeId (w ||| .invalidBit)) dataLen = none := by
  refine Option.isSome_eq_false_iff.mp ?_ |> Option.isNone_iff_eq_none.mp
  refine Bool.eq_false_iff.mpr fun hsome => ?_
  obtain ⟨husable, _⟩ := (isSome_effectiveId_stripNodeId hp _ _).mp hsome
  have henabled := husable.enabled
  rw [CobIdWord.isInvalid_or_invalidBit] at henabled
  cases henabled

end PdoParams

theorem checkMappingWrite_entry {d : Device} {p : PdoParams} {m : MappedPdo}
    (hp : p.restrictions = .none) (hstarted : d.started = true) (hm : m.dataLen = 0)
    {direction : Direction} {i : Nat} (hi : i < maxMappings) {w : UInt32}
    (hw : ∃ e, resolveEntry d.attributes direction (.ofWord w) 0 = .ok e) :
    checkMappingWrite p false m direction d.attributes d.started d.nmt (UInt8.ofNat (i + 1))
      (.ofUInt32 w) = .ok (.entry i w) := by
  obtain ⟨e, he⟩ := hw
  have hpermitted := PdoRestrictions.checkMap_of_eq_none hp d.nmt
  have hword := wordOfData_ofUInt32 w
  change i < 8 at hi
  have hsub : (UInt8.ofNat (i + 1)).toNat = i + 1 := by
    rw [UInt8.toNat_ofNat']
    omega
  have hne : UInt8.ofNat (i + 1) ≠ 0 := by
    intro h0
    rw [h0] at hsub
    cases hsub
  have hle : UInt8.ofNat (i + 1) ≤ 8 := by
    rw [UInt8.le_iff_toNat_le, hsub]
    exact hi
  have hinfo : (Parameter.rpdoMap 0).subInfo (UInt8.ofNat (i + 1)) = .ok SubInfo.u32.readWrite := by
    simp only [Parameter.subInfo, Parameter.subInfo?, if_neg hne, if_pos hle]
  unfold checkMappingWrite
  rw [hinfo, hpermitted, hstarted]
  show (if UInt8.ofNat (i + 1) = 0 then _ else _) = _
  rw [if_neg hne, hword]
  show (if m.dataLen ≠ 0 then _ else _) = _
  rw [if_neg (Decidable.not_not.mpr hm)]
  show (match resolveEntry d.attributes direction (.ofWord w) 0 with | _ => _) = _
  rw [he, hsub]
  rfl

/-! ### One write, one PDO -/

namespace Rpdo

variable {r : Rpdo} (nmt : NmtState)

theorem writeComm_cobId (hp : r.params.restrictions = .none) (w : CobIdWord) :
    r.writeComm nmt 1 (.ofUInt32 w) =
      (r.params.checkCobIdWrite w r.valid).map r.applyCobId := by
  have hpermitted := PdoRestrictions.checkComm_of_eq_none hp nmt
  have hword := wordOfData_ofUInt32 w
  unfold writeComm
  rw [hpermitted, hword]
  show (do
    let w ← r.params.checkCobIdWrite w r.valid
    return r.applyCobId w) = _
  cases r.params.checkCobIdWrite w r.valid with
  | ok stored => rfl
  | error e => rfl

theorem writeComm_word (hp : r.params.restrictions = .none) (hv : r.valid = false) {w : CobIdWord}
    (hw : w.hasReservedBits = false) :
    r.writeComm nmt 1 (.ofUInt32 w) = .ok (r.applyCobId (r.params.stripNodeId w)) := by
  rw [writeComm_cobId nmt hp, hv, r.params.checkCobIdWrite_of_plain hw]
  rfl

theorem writeComm_type (hp : r.params.restrictions = .none) {type : TransmissionType}
    (htype : type.isReserved = false) :
    r.writeComm nmt 2 [type] = .ok (r.applyTransmissionType type) := by
  have hpermitted := PdoRestrictions.checkComm_of_eq_none hp nmt
  have hdata := transmissionTypeOfData_singleton htype
  unfold writeComm
  rw [hpermitted, hdata]
  rfl

end Rpdo

namespace Tpdo

variable {t : Tpdo} (nmt : NmtState)

theorem writeComm_cobId (hp : t.params.restrictions = .none) (w : CobIdWord) :
    t.writeComm nmt 1 (.ofUInt32 w) =
      (t.params.checkCobIdWrite w t.valid).map t.applyCobId := by
  have hpermitted := PdoRestrictions.checkComm_of_eq_none hp nmt
  have hword := wordOfData_ofUInt32 w
  unfold writeComm
  rw [hpermitted, hword]
  show (do
    let w ← t.params.checkCobIdWrite w t.valid
    return t.applyCobId w) = _
  cases t.params.checkCobIdWrite w t.valid with
  | ok stored => rfl
  | error e => rfl

theorem writeComm_word (hp : t.params.restrictions = .none) (hv : t.valid = false) {w : CobIdWord}
    (hw : w.hasReservedBits = false) :
    t.writeComm nmt 1 (.ofUInt32 w) = .ok (t.applyCobId (t.params.stripNodeId w)) := by
  rw [writeComm_cobId nmt hp, hv, t.params.checkCobIdWrite_of_plain hw]
  rfl

theorem writeComm_type (hp : t.params.restrictions = .none) {type : TransmissionType}
    (htype : type.isReserved = false) :
    t.writeComm nmt 2 [type] = .ok (t.applyTransmissionType type) := by
  have hpermitted := PdoRestrictions.checkComm_of_eq_none hp nmt
  have hdata := transmissionTypeOfData_singleton htype
  unfold writeComm
  rw [hpermitted, hdata]
  rfl

theorem writeComm_inhibitTime (hp : t.params.restrictions = .none) (hv : t.valid = false)
    (time : UInt16) : t.writeComm nmt 3 (.ofUInt16 time) = .ok (t.applyInhibitTime time) := by
  have hpermitted := PdoRestrictions.checkComm_of_eq_none hp nmt
  have htime := halfOfData_ofUInt16 time
  unfold writeComm
  rw [hpermitted, htime, hv]
  rfl

theorem writeComm_eventTime (hp : t.params.restrictions = .none) (time : UInt16) :
    t.writeComm nmt 5 (.ofUInt16 time) = .ok (t.applyEventTime time) := by
  have hpermitted := PdoRestrictions.checkComm_of_eq_none hp nmt
  have htime := halfOfData_ofUInt16 time
  unfold writeComm
  rw [hpermitted, htime]
  rfl

theorem writeComm_syncStart (hp : t.params.restrictions = .none) (hv : t.valid = false)
    {start : UInt8} (hstart : start ≤ syncStartMax) :
    t.writeComm nmt 6 [start] = .ok { t with syncStart := start } := by
  have hpermitted := PdoRestrictions.checkComm_of_eq_none hp nmt
  have hbyte := byteOfData_singleton start
  have hlow : decide (syncStartMax < start) = false := decide_eq_false (UInt8.not_lt.mpr hstart)
  unfold writeComm
  rw [hpermitted, hbyte, hv]
  show (if (false || decide (syncStartMax < start)) = true then _ else _) = _
  rw [hlow]
  rfl

end Tpdo

namespace Device

variable {d : Device} {id : ObjectId} {data : Bytes} {k : Nat}

theorem write_rpdoComm_eq {r : Rpdo} (ho : d.object id.index = .ok (.parameter (.rpdoComm k)))
    (hsub : checkCommSub (.rpdoComm k) id.sub = .ok ()) (hr : d.rpdos[k]? = some r) :
    d.write id data =
      d.answer (r.writeComm d.nmt id.sub data) fun r => { d with rpdos := d.rpdos.set k r } := by
  rw [write_parameter ho]
  unfold writeParameter
  dsimp only
  rw [hsub, rpdo_of_getElem? hr]
  rfl

theorem write_rpdoComm {r r' : Rpdo} (ho : d.object id.index = .ok (.parameter (.rpdoComm k)))
    (hsub : checkCommSub (.rpdoComm k) id.sub = .ok ()) (hr : d.rpdos[k]? = some r)
    (hw : r.writeComm d.nmt id.sub data = .ok r') :
    d.write id data = (.ok (), { d with rpdos := d.rpdos.set k r' }) := by
  rw [write_rpdoComm_eq ho hsub hr, hw]
  rfl

theorem write_tpdoComm_eq {t : Tpdo} (ho : d.object id.index = .ok (.parameter (.tpdoComm k)))
    (hsub : checkCommSub (.tpdoComm k) id.sub = .ok ()) (ht : d.tpdos[k]? = some t) :
    d.write id data =
      d.answer (t.writeComm d.nmt id.sub data) fun t => { d with tpdos := d.tpdos.set k t } := by
  rw [write_parameter ho]
  unfold writeParameter
  dsimp only
  rw [hsub, tpdo_of_getElem? ht]
  rfl

theorem write_tpdoComm {t t' : Tpdo} (ho : d.object id.index = .ok (.parameter (.tpdoComm k)))
    (hsub : checkCommSub (.tpdoComm k) id.sub = .ok ()) (ht : d.tpdos[k]? = some t)
    (hw : t.writeComm d.nmt id.sub data = .ok t') :
    d.write id data = (.ok (), { d with tpdos := d.tpdos.set k t' }) := by
  rw [write_tpdoComm_eq ho hsub ht, hw]
  rfl

theorem write_rpdoMap {r r' : Rpdo} {w : MappingWrite} {errors : ErrorStatus}
    (ho : d.object id.index = .ok (.parameter (.rpdoMap k))) (hr : d.rpdos[k]? = some r)
    (hw : checkMappingWrite r.params r.valid r.mapping .receive d.attributes d.started d.nmt id.sub
      data = .ok w) (hmapped : r.applyMapping d.attributes d.errors w = ⟨r', errors, .ok ()⟩) :
    d.write id data = (.ok (), { d with rpdos := d.rpdos.set k r', errors := errors }) := by
  rw [write_parameter ho]
  unfold writeParameter
  dsimp only
  unfold writeRpdoMap
  rw [rpdo_of_getElem? hr]
  dsimp only
  rw [hw]
  dsimp only
  rw [hmapped]
  rfl

theorem write_tpdoMap {t t' : Tpdo} {w : MappingWrite} {errors : ErrorStatus}
    (ho : d.object id.index = .ok (.parameter (.tpdoMap k))) (ht : d.tpdos[k]? = some t)
    (hw : checkMappingWrite t.params t.valid t.mapping .transmit d.attributes d.started d.nmt id.sub
      data = .ok w) (hmapped : t.applyMapping d.attributes d.errors w = ⟨t', errors, .ok ()⟩) :
    d.write id data = (.ok (), { d with tpdos := d.tpdos.set k t', errors := errors }) := by
  rw [write_parameter ho]
  unfold writeParameter
  dsimp only
  unfold writeTpdoMap
  rw [tpdo_of_getElem? ht]
  dsimp only
  rw [hw]
  dsimp only
  rw [hmapped]
  rfl

end Device

end Canopen
