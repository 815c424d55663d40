import Canopen.Proofs.DictionaryConfiguration
import Canopen.Proofs.PdoIdentity

/-! # Transmission types and start values that may not be used

Most transmission types above 240 are reserved, and no SYNC start value may be above 240.  A transmit
PDO with such a parameter is left invalid by a reset, and a write of such a parameter is refused.  But
a configuration stores what it says, and an accepted write of the identifier word makes the PDO valid
without a look at these parameters.

Nothing else does (`Tpdo.Stepped.irregular`).  So every valid PDO has parameters that may be used
exactly as long as no such write comes, and none comes if all configurations have passed their check
(`valid_schedulable_iff`). -/

namespace Canopen

/-! ### One PDO -/

theorem PdoParams.eq_stripNodeId_of_checkCobIdWrite {p : PdoParams} {w stored : CobIdWord}
    {valid : Bool} (h : p.checkCobIdWrite w valid = .ok stored) : stored = p.stripNodeId w := by
  unfold checkCobIdWrite at h
  dsimp only at h
  split at h
  · cases h
  · split at h
    · cases h
    · exact (Except.ok.inj h).symm

namespace Tpdo

theorem isSchedulable_iff (t : Tpdo) : t.isSchedulable = true ↔
    (t.params.transmissionType ≤ 240 ∨ 254 ≤ t.params.transmissionType) ∧ t.syncStart ≤ 240 := by
  unfold isSchedulable TransmissionType.isReserved
  rw [Bool.and_eq_true, Bool.not_eq_true', Bool.and_eq_false_iff, decide_eq_false_iff_not,
    decide_eq_false_iff_not, decide_eq_true_iff, UInt8.not_lt, UInt8.not_lt]
  exact Iff.rfl

/-- A PDO that is valid with a transmission type or a start value that may not be used. -/
structure Irregular (t : Tpdo) : Prop where
  valid : t.valid = true
  unschedulable : t.isSchedulable = false

variable {t t' : Tpdo}

theorem isSchedulable_of_sameSetup (h : t.SameSetup t') : t'.isSchedulable = t.isSchedulable := by
  unfold isSchedulable
  rw [h.params, h.syncStart]

theorem Irregular.of_sameSetup (h' : t'.Irregular) (h : t.SameSetup t') : t.Irregular :=
  ⟨h.valid.symm.trans h'.valid, (isSchedulable_of_sameSetup h).symm.trans h'.unschedulable⟩

/-- Putting the parameters into effect changes none of them. -/
theorem isSchedulable_restart (t : Tpdo) (attributes : Attributes) :
    (t.restart attributes).isSchedulable = t.isSchedulable := by
  unfold restart reset
  simp only [configureMapping_pdo]
  rfl

/-- A reset does not make a PDO valid whose parameters may not be used. -/
theorem not_irregular_restart (t : Tpdo) (attributes : Attributes) :
    ¬ (t.restart attributes).Irregular := by
  intro h
  have hsched := h.unschedulable
  rw [isSchedulable_restart] at hsched
  have hvalid := h.valid
  unfold restart reset at hvalid
  simp only [configureMapping_pdo, hsched, Bool.false_eq_true, ↓reduceIte] at hvalid
  change (t.params.effectiveId _ _).isSome = true at hvalid
  rw [PdoParams.effectiveId_or_invalidBit] at hvalid
  cases hvalid

/-- Mapping parameters make no PDO valid, and do not concern the schedule. -/
theorem applyMapping_kept (t : Tpdo) (attributes : Attributes) (errors : ErrorStatus)
    (w : MappingWrite) :
    (t.applyMapping attributes errors w).pdo.valid = t.valid ∧
      (t.applyMapping attributes errors w).pdo.isSchedulable = t.isSchedulable := by
  cases w with
  | entry i w => exact ⟨rfl, rfl⟩
  | count count =>
      obtain ⟨_, hpdo⟩ := t.exists_applyMapping_count attributes errors count
      rw [hpdo]
      exact ⟨rfl, rfl⟩

theorem of_writeComm_cobId {nmt : NmtState} {data : Bytes} (h : t.writeComm nmt 1 data = .ok t') :
    ∃ w, wordOfData data = .ok w ∧ t' = t.applyCobId (t.params.stripNodeId w) := by
  obtain ⟨_, _, h⟩ := exists_of_bind_eq_ok h
  obtain ⟨w, hw, h⟩ := exists_of_bind_eq_ok h
  obtain ⟨stored, hs, h⟩ := exists_of_bind_eq_ok h
  refine ⟨w, hw, ?_⟩
  rw [← PdoParams.eq_stripNodeId_of_checkCobIdWrite hs]
  exact (Except.ok.inj h).symm

end Tpdo

/-! ### Events -/

/-- The event is an accepted write of an identifier word that can be used, to a transmit PDO whose
transmission type or start value cannot. -/
def Event.EnablesIrregular {σ : Type} (n : Node) (k : Nat) (e : Event σ) : Prop :=
  ∃ t data w, n.device.tpdos[k]? = some t ∧ t.isSchedulable = false ∧
    e.Writes n (.tpdoComm k) 1 data ∧ wordOfData data = .ok w ∧
    (t.params.effectiveId (t.params.stripNodeId w) t.mapping.dataLen).isSome = true

section step
variable {σ : Type} [Transport σ] {n : Node} {k : Nat} {e : Event σ} {t t' : Tpdo}

/-- Nothing but a write of the identifier word makes a PDO valid whose parameters may not be used. -/
theorem Tpdo.Stepped.irregular (h : t.Stepped n k e t') (ht : n.device.tpdos[k]? = some t)
    (h' : t'.Irregular) : t.Irregular ∨ e.EnablesIrregular n k := by
  cases h with
  | same => exact .inl h'
  | requested _ => exact .inl (h'.of_sameSetup t.sameSetup_requestSend)
  | processed _ _ _ _ => exact .inl (h'.of_sameSetup (t.sameSetup_tick _ _ _ _ _ _))
  | @comm sub data _ hwrites hw =>
      rcases writeComm_ok hw with ⟨rfl, w, stored, hdata, hstored, rfl⟩ | ⟨type, htype, rfl⟩ |
        ⟨hv, _, rfl⟩ | ⟨_, rfl⟩ | ⟨hv, _, _, rfl⟩
      · have hvalid : (t.params.effectiveId stored t.mapping.dataLen).isSome = true := h'.valid
        rw [PdoParams.eq_stripNodeId_of_checkCobIdWrite hstored] at hvalid
        exact .inr ⟨t, data, w, ht, h'.unschedulable, hwrites, hdata, hvalid⟩
      · -- the start value is the one that may not be used, and it is as before
        have hstart : decide (t.syncStart ≤ syncStartMax) = false := by
          have hsched : (!TransmissionType.isReserved type && decide (t.syncStart ≤ syncStartMax)) =
            false := h'.unschedulable
          rwa [htype, Bool.not_false, Bool.true_and] at hsched
        refine .inl ⟨h'.valid, ?_⟩
        unfold isSchedulable
        rw [hstart, Bool.and_false]
      · exact .inl ⟨h'.valid, h'.unschedulable⟩
      · exact .inl ⟨h'.valid, h'.unschedulable⟩
      · exact absurd (hv.symm.trans h'.valid) Bool.false_ne_true
  | map hw =>
      have hvalid := h'.valid
      rw [(t.applyMapping_kept _ _ _).1, valid_of_checkMappingWrite hw] at hvalid
      cases hvalid
  | reset params inhibitTime eventTime syncStart attributes _ =>
      exact absurd h' (not_irregular_restart _ attributes)

/-- Writes store only parameters that may be used. -/
theorem Tpdo.Stepped.schedulable (h : t.Stepped n k e t') (he : ¬ e.IsReset)
    (ht : t.isSchedulable = true) : t'.isSchedulable = true := by
  cases h with
  | same => exact ht
  | requested _ => exact ht
  | processed _ _ _ _ => exact (isSchedulable_of_sameSetup (t.sameSetup_tick _ _ _ _ _ _)).trans ht
  | comm _ hw =>
      unfold Tpdo.isSchedulable at ht ⊢
      obtain ⟨htype, hstart⟩ := Bool.and_eq_true_iff.mp ht
      rcases writeComm_ok hw with ⟨_, w, stored, _, _, rfl⟩ | ⟨type, hunreserved, rfl⟩ |
        ⟨_, _, rfl⟩ | ⟨_, rfl⟩ | ⟨_, start, hle, rfl⟩
      · exact ht
      · refine Bool.and_eq_true_iff.mpr ⟨?_, hstart⟩
        show (!type.isReserved) = true
        rw [hunreserved]
        rfl
      · exact ht
      · exact ht
      · exact Bool.and_eq_true_iff.mpr ⟨htype, decide_eq_true hle⟩
  | map _ => exact (t.applyMapping_kept _ _ _).2.trans ht
  | reset _ _ _ _ _ hreset => exact absurd hreset he

end step

theorem Device.of_writeParameter_tpdoComm {d : Device} {k : Nat} {sub : UInt8} {data : Bytes}
    (h : (d.writeParameter (.tpdoComm k) sub data).1 = .ok ()) :
    ∃ t t', d.tpdos[k]? = some t ∧ t.writeComm d.nmt sub data = .ok t' ∧
      (d.writeParameter (.tpdoComm k) sub data).2.tpdos[k]? = some t' := by
  have ha := d.writeParameter_answered (.tpdoComm k) sub data
  rw [h] at ha
  generalize (d.writeParameter (.tpdoComm k) sub data).2 = d' at ha ⊢
  cases ha with
  | sync hsync _ => cases hsync
  | @tpdoComm _ t t' ht ht' =>
      have hlt := (List.getElem?_eq_some_iff.mp ht).1
      exact ⟨t, t', ht, ht', List.getElem?_set_self hlt⟩

namespace Node

variable {σ : Type} [Transport σ] {n : Node} {k : Nat} {e : Event σ}

theorem of_writes_tpdoComm {sub : UInt8} {data : Bytes} (h : e.Writes n (.tpdoComm k) sub data) :
    ∃ t t', n.device.tpdos[k]? = some t ∧ t.writeComm n.device.nmt sub data = .ok t' ∧
      (n.step e).device.tpdos[k]? = some t' := by
  cases h with
  | @whole id ho hsub hok =>
      have hwrite := Device.write_parameter ho data
      show ∃ t t', _ ∧ _ ∧ (n.device.write id data).2.tpdos[k]? = some t'
      rw [hwrite, hsub] at hok ⊢
      exact Device.of_writeParameter_tpdoComm hok
  | @leading id part info ho hsub hinfo hvalue hok =>
      have hwrite : n.device.writeLeading id part =
          n.device.writeParameter (.tpdoComm k) id.sub data := by
        simp only [Device.writeLeading, ho, hinfo, hvalue, bind, Except.bind]
      show ∃ t t', _ ∧ _ ∧ (n.device.writeLeading id part).2.tpdos[k]? = some t'
      rw [hwrite, hsub] at hok ⊢
      exact Device.of_writeParameter_tpdoComm hok

theorem irregular_of_enables (h : e.EnablesIrregular n k) :
    ∃ t, (n.step e).device.tpdos[k]? = some t ∧ t.Irregular := by
  obtain ⟨t, data, w, ht, hsched, hwrites, hdata, hid⟩ := h
  obtain ⟨t₀, t', ht₀, hw, ht'⟩ := of_writes_tpdoComm hwrites
  obtain rfl := Option.some.inj (ht.symm.trans ht₀)
  obtain ⟨w', hdata', rfl⟩ := Tpdo.of_writeComm_cobId hw
  obtain rfl := Except.ok.inj (hdata.symm.trans hdata')
  exact ⟨_, ht', hid, hsched⟩

/-- The PDO is not irregular. -/
def Regular (k : Nat) (n : Node) : Prop := ∀ t, n.device.tpdos[k]? = some t → ¬ t.Irregular

/-- The parameters of the PDO may be used, whether it is valid or not. -/
def Schedulable (k : Nat) (n : Node) : Prop :=
  ∀ t, n.device.tpdos[k]? = some t → t.isSchedulable = true

theorem regular_reset (he : e.IsReset) : (n.step e).Regular k := by
  obtain ⟨d, hd⟩ := n.exists_resetCommunication he
  intro t ht
  rw [hd, Device.resetCommunication_tpdos, List.getElem?_map] at ht
  obtain ⟨t, _, rfl⟩ := Option.map_eq_some_iff.mp ht
  exact t.not_irregular_restart _

theorem regular_step (he : ¬ e.EnablesIrregular n k) (h : n.Regular k) : (n.step e).Regular k := by
  intro t' ht' hirregular
  obtain ⟨t, ht, hstep⟩ := tpdo_step ht'
  exact (hstep.irregular ht hirregular).elim (h t ht) he

/-- The configurations that are loaded have passed their check. -/
def LoadsChecked (_ : Node) (e : Event σ) : Prop :=
  ∀ c, e = .loadConfig c → c.validate = .ok ()

theorem schedulable_assignIdentity (h : n.Schedulable k) : n.assignIdentity.Schedulable k := by
  intro t' ht'
  simp only [assignIdentity, Device.assignIdentity, List.getElem?_mapIdx] at ht'
  obtain ⟨t, ht, rfl⟩ := Option.map_eq_some_iff.mp ht'
  obtain ⟨w, hw⟩ := t.params.exists_assignIdentity_eq (predefinedTpdoId k) n.id.offset
  rw [hw]
  exact h t ht

theorem schedulable_resetCommunication (h : n.Schedulable k) :
    n.resetCommunication.Schedulable k := by
  intro t' ht'
  replace ht' : n.device.resetCommunication.tpdos[k]? = some t' := ht'
  rw [Device.resetCommunication_tpdos, List.getElem?_map] at ht'
  obtain ⟨t, ht, rfl⟩ := Option.map_eq_some_iff.mp ht'
  rw [Tpdo.isSchedulable_restart]
  exact h t ht

theorem schedulable_loadConfig (h : n.Schedulable k) {c : DeviceConfig}
    (hc : c.validate = .ok ()) : (n.loadConfig c).Schedulable k := by
  obtain ⟨id, d, hd, _, htpdos⟩ := n.exists_of_loadConfig c
  have hassigned : { n with id := id }.assignIdentity.Schedulable k :=
    schedulable_assignIdentity (n := { n with id := id }) h
  intro t' ht'
  rw [hd, Device.resetCommunication_tpdos, List.getElem?_map, htpdos] at ht'
  obtain ⟨t, ht, rfl⟩ := Option.map_eq_some_iff.mp ht'
  rw [Tpdo.isSchedulable_restart]
  cases hcfg : c.tpdos[k]? with
  | none =>
      rw [getElem?_applyEach_of_none hcfg] at ht
      exact hassigned t ht
  | some cfg =>
      obtain ⟨t₀, ht₀, _⟩ := exists_of_applyEach ht
      rw [getElem?_applyEach hcfg ht₀] at ht
      obtain rfl := Option.some.inj ht
      obtain ⟨_, htype, hstart⟩ := TpdoConfig.of_validate ((DeviceConfig.of_validate hc).2.2 k cfg hcfg)
      exact TpdoConfig.isSchedulable_apply htype hstart t₀

theorem schedulable_step (he : n.LoadsChecked e) (h : n.Schedulable k) :
    (n.step e).Schedulable k := by
  by_cases hreset : e.IsReset
  · cases e with
    | setNodeId id =>
        have h' : { n with id := id }.Schedulable k := h
        exact schedulable_resetCommunication (schedulable_assignIdentity h')
    | reset => exact schedulable_resetCommunication h
    | loadConfig c => exact schedulable_loadConfig h (he c rfl)
    | _ => cases hreset
  · intro t' ht'
    obtain ⟨t, ht, hstep⟩ := tpdo_step ht'
    exact hstep.schedulable hreset (h t ht)

theorem regular_iff : n.Regular k ↔ ∀ t, n.device.tpdos[k]? = some t → t.valid = true →
    (t.params.transmissionType ≤ 240 ∨ 254 ≤ t.params.transmissionType) ∧ t.syncStart ≤ 240 := by
  refine forall_congr' fun t => imp_congr_right fun _ => ?_
  rw [← t.isSchedulable_iff]
  constructor
  · exact fun h hvalid => Bool.not_eq_false _ |>.mp fun hsched => h ⟨hvalid, hsched⟩
  · exact fun h hi => Bool.false_ne_true (hi.unschedulable.symm.trans (h hi.valid))

/-- The PDO is not irregular along a run exactly if no word is written that makes it so. -/
theorem along_not_enables_iff (h : n.Regular k) (es : List (Event σ)) :
    n.Along (fun m e => ¬ e.EnablesIrregular m k) es ↔
      ∀ past, past <+: es → (n.run past).Regular k := by
  constructor
  · rintro hes past ⟨rest, rfl⟩
    rw [along_append] at hes
    exact along_invariant (fun _ _ he hr => regular_step he hr) hes.1 h
  · intro hes
    rw [along_iff]
    intro past e hpast henables
    obtain ⟨t, ht, hirregular⟩ := irregular_of_enables henables
    rw [← run_concat] at ht
    exact hes _ hpast t ht hirregular

/-- While the parameters of the PDO may be used, no such word can be written. -/
theorem along_not_enables {es : List (Event σ)} (h : n.Schedulable k) (hes : n.Along LoadsChecked es) :
    n.Along (fun m e => ¬ e.EnablesIrregular m k) es := by
  induction es generalizing n with
  | nil => trivial
  | cons e es ih =>
      refine ⟨?_, ih (schedulable_step hes.1 h) hes.2⟩
      rintro ⟨t, _, _, ht, hsched, _⟩
      exact Bool.false_ne_true (hsched.symm.trans (h t ht))

/-- **After a configuration was loaded, a transmit PDO is valid only with a transmission type and a
start value that may be used, exactly as long as no identifier word is written that enables it
regardless of them.**  The node and the configuration are arbitrary, and the run consists of any
events.  No such word can be written if all configurations have passed their check. -/
theorem valid_schedulable_iff (n : Node) (c : DeviceConfig) (k : Nat) (es : List (Event σ)) :
    let m := n.loadConfig c
    ((∀ past t, past <+: es → (m.run past).device.tpdos[k]? = some t → t.valid = true →
          (t.params.transmissionType ≤ 240 ∨ 254 ≤ t.params.transmissionType) ∧
            t.syncStart ≤ 240) ↔
        m.Along (fun m e => ¬ e.EnablesIrregular m k) es) ∧
      (n.Schedulable k → n.Along LoadsChecked (.loadConfig c :: es) →
        m.Along (fun m e => ¬ e.EnablesIrregular m k) es) := by
  intro m
  have hm : m.Regular k := regular_reset (e := (.loadConfig c : Event σ)) trivial
  refine ⟨?_, fun hn hloads =>
    along_not_enables (schedulable_loadConfig hn (hloads.1 c rfl)) hloads.2⟩
  rw [along_not_enables_iff hm]
  exact ⟨fun h past hpast => regular_iff.mpr fun t => h past t hpast,
    fun h past t hpast => regular_iff.mp (h past hpast) t⟩

/-! ### A reserved transmission type -/

/-- A node with a transmit PDO, its communication object, and a byte that may be mapped. -/
def enabler : Node :=
  let byte := AppObject.var (SubInfo.u8.readWrite.mappable .tpdo) (.ofNumber .u8 0)
  Node.start .unconfigured (Device.fresh 0 1
    ⟨[⟨0x2000, .application byte⟩, ⟨Parameter.tpdoCommBase, .parameter (.tpdoComm 0)⟩]⟩)

/-- Map the byte into the PDO, with the given transmission type. -/
def enablerConfig (type : TransmissionType) : DeviceConfig :=
  { DeviceConfig.initial with
    nodeId := 1
    tpdos := [⟨some 0x181, type, 0, 0, 0, [0x20000008], 0⟩] }

/-- Write the identifier 0x181. -/
def writeWord : Event Bus := .write ⟨Parameter.tpdoCommBase, 1⟩ (.ofUInt32 0x181)

theorem valid_schedulable_iff_enabler :
    ∃ t, ((enabler.loadConfig (enablerConfig 1)).run [writeWord]).device.tpdos[0]? = some t ∧
      t.valid = true ∧ (t.params.transmissionType ≤ 240 ∨ 254 ≤ t.params.transmissionType) ∧
      t.syncStart ≤ 240 := by
  obtain ⟨hiff, hchecked⟩ := valid_schedulable_iff enabler (enablerConfig 1) 0 [writeWord]
  have hfresh : enabler.Schedulable 0 := by
    intro t ht
    obtain rfl := Option.some.inj ht
    rfl
  have hloads : enabler.Along LoadsChecked [.loadConfig (enablerConfig 1), writeWord] := by
    refine ⟨fun c hc => ?_, nofun, trivial⟩
    obtain rfl := Event.loadConfig.inj hc
    rfl
  exact ⟨_, rfl, rfl, hiff.mpr (hchecked hfresh hloads) [writeWord] _ List.prefix_rfl rfl rfl⟩

/-- The PDO is left invalid for its transmission type, and made valid by its identifier. -/
theorem enabler_reserved :
    let n := enabler.loadConfig (enablerConfig 245)
    (∃ t, n.device.tpdos[0]? = some t ∧ t.valid = false) ∧
      ∃ t, (n.run [writeWord]).device.tpdos[0]? = some t ∧ t.valid = true ∧
        ¬ ((t.params.transmissionType ≤ 240 ∨ 254 ≤ t.params.transmissionType) ∧
          t.syncStart ≤ 240) :=
  ⟨⟨_, rfl, rfl⟩, _, rfl, rfl, by decide⟩

end Node

end Canopen
