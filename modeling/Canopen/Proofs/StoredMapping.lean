import Canopen.Proofs.MappedObjects

/-! # Stored and live mappings

The mapping parameters of a PDO, their number, and the mapping that they stand for are changed by
different writes.  An entry is stored while nothing is mapped; the number of entries is stored once
they have been resolved; a number that cannot be resolved takes the mapping away and is not stored.
So whenever something is mapped, the stored parameters stand for the mapping in use
(`PdoParams.Describes`), and what is read from a mapping object resolves to it
(`mapping_read_back`). -/

namespace Canopen

/-! ### What the resolver looks at -/

/-- The highest sub index of an object of the application. -/
def Dictionary.maxSub? (d : Dictionary) (index : UInt16) : Option UInt8 :=
  (d.application? index).map AppObject.maxSub

theorem Dictionary.attributes_apply (d : Dictionary) (rpdos tpdos : Nat) (index : UInt16) :
    d.attributes rpdos tpdos index =
      match d.parameter? index with
      | some p => some ⟨p.maxSub rpdos tpdos, p.subInfo?⟩
      | none => (d.maxSub? index).map fun maxSub =>
          ⟨maxSub, fun sub => (d.sub? ⟨index, sub⟩).map SubObject.info⟩ := by
  unfold attributes parameter? maxSub? sub? application?
  dsimp only
  cases d.find? index with
  | none => rfl
  | some object =>
      cases object with
      | application o => rfl
      | parameter p => rfl

/-- The resolver looks at nothing but what is declared, and at the highest sub indices. -/
theorem Dictionary.SameShape.attributes_eq {d d' : Dictionary} (h : d.SameShape d')
    (hmax : ∀ index, d'.maxSub? index = d.maxSub? index) (rpdos tpdos : Nat) :
    d'.attributes rpdos tpdos = d.attributes rpdos tpdos := by
  funext index
  rw [attributes_apply, attributes_apply, h.parameter, hmax]
  simp only [h.info]

namespace PdoParams

/-- The number of entries is one that the mapping parameters have. -/
def Counted (p : PdoParams) : Prop := p.mappingCount.toNat ≤ maxMappings

/-- The mapping in use is the one that the stored parameters stand for, unless nothing is mapped. -/
structure Describes (p : PdoParams) (m : MappedPdo) (attributes : Attributes)
    (direction : Direction) : Prop where
  counted : p.Counted
  live : m.dataLen = 0 ∨ p.resolve attributes direction p.mappingCount = .ok m

variable {p q : PdoParams} {m : MappedPdo} {attributes : Attributes} {direction : Direction}

theorem Describes.of_stored (h : p.Describes m attributes direction)
    (hcount : q.mappingCount = p.mappingCount) (hmappings : q.mappings = p.mappings) :
    q.Describes m attributes direction where
  counted := by
    unfold Counted
    rw [hcount]
    exact h.counted
  live := by
    unfold resolve
    rw [hcount, hmappings]
    exact h.live

theorem describes_liveMapping (h : p.Counted) (attributes : Attributes) (direction : Direction) :
    p.Describes (p.liveMapping attributes direction p.mappingCount) attributes direction where
  counted := h
  live := by
    unfold liveMapping
    split
    · rename_i hm
      exact .inr hm
    · exact .inl rfl

theorem counted_assignIdentity (h : p.Counted) (predefinedId : UInt16) (offset : UInt8) :
    (p.assignIdentity predefinedId offset).Counted := by
  unfold assignIdentity
  dsimp only
  split
  · exact h
  · exact h

theorem counted_setMappings (p : PdoParams) (ws : List UInt32) : (p.setMappings ws).Counted := by
  have hle : min ws.length maxMappings ≤ 8 := Nat.min_le_right _ _
  show (UInt8.ofNat (min ws.length maxMappings)).toNat ≤ 8
  rw [UInt8.toNat_ofNat']
  omega

end PdoParams

/-! ### What events do to the mapping of a PDO -/

theorem Rpdo.describes_applyMapping {r : Rpdo} {d : Device} {sub : UInt8} {data : Bytes}
    {w : MappingWrite} (h : r.params.Describes r.mapping d.attributes .receive)
    (hw : checkMappingWrite r.params r.valid r.mapping .receive d.attributes d.started d.nmt sub data
      = .ok w) (errors : ErrorStatus) :
    (r.applyMapping d.attributes errors w).pdo.params.Describes
      (r.applyMapping d.attributes errors w).pdo.mapping d.attributes .receive := by
  obtain ⟨_, _, _, ⟨_, n, _, hle, rfl⟩ | ⟨hempty, i, word, rfl⟩⟩ := checkMappingWrite_ok hw
  · cases hm : r.params.resolve d.attributes .receive n with
    | ok m =>
        rw [applyMapping_of_ok hm]
        exact ⟨hle, .inr hm⟩
    | error fault =>
        rw [applyMapping_of_error hm]
        exact ⟨h.counted, .inl rfl⟩
  · exact ⟨h.counted, .inl hempty⟩

theorem Tpdo.describes_applyMapping {t : Tpdo} {d : Device} {sub : UInt8} {data : Bytes}
    {w : MappingWrite} (h : t.params.Describes t.mapping d.attributes .transmit)
    (hw : checkMappingWrite t.params t.valid t.mapping .transmit d.attributes d.started d.nmt sub data
      = .ok w) (errors : ErrorStatus) :
    (t.applyMapping d.attributes errors w).pdo.params.Describes
      (t.applyMapping d.attributes errors w).pdo.mapping d.attributes .transmit := by
  obtain ⟨_, _, _, ⟨_, n, _, hle, rfl⟩ | ⟨hempty, i, word, rfl⟩⟩ := checkMappingWrite_ok hw
  · cases hm : t.params.resolve d.attributes .transmit n with
    | ok m =>
        rw [applyMapping_of_ok hm]
        exact ⟨hle, .inr hm⟩
    | error fault =>
        rw [applyMapping_of_error hm]
        exact ⟨h.counted, .inl rfl⟩
  · exact ⟨h.counted, .inl hempty⟩

section step
variable {σ : Type} {n : Node} {k : Nat} {e : Event σ}

theorem Rpdo.Stepped.describes {r r' : Rpdo} (h : r.Stepped n k e r') (he : ¬ e.IsReset)
    (hr : r.params.Describes r.mapping n.device.attributes .receive) :
    r'.params.Describes r'.mapping n.device.attributes .receive := by
  rcases h.mapping_cases he with ⟨hmapping, hmappings, hcount⟩ | ⟨_, _, w, hw, rfl⟩
  · rw [hmapping]
    exact hr.of_stored hcount hmappings
  · exact describes_applyMapping hr hw _

theorem Tpdo.Stepped.describes [Transport σ] {t t' : Tpdo} (h : t.Stepped n k e t')
    (he : ¬ e.IsReset) (ht : t.params.Describes t.mapping n.device.attributes .transmit) :
    t'.params.Describes t'.mapping n.device.attributes .transmit := by
  rcases h.mapping_cases he with ⟨hmapping, hmappings, hcount⟩ | ⟨_, _, w, hw, rfl⟩
  · rw [hmapping]
    exact ht.of_stored hcount hmappings
  · exact describes_applyMapping ht hw _

end step

namespace Device

/-- All mappings in use are described by the stored parameters. -/
structure Described (d : Device) : Prop where
  rpdos : ∀ r ∈ d.rpdos, r.params.Describes r.mapping d.attributes .receive
  tpdos : ∀ t ∈ d.tpdos, t.params.Describes t.mapping d.attributes .transmit

/-- All numbers of entries are ones that the mapping parameters have. -/
structure Counted (d : Device) : Prop where
  rpdos : ∀ r ∈ d.rpdos, r.params.Counted
  tpdos : ∀ t ∈ d.tpdos, t.params.Counted

theorem Described.toCounted {d : Device} (h : d.Described) : d.Counted :=
  ⟨fun r hr => (h.rpdos r hr).counted, fun t ht => (h.tpdos t ht).counted⟩

/-! ### Communication resets -/

theorem attributes_resetCommunication (d : Device) :
    d.resetCommunication.attributes = d.attributes := by
  unfold attributes
  rw [d.length_resetCommunication.1, d.length_resetCommunication.2]
  rfl

theorem Counted.described_resetCommunication {d : Device} (h : d.Counted) :
    d.resetCommunication.Described where
  rpdos := by
    intro r hr
    rw [resetCommunication_rpdos] at hr
    obtain ⟨r₀, hr₀, rfl⟩ := List.mem_map.mp hr
    rw [attributes_resetCommunication]
    unfold Rpdo.restart Rpdo.reset
    simp only [Rpdo.configureMapping_pdo]
    exact PdoParams.describes_liveMapping (h.rpdos r₀ hr₀) _ _
  tpdos := by
    intro t ht
    rw [resetCommunication_tpdos] at ht
    obtain ⟨t₀, ht₀, rfl⟩ := List.mem_map.mp ht
    rw [attributes_resetCommunication]
    unfold Tpdo.restart Tpdo.reset
    simp only [Tpdo.configureMapping_pdo]
    exact PdoParams.describes_liveMapping (h.tpdos t₀ ht₀) _ _

theorem Counted.assignIdentity {d : Device} (h : d.Counted) (offset : UInt8) :
    (d.assignIdentity offset).Counted where
  rpdos := by
    intro r hr
    obtain ⟨k, hk, rfl⟩ := List.mem_mapIdx.mp hr
    exact PdoParams.counted_assignIdentity (h.rpdos _ (List.getElem_mem hk)) _ _
  tpdos := by
    intro t ht
    obtain ⟨k, hk, rfl⟩ := List.mem_mapIdx.mp ht
    exact PdoParams.counted_assignIdentity (h.tpdos _ (List.getElem_mem hk)) _ _

end Device

namespace Node

variable {σ : Type} [Transport σ] {n : Node} {e : Event σ}

/-- A reset follows changes of parameters, which keep to the numbers of entries that there are. -/
theorem exists_resetCommunication_counted (he : e.IsReset) (h : n.device.Counted) :
    ∃ d : Device, (n.step e).device = d.resetCommunication ∧ d.Counted := by
  cases e with
  | setNodeId id =>
      exact ⟨_, rfl, h.assignIdentity id.offset⟩
  | reset => exact ⟨n.device, rfl, h⟩
  | loadConfig c =>
      obtain ⟨id, d, hd, hrpdos, htpdos⟩ := n.exists_of_loadConfig c
      have hassigned := h.assignIdentity id.offset
      refine ⟨d, hd, fun r hr => ?_, fun t ht => ?_⟩
      · obtain ⟨k, hk⟩ := List.mem_iff_getElem?.mp hr
        rw [hrpdos] at hk
        obtain ⟨r₀, hr₀, rfl | ⟨cfg, rfl⟩⟩ := exists_of_applyEach hk
        · exact hassigned.rpdos r (List.mem_of_getElem? hr₀)
        · exact r₀.params.counted_setMappings cfg.mappings
      · obtain ⟨k, hk⟩ := List.mem_iff_getElem?.mp ht
        rw [htpdos] at hk
        obtain ⟨t₀, ht₀, rfl | ⟨cfg, rfl⟩⟩ := exists_of_applyEach hk
        · exact hassigned.tpdos t (List.mem_of_getElem? ht₀)
        · exact t₀.params.counted_setMappings cfg.mappings
  | _ => cases he

/-- The event changes no highest sub index of an object of the application. -/
def KeepsMaxSubs (n : Node) (e : Event σ) : Prop :=
  ∀ index, (n.step e).device.dictionary.maxSub? index = n.device.dictionary.maxSub? index

/-- No event changes what the resolver looks at, if no highest sub index changes. -/
theorem attributes_step (h : n.KeepsMaxSubs e) :
    (n.step e).device.attributes = n.device.attributes := by
  obtain ⟨hrpdos, htpdos⟩ := n.length_step e
  unfold Device.attributes
  rw [hrpdos, htpdos]
  exact (n.sameShape_step e).attributes_eq h _ _

theorem described_step (n : Node) (e : Event σ) (hmax : n.KeepsMaxSubs e)
    (h : n.device.Described) : (n.step e).device.Described := by
  by_cases he : e.IsReset
  · obtain ⟨d, hd, hcounted⟩ := exists_resetCommunication_counted he h.toCounted
    rw [hd]
    exact hcounted.described_resetCommunication
  · have hattributes := attributes_step hmax
    constructor
    · intro r' hr'
      obtain ⟨k, hk⟩ := List.mem_iff_getElem?.mp hr'
      obtain ⟨r, hr, hstep⟩ := rpdo_step hk
      rw [hattributes]
      exact hstep.describes he (h.rpdos r (List.mem_of_getElem? hr))
    · intro t' ht'
      obtain ⟨k, hk⟩ := List.mem_iff_getElem?.mp ht'
      obtain ⟨t, ht, hstep⟩ := tpdo_step hk
      rw [hattributes]
      exact hstep.describes he (h.tpdos t (List.mem_of_getElem? ht))

theorem described_start (id : NodeId) (rpdos tpdos : Nat) (dictionary : Dictionary) :
    (Node.start id (Device.fresh rpdos tpdos dictionary)).device.Described := by
  have hcounted : (Device.fresh rpdos tpdos dictionary).Counted := by
    constructor
    · intro r hr
      rw [List.eq_of_mem_replicate hr]
      exact Nat.zero_le _
    · intro t ht
      rw [List.eq_of_mem_replicate ht]
      exact Nat.zero_le _
  have hstarted : { Device.fresh rpdos tpdos dictionary with started := true }.Counted :=
    ⟨hcounted.rpdos, hcounted.tpdos⟩
  exact (hstarted.assignIdentity id.offset).described_resetCommunication

end Node

/-! ### Mapping objects -/

/-- The descriptors that are read from a mapping object: as many as its sub index zero says. -/
structure Device.ReadsMapping (d : Device) (index : UInt16) (ds : List MappingDescriptor) : Prop where
  count : ∃ n : UInt8, d.read ⟨index, 0⟩ 0 1 = .ok [n] ∧ ds.length = n.toNat
  entries : ∀ i < ds.length, ∃ w : UInt32,
    d.read ⟨index, UInt8.ofNat (i + 1)⟩ 0 4 = .ok (.ofUInt32 w) ∧ ds[i]? = some (.ofWord w)

/-- The number of entries that a mapping object shows. -/
def PdoParams.shownCount (p : PdoParams) (m : MappedPdo) : UInt8 :=
  if m.dataLen = 0 then 0 else p.mappingCount

theorem MappingTable.length_descriptors (t : MappingTable) {count : Nat} (h : count ≤ maxMappings) :
    (t.descriptors count).length = count := by
  unfold descriptors
  rw [List.length_map, List.length_take, t.length_eq]
  exact Nat.min_eq_left h

theorem MappingTable.getElem?_descriptors (t : MappingTable) {i count : Nat} (h : i < count) :
    (t.descriptors count)[i]? = t.words[i]?.map MappingDescriptor.ofWord := by
  unfold descriptors
  rw [List.getElem?_map, List.getElem?_take_of_lt h]

theorem readPart_all (value : Bytes) : readPart value 0 value.length = .ok value := by
  unfold readPart Bytes.window
  rw [if_neg (Nat.not_lt_zero _), List.drop_zero, List.take_length]

theorem mappingBytes_entry (params : PdoParams) (m : MappedPdo) {i : Nat} {w : UInt32}
    (h : params.mappings.words[i]? = some w) :
    mappingBytes params m (UInt8.ofNat (i + 1)) = .ok (.ofUInt32 w) := by
  have hi : i < 8 := by
    have hlt := (List.getElem?_eq_some_iff.mp h).1
    rw [params.mappings.length_eq] at hlt
    exact hlt
  have hsub : (UInt8.ofNat (i + 1)).toNat = i + 1 := by
    rw [UInt8.toNat_ofNat']
    omega
  have hne : UInt8.ofNat (i + 1) ≠ 0 := by
    intro h0
    rw [h0] at hsub
    exact absurd hsub.symm (Nat.succ_ne_zero i)
  unfold mappingBytes MappingTable.get?
  rw [if_neg hne, hsub, Nat.add_sub_cancel, h]

theorem Device.parameterBytes_rpdoComm {d : Device} {k : Nat} {r : Rpdo} (h : d.rpdos[k]? = some r)
    (sub : UInt8) : d.parameterBytes (.rpdoComm k) sub = r.commBytes sub := by
  show (do
    let r ← d.rpdo k
    r.commBytes sub) = _
  rw [rpdo_of_getElem? h]
  rfl

theorem Device.parameterBytes_tpdoComm {d : Device} {k : Nat} {t : Tpdo} (h : d.tpdos[k]? = some t)
    (sub : UInt8) : d.parameterBytes (.tpdoComm k) sub = t.commBytes sub := by
  show (do
    let t ← d.tpdo k
    t.commBytes sub) = _
  rw [tpdo_of_getElem? h]
  rfl

theorem Device.parameterBytes_rpdoMap {d : Device} {k : Nat} {r : Rpdo} (h : d.rpdos[k]? = some r)
    (sub : UInt8) : d.parameterBytes (.rpdoMap k) sub = mappingBytes r.params r.mapping sub := by
  show (do
    let r ← d.rpdo k
    mappingBytes r.params r.mapping sub) = _
  rw [rpdo_of_getElem? h]
  rfl

theorem Device.parameterBytes_tpdoMap {d : Device} {k : Nat} {t : Tpdo} (h : d.tpdos[k]? = some t)
    (sub : UInt8) : d.parameterBytes (.tpdoMap k) sub = mappingBytes t.params t.mapping sub := by
  show (do
    let t ← d.tpdo k
    mappingBytes t.params t.mapping sub) = _
  rw [tpdo_of_getElem? h]
  rfl

theorem Device.read_parameter {d : Device} {index : UInt16} {p : Parameter} {sub : UInt8}
    {value : Bytes} (hp : d.object index = .ok (.parameter p))
    (h : d.parameterBytes p sub = .ok value) :
    d.read ⟨index, sub⟩ 0 value.length = .ok value := by
  unfold read
  rw [hp]
  show (do readPart (← d.parameterBytes p sub) 0 value.length) = _
  rw [h]
  exact readPart_all value

theorem Device.readsMapping {d : Device} {index : UInt16} {p : Parameter} {params : PdoParams}
    {m : MappedPdo} (hp : d.object index = .ok (.parameter p)) (hcounted : params.Counted)
    (hbytes : ∀ sub, d.parameterBytes p sub = mappingBytes params m sub) :
    d.ReadsMapping index (params.mappings.descriptors (params.shownCount m).toNat) := by
  have hle : (params.shownCount m).toNat ≤ maxMappings := by
    unfold PdoParams.shownCount
    split
    · exact Nat.zero_le _
    · exact hcounted
  have hread : ∀ sub value, mappingBytes params m sub = .ok value →
      d.read ⟨index, sub⟩ 0 value.length = .ok value :=
    fun sub value hvalue => d.read_parameter hp ((hbytes sub).trans hvalue)
  constructor
  · exact ⟨params.shownCount m, hread 0 _ rfl, params.mappings.length_descriptors hle⟩
  · intro i hi
    rw [params.mappings.length_descriptors hle] at hi
    obtain ⟨w, hw⟩ : ∃ w, params.mappings.words[i]? = some w :=
      ⟨_, List.getElem?_eq_getElem (by rw [params.mappings.length_eq]; omega)⟩
    refine ⟨w, ?_, ?_⟩
    · have hentry := hread _ _ (mappingBytes_entry params m hw)
      rwa [Bytes.length_ofUInt32] at hentry
    · rw [params.mappings.getElem?_descriptors hi, hw, Option.map_some]

theorem PdoParams.Describes.resolve_descriptors {p : PdoParams} {m : MappedPdo}
    {attributes : Attributes} {direction : Direction} (h : p.Describes m attributes direction) :
    (p.mappings.descriptors (p.shownCount m).toNat = [] → m.dataLen = 0) ∧
      (p.mappings.descriptors (p.shownCount m).toNat ≠ [] →
        MappedPdo.resolve attributes direction (p.mappings.descriptors (p.shownCount m).toNat) =
          .ok m) := by
  unfold shownCount
  rcases h.live with hzero | hm
  · rw [if_pos hzero]
    exact ⟨fun _ => hzero, fun hne => absurd rfl hne⟩
  · by_cases hzero : m.dataLen = 0
    · rw [if_pos hzero]
      exact ⟨fun _ => hzero, fun hne => absurd rfl hne⟩
    · rw [if_neg hzero]
      refine ⟨fun hnil => ?_, fun _ => hm⟩
      unfold resolve at hm
      rw [hnil] at hm
      rw [← Except.ok.inj hm]
      rfl

namespace Node

variable {σ : Type} [Transport σ]

/-- **What is read from a mapping object resolves to the mapping in use**, or nothing is mapped and no
entry is read.  This holds of the mapping objects of all PDOs, after every run of a node that was
started on a device with any number of fresh PDOs and any object dictionary, if no event of the run
changes a highest sub index of an object of the application. -/
theorem mapping_read_back (id : NodeId) (rpdos tpdos : Nat) (dictionary : Dictionary)
    (es : List (Event σ))
    (hes : (Node.start id (Device.fresh rpdos tpdos dictionary)).Along KeepsMaxSubs es) :
    let d := ((Node.start id (Device.fresh rpdos tpdos dictionary)).run es).device
    (∀ index k r, d.object index = .ok (.parameter (.rpdoMap k)) → d.rpdos[k]? = some r →
        ∃ ds, d.ReadsMapping index ds ∧ (ds = [] → r.mapping.dataLen = 0) ∧
          (ds ≠ [] → MappedPdo.resolve d.attributes .receive ds = .ok r.mapping)) ∧
      ∀ index k t, d.object index = .ok (.parameter (.tpdoMap k)) → d.tpdos[k]? = some t →
        ∃ ds, d.ReadsMapping index ds ∧ (ds = [] → t.mapping.dataLen = 0) ∧
          (ds ≠ [] → MappedPdo.resolve d.attributes .transmit ds = .ok t.mapping) := by
  intro d
  have h : d.Described := along_invariant (I := fun n => n.device.Described) described_step hes
    (described_start id rpdos tpdos dictionary)
  refine ⟨fun index k r hp hr => ?_, fun index k t hp ht => ?_⟩
  · have hdescribes := h.rpdos r (List.mem_of_getElem? hr)
    exact ⟨_, Device.readsMapping hp hdescribes.counted (Device.parameterBytes_rpdoMap hr),
      hdescribes.resolve_descriptors⟩
  · have hdescribes := h.tpdos t (List.mem_of_getElem? ht)
    exact ⟨_, Device.readsMapping hp hdescribes.counted (Device.parameterBytes_tpdoMap ht),
      hdescribes.resolve_descriptors⟩

/-- A number of four bytes, and the mapping object of a transmit PDO. -/
def numberObjects : Dictionary :=
  let number := AppObject.var (SubInfo.u32.readWrite.mappable .tpdo) (.ofNumber .u32 0)
  ⟨[⟨0x1A00, .parameter (.tpdoMap 0)⟩, ⟨0x2000, .application number⟩]⟩

def writeMapping (sub : UInt8) (data : Bytes) : Event Bus := .write ⟨0x1A00, sub⟩ data

/-- The number is stored three times and mapped twice; the attempt to map it three times takes the
mapping away, and a reset brings it back. -/
def remappings : List (Event Bus) :=
  [writeMapping 1 (.ofUInt32 0x20000020), writeMapping 2 (.ofUInt32 0x20000020),
    writeMapping 3 (.ofUInt32 0x20000020), writeMapping 0 [2], writeMapping 0 [3], .reset]

theorem mapping_read_back_remappings :
    ∃ ds t, ((Node.start .unconfigured (Device.fresh 0 1 numberObjects)).run
        remappings).device.tpdos = [t] ∧
      ((Node.start .unconfigured (Device.fresh 0 1 numberObjects)).run
        remappings).device.ReadsMapping 0x1A00 ds ∧
      MappedPdo.resolve (numberObjects.attributes 0 1) .transmit ds = .ok t.mapping ∧
      t.mapping.dataLen = 8 := by
  have hes : (Node.start .unconfigured (Device.fresh 0 1 numberObjects)).Along KeepsMaxSubs
      remappings :=
    ⟨fun _ => rfl, fun _ => rfl, fun _ => rfl, fun _ => rfl, fun _ => rfl, fun _ => rfl, trivial⟩
  obtain ⟨_, htpdos⟩ := mapping_read_back .unconfigured 0 1 numberObjects remappings hes
  obtain ⟨ds, hreads, hempty, hresolve⟩ := htpdos 0x1A00 0 _ rfl rfl
  have hne : ds ≠ [] := fun hnil => absurd (hempty hnil) (by decide)
  exact ⟨ds, _, rfl, hreads, hresolve hne, rfl⟩

end Node

end Canopen
