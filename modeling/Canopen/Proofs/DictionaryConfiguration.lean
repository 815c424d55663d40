import Canopen.Proofs.AcceptedWrites

/-! # Configuration through the object dictionary

A PDO gets its parameters from a configuration that is loaded, or from writes to its communication
and its mapping object: disable the PDO, store its mapping entries one by one, put them into effect,
store the other parameters, and enable the PDO again (`configurationWrites`).  The two ways check and
store in different orders, and `writes_agree_with_load` says that they lead to the same PDO.

`Node.Leads` is a triple for accepted events.  It chains what the single writes do; each of them is a
function of the PDO alone. -/

namespace Canopen

/-! ### The writes -/

/-- Where the objects of a PDO stand in the dictionary. -/
structure PdoObjects where
  comm : UInt16
  map : UInt16

section writes
variable {σ : Type}

/-- Writes of mapping entries, from a position on. -/
def entryWrites (map : UInt16) : Nat → List UInt32 → List (Event σ)
  | _, [] => []
  | i, w :: ws => .write ⟨map, UInt8.ofNat (i + 1)⟩ (.ofUInt32 w) :: entryWrites map (i + 1) ws

/-- The writes that replace a mapping. -/
def mappingWrites (map : UInt16) (ms : List UInt32) : List (Event σ) :=
  [.write ⟨map, 0⟩ [0]] ++ (entryWrites map 0 ms ++ [.write ⟨map, 0⟩ [UInt8.ofNat ms.length]])

/-- The writes that configure a PDO; `timing` are those of the parameters that only transmit PDOs
have. -/
def configurationWrites (objects : PdoObjects) (w : CobIdWord) (type : TransmissionType)
    (ms : List UInt32) (timing : List (Event σ)) : List (Event σ) :=
  [.write ⟨objects.comm, 1⟩ (.ofUInt32 (w ||| CobIdWord.invalidBit))] ++
    (mappingWrites objects.map ms ++
      ([.write ⟨objects.comm, 2⟩ [type]] ++
        (timing ++ [.write ⟨objects.comm, 1⟩ (.ofUInt32 w)])))

/-- The writes of the parameters of a receive PDO. -/
def RpdoConfig.writes (c : RpdoConfig) (objects : PdoObjects) (predefinedId : UInt16) :
    List (Event σ) :=
  configurationWrites objects (c.cobId.getD predefinedId.toUInt32) c.transmissionType c.mappings []

/-- The writes of the parameters of a transmit PDO. -/
def TpdoConfig.writes (c : TpdoConfig) (objects : PdoObjects) (predefinedId : UInt16) :
    List (Event σ) :=
  configurationWrites objects (c.cobId.getD predefinedId.toUInt32) c.transmissionType c.mappings
    [.write ⟨objects.comm, 3⟩ (.ofUInt16 c.inhibitTime),
      .write ⟨objects.comm, 5⟩ (.ofUInt16 c.eventTimer),
      .write ⟨objects.comm, 6⟩ [c.syncStart]]

end writes

/-- Parameters that both ways take: the word names an 11-bit identifier, the type is none of the
reserved ones, nothing is protected, and the mappings can be resolved. -/
structure Configurable (w : CobIdWord) (type : TransmissionType) (restrictions : UInt8)
    (ms : List UInt32) (attributes : Attributes) (direction : Direction) : Prop where
  plain : w.hasReservedBits = false
  unreserved : type.isReserved = false
  unrestricted : restrictions = 0
  length_le : ms.length ≤ maxMappings
  resolves : ∃ m, MappedPdo.resolve attributes direction (ms.map MappingDescriptor.ofWord) = .ok m

/-! ### Disabling and enabling -/

namespace PdoParams

/-- All but the identity of a PDO and its word stays as it is. -/
theorem exists_assignIdentity_eq (p : PdoParams) (predefinedId : UInt16) (offset : UInt8) :
    ∃ w, p.assignIdentity predefinedId offset =
      { p with predefinedId := predefinedId, nodeOffset := offset, cobId := w } := by
  unfold assignIdentity
  dsimp only
  split
  · exact ⟨_, rfl⟩
  · exact ⟨_, rfl⟩

/-- The parameters of a PDO that was never configured. -/
structure Unused (p : PdoParams) (predefinedId : UInt16) (offset : UInt8) : Prop where
  predefinedId_eq : p.predefinedId = predefinedId
  nodeOffset_eq : p.nodeOffset = offset
  restrictions_eq : p.restrictions = .none
  transmissionType_eq : p.transmissionType = 0

theorem unused_fresh (predefinedId : UInt16) (offset : UInt8) :
    (fresh.assignIdentity predefinedId offset).Unused predefinedId offset := by
  obtain ⟨w, hw⟩ := fresh.exists_assignIdentity_eq predefinedId offset
  rw [hw]
  exact ⟨rfl, rfl, rfl, rfl⟩

theorem Unused.toNat_add_lt {p : PdoParams} {predefinedId : UInt16} {id : NodeId}
    (h : p.Unused predefinedId id.offset) (hle : predefinedId.toNat ≤ 0x500) :
    p.predefinedId.toNat + p.nodeOffset.toNat < 2048 := by
  have hoffset := id.offset_le
  rw [h.predefinedId_eq, h.nodeOffset_eq]
  omega

/-- The identity that a node gives to a PDO of its own once more changes nothing but the word. -/
theorem Unused.exists_assignIdentity_eq {p : PdoParams} {predefinedId : UInt16} {offset : UInt8}
    (h : p.Unused predefinedId offset) :
    ∃ w, p.assignIdentity predefinedId offset = { p with cobId := w } := by
  obtain ⟨w, hw⟩ := p.exists_assignIdentity_eq predefinedId offset
  refine ⟨w, ?_⟩
  rw [hw, ← h.predefinedId_eq, ← h.nodeOffset_eq]

theorem isSome_effectiveId_fresh {predefinedId : UInt16} (h : predefinedId.toNat ≤ 0x500)
    (id : NodeId) (dataLen : Nat) :
    let p := fresh.assignIdentity predefinedId id.offset
    (p.effectiveId p.cobId dataLen).isSome = false := by
  intro p
  let q : PdoParams := { fresh with predefinedId := predefinedId, nodeOffset := id.offset }
  have hsum : q.predefinedId.toNat + q.nodeOffset.toNat < 2048 := by
    have hle := id.offset_le
    show predefinedId.toNat + id.offset.toNat < 2048
    omega
  have hnone := effectiveId_stripNodeId_or_invalidBit hsum predefinedId.toUInt32 dataLen
  rw [UInt32.or_comm] at hnone
  show (q.effectiveId (q.stripNodeId (.invalidBit ||| predefinedId.toUInt32)) dataLen).isSome =
    false
  rw [hnone]
  rfl

end PdoParams

namespace Rpdo

theorem slots_restart {r : Rpdo} (h : r.slots = .none) (attributes : Attributes) :
    (r.restart attributes).slots = .none := by
  unfold restart reset
  simp only [configureMapping_pdo]
  show (if _ then r.slots else .none) = .none
  rw [h]
  exact ite_self _

/-- A word with the bit that disables the PDO leaves nothing staged. -/
theorem disabled_of_invalidBit {r : Rpdo}
    (hsum : r.params.predefinedId.toNat + r.params.nodeOffset.toNat < 2048) (w : CobIdWord) :
    let r' := r.applyCobId (r.params.stripNodeId (w ||| .invalidBit))
    r'.valid = false ∧ r'.slots = .none := by
  intro r'
  have hnone : r'.params.effectiveId (r.params.stripNodeId (w ||| .invalidBit))
      r.mapping.dataLen = none := PdoParams.effectiveId_stripNodeId_or_invalidBit hsum w _
  constructor
  · show (r'.params.effectiveId _ _).isSome = false
    rw [hnone]
    rfl
  · show (if (r'.params.effectiveId _ _).isSome = true then r.slots else .none) = .none
    rw [hnone]
    rfl

/-- Only the parameters, the mapping and the slots of a PDO matter when its word is put into
effect. -/
theorem configureCommunication_congr {r r' : Rpdo} (hparams : r.params = r'.params)
    (hmapping : r.mapping = r'.mapping) (hslots : r.slots = r'.slots) (w : CobIdWord) :
    r.configureCommunication w = r'.configureCommunication w := by
  unfold configureCommunication
  rw [hparams, hmapping, hslots]

theorem restart_apply (r : Rpdo) {c : RpdoConfig} {attributes : Attributes} {m : MappedPdo}
    (hle : c.mappings.length ≤ maxMappings)
    (hm : MappedPdo.resolve attributes .receive (c.mappings.map MappingDescriptor.ofWord) = .ok m) :
    (c.apply r).restart attributes =
      { c.apply r with mapping := m }.configureCommunication (c.apply r).params.cobId := by
  have hlive : (c.apply r).params.liveMapping attributes .receive (c.apply r).params.mappingCount =
      m := r.params.liveMapping_configure c.cobId c.transmissionType c.restrictions hle hm
  unfold restart reset
  simp only [configureMapping_pdo, hlive]

end Rpdo

namespace Tpdo

theorem sendRequested_restart (t : Tpdo) (attributes : Attributes) :
    (t.restart attributes).sendRequested = t.params.transmissionType.sendsAtStart := by
  unfold restart reset
  simp only [configureMapping_pdo]
  rfl

theorem disabled_of_invalidBit {t : Tpdo}
    (hsum : t.params.predefinedId.toNat + t.params.nodeOffset.toNat < 2048) (w : CobIdWord) :
    (t.applyCobId (t.params.stripNodeId (w ||| .invalidBit))).valid = false := by
  show (t.params.effectiveId (t.params.stripNodeId (w ||| .invalidBit))
    t.mapping.dataLen).isSome = false
  rw [PdoParams.effectiveId_stripNodeId_or_invalidBit hsum]
  rfl

theorem restart_apply (t : Tpdo) {c : TpdoConfig} {attributes : Attributes} {m : MappedPdo}
    (htype : TransmissionType.isReserved c.transmissionType = false)
    (hstart : c.syncStart ≤ syncStartMax) (hle : c.mappings.length ≤ maxMappings)
    (hm : MappedPdo.resolve attributes .transmit (c.mappings.map MappingDescriptor.ofWord) =
      .ok m) :
    (c.apply t).restart attributes =
      { ((c.apply t).remap m).configureCommunication (c.apply t).params.cobId with
        syncCounter := counterUnset
        inhibitTimer := 0
        eventTimer := .ofEventTime c.eventTimer
        sendRequested := TransmissionType.sendsAtStart c.transmissionType } := by
  have hlive : (c.apply t).params.liveMapping attributes .transmit
      (c.apply t).params.mappingCount = m :=
    t.params.liveMapping_configure c.cobId c.transmissionType c.restrictions hle hm
  have hschedulable : (c.apply t).isSchedulable = true :=
    TpdoConfig.isSchedulable_apply htype hstart t
  unfold restart reset
  simp only [configureMapping_pdo, hlive, hschedulable, ↓reduceIte]
  rfl

end Tpdo

/-! ### Chains of accepted writes -/

namespace Node

variable {σ : Type} [Transport σ]

/-- Is a write answered without an error? -/
def Accepts (n : Node) : Event σ → Prop
  | .write id data => (n.write id data).1 = .ok ()
  | _ => True

/-- From every node with `P`, the writes are all accepted and lead to a node with `Q`. -/
def Leads (P : Node → Prop) (es : List (Event σ)) (Q : Node → Prop) : Prop :=
  ∀ n, P n → n.Along Accepts es ∧ Q (n.run es)

theorem leads_nil (P : Node → Prop) : Leads P ([] : List (Event σ)) P := fun _ hn => ⟨trivial, hn⟩

theorem Leads.append {P Q R : Node → Prop} {es es' : List (Event σ)} (h : Leads P es Q)
    (h' : Leads Q es' R) : Leads P (es ++ es') R := by
  intro n hn
  obtain ⟨halong, hrun⟩ := h n hn
  obtain ⟨halong', hrun'⟩ := h' _ hrun
  rw [run_append]
  exact ⟨(along_append n es es').mpr ⟨halong, halong'⟩, hrun'⟩

/-- What a write does to a node that meets it, where it is accepted. -/
theorem Leads.of_write {n : Node} {Q : Node → Prop} {id : ObjectId} {data : Bytes} {d : Device}
    (hwrite : n.device.write id data = (.ok (), d)) (hQ : Q { n with device := d }) :
    n.Along Accepts [Event.write (σ := σ) id data] ∧
      Q (n.run [Event.write (σ := σ) id data]) := by
  have hnode : n.write id data = (.ok (), { n with device := d }) := by
    unfold Node.write
    rw [hwrite]
  refine ⟨⟨?_, trivial⟩, ?_⟩
  · show (n.write id data).1 = .ok ()
    rw [hnode]
  · show Q (n.write id data).2
    rw [hnode]
    exact hQ

/-- The node has this PDO in one of its lists, and the parameters of the PDO stand in the
dictionary. -/
structure Holds {α : Type} (pdos : Device → List α) (comm map : Nat → Parameter) (k : Nat)
    (objects : PdoObjects) (attributes : Attributes) (a : α) (n : Node) : Prop where
  comm : n.device.object objects.comm = .ok (.parameter (comm k))
  map : n.device.object objects.map = .ok (.parameter (map k))
  started : n.device.started = true
  attributes_eq : n.device.attributes = attributes
  pdo : (pdos n.device)[k]? = some a

theorem Holds.leads {α : Type} {pdos : Device → List α} {comm map : Nat → Parameter} {k : Nat}
    {objects : PdoObjects} {attributes : Attributes} {a a' : α} {id : ObjectId} {data : Bytes}
    (hwrite : ∀ n : Node, Holds pdos comm map k objects attributes a n →
      ∃ d, n.device.write id data = (.ok (), d) ∧ d.dictionary = n.device.dictionary ∧
        d.started = n.device.started ∧ d.attributes = n.device.attributes ∧
        (pdos d)[k]? = some a') :
    Leads (Holds pdos comm map k objects attributes a) [.write (σ := σ) id data]
      (Holds pdos comm map k objects attributes a') := by
  intro n h
  obtain ⟨d, hd, hobjects, hstarted, hattributes, hpdo⟩ := hwrite n h
  have hobject : ∀ index, d.object index = n.device.object index := by
    intro index
    unfold Device.object
    rw [hobjects]
  refine Leads.of_write hd ⟨?_, ?_, hstarted.trans h.started, hattributes.trans h.attributes_eq, hpdo⟩
  · exact (hobject _).trans h.comm
  · exact (hobject _).trans h.map

/-- The writes of a mapping to a disabled PDO, of which `P p m` says that it has the parameters `p` and
the mapping `m`: entries that can be resolved are stored, and so is their number, which puts them into
effect. -/
structure TakesMapping (σ : Type) [Transport σ] (map : UInt16) (attributes : Attributes)
    (direction : Direction) (P : PdoParams → MappedPdo → Node → Prop) : Prop where
  entry : ∀ {p : PdoParams} {m : MappedPdo} {i : Nat} {w : UInt32}, p.restrictions = .none →
    m.dataLen = 0 → i < maxMappings →
    (∃ e, resolveEntry attributes direction (.ofWord w) 0 = .ok e) →
    Leads (P p m) [.write (σ := σ) ⟨map, UInt8.ofNat (i + 1)⟩ (.ofUInt32 w)] (P (p.setMapping i w) m)
  count : ∀ {p : PdoParams} {m m' : MappedPdo} {n : UInt8}, p.restrictions = .none →
    n.toNat ≤ maxMappings → p.resolve attributes direction n = .ok m' →
    Leads (P p m) [.write (σ := σ) ⟨map, 0⟩ [n]] (P { p with mappingCount := n } m')

section mapping
variable {map : UInt16} {attributes : Attributes} {direction : Direction}
  {P : PdoParams → MappedPdo → Node → Prop} {p : PdoParams} {m : MappedPdo}

theorem TakesMapping.leads_entries (h : TakesMapping σ map attributes direction P)
    (hp : p.restrictions = .none) (hm : m.dataLen = 0) {i : Nat} {ws : List UInt32}
    (hle : i + ws.length ≤ maxMappings)
    (hws : ∀ w ∈ ws, ∃ e, resolveEntry attributes direction (.ofWord w) 0 = .ok e) :
    Leads (P p m) (entryWrites (σ := σ) map i ws) (P { p with mappings := p.mappings.fill i ws } m) := by
  induction ws generalizing p i with
  | nil => exact leads_nil _
  | cons w ws ih =>
      simp only [List.length_cons] at hle
      have hentry := h.entry hp hm (by omega : i < maxMappings) (hws w List.mem_cons_self)
      have hrest := ih (p := p.setMapping i w) hp (i := i + 1) (by omega)
        fun w' hw' => hws w' (List.mem_cons_of_mem w hw')
      exact hentry.append hrest

/-- A mapping that can be resolved is taken once the number of entries has been cleared. -/
theorem TakesMapping.leads_mapping (h : TakesMapping σ map attributes direction P)
    (hp : p.restrictions = .none) {ms : List UInt32} (hle : ms.length ≤ maxMappings)
    (hm : MappedPdo.resolve attributes direction (ms.map MappingDescriptor.ofWord) = .ok m)
    {start : Node → Prop}
    (hclear : Leads start [.write (σ := σ) ⟨map, 0⟩ [0]] (P { p with mappingCount := 0 } .empty)) :
    Leads start (mappingWrites (σ := σ) map ms) (P (p.setMappings ms) m) := by
  let stored : PdoParams := { p with mappingCount := 0, mappings := p.mappings.fill 0 ms }
  have hstore : Leads (P { p with mappingCount := 0 } .empty) (entryWrites (σ := σ) map 0 ms)
      (P stored .empty) := by
    refine h.leads_entries (p := { p with mappingCount := 0 }) hp rfl (by omega) fun w hw => ?_
    exact MappedPdo.exists_resolveEntry_of_resolve hm _ (List.mem_map_of_mem hw)
  have hput : Leads (P stored .empty) [.write (σ := σ) ⟨map, 0⟩ [UInt8.ofNat ms.length]]
      (P (p.setMappings ms) m) := by
    have hresolve : stored.resolve attributes direction (UInt8.ofNat ms.length) = .ok m := by
      rw [PdoParams.resolve_fill rfl hle]
      exact hm
    rw [p.setMappings_eq_fill hle]
    exact h.count (p := stored) hp (by rw [PdoParams.toNat_count hle]; exact hle) hresolve
  exact hclear.append (hstore.append hput)

end mapping

section receive
variable {k : Nat} {objects : PdoObjects} {attributes : Attributes} {r r' : Rpdo}

/-- The node has this receive PDO, and its parameters stand in the dictionary. -/
abbrev HoldsRpdo := Holds Device.rpdos .rpdoComm .rpdoMap

theorem leads_rpdo {id : ObjectId} {data : Bytes}
    (hwrite : ∀ n : Node, HoldsRpdo k objects attributes r n → n.device.write id data =
      (.ok (), { n.device with rpdos := n.device.rpdos.set k r' })) :
    Leads (HoldsRpdo k objects attributes r) [.write (σ := σ) id data]
      (HoldsRpdo k objects attributes r') := by
  refine Holds.leads fun n h => ⟨_, hwrite n h, rfl, rfl, ?_, ?_⟩
  · simp only [Device.attributes, List.length_set]
  · exact List.getElem?_set_self (List.getElem?_eq_some_iff.mp h.pdo).1

theorem leads_rpdoComm {sub : UInt8} {data : Bytes}
    (hsub : Device.checkCommSub (.rpdoComm k) sub = .ok ())
    (hr : ∀ nmt, r.writeComm nmt sub data = .ok r') :
    Leads (HoldsRpdo k objects attributes r) [.write (σ := σ) ⟨objects.comm, sub⟩ data]
      (HoldsRpdo k objects attributes r') :=
  leads_rpdo fun n h => Device.write_rpdoComm h.comm hsub h.pdo (hr n.device.nmt)

theorem leads_rpdoMap {sub : UInt8} {data : Bytes} {w : MappingWrite}
    (hw : ∀ d : Device, d.started = true → d.attributes = attributes →
      checkMappingWrite r.params r.valid r.mapping .receive d.attributes d.started d.nmt sub data =
        .ok w)
    (hr : ∀ errors, r.applyMapping attributes errors w = ⟨r', errors, .ok ()⟩) :
    Leads (HoldsRpdo k objects attributes r) [.write (σ := σ) ⟨objects.map, sub⟩ data]
      (HoldsRpdo k objects attributes r') :=
  leads_rpdo fun n h => Device.write_rpdoMap h.map h.pdo (hw n.device h.started h.attributes_eq)
    (h.attributes_eq ▸ hr n.device.errors)

theorem takesMapping_rpdo (hv : r.valid = false) :
    TakesMapping σ objects.map attributes .receive fun p m =>
      HoldsRpdo k objects attributes { r with params := p, mapping := m } where
  entry := by
    intro p m i w hp hm hi hw
    refine leads_rpdoMap (w := .entry i w) (fun d hstarted hattributes => ?_) fun _ => rfl
    subst hattributes
    exact hv ▸ checkMappingWrite_entry hp hstarted hm hi hw
  count := by
    intro p m m' n hp hn hm'
    refine leads_rpdoMap (w := .count n) (fun d hstarted _ => ?_) (Rpdo.applyMapping_of_ok hm')
    exact checkMappingWrite_count (PdoRestrictions.checkMap_of_eq_none hp d.nmt) hv hstarted rfl hn _ _

theorem leads_rpdoMapping (hp : r.params.restrictions = .none) (hv : r.valid = false)
    {ms : List UInt32} (hle : ms.length ≤ maxMappings) {m : MappedPdo}
    (hm : MappedPdo.resolve attributes .receive (ms.map MappingDescriptor.ofWord) = .ok m) :
    Leads (HoldsRpdo k objects attributes r) (mappingWrites (σ := σ) objects.map ms)
      (HoldsRpdo k objects attributes { r with
        params := r.params.setMappings ms, mapping := m }) :=
  (takesMapping_rpdo hv).leads_mapping hp hle hm
    ((takesMapping_rpdo hv).count (p := r.params) (m := r.mapping) hp (Nat.zero_le _) rfl)

/-- The writes take a disabled PDO to where the configuration takes it. -/
theorem leads_rpdoConfig {c : RpdoConfig} (hp : r.params.restrictions = .none)
    (hv : r.valid = false) (hs : r.slots = .none)
    (hsum : r.params.predefinedId.toNat + r.params.nodeOffset.toNat < 2048)
    (hc : Configurable (c.cobId.getD r.params.predefinedId.toUInt32) c.transmissionType
      c.restrictions c.mappings attributes .receive) :
    Leads (HoldsRpdo k objects attributes r) (c.writes (σ := σ) objects r.params.predefinedId)
      (HoldsRpdo k objects attributes ((c.apply r).restart attributes)) := by
  obtain ⟨m, hm⟩ := hc.resolves
  have hloaded := r.restart_apply hc.length_le hm
  generalize hw : c.cobId.getD r.params.predefinedId.toUInt32 = w at hc
  let disabled := r.applyCobId (r.params.stripNodeId (w ||| .invalidBit))
  let mapped : Rpdo := { disabled with
    params := disabled.params.setMappings c.mappings, mapping := m }
  let typed := mapped.applyTransmissionType c.transmissionType
  let enabled := typed.applyCobId (typed.params.stripNodeId w)
  obtain ⟨hdisabled, hslots⟩ : disabled.valid = false ∧ disabled.slots = .none :=
    r.disabled_of_invalidBit hsum w
  have hdisable : Leads (HoldsRpdo k objects attributes r)
      [.write (σ := σ) ⟨objects.comm, 1⟩ (.ofUInt32 (w ||| CobIdWord.invalidBit))]
      (HoldsRpdo k objects attributes disabled) :=
    leads_rpdoComm rfl fun nmt => Rpdo.writeComm_word nmt hp hv
      ((CobIdWord.hasReservedBits_or_invalidBit w).trans hc.plain)
  have hmap : Leads (HoldsRpdo k objects attributes disabled)
      (mappingWrites (σ := σ) objects.map c.mappings) (HoldsRpdo k objects attributes mapped) :=
    leads_rpdoMapping (r := disabled) hp hdisabled hc.length_le hm
  have htype : Leads (HoldsRpdo k objects attributes mapped)
      [.write (σ := σ) ⟨objects.comm, 2⟩ [c.transmissionType]]
      (HoldsRpdo k objects attributes typed) :=
    leads_rpdoComm rfl fun nmt => Rpdo.writeComm_type (r := mapped) nmt hp hc.unreserved
  have henable : Leads (HoldsRpdo k objects attributes typed)
      [.write (σ := σ) ⟨objects.comm, 1⟩ (.ofUInt32 w)] (HoldsRpdo k objects attributes enabled) :=
    leads_rpdoComm rfl fun nmt => Rpdo.writeComm_word (r := typed) nmt hp hdisabled hc.plain
  have hend : enabled = (c.apply r).restart attributes := by
    have hword : (c.apply r).params.cobId = r.params.stripNodeId w :=
      congrArg r.params.stripNodeId hw
    have hempty : typed.slots = .none := by
      show (if _ then disabled.slots else disabled.slots.set .second none) = .none
      rw [hslots]
      exact ite_self _
    let written : Rpdo := { typed with
      params := typed.params.setCobId (r.params.stripNodeId w) }
    let loaded : Rpdo := { c.apply r with mapping := m }
    have hparams : written.params = loaded.params :=
      PdoParams.configure_of_writes hp hc.unrestricted hw _ _ _
    have hsame : written.configureCommunication (r.params.stripNodeId w) =
        loaded.configureCommunication (r.params.stripNodeId w) :=
      Rpdo.configureCommunication_congr hparams rfl (hempty.trans hs.symm) _
    rw [hloaded, hword]
    exact hsame
  rw [← hend]
  unfold RpdoConfig.writes configurationWrites
  rw [hw]
  exact hdisable.append (hmap.append (htype.append ((leads_nil _).append henable)))

end receive

section transmit
variable {k : Nat} {objects : PdoObjects} {attributes : Attributes} {t t' : Tpdo}

/-- The node has this transmit PDO, and its parameters stand in the dictionary. -/
abbrev HoldsTpdo := Holds Device.tpdos .tpdoComm .tpdoMap

theorem leads_tpdo {id : ObjectId} {data : Bytes}
    (hwrite : ∀ n : Node, HoldsTpdo k objects attributes t n → n.device.write id data =
      (.ok (), { n.device with tpdos := n.device.tpdos.set k t' })) :
    Leads (HoldsTpdo k objects attributes t) [.write (σ := σ) id data]
      (HoldsTpdo k objects attributes t') := by
  refine Holds.leads fun n h => ⟨_, hwrite n h, rfl, rfl, ?_, ?_⟩
  · simp only [Device.attributes, List.length_set]
  · exact List.getElem?_set_self (List.getElem?_eq_some_iff.mp h.pdo).1

theorem leads_tpdoComm {sub : UInt8} {data : Bytes}
    (hsub : Device.checkCommSub (.tpdoComm k) sub = .ok ())
    (ht : ∀ nmt, t.writeComm nmt sub data = .ok t') :
    Leads (HoldsTpdo k objects attributes t) [.write (σ := σ) ⟨objects.comm, sub⟩ data]
      (HoldsTpdo k objects attributes t') :=
  leads_tpdo fun n h => Device.write_tpdoComm h.comm hsub h.pdo (ht n.device.nmt)

theorem leads_tpdoMap {sub : UInt8} {data : Bytes} {w : MappingWrite}
    (hw : ∀ d : Device, d.started = true → d.attributes = attributes →
      checkMappingWrite t.params t.valid t.mapping .transmit d.attributes d.started d.nmt sub data =
        .ok w)
    (ht : ∀ errors, t.applyMapping attributes errors w = ⟨t', errors, .ok ()⟩) :
    Leads (HoldsTpdo k objects attributes t) [.write (σ := σ) ⟨objects.map, sub⟩ data]
      (HoldsTpdo k objects attributes t') :=
  leads_tpdo fun n h => Device.write_tpdoMap h.map h.pdo (hw n.device h.started h.attributes_eq)
    (h.attributes_eq ▸ ht n.device.errors)

theorem leads_tpdoCount {m : MappedPdo} {n : UInt8} (hp : t.params.restrictions = .none)
    (hv : t.valid = false) (hn : n.toNat ≤ maxMappings)
    (hm : t.params.resolve attributes .transmit n = .ok m) :
    Leads (HoldsTpdo k objects attributes t) [.write (σ := σ) ⟨objects.map, 0⟩ [n]]
      (HoldsTpdo k objects attributes { t.remap m with
        params := { t.params with mappingCount := n } }) := by
  refine leads_tpdoMap (w := .count n) (fun d hstarted _ => ?_) (Tpdo.applyMapping_of_ok hm)
  exact checkMappingWrite_count (PdoRestrictions.checkMap_of_eq_none hp d.nmt) hv hstarted rfl hn _ _

theorem takesMapping_tpdo (hv : t.valid = false) :
    TakesMapping σ objects.map attributes .transmit fun p m =>
      HoldsTpdo k objects attributes { t.remap m with params := p } where
  entry := by
    intro p m i w hp hm hi hw
    refine leads_tpdoMap (w := .entry i w) (fun d hstarted hattributes => ?_) fun _ => rfl
    subst hattributes
    exact hv ▸ checkMappingWrite_entry hp hstarted hm hi hw
  count := by
    intro p m m' n hp hn hm'
    exact leads_tpdoCount (t := { t.remap m with params := p }) hp hv hn hm'

theorem leads_tpdoMapping (hp : t.params.restrictions = .none) (hv : t.valid = false)
    {ms : List UInt32} (hle : ms.length ≤ maxMappings) {m : MappedPdo}
    (hm : MappedPdo.resolve attributes .transmit (ms.map MappingDescriptor.ofWord) = .ok m) :
    Leads (HoldsTpdo k objects attributes t) (mappingWrites (σ := σ) objects.map ms)
      (HoldsTpdo k objects attributes { t.remap m with params := t.params.setMappings ms }) :=
  (takesMapping_tpdo hv).leads_mapping hp hle hm (leads_tpdoCount hp hv (Nat.zero_le _) rfl)

/-- The writes take a disabled PDO to where the configuration takes it, but a configuration that is
loaded may leave a request for a transmission behind. -/
theorem leads_tpdoConfig {c : TpdoConfig} (hp : t.params.restrictions = .none)
    (hv : t.valid = false)
    (hsum : t.params.predefinedId.toNat + t.params.nodeOffset.toNat < 2048)
    (hc : Configurable (c.cobId.getD t.params.predefinedId.toUInt32) c.transmissionType
      c.restrictions c.mappings attributes .transmit) (hstart : c.syncStart ≤ syncStartMax) :
    Leads (HoldsTpdo k objects attributes t) (c.writes (σ := σ) objects t.params.predefinedId)
      (HoldsTpdo k objects attributes { (c.apply t).restart attributes with
        sendRequested := t.sendRequested }) := by
  obtain ⟨m, hm⟩ := hc.resolves
  have hloaded := t.restart_apply hc.unreserved hstart hc.length_le hm
  generalize hw : c.cobId.getD t.params.predefinedId.toUInt32 = w at hc
  let disabled := t.applyCobId (t.params.stripNodeId (w ||| .invalidBit))
  let mapped : Tpdo := { disabled.remap m with params := disabled.params.setMappings c.mappings }
  let typed := mapped.applyTransmissionType c.transmissionType
  let inhibited := typed.applyInhibitTime c.inhibitTime
  let timed := inhibited.applyEventTime c.eventTimer
  let counted : Tpdo := { timed with syncStart := c.syncStart }
  let enabled := counted.applyCobId (counted.params.stripNodeId w)
  have hdisabled : disabled.valid = false := Tpdo.disabled_of_invalidBit hsum w
  have hdisable : Leads (HoldsTpdo k objects attributes t)
      [.write (σ := σ) ⟨objects.comm, 1⟩ (.ofUInt32 (w ||| CobIdWord.invalidBit))]
      (HoldsTpdo k objects attributes disabled) :=
    leads_tpdoComm rfl fun nmt => Tpdo.writeComm_word nmt hp hv
      ((CobIdWord.hasReservedBits_or_invalidBit w).trans hc.plain)
  have hmap : Leads (HoldsTpdo k objects attributes disabled)
      (mappingWrites (σ := σ) objects.map c.mappings) (HoldsTpdo k objects attributes mapped) :=
    leads_tpdoMapping (t := disabled) hp hdisabled hc.length_le hm
  have htype : Leads (HoldsTpdo k objects attributes mapped)
      [.write (σ := σ) ⟨objects.comm, 2⟩ [c.transmissionType]]
      (HoldsTpdo k objects attributes typed) :=
    leads_tpdoComm rfl fun nmt => Tpdo.writeComm_type (t := mapped) nmt hp hc.unreserved
  have hinhibit : Leads (HoldsTpdo k objects attributes typed)
      [.write (σ := σ) ⟨objects.comm, 3⟩ (.ofUInt16 c.inhibitTime)]
      (HoldsTpdo k objects attributes inhibited) :=
    leads_tpdoComm rfl fun nmt => Tpdo.writeComm_inhibitTime (t := typed) nmt hp hdisabled _
  have htime : Leads (HoldsTpdo k objects attributes inhibited)
      [.write (σ := σ) ⟨objects.comm, 5⟩ (.ofUInt16 c.eventTimer)]
      (HoldsTpdo k objects attributes timed) :=
    leads_tpdoComm rfl fun nmt => Tpdo.writeComm_eventTime (t := inhibited) nmt hp _
  have hcount : Leads (HoldsTpdo k objects attributes timed)
      [.write (σ := σ) ⟨objects.comm, 6⟩ [c.syncStart]] (HoldsTpdo k objects attributes counted) :=
    leads_tpdoComm rfl fun nmt => Tpdo.writeComm_syncStart (t := timed) nmt hp hdisabled hstart
  have henable : Leads (HoldsTpdo k objects attributes counted)
      [.write (σ := σ) ⟨objects.comm, 1⟩ (.ofUInt32 w)] (HoldsTpdo k objects attributes enabled) :=
    leads_tpdoComm rfl fun nmt => Tpdo.writeComm_word (t := counted) nmt hp hdisabled hc.plain
  have hend : enabled = { (c.apply t).restart attributes with
      sendRequested := t.sendRequested } := by
    have hword : (c.apply t).params.cobId = t.params.stripNodeId w :=
      congrArg t.params.stripNodeId hw
    have hparams : counted.params.setCobId (t.params.stripNodeId w) = (c.apply t).params :=
      PdoParams.configure_of_writes hp hc.unrestricted hw _ _ _
    rw [hloaded, hword]
    show { { counted with
      params := counted.params.setCobId (t.params.stripNodeId w) }.configureCommunication
        (t.params.stripNodeId w) with syncCounter := Tpdo.counterUnset } = _
    rw [hparams]
    rfl
  rw [← hend]
  unfold TpdoConfig.writes configurationWrites
  rw [hw]
  exact hdisable.append (hmap.append (htype.append
    ((hinhibit.append (htime.append hcount)).append henable)))

end transmit

/-! ### A node that was just started -/

theorem getElem?_mapIdx_replicate {α : Type} {k n : Nat} (hk : k < n) (f : Nat → α → α) (a : α) :
    (List.mapIdx f (List.replicate n a))[k]? = some (f k a) := by
  rw [List.getElem?_mapIdx, List.getElem?_replicate, if_pos hk]
  rfl

section start
variable (id : NodeId) (rpdos tpdos : Nat) (dictionary : Dictionary) {k : Nat}

theorem rpdo_start (hk : k < rpdos) : ∃ r,
    (start id (Device.fresh rpdos tpdos dictionary)).device.rpdos[k]? = some r ∧
      r.params.Unused (predefinedRpdoId k) id.offset ∧ r.valid = false ∧ r.slots = .none := by
  let d := Device.assignIdentity { Device.fresh rpdos tpdos dictionary with started := true }
    id.offset
  let r : Rpdo := { Rpdo.fresh with
    params := PdoParams.fresh.assignIdentity (predefinedRpdoId k) id.offset }
  have hassigned : d.rpdos[k]? = some r := getElem?_mapIdx_replicate hk _ _
  refine ⟨r.restart d.attributes, ?_, ?_, ?_, Rpdo.slots_restart rfl _⟩
  · show d.resetCommunication.rpdos[k]? = _
    rw [Device.resetCommunication_rpdos, List.getElem?_map, hassigned]
    rfl
  · rw [r.params_restart]
    exact PdoParams.unused_fresh _ _
  · rw [r.valid_restart]
    exact PdoParams.isSome_effectiveId_fresh (predefinedId_le k).1 id _

theorem tpdo_start (hk : k < tpdos) : ∃ t,
    (start id (Device.fresh rpdos tpdos dictionary)).device.tpdos[k]? = some t ∧
      t.params.Unused (predefinedTpdoId k) id.offset ∧ t.valid = false ∧ t.sendRequested = false := by
  let d := Device.assignIdentity { Device.fresh rpdos tpdos dictionary with started := true }
    id.offset
  let t : Tpdo := { Tpdo.fresh with
    params := PdoParams.fresh.assignIdentity (predefinedTpdoId k) id.offset }
  have hassigned : d.tpdos[k]? = some t := getElem?_mapIdx_replicate hk _ _
  have hunused : t.params.Unused (predefinedTpdoId k) id.offset := PdoParams.unused_fresh _ _
  have hschedulable : t.isSchedulable = true := by
    unfold Tpdo.isSchedulable
    rw [hunused.transmissionType_eq]
    rfl
  refine ⟨t.restart d.attributes, ?_, ?_, ?_, ?_⟩
  · show d.resetCommunication.tpdos[k]? = _
    rw [Device.resetCommunication_tpdos, List.getElem?_map, hassigned]
    rfl
  · rw [t.params_restart]
    exact hunused
  · rw [Tpdo.valid_restart hschedulable]
    exact PdoParams.isSome_effectiveId_fresh (predefinedId_le k).2 id _
  · rw [t.sendRequested_restart, hunused.transmissionType_eq]
    rfl

end start

/-- **A PDO that is configured by writes to its objects ends up as if its configuration had been
loaded.**  The node was just started, under any node identifier and with any number of fresh PDOs and
any objects, among them those of the PDO.  All writes are accepted.  Of a transmit PDO only a pending
request for a transmission differs: loading a configuration may make one, and writes do not. -/
theorem writes_agree_with_load (id : NodeId) (rpdos tpdos : Nat) (dictionary : Dictionary)
    (c : DeviceConfig) (hid : NodeId.ofRaw c.nodeId = .ok id) (objects : PdoObjects) (k : Nat) :
    let n := start id (Device.fresh rpdos tpdos dictionary)
    (∀ cfg, c.rpdos[k]? = some cfg → k < rpdos →
      n.device.object objects.comm = .ok (.parameter (.rpdoComm k)) →
      n.device.object objects.map = .ok (.parameter (.rpdoMap k)) →
      Configurable (cfg.cobId.getD (predefinedRpdoId k).toUInt32) cfg.transmissionType
        cfg.restrictions cfg.mappings n.device.attributes .receive →
      ∃ r, (n.loadConfig c).device.rpdos[k]? = some r ∧
        n.Along Accepts (cfg.writes (σ := σ) objects (predefinedRpdoId k)) ∧
        (n.run (cfg.writes (σ := σ) objects (predefinedRpdoId k))).device.rpdos[k]? = some r) ∧
    (∀ cfg, c.tpdos[k]? = some cfg → k < tpdos →
      n.device.object objects.comm = .ok (.parameter (.tpdoComm k)) →
      n.device.object objects.map = .ok (.parameter (.tpdoMap k)) →
      Configurable (cfg.cobId.getD (predefinedTpdoId k).toUInt32) cfg.transmissionType
        cfg.restrictions cfg.mappings n.device.attributes .transmit →
      cfg.syncStart ≤ syncStartMax →
      ∃ t, (n.loadConfig c).device.tpdos[k]? = some t ∧
        n.Along Accepts (cfg.writes (σ := σ) objects (predefinedTpdoId k)) ∧
        (n.run (cfg.writes (σ := σ) objects (predefinedTpdoId k))).device.tpdos[k]? =
          some { t with sendRequested := false }) := by
  intro n
  refine ⟨fun cfg hcfg hk hcomm hmap hc => ?_, fun cfg hcfg hk hcomm hmap hc hstart => ?_⟩
  · obtain ⟨r, hr, hunused, hvalid, hslots⟩ := rpdo_start id rpdos tpdos dictionary hk
    have hheld : HoldsRpdo k objects n.device.attributes r n := ⟨hcomm, hmap, rfl, rfl, hr⟩
    have hloaded := rpdo_loadConfig_id hid hcfg hr
    obtain ⟨w, hw⟩ := hunused.exists_assignIdentity_eq
    rw [hw] at hloaded
    rw [← hunused.predefinedId_eq] at hc ⊢
    have hwrites : Leads (HoldsRpdo k objects n.device.attributes r)
        (cfg.writes (σ := σ) objects r.params.predefinedId) _ :=
      leads_rpdoConfig hunused.restrictions_eq hvalid hslots
        (hunused.toNat_add_lt (predefinedId_le k).1) hc
    obtain ⟨haccepted, hrun⟩ := hwrites n hheld
    exact ⟨_, hloaded, haccepted, hrun.pdo⟩
  · obtain ⟨t, ht, hunused, hvalid, hrequest⟩ := tpdo_start id rpdos tpdos dictionary hk
    have hheld : HoldsTpdo k objects n.device.attributes t n := ⟨hcomm, hmap, rfl, rfl, ht⟩
    have hloaded := tpdo_loadConfig_id hid hcfg ht
    obtain ⟨w, hw⟩ := hunused.exists_assignIdentity_eq
    rw [hw] at hloaded
    rw [← hunused.predefinedId_eq] at hc ⊢
    have hwrites : Leads (HoldsTpdo k objects n.device.attributes t)
        (cfg.writes (σ := σ) objects t.params.predefinedId) _ :=
      leads_tpdoConfig hunused.restrictions_eq hvalid
        (hunused.toNat_add_lt (predefinedId_le k).2) hc hstart
    obtain ⟨haccepted, hrun⟩ := hwrites n hheld
    rw [hrequest] at hrun
    exact ⟨_, hloaded, haccepted, hrun.pdo⟩

/-- The objects of a lamp that follows a received brightness and reports its own. -/
def lampObjects : Dictionary :=
  let byte := AppObject.var (SubInfo.u8.readWrite.mappable .both) (.ofNumber .u8 0)
  ⟨[⟨0x1400, .parameter (.rpdoComm 0)⟩, ⟨0x1600, .parameter (.rpdoMap 0)⟩,
    ⟨0x1800, .parameter (.tpdoComm 0)⟩, ⟨0x1A00, .parameter (.tpdoMap 0)⟩,
    ⟨0x2000, .application byte⟩, ⟨0x2001, .application byte⟩]⟩

/-- The lamp, just started. -/
def lamp : Node :=
  start (.configured ⟨5, by decide, by decide⟩) (Device.fresh 1 1 lampObjects)

/-- The parameters of its PDOs: the brightness is received behind a dummy entry, under the
pre-defined identifier, and both values are sent at every third SYNC. -/
def lampConfig : DeviceConfig :=
  { DeviceConfig.initial with
    nodeId := 5
    rpdos := [⟨none, 255, [0x00050008, 0x20000008], 0⟩]
    tpdos := [⟨some 0x40000185, 3, 20, 100, 1, [0x20010008, 0x20000008], 0⟩] }

theorem writes_agree_with_load_lamp :
    ∃ cr ct r t, lampConfig.rpdos[0]? = some cr ∧ lampConfig.tpdos[0]? = some ct ∧
      (lamp.loadConfig lampConfig).device.rpdos[0]? = some r ∧ r.valid = true ∧
      (lamp.loadConfig lampConfig).device.tpdos[0]? = some t ∧ t.valid = true ∧
      (lamp.run (cr.writes (σ := Bus) ⟨0x1400, 0x1600⟩ 0x200)).device.rpdos[0]? = some r ∧
      (lamp.run (ct.writes (σ := Bus) ⟨0x1800, 0x1A00⟩ 0x180)).device.tpdos[0]? =
        some { t with sendRequested := false } := by
  obtain ⟨hrpdo, _⟩ := writes_agree_with_load (σ := Bus) (.configured ⟨5, by decide, by decide⟩) 1
    1 lampObjects lampConfig rfl ⟨0x1400, 0x1600⟩ 0
  obtain ⟨_, htpdo⟩ := writes_agree_with_load (σ := Bus) (.configured ⟨5, by decide, by decide⟩) 1
    1 lampObjects lampConfig rfl ⟨0x1800, 0x1A00⟩ 0
  have hmapped : ∃ m, MappedPdo.resolve lamp.device.attributes .receive
      ([0x00050008, 0x20000008].map MappingDescriptor.ofWord) = .ok m := ⟨_, rfl⟩
  have hmapped' : ∃ m, MappedPdo.resolve lamp.device.attributes .transmit
      ([0x20010008, 0x20000008].map MappingDescriptor.ofWord) = .ok m := ⟨_, rfl⟩
  obtain ⟨r, hr, _, hrun⟩ := hrpdo _ rfl (by decide) rfl rfl
    ⟨by decide, by decide, rfl, by decide, hmapped⟩
  obtain ⟨t, ht, _, hrun'⟩ := htpdo _ rfl (by decide) rfl rfl
    ⟨by decide, by decide, rfl, by decide, hmapped'⟩ (by decide)
  have hvalid : (lamp.loadConfig lampConfig).device.rpdos[0]?.map Rpdo.valid = some true := by
    decide
  have hvalid' : (lamp.loadConfig lampConfig).device.tpdos[0]?.map Tpdo.valid = some true := by
    decide
  change (lamp.loadConfig lampConfig).device.rpdos[0]? = some r at hr
  change (lamp.loadConfig lampConfig).device.tpdos[0]? = some t at ht
  rw [hr] at hvalid
  rw [ht] at hvalid'
  exact ⟨_, _, r, t, rfl, rfl, hr, Option.some.inj hvalid, ht, Option.some.inj hvalid', hrun,
    hrun'⟩

end Node

end Canopen
