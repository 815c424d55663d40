import Canopen.Proofs.CheckedDictionary
import Canopen.Proofs.Configuration
import Canopen.Proofs.ValueTransport

/-! # Nodes with checked operations

The reception of a frame and the ticks of a node, with a checked result for every operation on the
way.  A tick starts and ends with the cell that receive PDOs use for dummy entries.

In every node that can be reached the mappings of the PDOs are well formed, and their pre-defined
identifiers are small: they are given to the PDOs with the identifier of the node, and nothing else
changes them (`Node.Reached.hasSmallIds`).  So none of the checked operations ever fails
(`Node.operations_in_bounds`). -/

namespace Canopen

/-! ### Ticks and frames -/

namespace Device

/-- Run the SYNC object for a tick, and send its message if it is due. -/
def processSyncChecked {σ : Type} [Transport σ] (d : Device) (elapsed : Micros) (nmt : NmtState)
    (link : σ) : Option (SyncEvent × Transmission × Device × σ) := do
  let tick ← d.sync.advanceChecked elapsed nmt
  let (sent, link) := sendFrame tick.frame link
  let errors ← d.errors.noteSyncChecked sent
  let errors ← errors.noteSupervisionChecked tick
  return (tick.event, sent, { d with sync := tick.next, errors := errors }, link)

def tickRpdosChecked (syncOccurred toggle : Bool) (nmt : NmtState) : List Rpdo → Dictionary →
    Scratch → Option ((List (Option Payload) × List Rpdo × Dictionary) × Scratch)
  | [], objects, s => return (([], [], objects), s)
  | r :: rs, objects, s => do
    let ((payload, r, objects), s) ← r.processChecked objects s syncOccurred toggle nmt
    let ((payloads, rs, objects), s) ← tickRpdosChecked syncOccurred toggle nmt rs objects s
    return ((payload :: payloads, r :: rs, objects), s)

def noticeChangeChecked (t : Tpdo) (objects : Dictionary) : Option Tpdo :=
  if t.sendRequested then return t
  else do
    return if ← t.isChangeOfStateChecked objects then t.requestSend else t

def tickTpdosChecked {σ : Type} [Transport σ] (objects : Dictionary) (sync : SyncState)
    (syncOccurred : Bool) (elapsed : Micros) (nmt : NmtState) : List Tpdo → ErrorStatus → σ →
    Option (List Transmission × List Tpdo × ErrorStatus × σ)
  | [], errors, link => return ([], [], errors, link)
  | t :: ts, errors, link => do
    let t ← noticeChangeChecked t objects
    let (sent, t, link) ← t.processChecked objects sync syncOccurred elapsed nmt link
    let errors ← errors.notePdoChecked sent
    let (sents, ts, errors, link) ←
      tickTpdosChecked objects sync syncOccurred elapsed nmt ts errors link
    return (sent :: sents, t :: ts, errors, link)

def tickChecked {σ : Type} [Transport σ] (d : Device) (elapsed : Micros) (link : σ) (s : Scratch) :
    Option ((TickReport × Device × σ) × Scratch) := do
  let (event, syncSent, d, link) ← d.processSyncChecked elapsed d.nmt link
  let link := if event = .windowViolated then Transport.clearPendingSync link else link
  let syncOccurred := event == .sync
  let ((commits, rpdos, objects), s) ←
    tickRpdosChecked syncOccurred d.sync.toggle d.nmt d.rpdos d.dictionary s
  let (transmissions, tpdos, errors, link) ←
    tickTpdosChecked objects d.sync syncOccurred elapsed d.nmt d.tpdos d.errors link
  return ((⟨event, syncSent, commits, transmissions⟩,
    { d with rpdos := rpdos, tpdos := tpdos, errors := errors, dictionary := objects }, link), s)

def receiveChecked (d : Device) (f : Frame) : Option (Reception × Device) :=
  if f.id = d.sync.cobId then do
    let (accepted, sync) ← d.sync.receiveChecked f d.nmt
    return (.sync accepted, { d with sync := sync })
  else return d.receive f

theorem processSyncChecked_eq {σ : Type} [Transport σ] (d : Device) (elapsed : Micros)
    (nmt : NmtState) (link : σ) :
    d.processSyncChecked elapsed nmt link = some (d.processSync elapsed nmt link) := by
  unfold processSyncChecked processSync
  simp only [SyncState.advanceChecked_eq, ErrorStatus.noteSyncChecked_eq,
    ErrorStatus.noteSupervisionChecked_eq, Option.bind_eq_bind, Option.bind_some]
  rfl

theorem tickRpdosChecked_eq (syncOccurred toggle : Bool) (nmt : NmtState) {rs : List Rpdo}
    (hrs : ∀ r ∈ rs, r.mapping.WellFormed) (objects : Dictionary) (s : Scratch) :
    ∃ s', tickRpdosChecked syncOccurred toggle nmt rs objects s =
      some (tickRpdos syncOccurred toggle nmt rs objects, s') := by
  induction rs generalizing objects s with
  | nil => exact ⟨s, rfl⟩
  | cons r rs ih =>
      obtain ⟨s₁, hr⟩ := Rpdo.processChecked_eq (hrs r List.mem_cons_self) objects s syncOccurred
        toggle nmt
      obtain ⟨s₂, hrest⟩ := ih (fun r hr => hrs r (List.mem_cons_of_mem _ hr))
        (r.process objects syncOccurred toggle nmt).2.2 s₁
      refine ⟨s₂, ?_⟩
      unfold tickRpdosChecked tickRpdos
      simp only [hr, hrest, Option.bind_eq_bind, Option.bind_some]
      rfl

theorem noticeChangeChecked_eq {t : Tpdo} (ht : t.mapping.WellFormed) (objects : Dictionary) :
    noticeChangeChecked t objects = some (noticeChange t objects) := by
  unfold noticeChangeChecked noticeChange
  rw [Tpdo.isChangeOfStateChecked_eq ht]
  cases t.sendRequested <;> rfl

theorem tickTpdosChecked_eq {σ : Type} [Transport σ] (objects : Dictionary) (sync : SyncState)
    (syncOccurred : Bool) (elapsed : Micros) (nmt : NmtState) {ts : List Tpdo}
    (hts : ∀ t ∈ ts, t.mapping.WellFormed) (errors : ErrorStatus) (link : σ) :
    tickTpdosChecked objects sync syncOccurred elapsed nmt ts errors link =
      some (tickTpdos objects sync syncOccurred elapsed nmt ts errors link) := by
  induction ts generalizing errors link with
  | nil => rfl
  | cons t ts ih =>
      have ht := hts t List.mem_cons_self
      have hnotice := noticeChangeChecked_eq ht objects
      have hmapping : (noticeChange t objects).mapping.WellFormed := by
        rw [(t.sameSetup_noticeChange objects).mapping]
        exact ht
      have hprocess := Tpdo.processChecked_eq hmapping objects sync syncOccurred elapsed nmt link
      have hrest := ih fun t ht => hts t (List.mem_cons_of_mem _ ht)
      unfold tickTpdosChecked tickTpdos
      simp only [hnotice, hprocess, hrest, ErrorStatus.notePdoChecked_eq, Option.bind_eq_bind,
        Option.bind_some]
      rfl

theorem tickChecked_eq {σ : Type} [Transport σ] {d : Device} (hd : d.Consistent)
    (elapsed : Micros) (link : σ) (s : Scratch) :
    ∃ s', d.tickChecked elapsed link s = some (d.tick elapsed link, s') := by
  have hrpdos : ∀ r ∈ (d.processSync elapsed d.nmt link).2.2.1.rpdos, r.mapping.WellFormed :=
    fun r hr => (hd.rpdos r hr).mapping
  have htpdos : ∀ t ∈ (d.processSync elapsed d.nmt link).2.2.1.tpdos, t.mapping.WellFormed :=
    fun t ht => (hd.tpdos t ht).mapping
  obtain ⟨s', hs'⟩ := tickRpdosChecked_eq ((d.processSync elapsed d.nmt link).1 == .sync)
    (d.processSync elapsed d.nmt link).2.2.1.sync.toggle
    (d.processSync elapsed d.nmt link).2.2.1.nmt hrpdos
    (d.processSync elapsed d.nmt link).2.2.1.dictionary s
  refine ⟨s', ?_⟩
  unfold tickChecked tick
  simp only [processSyncChecked_eq, hs', tickTpdosChecked_eq _ _ _ _ _ htpdos, Option.bind_eq_bind,
    Option.bind_some]
  rfl

theorem receiveChecked_eq (d : Device) (f : Frame) : d.receiveChecked f = some (d.receive f) := by
  unfold receiveChecked
  by_cases h : f.id = d.sync.cobId
  · rw [if_pos h, SyncState.receiveChecked_eq, receive, if_pos h]
    rfl
  · rw [if_neg h]
    rfl

end Device

namespace Node

def tickChecked {σ : Type} [Transport σ] (n : Node) (now : UInt64) (link : σ) (s : Scratch) :
    Option ((TickReport × Node × σ) × Scratch) := do
  let ((report, device, link), s) ←
    n.device.tickChecked (Micros.elapsed n.lastTick now) link s
  return ((report, { n with lastTick := some now, device := device }, link), s)

def receiveChecked (n : Node) (f : Frame) : Option (Reception × Node) := do
  let (reception, device) ← n.device.receiveChecked f
  return (reception, { n with device := device })

def writeChecked (n : Node) (id : ObjectId) (data : Bytes) : Option (WriteOutcome × Node) := do
  let (outcome, device) ← n.device.writeChecked id data
  return (outcome, { n with device := device })

end Node

/-! ### Pre-defined identifiers -/

section step
variable {σ : Type} {n : Node} {k : Nat} {e : Event σ}

theorem Rpdo.Stepped.hasSmallId {r r' : Rpdo} (h : r.Stepped n k e r') (he : ¬ e.IsReset)
    (hr : r.params.HasSmallId) : r'.params.HasSmallId := by
  cases h with
  | same => exact hr
  | taken syncOccurred toggle =>
      obtain ⟨s, hs⟩ := r.exists_slots_of_take syncOccurred toggle n.device.nmt
      rw [hs]
      exact hr
  | staged f _ _ _ => exact hr
  | comm _ hw =>
      rcases writeComm_ok hw with ⟨_, w, stored, _, _, rfl⟩ | ⟨_, t, _, rfl⟩
      · exact hr
      · exact hr
  | map hw =>
      obtain ⟨_, _, _, ⟨_, count, _, _, rfl⟩ | ⟨_, i, word, rfl⟩⟩ := checkMappingWrite_ok hw
      · obtain ⟨stored, hpdo⟩ := r.exists_applyMapping_count n.device.attributes n.device.errors count
        rw [hpdo]
        exact hr
      · exact hr
  | reset params attributes hreset => exact absurd hreset he

theorem Tpdo.Stepped.hasSmallId [Transport σ] {t t' : Tpdo} (h : t.Stepped n k e t')
    (he : ¬ e.IsReset) (ht : t.params.HasSmallId) : t'.params.HasSmallId := by
  cases h with
  | same => exact ht
  | requested _ => exact ht
  | processed now link link' _ =>
      rw [(t.sameSetup_tick _ _ _ _ _ _).params]
      exact ht
  | comm _ hw =>
      rcases writeComm_ok hw with ⟨_, w, stored, _, _, rfl⟩ | ⟨type, _, rfl⟩ | ⟨_, time, rfl⟩ |
        ⟨time, rfl⟩ | ⟨_, start, _, rfl⟩
      all_goals exact ht
  | map hw =>
      obtain ⟨_, _, _, ⟨_, count, _, _, rfl⟩ | ⟨_, i, word, rfl⟩⟩ := checkMappingWrite_ok hw
      · obtain ⟨stored, hpdo⟩ := t.exists_applyMapping_count n.device.attributes n.device.errors count
        rw [hpdo]
        exact ht
      · exact ht
  | reset params inhibitTime eventTime syncStart attributes hreset => exact absurd hreset he

end step

namespace Device

theorem hasSmallIds_assignIdentity (d : Device) (offset : UInt8) :
    (d.assignIdentity offset).HasSmallIds where
  rpdos := by
    intro r hr
    obtain ⟨k, hk, rfl⟩ := List.mem_mapIdx.mp hr
    show ((d.rpdos[k]).params.assignIdentity _ _).predefinedId.toNat ≤ 0x500
    rw [(PdoParams.assignIdentity_ids _ _ _).1]
    exact (predefinedId_le k).1
  tpdos := by
    intro t ht
    obtain ⟨k, hk, rfl⟩ := List.mem_mapIdx.mp ht
    show ((d.tpdos[k]).params.assignIdentity _ _).predefinedId.toNat ≤ 0x500
    rw [(PdoParams.assignIdentity_ids _ _ _).1]
    exact (predefinedId_le k).2

theorem HasSmallIds.resetCommunication {d : Device} (h : d.HasSmallIds) :
    d.resetCommunication.HasSmallIds where
  rpdos := by
    intro r hr
    rw [resetCommunication_rpdos] at hr
    obtain ⟨r₀, hr₀, rfl⟩ := List.mem_map.mp hr
    rw [r₀.params_restart]
    exact h.rpdos r₀ hr₀
  tpdos := by
    intro t ht
    rw [resetCommunication_tpdos] at ht
    obtain ⟨t₀, ht₀, rfl⟩ := List.mem_map.mp ht
    rw [t₀.params_restart]
    exact h.tpdos t₀ ht₀

end Device

namespace Node

variable {σ : Type} [Transport σ] {n : Node} {e : Event σ}

/-- A reset either keeps the pre-defined identifiers or follows a new assignment of them. -/
theorem hasSmallIds_of_isReset (he : e.IsReset) (h : n.device.HasSmallIds) :
    (n.step e).device.HasSmallIds := by
  cases e with
  | setNodeId id => exact (n.device.hasSmallIds_assignIdentity id.offset).resetCommunication
  | reset => exact h.resetCommunication
  | loadConfig c =>
      obtain ⟨id, d, hd, hrpdos, htpdos⟩ := n.exists_of_loadConfig c
      have hassigned := n.device.hasSmallIds_assignIdentity id.offset
      have hstored : d.HasSmallIds := by
        refine ⟨fun r hr => ?_, fun t ht => ?_⟩
        · obtain ⟨k, hk⟩ := List.mem_iff_getElem?.mp hr
          rw [hrpdos] at hk
          obtain ⟨r₀, hr₀, rfl | ⟨cfg, rfl⟩⟩ := exists_of_applyEach hk
          · exact hassigned.rpdos r (List.mem_of_getElem? hr₀)
          · exact hassigned.rpdos r₀ (List.mem_of_getElem? hr₀)
        · obtain ⟨k, hk⟩ := List.mem_iff_getElem?.mp ht
          rw [htpdos] at hk
          obtain ⟨t₀, ht₀, rfl | ⟨cfg, rfl⟩⟩ := exists_of_applyEach hk
          · exact hassigned.tpdos t (List.mem_of_getElem? ht₀)
          · exact hassigned.tpdos t₀ (List.mem_of_getElem? ht₀)
      show (n.loadConfig c).device.HasSmallIds
      rw [hd]
      exact hstored.resetCommunication
  | _ => cases he

theorem hasSmallIds_step (n : Node) (e : Event σ) (h : n.device.HasSmallIds) :
    (n.step e).device.HasSmallIds := by
  by_cases he : e.IsReset
  · exact hasSmallIds_of_isReset he h
  · constructor
    · intro r' hr'
      obtain ⟨k, hk⟩ := List.mem_iff_getElem?.mp hr'
      obtain ⟨r, hr, hstep⟩ := rpdo_step hk
      exact hstep.hasSmallId he (h.rpdos r (List.mem_of_getElem? hr))
    · intro t' ht'
      obtain ⟨k, hk⟩ := List.mem_iff_getElem?.mp ht'
      obtain ⟨t, ht, hstep⟩ := tpdo_step hk
      exact hstep.hasSmallId he (h.tpdos t (List.mem_of_getElem? ht))

theorem Reached.hasSmallIds (h : n.Reached σ) : n.device.HasSmallIds := by
  obtain ⟨id, rpdos, tpdos, dictionary, es, rfl⟩ := h
  have hstart : (Node.start id (Device.fresh rpdos tpdos dictionary)).device.HasSmallIds :=
    (Device.hasSmallIds_assignIdentity _ id.offset).resetCommunication
  exact run_invariant (I := fun n => n.device.HasSmallIds) hasSmallIds_step hstart es

/-! ### All operations of a node -/

/-- **No operation of a node leaves its bounds.**  Whatever has happened to a node that was started
on a device with any number of fresh PDOs and any object dictionary: every tick, at any reading of
the clock and with any content of the cell for dummy entries, every frame, and every read and write
of the object dictionary have a result when each slice, each copy and each sum, difference, product
and shift on the way is checked.  The result is that of the unchecked operation, so the content of
the cell for dummy entries has no influence on it. -/
theorem operations_in_bounds (h : n.Reached σ) :
    (∀ (now : UInt64) (link : σ) (s : Scratch),
      ∃ s', n.tickChecked now link s = some (n.tick now link, s')) ∧
    (∀ f, n.receiveChecked f = some (n.receive f)) ∧
    (∀ id offset buffer, (n.device.readChecked id offset buffer).run =
      some (n.device.readInto id offset buffer)) ∧
    (∀ id data, n.writeChecked id data = some (n.write id data)) ∧
    (∀ id data, n.device.writeLeadingChecked id data = some (n.device.writeLeading id data)) := by
  have hids := h.hasSmallIds
  refine ⟨fun now link s => ?_, fun f => ?_, fun id offset buffer => ?_, fun id data => ?_,
    fun id data => ?_⟩
  · obtain ⟨s', hs'⟩ := Device.tickChecked_eq h.consistent (Micros.elapsed n.lastTick now) link s
    refine ⟨s', ?_⟩
    unfold tickChecked
    rw [hs']
    rfl
  · unfold receiveChecked
    rw [Device.receiveChecked_eq]
    rfl
  · exact Device.readChecked_eq hids id offset buffer
  · unfold writeChecked
    rw [Device.writeChecked_eq hids]
    rfl
  · exact Device.writeLeadingChecked_eq hids id data

/-- A node with the largest identifier, whose PDOs fill a frame with a dummy entry of four bytes and
a number.  A frame is staged. -/
def padded : Node :=
  let word := AppObject.var (SubInfo.u32.readWrite.mappable .both) (.ofNumber .u32 0x11223344)
  let config := { DeviceConfig.initial with
    nodeId := 127
    rpdos := [⟨none, 254, [0x00070020, 0x21000020], 0⟩]
    tpdos := [⟨none, 254, 65535, 65535, 0, [0x21000020, 0x00070020], 0⟩] }
  (Node.start .unconfigured (Device.fresh 1 1 ⟨[⟨0x1400, .parameter (.rpdoComm 0)⟩,
      ⟨0x2100, .application word⟩]⟩)).run
    ([.loadConfig config, .setNmt .operational,
      .frame (.carrying (.std 0x27F) [1, 2, 3, 4, 5, 6, 7, 8])] : List (Event Bus))

theorem padded_reached : padded.Reached Bus := ⟨.unconfigured, 1, 1, _, _, rfl⟩

/-- What the node does at its bounds: a tick commits the staged frame and sends another one, a frame
claims more bytes than there are, the end of an identifier word is read into a longer buffer, and
too much is written. -/
theorem operations_in_bounds_padded :
    let scratch : Scratch := ⟨Bytes.zeros scratchSize, rfl⟩
    let f : Frame := { Frame.carrying (.std 0x27F) [1, 2, 3, 4, 5, 6, 7, 8] with dlc := 255 }
    (∃ s, padded.tickChecked 0xFFFFFFFFFFFFFFFF (Bus.ofCapacity 1) scratch =
      some (padded.tick 0xFFFFFFFFFFFFFFFF (Bus.ofCapacity 1), s)) ∧
    padded.receiveChecked f = some (padded.receive f) ∧
    (padded.device.readChecked ⟨0x1400, 1⟩ 3 [9, 9, 9]).run =
      some (padded.device.readInto ⟨0x1400, 1⟩ 3 [9, 9, 9]) ∧
    padded.writeChecked ⟨0x1400, 1⟩ [1, 2, 3, 4, 5] =
      some (padded.write ⟨0x1400, 1⟩ [1, 2, 3, 4, 5]) ∧
    padded.device.writeLeadingChecked ⟨0x2100, 0⟩ [1, 2, 3, 4, 5] =
      some (padded.device.writeLeading ⟨0x2100, 0⟩ [1, 2, 3, 4, 5]) := by
  obtain ⟨htick, hreceive, hread, hwrite, hleading⟩ := operations_in_bounds padded_reached
  exact ⟨htick _ _ _, hreceive _, hread _ _ _, hwrite _ _, hleading _ _⟩

end Node

end Canopen
