import Canopen.Proofs.PdoState

/-! # Where frames go

A device says twice which frames it consumes: by the identifiers that it lists for the acceptance
filter of its controller, and by what it does with a frame.  Both look at the identifiers of the receive
PDOs and not at their validity, so they leave out what is not valid only because a PDO that is made
invalid, by whatever operation, gives up its identifier (`Rpdo.Consistent.silent`).

The two agree (`Node.routing_agrees_with_filters`).  Several PDOs may have the identifier of a frame,
and that of the SYNC; the frame goes to one place, the SYNC object before the PDOs and these in order
(`Device.Takes`). -/

namespace Canopen

/-- The answer to whoever hands in a frame: a frame that is not consumed is given back. -/
def Reception.answer (f : Frame) : Reception → Except Frame Unit
  | .unclaimed => .error f
  | .sync _ | .rpdo _ _ => .ok ()

/-- The frame is a SYNC of the expected length, and the node listens to it. -/
def SyncState.Accepts (s : SyncState) (f : Frame) (nmt : NmtState) : Prop :=
  nmt.syncActive = true ∧ ∃ message, SyncMessage.ofFrame s.counterOverflow f = .ok message

/-- The receive PDO that takes frames with an identifier: the first valid one that has it. -/
structure Device.Takes (d : Device) (id : CanId) (k : Nat) (r : Rpdo) : Prop where
  rpdo : d.rpdos[k]? = some r
  valid : r.valid = true
  cobId : r.cobId = some id
  first : ∀ j r', j < k → d.rpdos[j]? = some r' → r'.valid = true → r'.cobId ≠ some id

theorem SyncState.receive_eq_true_iff (s : SyncState) (f : Frame) (nmt : NmtState) :
    (s.receive f nmt).1 = true ↔ s.Accepts f nmt := by
  unfold receive Accepts
  split
  · rename_i hactive
    split
    · rename_i message hmessage
      exact iff_of_true rfl ⟨hactive, message, hmessage⟩
    · rename_i fault hfault
      refine iff_of_false nofun ?_
      rintro ⟨_, message, hmessage⟩
      rw [hfault] at hmessage
      cases hmessage
  · rename_i hinactive
    exact iff_of_false nofun fun haccepts => hinactive haccepts.1

theorem Rpdo.Consistent.valid_of_cobId {r : Rpdo} (hr : r.Consistent) {id : CanId}
    (h : r.cobId = some id) : r.valid = true := by
  cases hv : r.valid with
  | true => rfl
  | false =>
      rw [hr.silent hv] at h
      cases h

namespace Device

variable {d : Device} {f : Frame} {id : CanId} {k : Nat} {r : Rpdo}

/-! ### Listed identifiers -/

theorem Consistent.valid_of_cobId (h : d.Consistent) (hr : d.rpdos[k]? = some r)
    (hid : r.cobId = some id) : r.valid = true :=
  (h.rpdos r (List.mem_of_getElem? hr)).valid_of_cobId hid

/-- The PDO that takes a frame is found by its identifier alone. -/
theorem Consistent.findIdx?_of_takes (h : d.Consistent) (ht : d.Takes id k r) :
    d.rpdos.findIdx? (fun r => r.cobId == some id) = some k := by
  obtain ⟨hlt, hget⟩ := List.getElem?_eq_some_iff.mp ht.rpdo
  refine List.findIdx?_eq_some_iff_getElem.mpr ⟨hlt, ?_, fun j hj => ?_⟩
  · rw [hget, ht.cobId]
    exact beq_self_eq_true _
  · intro hfound
    have hget' := List.getElem?_eq_getElem (Nat.lt_trans hj hlt)
    have hid := beq_iff_eq.mp hfound
    exact ht.first j _ hj hget' (h.valid_of_cobId hget' hid) hid

theorem Consistent.exists_takes (h : d.Consistent)
    (hn : d.rpdos.findIdx? (fun r => r.cobId == some id) = some k) : ∃ r, d.Takes id k r := by
  obtain ⟨hlt, hfound, hbefore⟩ := List.findIdx?_eq_some_iff_getElem.mp hn
  have hget := List.getElem?_eq_getElem hlt
  have hid := beq_iff_eq.mp hfound
  refine ⟨_, hget, h.valid_of_cobId hget hid, hid, fun j r' hj hr' _ hid' => ?_⟩
  obtain ⟨_, rfl⟩ := List.getElem?_eq_some_iff.mp hr'
  exact hbefore j hj (beq_iff_eq.mpr hid')

theorem Consistent.mem_filters_iff (h : d.Consistent) :
    id ∈ d.filters ↔ id = d.sync.cobId ∨ ∃ k r, d.Takes id k r := by
  unfold filters
  rw [List.mem_cons]
  refine or_congr_right ?_
  constructor
  · intro hmem
    obtain ⟨r, hr, hid⟩ := List.mem_filterMap.mp hmem
    cases hn : d.rpdos.findIdx? (fun r => r.cobId == some id) with
    | some k => exact ⟨k, h.exists_takes hn⟩
    | none =>
        have hnot := List.findIdx?_eq_none_iff.mp hn r hr
        rw [beq_iff_eq.mpr hid] at hnot
        cases hnot
  · rintro ⟨k, r, ht⟩
    exact List.mem_filterMap.mpr ⟨r, List.mem_of_getElem? ht.rpdo, ht.cobId⟩

/-- Listed are the identifiers of the SYNC and of the valid PDOs. -/
theorem Consistent.filters_eq (h : d.Consistent) :
    d.filters = d.sync.cobId :: (d.rpdos.filter Rpdo.valid).filterMap Rpdo.cobId := by
  have hlisted : ∀ rs : List Rpdo, (∀ r ∈ rs, r.Consistent) →
      rs.filterMap Rpdo.cobId = (rs.filter Rpdo.valid).filterMap Rpdo.cobId := by
    intro rs hrs
    induction rs with
    | nil => rfl
    | cons r rs ih =>
        have hrest := ih fun r' hr' => hrs r' (List.mem_cons_of_mem _ hr')
        cases hv : r.valid with
        | true =>
            rw [List.filter_cons_of_pos hv, List.filterMap_cons, List.filterMap_cons, hrest]
        | false =>
            have hsilent := (hrs r List.mem_cons_self).silent hv
            rw [List.filter_cons_of_neg (by simp [hv]), List.filterMap_cons_none hsilent, hrest]
  unfold filters
  rw [hlisted d.rpdos h.rpdos]

/-! ### What becomes of a frame -/

theorem Consistent.receive_of_not_mem (h : d.Consistent) (hf : f.id ∉ d.filters) :
    d.receive f = (.unclaimed, d) := by
  rw [h.mem_filters_iff, not_or] at hf
  refine receive_of_unclaimed hf.1 ?_
  cases hn : d.rpdos.findIdx? (fun r => r.cobId == some f.id) with
  | none => rfl
  | some k => exact absurd ⟨k, h.exists_takes hn⟩ hf.2

theorem Consistent.receive_of_takes (h : d.Consistent) (hid : f.id ≠ d.sync.cobId)
    (ht : d.Takes f.id k r) : d.receive f = (.rpdo k (r.isReceptive f.dlc d.nmt),
      if r.isReceptive f.dlc d.nmt then { d with rpdos := d.rpdos.set k (r.stage f d.sync.toggle) }
      else d) := by
  rw [receive_of_claimed hid (h.findIdx?_of_takes ht) ht.rpdo]
  unfold Rpdo.receive
  cases hreceptive : r.isReceptive f.dlc d.nmt with
  | true => rfl
  | false =>
      obtain ⟨hlt, hget⟩ := List.getElem?_eq_some_iff.mp ht.rpdo
      have hset : d.rpdos.set k r = d.rpdos := by rw [← hget, List.set_getElem_self]
      show (Reception.rpdo k false, { d with rpdos := d.rpdos.set k r }) = _
      rw [hset]
      rfl

theorem Consistent.answer_receive_iff (h : d.Consistent) :
    (d.receive f).1.answer f = .ok () ↔ f.id ∈ d.filters := by
  by_cases hf : f.id ∈ d.filters
  · refine iff_of_true ?_ hf
    by_cases hid : f.id = d.sync.cobId
    · rw [receive_of_id_eq hid]
      rfl
    · obtain ⟨k, r, ht⟩ := (h.mem_filters_iff.mp hf).resolve_left hid
      rw [h.receive_of_takes hid ht]
      rfl
  · refine iff_of_false ?_ hf
    rw [h.receive_of_not_mem hf]
    nofun

theorem Consistent.valid_of_receive (h : d.Consistent) {accepted : Bool}
    (hreception : (d.receive f).1 = .rpdo k accepted) :
    ∃ r, d.rpdos[k]? = some r ∧ r.valid = true := by
  have hreceived := d.receive_received f
  rw [hreception] at hreceived
  generalize (d.receive f).2 = d' at hreceived
  cases hreceived with
  | accepted _ hr hid _ => exact ⟨_, hr, h.valid_of_cobId hr hid⟩
  | dropped _ hr hid _ => exact ⟨_, hr, h.valid_of_cobId hr hid⟩

theorem notifies_receive_iff (d : Device) (f : Frame) :
    (d.receive f).1.notifies = true ↔ f.id = d.sync.cobId ∧ d.sync.Accepts f d.nmt := by
  by_cases hid : f.id = d.sync.cobId
  · rw [receive_of_id_eq hid]
    show (d.sync.receive f d.nmt).1 = true ↔ _
    rw [d.sync.receive_eq_true_iff]
    exact ⟨fun haccepts => ⟨hid, haccepts⟩, And.right⟩
  · have hreceived := d.receive_received f
    refine iff_of_false ?_ fun h => hid h.1
    generalize (d.receive f).2 = d' at hreceived
    generalize (d.receive f).1 = reception at hreceived ⊢
    cases hreceived with
    | sync h => exact absurd h hid
    | accepted _ _ _ _ => nofun
    | dropped _ _ _ _ => nofun
    | unclaimed _ => nofun

end Device

namespace Node

variable {σ : Type} [Transport σ]

/-- **What a node does with frames agrees with the identifiers that it lists.**  This is about every
frame, after every run of a node that was started on a device with any number of fresh PDOs and any
object dictionary.  A frame is consumed if and only if its identifier is listed; else it is given back
as it is and nothing changes.  A consumed frame changes the state of the SYNC object, if it has its
identifier, or else a slot of the first valid receive PDO that has its identifier, if that is receptive.
The application is notified if and only if a SYNC was accepted.  Receive PDOs that are not valid are not
listed and get no frames. -/
theorem routing_agrees_with_filters (id : NodeId) (rpdos tpdos : Nat) (dictionary : Dictionary)
    (es : List (Event σ)) (f : Frame) :
    let n := (Node.start id (Device.fresh rpdos tpdos dictionary)).run es
    let d := n.device
    ((n.receive f).1.answer f = .ok () ↔ f.id ∈ d.filters) ∧
      (f.id ∉ d.filters → (n.receive f).1.answer f = .error f ∧ (n.receive f).2 = n) ∧
      (f.id = d.sync.cobId →
        (n.receive f).2 = { n with device := { d with sync := (d.sync.receive f d.nmt).2 } }) ∧
      (f.id ∈ d.filters → f.id ≠ d.sync.cobId → ∃ k r, d.Takes f.id k r ∧
        (n.receive f).2 = if r.isReceptive f.dlc d.nmt then
            { n with device := { d with rpdos := d.rpdos.set k (r.stage f d.sync.toggle) } }
          else n) ∧
      ((n.receive f).1.notifies = true ↔ f.id = d.sync.cobId ∧ d.sync.Accepts f d.nmt) ∧
      d.filters = d.sync.cobId :: (d.rpdos.filter Rpdo.valid).filterMap Rpdo.cobId ∧
      ∀ k accepted, (n.receive f).1 = .rpdo k accepted →
        ∃ r, d.rpdos[k]? = some r ∧ r.valid = true := by
  intro n d
  have h : d.Consistent := run_invariant (I := fun n => n.device.Consistent) consistent_step
    (Device.consistent_resetCommunication _) es
  refine ⟨h.answer_receive_iff, fun hf => ?_, fun hid => ?_, fun hf hid => ?_,
    d.notifies_receive_iff f, h.filters_eq, fun k accepted => h.valid_of_receive⟩
  · have hreceive : n.receive f = (.unclaimed, n) :=
      congrArg (fun x => (x.1, { n with device := x.2 })) (h.receive_of_not_mem hf)
    rw [hreceive]
    exact ⟨rfl, rfl⟩
  · exact congrArg (fun x => { n with device := x.2 }) (Device.receive_of_id_eq hid)
  · obtain ⟨k, r, ht⟩ := (h.mem_filters_iff.mp hf).resolve_left hid
    refine ⟨k, r, ht, ?_⟩
    have hreceive := congrArg (fun x => { n with device := x.2 }) (h.receive_of_takes hid ht)
    refine hreceive.trans ?_
    split
    · rfl
    · rfl

/-! ### Two PDOs with one identifier -/

/-- A byte that can be mapped into receive PDOs. -/
def sharedByte : Dictionary :=
  ⟨[⟨0x2000, .application (.var (SubInfo.u8.readWrite.mappable .rpdo) (.ofNumber .u8 0))⟩]⟩

/-- The configuration of three receive PDOs with one identifier, the first of them disabled. -/
def twins : List (Event Bus) :=
  [.loadConfig { DeviceConfig.initial with
    nodeId := 1
    rpdos := [⟨some 0x80000301, 254, [0x20000008], 0⟩, ⟨some 0x301, 254, [0x20000008], 0⟩,
      ⟨some 0x301, 254, [0x20000008], 0⟩] }, .setNmt .operational]

/-- A frame for the PDOs. -/
def letter : Frame := .carrying (.std 0x301) [0x55]

/-- An extended frame with the same number. -/
def stranger : Frame := .carrying (.extended 0x301) [0x55]

/-- The first PDO that is enabled takes a frame; an extended frame with the same number is given back,
and an empty SYNC is noted. -/
theorem routing_agrees_with_filters_twins :
    let n := (Node.start .unconfigured (Device.fresh 3 0 sharedByte)).run twins
    ((n.receive letter).1.answer letter = .ok () ∧ ∃ k r, n.device.Takes letter.id k r) ∧
      (n.receive letter).2.device.rpdos.map Rpdo.hasPendingData = [false, true, false] ∧
      ((n.receive stranger).1.answer stranger = .error stranger ∧ (n.receive stranger).2 = n) ∧
      (n.receive (.carrying (.std 0x80) [])).1.notifies = true := by
  have hrouting := routing_agrees_with_filters .unconfigured 3 0 sharedByte twins
  obtain ⟨hanswer, _, _, htaken, _⟩ := hrouting letter
  obtain ⟨_, hreturned, _⟩ := hrouting stranger
  obtain ⟨_, _, _, _, hnotifies, _⟩ := hrouting (.carrying (.std 0x80) [])
  obtain ⟨k, r, ht, _⟩ := htaken (by decide) (by decide)
  exact ⟨⟨hanswer.mpr (by decide), k, r, ht⟩, rfl, hreturned (by decide),
    hnotifies.mpr ⟨rfl, rfl, ⟨none⟩, rfl⟩⟩

end Node

end Canopen
