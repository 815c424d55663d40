import Canopen.Proofs.TransportRecord
import Canopen.Proofs.ValueTransport

/-! # What a tick sends

The header of a transmit PDO is kept up to date by its configuration, its data are gathered when it is
sent.  `tick_handed` puts both together: the frames that a tick hands to its transport are the SYNC
message, if one is produced, and behind it those of valid transmit PDOs in the order of their numbers,
at most one of each.  A frame of a PDO has the identifier and the length in use, and carries the
values of the mapped objects as the receive PDOs of the same tick have left them (`Tpdo.Carries`).

What is handed over is seen by a transport that keeps a record of it (`Tapped`). -/

namespace Canopen

/-! ### Values of the declared size -/

theorem Field.size_writeLeading {f g : Field} {data : Bytes} (h : f.writeLeading data = .ok g) :
    g.size = f.size := by
  cases f with
  | constant bytes => cases h
  | flag value =>
      unfold writeLeading at h
      dsimp only at h
      split at h
      · rw [← Except.ok.inj h]
      · exact size_write h
  | number type bytes =>
      unfold writeLeading at h
      dsimp only at h
      split at h
      · cases h
      · rename_i hle
        rw [← Except.ok.inj h]
        show (data.overlay bytes).length = bytes.length
        rw [Bytes.length_overlay]
        omega
  | block bytes =>
      unfold writeLeading at h
      dsimp only at h
      split at h
      · exact size_write h
      · cases h

theorem AppObject.size_writeLeading {o o' : AppObject} {sub : UInt8} {data : Bytes}
    (h : o.writeLeading sub data = .ok o') : ∃ s f, o.layout.sub? sub = some s ∧
      s.info.access.isWritable = true ∧ f.size = s.field.size ∧ o' = o.set sub f := by
  have hsub : ∀ s, o.sub sub = .ok s → o.layout.sub? sub = some s := by
    intro s hs
    unfold AppObject.sub at hs
    split at hs
    · rename_i s' hs'
      rw [hs', Except.ok.inj hs]
    · cases hs
  unfold writeLeading at h
  split at h
  · obtain ⟨s, hs, h⟩ := exists_of_bind_eq_ok h
    obtain ⟨f, hf, h⟩ := exists_of_bind_eq_ok h
    unfold SubObject.writeLeading at hf
    split at hf
    · rename_i hw
      exact ⟨s, f, hsub s hs, hw, Field.size_writeLeading hf, (Except.ok.inj h).symm⟩
    · cases hf
  · obtain ⟨info, _, h⟩ := exists_of_bind_eq_ok h
    obtain ⟨value, _, h⟩ := exists_of_bind_eq_ok h
    obtain ⟨s, hs, h⟩ := exists_of_bind_eq_ok h
    obtain ⟨f, hf, h⟩ := exists_of_bind_eq_ok h
    unfold SubObject.write at hf
    split at hf
    · rename_i hw
      exact ⟨s, f, hsub s hs, hw, Field.size_write hf, (Except.ok.inj h).symm⟩
    · cases hf

namespace Dictionary

/-- The sub object has at least as many bytes as it declares, as every number or flag that declares
its own size does. -/
def HoldsValue (d : Dictionary) (id : ObjectId) : Prop :=
  ∃ s, d.sub? id = some s ∧ s.info.size ≤ s.field.size

theorem HoldsValue.writeLeading {d d' : Dictionary} {id target : ObjectId} {data : Bytes}
    (hid : d.HoldsValue id) (h : d.writeLeading target data = .ok d') : d'.HoldsValue id := by
  obtain ⟨s, hs, hsize⟩ := hid
  unfold Dictionary.writeLeading at h
  split at h
  · rename_i o ho
    cases hwrite : o.writeLeading target.sub data with
    | error e =>
        rw [hwrite] at h
        cases h
    | ok o' =>
        rw [hwrite] at h
        obtain rfl := Except.ok.inj h
        obtain ⟨s', f, hs', hw, hf, rfl⟩ := AppObject.size_writeLeading hwrite
        by_cases hindex : id.index = target.index
        · have hs'' : o.layout.sub? id.sub = some s := by
            unfold sub? at hs
            rw [hindex, ho] at hs
            exact hs
          by_cases hsub : id.sub = target.sub
          · rw [hsub, hs'] at hs''
            obtain rfl := Option.some.inj hs''
            refine ⟨{ s' with field := f }, ?_, hf ▸ hsize⟩
            rw [sub?_set ho, if_pos hindex, hsub]
            exact Layout.sub?_set_self hs' hw f
          · refine ⟨s, ?_, hsize⟩
            rw [sub?_set ho, if_pos hindex]
            exact (o.layout.sub?_set_of_ne hsub f).trans hs''
        · refine ⟨s, ?_, hsize⟩
          rw [sub?_set ho, if_neg hindex]
          exact hs
  · cases h

end Dictionary

/-- What every write of leading bytes keeps is kept by the commits of a tick. -/
theorem Device.tickRpdos_invariant {P : Dictionary → Prop}
    (h : ∀ d d' id data, d.writeLeading id data = .ok d' → P d → P d')
    (syncOccurred toggle : Bool) (nmt : NmtState) (rs : List Rpdo) {d : Dictionary} (hd : P d) :
    P (tickRpdos syncOccurred toggle nmt rs d).2.2 := by
  have hdeliver : ∀ (d : Dictionary) (t : Target) (chunk : Bytes), P d → P (t.deliver d chunk) := by
    intro d t chunk hd
    unfold Target.deliver
    split
    · split
      · rename_i d' hd'
        exact h d d' _ _ hd' hd
      · exact hd
    · exact hd
  have hscatter : ∀ (ts : List Target) (d : Dictionary) (data : Bytes), P d →
      P (scatterTargets d ts data) := by
    intro ts
    induction ts with
    | nil => exact fun d data hd => hd
    | cons t ts ih => exact fun d data hd => ih _ _ (hdeliver d t _ hd)
  rw [tickRpdos_objects]
  generalize (rs.flatMap fun r => r.scattered syncOccurred toggle nmt) = payloads
  induction payloads generalizing d with
  | nil => exact hd
  | cons p payloads ih => exact ih (hscatter _ _ _ hd)

namespace MappedPdo

/-- Mapped values that the resolver has checked can be sent. -/
theorem Declared.readable {m : MappedPdo} {d : Dictionary} (hm : m.Declared d .transmit)
    (h : ∀ id ∈ m.objects, d.HoldsValue id) : ∀ t ∈ m.targets, t.Readable d := by
  intro t ht
  cases t with
  | dummy _ _ => trivial
  | object id len multibyte =>
      obtain ⟨info, hinfo, hpermits, hlen⟩ := hm id len multibyte ht
      obtain ⟨s, hs, hsize⟩ := h id (List.mem_filterMap.mpr ⟨_, ht, rfl⟩)
      rw [Dictionary.info?_of_sub? hs] at hinfo
      obtain rfl := Option.some.inj hinfo
      exact ⟨s, hs, Direction.isReadable_of_permits hpermits, Nat.le_trans hlen hsize⟩

end MappedPdo

/-! ### The frames of transmit PDOs -/

namespace Tpdo

/-- A frame of a valid transmit PDO: it has the identifier and the length in use, and carries the
values of the mapped objects, one after the other. -/
structure Carries (t : Tpdo) (objects : Dictionary) (f : Frame) : Prop where
  valid : t.valid = true
  id : t.cobId = some f.id ∧ ∃ id, f.id = .std id ∧ isRestrictedId id = false
  dlc : f.dlc.toNat = t.mapping.dataLen ∧ 1 ≤ t.mapping.dataLen ∧ t.mapping.dataLen ≤ 8
  /-- Each entry takes as many low bytes of its value as it is long. -/
  entries : ∀ target ∈ t.mapping.targets, (target.low objects).length = target.len
  content : f.content = (t.mapping.targets.map (Target.low objects)).flatten
  /-- The rest of the buffer is zero. -/
  padding : f.data.bytes.drop f.dlc.toNat = Bytes.zeros (8 - f.dlc.toNat)

variable {t : Tpdo} {objects : Dictionary}

/-- Nothing is due on a PDO that is not valid, or while the node is not operational. -/
theorem valid_of_isDue {sync : SyncState} {syncOccurred : Bool} {nmt : NmtState}
    (h : t.isDue objects sync syncOccurred nmt = true) : t.valid = true ∧ nmt = .operational := by
  have hvalid := (t.sameSetup_noticeChange objects).valid
  unfold isDue schedule at h
  cases hactive : ((Device.noticeChange t objects).valid && nmt == .operational) with
  | false =>
      rw [hactive] at h
      cases h
  | true =>
      rw [Bool.and_eq_true, hvalid] at hactive
      exact ⟨hactive.1, eq_of_beq hactive.2⟩

theorem Consistent.carries (ht : t.Consistent) (hv : t.valid = true)
    (hreadable : ∀ target ∈ t.mapping.targets, target.Readable objects) :
    t.Carries objects { t.frame with data := t.live objects } := by
  obtain ⟨hpos, id, _, hfree, hid⟩ := ht.identified hv
  have hle : t.mapping.dataLen ≤ 8 := ht.mapping.dataLen_le
  have hlength : (t.mapping.targets.map (Target.low objects)).flatten.length = t.frame.dlc.toNat := by
    rw [Target.length_flatten_low hreadable, ht.dlc, ht.mapping.dataLen_eq]
  have hbytes := bytes_live ht.mapping hreadable
  have hcontent : Frame.dataLength { t.frame with data := t.live objects } = t.frame.dlc.toNat := by
    exact Nat.min_eq_left (ht.dlc ▸ hle)
  refine ⟨hv, ⟨if_pos hv, id, hid, hfree⟩, ⟨ht.dlc, hpos, hle⟩, ?_, ?_, ?_⟩
  · exact fun target htarget => Target.length_low (hreadable target htarget)
  · show (t.live objects).bytes.take _ = _
    rw [hcontent, hbytes, List.take_left' hlength]
  · show (t.live objects).bytes.drop t.frame.dlc.toNat = _
    rw [hbytes, List.drop_left' hlength, ht.dlc]
    exact List.drop_replicate

end Tpdo

/-! ### All frames of a tick -/

namespace Node

variable {σ : Type} [Transport σ]

theorem toNat_standardId_lt (w : CobIdWord) : w.standardId.toNat < 2048 := by
  have hle : (w &&& CobIdWord.standardMask).toNat ≤ 2047 := by
    rw [UInt32.toNat_and]
    exact Nat.and_le_right
  unfold CobIdWord.standardId
  rw [UInt32.toNat_toUInt16]
  omega

theorem id_of_syncTick {d : Device} {elapsed : Micros} {f : Frame}
    (h : (d.syncTick elapsed).frame = some f) : f.id = .std d.sync.cobIdWord.standardId := by
  rcases d.sync.counter_advance elapsed d.nmt with ⟨hnone, _⟩ | ⟨hsome, _⟩
  · exact absurd (hnone.symm.trans h) (by simp)
  · rw [← Option.some.inj (hsome.symm.trans h)]
    rfl

/-- The commits of a tick keep the size of mapped values, so all of them can be sent. -/
theorem carries_of_dueFrame? {n : Node} (hn : n.Reached σ)
    (hobjects : ∀ t ∈ n.device.tpdos, ∀ id ∈ t.mapping.objects, n.device.dictionary.HoldsValue id)
    {elapsed : Micros} {k : Nat} {t : Tpdo} {f : Frame} (ht : n.device.tpdos[k]? = some t)
    (hf : n.device.dueFrame? elapsed t = some f) : n.device.nmt = .operational ∧
      ∃ t : Tpdo, n.device.tpdos[k]? = some t ∧ t.Carries (n.device.tickObjects elapsed) f := by
  have hmem := List.mem_of_getElem? ht
  have hsized : ∀ id ∈ t.mapping.objects, (n.device.tickObjects elapsed).HoldsValue id :=
    fun id hid => Device.tickRpdos_invariant (P := fun d => d.HoldsValue id)
      (fun _ _ _ _ h hd => hd.writeLeading h) _ _ _ _ (hobjects t hmem id hid)
  have hdeclared : t.mapping.Declared (n.device.tickObjects elapsed) .transmit :=
    (hn.declared.tpdos t hmem).of_sameShape (Device.sameShape_tickRpdos _ _ _ _ _)
  unfold Device.dueFrame? Tpdo.dueFrame? at hf
  split at hf
  · rename_i hdue
    obtain ⟨hv, hnmt⟩ := Tpdo.valid_of_isDue hdue
    rw [← Option.some.inj hf]
    exact ⟨hnmt, t, ht,
      (hn.consistent.tpdos t hmem).carries hv (hdeclared.readable hsized)⟩
  · cases hf

/-- **Every frame that a tick hands to its transport is well formed.**  First comes the SYNC message,
if one is produced, with the 11-bit identifier in the object for it.  It is followed by frames of
valid transmit PDOs in the order of their numbers, at most one of each, and none unless the node is
operational.  They carry the values that the mapped objects have after the commits of this tick.  This
holds in every state that a node can be in, if the mapped objects have the size that they declare. -/
theorem tick_handed {n : Node} (hn : n.Reached σ)
    (hobjects : ∀ t ∈ n.device.tpdos, ∀ id ∈ t.mapping.objects, n.device.dictionary.HoldsValue id)
    (now : UInt64) (link : σ) :
    let ticked := n.tick now link
    let handed := (n.tick now (Tapped.mk link [])).2.2.handed
    handed = ticked.1.sync.frame?.toList ++ ticked.1.transmissions.filterMap Transmission.frame? ∧
    (∀ f, ticked.1.sync.frame? = some f → ∃ w : CobIdWord,
      n.device.parameterBytes .syncCobId 0 = .ok (.ofUInt32 w) ∧
        f.id = .std w.standardId ∧ w.standardId.toNat < 2048) ∧
    ticked.1.transmissions.length = n.device.tpdos.length ∧
    ∀ (k : Nat) (f : Frame), ticked.1.transmissions[k]?.bind Transmission.frame? = some f →
      n.device.nmt = .operational ∧ ∃ t : Tpdo, n.device.tpdos[k]? = some t ∧
        t.Carries ticked.2.1.device.dictionary f := by
  intro ticked handed
  obtain ⟨hsync, hpdos⟩ := n.device.tick_frames (Micros.elapsed n.lastTick now) link
  have hhanded : handed = [] ++ (n.device.tick (Micros.elapsed n.lastTick now)
      (Tapped.mk link [])).1.handed :=
    Tapped.handed_tick n.device (Micros.elapsed n.lastTick now) ⟨link, []⟩
  have hsame : (n.device.tick (Micros.elapsed n.lastTick now) (Tapped.mk link [])).1 = ticked.1 :=
    (congrArg Prod.fst
      (Tapped.shows_link.tick n.device (Micros.elapsed n.lastTick now) ⟨link, []⟩)).symm
  refine ⟨?_, ?_, ?_, ?_⟩
  · rw [hhanded, hsame, List.nil_append, TickReport.handed_eq]
    rfl
  · intro f hf
    exact ⟨n.device.sync.cobIdWord, rfl, id_of_syncTick (hsync.symm.trans hf), toNat_standardId_lt _⟩
  · have hlength := congrArg List.length hpdos
    rw [List.length_map, List.length_map] at hlength
    exact hlength
  · intro k f hf
    obtain ⟨outcome, houtcome, hframe⟩ := Option.bind_eq_some_iff.mp hf
    have hdue := congrArg (·[k]?) hpdos
    simp only [List.getElem?_map] at hdue
    rw [show (n.device.tick (Micros.elapsed n.lastTick now) link).1.transmissions[k]? = some outcome
      from houtcome, Option.map_some, hframe] at hdue
    obtain ⟨t, ht, hdue⟩ := Option.map_eq_some_iff.mp hdue.symm
    exact carries_of_dueFrame? hn hobjects ht hdue

/-! ### A node that relays a byte -/

/-- An operational node that produces a SYNC every millisecond, and sends the byte that it receives
followed by a dummy. -/
def relay : Node :=
  let byte := AppObject.var (SubInfo.u8.readWrite.mappable .both) (.ofNumber .u8 0)
  let config := { DeviceConfig.initial with
    nodeId := 1
    sync := ⟨0x40000080, 1000, 0, 0⟩
    rpdos := [⟨some 0x201, 254, [0x20000008, 0x00050008], 0⟩]
    tpdos := [⟨some 0x181, 1, 0, 0, 0, [0x20000008, 0x00050008], 0⟩] }
  (Node.start .unconfigured (Device.fresh 1 1 ⟨[⟨0x2000, .application byte⟩]⟩)).run
    ([.loadConfig config, .setNmt .operational, .tick 0 (.ofCapacity 0),
      .frame (.carrying (.std 0x201) [0xAB, 0xCD])] : List (Event Bus))

/-- The byte that was received is sent by the tick that commits it, and the dummy is zero. -/
theorem tick_handed_relay :
    (relay.tick 1000 (Tapped.mk (Bus.ofCapacity 0) [])).2.2.handed =
        [.carrying (.std 0x80) [], .carrying (.std 0x181) [0xAB, 0x00]] ∧
      relay.device.nmt = .operational ∧ ∃ t : Tpdo, relay.device.tpdos[0]? = some t ∧
        t.Carries (relay.tick 1000 (Bus.ofCapacity 0)).2.1.device.dictionary
          (.carrying (.std 0x181) [0xAB, 0x00]) := by
  have hreached : relay.Reached Bus := ⟨.unconfigured, 1, 1, _, _, rfl⟩
  have hobjects : ∀ t ∈ relay.device.tpdos, ∀ id ∈ t.mapping.objects,
      relay.device.dictionary.HoldsValue id :=
    List.forall_mem_singleton.mpr (List.forall_mem_singleton.mpr ⟨_, rfl, by decide⟩)
  obtain ⟨hhanded, _, _, hpdos⟩ := tick_handed hreached hobjects 1000 (Bus.ofCapacity 0)
  exact ⟨hhanded.trans (by decide), hpdos 0 _ (by decide)⟩

end Node

end Canopen
