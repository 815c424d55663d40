import Canopen.Proofs.ChangeOfState
import Canopen.Proofs.PdoState
import Canopen.Proofs.SyncTicks
import Canopen.Proofs.Transfer

/-! # Values on their way from node to node

A transmit PDO fills its frame with the low bytes of the values that it maps; a receive PDO with the
same entry lengths puts them into the low bytes of the values that it maps, and changes nothing else
(`value_transported`).

This needs the frame to reach the receive PDO.  The SYNC object comes first, and then the receive PDO
with the smallest number among those that have the identifier (`shared_identifier`). -/

namespace Canopen

/-! ### Reception and the next tick -/

namespace Rpdo

theorem take_of_not_pending {r : Rpdo} (h : r.hasPendingData = false) (syncOccurred toggle : Bool)
    (nmt : NmtState) : (r.take syncOccurred toggle nmt).1 = none := by
  have hslots : ∀ slot, r.slots.get slot = none := by
    simp only [hasPendingData, Slots.isPending, Bool.or_eq_false_iff, Option.isSome_eq_false_iff,
      Option.isNone_iff_eq_none] at h
    intro slot
    cases slot with
    | first => exact h.1
    | second => exact h.2
  unfold take
  split
  · split
    · rfl
    · exact hslots _
  · rfl

/-- The tick after the reception commits a frame of an asynchronous PDO. -/
theorem take_stage {r : Rpdo} (hv : r.valid = true) (hasync : r.synchronous = false) (f : Frame)
    (toggle syncOccurred toggle' : Bool) :
    ((r.stage f toggle).take syncOccurred toggle' .operational).1 = some f.data := by
  have hactive : ((r.stage f toggle).valid && NmtState.operational == .operational) = true := by
    show (r.valid && _) = true
    rw [hv]
    rfl
  have hwait : ¬ ((r.stage f toggle).synchronous && !syncOccurred) = true := by
    show ¬ (r.synchronous && _) = true
    rw [hasync]
    exact Bool.false_ne_true
  unfold take
  rw [if_pos hactive, if_neg hwait]
  show (r.slots.set (.forWriting r.synchronous toggle) (some f.data)).get
    (.forCommit r.synchronous toggle') = some f.data
  rw [hasync]
  rfl

end Rpdo

namespace Device

theorem flatMap_scattered_eq_nil {syncOccurred toggle : Bool} {nmt : NmtState} {rs : List Rpdo}
    (h : ∀ r ∈ rs, (r.take syncOccurred toggle nmt).1 = none) :
    (rs.flatMap fun r => r.scattered syncOccurred toggle nmt) = [] := by
  refine List.flatMap_eq_nil_iff.mpr fun r hr => ?_
  unfold Rpdo.scattered
  rw [h r hr]
  rfl

/-- If one receive PDO alone has something to commit, that is all that is scattered. -/
theorem flatMap_scattered_eq {syncOccurred toggle : Bool} {nmt : NmtState} {rs : List Rpdo} {k : Nat}
    {r : Rpdo} (hr : rs[k]? = some r)
    (hothers : ∀ j r', j ≠ k → rs[j]? = some r' → (r'.take syncOccurred toggle nmt).1 = none) :
    (rs.flatMap fun r => r.scattered syncOccurred toggle nmt) =
      r.scattered syncOccurred toggle nmt := by
  obtain ⟨hk, rfl⟩ := List.getElem?_eq_some_iff.mp hr
  have hbefore : ∀ r ∈ rs.take k, (r.take syncOccurred toggle nmt).1 = none := by
    intro r' hr'
    obtain ⟨j, hj⟩ := List.mem_iff_getElem?.mp hr'
    have hlt : j < k := by
      have := (List.getElem?_eq_some_iff.mp hj).1
      rw [List.length_take] at this
      omega
    rw [List.getElem?_take_of_lt hlt] at hj
    exact hothers j r' (Nat.ne_of_lt hlt) hj
  have hafter : ∀ r ∈ rs.drop (k + 1), (r.take syncOccurred toggle nmt).1 = none := by
    intro r' hr'
    obtain ⟨j, hj⟩ := List.mem_iff_getElem?.mp hr'
    rw [List.getElem?_drop] at hj
    exact hothers (k + 1 + j) r' (by omega) hj
  calc (rs.flatMap fun r => r.scattered syncOccurred toggle nmt)
      = ((rs.take k ++ rs[k] :: rs.drop (k + 1)).flatMap fun r =>
          r.scattered syncOccurred toggle nmt) := by
        rw [List.getElem_cons_drop, List.take_append_drop]
    _ = rs[k].scattered syncOccurred toggle nmt := by
        rw [List.flatMap_append, List.flatMap_cons, flatMap_scattered_eq_nil hbefore,
          flatMap_scattered_eq_nil hafter, List.nil_append, List.append_nil]

theorem receive_of_first {d : Device} {f : Frame} {k : Nat} {r : Rpdo} (hid : f.id ≠ d.sync.cobId)
    (hr : d.rpdos[k]? = some r) (hcobId : r.cobId = some f.id)
    (hfirst : ∀ j r', j < k → d.rpdos[j]? = some r' → r'.cobId ≠ some f.id)
    (hreceptive : r.isReceptive f.dlc d.nmt = true) :
    d.receive f = (.rpdo k true, { d with rpdos := d.rpdos.set k (r.stage f d.sync.toggle) }) := by
  have hindex : d.rpdos.findIdx? (fun r => r.cobId == some f.id) = some k := by
    obtain ⟨hlt, hget⟩ := List.getElem?_eq_some_iff.mp hr
    refine List.findIdx?_eq_some_iff_getElem.mpr ⟨hlt, ?_, fun j hj => ?_⟩
    · rw [hget, hcobId]
      exact beq_self_eq_true _
    · have hne := hfirst j _ hj (List.getElem?_eq_getElem (Nat.lt_trans hj hlt))
      rw [beq_iff_eq]
      exact hne
  unfold receive
  rw [if_neg hid, hindex]
  dsimp only
  rw [hr]
  simp only [Rpdo.receive, hreceptive, ↓reduceIte]
  rfl

/-- A frame for an asynchronous PDO is in the mapped objects after the next tick. -/
theorem dictionary_receive_tick {σ : Type} [Transport σ] {d : Device} {f : Frame} {k : Nat}
    {r : Rpdo} (hid : f.id ≠ d.sync.cobId) (hr : d.rpdos[k]? = some r)
    (hcobId : r.cobId = some f.id)
    (hfirst : ∀ j r', j < k → d.rpdos[j]? = some r' → r'.cobId ≠ some f.id)
    (hv : r.valid = true) (hnmt : d.nmt = .operational) (hlen : r.mapping.dataLen ≤ f.dlc.toNat)
    (hasync : r.synchronous = false) (hidle : ∀ r' ∈ d.rpdos, r'.hasPendingData = false)
    (elapsed : Micros) (link : σ) :
    ((d.receive f).2.tick elapsed link).2.1.dictionary =
      r.mapping.scatter d.dictionary f.data.bytes := by
  have hreceptive : r.isReceptive f.dlc d.nmt = true := by
    unfold Rpdo.isReceptive
    rw [hv, hnmt, decide_eq_true hlen]
    rfl
  rw [receive_of_first hid hr hcobId hfirst hreceptive]
  have hlt := (List.getElem?_eq_some_iff.mp hr).1
  rw [tick_objects, hnmt, flatMap_scattered_eq (List.getElem?_set_self hlt) ?_]
  · unfold Rpdo.scattered
    rw [Rpdo.take_stage hv hasync]
    rfl
  · intro j r' hj hr'
    rw [List.getElem?_set_ne hj.symm] at hr'
    exact Rpdo.take_of_not_pending (hidle r' (List.mem_of_getElem? hr')) _ _ _

end Device

/-! ### Parameters -/

namespace SyncState

/-- Two states of the SYNC object with the same parameters. -/
structure SameParameters (s s' : SyncState) : Prop where
  cobIdWord : s'.cobIdWord = s.cobIdWord
  period : s'.period = s.period
  window : s'.window = s.window
  counterOverflow : s'.counterOverflow = s.counterOverflow

theorem SameParameters.trans {s s' s'' : SyncState} (h : s.SameParameters s')
    (h' : s'.SameParameters s'') : s.SameParameters s'' where
  cobIdWord := h'.cobIdWord.trans h.cobIdWord
  period := h'.period.trans h.period
  window := h'.window.trans h.window
  counterOverflow := h'.counterOverflow.trans h.counterOverflow

theorem SameParameters.parameterBytes_eq {s s' : SyncState} (h : s.SameParameters s')
    (p : Parameter) : s'.parameterBytes p = s.parameterBytes p := by
  unfold parameterBytes
  rw [h.cobIdWord, h.period, h.window, h.counterOverflow]

theorem sameParameters_receive (s : SyncState) (f : Frame) (nmt : NmtState) :
    s.SameParameters (s.receive f nmt).2 := by
  unfold receive
  split
  · split
    · exact ⟨rfl, rfl, rfl, rfl⟩
    · exact ⟨rfl, rfl, rfl, rfl⟩
  · exact ⟨rfl, rfl, rfl, rfl⟩

theorem sameParameters_advance (s : SyncState) (elapsed : Micros) (nmt : NmtState) :
    s.SameParameters (s.advance elapsed nmt).next := by
  have hhandles := s.handles_advance elapsed nmt
  generalize s.advance elapsed nmt = tick at hhandles ⊢
  cases hhandles with
  | unused _ => exact ⟨rfl, rfl, rfl, rfl⟩
  | received _ _ => exact ⟨rfl, rfl, rfl, rfl⟩
  | produced _ _ _ => exact ⟨rfl, rfl, rfl, rfl⟩
  | passed _ _ _ => exact ⟨rfl, rfl, rfl, rfl⟩

end SyncState

namespace Device

/-- Two devices with the same parameters: their receive PDOs differ in staged frames at most, and
their transmit PDOs in what a tick may change. -/
structure SameParameters (d d' : Device) : Prop where
  sync : d.sync.SameParameters d'.sync
  rpdos : ∀ k : Nat, ∃ slots : Rpdo → Slots,
    d'.rpdos[k]? = d.rpdos[k]?.map fun r : Rpdo => ({ r with slots := slots r } : Rpdo)
  tpdos : ∀ k : Nat, ∃ change : Tpdo → Tpdo, (∀ t : Tpdo, t.SameSetup (change t)) ∧
    d'.tpdos[k]? = d.tpdos[k]?.map change

theorem SameParameters.parameterBytes_eq {d d' : Device} (h : d.SameParameters d') (p : Parameter)
    (sub : UInt8) : d'.parameterBytes p sub = d.parameterBytes p sub := by
  have hsync : ∀ p, d'.sync.parameterBytes p = d.sync.parameterBytes p := h.sync.parameterBytes_eq
  cases p with
  | syncCobId => simp only [parameterBytes, hsync]
  | syncPeriod => simp only [parameterBytes, hsync]
  | syncWindow => simp only [parameterBytes, hsync]
  | syncOverflow => simp only [parameterBytes, hsync]
  | rpdoComm n =>
      obtain ⟨slots, hn⟩ := h.rpdos n
      simp only [parameterBytes, rpdo, hn]
      cases d.rpdos[n]? with
      | none => rfl
      | some r => rfl
  | rpdoMap n =>
      obtain ⟨slots, hn⟩ := h.rpdos n
      simp only [parameterBytes, rpdo, hn]
      cases d.rpdos[n]? with
      | none => rfl
      | some r => rfl
  | tpdoComm n =>
      obtain ⟨change, hchange, hn⟩ := h.tpdos n
      simp only [parameterBytes, tpdo, hn]
      cases d.tpdos[n]? with
      | none => rfl
      | some t =>
          have ht := hchange t
          show (change t).commBytes sub = t.commBytes sub
          simp only [Tpdo.commBytes, ht.params, ht.valid, ht.inhibitTime, ht.eventTime,
            ht.syncStart]
  | tpdoMap n =>
      obtain ⟨change, hchange, hn⟩ := h.tpdos n
      simp only [parameterBytes, tpdo, hn]
      cases d.tpdos[n]? with
      | none => rfl
      | some t =>
          have ht := hchange t
          show mappingBytes (change t).params (change t).mapping sub =
            mappingBytes t.params t.mapping sub
          rw [ht.params, ht.mapping]

theorem sameParameters_receive (d : Device) (f : Frame) : d.SameParameters (d.receive f).2 := by
  have hsame : ∀ k : Nat, ∃ slots : Rpdo → Slots,
      d.rpdos[k]? = d.rpdos[k]?.map fun r : Rpdo => ({ r with slots := slots r } : Rpdo) :=
    fun k => ⟨Rpdo.slots, by cases d.rpdos[k]? <;> rfl⟩
  have hsync : d.sync.SameParameters d.sync := ⟨rfl, rfl, rfl, rfl⟩
  have htpdos : ∀ k : Nat, ∃ change : Tpdo → Tpdo, (∀ t : Tpdo, t.SameSetup (change t)) ∧
      d.tpdos[k]? = d.tpdos[k]?.map change :=
    fun k => ⟨id, fun t => .refl t, by cases d.tpdos[k]? <;> rfl⟩
  have h := d.receive_received f
  generalize (d.receive f).1 = reception at h
  generalize (d.receive f).2 = d' at h ⊢
  cases h with
  | sync _ => exact ⟨d.sync.sameParameters_receive f d.nmt, hsame, htpdos⟩
  | @accepted n r _ hr _ _ =>
      refine ⟨hsync, fun k => ?_, htpdos⟩
      by_cases hk : n = k
      · subst hk
        have hlt := (List.getElem?_eq_some_iff.mp hr).1
        refine ⟨fun r => (r.stage f d.sync.toggle).slots, ?_⟩
        rw [List.getElem?_set_self hlt, hr]
        rfl
      · rw [List.getElem?_set_ne hk]
        exact hsame k
  | dropped _ _ _ _ => exact ⟨hsync, hsame, htpdos⟩
  | unclaimed _ => exact ⟨hsync, hsame, htpdos⟩

theorem sameParameters_tick {σ : Type} [Transport σ] (d : Device) (elapsed : Micros) (link : σ) :
    d.SameParameters (d.tick elapsed link).2.1 where
  sync := d.sync.sameParameters_advance elapsed d.nmt
  rpdos k := by
    refine ⟨fun r => (r.take (d.syncOccurs elapsed) (d.syncTick elapsed).next.toggle d.nmt).2.slots,
      ?_⟩
    rw [tick_rpdos, List.getElem?_map]
    refine congrArg (d.rpdos[k]?.map ·) (funext fun r => ?_)
    obtain ⟨s, hs⟩ := r.exists_slots_of_take (d.syncOccurs elapsed)
      (d.syncTick elapsed).next.toggle d.nmt
    dsimp only
    rw [hs]
  tpdos k := by
    obtain ⟨link', _, htpdos⟩ := d.tick_tpdos elapsed link k
    exact ⟨_, fun t => t.sameSetup_tick _ _ _ _ _ _, htpdos⟩

/-- The bytes of a sub object, whoever may read it; none if there is no such sub object. -/
def content (d : Device) (id : ObjectId) : Option Bytes :=
  match d.dictionary.parameter? id.index with
  | some p => (d.parameterBytes p id.sub).toOption
  | none => (d.dictionary.sub? id).map fun s => s.field.bytes

theorem content_of_sub? {d : Device} {id : ObjectId} {s : SubObject}
    (h : d.dictionary.sub? id = some s) : d.content id = some s.field.bytes := by
  unfold content
  rw [Dictionary.parameter?_of_sub? h, h]
  rfl

/-- What the content of a sub object depends on. -/
theorem content_eq {d d' : Device} (hshape : d.dictionary.SameShape d'.dictionary)
    (hparameters : ∀ p sub, d'.parameterBytes p sub = d.parameterBytes p sub) {id : ObjectId}
    (hsub : d'.dictionary.sub? id = d.dictionary.sub? id) : d'.content id = d.content id := by
  unfold content
  rw [hshape.parameter, hsub]
  split
  · rw [hparameters]
  · rfl

end Device

namespace Node

/-- What can become of a node that is started on any device with fresh PDOs. -/
def Reached (σ : Type) [Transport σ] (n : Node) : Prop :=
  ∃ (id : NodeId) (rpdos tpdos : Nat) (dictionary : Dictionary) (es : List (Event σ)),
    n = (Node.start id (Device.fresh rpdos tpdos dictionary)).run es

/-- An asynchronous receive PDO of an operational node receives an identifier, and nothing is
staged. -/
structure Listens (n : Node) (k : Nat) (r : Rpdo) (id : CanId) : Prop where
  rpdo : n.device.rpdos[k]? = some r
  cobId : r.cobId = some id
  asynchronous : r.synchronous = false
  operational : n.device.nmt = .operational
  idle : ∀ r' ∈ n.device.rpdos, r'.hasPendingData = false

/-- A receive PDO listens, and the frames with its identifier reach it. -/
structure Awaits (n : Node) (k : Nat) (r : Rpdo) (id : CanId) : Prop extends Listens n k r id where
  /-- The SYNC object does not claim them. -/
  notSync : id ≠ n.device.sync.cobId
  /-- Nor does a receive PDO with a smaller number. -/
  first : ∀ j r', j < k → n.device.rpdos[j]? = some r' → r'.cobId ≠ some id

variable {σ τ : Type} [Transport σ] [Transport τ] {a b n : Node}

theorem Reached.consistent (h : n.Reached σ) : n.device.Consistent := by
  obtain ⟨id, rpdos, tpdos, dictionary, es, rfl⟩ := h
  exact run_invariant (I := fun n => n.device.Consistent) consistent_step
    (Device.consistent_resetCommunication _) es

theorem Reached.declared (h : n.Reached σ) : n.device.Declared := by
  obtain ⟨id, rpdos, tpdos, dictionary, es, rfl⟩ := h
  exact declared_run id rpdos tpdos dictionary es

theorem parameterBytes_receive_tick (n : Node) (f : Frame) (now : UInt64) (link : σ) (p : Parameter)
    (sub : UInt8) : ((n.receive f).2.tick now link).2.1.device.parameterBytes p sub =
      n.device.parameterBytes p sub :=
  ((Device.sameParameters_tick _ _ link).parameterBytes_eq p sub).trans
    ((n.device.sameParameters_receive f).parameterBytes_eq p sub)

/-- An awaited frame is in the mapped objects after the next tick. -/
theorem Awaits.dictionary_eq {k : Nat} {r : Rpdo} {f : Frame} (h : n.Awaits k r f.id)
    (hr : r.Consistent) (hlen : r.mapping.dataLen ≤ f.dlc.toNat) (now : UInt64) (link : σ) :
    ((n.receive f).2.tick now link).2.1.device.dictionary =
      r.mapping.scatter n.device.dictionary f.data.bytes := by
  have hv : r.valid = true := by
    cases hv : r.valid with
    | true => rfl
    | false =>
        have hcobId := h.cobId
        rw [hr.silent hv] at hcobId
        cases hcobId
  exact Device.dictionary_receive_tick h.notSync h.rpdo h.cobId h.first hv h.operational hlen
    h.asynchronous h.idle _ link

/-- **The values that a transmit PDO maps arrive in the objects that a receive PDO maps**, if their
mappings fit and the receive PDO awaits the identifier under which the frame arrives.  After the next
tick each of its objects has the low bytes of the value at the same position, zeros for a dummy, and
keeps its other bytes; no other sub object changes. -/
theorem value_transported (ha : a.Reached σ) (hb : b.Reached τ) {j k : Nat} {t : Tpdo} {r : Rpdo}
    {id : CanId} {f : Frame} (ht : a.device.tpdos[j]? = some t) (hr : b.Awaits k r id)
    (hfeeds : t.mapping.Feeds a.device.dictionary r.mapping b.device.dictionary) (link : σ)
    (hf : (t.send a.device.dictionary link).1.frame? = some f) (now : UInt64) (link' : τ) :
    let b' := ((b.receive { f with id := id }).2.tick now link').2.1
    (∀ (i : Nat) (source : Target) (sink : ObjectId) (len : Nat) (multibyte : Bool),
      t.mapping.targets[i]? = some source →
      r.mapping.targets[i]? = some (.object sink len multibyte) →
      (source.low a.device.dictionary).length = len ∧
        ∃ old, b.device.content sink = some old ∧
          b'.device.content sink = some (source.low a.device.dictionary ++ old.drop len)) ∧
    ∀ id ∉ r.mapping.objects, b'.device.content id = b.device.content id := by
  have htc : t.Consistent := ha.consistent.tpdos t (List.mem_of_getElem? ht)
  have hrc : r.Consistent := hb.consistent.rpdos r (List.mem_of_getElem? hr.rpdo)
  have hsend : ∀ s ∈ t.mapping.targets, s.Readable a.device.dictionary := fun s hs =>
    ((ha.declared.tpdos t (List.mem_of_getElem? ht)).ready hfeeds.sources s hs).readable
  have hreceive : ∀ s ∈ r.mapping.targets, s.Ready b.device.dictionary .receive :=
    (hb.declared.rpdos r (List.mem_of_getElem? hr.rpdo)).ready hfeeds.sinks
  rw [Tpdo.frame?_send] at hf
  obtain rfl := Option.some.inj hf
  -- entries of the same lengths add up to the same length, so the frame is long enough
  have hlen : t.frame.dlc.toNat = r.mapping.dataLen := by
    rw [htc.dlc]
    exact htc.mapping.dataLen_congr hrc.mapping hfeeds.lengths
  have hdictionary := hr.dictionary_eq (f := { (t.load a.device.dictionary).frame with id := id })
    hrc (Nat.le_of_eq hlen.symm) now link'
  have hbytes : (t.load a.device.dictionary).frame.data.bytes = _ :=
    Tpdo.bytes_live htc.mapping hsend
  have hshape := b.device.dictionary.sameShape_scatterTargets r.mapping.targets
    (t.load a.device.dictionary).frame.data.bytes
  have hparameters := b.parameterBytes_receive_tick
    { (t.load a.device.dictionary).frame with id := id } now link'
  intro b'
  constructor
  · intro i source sink len multibyte hsource hsink
    have hvalue : (source.low a.device.dictionary).length = len := by
      have h := congrArg (·[i]?) hfeeds.lengths
      simp only [MappedPdo.lengths, List.getElem?_map, hsource, hsink, Option.map_some] at h
      exact (Target.length_low (hsend source (List.mem_of_getElem? hsource))).trans
        (Option.some.inj h)
    refine ⟨hvalue, ?_⟩
    have hsent : (t.mapping.targets.map (Target.low a.device.dictionary))[i]? =
        some (source.low a.device.dictionary) := by
      rw [List.getElem?_map, hsource]
      rfl
    obtain ⟨info, type, old, hbefore, hafter⟩ := Dictionary.sub?_scatterTargets
      ((Bytes.zeros maxDataLength).drop t.mapping.dataLen) hreceive hfeeds.distinct
      ((Target.map_length_low hsend).trans hfeeds.lengths) hsink hsent
    rw [← hbytes] at hafter
    refine ⟨old, Device.content_of_sub? hbefore, ?_⟩
    rw [← hvalue]
    exact Device.content_of_sub? ((congrArg (Dictionary.sub? · sink) hdictionary).trans hafter)
  · intro id hid
    refine Device.content_eq ?_ hparameters ?_
    · rw [hdictionary]
      exact hshape
    · rw [hdictionary]
      exact Dictionary.sub?_scatterTargets_of_not_mem hid _ _

/-! ### Two nodes on a bus -/

/-- Three of the four bytes of a number, a dummy byte, and the second number of an array. -/
def talkerTargets : List Target :=
  [.object ⟨0x2000, 0⟩ 3 true, .dummy .transmit 1, .object ⟨0x2001, 2⟩ 2 true]

/-- A node that sends these values. -/
def talker : Node :=
  let word := AppObject.var (SubInfo.u32.readWrite.mappable .tpdo) (.ofNumber .u32 0x11223344)
  let pair := AppObject.array (SubInfo.u16.readWrite.mappable .tpdo)
    [.ofNumber .u16 0, .ofNumber .u16 0xAABB]
  let config := { DeviceConfig.initial with
    nodeId := 1
    tpdos := [⟨some 0x181, 254, 0, 0, 0, [0x20000018, 0x00050008, 0x20010210], 0⟩] }
  (Node.start .unconfigured
    (Device.fresh 0 1 ⟨[⟨0x2000, .application word⟩, ⟨0x2001, .application pair⟩]⟩)).run
    ([.loadConfig config] : List (Event Bus))

/-- The objects of the hearer. -/
def hearerObjects : Dictionary :=
  let word := AppObject.var (SubInfo.u32.readWrite.mappable .rpdo) (.ofNumber .u32 0x88888888)
  let byte := AppObject.var (SubInfo.u8.readWrite.mappable .rpdo) (.ofNumber .u8 0x77)
  let half := AppObject.var (SubInfo.i16.readWrite.mappable .rpdo) (.ofNumber .i16 0)
  ⟨[⟨0x2100, .application word⟩, ⟨0x2101, .application byte⟩, ⟨0x2102, .application half⟩,
    ⟨0x2103, .application byte⟩]⟩

/-- What the second receive PDO of the hearer maps. -/
def hearerTargets : List Target :=
  [.object ⟨0x2100, 0⟩ 3 true, .object ⟨0x2101, 0⟩ 1 false, .object ⟨0x2102, 0⟩ 2 true]

/-- An operational node with the SYNC identifier `sync` and two asynchronous receive PDOs: one with
the identifier `first`, and one with the identifier 0x201 whose entries have the lengths of those of
the talker. -/
def hearer (sync first : UInt32) : Node :=
  let config := { DeviceConfig.initial with
    nodeId := 2
    sync := { SyncConfig.initial with cobId := sync }
    rpdos := [⟨some first, 254, [0x21030008], 0⟩,
      ⟨some 0x201, 254, [0x21000018, 0x21010008, 0x21020010], 0⟩] }
  (Node.start .unconfigured (Device.fresh 2 0 hearerObjects)).run
    ([.loadConfig config, .setNmt .operational] : List (Event Bus))

/-- The frame of the talker, under the identifier of the hearer. -/
def talkerFrame : Frame := .carrying (.std 0x201) [0x44, 0x33, 0x22, 0x00, 0xBB, 0xAA]

/-- A node takes the frame of the talker, and runs a tick. -/
def hear (n : Node) : Node := ((n.receive talkerFrame).2.tick 0 (Bus.ofCapacity 0)).2.1

theorem talker_reached : talker.Reached Bus := ⟨.unconfigured, 0, 1, _, _, rfl⟩

theorem hearer_reached (sync first : UInt32) : (hearer sync first).Reached Bus :=
  ⟨.unconfigured, 2, 0, _, _, rfl⟩

/-- The PDO of the talker sends its frame, and its mapping fits that of the hearer. -/
theorem talker_feeds : ∃ t, talker.device.tpdos[0]? = some t ∧ t.valid = true ∧
    (t.send talker.device.dictionary (Bus.ofCapacity 1)).1.frame? =
      some { talkerFrame with id := .std 0x181 } ∧
    t.mapping.targets = talkerTargets ∧
    ∀ m : MappedPdo, m.targets = hearerTargets →
      t.mapping.Feeds talker.device.dictionary m hearerObjects := by
  refine ⟨_, rfl, rfl, rfl, rfl, fun m hm => ⟨?_, ?_, ?_, ?_⟩⟩
  · exact List.forall_mem_cons.mpr ⟨⟨rfl, _, _, _, rfl, rfl⟩,
      List.forall_mem_singleton.mpr ⟨rfl, _, _, _, rfl, rfl⟩⟩
  · unfold MappedPdo.objects
    rw [hm]
    exact List.forall_mem_cons.mpr ⟨⟨rfl, _, _, _, rfl, rfl⟩,
      List.forall_mem_cons.mpr ⟨⟨rfl, _, _, _, rfl, rfl⟩,
        List.forall_mem_singleton.mpr ⟨rfl, _, _, _, rfl, rfl⟩⟩⟩
  · unfold MappedPdo.lengths
    rw [hm]
    rfl
  · unfold MappedPdo.objects
    rw [hm]
    decide

/-- The values of the talker arrive at a hearer whose identifiers differ: three bytes of the first
object, and all of the other two. -/
theorem value_transported_hearer :
    let n := hear (hearer 0x80 0x202)
    n.device.content ⟨0x2100, 0⟩ = some [0x44, 0x33, 0x22, 0x88] ∧
      n.device.content ⟨0x2101, 0⟩ = some [0x00] ∧
      n.device.content ⟨0x2102, 0⟩ = some [0xBB, 0xAA] ∧
      n.device.content ⟨0x2103, 0⟩ = some [0x77] := by
  have hfirst : ∀ j r', j < 1 → (hearer 0x80 0x202).device.rpdos[j]? = some r' →
      r'.cobId ≠ some (.std 0x201) := by
    intro j r' hj hr'
    obtain rfl : j = 0 := Nat.lt_one_iff.mp hj
    obtain rfl := Option.some.inj hr'
    decide
  obtain ⟨t, ht, _, hsend, htargets, hfeeds⟩ := talker_feeds
  obtain ⟨hvalues, hothers⟩ := value_transported talker_reached (hearer_reached 0x80 0x202) ht
    ⟨⟨rfl, rfl, rfl, rfl, by decide⟩, by decide, hfirst⟩ (hfeeds _ rfl) (Bus.ofCapacity 1) hsend 0
    (Bus.ofCapacity 0)
  rw [htargets] at hvalues
  obtain ⟨_, word, hword, hword'⟩ := hvalues 0 _ _ _ _ rfl rfl
  obtain rfl : _ = word := Option.some.inj hword
  obtain ⟨_, byte, hbyte, hbyte'⟩ := hvalues 1 _ _ _ _ rfl rfl
  obtain rfl : _ = byte := Option.some.inj hbyte
  obtain ⟨_, half, hhalf, hhalf'⟩ := hvalues 2 _ _ _ _ rfl rfl
  obtain rfl : _ = half := Option.some.inj hhalf
  exact ⟨hword', hbyte', hhalf', hothers ⟨0x2103, 0⟩ (by decide)⟩

/-- The frame of the talker is for an object of the second receive PDO of a node and fits, and yet it
does not change the object. -/
def MissesTalker (n : Node) : Prop :=
  ∃ t r, talker.device.tpdos[0]? = some t ∧ t.valid = true ∧
    (t.send talker.device.dictionary (Bus.ofCapacity 1)).1.frame? =
      some { talkerFrame with id := .std 0x181 } ∧
    t.mapping.targets.map (Target.low talker.device.dictionary) =
      [[0x44, 0x33, 0x22], [0x00], [0xBB, 0xAA]] ∧
    n.Listens 1 r (.std 0x201) ∧ r.valid = true ∧
    t.mapping.Feeds talker.device.dictionary r.mapping n.device.dictionary ∧
    r.mapping.targets[0]? = some (.object ⟨0x2100, 0⟩ 3 true) ∧
    (hear n).device.content ⟨0x2100, 0⟩ = some [0x88, 0x88, 0x88, 0x88]

/-- The frame goes elsewhere if the first receive PDO has the identifier too, and if the SYNC object
has it. -/
theorem shared_identifier :
    (hearer 0x80 0x201).MissesTalker ∧ (hearer 0x201 0x202).MissesTalker := by
  obtain ⟨t, ht, hvalid, hsend, htargets, hfeeds⟩ := talker_feeds
  have hlow : t.mapping.targets.map (Target.low talker.device.dictionary) =
      [[0x44, 0x33, 0x22], [0x00], [0xBB, 0xAA]] := by
    rw [htargets]
    rfl
  constructor
  · exact ⟨t, _, ht, hvalid, hsend, hlow, ⟨rfl, rfl, rfl, rfl, by decide⟩, rfl, hfeeds _ rfl, rfl,
      by decide⟩
  · exact ⟨t, _, ht, hvalid, hsend, hlow, ⟨rfl, rfl, rfl, rfl, by decide⟩, rfl, hfeeds _ rfl, rfl,
      by decide⟩

end Node

end Canopen
