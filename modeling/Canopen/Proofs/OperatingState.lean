import Canopen.Proofs.DoubleBuffering
import Canopen.Proofs.FrameContent
import Canopen.Proofs.Provenance

/-! # Operating states without process data

Each part of a node looks at the operating state by itself: the SYNC object and the receive PDOs when
a frame arrives, and these and the transmit PDOs at a tick.  `process_data_gated` says that together
they leave no gap.  Outside the operational state nothing is staged, sent or committed, and what was
staged before is dropped (`Node.HoldsBack`).  In the two states without SYNC a tick forgets a pending
SYNC and a pending error as well, so that neither is noticed after a later change of state
(`Node.Sleeps`). -/

namespace Canopen

/-! ### Process data -/

namespace Rpdo

theorem take_of_ne {nmt : NmtState} (h : nmt ≠ .operational) (r : Rpdo)
    (syncOccurred toggle : Bool) :
    r.take syncOccurred toggle nmt = (none, { r with slots := .none }) := by
  have hactive : (r.valid && nmt == .operational) = false := by simp [h]
  unfold take
  rw [hactive]
  rfl

theorem isReceptive_of_ne {nmt : NmtState} (h : nmt ≠ .operational) (r : Rpdo) (dlc : UInt8) :
    r.isReceptive dlc nmt = false := by
  simp [isReceptive, h]

end Rpdo

namespace Tpdo

theorem isDue_of_ne {nmt : NmtState} (h : nmt ≠ .operational) (t : Tpdo) (objects : Dictionary)
    (sync : SyncState) (syncOccurred : Bool) : t.isDue objects sync syncOccurred nmt = false := by
  simp [isDue, schedule, h]

theorem dueFrame?_of_ne {nmt : NmtState} (h : nmt ≠ .operational) (t : Tpdo)
    (objects : Dictionary) (sync : SyncState) (syncOccurred : Bool) :
    t.dueFrame? objects sync syncOccurred nmt = none := by
  unfold dueFrame?
  rw [t.isDue_of_ne h]
  rfl

end Tpdo

namespace Device

theorem rpdos_receive_of_ne {d : Device} (h : d.nmt ≠ .operational) (f : Frame) :
    (d.receive f).2.rpdos = d.rpdos := by
  have hf := d.receive_received f
  generalize (d.receive f).1 = reception at hf
  generalize (d.receive f).2 = d' at hf ⊢
  cases hf with
  | sync _ => rfl
  | @accepted n r _ _ _ hreceptive =>
      rw [r.isReceptive_of_ne h] at hreceptive
      cases hreceptive
  | dropped _ _ _ _ => rfl
  | unclaimed _ => rfl

section tick
variable {σ : Type} [Transport σ] {d : Device}

theorem transmissions_tick_of_ne (h : d.nmt ≠ .operational) (elapsed : Micros) (link : σ) :
    ∀ outcome ∈ (d.tick elapsed link).1.transmissions, outcome = .idle := by
  intro outcome houtcome
  have hframes := (d.tick_frames elapsed link).2
  have hmem : outcome.frame? ∈ (d.tick elapsed link).1.transmissions.map Transmission.frame? :=
    List.mem_map_of_mem houtcome
  rw [hframes] at hmem
  obtain ⟨t, _, ht⟩ := List.mem_map.mp hmem
  refine Transmission.eq_idle_of_frame? ?_
  rw [← ht]
  exact t.dueFrame?_of_ne h _ _ _

theorem dictionary_tick_of_ne (h : d.nmt ≠ .operational) (elapsed : Micros) (link : σ) :
    (d.tick elapsed link).2.1.dictionary = d.dictionary := by
  rw [tick_objects, flatMap_scattered_eq_nil fun r _ => by rw [r.take_of_ne h]]
  rfl

theorem slots_tick_of_ne (h : d.nmt ≠ .operational) (elapsed : Micros) (link : σ) :
    ∀ r ∈ (d.tick elapsed link).2.1.rpdos, r.slots = .none := by
  intro r hr
  rw [tick_rpdos] at hr
  obtain ⟨r₀, _, rfl⟩ := List.mem_map.mp hr
  rw [r₀.take_of_ne h]

theorem handed_tick_of_ne (h : d.nmt ≠ .operational) (elapsed : Micros) (t : Tapped σ) :
    (d.tick elapsed t).2.2.handed = t.handed ++ (d.syncTick elapsed).frame.toList := by
  have hhanded := Tapped.handed_tick d elapsed t
  have hpdos : d.tpdos.filterMap (d.dueFrame? elapsed) = [] :=
    List.filterMap_eq_nil_iff.mpr fun p _ => p.dueFrame?_of_ne h _ _ _
  have hframes := d.handed_tick elapsed t
  rw [hpdos, List.append_nil] at hframes
  exact hhanded.trans (congrArg (t.handed ++ ·) hframes)

theorem tickTpdos_link_of_ne {nmt : NmtState} (h : nmt ≠ .operational) (objects : Dictionary)
    (sync : SyncState) (syncOccurred : Bool) (elapsed : Micros) (ts : List Tpdo)
    (errors : ErrorStatus) (link : σ) :
    (tickTpdos objects sync syncOccurred elapsed nmt ts errors link).2.2.2 = link := by
  induction ts generalizing errors with
  | nil => rfl
  | cons t ts ih =>
      have hdue : t.isDue objects sync syncOccurred nmt = false := t.isDue_of_ne h _ _ _
      simp only [tickTpdos, Tpdo.process_noticeChange, hdue]
      exact ih _

end tick

end Device

/-! ### The SYNC object -/

namespace SyncState

/-- The SYNC object with nothing pending. -/
def forget (s : SyncState) : SyncState := { s with received := false, receiveError := 0 }

theorem advance_of_inactive {nmt : NmtState} (h : nmt.syncActive = false) (s : SyncState)
    (elapsed : Micros) : s.advance elapsed nmt = ⟨s.forget, .none, none, .unchanged, none⟩ := by
  unfold advance
  rw [h]
  rfl

/-- The event of a tick is a SYNC only if one was received or is produced. -/
theorem received_of_event {s : SyncState} {elapsed : Micros} {nmt : NmtState}
    (h : (s.advance elapsed nmt).event = .sync) (hframe : (s.advance elapsed nmt).frame = none) :
    s.received = true := by
  cases hactive : nmt.syncActive with
  | false =>
      rw [advance_of_inactive hactive] at h
      cases h
  | true =>
      obtain ⟨_, ⟨_, _, hevent⟩ | ⟨hproduced, _⟩⟩ := s.advance_cases elapsed hactive
      · exact hevent.mp h
      · rw [hframe] at hproduced
        cases hproduced

/-- A tick says that a SYNC was malformed only if that was noted when it arrived. -/
theorem receiveError_of_lengthError {s : SyncState} {elapsed : Micros} {nmt : NmtState}
    (h : (s.advance elapsed nmt).lengthError ≠ none) : s.receiveError ≠ 0 := by
  have hhandles := s.handles_advance elapsed nmt
  generalize s.advance elapsed nmt = tick at hhandles h
  cases hhandles with
  | unused _ => exact absurd rfl h
  | received _ _ => exact fun hzero => h (if_pos hzero)
  | produced _ _ _ => exact fun hzero => h (if_pos hzero)
  | passed _ _ _ => exact fun hzero => h (if_pos hzero)

theorem pending_advance (s : SyncState) (elapsed : Micros) (nmt : NmtState) :
    (s.advance elapsed nmt).next.received = false ∧
      (s.advance elapsed nmt).next.receiveError = 0 := by
  have hhandles := s.handles_advance elapsed nmt
  generalize s.advance elapsed nmt = tick at hhandles ⊢
  cases hhandles with
  | unused _ => exact ⟨rfl, rfl⟩
  | received _ _ => exact ⟨rfl, rfl⟩
  | produced _ hnone _ => exact ⟨hnone, rfl⟩
  | passed _ hnone _ => exact ⟨hnone, rfl⟩

theorem pending_writeParameter {s s' : SyncState} {p : Parameter} {data : Bytes}
    (h : s.writeParameter p data = .ok s') :
    s'.received = s.received ∧ s'.receiveError = s.receiveError := by
  unfold writeParameter at h
  split at h
  · obtain ⟨period, _, h⟩ := exists_of_bind_eq_ok h
    rw [← Except.ok.inj h]
    exact ⟨rfl, rfl⟩
  · obtain ⟨window, _, h⟩ := exists_of_bind_eq_ok h
    rw [← Except.ok.inj h]
    exact ⟨rfl, rfl⟩
  · obtain ⟨overflow, _, h⟩ := exists_of_bind_eq_ok h
    unfold writeCounterOverflow at h
    split at h
    · rw [← Except.ok.inj h]
      exact ⟨rfl, rfl⟩
    · cases h
  · obtain ⟨w, _, h⟩ := exists_of_bind_eq_ok h
    unfold writeCobId at h
    split at h
    · cases h
    split at h
    · split at h
      · cases h
      split at h
      · rw [← Except.ok.inj h]
        exact ⟨rfl, rfl⟩
      · rw [← Except.ok.inj h]
        exact ⟨rfl, rfl⟩
    · rw [← Except.ok.inj h]
      exact ⟨rfl, rfl⟩

/-- A SYNC is pending after an event only if it was before, or was accepted; and an error only if it
was before, or a SYNC was refused. -/
theorem Stepped.pending {σ : Type} {n : Node} {e : Event σ} {s s' : SyncState}
    (h : s.Stepped n e s') :
    (s'.received = true → s.received = true ∨
      ∃ f, e = .frame f ∧ f.id = s.cobId ∧ (s.receive f n.device.nmt).1 = true) ∧
    (s'.receiveError ≠ 0 → s.receiveError ≠ 0 ∨
      ∃ f, e = .frame f ∧ f.id = s.cobId ∧ (s.receive f n.device.nmt).1 = false) := by
  cases h with
  | same => exact ⟨.inl, .inl⟩
  | advanced now link _ =>
      obtain ⟨hreceived, herror⟩ := s.pending_advance (Micros.elapsed n.lastTick now) n.device.nmt
      rw [hreceived, herror]
      exact ⟨nofun, fun h => absurd rfl h⟩
  | received f he hid =>
      constructor
      · intro hreceived
        rcases s.receive_cases f n.device.nmt with ⟨haccepted, _⟩ | ⟨_, hkept, _⟩
        · exact .inr ⟨f, he, hid, haccepted⟩
        · rw [hkept] at hreceived
          exact .inl hreceived
      · intro herror
        unfold receive at herror ⊢
        split at herror
        · rename_i hactive
          split at herror
          · exact .inl herror
          · rename_i hrefused
            refine .inr ⟨f, he, hid, ?_⟩
            rw [if_pos hactive, hrefused]
        · exact .inl herror
  | written hw =>
      obtain ⟨hreceived, herror⟩ := pending_writeParameter hw
      rw [hreceived, herror]
      exact ⟨.inl, .inl⟩
  | reset _ => exact ⟨nofun, fun h => absurd rfl h⟩
  | configured c _ => exact ⟨nofun, fun h => absurd rfl h⟩

end SyncState

/-! ### Nodes -/

namespace Node

variable {σ : Type} [Transport σ] {n : Node}

/-- What is pending at the SYNC object after some events was received at one of them. -/
structure Explains (es : List (Event σ)) (n m : Node) : Prop where
  received : m.device.sync.received = true → ∃ past f since, es = past ++ .frame f :: since ∧
    ((n.run past).receive f).1 = .sync true
  receiveError : m.device.sync.receiveError ≠ 0 → ∃ past f since, es = past ++ .frame f :: since ∧
    ((n.run past).receive f).1 = .sync false

theorem explains_run (hreceived : n.device.sync.received = false)
    (herror : n.device.sync.receiveError = 0) (es : List (Event σ)) : Explains es n (n.run es) := by
  refine run_history (I := fun es m => Explains es n m) ⟨?_, ?_⟩ ?_ es
  · rw [hreceived]
    exact nofun
  · exact fun h => absurd herror h
  · intro es e ih
    have hstep := (sync_step (n.run es) e).pending
    rw [← run_concat] at hstep
    -- a frame that the SYNC object has taken is reported as such
    have htaken : ∀ (f : Frame) (accepted : Bool), f.id = (n.run es).device.sync.cobId →
        ((n.run es).device.sync.receive f (n.run es).device.nmt).1 = accepted →
        ((n.run es).receive f).1 = .sync accepted := by
      intro f accepted hid haccepted
      show ((n.run es).device.receive f).1 = _
      rw [Device.receive_of_id_eq hid, haccepted]
    constructor
    · intro h
      rcases hstep.1 h with hold | ⟨f, rfl, hid, haccepted⟩
      · obtain ⟨past, f, since, rfl, hf⟩ := ih.received hold
        exact ⟨past, f, since ++ [e], by simp, hf⟩
      · exact ⟨es, f, [], rfl, htaken f true hid haccepted⟩
    · intro h
      rcases hstep.2 h with hold | ⟨f, rfl, hid, hrefused⟩
      · obtain ⟨past, f, since, rfl, hf⟩ := ih.receiveError hold
        exact ⟨past, f, since ++ [e], by simp, hf⟩
      · exact ⟨es, f, [], rfl, htaken f false hid hrefused⟩

/-- A tick that exchanges no process data. -/
structure HoldsBack (n : Node) (now : UInt64) (link : σ) : Prop where
  idle : ∀ outcome ∈ (n.tick now link).1.transmissions, outcome = .idle
  /-- Whoever watches the transport sees no frame but the SYNC message. -/
  handed : ∀ t : Tapped σ, (n.tick now t).2.2.handed =
    t.handed ++ (n.tick now t).1.sync.frame?.toList
  objects : (n.tick now link).2.1.device.dictionary = n.device.dictionary
  empty : ∀ r ∈ (n.tick now link).2.1.device.rpdos, r.hasPendingData = false
  /-- Whatever is committed later has been accepted after the tick. -/
  commits : ∀ (es : List (Event σ)) (e : Event σ) (k : Nat) (p : Payload),
    p ∈ ((n.tick now link).2.1.run es).committedBy k e →
      ∃ past f since, es = past ++ .frame f :: since ∧ f.data = p ∧
        (((n.tick now link).2.1.run past).receive f).1 = .rpdo k true

/-- A tick that does not handle the SYNC either. -/
structure Sleeps (n : Node) (now : UInt64) (link : σ) : Prop where
  event : (n.tick now link).1.event = .none
  unsent : (n.tick now link).1.sync = .idle
  /-- The transport is left alone altogether. -/
  untouched : (n.tick now link).2.2 = link
  toggle : (n.tick now link).2.1.device.sync.toggle = n.device.sync.toggle
  counter : (n.tick now link).2.1.device.sync.counter = n.device.sync.counter
  timer : (n.tick now link).2.1.device.sync.timer = n.device.sync.timer
  received : (n.tick now link).2.1.device.sync.received = false
  receiveError : (n.tick now link).2.1.device.sync.receiveError = 0
  /-- All is as if nothing had been pending before the tick. -/
  forgotten : n.tick now link =
    { n with device := { n.device with sync := n.device.sync.forget } }.tick now link
  /-- A later tick reports no SYNC but one that it produces, or that was accepted after this tick. -/
  syncs : ∀ (es : List (Event σ)) (later : UInt64) (link' : σ),
    let tick := ((n.tick now link).2.1.run es).tick later link'
    tick.1.event = .sync → tick.1.sync.frame? ≠ none ∨
      ∃ past f since, es = past ++ .frame f :: since ∧
        (((n.tick now link).2.1.run past).receive f).1 = .sync true
  /-- A later tick reports no malformed SYNC but one that was refused after this tick. -/
  errors : ∀ (es : List (Event σ)) (elapsed : Micros),
    (((n.tick now link).2.1.run es).device.syncTick elapsed).lengthError ≠ none →
      ∃ past f since, es = past ++ .frame f :: since ∧
        (((n.tick now link).2.1.run past).receive f).1 = .sync false

theorem holdsBack_of_ne (h : n.device.nmt ≠ .operational) (now : UInt64) (link : σ) :
    n.HoldsBack now link where
  idle := Device.transmissions_tick_of_ne h _ link
  handed t := by
    have hframe : (n.tick now t).1.sync.frame? =
        (n.device.syncTick (Micros.elapsed n.lastTick now)).frame := (n.device.tick_frames _ t).1
    rw [hframe]
    exact Device.handed_tick_of_ne h _ t
  objects := Device.dictionary_tick_of_ne h _ link
  empty := by
    intro r hr
    have hslots : r.slots = .none := Device.slots_tick_of_ne h _ link r hr
    unfold Rpdo.hasPendingData
    rw [hslots]
    rfl
  commits := by
    intro es e k p hp
    have hstart : ∀ r, (n.tick now link).2.1.device.rpdos[k]? = some r → ∀ p, ¬ r.Staged p := by
      rintro r hr p ⟨slot, hslot⟩
      have hslots : r.slots = .none :=
        Device.slots_tick_of_ne h _ link r (List.mem_of_getElem? hr)
      rw [hslots, Slots.get_none] at hslot
      cases hslot
    cases e with
    | tick later link' =>
        obtain ⟨r, hr, hstaged⟩ := staged_of_mem_committedBy hp
        obtain ⟨past, f, since, hes, hf, hkept⟩ := traces_run hstart es r hr p hstaged
        exact ⟨past, f, since, hes, hf, hkept.accepted⟩
    | _ => cases hp

/-- A tick looks at the SYNC object only through what that decides. -/
theorem tick_congr {s : SyncState} {now : UInt64} (h : s.advance (Micros.elapsed n.lastTick now)
    n.device.nmt = n.device.syncTick (Micros.elapsed n.lastTick now)) (link : σ) :
    { n with device := { n.device with sync := s } }.tick now link = n.tick now link := by
  unfold Device.syncTick at h
  simp only [tick, Device.tick, Device.processSync, h]
  rfl

theorem sleeps_of_inactive (h : n.device.nmt.syncActive = false) (now : UInt64) (link : σ) :
    n.Sleeps now link := by
  have hadvance : n.device.syncTick (Micros.elapsed n.lastTick now) =
      ⟨n.device.sync.forget, .none, none, .unchanged, none⟩ :=
    SyncState.advance_of_inactive h n.device.sync _
  have hsync : (n.tick now link).2.1.device.sync = n.device.sync.forget :=
    congrArg SyncTick.next hadvance
  have hne : n.device.nmt ≠ .operational := by
    intro hop
    rw [hop] at h
    cases h
  have hlater := explains_run (σ := σ) (n := (n.tick now link).2.1)
    (by rw [hsync]; rfl) (by rw [hsync]; rfl)
  refine
    { event := congrArg SyncTick.event hadvance
      unsent := ?_
      untouched := ?_
      toggle := by rw [hsync]; rfl
      counter := by rw [hsync]; rfl
      timer := by rw [hsync]; rfl
      received := by rw [hsync]; rfl
      receiveError := by rw [hsync]; rfl
      forgotten := ?_
      syncs := ?_
      errors := ?_ }
  · have hframe := (n.device.tick_frames (Micros.elapsed n.lastTick now) link).1
    rw [hadvance] at hframe
    exact Transmission.eq_idle_of_frame? hframe
  · show (n.device.tick (Micros.elapsed n.lastTick now) link).2.2 = link
    rw [n.device.tick_eq, hadvance]
    exact Device.tickTpdos_link_of_ne hne _ _ _ _ _ _ _
  · refine (tick_congr ?_ link).symm
    rw [hadvance]
    exact SyncState.advance_of_inactive h n.device.sync.forget _
  · intro es later link' tick hevent
    have hframe : tick.1.sync.frame? = _ := (Device.tick_frames _ _ link').1
    rw [hframe]
    by_cases hnone : (((n.tick now link).2.1.run es).device.syncTick
        (Micros.elapsed ((n.tick now link).2.1.run es).lastTick later)).frame = none
    · exact .inr ((hlater es).received (SyncState.received_of_event hevent hnone))
    · exact .inl hnone
  · intro es elapsed herror
    exact (hlater es).receiveError (SyncState.receiveError_of_lengthError herror)

/-- **The operating state gates all process data.**  Whatever the state of the node is, if it is not
operational then a frame from the bus stages nothing and a tick exchanges no process data; if it is
booting or stopped then a tick does not handle the SYNC either, and forgets what is pending. -/
theorem process_data_gated (h : n.device.nmt ≠ .operational) :
    (∀ f, (n.receive f).2.device.rpdos = n.device.rpdos) ∧
      (∀ (now : UInt64) (link : σ), n.HoldsBack now link) ∧
      (n.device.nmt = .bootup ∨ n.device.nmt = .stopped →
        ∀ (now : UInt64) (link : σ), n.Sleeps now link) := by
  refine ⟨Device.rpdos_receive_of_ne h, holdsBack_of_ne h, fun hquiet => sleeps_of_inactive ?_⟩
  rcases hquiet with hboot | hstop
  · rw [hboot]
    rfl
  · rw [hstop]
    rfl

/-! ### A node that is stopped in the middle -/

/-- A node with a synchronous receive PDO and an event driven transmit PDO for the same number. -/
def leaver : Node :=
  let byte := AppObject.var (SubInfo.u8.readWrite.mappable .both) (.ofNumber .u8 0)
  Node.start .unconfigured (Device.fresh 1 1 ⟨[⟨0x2000, .application byte⟩]⟩)

/-- The node is brought into operation and stopped again, while a frame is staged, a SYNC and an error
are pending, and a transmission is requested. -/
def leaverRun : List (Event Bus) :=
  [.loadConfig { DeviceConfig.initial with
      nodeId := 1
      rpdos := [⟨none, 1, [0x20000008], 0⟩]
      tpdos := [⟨none, 254, 0, 0, 0, [0x20000008], 0⟩] },
    .setNmt .operational, .frame (.carrying (.std 0x201) [0xAA]), .frame (.carrying (.std 0x80) []),
    .frame (.carrying (.std 0x80) [1]), .setNmt .stopped]

/-- The tick after that neither commits the frame nor reports the SYNC, and forgets both. -/
theorem process_data_gated_leaver :
    let n := leaver.run leaverRun
    (n.device.sync.received = true ∧ n.device.sync.receiveError = 0x101 ∧
      (∃ r, n.device.rpdos = [r] ∧ r.hasPendingData = true) ∧
      ∃ t, n.device.tpdos = [t] ∧ t.valid = true ∧ t.sendRequested = true) ∧
    (∀ f, (n.receive f).2.device.rpdos = n.device.rpdos) ∧
      n.HoldsBack 20 (Bus.ofCapacity 4) ∧ n.Sleeps 20 (Bus.ofCapacity 4) := by
  intro n
  obtain ⟨hframes, hticks, hsleeps⟩ := process_data_gated (σ := Bus) (n := n) (by decide)
  exact ⟨⟨by decide, by decide, ⟨_, rfl, by decide⟩, _, rfl, by decide, by decide⟩, hframes,
    hticks 20 _, hsleeps (.inr (by decide)) 20 _⟩

end Node

end Canopen
