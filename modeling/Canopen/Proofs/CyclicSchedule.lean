import Canopen.Proofs.TransportRecord

/-! # The schedule of cyclic PDOs

A cyclic transmit PDO is sent at every n-th SYNC.  It counts down from its transmission type, in a
byte that also tells that nothing was counted yet and that the SYNC with the start value is waited
for.  `countFrom` is that count, as a function of what the byte stands for: what the count comes to
over any sequence of SYNCs is said by `Counts.attempted_iff` and `Counts.attempted_iff_start`, and a
run of a node goes through it once for each tick at which a SYNC takes effect (`counts_run`).  So the
schedule does not depend on anything else that happens to the node, and not on the transport either
(`cyclic_schedule`). -/

namespace Canopen

/-! ### Counting SYNCs -/

/-- The PDO is sent at every n-th SYNC. -/
structure TransmissionType.IsCyclic (type : TransmissionType) : Prop where
  pos : 1 ≤ type.toNat
  le : type.toNat ≤ 240

theorem TransmissionType.IsCyclic.isEventDriven {type : TransmissionType} (h : type.IsCyclic) :
    type.isEventDriven = false := by
  have hle := h.le
  refine decide_eq_false ?_
  rw [UInt8.le_iff_toNat_le]
  show ¬ 253 ≤ type.toNat
  omega

theorem TransmissionType.IsCyclic.ne_zero {type : TransmissionType} (h : type.IsCyclic) :
    type ≠ 0 := by
  rintro rfl
  exact absurd h.pos (by decide)

/-- A tick at which a SYNC takes effect. -/
structure SyncMark where
  /-- The SYNC counter. -/
  counter : UInt8
  /-- Is the PDO handed to the transport? -/
  attempted : Bool
deriving DecidableEq, Repr

/-- Count a SYNC: whether the PDO is to be sent, and the new counter. -/
def countFrom (type : TransmissionType) (start counter syncCounter : UInt8) : Bool × UInt8 :=
  if counter = Tpdo.counterWaiting then
    if syncCounter = start then (true, type) else (false, counter)
  else if counter ≤ 1 then (true, type) else (false, counter - 1)

/-- The PDO is handed to the transport as the count says. -/
def Counts (type : TransmissionType) (start : UInt8) : UInt8 → List SyncMark → Prop
  | _, [] => True
  | counter, mark :: marks => mark.attempted = (countFrom type start counter mark.counter).1 ∧
      Counts type start (countFrom type start counter mark.counter).2 marks

theorem toNat_sub_one {counter : UInt8} (h : ¬ counter ≤ 1) :
    2 ≤ counter.toNat ∧ (counter - 1).toNat = counter.toNat - 1 := by
  have htwo : 2 ≤ counter.toNat := by
    rw [UInt8.le_iff_toNat_le] at h
    change ¬ counter.toNat ≤ 1 at h
    omega
  exact ⟨htwo, UInt8.toNat_sub_of_le counter 1 (UInt8.le_iff_toNat_le.mpr (Nat.le_of_succ_le htwo))⟩

section counts
variable {type : TransmissionType} {start : UInt8}

/-- A countdown that has gone through `m` SYNCs is at its end at every n-th of them. -/
theorem countFrom_counting (htype : type.IsCyclic) {counter : UInt8} {m : Nat}
    (h : counter.toNat + m % type.toNat = type.toNat) (start syncCounter : UInt8) :
    ((countFrom type start counter syncCounter).1 = true ↔ type.toNat ∣ m + 1) ∧
      (countFrom type start counter syncCounter).2.toNat + (m + 1) % type.toNat = type.toNat := by
  have hlt : m % type.toNat < type.toNat := Nat.mod_lt m htype.pos
  have hle := htype.le
  have hsucc : (m + 1) % type.toNat = (m % type.toNat + 1) % type.toNat :=
    (Nat.mod_add_mod m type.toNat 1).symm
  have hcounting : counter ≠ Tpdo.counterWaiting := by
    rintro rfl
    change 254 + _ = _ at h
    omega
  unfold countFrom
  rw [if_neg hcounting]
  by_cases hend : counter ≤ 1
  · have hone : counter.toNat ≤ 1 := UInt8.le_iff_toNat_le.mp hend
    have hzero : (m + 1) % type.toNat = 0 := by
      rw [hsucc, show m % type.toNat + 1 = type.toNat by omega, Nat.mod_self]
    rw [if_pos hend, hzero]
    exact ⟨iff_of_true rfl (Nat.dvd_of_mod_eq_zero hzero), rfl⟩
  · obtain ⟨htwo, hpred⟩ := toNat_sub_one hend
    have hnext : (m + 1) % type.toNat = m % type.toNat + 1 := by
      rw [hsucc, Nat.mod_eq_of_lt (by omega)]
    rw [if_neg hend, hnext]
    refine ⟨iff_of_false Bool.false_ne_true fun hdvd => ?_, ?_⟩
    · rw [Nat.mod_eq_zero_of_dvd hdvd] at hnext
      omega
    · show (counter - 1).toNat + _ = _
      omega

/-- While it counts down, the PDO is sent at every n-th SYNC. -/
theorem Counts.attempted_iff (htype : type.IsCyclic) {marks : List SyncMark} {counter : UInt8}
    {m : Nat} (h : Counts type start counter marks)
    (hcounter : counter.toNat + m % type.toNat = type.toNat) {i : Nat} {mark : SyncMark}
    (hmark : marks[i]? = some mark) : mark.attempted = true ↔ type.toNat ∣ m + i + 1 := by
  induction marks generalizing counter m i with
  | nil => cases hmark
  | cons mark₀ marks ih =>
      obtain ⟨hattempted, hmarks⟩ := h
      obtain ⟨hdue, hnext⟩ := countFrom_counting htype hcounter start mark₀.counter
      cases i with
      | zero =>
          obtain rfl := Option.some.inj hmark
          rw [hattempted]
          exact hdue
      | succ i =>
          rw [show m + (i + 1) + 1 = m + 1 + i + 1 by omega]
          exact ih hmarks hnext hmark

/-- A PDO with a start value is sent at the first SYNC with that counter, and at every n-th SYNC from
then on. -/
theorem Counts.attempted_iff_start (htype : type.IsCyclic) {marks : List SyncMark}
    (h : Counts type start Tpdo.counterWaiting marks) {i : Nat} {mark : SyncMark}
    (hmark : marks[i]? = some mark) : mark.attempted = true ↔
      ∃ j, marks.findIdx? (fun m => m.counter == start) = some j ∧ j ≤ i ∧ type.toNat ∣ i - j := by
  induction marks generalizing i with
  | nil => cases hmark
  | cons mark₀ marks ih =>
      obtain ⟨hattempted, hmarks⟩ := h
      unfold countFrom at hattempted hmarks
      rw [if_pos rfl] at hattempted hmarks
      rw [List.findIdx?_cons]
      cases hstart : mark₀.counter == start with
      | true =>
          rw [if_pos (eq_of_beq hstart)] at hattempted hmarks
          have hfirst : (∃ j, some 0 = some j ∧ j ≤ i ∧ type.toNat ∣ i - j) ↔ type.toNat ∣ i :=
            ⟨fun ⟨j, hj, _, hdvd⟩ => by
                obtain rfl := Option.some.inj hj
                exact hdvd,
              fun hdvd => ⟨0, rfl, Nat.zero_le i, hdvd⟩⟩
          rw [if_pos rfl, hfirst]
          cases i with
          | zero =>
              obtain rfl := Option.some.inj hmark
              exact iff_of_true hattempted (Nat.dvd_zero _)
          | succ i =>
              have hcount := Counts.attempted_iff (m := 0) htype hmarks (by simp) hmark
              rwa [Nat.zero_add] at hcount
      | false =>
          rw [if_neg (ne_of_beq_false hstart)] at hattempted hmarks
          rw [if_neg Bool.false_ne_true]
          cases i with
          | zero =>
              obtain rfl := Option.some.inj hmark
              refine iff_of_false (by rw [hattempted]; exact Bool.false_ne_true) ?_
              rintro ⟨j, hj, hle, _⟩
              obtain ⟨j', _, rfl⟩ := Option.map_eq_some_iff.mp hj
              exact absurd hle (Nat.not_succ_le_zero j')
          | succ i =>
              rw [ih hmarks hmark]
              constructor
              · rintro ⟨j, hj, hle, hdvd⟩
                refine ⟨j + 1, by rw [hj]; rfl, Nat.succ_le_succ hle, ?_⟩
                rwa [Nat.add_sub_add_right]
              · rintro ⟨j, hj, hle, hdvd⟩
                obtain ⟨j', hj', rfl⟩ := Option.map_eq_some_iff.mp hj
                rw [Nat.add_sub_add_right] at hdvd
                exact ⟨j', hj', Nat.le_of_succ_le_succ hle, hdvd⟩

end counts

/-! ### What a tick does to a cyclic PDO -/

namespace Tpdo

theorem countSync_eq (t : Tpdo) (sync : SyncState) : t.countSync sync =
    countFrom t.params.transmissionType t.syncStart (t.startingCounter sync) sync.counter := by
  unfold countSync countFrom
  generalize t.startingCounter sync = counter
  dsimp only
  by_cases hwaiting : counter = counterWaiting
  · rw [if_pos hwaiting, if_pos hwaiting]
  · rw [if_neg hwaiting, if_neg hwaiting]
    by_cases hend : counter ≤ 1
    · rw [if_pos hend]
      obtain rfl | rfl : counter = 0 ∨ counter = 1 := by
        rw [UInt8.le_iff_toNat_le] at hend
        change counter.toNat ≤ 1 at hend
        rw [← UInt8.toNat_inj, ← UInt8.toNat_inj (b := 1)]
        change counter.toNat = 0 ∨ counter.toNat = 1
        omega
      · rfl
      · rfl
    · obtain ⟨htwo, hpred⟩ := toNat_sub_one hend
      have hzero : counter ≠ 0 := by
        rintro rfl
        exact absurd htwo (by decide)
      have hnext : counter - 1 ≠ 0 := by
        intro h
        rw [h] at hpred
        change 0 = _ at hpred
        omega
      rw [if_neg hzero, if_neg hnext, if_neg hend]

theorem schedule_cyclic {t : Tpdo} (hv : t.valid = true) (htype : t.params.transmissionType.IsCyclic)
    (sync : SyncState) : t.schedule sync true .operational =
      ((t.countSync sync).1, { t with syncCounter := (t.countSync sync).2 }) := by
  have hactive : (t.valid && NmtState.operational == .operational) = true := by
    rw [hv]
    rfl
  unfold schedule
  dsimp only
  rw [if_pos hactive, htype.isEventDriven, if_neg Bool.false_ne_true, if_pos rfl,
    if_neg htype.ne_zero]

theorem schedule_cyclic_idle {t : Tpdo} (htype : t.params.transmissionType.IsCyclic)
    (sync : SyncState) {syncOccurred : Bool} {nmt : NmtState}
    (h : ¬ (nmt = .operational ∧ syncOccurred = true)) :
    (t.schedule sync syncOccurred nmt).1 = false ∧
      (t.schedule sync syncOccurred nmt).2.syncCounter = t.syncCounter := by
  unfold schedule
  dsimp only
  split
  · rename_i hactive
    have hnmt : nmt = .operational := eq_of_beq (Bool.and_eq_true_iff.mp hactive).2
    rw [htype.isEventDriven, if_neg Bool.false_ne_true, if_neg fun hsync => h ⟨hnmt, hsync⟩]
    exact ⟨rfl, rfl⟩
  · exact ⟨rfl, rfl⟩

theorem syncCounter_settle (t : Tpdo) (outcome : Transmission) (elapsed : Micros) :
    (t.settle outcome elapsed).syncCounter = t.syncCounter := by
  unfold settle restartTimers
  split
  · split
    · rfl
    · rfl
  · rfl

theorem syncCounter_noticeChange (t : Tpdo) (objects : Dictionary) :
    (Device.noticeChange t objects).syncCounter = t.syncCounter := by
  unfold Device.noticeChange
  split
  · rfl
  · rfl

/-- A PDO is handed to the transport if it is due, and the schedule alone changes what it counts. -/
theorem process_schedule {σ : Type} [Transport σ] (t : Tpdo) (objects : Dictionary)
    (sync : SyncState) (syncOccurred : Bool) (elapsed : Micros) (nmt : NmtState) (link : σ) :
    ((t.process objects sync syncOccurred elapsed nmt link).1 ≠ .idle ↔
        (t.schedule sync syncOccurred nmt).1 = true) ∧
      (t.process objects sync syncOccurred elapsed nmt link).2.1.syncCounter =
        (t.schedule sync syncOccurred nmt).2.syncCounter := by
  unfold process
  generalize t.schedule sync syncOccurred nmt = scheduled
  obtain ⟨due, t₁⟩ := scheduled
  dsimp only
  rw [syncCounter_settle]
  cases due with
  | false => exact ⟨iff_of_false (fun h => h rfl) Bool.false_ne_true, rfl⟩
  | true =>
      rw [if_pos rfl]
      exact ⟨iff_of_true (Transmission.ne_idle_of_frame? (t₁.frame?_send objects link)) rfl, rfl⟩

theorem startingCounter_congr {t t' : Tpdo} (h : t.SameSetup t')
    (hcounter : t'.syncCounter = t.syncCounter) {sync sync' : SyncState}
    (hoverflow : sync'.counterOverflow = sync.counterOverflow) :
    t'.startingCounter sync' = t.startingCounter sync := by
  unfold startingCounter
  rw [hcounter, hoverflow, h.syncStart, h.params]

theorem startingCounter_of_ne {t : Tpdo} (h : t.syncCounter ≠ counterUnset) (sync : SyncState) :
    t.startingCounter sync = t.syncCounter := by
  unfold startingCounter
  rw [if_neg h]

/-- A tick at which a SYNC takes effect counts, and sends the PDO as the count says. -/
theorem process_sync {σ : Type} [Transport σ] {t : Tpdo} (hv : t.valid = true)
    (htype : t.params.transmissionType.IsCyclic) (objects : Dictionary) (sync : SyncState)
    (elapsed : Micros) (link : σ) :
    let due := countFrom t.params.transmissionType t.syncStart (t.startingCounter sync) sync.counter
    let ticked := (Device.noticeChange t objects).process objects sync true elapsed .operational link
    (ticked.1 ≠ .idle ↔ due.1 = true) ∧ ticked.2.1.syncCounter = due.2 := by
  intro due ticked
  have hnotice := t.sameSetup_noticeChange objects
  have htype' : (Device.noticeChange t objects).params.transmissionType.IsCyclic := by
    rw [hnotice.params]
    exact htype
  have hcount : (Device.noticeChange t objects).countSync sync = due := by
    rw [countSync_eq, hnotice.params, hnotice.syncStart,
      startingCounter_congr hnotice (t.syncCounter_noticeChange objects) rfl]
  obtain ⟨hdue, hcounter⟩ := (Device.noticeChange t objects).process_schedule objects sync true
    elapsed .operational link
  rw [schedule_cyclic (hnotice.valid.trans hv) htype', hcount] at hdue hcounter
  exact ⟨hdue, hcounter⟩

theorem process_no_sync {σ : Type} [Transport σ] {t : Tpdo}
    (htype : t.params.transmissionType.IsCyclic) (objects : Dictionary) (sync : SyncState)
    {syncOccurred : Bool} (elapsed : Micros) {nmt : NmtState} (link : σ)
    (h : ¬ (nmt = .operational ∧ syncOccurred = true)) :
    let ticked := (Device.noticeChange t objects).process objects sync syncOccurred elapsed nmt link
    ticked.1 = .idle ∧ ticked.2.1.syncCounter = t.syncCounter := by
  intro ticked
  have htype' : (Device.noticeChange t objects).params.transmissionType.IsCyclic := by
    rw [(t.sameSetup_noticeChange objects).params]
    exact htype
  obtain ⟨hdue, hcounter⟩ := (Device.noticeChange t objects).process_schedule objects sync
    syncOccurred elapsed nmt link
  obtain ⟨hidle, hkept⟩ := schedule_cyclic_idle htype' sync h
  rw [hidle] at hdue
  refine ⟨Decidable.not_not.mp fun hne => Bool.false_ne_true (hdue.mp hne), ?_⟩
  exact hcounter.trans (hkept.trans (t.syncCounter_noticeChange objects))

end Tpdo

namespace SyncState

theorem counterOverflow_advance (s : SyncState) (elapsed : Micros) (nmt : NmtState) :
    (s.advance elapsed nmt).next.counterOverflow = s.counterOverflow := by
  have hhandles := s.handles_advance elapsed nmt
  generalize s.advance elapsed nmt = tick at hhandles ⊢
  cases hhandles with
  | unused _ => rfl
  | received _ _ => rfl
  | produced _ _ _ => rfl
  | passed _ _ _ => rfl

theorem counterOverflow_receive (s : SyncState) (f : Frame) (nmt : NmtState) :
    (s.receive f nmt).2.counterOverflow = s.counterOverflow := by
  unfold receive
  split
  · split
    · rfl
    · rfl
  · rfl

end SyncState

theorem countFrom_ne_unset {type : TransmissionType} (htype : type.IsCyclic)
    (start counter syncCounter : UInt8) :
    (countFrom type start counter syncCounter).2 ≠ Tpdo.counterUnset := by
  have hne : type ≠ Tpdo.counterUnset := by
    rintro rfl
    exact absurd htype.le (by decide)
  unfold countFrom
  split
  · rename_i hwaiting
    split
    · exact hne
    · rw [hwaiting]
      decide
  · split
    · exact hne
    · rename_i hend
      obtain ⟨htwo, hpred⟩ := toNat_sub_one hend
      have hlt := counter.toNat_lt
      intro h
      rw [show counter - 1 = Tpdo.counterUnset from h] at hpred
      change 255 = _ at hpred
      omega

/-! ### Runs -/

namespace Node

variable {σ : Type} [Transport σ]

/-- The mark of an event, if it is a tick at which a SYNC takes effect on an operational node. -/
def syncMark (k : Nat) (n : Node) : Event σ → List SyncMark
  | .tick now link =>
    if n.device.nmt = .operational ∧ (n.tick now link).1.event = .sync then
      [⟨(n.tick now link).2.1.device.sync.counter, !(n.attemptedBy k (.tick now link)).isEmpty⟩]
    else []
  | _ => []

/-- The event writes no parameter and is no reset. -/
def LeavesParameters (n : Node) : Event σ → Prop
  | .write id _ | .writeLeading id _ => ∀ p, n.device.object id.index ≠ .ok (.parameter p)
  | e => ¬ e.IsReset

/-- A valid cyclic transmit PDO. -/
structure Cycles (n : Node) (k : Nat) (t : Tpdo) : Prop where
  tpdo : n.device.tpdos[k]? = some t
  valid : t.valid = true
  cyclic : t.params.transmissionType.IsCyclic

variable {n : Node} {k : Nat} {t : Tpdo} {e : Event σ}

theorem Cycles.of_sameSetup {m : Node} {t' : Tpdo} (h : n.Cycles k t)
    (ht : m.device.tpdos[k]? = some t') (hs : t.SameSetup t') : m.Cycles k t' where
  tpdo := ht
  valid := hs.valid.trans h.valid
  cyclic := by
    rw [hs.params]
    exact h.cyclic

theorem attemptedBy_tick (now : UInt64) (link : σ) {outcome : Transmission}
    (h : (n.tick now link).1.transmissions[k]? = some outcome) :
    n.attemptedBy k (.tick now link) = if outcome = .idle then [] else [outcome] := by
  show (n.tick now link).1.transmissions[k]?.toList.filter (· != .idle) = _
  rw [h]
  cases outcome <;> rfl

/-- What a tick does to a cyclic PDO: nothing, or one step of the count. -/
theorem cycles_tick (h : n.Cycles k t) (now : UInt64) (link : σ) :
    ∃ t', (n.tick now link).2.1.Cycles k t' ∧ t.SameSetup t' ∧
      (n.tick now link).2.1.device.sync.counterOverflow = n.device.sync.counterOverflow ∧
      ((n.syncMark k (.tick now link) = [] ∧ n.attemptedBy k (.tick now link) = [] ∧
          t'.syncCounter = t.syncCounter) ∨
        ∃ x, n.syncMark k (.tick now link) = [⟨x, (countFrom t.params.transmissionType t.syncStart
              (t.startingCounter n.device.sync) x).1⟩] ∧
          t'.syncCounter = (countFrom t.params.transmissionType t.syncStart
            (t.startingCounter n.device.sync) x).2) := by
  obtain ⟨link', hsent, htpdos⟩ := n.device.tick_tpdos (Micros.elapsed n.lastTick now) link k
  rw [h.tpdo, Option.map_some] at hsent htpdos
  have hattempted := attemptedBy_tick (n := n) now link hsent
  have hstart : t.startingCounter (n.device.syncTick (Micros.elapsed n.lastTick now)).next =
      t.startingCounter n.device.sync :=
    Tpdo.startingCounter_congr (.refl t) rfl (n.device.sync.counterOverflow_advance _ _)
  have hoccurs : n.device.syncOccurs (Micros.elapsed n.lastTick now) =
      ((n.tick now link).1.event == .sync) := rfl
  refine ⟨_, h.of_sameSetup htpdos (t.sameSetup_tick _ _ _ _ _ _), t.sameSetup_tick _ _ _ _ _ _,
    n.device.sync.counterOverflow_advance _ _, ?_⟩
  unfold syncMark
  dsimp only
  by_cases hsync : n.device.nmt = .operational ∧ (n.tick now link).1.event = .sync
  · have hoccurred : n.device.syncOccurs (Micros.elapsed n.lastTick now) = true := by
      rw [hoccurs, hsync.2]
      rfl
    obtain ⟨hdue, hcounter⟩ := Tpdo.process_sync h.valid h.cyclic
      (n.device.tick (Micros.elapsed n.lastTick now) link).2.1.dictionary
      (n.device.syncTick (Micros.elapsed n.lastTick now)).next (Micros.elapsed n.lastTick now) link'
    rw [hstart] at hdue hcounter
    rw [if_pos hsync, hattempted, hsync.1, hoccurred]
    refine .inr ⟨_, ?_, hcounter⟩
    refine congrArg (fun due => [SyncMark.mk _ due]) (Bool.eq_iff_iff.mpr (Iff.trans ?_ hdue))
    split
    · rename_i hidle
      exact iff_of_false Bool.false_ne_true fun hne => hne hidle
    · rename_i hne
      exact iff_of_true rfl hne
  · have hquiet : ¬ (n.device.nmt = .operational ∧
        n.device.syncOccurs (Micros.elapsed n.lastTick now) = true) := by
      rw [hoccurs, beq_iff_eq]
      exact hsync
    obtain ⟨hidle, hkept⟩ := Tpdo.process_no_sync h.cyclic
      (n.device.tick (Micros.elapsed n.lastTick now) link).2.1.dictionary
      (n.device.syncTick (Micros.elapsed n.lastTick now)).next (Micros.elapsed n.lastTick now) link'
      hquiet
    rw [hattempted, if_neg hsync, if_pos hidle]
    exact .inl ⟨rfl, rfl, hkept⟩

theorem cycles_quiet (h : n.Cycles k t) (he : n.LeavesParameters e)
    (hquiet : ∀ now link, e ≠ .tick now link) :
    ∃ t', (n.step e).Cycles k t' ∧ t.SameSetup t' ∧
      (n.step e).device.sync.counterOverflow = n.device.sync.counterOverflow ∧
      n.syncMark k e = [] ∧ n.attemptedBy k e = [] ∧ t'.syncCounter = t.syncCounter := by
  have hobjects : ∀ {m : Node} {objects : Dictionary},
      m.device = { n.device with dictionary := objects } →
      m.Cycles k t ∧ m.device.sync.counterOverflow = n.device.sync.counterOverflow := by
    intro m objects hm
    refine ⟨h.of_sameSetup ?_ (.refl t), ?_⟩
    · rw [hm]
      exact h.tpdo
    · rw [hm]
  cases e with
  | tick now link => exact absurd rfl (hquiet now link)
  | frame f =>
      have hf := n.device.receive_received f
      have ht : (n.device.receive f).2.tpdos[k]? = some t := by
        rw [hf.tpdos]
        exact h.tpdo
      refine ⟨t, h.of_sameSetup ht (.refl t), .refl t, ?_, rfl, rfl, rfl⟩
      show (n.device.receive f).2.sync.counterOverflow = _
      generalize (n.device.receive f).1 = reception at hf
      generalize (n.device.receive f).2 = d' at hf ⊢
      cases hf with
      | sync _ => exact n.device.sync.counterOverflow_receive f n.device.nmt
      | accepted _ _ _ _ => rfl
      | dropped _ _ _ _ => rfl
      | unclaimed _ => rfl
  | write id data =>
      rcases n.device.write_cases id data with ⟨objects, hwrite⟩ | ⟨p, hp, _⟩
      · obtain ⟨hcycles, hoverflow⟩ := hobjects (m := n.step (.write (σ := σ) id data)) hwrite
        exact ⟨t, hcycles, .refl t, hoverflow, rfl, rfl, rfl⟩
      · exact absurd hp (he p)
  | writeLeading id data =>
      rcases n.device.writeLeading_cases id data with ⟨objects, hwrite⟩ | ⟨p, _, _, hp, _⟩
      · obtain ⟨hcycles, hoverflow⟩ := hobjects (m := n.step (.writeLeading (σ := σ) id data)) hwrite
        exact ⟨t, hcycles, .refl t, hoverflow, rfl, rfl, rfl⟩
      · exact absurd hp (he p)
  | store index i v =>
      obtain ⟨objects, hstore⟩ := n.device.exists_store_eq index i v
      obtain ⟨hcycles, hoverflow⟩ := hobjects (m := n.step (.store (σ := σ) index i v)) hstore
      exact ⟨t, hcycles, .refl t, hoverflow, rfl, rfl, rfl⟩
  | requestSend i =>
      have ht : (n.device.requestSend i).tpdos[k]? =
          some (if i = k then t.requestSend else t) := by
        simp only [Device.requestSend, Device.modifyTpdo, List.getElem?_modify, h.tpdo]
        rfl
      have hs : t.SameSetup (if i = k then t.requestSend else t) := by
        split
        · exact t.sameSetup_requestSend
        · exact .refl t
      refine ⟨_, h.of_sameSetup ht hs, hs, rfl, rfl, rfl, ?_⟩
      split
      · rfl
      · rfl
  | setNmt _ => exact ⟨t, h.of_sameSetup h.tpdo (.refl t), .refl t, rfl, rfl, rfl, rfl⟩
  | _ => exact absurd trivial he

/-- What an event does to a cyclic PDO: nothing, or one step of the count. -/
theorem cycles_step (h : n.Cycles k t) (he : n.LeavesParameters e) :
    ∃ t', (n.step e).Cycles k t' ∧ t.SameSetup t' ∧
      (n.step e).device.sync.counterOverflow = n.device.sync.counterOverflow ∧
      ((n.syncMark k e = [] ∧ n.attemptedBy k e = [] ∧ t'.syncCounter = t.syncCounter) ∨
        ∃ x, n.syncMark k e = [⟨x, (countFrom t.params.transmissionType t.syncStart
              (t.startingCounter n.device.sync) x).1⟩] ∧
          t'.syncCounter = (countFrom t.params.transmissionType t.syncStart
            (t.startingCounter n.device.sync) x).2) := by
  by_cases htick : ∃ now link, e = .tick now link
  · obtain ⟨now, link, rfl⟩ := htick
    exact cycles_tick h now link
  · obtain ⟨t', hcycles, hsame, hoverflow, hquiet⟩ :=
      cycles_quiet h he fun now link hn => htick ⟨now, link, hn⟩
    exact ⟨t', hcycles, hsame, hoverflow, .inl hquiet⟩

variable {es : List (Event σ)}

/-- The ticks of a run at which a SYNC takes effect go through the count. -/
theorem counts_run (h : n.Cycles k t) (hes : n.Along LeavesParameters es) :
    Counts t.params.transmissionType t.syncStart (t.startingCounter n.device.sync)
      (n.trace (syncMark k) es) := by
  induction es generalizing n t with
  | nil => trivial
  | cons e es ih =>
      obtain ⟨t', hcycles, hsame, hoverflow, ⟨hmark, _, hkept⟩ | ⟨x, hmark, hcounter⟩⟩ :=
        cycles_step h hes.1
      · have hcounts := ih hcycles hes.2
        rw [hsame.params, hsame.syncStart, Tpdo.startingCounter_congr hsame hkept hoverflow]
          at hcounts
        unfold trace
        rw [hmark]
        exact hcounts
      · have hcounts := ih hcycles hes.2
        have hne : t'.syncCounter ≠ Tpdo.counterUnset := by
          rw [hcounter]
          exact countFrom_ne_unset h.cyclic _ _ _
        rw [hsame.params, hsame.syncStart, Tpdo.startingCounter_of_ne hne, hcounter] at hcounts
        unfold trace
        rw [hmark]
        exact ⟨rfl, hcounts⟩

theorem cycles_run (h : n.Cycles k t) (hes : n.Along LeavesParameters es) :
    ∃ t', (n.run es).Cycles k t' :=
  along_invariant (I := fun m => ∃ t', m.Cycles k t')
    (fun _ _ he ⟨_, h⟩ => (cycles_step h he).imp fun _ h' => h'.1) hes ⟨t, h⟩

/-- Nothing but a tick at which a SYNC takes effect hands a cyclic PDO to the transport. -/
theorem syncMark_of_attemptedBy (h : n.Cycles k t) (he : n.LeavesParameters e)
    (hattempted : n.attemptedBy k e ≠ []) : ∃ now link, e = .tick now link ∧
      n.device.nmt = .operational ∧ (n.tick now link).1.event = .sync := by
  have hmark : n.syncMark k e ≠ [] := by
    obtain ⟨t', _, _, _, ⟨_, hnone, _⟩ | ⟨x, hmark, _⟩⟩ := cycles_step h he
    · exact absurd hnone hattempted
    · rw [hmark]
      exact List.cons_ne_nil _ _
  cases e with
  | tick now link =>
      unfold syncMark at hmark
      dsimp only at hmark
      split at hmark
      · rename_i hsync
        exact ⟨now, link, rfl, hsync⟩
      · exact absurd rfl hmark
  | _ => exact absurd rfl hmark

end Node

theorem Tpdo.syncCounter_restart (t : Tpdo) (attributes : Attributes) :
    (t.restart attributes).syncCounter = counterUnset := rfl

namespace Node

variable {σ : Type} [Transport σ]

/-- **A cyclic PDO is handed to the transport at every n-th SYNC, and at no other time.**  The run
starts at a communication reset of any node and writes no parameters; SYNCs are counted that take
effect on the operational node.  Without start value or SYNC counter the PDO is sent at every n-th of
them, else at the first with the start value and at every n-th from then on.  Neither what else happens
to the node nor frames that the transport refuses make a difference.  Every attempt is on record with
the transport. -/
theorem cyclic_schedule (n : Node) {k : Nat} {t : Tpdo} {es : List (Event σ)}
    (ht : n.resetCommunication.device.tpdos[k]? = some t) (hv : t.valid = true)
    (htype : t.params.transmissionType.IsCyclic)
    (hes : n.resetCommunication.Along LeavesParameters es) :
    let m := n.resetCommunication
    let period := t.params.transmissionType.toNat
    let marks := m.trace (syncMark k) es
    (t.syncStart = 0 ∨ m.device.sync.counterOverflow = 0 →
        ∀ (i : Nat) (mark : SyncMark), marks[i]? = some mark →
          (mark.attempted = true ↔ period ∣ i + 1)) ∧
      (t.syncStart ≠ 0 → m.device.sync.counterOverflow ≠ 0 →
        ∀ (i : Nat) (mark : SyncMark), marks[i]? = some mark → (mark.attempted = true ↔
          ∃ j, marks.findIdx? (fun mark => mark.counter == t.syncStart) = some j ∧ j ≤ i ∧
            period ∣ i - j)) ∧
      (∀ past e, past ++ [e] <+: es → (m.run past).attemptedBy k e ≠ [] →
        ∃ now link, e = .tick now link ∧ (m.run past).device.nmt = .operational ∧
          ((m.run past).tick now link).1.event = .sync) ∧
      m.Along OnRecord es := by
  intro m period marks
  have hcycles : m.Cycles k t := ⟨ht, hv, htype⟩
  have hcounts : Counts t.params.transmissionType t.syncStart (t.startingCounter m.device.sync) marks :=
    counts_run hcycles hes
  have hunset : t.syncCounter = Tpdo.counterUnset := by
    have ht' : n.device.resetCommunication.tpdos[k]? = some t := ht
    rw [Device.resetCommunication_tpdos, List.getElem?_map] at ht'
    obtain ⟨t₀, _, rfl⟩ := Option.map_eq_some_iff.mp ht'
    exact t₀.syncCounter_restart _
  unfold Tpdo.startingCounter at hcounts
  rw [if_pos hunset] at hcounts
  refine ⟨fun hplain i mark hmark => ?_, fun hstart hoverflow i mark hmark => ?_,
    fun past e hpast hattempted => ?_, along_onRecord m es⟩
  · rw [if_neg fun h => hplain.elim h.2 h.1] at hcounts
    have hiff := hcounts.attempted_iff (m := 0) htype (by simp) hmark
    rwa [Nat.zero_add] at hiff
  · rw [if_pos ⟨hoverflow, hstart⟩] at hcounts
    exact hcounts.attempted_iff_start htype hmark
  · obtain ⟨rest, rfl⟩ := hpast
    rw [List.append_assoc, along_append] at hes
    obtain ⟨t', hcycles'⟩ := cycles_run hcycles hes.1
    exact syncMark_of_attemptedBy hcycles' hes.2.1 hattempted

/-! ### Five SYNCs -/

/-- A node with a transmit PDO for every second SYNC. -/
def everySecond (start overflow : UInt8) : Node :=
  let byte := AppObject.var (SubInfo.u8.readWrite.mappable .tpdo) (.ofNumber .u8 0)
  (Node.start .unconfigured (Device.fresh 0 1 ⟨[⟨0x2000, .application byte⟩]⟩)).loadConfig
    { DeviceConfig.initial with
      nodeId := 1
      sync := ⟨0x80, 0, 0, overflow⟩
      tpdos := [⟨some 0x181, 2, 0, 0, start, [0x20000008], 0⟩] }

/-- Five SYNCs from another node; the transport refuses a frame at the third. -/
def fiveSyncs : List (Event Bus) :=
  [.setNmt .operational, foreignSync 1, .tick 0 (.ofCapacity 1), foreignSync 2,
    .tick 1000 (.ofCapacity 1), foreignSync 3, .tick 2000 (.ofCapacity 0), foreignSync 4,
    .tick 3000 (.ofCapacity 1), foreignSync 5, .tick 4000 (.ofCapacity 1)]

/-- From the third on, every second SYNC is answered; the refused frame makes no difference. -/
theorem cyclic_schedule_everySecond :
    let marks := (everySecond 3 10).resetCommunication.trace (syncMark 0) fiveSyncs
    (∃ mark₃ mark₄, marks[3]? = some mark₃ ∧ marks[4]? = some mark₄ ∧ mark₃.attempted = false ∧
      mark₄.attempted = true) ∧
    ((everySecond 3 10).resetCommunication.run (fiveSyncs.take 10)).answers
      (.tick 4000 (Bus.ofCapacity 1)) = [.sent (.carrying (.std 0x181) [0])] := by
  intro marks
  have hes : (everySecond 3 10).resetCommunication.Along LeavesParameters fiveSyncs :=
    ⟨nofun, nofun, nofun, nofun, nofun, nofun, nofun, nofun, nofun, nofun, nofun, trivial⟩
  obtain ⟨_, hstart, _, hrecord⟩ := cyclic_schedule (everySecond 3 10) (k := 0) rfl rfl
    ⟨by decide, by decide⟩ hes
  have hschedule := hstart (by decide) (by decide)
  have hfirst : marks.findIdx? (fun mark => mark.counter == 3) = some 2 := rfl
  refine ⟨⟨_, _, rfl, rfl, ?_, ?_⟩, ?_⟩
  · refine Bool.eq_false_iff.mpr fun hattempted => ?_
    obtain ⟨j, hj, _, hdvd⟩ := (hschedule 3 _ rfl).mp hattempted
    obtain rfl := Option.some.inj (hfirst.symm.trans hj)
    exact absurd hdvd (by decide)
  · exact (hschedule 4 _ rfl).mpr ⟨2, hfirst, by decide, by decide⟩
  · have hlast := (along_iff _ _).mp hrecord (fiveSyncs.take 10) (.tick 4000 (Bus.ofCapacity 1))
      List.prefix_rfl
    exact hlast.trans (by decide)

end Node

end Canopen
