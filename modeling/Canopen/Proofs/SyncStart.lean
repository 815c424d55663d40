import Canopen.Proofs.CyclicSchedule
import Canopen.Proofs.MappedObjects

/-! # Waiting for the SYNC start value

A cyclic transmit PDO with a start value waits for the SYNC with this counter before it counts; all
others are sent at least once in every `n` consecutive SYNCs, where `n` is the transmission type
(`Counts.exists_attempted`).  A PDO does not begin to wait if the SYNC has no counter.  But it goes on
waiting if the counter is taken away while it waits, and is then sent only if the SYNC counter, which
received SYNCs no longer change, has the start value (`cyclic_attempted_iff`, `lateStarter_starves`). -/

namespace Canopen

/-! ### Windows of consecutive SYNCs -/

theorem exists_dvd_add {n : Nat} (h : 0 < n) (x : Nat) : ∃ j < n, n ∣ x + j := by
  refine ⟨(n - x % n) % n, Nat.mod_lt _ h, ?_⟩
  have hlt : x % n < n := Nat.mod_lt x h
  have hsum : x + (n - x % n) = n * (x / n + 1) := by
    have hdiv := Nat.div_add_mod x n
    rw [Nat.mul_add, Nat.mul_one]
    omega
  rw [Nat.dvd_iff_mod_eq_zero, Nat.add_mod, Nat.mod_mod, ← Nat.add_mod, hsum, Nat.mul_mod_right]

/-- The numbers from `first` on that are `first` modulo `n` meet every window that ends after it. -/
theorem exists_dvd_sub {n first x : Nat} (h : 0 < n) (hfirst : first < x + n) :
    ∃ j < n, first ≤ x + j ∧ n ∣ x + j - first := by
  by_cases hle : first ≤ x
  · obtain ⟨j, hj, hdvd⟩ := exists_dvd_add h (x - first)
    refine ⟨j, hj, by omega, ?_⟩
    rwa [show x + j - first = x - first + j by omega]
  · refine ⟨first - x, by omega, by omega, ?_⟩
    rw [show x + (first - x) - first = 0 by omega]
    exact Nat.dvd_zero _

theorem getElem?_window {α : Type} {before window after : List α} {j : Nat}
    (h : j < window.length) : (before ++ window ++ after)[before.length + j]? = some window[j] := by
  rw [List.append_assoc, List.getElem?_append_right (Nat.le_add_right _ _), Nat.add_sub_cancel_left,
    List.getElem?_append_left h, List.getElem?_eq_getElem h]

section counts
variable {type : TransmissionType} {start counter : UInt8} {before window after : List SyncMark}

/-- While it counts down, the PDO is sent in every window of n SYNCs. -/
theorem Counts.exists_attempted (htype : type.IsCyclic)
    (h : Counts type start counter (before ++ window ++ after)) (hpos : 1 ≤ counter.toNat)
    (hle : counter.toNat ≤ type.toNat) (hwindow : window.length = type.toNat) :
    ∃ mark ∈ window, mark.attempted = true := by
  -- the countdown has gone through as many SYNCs as it lacks
  have hcounter : counter.toNat + (type.toNat - counter.toNat) % type.toNat = type.toNat := by
    rw [Nat.mod_eq_of_lt (by omega)]
    omega
  obtain ⟨j, hj, hdvd⟩ := exists_dvd_add htype.pos (type.toNat - counter.toNat + before.length + 1)
  rw [← hwindow] at hj
  refine ⟨window[j], List.getElem_mem hj, (h.attempted_iff htype hcounter (getElem?_window hj)).mpr ?_⟩
  rwa [show type.toNat - counter.toNat + (before.length + j) + 1 =
    type.toNat - counter.toNat + before.length + 1 + j by omega]

/-- While it waits, the PDO is sent in a window of n SYNCs if the start value has come up to its end,
and only then. -/
theorem Counts.exists_attempted_iff (htype : type.IsCyclic)
    (h : Counts type start Tpdo.counterWaiting (before ++ window ++ after))
    (hwindow : window.length = type.toNat) :
    (∃ mark ∈ window, mark.attempted = true) ↔ ∃ mark ∈ before ++ window, mark.counter = start := by
  constructor
  · rintro ⟨mark, hmark, hattempted⟩
    obtain ⟨j, hj, rfl⟩ := List.mem_iff_getElem.mp hmark
    obtain ⟨i, hi, hle, _⟩ := (h.attempted_iff_start htype (getElem?_window hj)).mp hattempted
    obtain ⟨_, hstart, _⟩ := List.findIdx?_eq_some_iff_getElem.mp hi
    have hlt : i < (before ++ window).length := by
      rw [List.length_append]
      omega
    rw [List.getElem_append_left hlt] at hstart
    exact ⟨_, List.getElem_mem hlt, eq_of_beq hstart⟩
  · rintro ⟨mark, hmark, hstart⟩
    have hexists : ∃ mark ∈ before ++ window, (mark.counter == start) = true :=
      ⟨mark, hmark, beq_iff_eq.mpr hstart⟩
    -- the first SYNC with the start value comes before the end of the window
    have hfirst : (before ++ window ++ after).findIdx? (fun mark => mark.counter == start) =
        some ((before ++ window).findIdx fun mark => mark.counter == start) := by
      rw [List.findIdx?_append, List.findIdx?_eq_some_of_exists hexists, Option.some_or]
    have hlt := List.findIdx_lt_length_of_exists hexists
    rw [List.length_append, hwindow] at hlt
    obtain ⟨j, hj, hle, hdvd⟩ := exists_dvd_sub htype.pos hlt
    rw [← hwindow] at hj
    exact ⟨_, List.getElem_mem hj,
      (h.attempted_iff_start htype (getElem?_window hj)).mpr ⟨_, hfirst, hle, hdvd⟩⟩

end counts

/-! ### What a PDO counts -/

theorem TransmissionType.lt_of_not_eventDriven {type : TransmissionType}
    (h : type.isEventDriven = false) : type.toNat < 253 := by
  have hlt := of_decide_eq_false h
  rw [UInt8.le_iff_toNat_le] at hlt
  change ¬ 253 ≤ type.toNat at hlt
  omega

namespace Tpdo

/-- The SYNC counter of a PDO is one of the two marks, or at most the transmission type. -/
def InCycle (t : Tpdo) : Prop :=
  t.syncCounter = counterUnset ∨ t.syncCounter = counterWaiting ∨
    1 ≤ t.syncCounter.toNat ∧ t.syncCounter.toNat ≤ t.params.transmissionType.toNat

variable {t t' : Tpdo}

/-- A PDO begins to wait only if the SYNC has a counter, and else counts from its transmission type. -/
theorem startingCounter_cases (t : Tpdo) (sync : SyncState) :
    (t.syncCounter = counterUnset ∧ ((t.startingCounter sync = counterWaiting ∧
        sync.counterOverflow ≠ 0) ∨ t.startingCounter sync = t.params.transmissionType)) ∨
      (t.syncCounter ≠ counterUnset ∧ t.startingCounter sync = t.syncCounter) := by
  unfold startingCounter
  split
  · rename_i hunset
    split
    · rename_i hcounter
      exact .inl ⟨hunset, .inl ⟨rfl, hcounter.1⟩⟩
    · exact .inl ⟨hunset, .inr rfl⟩
  · rename_i hset
    exact .inr ⟨hset, rfl⟩

theorem InCycle.startingCounter (h : t.InCycle) (hpos : 1 ≤ t.params.transmissionType.toNat)
    {sync : SyncState} (hoverflow : sync.counterOverflow = 0)
    (hwaiting : t.syncCounter ≠ counterWaiting) :
    1 ≤ (t.startingCounter sync).toNat ∧
      (t.startingCounter sync).toNat ≤ t.params.transmissionType.toNat := by
  rcases t.startingCounter_cases sync with ⟨_, ⟨_, hne⟩ | hstart⟩ | ⟨hset, hstart⟩
  · exact absurd hoverflow hne
  · rw [hstart]
    exact ⟨hpos, Nat.le_refl _⟩
  · rw [hstart]
    exact (h.resolve_left hset).resolve_left hwaiting

/-- A tick leaves the SYNC counter alone, or counts a SYNC. -/
theorem syncCounter_tick {σ : Type} [Transport σ] (t : Tpdo) (objects : Dictionary)
    (sync : SyncState) (syncOccurred : Bool) (elapsed : Micros) (nmt : NmtState) (link : σ) :
    let ticked := (Device.noticeChange t objects).process objects sync syncOccurred elapsed nmt link
    ticked.2.1.syncCounter = t.syncCounter ∨
      t.params.transmissionType.isEventDriven = false ∧ t.params.transmissionType ≠ 0 ∧
        ticked.2.1.syncCounter = (countFrom t.params.transmissionType t.syncStart
          (t.startingCounter sync) sync.counter).2 := by
  intro ticked
  have hnotice := t.sameSetup_noticeChange objects
  have hkept := t.syncCounter_noticeChange objects
  have hscheduled := ((Device.noticeChange t objects).process_schedule objects sync syncOccurred
    elapsed nmt link).2
  change ticked.2.1.syncCounter = _ at hscheduled
  rw [hscheduled, ← hnotice.params, ← hnotice.syncStart, ← startingCounter_congr hnotice hkept rfl,
    ← countSync_eq, ← hkept]
  unfold schedule
  dsimp only
  split
  · split
    · split
      · exact .inl rfl
      · exact .inl rfl
    · rename_i htype
      split
      · split
        · exact .inl rfl
        · rename_i hzero
          exact .inr ⟨Bool.eq_false_iff.mpr htype, hzero, rfl⟩
      · exact .inl rfl
  · exact .inl rfl

/-- What a counted SYNC leaves of a cycle is no more than the whole cycle. -/
theorem InCycle.countFrom (h : t.InCycle) (hzero : t.params.transmissionType ≠ 0) (sync : SyncState)
    {counter : UInt8}
    (hcounter : t'.syncCounter = (countFrom t.params.transmissionType t.syncStart
      (t.startingCounter sync) counter).2)
    (htype : t'.params.transmissionType = t.params.transmissionType) : t'.InCycle := by
  have hpos : 1 ≤ t.params.transmissionType.toNat := by
    have hne : t.params.transmissionType.toNat ≠ 0 := fun h0 => hzero (UInt8.toNat_inj.mp h0)
    omega
  unfold InCycle
  rw [hcounter, htype]
  unfold Canopen.countFrom
  split
  · rename_i hwaiting
    split
    · exact .inr (.inr ⟨hpos, Nat.le_refl _⟩)
    · exact .inr (.inl hwaiting)
  · rename_i hcounting
    split
    · exact .inr (.inr ⟨hpos, Nat.le_refl _⟩)
    · rename_i hend
      obtain ⟨htwo, hpred⟩ := toNat_sub_one hend
      have hle : (t.startingCounter sync).toNat ≤ t.params.transmissionType.toNat := by
        rcases t.startingCounter_cases sync with ⟨_, ⟨hwaiting, _⟩ | hstart⟩ | ⟨hset, hkept⟩
        · exact absurd hwaiting hcounting
        · exact Nat.le_of_eq (congrArg UInt8.toNat hstart)
        · rw [hkept] at hcounting ⊢
          exact ((h.resolve_left hset).resolve_left hcounting).2
      refine .inr (.inr ?_)
      dsimp only
      omega

/-- A PDO that waits after a counted SYNC has waited before, or begins to wait for a counter. -/
theorem waiting_of_countFrom {sync : SyncState} {counter : UInt8}
    (htype : t.params.transmissionType.isEventDriven = false)
    (hwaiting : (countFrom t.params.transmissionType t.syncStart (t.startingCounter sync)
      counter).2 = counterWaiting) :
    t.syncCounter = counterWaiting ∨ sync.counterOverflow ≠ 0 := by
  have hlt := TransmissionType.lt_of_not_eventDriven htype
  have hne : t.params.transmissionType ≠ counterWaiting := by
    intro heq
    rw [heq] at hlt
    exact absurd hlt (by decide)
  unfold countFrom at hwaiting
  -- `254` is neither a transmission type that counts nor one less than such a type
  have hstarting : t.startingCounter sync = counterWaiting := by
    split at hwaiting
    · assumption
    · split at hwaiting
      · exact absurd hwaiting hne
      · rename_i hend
        have hpred := (toNat_sub_one hend).2
        rw [show t.startingCounter sync - 1 = counterWaiting from hwaiting] at hpred
        change 254 = _ at hpred
        rcases t.startingCounter_cases sync with ⟨_, ⟨hstart, _⟩ | hstart⟩ | ⟨hset, hstart⟩
        · exact hstart
        · rw [hstart] at hpred
          omega
        · rw [hstart] at hpred
          exact absurd (UInt8.toNat_inj.mp (show t.syncCounter.toNat = 255 by omega)) hset
  rcases t.startingCounter_cases sync with ⟨_, ⟨_, hoverflow⟩ | hstart⟩ | ⟨_, hstart⟩
  · exact .inr hoverflow
  · exact absurd (hstart.symm.trans hstarting) hne
  · exact .inl (hstart.symm.trans hstarting)

section step
variable {σ : Type} [Transport σ] {n : Node} {k : Nat} {e : Event σ}

theorem Stepped.syncCounter_cases (h : t.Stepped n k e t') :
    (t'.syncCounter = t.syncCounter ∧
        t'.params.transmissionType = t.params.transmissionType) ∨
      t'.syncCounter = counterUnset ∨
      t.params.transmissionType.isEventDriven = false ∧ t.params.transmissionType ≠ 0 ∧
        t'.params.transmissionType = t.params.transmissionType ∧
        ∃ counter, t'.syncCounter = (countFrom t.params.transmissionType t.syncStart
          (t.startingCounter n.device.sync) counter).2 := by
  cases h with
  | same => exact .inl ⟨rfl, rfl⟩
  | requested _ => exact .inl ⟨rfl, rfl⟩
  | processed now link link' _ =>
      have htype := congrArg PdoParams.transmissionType
        (t.sameSetup_tick (n.tick now link).2.1.device.dictionary
          (n.device.syncTick (Micros.elapsed n.lastTick now)).next
          (n.device.syncOccurs (Micros.elapsed n.lastTick now)) (Micros.elapsed n.lastTick now)
          n.device.nmt link').params
      have hstart : t.startingCounter (n.device.syncTick (Micros.elapsed n.lastTick now)).next =
          t.startingCounter n.device.sync :=
        startingCounter_congr (.refl t) rfl (n.device.sync.counterOverflow_advance _ _)
      rcases t.syncCounter_tick (n.tick now link).2.1.device.dictionary
        (n.device.syncTick (Micros.elapsed n.lastTick now)).next
        (n.device.syncOccurs (Micros.elapsed n.lastTick now)) (Micros.elapsed n.lastTick now)
        n.device.nmt link' with hkept | ⟨hdriven, hzero, hcounter⟩
      · exact .inl ⟨hkept, htype⟩
      · rw [hstart] at hcounter
        exact .inr (.inr ⟨hdriven, hzero, htype, _, hcounter⟩)
  | comm _ hw =>
      rcases writeComm_ok hw with ⟨_, w, stored, _, _, rfl⟩ | ⟨type, _, rfl⟩ | ⟨_, time, rfl⟩ |
        ⟨time, rfl⟩ | ⟨_, start, _, rfl⟩
      · exact .inr (.inl rfl)
      · exact .inr (.inl rfl)
      · exact .inl ⟨rfl, rfl⟩
      · exact .inl ⟨rfl, rfl⟩
      · exact .inl ⟨rfl, rfl⟩
  | @map _ _ w hw =>
      cases w with
      | entry i w => exact .inl ⟨rfl, rfl⟩
      | count count =>
          obtain ⟨_, hpdo⟩ := t.exists_applyMapping_count n.device.attributes n.device.errors count
          rw [hpdo]
          exact .inl ⟨rfl, rfl⟩
  | reset params inhibitTime eventTime syncStart attributes _ =>
      exact .inr (.inl (syncCounter_restart _ attributes))

theorem Stepped.inCycle (h : t.Stepped n k e t') (ht : t.InCycle) : t'.InCycle := by
  rcases h.syncCounter_cases with ⟨hkept, htype⟩ | hunset | ⟨_, hzero, htype, _, hcounter⟩
  · unfold InCycle
    rw [hkept, htype]
    exact ht
  · exact .inl hunset
  · exact ht.countFrom hzero _ hcounter htype

/-- A PDO that waits after an event has waited before, or the SYNC has a counter. -/
theorem Stepped.waiting (h : t.Stepped n k e t') (hwaiting : t'.syncCounter = counterWaiting) :
    t.syncCounter = counterWaiting ∨ n.device.sync.counterOverflow ≠ 0 := by
  rcases h.syncCounter_cases with ⟨hkept, _⟩ | hunset | ⟨hdriven, _, _, _, hcounter⟩
  · exact .inl (hkept.symm.trans hwaiting)
  · exact absurd (hunset.symm.trans hwaiting) (by decide)
  · exact waiting_of_countFrom hdriven (hcounter.symm.trans hwaiting)

end step

end Tpdo

/-! ### Runs -/

namespace Node

variable {σ : Type} [Transport σ]

/-- The event takes the counter of the SYNC away, and is no communication reset. -/
def DropsCounter (n : Node) (e : Event σ) : Prop :=
  ¬ e.IsReset ∧ n.device.sync.counterOverflow ≠ 0 ∧ (n.step e).device.sync.counterOverflow = 0

/-- No transmit PDO waits for a start value while the SYNC has no counter. -/
def WaitsOnlyWithCounter (n : Node) : Prop :=
  n.device.sync.counterOverflow = 0 → ∀ t ∈ n.device.tpdos, t.syncCounter ≠ Tpdo.counterWaiting

variable {n : Node} {e : Event σ}

theorem inCycle_step (n : Node) (e : Event σ) (h : ∀ t ∈ n.device.tpdos, t.InCycle) :
    ∀ t ∈ (n.step e).device.tpdos, t.InCycle := by
  intro t' ht'
  obtain ⟨k, hk⟩ := List.mem_iff_getElem?.mp ht'
  obtain ⟨t, ht, hstep⟩ := tpdo_step hk
  exact hstep.inCycle (h t (List.mem_of_getElem? ht))

theorem syncCounter_resetCommunication {d : Device} {t : Tpdo}
    (h : t ∈ d.resetCommunication.tpdos) : t.syncCounter = Tpdo.counterUnset := by
  rw [Device.resetCommunication_tpdos] at h
  obtain ⟨t, _, rfl⟩ := List.mem_map.mp h
  exact t.syncCounter_restart _

theorem waitsOnlyWithCounter_step (n : Node) (e : Event σ) (he : ¬ n.DropsCounter e)
    (h : n.WaitsOnlyWithCounter) : (n.step e).WaitsOnlyWithCounter := by
  intro hoverflow t' ht' hwaiting
  by_cases hreset : e.IsReset
  · obtain ⟨d, hd⟩ := n.exists_resetCommunication hreset
    rw [hd] at ht'
    rw [syncCounter_resetCommunication ht'] at hwaiting
    cases hwaiting
  · have hbefore : n.device.sync.counterOverflow = 0 :=
      Decidable.not_not.mp fun hne => he ⟨hreset, hne, hoverflow⟩
    obtain ⟨k, hk⟩ := List.mem_iff_getElem?.mp ht'
    obtain ⟨t, ht, hstep⟩ := tpdo_step hk
    rcases hstep.waiting hwaiting with hwaited | hne
    · exact h hbefore t (List.mem_of_getElem? ht) hwaited
    · exact hne hbefore

/-- **Without a SYNC counter a cyclic PDO is handed to the transport in every `n` consecutive SYNCs,
where `n` is its transmission type, unless it waits for a start value that does not come.**  The node
was started on any device with fresh PDOs and has met any events; from then on no parameter is
written, and the ticks are counted at which a SYNC takes effect on the operational node.  The PDO waits
only if a write has taken the counter away. -/
theorem cyclic_attempted_iff (id : NodeId) (rpdos tpdos : Nat) (dictionary : Dictionary)
    (before : List (Event σ)) {k : Nat} {t : Tpdo} {es : List (Event σ)}
    (h : ((Node.start id (Device.fresh rpdos tpdos dictionary)).run before).Cycles k t)
    (hoverflow : ((Node.start id (Device.fresh rpdos tpdos dictionary)).run
      before).device.sync.counterOverflow = 0)
    (hes : ((Node.start id (Device.fresh rpdos tpdos dictionary)).run before).Along
      LeavesParameters es) :
    let start := Node.start id (Device.fresh rpdos tpdos dictionary)
    let n := start.run before
    (∀ past window rest, n.trace (syncMark k) es = past ++ window ++ rest →
        window.length = t.params.transmissionType.toNat →
        ((∃ mark ∈ window, mark.attempted = true) ↔ t.syncCounter ≠ Tpdo.counterWaiting ∨
          ∃ mark ∈ past ++ window, mark.counter = t.syncStart)) ∧
      (start.Along (fun m e => ¬ m.DropsCounter e) before →
        t.syncCounter ≠ Tpdo.counterWaiting) := by
  intro start n
  have hunset : ∀ t ∈ start.device.tpdos, t.syncCounter = Tpdo.counterUnset :=
    fun t ht => syncCounter_resetCommunication ht
  have hmem := List.mem_of_getElem? h.tpdo
  refine ⟨fun past window rest hmarks hwindow => ?_, fun hbefore => ?_⟩
  · have hcounts := counts_run h hes
    rw [hmarks] at hcounts
    by_cases hwaiting : t.syncCounter = Tpdo.counterWaiting
    · have hset : t.syncCounter ≠ Tpdo.counterUnset := by
        rw [hwaiting]
        decide
      rw [Tpdo.startingCounter_of_ne hset, hwaiting] at hcounts
      rw [hcounts.exists_attempted_iff h.cyclic hwindow, or_iff_right (not_not_intro hwaiting)]
    · refine iff_of_true ?_ (.inl hwaiting)
      have hcycle : t.InCycle :=
        run_invariant inCycle_step (fun t ht => .inl (hunset t ht)) before t hmem
      obtain ⟨hpos, hle⟩ := hcycle.startingCounter h.cyclic.pos hoverflow hwaiting
      exact hcounts.exists_attempted h.cyclic hpos hle hwindow
  · have hstart : start.WaitsOnlyWithCounter := by
      intro _ t ht
      rw [hunset t ht]
      decide
    exact along_invariant waitsOnlyWithCounter_step hbefore hstart hoverflow t hmem

/-! ### A counter that is taken away -/

/-- A node with a transmit PDO for every SYNC that starts with the fifth, and with the object of the
counter overflow value. -/
def lateStarter : Node :=
  let byte := AppObject.var (SubInfo.u8.readWrite.mappable .tpdo) (.ofNumber .u8 0)
  Node.start .unconfigured (Device.fresh 0 1
    ⟨[⟨0x2000, .application byte⟩, ⟨Parameter.syncOverflowIndex, .parameter .syncOverflow⟩]⟩)

/-- Configure the PDO and the counter. -/
def configureStart (overflow : UInt8) : Event Bus :=
  .loadConfig
    { DeviceConfig.initial with
      nodeId := 1
      sync := ⟨0x80, 0, 0, overflow⟩
      tpdos := [⟨some 0x181, 1, 0, 0, 5, [0x20000008], 0⟩] }

/-- Let the node meet a SYNC with the counter 1. -/
def meetFirst : List (Event Bus) := [.setNmt .operational, foreignSync 1, .tick 0 (.ofCapacity 1)]

/-- A SYNC without a counter, and the tick at which it takes effect. -/
def plainSync (now : UInt64) : List (Event Bus) :=
  [.frame (.carrying (.std defaultSyncId) []), .tick now (.ofCapacity 1)]

/-- Without a counter the start value makes no difference. -/
theorem cyclic_attempted_iff_lateStarter :
    ∃ mark ∈ (lateStarter.run (configureStart 0 :: meetFirst)).trace (syncMark 0) (plainSync 10),
      mark.attempted = true := by
  have hbefore : lateStarter.Along (fun m e => ¬ m.DropsCounter e) (configureStart 0 :: meetFirst) :=
    ⟨fun h => h.1 trivial, fun h => h.2.1 rfl, fun h => h.2.1 rfl, fun h => h.2.1 rfl, trivial⟩
  have hes : (lateStarter.run (configureStart 0 :: meetFirst)).Along LeavesParameters (plainSync 10) :=
    ⟨nofun, nofun, trivial⟩
  obtain ⟨hattempted, hwaits⟩ := cyclic_attempted_iff .unconfigured 0 1 lateStarter.device.dictionary
    (configureStart 0 :: meetFirst) (k := 0) ⟨rfl, rfl, by decide, by decide⟩ rfl hes
  exact (hattempted [] _ [] (List.append_nil _).symm rfl).mpr (.inl (hwaits hbefore))

/-- The PDO waits for the fifth SYNC when the counter is taken away, and is not sent any more. -/
theorem lateStarter_starves :
    let n := lateStarter.run (configureStart 10 :: meetFirst ++
      [.write ⟨Parameter.syncOverflowIndex, 0⟩ [0]])
    n.device.sync.counterOverflow = 0 ∧ (∃ t, n.Cycles 0 t ∧ t.params.transmissionType = 1) ∧
      n.Along LeavesParameters (plainSync 10 ++ plainSync 20) ∧
      n.trace (syncMark 0) (plainSync 10 ++ plainSync 20) = [⟨1, false⟩, ⟨1, false⟩] :=
  ⟨rfl, ⟨_, ⟨rfl, rfl, by decide, by decide⟩, rfl⟩, ⟨nofun, nofun, nofun, nofun, trivial⟩, rfl⟩

end Node

end Canopen
