import Canopen.Proofs.Events

/-! # The inhibit time

An event driven transmit PDO is not sent before its inhibit timer has run down.  The timer is
restarted by the tick that sends the PDO, and the same tick takes its own time off it: the time since
the tick before.  The inhibit time is therefore measured from the tick before the one that sends the
PDO to the tick before the next one that does (`inhibitTime_le`).  It separates the transmissions
themselves where the time before the first of them is no longer than that before the second, as it is
when ticks are equally spaced. -/

namespace Canopen

/-- What is left of a timer at a reading of the clock that is not before the last one. -/
theorem Micros.toNat_countdown_elapsed {timer : Micros} {last : Option UInt64} {now : UInt64}
    (h : (last.getD now).toNat ≤ now.toNat) :
    (timer.countdown (elapsed last now)).toNat =
      timer.toNat + (last.getD now).toNat - now.toNat := by
  rw [toNat_countdown]
  cases last with
  | none =>
      show timer.toNat - 0 = timer.toNat + now.toNat - now.toNat
      omega
  | some last =>
      rw [Option.getD_some] at h ⊢
      rw [toNat_elapsed_some, toNat_longest]
      have hlt := timer.toNat_lt
      omega

namespace Tpdo

theorem inhibitTimer_noticeChange (t : Tpdo) (objects : Dictionary) :
    (Device.noticeChange t objects).inhibitTimer = t.inhibitTimer := by
  unfold Device.noticeChange
  split
  · rfl
  · rfl

/-- Is a transmission of an event driven PDO asked for, by a request or by the end of the event
time? -/
def isDemanded (t : Tpdo) : Bool := t.sendRequested || (t.eventTime != 0 && t.eventTimer == 0)

/-- An event driven PDO is due when it is asked for and the inhibit time has passed. -/
theorem schedule_eventDriven {t : Tpdo} (hv : t.valid = true)
    (htype : t.params.transmissionType.isEventDriven = true) (sync : SyncState)
    (syncOccurred : Bool) : t.schedule sync syncOccurred .operational =
      (t.isDemanded && t.inhibitTimer == 0, { t with sendRequested := t.isDemanded }) := by
  have hactive : (t.valid && NmtState.operational == .operational) = true := by
    rw [hv]
    rfl
  unfold schedule isDemanded
  dsimp only
  rw [if_pos hactive, if_pos htype]
  split
  · rename_i hexpired
    rw [hexpired, Bool.or_true]
    rfl
  · rename_i hrunning
    rw [Bool.not_eq_true] at hrunning
    rw [hrunning, Bool.or_false]

theorem inhibitTimer_settle {t : Tpdo} (htype : t.params.transmissionType.isEventDriven = true)
    (outcome : Transmission) (elapsed : Micros) :
    (t.settle outcome elapsed).inhibitTimer =
      (if outcome.isSent then Micros.ofInhibitTime t.inhibitTime
        else t.inhibitTimer).countdown elapsed := by
  unfold settle
  cases outcome.isSent with
  | false => rfl
  | true =>
      unfold restartTimers
      rw [if_pos rfl, if_pos rfl, if_pos htype]
      rfl

/-- A tick sends an event driven PDO only if its inhibit timer is zero, and restarts the timer then.
In any case it lets its time pass. -/
theorem process_inhibitTimer {σ : Type} [Transport σ] {t : Tpdo} (hv : t.valid = true)
    (htype : t.params.transmissionType.isEventDriven = true) (objects : Dictionary)
    (sync : SyncState) (syncOccurred : Bool) (elapsed : Micros) (link : σ) :
    ((t.process objects sync syncOccurred elapsed .operational link).1.isSent = true ∧
        t.inhibitTimer = 0 ∧
        (t.process objects sync syncOccurred elapsed .operational link).2.1.inhibitTimer =
          (Micros.ofInhibitTime t.inhibitTime).countdown elapsed) ∨
      ((t.process objects sync syncOccurred elapsed .operational link).1.isSent = false ∧
        (t.process objects sync syncOccurred elapsed .operational link).2.1.inhibitTimer =
          t.inhibitTimer.countdown elapsed) := by
  unfold process
  rw [schedule_eventDriven hv htype]
  dsimp only
  cases hdue : t.isDemanded && t.inhibitTimer == 0 with
  | false => exact .inr ⟨rfl, rfl⟩
  | true =>
      rw [Bool.and_eq_true] at hdue
      have hzero : t.inhibitTimer = 0 := eq_of_beq hdue.2
      rw [if_pos rfl]
      obtain ⟨outcome, houtcome⟩ : ∃ outcome, outcome =
        (send { t with sendRequested := t.isDemanded } objects link).1 := ⟨_, rfl⟩
      have hsettle := inhibitTimer_settle
        (t := load { t with sendRequested := t.isDemanded } objects) htype outcome elapsed
      rw [← houtcome]
      cases hsent : outcome.isSent with
      | true =>
          rw [hsent, if_pos rfl] at hsettle
          exact .inl ⟨rfl, hzero, hsettle⟩
      | false =>
          rw [hsent, if_neg Bool.false_ne_true] at hsettle
          exact .inr ⟨rfl, hsettle⟩

end Tpdo

namespace Node

variable {σ : Type} [Transport σ]

/-- The reading of the clock at the tick before, or the given one if there was none. -/
def previous (n : Node) (now : UInt64) : Nat := (n.lastTick.getD now).toNat

/-- Is a frame of a transmit PDO accepted by the transport at an event? -/
def sends (k : Nat) (n : Node) : Event σ → Bool
  | .tick now link => (n.tick now link).1.transmissions[k]?.any Transmission.isSent
  | _ => false

/-- The events of a node whose parameters are left alone, and whose clock does not go back. -/
def Undisturbed (n : Node) : Event σ → Prop
  | .tick now _ => n.previous now ≤ now.toNat
  | .frame _ | .store _ _ _ | .requestSend _ => True
  | .write id _ | .writeLeading id _ => ∃ o, n.device.object id.index = .ok (.application o)
  | _ => False

/-- A transmit PDO that is event driven and valid, on a node that is operational. -/
structure Drives (n : Node) (k : Nat) (t : Tpdo) : Prop where
  nmt : n.device.nmt = .operational
  tpdo : n.device.tpdos[k]? = some t
  valid : t.valid = true
  eventDriven : t.params.transmissionType.isEventDriven = true

/-- The inhibit time of the PDO runs from the reading `start` of the clock. -/
structure Inhibits (n : Node) (k : Nat) (t : Tpdo) (start : Nat) (last : UInt64) : Prop
    extends n.Drives k t where
  lastTick : n.lastTick = some last
  start_le : start ≤ last.toNat
  inhibitTimer : t.inhibitTimer.toNat = start + t.inhibitTime.toNat * 100 - last.toNat

variable {n : Node} {k : Nat} {t : Tpdo} {e : Event σ}

theorem Drives.of_sameSetup {n' : Node} {t' : Tpdo} (h : n.Drives k t)
    (hn : n'.device.nmt = n.device.nmt) (ht : n'.device.tpdos[k]? = some t') (hs : t.SameSetup t') :
    n'.Drives k t' where
  nmt := hn.trans h.nmt
  tpdo := ht
  valid := hs.valid.trans h.valid
  eventDriven := by
    rw [hs.params]
    exact h.eventDriven

theorem drives_tick (h : n.Drives k t) {now : UInt64} (link : σ)
    (hnow : n.previous now ≤ now.toNat) :
    ∃ t', (n.tick now link).2.1.Drives k t' ∧ t.SameSetup t' ∧
      ((n.sends k (.tick now link) = true ∧ t.inhibitTimer = 0 ∧
          t'.inhibitTimer.toNat = t.inhibitTime.toNat * 100 + n.previous now - now.toNat) ∨
        (n.sends k (.tick now link) = false ∧
          t'.inhibitTimer.toNat = t.inhibitTimer.toNat + n.previous now - now.toNat)) := by
  obtain ⟨link', hsent, htpdos⟩ := n.device.tick_tpdos (Micros.elapsed n.lastTick now) link k
  rw [h.tpdo, h.nmt, Option.map_some] at hsent htpdos
  generalize (n.device.tick (Micros.elapsed n.lastTick now) link).2.1.dictionary = objects
    at hsent htpdos
  generalize (n.device.syncTick (Micros.elapsed n.lastTick now)).next = sync at hsent htpdos
  generalize n.device.syncOccurs (Micros.elapsed n.lastTick now) = syncOccurred at hsent htpdos
  have hnotice := t.sameSetup_noticeChange objects
  have htype : (Device.noticeChange t objects).params.transmissionType.isEventDriven = true := by
    rw [hnotice.params]
    exact h.eventDriven
  have hsame := hnotice.trans (Tpdo.sameSetup_process (Device.noticeChange t objects) objects sync
    syncOccurred (Micros.elapsed n.lastTick now) .operational link')
  have hdrives : (n.tick now link).2.1.Drives k _ := h.of_sameSetup rfl htpdos hsame
  refine ⟨_, hdrives, hsame, ?_⟩
  have hsends : n.sends k (.tick now link) = ((Device.noticeChange t objects).process objects sync
      syncOccurred (Micros.elapsed n.lastTick now) .operational link').1.isSent := by
    show (n.device.tick (Micros.elapsed n.lastTick now) link).1.transmissions[k]?.any _ = _
    rw [hsent]
    rfl
  rw [hsends]
  rcases Tpdo.process_inhibitTimer (hnotice.valid.trans h.valid) htype objects sync syncOccurred
    (Micros.elapsed n.lastTick now) link' with ⟨hyes, hzero, htimer⟩ | ⟨hno, htimer⟩
  · refine .inl ⟨hyes, ?_, ?_⟩
    · rw [← hzero, Tpdo.inhibitTimer_noticeChange]
    · rw [htimer, Micros.toNat_countdown_elapsed hnow, Micros.toNat_ofInhibitTime,
        hnotice.inhibitTime]
      rfl
  · refine .inr ⟨hno, ?_⟩
    rw [htimer, Micros.toNat_countdown_elapsed hnow, Tpdo.inhibitTimer_noticeChange]
    rfl

variable {start : Nat} {last : UInt64}

/-- The inhibit time runs from the tick before the one that sends the PDO. -/
theorem inhibits_of_sends (h : n.Drives k t) {now : UInt64} {link : σ}
    (hnow : n.previous now ≤ now.toNat) (hsends : n.sends k (.tick now link) = true) :
    ∃ t', (n.tick now link).2.1.Inhibits k t' (n.previous now) now ∧
      t'.inhibitTime = t.inhibitTime ∧ t.inhibitTimer = 0 := by
  obtain ⟨t', hdrives, hsame, ⟨_, hzero, htimer⟩ | ⟨hno, _⟩⟩ := drives_tick h link hnow
  · refine ⟨t', ⟨hdrives, rfl, hnow, ?_⟩, hsame.inhibitTime, hzero⟩
    rw [htimer, hsame.inhibitTime]
    omega
  · rw [hsends] at hno
    cases hno

theorem Inhibits.keep {m : Node} {t' : Tpdo} (h : n.Inhibits k t start last)
    (hn : m.device.nmt = n.device.nmt) (hl : m.lastTick = n.lastTick)
    (ht : m.device.tpdos[k]? = some t') (hs : t.SameSetup t')
    (htimer : t'.inhibitTimer = t.inhibitTimer) : m.Inhibits k t' start last where
  toDrives := h.of_sameSetup hn ht hs
  lastTick := hl.trans h.lastTick
  start_le := h.start_le
  inhibitTimer := by
    rw [htimer, hs.inhibitTime]
    exact h.inhibitTimer

theorem Inhibits.previous_eq (h : n.Inhibits k t start last) (now : UInt64) :
    n.previous now = last.toNat := by
  unfold previous
  rw [h.lastTick]
  rfl

theorem inhibits_tick (h : n.Inhibits k t start last) {now : UInt64} (link : σ)
    (hnow : n.previous now ≤ now.toNat) :
    ∃ t' start', (n.tick now link).2.1.Inhibits k t' start' now ∧
      t'.inhibitTime = t.inhibitTime ∧ start ≤ start' ∧
      (n.sends k (.tick now link) = false → start' = start) := by
  have hprevious := h.previous_eq now
  have hstart := h.start_le
  cases hsends : n.sends k (.tick now link) with
  | true =>
      obtain ⟨t', h', htime, _⟩ := inhibits_of_sends h.toDrives hnow hsends
      refine ⟨t', n.previous now, h', htime, ?_, fun hno => ?_⟩
      · omega
      · cases hno
  | false =>
      obtain ⟨t', hdrives, hsame, ⟨hyes, _⟩ | ⟨_, htimer⟩⟩ := drives_tick h.toDrives link hnow
      · rw [hsends] at hyes
        cases hyes
      · have hleft := h.inhibitTimer
        refine ⟨t', start, ⟨hdrives, rfl, ?_, ?_⟩, hsame.inhibitTime, Nat.le_refl _, fun _ => rfl⟩
        · omega
        · rw [htimer, hsame.inhibitTime]
          omega

theorem inhibits_objects {m : Node} (h : n.Inhibits k t start last) {objects : Dictionary}
    (hm : m = { n with device := { n.device with dictionary := objects } }) :
    ∃ t', m.Inhibits k t' start last ∧ t'.inhibitTime = t.inhibitTime := by
  subst hm
  exact ⟨t, h.keep rfl rfl h.tpdo (.refl t) rfl, rfl⟩

theorem inhibits_quiet (h : n.Inhibits k t start last) (he : n.Undisturbed e)
    (hquiet : ∀ now link, e ≠ .tick now link) :
    ∃ t', (n.step e).Inhibits k t' start last ∧ t'.inhibitTime = t.inhibitTime := by
  cases e with
  | tick now link => exact absurd rfl (hquiet now link)
  | frame f =>
      have hf := n.device.receive_received f
      have ht : (n.device.receive f).2.tpdos[k]? = some t := by
        rw [hf.tpdos]
        exact h.tpdo
      exact ⟨t, h.keep hf.nmt rfl ht (.refl t) rfl, rfl⟩
  | write id data =>
      obtain ⟨o, ho⟩ := he
      obtain ⟨objects, hwrite⟩ := Device.write_application ho data
      exact inhibits_objects h (congrArg (fun d => { n with device := d }) hwrite)
  | writeLeading id data =>
      obtain ⟨o, ho⟩ := he
      obtain ⟨objects, hwrite⟩ := Device.writeLeading_application ho data
      exact inhibits_objects h (congrArg (fun d => { n with device := d }) hwrite)
  | store index i v =>
      obtain ⟨objects, hstore⟩ := n.device.exists_store_eq index i v
      exact inhibits_objects h (congrArg (fun d => { n with device := d }) hstore)
  | requestSend i =>
      have ht : (n.device.requestSend i).tpdos[k]? =
          some (if i = k then t.requestSend else t) := by
        simp only [Device.requestSend, Device.modifyTpdo, List.getElem?_modify, h.tpdo]
        rfl
      by_cases hi : i = k
      · rw [if_pos hi] at ht
        exact ⟨t.requestSend, h.keep rfl rfl ht t.sameSetup_requestSend rfl, rfl⟩
      · rw [if_neg hi] at ht
        exact ⟨t, h.keep rfl rfl ht (.refl t) rfl, rfl⟩
  | setNmt _ => cases he
  | setNodeId _ => cases he
  | reset => cases he
  | loadConfig _ => cases he

/-- In an undisturbed run the inhibit time is started anew by transmissions only, and later each
time. -/
theorem inhibits_step (h : n.Inhibits k t start last) (he : n.Undisturbed e) :
    ∃ t' start' last', (n.step e).Inhibits k t' start' last' ∧ t'.inhibitTime = t.inhibitTime ∧
      start ≤ start' ∧ (n.sends k e = false → start' = start) := by
  by_cases htick : ∃ now link, e = .tick now link
  · obtain ⟨now, link, rfl⟩ := htick
    obtain ⟨t', start', h', htime, hle, hno⟩ := inhibits_tick h link he
    exact ⟨t', start', now, h', htime, hle, hno⟩
  · obtain ⟨t', h', htime⟩ := inhibits_quiet h he fun now link hn => htick ⟨now, link, hn⟩
    exact ⟨t', start, last, h', htime, Nat.le_refl _, fun _ => rfl⟩

theorem inhibits_run {es : List (Event σ)} (h : n.Inhibits k t start last)
    (hes : n.Along Undisturbed es) :
    ∃ t' start' last', (n.run es).Inhibits k t' start' last' ∧ t'.inhibitTime = t.inhibitTime ∧
      start ≤ start' ∧ (n.Along (fun m e => m.sends k e = false) es → start' = start) := by
  induction es generalizing n t start last with
  | nil => exact ⟨t, start, last, h, rfl, Nat.le_refl _, fun _ => rfl⟩
  | cons e es ih =>
      obtain ⟨t₁, start₁, last₁, h₁, htime₁, hle₁, hno₁⟩ := inhibits_step h hes.1
      obtain ⟨t₂, start₂, last₂, h₂, htime₂, hle₂, hno₂⟩ := ih h₁ hes.2
      refine ⟨t₂, start₂, last₂, h₂, htime₂.trans htime₁, Nat.le_trans hle₁ hle₂, fun hno => ?_⟩
      rw [hno₂ hno.2, hno₁ hno.1]

theorem Inhibits.inhibitTimer_eq_zero_iff (h : n.Inhibits k t start last) :
    t.inhibitTimer = 0 ↔ start + t.inhibitTime.toNat * 100 ≤ last.toNat := by
  have hleft := h.inhibitTimer
  rw [← UInt32.toNat_inj, UInt32.toNat_zero]
  omega

/-- The timer has run down as soon as the inhibit time has passed between the tick before the last
transmission and the latest tick, and no earlier. -/
theorem inhibitTimer_eq_zero_iff (h : n.Drives k t) {now : UInt64} {link : σ} {es : List (Event σ)}
    (hes : n.Along Undisturbed (.tick now link :: es)) (hsends : n.sends k (.tick now link) = true)
    (hno : (n.step (.tick now link)).Along (fun m e => m.sends k e = false) es) (now' : UInt64) :
    ∃ t', (n.run (.tick now link :: es)).device.tpdos[k]? = some t' ∧
      (t'.inhibitTimer = 0 ↔ n.previous now + t.inhibitTime.toNat * 100 ≤
        (n.run (.tick now link :: es)).previous now') := by
  obtain ⟨t₁, h₁, htime₁, _⟩ := inhibits_of_sends h hes.1 hsends
  obtain ⟨t₂, start, last, h₂, htime₂, _, hstart⟩ := inhibits_run h₁ hes.2
  refine ⟨t₂, h₂.tpdo, ?_⟩
  rw [h₂.inhibitTimer_eq_zero_iff, hstart hno, htime₂, htime₁, ← h₂.previous_eq now']
  rfl

/-- **The inhibit time passes between the ticks before two transmissions.**  It passes between the
transmissions as well, if the time before the first is no longer than the time before the second. -/
theorem inhibitTime_le (h : n.Drives k t) {now now' : UInt64} {link link' : σ}
    {es : List (Event σ)}
    (hes : n.Along Undisturbed (.tick now link :: es ++ [.tick now' link']))
    (hfirst : n.sends k (.tick now link) = true)
    (hsecond : (n.run (.tick now link :: es)).sends k (.tick now' link') = true) :
    n.previous now + t.inhibitTime.toNat * 100 ≤
        (n.run (.tick now link :: es)).previous now' ∧
      (now.toNat - n.previous now ≤
          now'.toNat - (n.run (.tick now link :: es)).previous now' →
        now.toNat + t.inhibitTime.toNat * 100 ≤ now'.toNat) := by
  obtain ⟨hes, hlast⟩ := (along_append _ _ _).mp hes
  obtain ⟨t₁, h₁, htime₁, _⟩ := inhibits_of_sends h hes.1 hfirst
  obtain ⟨t₂, start, last, h₂, htime₂, hstart, _⟩ := inhibits_run h₁ hes.2
  obtain ⟨_, _, _, hzero⟩ := inhibits_of_sends h₂.toDrives hlast.1 hsecond
  have hpassed := h₂.inhibitTimer_eq_zero_iff.mp hzero
  have hprevious : (n.run (.tick now link :: es)).previous now' = last.toNat := h₂.previous_eq now'
  have hnow : n.previous now ≤ now.toNat := hes.1
  have hnow' : (n.run (.tick now link :: es)).previous now' ≤ now'.toNat := hlast.1
  rw [htime₂, htime₁] at hpassed
  rw [hprevious] at hnow' ⊢
  constructor
  · omega
  · intro hgap
    omega

/-! ### Ticks that are not equally spaced -/

/-- An operational node with one event driven transmit PDO, which has an inhibit time of a
millisecond. -/
def sender : Node :=
  let number := AppObject.var (SubInfo.u8.readWrite.mappable .tpdo) (.ofNumber .u8 17)
  let config := { DeviceConfig.initial with
    nodeId := 1
    tpdos := [⟨some 0x181, 254, 10, 0, 0, [0x20000008], 0⟩] }
  (Node.start .unconfigured (Device.fresh 0 1 ⟨[⟨0x2000, .application number⟩]⟩)).run
    ([.loadConfig config, .setNmt .operational] : List (Event Bus))

/-- A tick of the sender, with room for a frame. -/
def senderTick (now : UInt64) : Event Bus := .tick now (.ofCapacity 1)

theorem undisturbed_senderTick {n : Node} {now : UInt64} (h : n.previous now ≤ now.toNat) :
    n.Undisturbed (senderTick now) := h

theorem sender_drives : ∃ t, sender.Drives 0 t ∧ t.inhibitTime = 10 :=
  ⟨_, ⟨rfl, rfl, rfl, rfl⟩, rfl⟩

theorem inhibitTime_le_sender :
    sender.previous 0 + 10 * 100 ≤
      (sender.run [senderTick 0, senderTick 1000, .requestSend 0]).previous 1500 := by
  obtain ⟨t, h, htime⟩ := sender_drives
  have hes : sender.Along Undisturbed
      (senderTick 0 :: [senderTick 1000, .requestSend 0] ++ [senderTick 1500]) :=
    ⟨undisturbed_senderTick (by decide), undisturbed_senderTick (by decide), trivial,
      undisturbed_senderTick (by decide), trivial⟩
  have hle := (inhibitTime_le h hes (by decide) (by decide)).1
  rw [htime] at hle
  exact hle

/-- The tick that sends the PDO comes 5 ms after the one before, and the inhibit time has passed with
it: the next tick sends the PDO again after a microsecond. -/
theorem sender_repeats :
    let es := [senderTick 0, senderTick 5000, .requestSend 0, senderTick 10000, .requestSend 0,
      senderTick 10001]
    sender.Along Undisturbed es ∧
      (sender.run (es.take 3)).sends 0 (senderTick 10000) = true ∧
      (sender.run (es.take 5)).sends 0 (senderTick 10001) = true ∧
      ∃ t, sender.Drives 0 t ∧ ¬ 10000 + t.inhibitTime.toNat * 100 ≤ 10001 := by
  refine ⟨?_, by decide, by decide, ?_⟩
  · exact ⟨undisturbed_senderTick (by decide), undisturbed_senderTick (by decide), trivial,
      undisturbed_senderTick (by decide), trivial, undisturbed_senderTick (by decide), trivial⟩
  obtain ⟨t, h, htime⟩ := sender_drives
  refine ⟨t, h, ?_⟩
  rw [htime]
  decide

end Node

end Canopen
