import Canopen.Proofs.SendRequests

/-! # The event time

An event driven transmit PDO asks for a transmission when its event timer has run down.  The timer is
restarted when a frame of the PDO is accepted, and like the inhibit timer it runs from the tick before
the one that sends the PDO (`RunsDown`).  Refused frames leave it alone.

So the timer has run down when an event time has passed since the last accepted frame, however the
ticks are spaced, and it stays so.  From then on every tick hands the PDO to the transport until a
frame is accepted, provided that the inhibit time is no longer than the event time
(`event_deadline`). -/

namespace Canopen

namespace Tpdo

theorem eventTimer_schedule (t : Tpdo) (sync : SyncState) (syncOccurred : Bool) (nmt : NmtState) :
    (t.schedule sync syncOccurred nmt).2.eventTimer = t.eventTimer := by
  obtain ⟨counter, requested, h⟩ := t.exists_schedule sync syncOccurred nmt
  rw [h]

theorem eventTimer_settle {t : Tpdo} (htype : t.params.transmissionType.isEventDriven = true)
    (outcome : Transmission) (elapsed : Micros) : (t.settle outcome elapsed).eventTimer =
      (if outcome.isSent then Micros.ofEventTime t.eventTime
        else t.eventTimer).countdown elapsed := by
  unfold settle
  cases outcome.isSent with
  | false => rfl
  | true =>
      unfold restartTimers
      rw [if_pos rfl, if_pos rfl, if_pos htype]
      rfl

/-- A tick that sends an event driven PDO restarts its event timer, and every tick lets its time
pass. -/
theorem process_eventTimer {σ : Type} [Transport σ] {t : Tpdo}
    (htype : t.params.transmissionType.isEventDriven = true) (objects : Dictionary)
    (sync : SyncState) (syncOccurred : Bool) (elapsed : Micros) (nmt : NmtState) (link : σ) :
    (t.process objects sync syncOccurred elapsed nmt link).2.1.eventTimer =
      (if (t.process objects sync syncOccurred elapsed nmt link).1.isSent
        then Micros.ofEventTime t.eventTime else t.eventTimer).countdown elapsed := by
  have hs := t.sameSetup_schedule sync syncOccurred nmt
  have htimer := t.eventTimer_schedule sync syncOccurred nmt
  unfold process
  generalize t.schedule sync syncOccurred nmt = scheduled at hs htimer
  obtain ⟨due, t₁⟩ := scheduled
  dsimp only at hs htimer ⊢
  rw [← hs.params] at htype
  rw [← htimer, ← hs.eventTime]
  cases due with
  | false => exact eventTimer_settle htype _ _
  | true => exact eventTimer_settle (t := t₁.load objects) htype _ _

end Tpdo

namespace Node

variable {σ : Type}

theorem Undisturbed.leavesParameters {n : Node} {e : Event σ} (he : n.Undisturbed e) :
    n.LeavesParameters e := by
  cases e with
  | write id data =>
      obtain ⟨o, ho⟩ := he
      intro p hp
      rw [ho] at hp
      cases hp
  | writeLeading id data =>
      obtain ⟨o, ho⟩ := he
      intro p hp
      rw [ho] at hp
      cases hp
  | setNodeId _ => cases he
  | reset => cases he
  | loadConfig _ => cases he
  | _ => exact not_false

variable [Transport σ] {n : Node} {k : Nat} {t : Tpdo} {e : Event σ}

/-- The inhibit time and the event time of the PDO run from the reading `start` of the clock. -/
structure RunsDown (n : Node) (k : Nat) (t : Tpdo) (start : Nat) (last : UInt64) : Prop
    extends n.Inhibits k t start last where
  eventTimer : t.eventTimer.toNat = start + t.eventTime.toNat * 1000 - last.toNat

theorem eventTimer_tick (h : n.Drives k t) {now : UInt64} (link : σ)
    (hnow : n.previous now ≤ now.toNat) {t' : Tpdo}
    (ht' : (n.tick now link).2.1.device.tpdos[k]? = some t') :
    t.SameSetup t' ∧ t'.eventTimer.toNat =
      (if n.sends k (.tick now link) then t.eventTime.toNat * 1000 else t.eventTimer.toNat) +
        n.previous now - now.toNat := by
  obtain ⟨link', hsent, htpdos⟩ := n.device.tick_tpdos (Micros.elapsed n.lastTick now) link k
  rw [h.tpdo, Option.map_some] at hsent htpdos
  replace ht' : (n.device.tick (Micros.elapsed n.lastTick now) link).2.1.tpdos[k]? = some t' := ht'
  obtain rfl := Option.some.inj (htpdos.symm.trans ht')
  have hsends : n.sends k (.tick now link) =
      (n.device.tick (Micros.elapsed n.lastTick now) link).1.transmissions[k]?.any
        Transmission.isSent := rfl
  rw [hsent, Option.any_some] at hsends
  rw [hsends]
  generalize (n.device.tick (Micros.elapsed n.lastTick now) link).2.1.dictionary = objects
  have hnotice := t.sameSetup_noticeChange objects
  have htype : (Device.noticeChange t objects).params.transmissionType.isEventDriven = true := by
    rw [hnotice.params]
    exact h.eventDriven
  refine ⟨t.sameSetup_tick _ _ _ _ _ _, ?_⟩
  rw [Tpdo.process_eventTimer htype, Micros.toNat_countdown_elapsed hnow, hnotice.eventTime,
    t.eventTimer_noticeChange]
  split
  · rw [Micros.toNat_ofEventTime]
    rfl
  · rfl

variable {start : Nat} {last : UInt64}

/-- Both times run from the tick before the one that sends the PDO. -/
theorem runsDown_of_sends (h : n.Drives k t) {now : UInt64} {link : σ}
    (hnow : n.previous now ≤ now.toNat) (hsends : n.sends k (.tick now link) = true) :
    ∃ t', (n.tick now link).2.1.RunsDown k t' (n.previous now) now ∧ t.SameSetup t' := by
  obtain ⟨t', h', _⟩ := inhibits_of_sends h hnow hsends
  obtain ⟨hs, htimer⟩ := eventTimer_tick h link hnow h'.tpdo
  refine ⟨t', ⟨h', ?_⟩, hs⟩
  rw [htimer, if_pos hsends, hs.eventTime]
  omega

theorem Undisturbed.lastTick (he : n.Undisturbed e) (htick : ∀ now link, e ≠ .tick now link) :
    (n.step e).lastTick = n.lastTick := by
  cases e with
  | tick now link => exact absurd rfl (htick now link)
  | loadConfig _ => cases he
  | _ => rfl

/-- While no frame of the PDO is accepted, its timers go on running down. -/
theorem runsDown_step (h : n.RunsDown k t start last) (he : n.Undisturbed e)
    (hno : n.sends k e = false) :
    ∃ t' last', (n.step e).RunsDown k t' start last' ∧ t.SameSetup t' ∧
      last.toNat ≤ last'.toNat := by
  obtain ⟨t', start', last', h', _, _, hstart⟩ := inhibits_step h.toInhibits he
  obtain rfl := hstart hno
  have htimer := h.eventTimer
  by_cases htick : ∃ now link, e = .tick now link
  · obtain ⟨now, link, rfl⟩ := htick
    obtain rfl : now = last' := Option.some.inj h'.lastTick
    obtain ⟨hs, htimer'⟩ := eventTimer_tick h.toDrives link he h'.tpdo
    have hprevious := h.previous_eq now
    have hnow : n.previous now ≤ now.toNat := he
    refine ⟨t', now, ⟨h', ?_⟩, hs, ?_⟩
    · rw [htimer', hno, if_neg Bool.false_ne_true, hs.eventTime]
      omega
    · omega
  · have hquiet : ∀ now link, e ≠ .tick now link := fun now link hn => htick ⟨now, link, hn⟩
    obtain rfl : last = last' :=
      Option.some.inj (h.lastTick.symm.trans ((he.lastTick hquiet).symm.trans h'.lastTick))
    obtain ⟨hs, heq⟩ : t.SameSetup t' ∧ t'.eventTimer = t.eventTimer := by
      rcases he.leavesParameters.tpdo_quiet h.tpdo h.valid hquiet with ⟨_, ht'⟩ | ⟨_, ht'⟩
      · obtain rfl := Option.some.inj (ht'.symm.trans h'.tpdo)
        exact ⟨t.sameSetup_requestSend, rfl⟩
      · obtain rfl := Option.some.inj (ht'.symm.trans h'.tpdo)
        exact ⟨.refl t, rfl⟩
    refine ⟨t', last, ⟨h', ?_⟩, hs, Nat.le_refl _⟩
    rw [heq, hs.eventTime]
    exact htimer

theorem runsDown_run {es : List (Event σ)} (h : n.RunsDown k t start last)
    (hes : n.Along Undisturbed es) (hno : n.Along (fun m e => m.sends k e = false) es) :
    ∃ t' last', (n.run es).RunsDown k t' start last' ∧ t.SameSetup t' ∧
      last.toNat ≤ last'.toNat := by
  induction es generalizing n t last with
  | nil => exact ⟨t, last, h, .refl t, Nat.le_refl _⟩
  | cons e es ih =>
      obtain ⟨t₁, last₁, h₁, hs₁, hle₁⟩ := runsDown_step h hes.1 hno.1
      obtain ⟨t₂, last₂, h₂, hs₂, hle₂⟩ := ih h₁ hes.2 hno.2
      exact ⟨t₂, last₂, h₂, hs₁.trans hs₂, Nat.le_trans hle₁ hle₂⟩

theorem RunsDown.attempts (h : n.RunsDown k t start last) (hevent : t.eventTime ≠ 0)
    (hinhibit : start + t.inhibitTime.toNat * 100 ≤ last.toNat)
    (hover : start + t.eventTime.toNat * 1000 ≤ last.toNat) (now : UInt64) (link : σ) :
    n.attemptedBy k (.tick now link) ≠ [] := by
  have htimer := h.eventTimer
  have hzero : t.eventTimer = 0 := by
    rw [← UInt32.toNat_inj, UInt32.toNat_zero]
    omega
  rw [attemptedBy_ne_nil_iff h.toDrives (h.inhibitTimer_eq_zero_iff.mpr hinhibit),
    Tpdo.isDemanded_iff h.eventDriven]
  exact .inl (.inr ⟨h.eventDriven, hevent, hzero⟩)

/-- **The event time bounds the time without a transmission.**  The transmit PDO is event driven and
valid on an operational node, in an undisturbed run, and its inhibit time is no longer than its event
time.  A tick at `now` sends the PDO, and none of the later events does.  Among them is a tick an event
time after `now` or later.  Then every further tick hands the PDO to the transport, and the record of
the transport shows that. -/
theorem event_deadline (h : n.Drives k t) (hevent : t.eventTime ≠ 0)
    (hinhibit : t.inhibitTime.toNat * 100 ≤ t.eventTime.toNat * 1000)
    {now late : UInt64} {link lateLink : σ} {es es' : List (Event σ)}
    (hes : n.Along Undisturbed (.tick now link :: (es ++ .tick late lateLink :: es')))
    (hsends : n.sends k (.tick now link) = true)
    (hno : (n.step (.tick now link)).Along (fun m e => m.sends k e = false)
      (es ++ .tick late lateLink :: es'))
    (hlate : now.toNat + t.eventTime.toNat * 1000 ≤ late.toNat) (now' : UInt64) (link' : σ) :
    (n.run (.tick now link :: (es ++ .tick late lateLink :: es'))).attemptedBy k
        (.tick now' link') ≠ [] ∧
      n.Along OnRecord (.tick now link :: (es ++ .tick late lateLink :: es') ++ [.tick now' link']) := by
  refine ⟨?_, along_onRecord n _⟩
  obtain ⟨hnow, hes⟩ := hes
  obtain ⟨hes, hticks⟩ := (along_append _ _ _).mp hes
  obtain ⟨hno, hnone⟩ := (along_append _ _ _).mp hno
  obtain ⟨t₁, h₁, hs₁⟩ := runsDown_of_sends h hnow hsends
  obtain ⟨t₂, last₂, h₂, hs₂, _⟩ := runsDown_run h₁ hes hno
  obtain ⟨t₃, last₃, h₃, hs₃, _⟩ := runsDown_step h₂ hticks.1 hnone.1
  obtain rfl : late = last₃ := Option.some.inj h₃.lastTick
  obtain ⟨t₄, last₄, h₄, hs₄, hle⟩ := runsDown_run h₃ hticks.2 hnone.2
  have hs := hs₁.trans (hs₂.trans (hs₃.trans hs₄))
  rw [← hs.inhibitTime, ← hs.eventTime] at hinhibit
  rw [← hs.eventTime] at hevent hlate
  have hstart : n.previous now ≤ now.toNat := hnow
  rw [run_cons, run_append, run_cons]
  exact h₄.attempts hevent (by omega) (by omega) now' link'

/-! ### An event time of two milliseconds -/

/-- An operational node with one event driven transmit PDO, whose inhibit time is one millisecond and
whose event time is two. -/
def pulser : Node :=
  let number := AppObject.var (SubInfo.u8.readWrite.mappable .tpdo) (.ofNumber .u8 17)
  let config := { DeviceConfig.initial with
    nodeId := 1
    tpdos := [⟨some 0x181, 254, 10, 2, 0, [0x20000008], 0⟩] }
  (Node.start .unconfigured (Device.fresh 0 1 ⟨[⟨0x2000, .application number⟩]⟩)).run
    ([.loadConfig config, .setNmt .operational] : List (Event Bus))

/-- A tick of the sender at which the transport has no room. -/
def fullTick (now : UInt64) : Event Bus := .tick now (.ofCapacity 0)

theorem undisturbed_fullTick {n : Node} {now : UInt64} (h : n.previous now ≤ now.toNat) :
    n.Undisturbed (fullTick now) := h

/-- After a refused frame the PDO is handed to the transport again. -/
theorem event_deadline_pulser :
    let m := pulser.run [senderTick 0, senderTick 1000, senderTick 2000, fullTick 2001]
    m.attemptedBy 0 (senderTick 2002) ≠ [] ∧
      m.answers (senderTick 2002) = [.sent (.carrying (.std 0x181) [17])] := by
  have hes : pulser.Along Undisturbed
      (senderTick 0 :: ([senderTick 1000] ++ senderTick 2000 :: [fullTick 2001])) :=
    ⟨undisturbed_senderTick (by decide), undisturbed_senderTick (by decide),
      undisturbed_senderTick (by decide), undisturbed_fullTick (by decide), trivial⟩
  have hno : (pulser.step (senderTick 0)).Along (fun m e => m.sends 0 e = false)
      ([senderTick 1000] ++ senderTick 2000 :: [fullTick 2001]) := ⟨rfl, rfl, rfl, trivial⟩
  obtain ⟨hattempted, hrecord⟩ := event_deadline ⟨rfl, rfl, rfl, rfl⟩ (by decide) (by decide) hes rfl
    hno (by decide) 2002 (.ofCapacity 1)
  have hlast := ((along_append _ _ _).mp hrecord).2.1
  exact ⟨hattempted, hlast.trans (by decide)⟩

end Node

end Canopen
