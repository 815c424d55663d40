import Mathlib.Algebra.GroupWithZero.Nat
import Canopen.Proofs.SyncTicks
import Canopen.Proofs.TransmitQueue
import Canopen.Proofs.ValueTransport

/-! # The supervision of the SYNC

Every tick compares the SYNC timer with a timeout, which is kept beside the period that it is computed
from; likewise the role is kept beside the identifier word.  Whatever changes the one changes the
other too (`SyncState.InEffect`).

The timeout is one and a half periods, at most the longest time.  Whether the product has wrapped around
is seen from its being below the period, and that is exact (`wrappedTimeout_lt_iff`), so the timeout is
the one of unbounded arithmetic (`syncTimeout_saturates`).

A producer restarts the timer when it reaches the period, and the timeout is never below the period
(`le_syncTimeout`), so it does not miss its own SYNC.  Of the errors that a tick takes note of, the
missing SYNC is decided by the supervision alone (`Device.syncTimeout_tick`); so
`timeout_supervised` can say after which ticks it is active. -/

namespace Canopen

/-! ### The timeout of a period -/

theorem le_syncTimeout (period : Micros) : period ≤ syncTimeout period := by
  unfold syncTimeout
  dsimp only
  split
  · have hlt := period.toNat_lt
    rw [UInt32.le_iff_toNat_le, Micros.toNat_longest]
    omega
  · rename_i hle
    exact UInt32.not_lt.mp hle

/-- One and a half periods as a 32-bit product, which wraps around if it is too large. -/
def wrappedTimeout (period : Micros) : Micros := period / 2 * 3

theorem syncTimeout_eq (period : Micros) : syncTimeout period =
    if wrappedTimeout period < period then .longest else wrappedTimeout period := rfl

theorem toNat_wrappedTimeout (period : Micros) :
    (wrappedTimeout period).toNat = 3 * (period.toNat / 2) % 2 ^ 32 := by
  have htwo : (2 : UInt32).toNat = 2 := rfl
  have hthree : (3 : UInt32).toNat = 3 := rfl
  unfold wrappedTimeout
  rw [UInt32.toNat_mul, UInt32.toNat_div, htwo, hthree, Nat.mul_comm]

theorem Micros.two_le_iff {period : Micros} : 2 ≤ period ↔ 2 ≤ period.toNat :=
  UInt32.le_iff_toNat_le

/-- The product is below the period exactly if it does not fit. -/
theorem wrappedTimeout_lt_iff {period : Micros} (h : 2 ≤ period) :
    wrappedTimeout period < period ↔ 2 ^ 32 ≤ 3 * (period.toNat / 2) := by
  have hlt := period.toNat_lt
  rw [Micros.two_le_iff] at h
  rw [UInt32.lt_iff_toNat_lt, toNat_wrappedTimeout]
  rcases Nat.lt_or_ge (3 * (period.toNat / 2)) (2 ^ 32) with hfits | hover
  · rw [Nat.mod_eq_of_lt hfits]
    omega
  · -- Less than twice `2 ^ 32`, the product wraps around only once, and loses more than half a period.
    have honce : 3 * (period.toNat / 2) % 2 ^ 32 = 3 * (period.toNat / 2) - 2 ^ 32 := by
      rw [Nat.mod_eq_sub_mod hover, Nat.mod_eq_of_lt (by omega)]
    rw [honce]
    omega

theorem toNat_syncTimeout {period : Micros} (h : 2 ≤ period) :
    (syncTimeout period).toNat = min (3 * (period.toNat / 2)) (2 ^ 32 - 1) := by
  rw [syncTimeout_eq]
  split
  · rename_i hwrapped
    have hover := (wrappedTimeout_lt_iff h).mp hwrapped
    rw [Micros.toNat_longest]
    omega
  · rename_i hnot
    have hfits := Nat.not_le.mp (mt (wrappedTimeout_lt_iff h).mpr hnot)
    rw [toNat_wrappedTimeout, Nat.mod_eq_of_lt hfits]
    omega

theorem syncTimeout_mono {p q : Micros} (hp : 2 ≤ p) (hle : p ≤ q) :
    syncTimeout p ≤ syncTimeout q := by
  have hhalf := Nat.div_le_div_right (c := 2) (UInt32.le_iff_toNat_le.mp hle)
  rw [UInt32.le_iff_toNat_le, toNat_syncTimeout hp, toNat_syncTimeout (UInt32.le_trans hp hle)]
  omega

/-- **The timeout is one and a half periods of unbounded arithmetic, at most the longest time.**  A period
of one is the exception: half of it is nothing, and its timeout is the longest time.  The test finds every
product that does not fit, and from a period of two on no other.  The timeout is never below the period,
and from a period of two on it grows with it. -/
theorem syncTimeout_saturates (p q : Micros) :
    (syncTimeout 0).toNat = 0 ∧ (syncTimeout 1).toNat = 2 ^ 32 - 1 ∧
      (2 ≤ p → (syncTimeout p).toNat = min (3 * (p.toNat / 2)) (2 ^ 32 - 1)) ∧
      syncTimeout p = (if wrappedTimeout p < p then .longest else wrappedTimeout p) ∧
      (2 ^ 32 ≤ 3 * (p.toNat / 2) → wrappedTimeout p < p) ∧
      (2 ≤ p → 3 * (p.toNat / 2) < 2 ^ 32 → ¬wrappedTimeout p < p) ∧
      p ≤ syncTimeout p ∧
      (2 ≤ p → p ≤ q → syncTimeout p ≤ syncTimeout q) := by
  refine ⟨rfl, rfl, toNat_syncTimeout, syncTimeout_eq p, fun hover => ?_, fun hp hfits => ?_,
    le_syncTimeout p, syncTimeout_mono⟩
  · have hp : 2 ≤ p := Micros.two_le_iff.mpr (by omega)
    exact (wrappedTimeout_lt_iff hp).mpr hover
  · rw [wrappedTimeout_lt_iff hp]
    exact Nat.not_le.mpr hfits

/-- The two periods lie on both sides of the largest one whose timeout is not cut off. -/
theorem syncTimeout_saturates_largest :
    (syncTimeout 0xAAAAAAA8).toNat = 0xFFFFFFFC ∧ ¬wrappedTimeout 0xAAAAAAA8 < 0xAAAAAAA8 ∧
      (syncTimeout 0xAAAAAAAC).toNat = 2 ^ 32 - 1 ∧ wrappedTimeout 0xAAAAAAAC < 0xAAAAAAAC ∧
      syncTimeout 0xAAAAAAA8 ≤ syncTimeout 0xAAAAAAAC := by
  obtain ⟨-, -, hlow, -, -, hfits, -, hmono⟩ := syncTimeout_saturates 0xAAAAAAA8 0xAAAAAAAC
  obtain ⟨-, -, hhigh, -, hover, -⟩ := syncTimeout_saturates 0xAAAAAAAC 0
  exact ⟨hlow (by decide), hfits (by decide) (by decide), hhigh (by decide), hover (by decide),
    hmono (by decide) (by decide)⟩

/-! ### The timeout and the role in effect -/

namespace SyncState

variable {s s' : SyncState}

/-- The timeout and the role are those of the parameters. -/
structure InEffect (s : SyncState) : Prop where
  timeout : s.timeout = syncTimeout s.period
  producer : s.producer = s.cobIdWord.hasBit30

theorem inEffect_reset (s : SyncState) : s.reset.InEffect := ⟨rfl, rfl⟩

theorem advance_keeps (s : SyncState) (elapsed : Micros) (nmt : NmtState) :
    (s.advance elapsed nmt).next.timeout = s.timeout ∧
      (s.advance elapsed nmt).next.producer = s.producer := by
  have hhandles := s.handles_advance elapsed nmt
  generalize s.advance elapsed nmt = tick at hhandles ⊢
  cases hhandles with
  | unused _ => exact ⟨rfl, rfl⟩
  | received _ _ => exact ⟨rfl, rfl⟩
  | produced _ _ _ => exact ⟨rfl, rfl⟩
  | passed _ _ _ => exact ⟨rfl, rfl⟩

theorem InEffect.advance (h : s.InEffect) (elapsed : Micros) (nmt : NmtState) :
    (s.advance elapsed nmt).next.InEffect := by
  have hparams := s.sameParameters_advance elapsed nmt
  obtain ⟨htimeout, hproducer⟩ := s.advance_keeps elapsed nmt
  refine ⟨?_, ?_⟩
  · rw [htimeout, hparams.period, h.timeout]
  · rw [hproducer, hparams.cobIdWord, h.producer]

theorem InEffect.receive (h : s.InEffect) (f : Frame) (nmt : NmtState) :
    (s.receive f nmt).2.InEffect := by
  unfold SyncState.receive
  split
  · split
    · exact ⟨h.timeout, h.producer⟩
    · exact ⟨h.timeout, h.producer⟩
  · exact h

theorem InEffect.writeCobId (h : s.InEffect) {w : CobIdWord} (hw : s.writeCobId w = .ok s') :
    s'.InEffect := by
  unfold SyncState.writeCobId at hw
  split at hw
  · cases hw
  split at hw
  · rename_i hbit
    split at hw
    · cases hw
    split at hw
    · rw [← Except.ok.inj hw]
      exact ⟨h.timeout, hbit.symm⟩
    · rw [← Except.ok.inj hw]
      exact ⟨h.timeout, hbit.symm⟩
  · rename_i hbit
    rw [← Except.ok.inj hw]
    exact ⟨h.timeout, (Bool.eq_false_iff.mpr hbit).symm⟩

theorem InEffect.writeParameter (h : s.InEffect) {p : Parameter} {data : Bytes}
    (hw : s.writeParameter p data = .ok s') : s'.InEffect := by
  unfold SyncState.writeParameter at hw
  split at hw
  · obtain ⟨period, _, hw⟩ := exists_of_bind_eq_ok hw
    rw [← Except.ok.inj hw]
    exact ⟨rfl, h.producer⟩
  · obtain ⟨window, _, hw⟩ := exists_of_bind_eq_ok hw
    rw [← Except.ok.inj hw]
    exact ⟨h.timeout, h.producer⟩
  · obtain ⟨overflow, _, hw⟩ := exists_of_bind_eq_ok hw
    unfold writeCounterOverflow at hw
    split at hw
    · rw [← Except.ok.inj hw]
      exact ⟨h.timeout, h.producer⟩
    · cases hw
  · obtain ⟨w, _, hw⟩ := exists_of_bind_eq_ok hw
    exact h.writeCobId hw

theorem isOverdue_iff (s : SyncState) :
    s.isOverdue = true ↔ s.period ≠ 0 ∧ s.timeout < s.timer := by
  unfold isOverdue
  rw [Bool.and_eq_true, bne_iff_ne, decide_eq_true_iff]

/-- A producer restarts its timer before the SYNC is overdue. -/
theorem InEffect.isOverdue_of_producer (h : s.InEffect) (hproducer : s.producer = true)
    (hperiod : s.period ≠ 0) {nmt : NmtState} (hactive : nmt.syncActive = true) (elapsed : Micros) :
    (s.advance elapsed nmt).next.isOverdue = false := by
  have hle := le_syncTimeout s.period
  rw [← h.timeout] at hle
  have hhandles := s.handles_advance elapsed nmt
  generalize s.advance elapsed nmt = tick at hhandles ⊢
  rw [Bool.eq_false_iff, ne_eq, isOverdue_iff]
  cases hhandles with
  | unused hinactive =>
      rw [hactive] at hinactive
      cases hinactive
  | received _ _ => exact fun hover => UInt32.not_lt_zero hover.2
  | produced _ _ _ => exact fun hover => UInt32.not_lt_zero hover.2
  | passed _ _ hdue =>
      rintro ⟨-, hover⟩
      have hreached : s.period ≤ s.timer.advance elapsed :=
        UInt32.le_trans hle (UInt32.le_of_lt hover)
      have hisDue : (s.wait elapsed).isDue = true := by
        unfold isDue wait
        rw [hproducer, bne_iff_ne.mpr hperiod, decide_eq_true hreached]
        rfl
      rw [hisDue] at hdue
      cases hdue

theorem supervision_of_inactive {nmt : NmtState} (h : nmt.syncActive = false) (s : SyncState)
    (elapsed : Micros) : (s.advance elapsed nmt).supervision = .unchanged := by
  unfold advance
  rw [h]
  rfl

end SyncState

/-! ### What a tick says about a missing SYNC -/

/-- Is the SYNC known to be missing after a tick, if that was known before it or not? -/
def Supervision.verdict : Supervision → Bool → Bool
  | missing, _ => true
  | present, _ => false
  | unchanged, known => known

namespace SyncState

/-- In operation a SYNC that is overdue is missing, and the error ends with a SYNC or a period of
zero. -/
theorem verdict_operational (s : SyncState) (elapsed : Micros) (known : Bool) :
    let tick := s.advance elapsed .operational
    tick.supervision.verdict known = true ↔ (s.period ≠ 0 ∧ s.timeout < tick.next.timer) ∨
      (known = true ∧ s.period ≠ 0 ∧ tick.event ≠ .sync) := by
  intro tick
  have hsupervision : tick.supervision = _ := supervision_advance rfl s elapsed
  have hoverdue := tick.next.isOverdue_iff
  rw [(s.sameParameters_advance elapsed .operational).period, (s.advance_keeps elapsed _).1]
    at hoverdue
  rw [(s.sameParameters_advance elapsed .operational).period] at hsupervision
  rw [hsupervision, ← hoverdue]
  by_cases hover : tick.next.isOverdue = true
  · rw [hover]
    exact iff_of_true rfl (.inl rfl)
  · rw [Bool.eq_false_iff.mpr hover]
    by_cases hends : tick.event = .sync ∨ s.period = 0
    · rw [if_neg nofun, if_pos hends]
      refine iff_of_false nofun fun h => ?_
      obtain ⟨_, hperiod, hevent⟩ := h.resolve_left nofun
      exact hends.elim hevent hperiod
    · rw [if_neg nofun, if_neg hends]
      rw [not_or] at hends
      exact ⟨fun h => .inr ⟨h, hends.2, hends.1⟩, fun h => (h.resolve_left nofun).1⟩

/-- In pre-operation no SYNC is missing, and the error ends in the same way. -/
theorem verdict_preOperational (s : SyncState) (elapsed : Micros) (known : Bool) :
    let tick := s.advance elapsed .preOperational
    tick.supervision.verdict known = true ↔
      known = true ∧ ¬ (tick.event = .sync ∨ s.period = 0) := by
  intro tick
  have hsupervision : tick.supervision = _ := supervision_advance rfl s elapsed
  rw [(s.sameParameters_advance elapsed .preOperational).period] at hsupervision
  have hne : (NmtState.preOperational == .operational) = false := rfl
  rw [hsupervision, hne, Bool.and_false, if_neg nofun]
  by_cases hends : tick.event = .sync ∨ s.period = 0
  · rw [if_pos hends]
    exact iff_of_false nofun fun h => h.2 hends
  · rw [if_neg hends]
    exact ⟨fun h => ⟨h, hends⟩, fun h => h.1⟩

theorem InEffect.supervision_ne_missing {s : SyncState} (h : s.InEffect)
    (hproducer : s.producer = true) (hperiod : s.period ≠ 0) (elapsed : Micros) (nmt : NmtState) :
    (s.advance elapsed nmt).supervision ≠ .missing := by
  cases hactive : nmt.syncActive with
  | false =>
      rw [supervision_of_inactive hactive]
      nofun
  | true =>
      rw [supervision_advance hactive, h.isOverdue_of_producer hproducer hperiod hactive,
        Bool.false_and, if_neg nofun]
      split
      · nofun
      · nofun

end SyncState

namespace ErrorStatus

variable {kind other : ErrorKind} {e e' e'' : ErrorStatus}

/-- The reports of a kind of error that were forwarded. -/
def reportsOf (e : ErrorStatus) (kind : ErrorKind) : List ErrorReport :=
  e.forwarded.filter (·.kind = kind)

/-- Two error statuses that say the same about a kind of error. -/
structure Agree (kind : ErrorKind) (e e' : ErrorStatus) : Prop where
  active : e'.isActive kind = e.isActive kind
  reports : e'.reportsOf kind = e.reportsOf kind

theorem Agree.refl (kind : ErrorKind) (e : ErrorStatus) : e.Agree kind e := ⟨rfl, rfl⟩

theorem Agree.trans (h : e.Agree kind e') (h' : e'.Agree kind e'') : e.Agree kind e'' :=
  ⟨h'.active.trans h.active, h'.reports.trans h.reports⟩

theorem agree_raise (h : kind ≠ other) (e : ErrorStatus) (info : UInt32) :
    e.Agree kind (e.raise other info) := by
  refine ⟨?_, ?_⟩
  · unfold raise
    rw [isActive_report, decide_eq_false h, Bool.false_or]
  · unfold raise report reportsOf
    split
    · rfl
    · simp [h.symm]

theorem agree_reset (h : kind ≠ other) (e : ErrorStatus) : e.Agree kind (e.reset other) := by
  refine ⟨?_, rfl⟩
  rw [isActive_reset, decide_eq_false h, Bool.not_false, Bool.true_and]

/-- What becomes of a SYNC message says nothing about those of others. -/
theorem agree_noteSync (e : ErrorStatus) (outcome : Transmission) :
    e.Agree .syncTimeout (e.noteSync outcome) := by
  cases outcome with
  | idle => exact .refl _ _
  | sent f => exact .refl _ _
  | refused f => exact agree_raise (by decide) e _

theorem agree_notePdo (e : ErrorStatus) (outcome : Transmission) :
    e.Agree .syncTimeout (e.notePdo outcome) := by
  cases outcome with
  | idle => exact .refl _ _
  | sent f => exact agree_reset (by decide) e
  | refused f => exact agree_raise (by decide) e _

theorem agree_notePdos (e : ErrorStatus) (outcomes : List Transmission) :
    e.Agree .syncTimeout (outcomes.foldl notePdo e) := by
  induction outcomes generalizing e with
  | nil => exact .refl _ _
  | cons outcome outcomes ih => exact (e.agree_notePdo outcome).trans (ih _)

theorem agree_noteSupervision (e : ErrorStatus) (tick : SyncTick) :
    (e.noteSupervision { tick with lengthError := none }).Agree .syncTimeout
      (e.noteSupervision tick) := by
  unfold noteSupervision
  dsimp only
  cases tick.lengthError with
  | none => exact .refl _ _
  | some length => exact agree_raise (by decide) _ _

/-- A tick notes its verdict; it forwards a report only if the SYNC is missing. -/
theorem syncTimeout_noteSupervision (e : ErrorStatus) (tick : SyncTick) :
    (e.noteSupervision tick).isActive .syncTimeout =
        tick.supervision.verdict (e.isActive .syncTimeout) ∧
      (tick.supervision ≠ .missing →
        (e.noteSupervision tick).reportsOf .syncTimeout = e.reportsOf .syncTimeout) := by
  have hlength := e.agree_noteSupervision tick
  rw [hlength.active, hlength.reports]
  unfold noteSupervision
  dsimp only
  cases tick.supervision with
  | missing =>
      refine ⟨?_, fun h => absurd rfl h⟩
      unfold raise
      rw [isActive_report]
      rfl
  | present =>
      refine ⟨?_, fun _ => rfl⟩
      rw [isActive_reset]
      rfl
  | unchanged => exact ⟨rfl, fun _ => rfl⟩

end ErrorStatus

/-- Whether the SYNC is known to be missing after a tick is decided by the supervision. -/
theorem Device.syncTimeout_tick {σ : Type} [Transport σ] (d : Device) (elapsed : Micros) (link : σ) :
    (d.tick elapsed link).2.1.errors.isActive .syncTimeout =
        (d.syncTick elapsed).supervision.verdict (d.errors.isActive .syncTimeout) ∧
      ((d.syncTick elapsed).supervision ≠ .missing →
        (d.tick elapsed link).2.1.errors.reportsOf .syncTimeout =
          d.errors.reportsOf .syncTimeout) := by
  have hsync := d.errors.agree_noteSync (d.tick elapsed link).1.sync
  obtain ⟨hverdict, hreports⟩ := (d.errors.noteSync (d.tick elapsed link).1.sync)
    |>.syncTimeout_noteSupervision (d.syncTick elapsed)
  rw [tick_errors]
  have hpdos := ErrorStatus.agree_notePdos
    ((d.errors.noteSync (d.tick elapsed link).1.sync).noteSupervision (d.syncTick elapsed))
    (d.tick elapsed link).1.transmissions
  rw [hpdos.active, hpdos.reports, hverdict, hsync.active]
  exact ⟨rfl, fun h => (hreports h).trans hsync.reports⟩

/-! ### Runs -/

namespace Node

variable {σ : Type} [Transport σ] {n : Node}

/-- Whatever happens, the timeout and the role remain those of the parameters. -/
theorem inEffect_step (h : n.device.sync.InEffect) (e : Event σ) :
    (n.step e).device.sync.InEffect := by
  have hstep := n.sync_step e
  generalize (n.step e).device.sync = s' at hstep ⊢
  cases hstep with
  | same => exact h
  | advanced now link _ => exact h.advance _ _
  | received f _ _ => exact h.receive f _
  | written hw => exact h.writeParameter hw
  | reset _ => exact SyncState.inEffect_reset _
  | configured c _ => exact SyncState.inEffect_reset _

theorem inEffect_run (id : NodeId) (d : Device) (es : List (Event σ)) :
    ((Node.start id d).run es).device.sync.InEffect :=
  run_invariant (I := fun n => n.device.sync.InEffect) (fun _ e h => inEffect_step h e)
    (SyncState.inEffect_reset _) es

/-- **The supervision of the SYNC is sound.**  At any time in any run of a node that was started on any
device, the timeout is that of the period and the role that of the identifier word, and a tick does the
following.  On a producer with a period it does not find that the SYNC is missing, and forwards no
report of it.  In operation the error is active after it exactly if there is a period and the timer is
beyond the timeout, or the error was active before, there is a period and no SYNC took effect.  In
pre-operation it does not become active, and ends exactly if a SYNC takes effect or there is no period.
In the other states it remains what it was. -/
theorem timeout_supervised (id : NodeId) (d : Device) (es : List (Event σ)) :
    let n := (Node.start id d).run es
    let sync := n.device.sync
    let errors := n.device.errors
    sync.timeout = syncTimeout sync.period ∧ sync.producer = sync.cobIdWord.hasBit30 ∧
      ∀ (now : UInt64) (link : σ),
        let ticked := n.tick now link
        let after := ticked.2.1.device
        (sync.producer = true → sync.period ≠ 0 →
          (n.device.syncTick (Micros.elapsed n.lastTick now)).supervision ≠ .missing ∧
            after.errors.reportsOf .syncTimeout = errors.reportsOf .syncTimeout) ∧
        (n.device.nmt = .operational → (after.errors.isActive .syncTimeout = true ↔
          (sync.period ≠ 0 ∧ sync.timeout < after.sync.timer) ∨
            (errors.isActive .syncTimeout = true ∧ sync.period ≠ 0 ∧ ticked.1.event ≠ .sync))) ∧
        (n.device.nmt = .preOperational → (after.errors.isActive .syncTimeout = true ↔
          errors.isActive .syncTimeout = true ∧ ¬ (ticked.1.event = .sync ∨ sync.period = 0))) ∧
        (n.device.nmt = .bootup ∨ n.device.nmt = .stopped →
          after.errors.isActive .syncTimeout = errors.isActive .syncTimeout) := by
  intro n sync errors
  have h : sync.InEffect := inEffect_run id d es
  refine ⟨h.timeout, h.producer, fun now link => ?_⟩
  intro ticked after
  obtain ⟨hactive, hreports⟩ := n.device.syncTimeout_tick (Micros.elapsed n.lastTick now) link
  replace hactive : after.errors.isActive .syncTimeout =
    (sync.advance (Micros.elapsed n.lastTick now) n.device.nmt).supervision.verdict
      (errors.isActive .syncTimeout) := hactive
  have hevent : ticked.1.event =
    (sync.advance (Micros.elapsed n.lastTick now) n.device.nmt).event := rfl
  have htimer : after.sync.timer =
    (sync.advance (Micros.elapsed n.lastTick now) n.device.nmt).next.timer := rfl
  refine ⟨fun hproducer hperiod => ?_, fun hnmt => ?_, fun hnmt => ?_, fun hnmt => ?_⟩
  · have hmissing := h.supervision_ne_missing hproducer hperiod (Micros.elapsed n.lastTick now)
      n.device.nmt
    exact ⟨hmissing, hreports hmissing⟩
  · rw [hactive, hevent, htimer, hnmt]
    exact sync.verdict_operational _ _
  · rw [hactive, hevent, hnmt]
    exact sync.verdict_preOperational _ _
  · have hinactive : n.device.nmt.syncActive = false := by
      rcases hnmt with hnmt | hnmt
      · rw [hnmt]
        rfl
      · rw [hnmt]
        rfl
    rw [hactive, SyncState.supervision_of_inactive hinactive]
    rfl

/-! ### A consumer that misses a SYNC -/

/-- Make a node operational with a period of a millisecond, and run a tick. -/
def supervised (cobIdWord : UInt32) : List (Event Bus) :=
  [.loadConfig { DeviceConfig.initial with nodeId := 1, sync := ⟨cobIdWord, 1000, 0, 0⟩ },
    .setNmt .operational, .tick 0 (.ofCapacity 1)]

/-- A node after these events and some more. -/
def supervisedNode (cobIdWord : UInt32) (es : List (Event Bus)) : Node :=
  (Node.start .unconfigured (Device.fresh 0 0 ⟨[]⟩)).run (supervised cobIdWord ++ es)

/-- The SYNC of a consumer is missing after one and a half periods, and remains so in pre-operation
until it comes; a producer that ticks as late misses nothing. -/
theorem timeout_supervised_late :
    let link := Bus.ofCapacity 1
    let waiting := supervisedNode 0x80 [.tick 1501 link, .setNmt .preOperational]
    ((supervisedNode 0x80 []).tick 1501 link).2.1.device.errors.isActive .syncTimeout = true ∧
      (waiting.tick 1502 link).2.1.device.errors.isActive .syncTimeout = true ∧
      ((supervisedNode 0x40000080 []).tick 1501 link).2.1.device.errors.reportsOf .syncTimeout =
        [] := by
  unfold supervisedNode
  have h (cobIdWord : UInt32) (es : List (Event Bus)) :=
    (timeout_supervised .unconfigured (Device.fresh 0 0 ⟨[]⟩) (supervised cobIdWord ++ es)).2.2
  refine ⟨?_, ?_, ?_⟩
  · exact ((h _ _ 1501 (.ofCapacity 1)).2.1 rfl).mpr (.inl (by decide))
  · exact ((h _ _ 1502 (.ofCapacity 1)).2.2.1 rfl).mpr (by decide)
  · exact ((h _ _ 1501 (.ofCapacity 1)).1 rfl (by decide)).2.trans rfl

end Node

end Canopen
