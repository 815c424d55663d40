import Canopen.Proofs.SyncLockstep
import Canopen.Proofs.SyncTicks

/-! # The schedule of a SYNC producer

The SYNC object of a producer is run by itself here: all that happens after a reset are ticks, in
any operating state in which the SYNC is in use, each with any elapsed time and any transport.  A log
takes down what each tick did (`SyncLog`).

The timer stops at the longest time there is, the counter goes back to one, and the toggle is a bit;
in terms of the log they are the time since the last SYNC message, and the number of messages
(`SyncLog.Keeps`).  No period is longer than the longest time, so the schedule knows nothing of it
(`producer_schedule`). -/

namespace Canopen

/-- A tick of the SYNC object. -/
structure SyncCall (σ : Type) where
  elapsed : Micros
  nmt : NmtState
  link : σ

/-- What a tick of the SYNC object did. -/
structure SyncAccount where
  elapsed : Micros
  event : SyncEvent
  sent : Transmission
  /-- The toggle after the tick. -/
  toggle : Bool

/-- Was a SYNC message handed to the transport? -/
def SyncAccount.produces (a : SyncAccount) : Bool := a.sent.frame?.isSome

/-- A device, and what the ticks of its SYNC object did so far, the oldest first. -/
structure SyncLog where
  device : Device
  accounts : List SyncAccount

namespace SyncLog

/-- A device whose SYNC object has just been reset. -/
def start (d : Device) : SyncLog := ⟨{ d with sync := d.sync.reset }, []⟩

section log
variable {σ : Type} [Transport σ]

/-- What a tick does now. -/
def account (log : SyncLog) (call : SyncCall σ) : SyncAccount :=
  let (event, sent, d, _) := log.device.processSync call.elapsed call.nmt call.link
  ⟨call.elapsed, event, sent, d.sync.toggle⟩

/-- The log after a tick. -/
def tick (log : SyncLog) (call : SyncCall σ) : SyncLog :=
  ⟨(log.device.processSync call.elapsed call.nmt call.link).2.2.1,
    log.accounts ++ [log.account call]⟩

/-- The log after a list of ticks. -/
def run : SyncLog → List (SyncCall σ) → SyncLog
  | log, [] => log
  | log, call :: calls => (log.tick call).run calls

end log

/-- The time that has passed since the last SYNC message, or since the start. -/
def waited (log : SyncLog) : Nat :=
  (log.accounts.reverse.takeWhile (!·.produces)).foldr (·.elapsed.toNat + ·) 0

/-- The number of SYNC messages. -/
def productions (log : SyncLog) : Nat := log.accounts.countP SyncAccount.produces

variable {σ : Type} [Transport σ] {log : SyncLog} {call : SyncCall σ}

theorem waited_tick (log : SyncLog) (call : SyncCall σ) : (log.tick call).waited =
    if (log.account call).produces then 0 else log.waited + call.elapsed.toNat := by
  unfold waited tick
  rw [List.reverse_concat, List.takeWhile_cons]
  cases (log.account call).produces with
  | true => rfl
  | false =>
      rw [Bool.not_false, if_pos rfl, List.foldr_cons, Nat.add_comm]
      rfl

theorem productions_tick (log : SyncLog) (call : SyncCall σ) : (log.tick call).productions =
    if (log.account call).produces then log.productions + 1 else log.productions := by
  unfold productions tick
  rw [List.countP_append, List.countP_singleton]
  cases (log.account call).produces with
  | true => rfl
  | false => rfl

end SyncLog

/-! ### Counting with a remainder -/

/-- From a counter that is not above the overflow value, the next one is found by a remainder. -/
theorem SyncState.toNat_nextCounter {s : SyncState} (h : s.counterOverflow ≠ 0)
    (h255 : s.counterOverflow ≠ 255) (hle : s.counter ≤ s.counterOverflow) :
    s.nextCounter.toNat = s.counter.toNat % s.counterOverflow.toNat + 1 := by
  have hpos : s.counterOverflow.toNat ≠ 0 := fun h0 => h (UInt8.toNat_inj.mp h0)
  have hne : s.counterOverflow.toNat ≠ 255 := fun h0 => h255 (UInt8.toNat_inj.mp h0)
  have hlt := s.counterOverflow.toNat_lt
  rw [UInt8.le_iff_toNat_le] at hle
  have hsucc : (s.counter + 1).toNat = s.counter.toNat + 1 := by
    rw [UInt8.toNat_add]
    show (s.counter.toNat + 1) % 256 = _
    exact Nat.mod_eq_of_lt (by omega)
  unfold nextCounter
  dsimp only
  split
  · rename_i hover
    rw [UInt8.lt_iff_toNat_lt, hsucc] at hover
    have heq : s.counter.toNat = s.counterOverflow.toNat := by omega
    rw [heq, Nat.mod_self]
    rfl
  · rename_i hover
    rw [UInt8.not_lt, UInt8.le_iff_toNat_le, hsucc] at hover
    rw [hsucc, Nat.mod_eq_of_lt (by omega)]

/-! ### A producer that only ticks -/

namespace SyncLog

variable {σ : Type} [Transport σ] {log : SyncLog} {s : SyncState}

/-- The state of a producer with the parameters of `s` that has done nothing but tick since its
reset. -/
structure Keeps (log : SyncLog) (s : SyncState) : Prop where
  params : s.SameParameters log.device.sync
  producer : log.device.sync.producer = true
  received : log.device.sync.received = false
  timer : log.device.sync.timer.toNat = min log.waited Micros.longest.toNat
  toggle : log.device.sync.toggle = isOdd log.productions
  counter : s.counterOverflow ≠ 0 → log.device.sync.counter ≤ s.counterOverflow ∧
    log.device.sync.counter.toNat % s.counterOverflow.toNat =
      log.productions % s.counterOverflow.toNat

theorem keeps_start {d : Device} (hproducer : d.sync.cobIdWord.hasBit30 = true) :
    (start d).Keeps d.sync where
  params := ⟨rfl, rfl, rfl, rfl⟩
  producer := hproducer
  received := rfl
  timer := rfl
  toggle := rfl
  counter _ := ⟨UInt8.zero_le, rfl⟩

/-- The timer stops only when it has reached every period. -/
theorem Keeps.isDue_iff (h : log.Keeps s) (hperiod : s.period ≠ 0) (elapsed : Micros) :
    (log.device.sync.wait elapsed).isDue = true ↔
      s.period.toNat ≤ log.waited + elapsed.toNat := by
  have hlt : s.period.toNat < 4294967296 := s.period.toNat_lt
  have htimer := Micros.toNat_advance log.device.sync.timer elapsed
  rw [h.timer, Micros.toNat_longest] at htimer
  have hdue : (log.device.sync.wait elapsed).isDue =
      decide (s.period ≤ log.device.sync.timer.advance elapsed) := by
    show (log.device.sync.producer && log.device.sync.period != 0 &&
      decide (log.device.sync.period ≤ log.device.sync.timer.advance elapsed)) = _
    rw [h.producer, h.params.period, bne_iff_ne.mpr hperiod, Bool.and_true, Bool.true_and]
  rw [hdue, decide_eq_true_iff, UInt32.le_iff_toNat_le, htimer]
  omega

theorem Keeps.nextCounter_eq (h : log.Keeps s) (h0 : s.counterOverflow ≠ 0)
    (h255 : s.counterOverflow ≠ 255) : log.device.sync.nextCounter =
      UInt8.ofNat (log.productions % s.counterOverflow.toNat + 1) := by
  obtain ⟨hle, hmod⟩ := h.counter h0
  have hoverflow := h.params.counterOverflow
  have hnext := SyncState.toNat_nextCounter (s := log.device.sync) (hoverflow ▸ h0)
    (hoverflow ▸ h255) (hoverflow ▸ hle)
  rw [hoverflow, hmod] at hnext
  rw [← hnext, UInt8.ofNat_toNat]

/-- A tick produces a SYNC if one is due, and lets time pass if not. -/
theorem Keeps.cases (h : log.Keeps s) (hperiod : s.period ≠ 0) {call : SyncCall σ}
    (hactive : call.nmt.syncActive = true) :
    (s.period.toNat ≤ log.waited + call.elapsed.toNat ∧ (log.account call).event = .sync ∧
      (log.account call).sent.frame? = some (SyncMessage.toFrame
        ⟨if s.counterOverflow = 0 then none else some log.device.sync.nextCounter⟩ s.cobId) ∧
      (log.tick call).device.sync = { log.device.sync with
        counter := log.device.sync.nextCounter
        timer := 0
        toggle := !log.device.sync.toggle
        insideWindow := true
        receiveError := 0 }) ∨
    (¬ s.period.toNat ≤ log.waited + call.elapsed.toNat ∧ (log.account call).event ≠ .sync ∧
      (log.account call).sent.frame? = none ∧
      (log.tick call).device.sync = { log.device.sync.wait call.elapsed with
        insideWindow := !(log.device.sync.wait call.elapsed).isOutsideWindow
        receiveError := 0 }) := by
  have hhandles := log.device.sync.handles_advance call.elapsed call.nmt
  have hdue := h.isDue_iff hperiod call.elapsed
  have hevent : (log.account call).event =
    (log.device.sync.advance call.elapsed call.nmt).event := rfl
  have hsent : (log.account call).sent.frame? =
    (log.device.sync.advance call.elapsed call.nmt).frame := frame?_sendFrame _ _
  have hnext : (log.tick call).device.sync =
    (log.device.sync.advance call.elapsed call.nmt).next := rfl
  rw [hevent, hsent, hnext]
  rw [← h.params.counterOverflow, ← h.params.cobId]
  generalize log.device.sync.advance call.elapsed call.nmt = tick at hhandles ⊢
  cases hhandles with
  | unused hinactive =>
      rw [hactive] at hinactive
      cases hinactive
  | received _ hreceived =>
      rw [h.received] at hreceived
      cases hreceived
  | produced _ _ hisDue => exact .inl ⟨hdue.mp hisDue, rfl, rfl, rfl⟩
  | passed _ _ hisDue =>
      refine .inr ⟨fun hle => ?_, ?_, rfl, rfl⟩
      · rw [hdue.mpr hle] at hisDue
        cases hisDue
      · dsimp only
        split
        · nofun
        · nofun

theorem Keeps.tick (h : log.Keeps s) (hperiod : s.period ≠ 0) (h255 : s.counterOverflow ≠ 255)
    {call : SyncCall σ} (hactive : call.nmt.syncActive = true) : (log.tick call).Keeps s := by
  have hsame := log.device.sync.sameParameters_advance call.elapsed call.nmt
  have hparams : s.SameParameters (log.tick call).device.sync := h.params.trans hsame
  have hwaited := log.waited_tick call
  have hproductions := log.productions_tick call
  unfold SyncAccount.produces at hwaited hproductions
  rcases h.cases hperiod hactive with ⟨_, _, hframe, hnext⟩ | ⟨_, _, hframe, hnext⟩
  · rw [hframe] at hwaited hproductions
    replace hwaited : (log.tick call).waited = 0 := hwaited
    replace hproductions : (log.tick call).productions = log.productions + 1 := hproductions
    refine ⟨hparams, ?_, ?_, ?_, ?_, fun h0 => ?_⟩
    · rw [hnext]
      exact h.producer
    · rw [hnext]
      exact h.received
    · rw [hnext, hwaited]
      rfl
    · rw [hnext, hproductions, isOdd_succ, ← h.toggle]
    · obtain ⟨hle, hmod⟩ := h.counter h0
      have hoverflow := h.params.counterOverflow
      have hnextCounter := SyncState.toNat_nextCounter (s := log.device.sync) (hoverflow ▸ h0)
        (hoverflow ▸ h255) (hoverflow ▸ hle)
      rw [hnext, hproductions]
      refine ⟨hoverflow ▸ SyncState.nextCounter_le (hoverflow ▸ h0), ?_⟩
      show log.device.sync.nextCounter.toNat % s.counterOverflow.toNat = _
      rw [hnextCounter, hoverflow, hmod, Nat.mod_add_mod]
  · rw [hframe] at hwaited hproductions
    replace hwaited : (log.tick call).waited = log.waited + call.elapsed.toNat := hwaited
    replace hproductions : (log.tick call).productions = log.productions := hproductions
    refine ⟨hparams, ?_, ?_, ?_, ?_, ?_⟩
    · rw [hnext]
      exact h.producer
    · rw [hnext]
      exact h.received
    · rw [hnext, hwaited]
      show (log.device.sync.timer.advance call.elapsed).toNat = _
      rw [Micros.toNat_advance, h.timer]
      omega
    · rw [hnext, hproductions]
      exact h.toggle
    · rw [hnext, hproductions]
      exact h.counter

theorem Keeps.run (h : log.Keeps s) (hperiod : s.period ≠ 0) (h255 : s.counterOverflow ≠ 255)
    {calls : List (SyncCall σ)} (hactive : ∀ call ∈ calls, call.nmt.syncActive = true) :
    (log.run calls).Keeps s := by
  induction calls generalizing log with
  | nil => exact h
  | cons call calls ih =>
      rw [List.forall_mem_cons] at hactive
      exact ih (h.tick hperiod h255 hactive.1) hactive.2

/-- **A SYNC producer keeps its schedule.**  The producer has a period, and an overflow value other
than the largest byte, or none.  It has just been reset, and any ticks have followed in which the SYNC
was in use, with any elapsed times, and with transports that take or refuse what they are given.  Then
a tick produces a SYNC, and hands a message to the transport, exactly if at least a period has passed
since the last one was produced.  The messages are numbered from one to the overflow value, and then
from one again, and have no data if there is none; the toggle tells the odd ones. -/
theorem producer_schedule (d : Device) (hproducer : d.sync.cobIdWord.hasBit30 = true)
    (hperiod : d.sync.period ≠ 0) (h255 : d.sync.counterOverflow ≠ 255) {past : List (SyncCall σ)}
    {call : SyncCall σ} (hactive : ∀ c ∈ past ++ [call], c.nmt.syncActive = true) :
    let log := (start d).run past
    let account := log.account call
    (account.event = .sync ↔ d.sync.period.toNat ≤ log.waited + call.elapsed.toNat) ∧
      (account.sent ≠ .idle ↔ d.sync.period.toNat ≤ log.waited + call.elapsed.toNat) ∧
      ∀ f, account.sent.frame? = some f →
        f = .carrying d.sync.cobId (if d.sync.counterOverflow = 0 then []
          else [UInt8.ofNat (log.productions % d.sync.counterOverflow.toNat + 1)]) ∧
        account.toggle = isOdd (log.productions + 1) := by
  intro log account
  rw [List.forall_mem_append, List.forall_mem_singleton] at hactive
  have h : log.Keeps d.sync := (keeps_start hproducer).run hperiod h255 hactive.1
  rcases h.cases hperiod hactive.2 with
    ⟨hdue, hevent, hframe, hnext⟩ | ⟨hdue, hevent, hframe, hnext⟩
  · have hsent : account.sent ≠ .idle := Transmission.ne_idle_of_frame? hframe
    refine ⟨iff_of_true hevent hdue, iff_of_true hsent hdue, fun f hf => ⟨?_, ?_⟩⟩
    · obtain rfl := Option.some.inj (hframe.symm.trans hf)
      unfold SyncMessage.toFrame
      by_cases h0 : d.sync.counterOverflow = 0
      · rw [if_pos h0, if_pos h0]
        rfl
      · rw [if_neg h0, if_neg h0, h.nextCounter_eq h0 h255]
        rfl
    · show (log.tick call).device.sync.toggle = _
      rw [hnext, isOdd_succ, ← h.toggle]
  · have hidle : account.sent = .idle := Transmission.eq_idle_of_frame? hframe
    refine ⟨iff_of_false hevent hdue, iff_of_false (fun hne => hne hidle) hdue, fun f hf => ?_⟩
    cases hframe.symm.trans hf

/-- A producer with a period of a millisecond that counts to three. -/
def metronome : Device :=
  { Device.fresh 0 0 ⟨[]⟩ with
    sync := { SyncState.fresh with
      cobIdWord := 0x40000080
      period := 1000
      counterOverflow := 3 } }

/-- Three SYNCs are produced, the first of which is refused.  Before the last of them the timer stops
at its end. -/
def metronomeCalls : List (SyncCall Bus) :=
  [⟨1500, .operational, .ofCapacity 0⟩, ⟨400, .preOperational, .ofCapacity 1⟩,
    ⟨600, .operational, .ofCapacity 1⟩, ⟨999, .operational, .ofCapacity 1⟩,
    ⟨0xFFFFFFFF, .preOperational, .ofCapacity 1⟩, ⟨999, .operational, .ofCapacity 1⟩]

theorem producer_schedule_metronome :
    let log := (start metronome).run metronomeCalls
    let account := log.account ⟨1, .operational, Bus.ofCapacity 0⟩
    log.productions = 3 ∧ log.waited = 999 ∧ account.event = .sync ∧
      account.sent = .refused (.carrying (.std 0x80) [1]) ∧ account.toggle = false := by
  have hactive : ∀ c ∈ metronomeCalls ++ [⟨1, .operational, Bus.ofCapacity 0⟩],
      c.nmt.syncActive = true := by decide
  obtain ⟨hevent, _, hmessage⟩ := producer_schedule metronome rfl (by decide) (by decide) hactive
  obtain ⟨hframe, htoggle⟩ := hmessage _ rfl
  exact ⟨by decide, by decide, hevent.mpr (by decide), congrArg Transmission.refused hframe,
    htoggle⟩

end SyncLog

end Canopen
