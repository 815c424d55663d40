import Canopen.Sync.State

/-! # The kinds of ticks

A tick of the SYNC object does one of four things (`SyncState.Handles`).  Unless the SYNC is out of
use, a SYNC that was received takes effect, a SYNC is produced, or time passes, and then the end of the
synchronous window may be seen.  What is said about the supervision of the SYNC follows from the
outcome (`supervision_advance`). -/

namespace Canopen

namespace SyncState

/-- Nothing but time has passed. -/
def wait (s : SyncState) (elapsed : Micros) : SyncState :=
  { s with timer := s.timer.advance elapsed }

/-- The malformed SYNC that a tick reports while the SYNC is in use. -/
def malformed (s : SyncState) : Option UInt16 :=
  if s.receiveError = 0 then none else some s.receiveError

/-- The ticks that a state may have.  What they say about the supervision is left open while the SYNC
is in use. -/
inductive Handles (s : SyncState) (elapsed : Micros) (nmt : NmtState) : SyncTick → Prop
  /-- The SYNC is not in use, and nothing remains pending. -/
  | unused (hinactive : nmt.syncActive = false) : s.Handles elapsed nmt
      ⟨{ s with received := false, receiveError := 0 }, .none, none, .unchanged, none⟩
  /-- A received SYNC takes effect, and restarts the timer. -/
  | received (hactive : nmt.syncActive = true) (h : s.received = true)
      {supervision : Supervision} : s.Handles elapsed nmt
      ⟨{ s with timer := 0, received := false, insideWindow := true, receiveError := 0 }, .sync, none,
        supervision, s.malformed⟩
  /-- A SYNC is produced, which counts, flips the toggle and restarts the timer. -/
  | produced (hactive : nmt.syncActive = true) (h : s.received = false)
      (hdue : (s.wait elapsed).isDue = true) {supervision : Supervision} :
      s.Handles elapsed nmt
      ⟨{ s with
          counter := s.nextCounter
          timer := 0
          toggle := !s.toggle
          insideWindow := true
          receiveError := 0 }, .sync,
        some (SyncMessage.toFrame
          ⟨if s.counterOverflow = 0 then none else some s.nextCounter⟩ s.cobId),
        supervision, s.malformed⟩
  /-- Time passes.  That the timer is outside the window is an event if it was not known before. -/
  | passed (hactive : nmt.syncActive = true) (h : s.received = false)
      (hdue : (s.wait elapsed).isDue = false) {supervision : Supervision} :
      s.Handles elapsed nmt
      ⟨{ s.wait elapsed with
          insideWindow := !(s.wait elapsed).isOutsideWindow
          receiveError := 0 },
        if (s.wait elapsed).isOutsideWindow && s.insideWindow then .windowViolated else .none, none,
        supervision, s.malformed⟩

variable {s : SyncState} {nmt : NmtState}

theorem elapse_of_not_received (h : s.received = false) (elapsed : Micros) :
    s.elapse elapsed = s.wait elapsed :=
  if_neg (Bool.eq_false_iff.mp h)

theorem not_due_of_timer (h : s.timer = 0) : s.isDue = false ∧ s.isOutsideWindow = false := by
  have hwindow : ¬ s.window < 0 := UInt32.not_lt.mpr (UInt32.zero_le)
  unfold isDue isOutsideWindow
  rw [h]
  refine ⟨?_, by simp only [hwindow, decide_false, Bool.and_false]⟩
  by_cases hp : s.period = 0
  · rw [hp]
    simp only [bne_self_eq_false, Bool.and_false, Bool.false_and]
  · have hle : ¬ s.period ≤ 0 := fun hle => hp (UInt32.le_zero_iff.mp hle)
    simp only [hle, decide_false, Bool.and_false]

theorem handles_advance (s : SyncState) (elapsed : Micros) (nmt : NmtState) :
    s.Handles elapsed nmt (s.advance elapsed nmt) := by
  cases hactive : nmt.syncActive with
  | false =>
      unfold advance
      rw [if_neg (Bool.eq_false_iff.mp hactive)]
      exact .unused hactive
  | true =>
      unfold advance
      rw [if_pos hactive]
      by_cases hreceived : s.received = true
      · have helapse : s.elapse elapsed = { s with timer := 0, received := false } :=
          if_pos hreceived
        obtain ⟨hdue, hwindow⟩ := not_due_of_timer (s := s.elapse elapsed) (by rw [helapse])
        simp only [hdue, hwindow, hreceived, Bool.false_eq_true, ↓reduceIte, Bool.false_and,
          Bool.true_or, Bool.not_false]
        rw [helapse]
        exact .received hactive hreceived
      · replace hreceived : s.received = false := Bool.eq_false_iff.mpr hreceived
        rw [elapse_of_not_received hreceived]
        by_cases hdue : (s.wait elapsed).isDue = true
        · obtain ⟨_, hwindow⟩ := not_due_of_timer (s := (s.wait elapsed).produce) rfl
          simp only [hdue, hwindow, ↓reduceIte, Bool.false_and, Bool.or_true, Bool.not_false,
            Bool.false_eq_true]
          exact .produced hactive hreceived hdue
        · replace hdue : (s.wait elapsed).isDue = false := Bool.eq_false_iff.mpr hdue
          simp only [hdue, hreceived, Bool.or_self, Bool.false_eq_true, ↓reduceIte]
          exact .passed hactive hreceived hdue

/-- An overdue SYNC is missing in operation; one that takes effect is there, and so is one that is not
supervised. -/
theorem supervision_advance (hactive : nmt.syncActive = true) (s : SyncState) (elapsed : Micros) :
    (s.advance elapsed nmt).supervision =
      if (s.advance elapsed nmt).next.isOverdue && nmt == .operational then .missing
      else if (s.advance elapsed nmt).event = .sync ∨ (s.advance elapsed nmt).next.period = 0 then
        .present
      else .unchanged := by
  unfold advance
  simp only [hactive, ↓reduceIte]
  rfl

end SyncState

end Canopen
