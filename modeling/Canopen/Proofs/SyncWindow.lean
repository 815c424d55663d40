import Canopen.Proofs.OperatingState
import Canopen.Proofs.SyncTicks

/-! # The synchronous window

The end of the synchronous window is reported by the first tick that finds the SYNC timer beyond it,
and not again before the next SYNC.  The SYNC object keeps that in a flag, which is set again by each
tick inside the window; the timer says whether it may be, since it never goes back but at a SYNC
(`SyncState.Remembers`).

`window_reported_once` tells from the marks of a run, and not from the flag, at which ticks the end of
the window is reported and at which a SYNC takes effect, and counts how often the transport is told to
drop the PDOs that come too late (`Counted`). -/

namespace Canopen

/-! ### The marks of a run -/

/-- What matters to the synchronous window. -/
inductive WindowMark where
  /-- A SYNC message was accepted. -/
  | accepted
  | tick (event : SyncEvent)
deriving DecidableEq, Repr

namespace WindowMark

variable {marks : List WindowMark}

/-- Has the end of the window been reported since the last tick with a SYNC, or since the start? -/
def Reported (marks : List WindowMark) : Prop :=
  tick .windowViolated ∈ marks.reverse.takeWhile (· != tick .sync)

/-- Has a SYNC message been accepted since the last tick? -/
def Waiting (marks : List WindowMark) : Prop := marks.getLast? = some accepted

instance (marks : List WindowMark) : Decidable (Reported marks) :=
  inferInstanceAs (Decidable (_ ∈ _))

instance (marks : List WindowMark) : Decidable (Waiting marks) :=
  inferInstanceAs (Decidable (_ = _))

theorem reported_concat (marks : List WindowMark) (mark : WindowMark) : Reported (marks ++ [mark]) ↔
    mark ≠ tick .sync ∧ (mark = tick .windowViolated ∨ Reported marks) := by
  unfold Reported
  rw [List.reverse_concat, List.takeWhile_cons]
  by_cases hsync : mark = tick .sync
  · rw [hsync]
    simp
  · rw [if_pos (bne_iff_ne.mpr hsync), List.mem_cons, eq_comm]
    exact ⟨fun h => ⟨hsync, h⟩, fun h => h.2⟩

theorem waiting_concat (marks : List WindowMark) (mark : WindowMark) :
    Waiting (marks ++ [mark]) ↔ mark = accepted := by
  unfold Waiting
  rw [List.getLast?_concat, Option.some.injEq]

end WindowMark

/-! ### The flag of the SYNC object -/

namespace SyncState

open WindowMark

variable {s : SyncState} {marks : List WindowMark}

theorem isOutsideWindow_iff (s : SyncState) :
    s.isOutsideWindow = true ↔ s.window ≠ 0 ∧ s.window < s.timer := by
  unfold isOutsideWindow
  rw [Bool.and_eq_true, bne_iff_ne, decide_eq_true_iff]

theorem isOutsideWindow_wait (h : s.isOutsideWindow = true) (elapsed : Micros) :
    (s.wait elapsed).isOutsideWindow = true := by
  rw [isOutsideWindow_iff] at h ⊢
  refine ⟨h.1, ?_⟩
  have hlt := h.2
  have htimer := s.timer.toNat_lt
  have hadvance := Micros.toNat_advance s.timer elapsed
  rw [Micros.toNat_longest] at hadvance
  rw [UInt32.lt_iff_toNat_lt] at hlt ⊢
  show s.window.toNat < (s.timer.advance elapsed).toNat
  omega

/-- The end of the window is reported by a tick that is outside it, if that was not known before. -/
theorem windowViolated_iff (s : SyncState) (elapsed : Micros) (nmt : NmtState) :
    (s.advance elapsed nmt).event = .windowViolated ↔ nmt.syncActive = true ∧
      (s.advance elapsed nmt).next.isOutsideWindow = true ∧ s.insideWindow = true := by
  have hhandles := s.handles_advance elapsed nmt
  generalize s.advance elapsed nmt = tick at hhandles ⊢
  cases hhandles with
  | unused hinactive =>
      rw [hinactive]
      exact iff_of_false nofun fun h => nomatch h.1
  | received _ _ =>
      refine iff_of_false nofun fun h => ?_
      rw [(not_due_of_timer rfl).2] at h
      cases h.2.1
  | produced _ _ _ =>
      refine iff_of_false nofun fun h => ?_
      rw [(not_due_of_timer rfl).2] at h
      cases h.2.1
  | passed hactive _ _ =>
      rw [hactive]
      show _ ↔ true = true ∧ (s.wait elapsed).isOutsideWindow = true ∧ _
      dsimp only
      cases (s.wait elapsed).isOutsideWindow with
      | false => exact iff_of_false nofun fun h => nomatch h.2.1
      | true =>
          cases s.insideWindow with
          | false => exact iff_of_false nofun fun h => nomatch h.2.2
          | true => exact iff_of_true rfl ⟨rfl, rfl, rfl⟩

/-- A SYNC takes effect at a tick exactly if one has been received or is produced. -/
theorem event_sync_iff (s : SyncState) (elapsed : Micros) (nmt : NmtState) :
    (s.advance elapsed nmt).event = .sync ↔ nmt.syncActive = true ∧
      (s.received = true ∨ (s.advance elapsed nmt).frame.isSome = true) := by
  cases hactive : nmt.syncActive with
  | false =>
      rw [advance_of_inactive hactive]
      exact iff_of_false nofun fun h => nomatch h.1
  | true =>
      rcases (s.advance_cases elapsed hactive).2 with
        ⟨hframe, _, hevent⟩ | ⟨hframe, _, _, hevent⟩
      · rw [hframe, hevent]
        exact ⟨fun h => ⟨rfl, .inl h⟩, fun h => h.2.resolve_right nofun⟩
      · exact iff_of_true hevent ⟨rfl, .inr hframe⟩

/-- What the SYNC object remembers of a run is what its marks say. -/
structure Remembers (s : SyncState) (marks : List WindowMark) : Prop where
  flag : s.insideWindow = false ↔ Reported marks
  outside : s.insideWindow = false → s.isOutsideWindow = true
  received : s.received = true ↔ Waiting marks

theorem remembers_reset (s : SyncState) : s.reset.Remembers [] where
  flag := iff_of_false nofun nofun
  outside := nofun
  received := iff_of_false nofun nofun

theorem Remembers.advance (h : s.Remembers marks) (elapsed : Micros) (nmt : NmtState) :
    (s.advance elapsed nmt).next.Remembers
      (marks ++ [.tick (s.advance elapsed nmt).event]) := by
  have hwaiting : ∀ event, ¬ Waiting (marks ++ [.tick event]) := fun event hwaiting =>
    nomatch (waiting_concat _ _).mp hwaiting
  have hsynced : ¬ Reported (marks ++ [.tick .sync]) := fun hreported =>
    ((reported_concat _ _).mp hreported).1 rfl
  have hhandles := s.handles_advance elapsed nmt
  generalize s.advance elapsed nmt = tick at hhandles ⊢
  cases hhandles with
  | unused _ =>
      refine ⟨?_, h.outside, iff_of_false nofun (hwaiting _)⟩
      rw [reported_concat]
      exact ⟨fun hflag => ⟨nofun, .inr (h.flag.mp hflag)⟩,
        fun hreported => h.flag.mpr (hreported.2.resolve_left nofun)⟩
  | received _ _ => exact ⟨iff_of_false nofun hsynced, nofun, iff_of_false nofun (hwaiting _)⟩
  | produced _ hnone _ =>
      refine ⟨iff_of_false nofun hsynced, nofun, iff_of_false ?_ (hwaiting _)⟩
      exact Bool.eq_false_iff.mp hnone
  | passed _ hnone _ =>
      refine ⟨?_, fun hflag => ?_, iff_of_false (Bool.eq_false_iff.mp hnone) (hwaiting _)⟩
      · show (!(s.wait elapsed).isOutsideWindow) = false ↔ _
        rw [reported_concat, ← h.flag]
        cases houtside : (s.wait elapsed).isOutsideWindow with
        | false =>
            -- a timer that is inside the window now was inside it before
            have hinside : s.insideWindow ≠ false := fun hflag => by
              rw [isOutsideWindow_wait (h.outside hflag)] at houtside
              cases houtside
            exact iff_of_false nofun fun hreported =>
              hinside (hreported.2.resolve_left nofun)
        | true =>
            refine iff_of_true rfl ?_
            cases s.insideWindow with
            | false => exact ⟨nofun, .inr rfl⟩
            | true => exact ⟨nofun, .inl rfl⟩
      · show (s.wait elapsed).isOutsideWindow = true
        simpa using hflag

theorem Remembers.receive (h : s.Remembers marks) (f : Frame) (nmt : NmtState) :
    (s.receive f nmt).2.Remembers
      (marks ++ if (s.receive f nmt).1 then [.accepted] else []) := by
  have hwindow : (s.receive f nmt).2.insideWindow = s.insideWindow ∧
      (s.receive f nmt).2.isOutsideWindow = s.isOutsideWindow := by
    unfold SyncState.receive
    split
    · split
      · exact ⟨rfl, rfl⟩
      · exact ⟨rfl, rfl⟩
    · exact ⟨rfl, rfl⟩
  rcases s.receive_cases f nmt with ⟨haccepted, hreceived, _⟩ | ⟨hrefused, hreceived, _⟩
  · rw [haccepted, if_pos rfl]
    refine ⟨?_, ?_, iff_of_true hreceived ((waiting_concat _ _).mpr rfl)⟩
    · rw [hwindow.1, h.flag, reported_concat]
      exact ⟨fun hreported => ⟨nofun, .inr hreported⟩,
        fun hreported => hreported.2.resolve_left nofun⟩
    · rw [hwindow.1, hwindow.2]
      exact h.outside
  · rw [hrefused, if_neg Bool.false_ne_true, List.append_nil]
    refine ⟨?_, ?_, ?_⟩
    · rw [hwindow.1]
      exact h.flag
    · rw [hwindow.1, hwindow.2]
      exact h.outside
    · rw [hreceived]
      exact h.received

end SyncState

/-! ### A transport that counts -/

/-- A transport that counts how often it is told to drop the synchronous PDOs that still wait. -/
structure Counted (σ : Type) where
  link : σ
  clears : Nat

namespace Counted

variable {σ : Type} [Transport σ]

instance : Transport (Counted σ) where
  send f t :=
    let (accepted, link) := Transport.send f t.link
    (accepted, ⟨link, t.clears⟩)
  sendSync f t :=
    let (accepted, link) := Transport.sendSync f t.link
    (accepted, ⟨link, t.clears⟩)
  clearPendingSync t := ⟨Transport.clearPendingSync t.link, t.clears + 1⟩

theorem shows_link : Transport.Shows (Counted.link (σ := σ)) where
  send _ _ := rfl
  sendSync _ _ := rfl
  clear _ := rfl

/-- Sending does not count. -/
theorem tracks : Transport.Tracks fun t _ (t' : Counted σ) => t'.clears = t.clears where
  nil _ := rfl
  idle _ := rfl
  cons h h' := h'.trans h
  send _ _ := rfl
  sendSync _ _ := rfl

theorem clears_tick (d : Device) (elapsed : Micros) (t : Counted σ) :
    (d.tick elapsed t).2.2.clears =
      t.clears + if (d.tick elapsed t).1.event = .windowViolated then 1 else 0 := by
  have hsync := tracks.sendFrame (d.syncTick elapsed).frame t
  rw [d.tick_eq]
  refine (tracks.tickTpdos _ _ _ _ _ _ _ _).trans ?_
  dsimp only
  split
  · exact congrArg (· + 1) hsync
  · exact hsync

/-- A tick is not changed by counting, and counts once if it reports the end of the window. -/
theorem tick_eq (d : Device) (elapsed : Micros) (link : σ) (clears : Nat) :
    let ticked := d.tick elapsed link
    d.tick elapsed (Counted.mk link clears) = (ticked.1, ticked.2.1,
      ⟨ticked.2.2, clears + if ticked.1.event = .windowViolated then 1 else 0⟩) := by
  have hclears := clears_tick d elapsed (Counted.mk link clears)
  have hshows := shows_link.tick d elapsed (Counted.mk link clears)
  dsimp only at hclears hshows ⊢
  rw [hshows, ← hclears]

end Counted

/-! ### Runs -/

namespace Node

open WindowMark

variable {σ : Type} [Transport σ] {n : Node} {e : Event σ} {marks : List WindowMark}

/-- The mark of an event, if it matters to the synchronous window. -/
def windowMarks (n : Node) : Event σ → List WindowMark
  | .tick now link => [.tick (n.tick now link).1.event]
  | .frame f => if (n.receive f).1 = .sync true then [.accepted] else []
  | _ => []

theorem remembers_step (h : n.device.sync.Remembers marks) (he : n.LeavesParameters e) :
    (n.step e).device.sync.Remembers (marks ++ n.windowMarks e) := by
  rcases he.cases with ⟨now, link, rfl⟩ | ⟨f, rfl⟩ | hquiet
  · exact h.advance (Micros.elapsed n.lastTick now) n.device.nmt
  · unfold windowMarks
    show (n.device.receive f).2.sync.Remembers
      (marks ++ if (n.device.receive f).1 = .sync true then [.accepted] else [])
    have hf := n.device.receive_received f
    generalize (n.device.receive f).1 = reception at hf ⊢
    generalize (n.device.receive f).2 = d' at hf ⊢
    cases hf with
    | sync _ =>
        have hreceive := h.receive f n.device.nmt
        simpa only [Reception.sync.injEq] using hreceive
    | accepted _ _ _ _ =>
        rw [if_neg nofun, List.append_nil]
        exact h
    | dropped _ _ _ _ =>
        rw [if_neg nofun, List.append_nil]
        exact h
    | unclaimed _ =>
        rw [if_neg nofun, List.append_nil]
        exact h
  · have hmarks : n.windowMarks e = [] := by
      cases e with
      | tick now link => exact absurd rfl (hquiet.tick now link)
      | frame f => exact absurd rfl (hquiet.frame f)
      | _ => rfl
    rw [hmarks, List.append_nil, hquiet.sync]
    exact h

theorem remembers_run (h : n.device.sync.Remembers marks) {es : List (Event σ)}
    (hes : n.Along LeavesParameters es) :
    (n.run es).device.sync.Remembers (marks ++ n.trace windowMarks es) := by
  induction es generalizing n marks with
  | nil =>
      rw [trace, List.append_nil]
      exact h
  | cons e es ih =>
      have htail := ih (remembers_step h hes.1) hes.2
      rw [List.append_assoc] at htail
      exact htail

/-- **The end of the synchronous window is reported once per SYNC, and never hides a SYNC.**  The run
starts at a communication reset of any node, with any changes of the operating state, but no parameter
is written and no other reset comes.  A tick after it reports the end of the window exactly if the SYNC
is in use, there is a window, the SYNC timer is beyond it, and no tick has reported that since the last
SYNC.  A SYNC takes effect at every tick before which one was accepted or which produces one, if the
SYNC is in use.  And a transport is told to drop waiting PDOs once by a tick that reports the end of the
window, and by no other; that this is counted makes no difference to the tick. -/
theorem window_reported_once (n : Node) {es : List (Event σ)}
    (hes : n.resetCommunication.Along LeavesParameters es) (now : UInt64) (link : σ) :
    let before := n.resetCommunication.run es
    let marks := n.resetCommunication.trace windowMarks es
    let ticked := before.tick now link
    (ticked.1.event = .windowViolated ↔ before.device.nmt.syncActive = true ∧
        before.device.sync.window ≠ 0 ∧
        before.device.sync.window < ticked.2.1.device.sync.timer ∧ ¬ Reported marks) ∧
      (ticked.1.event = .sync ↔ before.device.nmt.syncActive = true ∧
        (Waiting marks ∨ ticked.1.sync ≠ .idle)) ∧
      ∀ clears, before.tick now (Counted.mk link clears) = (ticked.1, ticked.2.1,
        ⟨ticked.2.2, clears + if ticked.1.event = .windowViolated then 1 else 0⟩) := by
  intro before marks ticked
  have hreset : n.resetCommunication.device.sync.Remembers [] := n.device.sync.remembers_reset
  have h : before.device.sync.Remembers marks := remembers_run hreset hes
  have hviolated := before.device.sync.windowViolated_iff (Micros.elapsed before.lastTick now)
    before.device.nmt
  have hsync := before.device.sync.event_sync_iff (Micros.elapsed before.lastTick now)
    before.device.nmt
  have hparams := before.device.sync.sameParameters_advance (Micros.elapsed before.lastTick now)
    before.device.nmt
  have hframe : ticked.1.sync.frame? = _ := frame?_sendFrame _ _
  refine ⟨?_, ?_, fun clears => ?_⟩
  · rw [SyncState.isOutsideWindow_iff, hparams.window, and_assoc] at hviolated
    rw [← h.flag, ← ne_eq, Bool.ne_false_iff]
    exact hviolated
  · rw [← h.received, Transmission.ne_idle_iff, hframe]
    exact hsync
  · have hcounted := Counted.tick_eq before.device (Micros.elapsed before.lastTick now) link clears
    unfold Node.tick
    rw [hcounted]
    rfl

/-! ### A window that ends twice -/

/-- An operational consumer with a window of half a millisecond. -/
def windowed : Node :=
  (Node.start .unconfigured (Device.fresh 0 0 ⟨[]⟩)).run
    ([.loadConfig { DeviceConfig.initial with nodeId := 1, sync := ⟨0x80, 0, 500, 0⟩ },
      .setNmt .operational] : List (Event Bus))

/-- The window ends at the second tick after a SYNC; then the node is stopped for a while. -/
def windowedRun : List (Event Bus) :=
  [syncFrame, receiverTick 0, receiverTick 600, .setNmt .stopped, receiverTick 700,
    .setNmt .operational]

theorem window_reported_once_windowed :
    let late := windowed.resetCommunication.run windowedRun
    let next := windowed.resetCommunication.run
      (windowedRun ++ [receiverTick 800, syncFrame, receiverTick 900])
    let bus := Bus.ofCapacity 0
    (late.tick 800 bus).1.event ≠ .windowViolated ∧
      (late.tick 800 (Counted.mk bus 1)).2.2.clears = 1 ∧
      (next.tick 1500 bus).1.event = .windowViolated ∧
      (next.tick 1500 (Counted.mk bus 1)).2.2.clears = 2 := by
  intro late next bus
  have hlate : windowed.resetCommunication.Along LeavesParameters windowedRun :=
    ⟨nofun, nofun, nofun, nofun, nofun, nofun, trivial⟩
  have hnext : windowed.resetCommunication.Along LeavesParameters
      (windowedRun ++ [receiverTick 800, syncFrame, receiverTick 900]) :=
    ⟨nofun, nofun, nofun, nofun, nofun, nofun, nofun, nofun, nofun, trivial⟩
  obtain ⟨hquiet, _, hkept⟩ := window_reported_once windowed hlate 800 bus
  obtain ⟨hagain, _, hcounted⟩ := window_reported_once windowed hnext 1500 bus
  have hreported : (late.tick 800 bus).1.event ≠ .windowViolated := fun h =>
    (hquiet.mp h).2.2.2 (by decide)
  have hviolated : (next.tick 1500 bus).1.event = .windowViolated :=
    hagain.mpr ⟨rfl, by decide, by decide, by decide⟩
  refine ⟨hreported, ?_, hviolated, ?_⟩
  · rw [hkept, if_neg hreported]
  · rw [hcounted, if_pos hviolated]

end Node

end Canopen
