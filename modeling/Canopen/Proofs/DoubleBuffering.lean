import Canopen.Proofs.CommitOrder
import Canopen.Proofs.CyclicSchedule

/-! # Double buffering

The two slots of a receive PDO stand for a queue of the frames of one cycle.  Of a synchronous PDO,
the frames that are accepted after a SYNC are kept apart from those before it, whether the SYNC is
received, and takes effect at the next tick, or is produced by the tick itself.

What the slots hold is told from the `history` of the run: the SYNCs, the ticks and the accepted
frames, in order.  The slot for writing holds the last frame since the last SYNC, and while a SYNC
waits for its tick the other slot holds the last frame since the SYNC before it (`Buffer.Holds`).
`commits_last_frame` says what that means for the commits and for the mapped objects, provided that no
second SYNC comes before the tick. -/

namespace Canopen

/-! ### Histories -/

/-- What happens to a receive PDO that is in operation. -/
inductive CycleEvent where
  /-- A SYNC was received or produced. -/
  | sync
  | tick
  /-- A frame was accepted. -/
  | frame (p : Payload)
deriving DecidableEq, Repr

namespace CycleEvent

/-- The accepted frame. -/
def frame? : CycleEvent → Option Payload
  | frame p => some p
  | sync | tick => none

/-- The last frame accepted since the last event of a kind, or since the start. -/
def lastSince (stop : CycleEvent) (history : List CycleEvent) : Option Payload :=
  (history.reverse.takeWhile (· != stop)).findSome? frame?

variable {stop e : CycleEvent} {history history' : List CycleEvent}

@[simp] theorem lastSince_stop (stop : CycleEvent) (history : List CycleEvent) :
    lastSince stop (history ++ [stop]) = none := by
  simp [lastSince]

theorem lastSince_frame {p : Payload} (h : frame p ≠ stop) (history : List CycleEvent) :
    lastSince stop (history ++ [frame p]) = some p := by
  have hne : (frame p != stop) = true := bne_iff_ne.mpr h
  unfold lastSince
  rw [List.reverse_concat, List.takeWhile_cons]
  simp only [hne, ↓reduceIte]
  rfl

theorem lastSince_concat (h : e ≠ stop) (he : e.frame? = none) (history : List CycleEvent) :
    lastSince stop (history ++ [e]) = lastSince stop history := by
  simp [lastSince, h, he]

/-- Between any two SYNCs there is a tick. -/
def OneSyncPerTick (history : List CycleEvent) : Prop :=
  ∀ before between after, history = before ++ sync :: between ++ sync :: after → tick ∈ between

theorem OneSyncPerTick.of_append (h : OneSyncPerTick (history ++ history')) :
    OneSyncPerTick history := by
  intro before between after heq
  refine h before between (after ++ history') ?_
  rw [heq, List.append_assoc, List.cons_append]

/-- The last SYNC of a history, the events before it, and the frames after it, if no tick has come
since. -/
structure Pending (history before after : List CycleEvent) : Prop where
  eq : history = before ++ sync :: after
  sync : CycleEvent.sync ∉ after
  tick : CycleEvent.tick ∉ after

theorem Pending.concat {before after : List CycleEvent} (h : Pending history before after)
    (p : Payload) : Pending (history ++ [frame p]) before (after ++ [frame p]) where
  eq := by rw [h.eq, List.append_assoc, List.cons_append]
  sync := by simp [h.sync]
  tick := by simp [h.tick]

theorem Pending.not_oneSyncPerTick {before after : List CycleEvent}
    (h : Pending history before after) : ¬ OneSyncPerTick (history ++ [CycleEvent.sync]) :=
  fun hone => h.tick (hone before after [] (by rw [h.eq]))

end CycleEvent

/-! ### Two slots -/

/-- The part of a node that decides about the frames of a receive PDO: the SYNC toggle, whether a SYNC
waits for its tick, and the slots. -/
structure Buffer where
  toggle : Bool
  received : Bool
  slots : Slots

namespace Buffer

open CycleEvent

/-- A SYNC exchanges the slots. -/
def sync (b : Buffer) : Buffer := { b with toggle := !b.toggle, received := true }

/-- Put an accepted frame into the slot for writing. -/
def accept (b : Buffer) (synchronous : Bool) (p : Payload) : Buffer :=
  { b with slots := b.slots.set (.forWriting synchronous b.toggle) (some p) }

/-- Empty the slot for committing, unless that has to wait for a SYNC. -/
def tick (b : Buffer) (synchronous : Bool) : Option Payload × Buffer :=
  if synchronous && !b.received then (none, b)
  else
    let slot := Slot.forCommit synchronous b.toggle
    (b.slots.get slot, ⟨b.toggle, false, b.slots.set slot none⟩)

/-- What an event does, with the frame that it commits.  A tick may produce a SYNC, unless one waits
for it. -/
inductive Steps (synchronous : Bool) (b : Buffer) :
    List CycleEvent → Option Payload → Buffer → Prop
  | pass : Steps synchronous b [] none b
  | accept (p : Payload) : Steps synchronous b [.frame p] none (b.accept synchronous p)
  | sync : Steps synchronous b [.sync] none b.sync
  | tick : Steps synchronous b [.tick] (b.tick synchronous).1 (b.tick synchronous).2
  | produce : b.received = false →
      Steps synchronous b [.sync, .tick] (b.sync.tick synchronous).1 (b.sync.tick synchronous).2

/-- What the slots of a synchronous PDO hold. -/
structure Holds (b : Buffer) (history : List CycleEvent) : Prop where
  /-- Frames that wait for the next SYNC. -/
  writing : b.slots.get (.forWriting true b.toggle) = lastSince .sync history
  /-- Frames that the SYNC has made due. -/
  due : b.received = true → ∃ before after, Pending history before after ∧
    b.slots.get (.forCommit true b.toggle) = lastSince .sync before
  empty : b.received = false → b.slots.get (.forCommit true b.toggle) = none

variable {b b' : Buffer} {history events : List CycleEvent} {payload : Option Payload}

theorem tick_snd (b : Buffer) (synchronous : Bool) :
    (b.tick synchronous).2.toggle = b.toggle ∧ (b.tick synchronous).2.received = false := by
  unfold Buffer.tick
  split
  · rename_i hidle
    rw [Bool.and_eq_true, Bool.not_eq_true'] at hidle
    exact ⟨rfl, hidle.2⟩
  · exact ⟨rfl, rfl⟩

theorem take_eq {r : Rpdo} (hv : r.valid = true) (b : Buffer) :
    Rpdo.take { r with slots := b.slots } b.received b.toggle .operational =
      ((b.tick r.synchronous).1, { r with slots := (b.tick r.synchronous).2.slots }) := by
  unfold Rpdo.take Buffer.tick
  rw [if_pos (by rw [Bool.and_eq_true]; exact ⟨hv, rfl⟩)]
  split
  · rfl
  · rfl

theorem forCommit_ne_forWriting (toggle : Bool) :
    Slot.forCommit true toggle ≠ .forWriting true toggle := by
  cases toggle <;> decide

theorem Holds.accept (h : b.Holds history) (p : Payload) :
    (b.accept true p).Holds (history ++ [.frame p]) where
  writing := by
    rw [lastSince_frame (by simp)]
    exact (Slots.get_set _ _ _ _).trans (if_pos rfl)
  due hreceived := by
    obtain ⟨before, after, hpending, hdue⟩ := h.due hreceived
    refine ⟨before, _, hpending.concat p, ?_⟩
    rw [← hdue]
    exact (Slots.get_set _ _ _ _).trans (if_neg (forCommit_ne_forWriting _))
  empty hreceived := by
    rw [← h.empty hreceived]
    exact (Slots.get_set _ _ _ _).trans (if_neg (forCommit_ne_forWriting _))

/-- With empty slots, a SYNC may wait for its tick already. -/
theorem holds_none (toggle received : Bool) :
    (Buffer.mk toggle received .none).Holds (if received then [.sync] else []) where
  writing := by
    cases received with
    | false => exact Slots.get_none _
    | true => exact Slots.get_none _
  due hreceived := by
    replace hreceived : received = true := hreceived
    rw [hreceived]
    exact ⟨[], [], ⟨rfl, List.not_mem_nil, List.not_mem_nil⟩, Slots.get_none _⟩
  empty _ := Slots.get_none _

/-- A tick at which a SYNC takes effect commits the last frame between the SYNC before it and this
one. -/
theorem Holds.commit (h : b.Holds history) (hreceived : b.received = true) : ∃ before after,
    Pending history before after ∧ (b.tick true).1 = lastSince .sync before := by
  obtain ⟨before, after, hpending, hdue⟩ := h.due hreceived
  refine ⟨before, after, hpending, ?_⟩
  rw [← hdue]
  unfold Buffer.tick
  rw [hreceived]
  rfl

/-- Once no SYNC waits, all frames that are left wait for the next one. -/
theorem Holds.waiting (h : b.Holds history) (hnone : b.received = false) {r : Rpdo}
    (hs : r.synchronous = true) : Rpdo.waiting { r with slots := b.slots } b.toggle =
      (lastSince .sync history).toList := by
  unfold Rpdo.waiting
  rw [if_pos hs, ← h.writing]
  dsimp only
  rw [h.empty hnone]
  rfl

/-- A SYNC makes the frames due that wait for it. -/
theorem Holds.sync (h : b.Holds history) (hnone : b.received = false) :
    b.sync.Holds (history ++ [.sync]) where
  writing := by
    rw [lastSince_stop]
    exact h.empty hnone
  due _ := by
    refine ⟨history, [], ⟨rfl, List.not_mem_nil, List.not_mem_nil⟩, ?_⟩
    show b.slots.get (.forWriting true !!b.toggle) = _
    rw [Bool.not_not, h.writing]
  empty hreceived := by cases hreceived

theorem Holds.tick (h : b.Holds history) : (b.tick true).2.Holds (history ++ [.tick]) := by
  have hkept : lastSince .sync (history ++ [.tick]) = lastSince .sync history :=
    lastSince_concat (by simp) rfl history
  unfold Buffer.tick
  cases hreceived : b.received with
  | false =>
      refine ⟨hkept ▸ h.writing, fun htrue => ?_, fun _ => h.empty hreceived⟩
      rw [show b.received = true from htrue] at hreceived
      cases hreceived
  | true =>
      refine ⟨?_, nofun, fun _ => ?_⟩
      · rw [hkept, ← h.writing]
        exact (Slots.get_set _ _ _ _).trans (if_neg (forCommit_ne_forWriting _).symm)
      · exact (Slots.get_set _ _ _ _).trans (if_pos rfl)

/-- No event but a second SYNC before the tick confuses the slots. -/
theorem Steps.holds (hstep : b.Steps true events payload b') (h : b.Holds history)
    (hone : OneSyncPerTick (history ++ events)) : b'.Holds (history ++ events) := by
  cases hstep with
  | pass =>
      rw [List.append_nil]
      exact h
  | accept p => exact h.accept p
  | sync =>
      cases hreceived : b.received with
      | false => exact h.sync hreceived
      | true =>
          obtain ⟨before, after, hpending, _⟩ := h.due hreceived
          exact absurd hone hpending.not_oneSyncPerTick
  | tick => exact h.tick
  | produce hnone =>
      have hproduced := (h.sync hnone).tick
      rw [List.append_assoc] at hproduced
      exact hproduced

/-- An asynchronous PDO uses one slot, whatever the SYNC does. -/
theorem Steps.first (hstep : b.Steps false events payload b')
    (h : b.slots.first = lastSince .tick history) :
    b'.slots.first = lastSince .tick (history ++ events) := by
  cases hstep with
  | pass => rw [List.append_nil, h]
  | accept p =>
      rw [lastSince_frame (by simp)]
      rfl
  | sync =>
      rw [lastSince_concat (by simp) rfl, ← h]
      rfl
  | tick =>
      rw [lastSince_stop]
      rfl
  | produce _ =>
      rw [List.append_cons, lastSince_stop]
      rfl

/-- What a tick commits of a synchronous PDO, told from the history up to its end. -/
theorem Steps.committed {produced : Bool}
    (hstep : b.Steps true (if produced then [.sync, .tick] else [.tick]) payload b')
    (h : b.Holds history) :
    (b.received = true ∨ produced = true → ∃ before after,
        history ++ (if produced then [.sync, .tick] else [.tick]) =
          before ++ .sync :: after ++ [.tick] ∧
        CycleEvent.sync ∉ after ∧ CycleEvent.tick ∉ after ∧ payload = lastSince .sync before) ∧
      (¬ (b.received = true ∨ produced = true) → payload = none) ∧ b'.received = false := by
  cases produced with
  | false =>
      rw [if_neg Bool.false_ne_true] at hstep ⊢
      cases hstep with
      | tick =>
          refine ⟨fun hsync => ?_, fun hnone => ?_, (b.tick_snd true).2⟩
          · obtain ⟨before, after, hpending, hcommit⟩ :=
              h.commit (hsync.resolve_right Bool.false_ne_true)
            exact ⟨before, after, by rw [hpending.eq], hpending.sync, hpending.tick, hcommit⟩
          · have hreceived : b.received = false := Bool.not_eq_true _ ▸ fun h => hnone (.inl h)
            unfold Buffer.tick
            rw [hreceived]
            rfl
  | true =>
      rw [if_pos rfl] at hstep ⊢
      cases hstep with
      | produce hnone =>
          refine ⟨fun _ => ?_, fun hnone => absurd (.inr rfl) hnone, (b.sync.tick_snd true).2⟩
          obtain ⟨before, after, hpending, hcommit⟩ := (h.sync hnone).commit rfl
          refine ⟨before, after, ?_, hpending.sync, hpending.tick, hcommit⟩
          rw [← hpending.eq, List.append_assoc]
          rfl

theorem Steps.committed_first {produced : Bool}
    (hstep : b.Steps false (if produced then [.sync, .tick] else [.tick]) payload b') :
    payload = b.slots.first := by
  cases produced with
  | false =>
      rw [if_neg Bool.false_ne_true] at hstep
      cases hstep with
      | tick => rfl
  | true =>
      rw [if_pos rfl] at hstep
      cases hstep with
      | produce _ => rfl

end Buffer

/-! ### The SYNC object at an event -/

namespace SyncState

/-- A tick produces a SYNC only if none was received, and flips the toggle then.  In either case its
event is a SYNC. -/
theorem advance_cases (s : SyncState) (elapsed : Micros) {nmt : NmtState}
    (hactive : nmt.syncActive = true) :
    (s.advance elapsed nmt).next.received = false ∧
      (((s.advance elapsed nmt).frame = none ∧ (s.advance elapsed nmt).next.toggle = s.toggle ∧
          ((s.advance elapsed nmt).event = .sync ↔ s.received = true)) ∨
        ((s.advance elapsed nmt).frame.isSome = true ∧ s.received = false ∧
          (s.advance elapsed nmt).next.toggle = (!s.toggle) ∧
          (s.advance elapsed nmt).event = .sync)) := by
  have hhandles := s.handles_advance elapsed nmt
  generalize s.advance elapsed nmt = tick at hhandles ⊢
  cases hhandles with
  | unused hinactive =>
      rw [hactive] at hinactive
      cases hinactive
  | received _ hreceived => exact ⟨rfl, .inl ⟨rfl, rfl, iff_of_true rfl hreceived⟩⟩
  | produced _ hnone _ => exact ⟨hnone, .inr ⟨rfl, hnone, rfl, rfl⟩⟩
  | passed _ hnone _ =>
      refine ⟨hnone, .inl ⟨rfl, rfl, iff_of_false ?_ (Bool.eq_false_iff.mp hnone)⟩⟩
      dsimp only
      split
      · nofun
      · nofun

/-- A SYNC that is accepted flips the toggle and waits for its tick; one that is refused leaves both
alone. -/
theorem receive_cases (s : SyncState) (f : Frame) (nmt : NmtState) :
    ((s.receive f nmt).1 = true ∧ (s.receive f nmt).2.received = true ∧
        (s.receive f nmt).2.toggle = !s.toggle) ∨
      ((s.receive f nmt).1 = false ∧ (s.receive f nmt).2.received = s.received ∧
        (s.receive f nmt).2.toggle = s.toggle) := by
  unfold receive
  split
  · split
    · exact .inl ⟨rfl, rfl, rfl⟩
    · exact .inr ⟨rfl, rfl, rfl⟩
  · exact .inr ⟨rfl, rfl, rfl⟩

end SyncState

/-- A receive PDO of an operational device, with nothing changed but its slots. -/
structure Device.Buffers (d : Device) (k : Nat) (r : Rpdo) (b : Buffer) : Prop where
  nmt : d.nmt = .operational
  rpdo : d.rpdos[k]? = some { r with slots := b.slots }
  toggle : d.sync.toggle = b.toggle
  received : d.sync.received = b.received

/-! ### Nodes that stay as they are -/

namespace Node

variable {σ : Type} [Transport σ] {n : Node} {e : Event σ}

/-- The event leaves the parameters alone, and brings the node into no operating state but those for
which `P` holds. -/
def Stays (P : NmtState → Prop) (n : Node) (e : Event σ) : Prop :=
  n.LeavesParameters e ∧ ∀ nmt, e = .setNmt nmt → P nmt

/-- An event that does not concern the SYNC object and the receive PDOs. -/
structure Quiet (n : Node) (e : Event σ) : Prop where
  tick : ∀ now link, e ≠ .tick now link
  frame : ∀ f, e ≠ .frame f
  sync : (n.step e).device.sync = n.device.sync
  rpdos : (n.step e).device.rpdos = n.device.rpdos
  nmt : (∃ nmt, e = .setNmt nmt ∧ (n.step e).device.nmt = nmt) ∨
    (n.step e).device.nmt = n.device.nmt

theorem LeavesParameters.cases (he : n.LeavesParameters e) :
    (∃ now link, e = .tick now link) ∨ (∃ f, e = .frame f) ∨ n.Quiet e := by
  have hobjects : ∀ objects, (n.step e).device = { n.device with dictionary := objects } →
      (n.step e).device.sync = n.device.sync ∧ (n.step e).device.rpdos = n.device.rpdos ∧
        (n.step e).device.nmt = n.device.nmt := by
    intro objects hstep
    rw [hstep]
    exact ⟨rfl, rfl, rfl⟩
  cases e with
  | tick now link => exact .inl ⟨now, link, rfl⟩
  | frame f => exact .inr (.inl ⟨f, rfl⟩)
  | write id data =>
      rcases n.device.write_cases id data with ⟨objects, hwrite⟩ | ⟨p, hp, _⟩
      · obtain ⟨hsync, hrpdos, hnmt⟩ := hobjects objects hwrite
        exact .inr (.inr ⟨nofun, nofun, hsync, hrpdos, .inr hnmt⟩)
      · exact absurd hp (he p)
  | writeLeading id data =>
      rcases n.device.writeLeading_cases id data with ⟨objects, hwrite⟩ | ⟨p, _, _, hp, _⟩
      · obtain ⟨hsync, hrpdos, hnmt⟩ := hobjects objects hwrite
        exact .inr (.inr ⟨nofun, nofun, hsync, hrpdos, .inr hnmt⟩)
      · exact absurd hp (he p)
  | store index i v =>
      obtain ⟨objects, hstore⟩ := n.device.exists_store_eq index i v
      obtain ⟨hsync, hrpdos, hnmt⟩ := hobjects objects hstore
      exact .inr (.inr ⟨nofun, nofun, hsync, hrpdos, .inr hnmt⟩)
  | requestSend _ => exact .inr (.inr ⟨nofun, nofun, rfl, rfl, .inr rfl⟩)
  | setNmt nmt => exact .inr (.inr ⟨nofun, nofun, rfl, rfl, .inl ⟨nmt, rfl, rfl⟩⟩)
  | _ => exact absurd trivial he

theorem Stays.nmt {P : NmtState → Prop} (he : n.Stays P e) (h : P n.device.nmt) :
    P (n.step e).device.nmt := by
  rcases he.1.cases with ⟨now, link, rfl⟩ | ⟨f, rfl⟩ | hquiet
  · exact h
  · show P (n.device.receive f).2.nmt
    rw [(n.device.receive_received f).nmt]
    exact h
  · rcases hquiet.nmt with ⟨nmt, hevent, hnmt⟩ | hnmt
    · rw [hnmt]
      exact he.2 nmt hevent
    · rw [hnmt]
      exact h

/-! ### A receive PDO in operation -/

/-- What happens to a receive PDO at an event, in order.  A produced SYNC comes before the commits of
its tick. -/
def cycleEvents (k : Nat) (n : Node) : Event σ → List CycleEvent
  | .tick now link => if (n.produced (.tick now link)).isSome then [.sync, .tick] else [.tick]
  | .frame f => if (n.receive f).1 = .sync true then [.sync]
      else (n.acceptedBy k (.frame (σ := σ) f)).map .frame
  | _ => []

/-- What has happened to a receive PDO in a run.  A SYNC that waits for its tick at the start comes
first. -/
def history (k : Nat) (n : Node) (es : List (Event σ)) : List CycleEvent :=
  (if n.device.sync.received then [.sync] else []) ++ n.trace (cycleEvents k) es

variable {k : Nat} {r : Rpdo} {b : Buffer}

theorem buffers_frame (h : n.device.Buffers k r b) (f : Frame) :
    ∃ b', (n.receive f).2.device.Buffers k r b' ∧
      b.Steps r.synchronous (n.cycleEvents k (.frame (σ := σ) f)) none b' := by
  have hf := n.device.receive_received f
  unfold cycleEvents acceptedBy
  show ∃ b', (n.device.receive f).2.Buffers k r b' ∧ b.Steps r.synchronous
    (if (n.device.receive f).1 = .sync true then [.sync]
      else (if (n.device.receive f).1 = .rpdo k true then [f.data] else []).map .frame) none b'
  generalize (n.device.receive f).1 = reception at hf ⊢
  generalize (n.device.receive f).2 = d' at hf ⊢
  cases hf with
  | sync _ =>
      rcases n.device.sync.receive_cases f n.device.nmt with
        ⟨haccepted, hreceived, htoggle⟩ | ⟨hrefused, hreceived, htoggle⟩
      · rw [haccepted, if_pos rfl]
        exact ⟨b.sync, ⟨h.nmt, h.rpdo, htoggle.trans (congrArg _ h.toggle), hreceived⟩, .sync⟩
      · rw [hrefused]
        exact ⟨b, ⟨h.nmt, h.rpdo, htoggle.trans h.toggle, hreceived.trans h.received⟩, .pass⟩
  | @accepted i r₀ _ hr₀ _ _ =>
      rw [if_neg nofun]
      by_cases hi : i = k
      · subst hi
        have hlt := (List.getElem?_eq_some_iff.mp hr₀).1
        obtain rfl := Option.some.inj (hr₀.symm.trans h.rpdo)
        rw [if_pos rfl]
        refine ⟨b.accept r.synchronous f.data, ⟨h.nmt, ?_, h.toggle, h.received⟩, .accept f.data⟩
        show (n.device.rpdos.set i _)[i]? = _
        rw [List.getElem?_set_self hlt, h.toggle]
        rfl
      · rw [if_neg fun heq => hi (Reception.rpdo.inj heq).1]
        exact ⟨b, ⟨h.nmt, (List.getElem?_set_ne hi).trans h.rpdo, h.toggle, h.received⟩, .pass⟩
  | dropped _ _ _ _ =>
      rw [if_neg nofun, if_neg fun heq => Bool.noConfusion (Reception.rpdo.inj heq).2]
      exact ⟨b, h, .pass⟩
  | unclaimed _ => exact ⟨b, h, .pass⟩

theorem buffers_tick (h : n.device.Buffers k r b) (hv : r.valid = true) (now : UInt64) (link : σ) :
    ∃ commit b', (n.tick now link).2.1.device.Buffers k r b' ∧
      n.committedBy k (.tick now link) = commit.toList ∧
      b.Steps r.synchronous (n.cycleEvents k (.tick now link)) commit b' ∧
      ((n.tick now link).1.event = .sync ↔
        b.received = true ∨ (n.produced (.tick now link)).isSome = true) := by
  have hcommits := n.device.tick_commits (Micros.elapsed n.lastTick now) link
  have hrpdos := n.device.tick_rpdos (Micros.elapsed n.lastTick now) link
  have hproduced := n.produced_tick now link
  have hactive : n.device.nmt.syncActive = true := by
    rw [h.nmt]
    rfl
  -- the tick acts as on a buffer to which the SYNC that it produces has come
  have key : ∀ b₁ : Buffer, b₁.slots = b.slots →
      (n.device.syncTick (Micros.elapsed n.lastTick now)).next.toggle = b₁.toggle →
      n.device.syncOccurs (Micros.elapsed n.lastTick now) = b₁.received →
      (n.tick now link).2.1.device.Buffers k r (b₁.tick r.synchronous).2 ∧
        n.committedBy k (.tick now link) = (b₁.tick r.synchronous).1.toList := by
    intro b₁ hslots htoggle hoccurs
    have htake := Buffer.take_eq hv b₁
    rw [hslots] at htake
    obtain ⟨hkept, hnone⟩ := b₁.tick_snd r.synchronous
    refine ⟨⟨h.nmt, ?_, htoggle.trans hkept.symm, ?_⟩, ?_⟩
    · show (n.device.tick (Micros.elapsed n.lastTick now) link).2.1.rpdos[k]? = _
      rw [hrpdos, List.getElem?_map, h.rpdo, Option.map_some, htoggle, hoccurs, h.nmt, htake]
    · rw [hnone]
      exact (n.device.sync.advance_cases (Micros.elapsed n.lastTick now) hactive).1
    · show ((n.device.tick (Micros.elapsed n.lastTick now) link).1.commits[k]?.join).toList = _
      rw [hcommits, List.getElem?_map, h.rpdo, Option.map_some, htoggle, hoccurs, h.nmt, htake]
      rfl
  unfold cycleEvents
  dsimp only
  rw [hproduced]
  show ∃ commit b', (n.tick now link).2.1.device.Buffers k r b' ∧ _ ∧ _ ∧
    ((n.device.syncTick (Micros.elapsed n.lastTick now)).event = .sync ↔ _)
  unfold Device.syncOccurs at key
  rcases (n.device.sync.advance_cases (Micros.elapsed n.lastTick now) hactive).2 with
    ⟨hframe, htoggle, hevent⟩ | ⟨hframe, hnone, htoggle, hevent⟩
  · rw [h.received] at hevent
    have hoccurs : ((n.device.syncTick (Micros.elapsed n.lastTick now)).event == .sync) =
        b.received := by
      rw [Bool.eq_iff_iff, beq_iff_eq]
      exact hevent
    obtain ⟨hbuffers, hcommitted⟩ := key b rfl (htoggle.trans h.toggle) hoccurs
    replace hframe : (n.device.syncTick (Micros.elapsed n.lastTick now)).frame = none := hframe
    rw [hframe]
    exact ⟨_, _, hbuffers, hcommitted, .tick, hevent.trans ⟨.inl, fun h => h.resolve_right nofun⟩⟩
  · replace hevent : (n.device.syncTick (Micros.elapsed n.lastTick now)).event = .sync := hevent
    obtain ⟨hbuffers, hcommitted⟩ := key b.sync rfl (htoggle.trans (congrArg _ h.toggle)) (by
      rw [hevent]
      rfl)
    replace hframe : (n.device.syncTick (Micros.elapsed n.lastTick now)).frame.isSome = true := hframe
    rw [if_pos hframe]
    exact ⟨_, _, hbuffers, hcommitted, .produce (h.received.symm.trans hnone),
      iff_of_true hevent (.inr hframe)⟩

/-- Every event of a node that stays in operation is one of the steps of its buffer. -/
theorem buffers_step (h : n.device.Buffers k r b) (hv : r.valid = true)
    (he : n.Stays (· = .operational) e) : ∃ commit b', (n.step e).device.Buffers k r b' ∧
      b.Steps r.synchronous (n.cycleEvents k e) commit b' := by
  have hnmt := he.nmt h.nmt
  rcases he.1.cases with ⟨now, link, rfl⟩ | ⟨f, rfl⟩ | hquiet
  · obtain ⟨commit, b', hbuffers, _, hsteps, _⟩ := buffers_tick h hv now link
    exact ⟨commit, b', hbuffers, hsteps⟩
  · obtain ⟨b', hbuffers, hsteps⟩ := buffers_frame (σ := σ) h f
    exact ⟨none, b', hbuffers, hsteps⟩
  · have hevents : n.cycleEvents k e = [] := by
      cases e with
      | tick now link => exact absurd rfl (hquiet.tick now link)
      | frame f => exact absurd rfl (hquiet.frame f)
      | _ => rfl
    rw [hevents]
    refine ⟨none, b, ⟨hnmt, ?_, ?_, ?_⟩, .pass⟩
    · rw [hquiet.rpdos]
      exact h.rpdo
    · rw [hquiet.sync]
      exact h.toggle
    · rw [hquiet.sync]
      exact h.received

variable {es : List (Event σ)}

theorem history_concat (k : Nat) (n : Node) (es : List (Event σ)) (e : Event σ) :
    n.history k (es ++ [e]) = n.history k es ++ (n.run es).cycleEvents k e := by
  unfold history
  rw [trace_append, List.append_assoc]
  exact congrArg _ (congrArg _ (List.append_nil _))

/-- The slots after a run, told from its history. -/
theorem buffers_run (hr : n.device.rpdos[k]? = some r) (hv : r.valid = true)
    (hnmt : n.device.nmt = .operational) (hempty : r.slots = .none)
    (hes : n.Along (Stays (· = .operational)) es) : ∃ b, (n.run es).device.Buffers k r b ∧
      (r.synchronous = true → CycleEvent.OneSyncPerTick (n.history k es) →
        b.Holds (n.history k es)) ∧
      (r.synchronous = false → b.slots.first = CycleEvent.lastSince .tick (n.history k es)) := by
  revert hes
  refine run_history (I := fun es m => n.Along (Stays (· = .operational)) es →
    ∃ b, m.device.Buffers k r b ∧ (r.synchronous = true →
        CycleEvent.OneSyncPerTick (n.history k es) → b.Holds (n.history k es)) ∧
      (r.synchronous = false → b.slots.first = CycleEvent.lastSince .tick (n.history k es)))
    ?_ ?_ es
  · intro _
    refine ⟨⟨n.device.sync.toggle, n.device.sync.received, .none⟩, ⟨hnmt, ?_, rfl, rfl⟩, ?_, ?_⟩
    · rw [hr, ← hempty]
    · intro _ _
      unfold history
      rw [trace, List.append_nil]
      exact Buffer.holds_none _ _
    · intro _
      unfold history
      rw [trace, List.append_nil]
      cases n.device.sync.received with
      | false => rfl
      | true => rfl
  · intro es e ih hes
    obtain ⟨hpast, he⟩ := (along_append n es [e]).mp hes
    obtain ⟨b, hbuffers, hsync, hasync⟩ := ih hpast
    obtain ⟨commit, b', hbuffers', hsteps⟩ := buffers_step hbuffers hv he.1
    rw [run_concat, history_concat]
    refine ⟨b', hbuffers', fun hs hone => ?_, fun hs => ?_⟩
    · rw [hs] at hsteps
      exact hsteps.holds (hsync hs hone.of_append) hone
    · rw [hs] at hsteps
      exact hsteps.first (hasync hs)

/-- What a receive PDO puts into the mapped objects at an event: the payloads that it commits, each with
the mapping by which it is scattered. -/
def scatteredBy (k : Nat) (n : Node) (e : Event σ) : List (MappedPdo × Payload) :=
  match n.device.rpdos[k]? with
  | some r => (n.committedBy k e).map (r.mapping, ·)
  | none => []

theorem scatteredBy_eq (hr : n.device.rpdos[k]? = some r) (e : Event σ) :
    n.scatteredBy k e = (n.committedBy k e).map (r.mapping, ·) := by
  unfold scatteredBy
  rw [hr]

/-- A tick scatters what the receive PDOs commit, in the order of their numbers. -/
theorem dictionary_tick (n : Node) (now : UInt64) (link : σ) :
    (n.tick now link).2.1.device.dictionary = n.device.dictionary.scatterAll
      ((List.range n.device.rpdos.length).flatMap fun i => n.scatteredBy i (.tick now link)) := by
  have hcommits := n.device.tick_commits (Micros.elapsed n.lastTick now) link
  have hshares := flatMap_range (l := n.device.rpdos)
    (f := fun i => n.scatteredBy i (.tick now link))
    (g := fun r => r.scattered (n.device.syncOccurs (Micros.elapsed n.lastTick now))
      (n.device.syncTick (Micros.elapsed n.lastTick now)).next.toggle n.device.nmt) <| by
    intro i r hr
    rw [scatteredBy_eq hr]
    show ((n.device.tick (Micros.elapsed n.lastTick now) link).1.commits[i]?.join).toList.map _ = _
    rw [hcommits, List.getElem?_map, hr]
    rfl
  rw [hshares]
  exact n.device.tick_objects (Micros.elapsed n.lastTick now) link

/-- **Double buffering keeps the frames of one cycle apart from those of the next.**  This is about a
receive PDO that is valid on a node that stays operational, with both slots empty at the start and
parameters that nothing changes, and about a tick after any run.

If the PDO is synchronous and each tick has seen one SYNC at most, a tick with a SYNC commits the last
frame accepted after the SYNC before it and before its own, or nothing if there was none; other ticks
commit nothing; and the last frame since the last SYNC is what waits afterwards.  If the PDO is
asynchronous, the tick commits the last frame accepted since the tick before it.

What is committed is scattered by the mapping of the PDO, and the objects after the tick are those
before it with the payloads of all receive PDOs scattered over them in the order of their numbers. -/
theorem commits_last_frame (hr : n.device.rpdos[k]? = some r) (hv : r.valid = true)
    (hnmt : n.device.nmt = .operational) (hempty : r.slots = .none)
    (hes : n.Along (Stays (· = .operational)) es) (now : UInt64) (link : σ) :
    let m := n.run es
    let seen := n.history k (es ++ [.tick now link])
    (r.synchronous = true → CycleEvent.OneSyncPerTick seen →
        ((m.tick now link).1.event = .sync → ∃ before after,
          seen = before ++ .sync :: after ++ [.tick] ∧
            CycleEvent.sync ∉ after ∧ CycleEvent.tick ∉ after ∧
            m.committedBy k (.tick now link) = (CycleEvent.lastSince .sync before).toList) ∧
          ((m.tick now link).1.event ≠ .sync → m.committedBy k (.tick now link) = []) ∧
          (m.tick now link).2.1.waiting k = (CycleEvent.lastSince .sync seen).toList) ∧
      (r.synchronous = false → m.committedBy k (.tick now link) =
        (CycleEvent.lastSince .tick (n.history k es)).toList) ∧
      m.scatteredBy k (.tick now link) = (m.committedBy k (.tick now link)).map (r.mapping, ·) ∧
      (m.tick now link).2.1.device.dictionary = m.device.dictionary.scatterAll
        ((List.range m.device.rpdos.length).flatMap fun i => m.scatteredBy i (.tick now link)) := by
  intro m seen
  obtain ⟨b, hbuffers, hsync, hasync⟩ := buffers_run hr hv hnmt hempty hes
  obtain ⟨commit, b', hbuffers', hcommitted, hsteps, hevent⟩ := buffers_tick hbuffers hv now link
  have hseen : seen = n.history k es ++ m.cycleEvents k (.tick now link) := history_concat _ _ _ _
  refine ⟨?_, ?_, scatteredBy_eq hbuffers.rpdo _, m.dictionary_tick now link⟩
  · intro hs hone
    rw [hs] at hsteps
    have hholds := hsync hs (hseen ▸ hone).of_append
    have hholds' := hsteps.holds hholds (hseen ▸ hone)
    obtain ⟨hdue, hidle, hnone⟩ := hsteps.committed hholds
    refine ⟨fun h => ?_, fun h => ?_, ?_⟩
    · obtain ⟨before, after, heq, hsyncs, hticks, hcommit⟩ := hdue (hevent.mp h)
      exact ⟨before, after, hseen.trans heq, hsyncs, hticks, hcommitted.trans (hcommit ▸ rfl)⟩
    · rw [hcommitted, hidle fun hcause => h (hevent.mpr hcause)]
      rfl
    · rw [waiting_eq hbuffers'.rpdo, hbuffers'.toggle, hseen]
      exact hholds'.waiting hnone hs
  · intro hs
    rw [hs] at hsteps
    rw [hcommitted, ← hasync hs, hsteps.committed_first]

/-! ### A node with a buffered byte and a direct one -/

/-- An operational node with two receive PDOs, each of which maps a byte: the first is committed at
every SYNC, the second at every tick. -/
def buffered : Node :=
  let byte := AppObject.var (SubInfo.u8.readWrite.mappable .rpdo) (.ofNumber .u8 0)
  let config := { DeviceConfig.initial with
    nodeId := 1
    rpdos := [⟨some 0x201, 1, [0x20000008], 0⟩, ⟨some 0x202, 254, [0x20010008], 0⟩] }
  (Node.start .unconfigured (Device.fresh 2 0
    ⟨[⟨0x2000, .application byte⟩, ⟨0x2001, .application byte⟩]⟩)).run
    ([.loadConfig config, .setNmt .operational] : List (Event Bus))

def bufferedFrame (id : UInt16) (value : UInt8) : Frame := .carrying (.std id) [value]

/-- Frames for both receive PDOs before a SYNC, and frames for both after it. -/
def bufferedRun : List (Event Bus) :=
  [.frame (bufferedFrame 0x201 0xAA), .frame (bufferedFrame 0x202 0x11), syncFrame,
    .frame (bufferedFrame 0x201 0xBB), .frame (bufferedFrame 0x202 0x22)]

theorem commits_last_frame_buffered :
    let m := buffered.run bufferedRun
    let tick : Event Bus := .tick 10 (.ofCapacity 0)
    (∃ before after,
      [.frame (bufferedFrame 0x201 0xAA).data, .sync, .frame (bufferedFrame 0x201 0xBB).data, .tick] =
        before ++ .sync :: after ++ [.tick] ∧
      CycleEvent.sync ∉ after ∧ CycleEvent.tick ∉ after ∧
      m.committedBy 0 tick = (CycleEvent.lastSince .sync before).toList) ∧
    (m.step tick).waiting 0 = [(bufferedFrame 0x201 0xBB).data] ∧
    m.committedBy 1 tick = [(bufferedFrame 0x202 0x22).data] ∧
    (m.step tick).device.dictionary.read ⟨0x2000, 0⟩ 0 1 = .ok [0xAA] ∧
    (m.step tick).device.dictionary.read ⟨0x2001, 0⟩ 0 1 = .ok [0x22] := by
  have hes : buffered.Along (Stays (· = .operational)) bufferedRun :=
    ⟨⟨nofun, nofun⟩, ⟨nofun, nofun⟩, ⟨nofun, nofun⟩, ⟨nofun, nofun⟩, ⟨nofun, nofun⟩, trivial⟩
  have hone : CycleEvent.OneSyncPerTick
      (buffered.history 0 (bufferedRun ++ [.tick 10 (.ofCapacity 0)])) := by
    intro before between after heq
    have hcount : (buffered.history 0 (bufferedRun ++ [.tick 10 (.ofCapacity 0)])).count .sync = 1 :=
      by decide
    rw [heq] at hcount
    simp only [List.count_append, List.count_cons_self] at hcount
    omega
  obtain ⟨hsync, _⟩ := commits_last_frame (n := buffered) (k := 0) rfl rfl rfl rfl hes 10
    (Bus.ofCapacity 0)
  obtain ⟨hdue, _, hwaiting⟩ := hsync rfl hone
  obtain ⟨_, hasync, _, hobjects⟩ := commits_last_frame (n := buffered) (k := 1) rfl rfl rfl rfl hes
    10 (Bus.ofCapacity 0)
  change ((buffered.run bufferedRun).step (.tick 10 (Bus.ofCapacity 0))).device.dictionary = _
    at hobjects
  refine ⟨hdue (by decide), hwaiting, hasync rfl, ?_, ?_⟩
  · rw [hobjects]
    rfl
  · rw [hobjects]
    rfl

end Node

end Canopen
