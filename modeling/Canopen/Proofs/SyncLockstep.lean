import Canopen.Proofs.DoubleBuffering
import Canopen.Proofs.ValueTransport

/-! # Producer and consumer of the SYNC

A producer counts and flips its toggle when it produces a SYNC, a consumer when it receives one.  The
messages that are produced arrive in order, each of them, but at any time: both nodes run ticks and
meet other events in between (`SyncPair`).

The toggle of either node says whether the number of its SYNCs is odd, and a message carries all of
the counter, so what the consumer knows after the m-th message is what the producer knew when it had
produced it (`lockstep`). -/

namespace Canopen

/-- Is the number odd?  The toggle is this of the number of SYNCs since the reset. -/
def isOdd (m : Nat) : Bool := m % 2 == 1

theorem isOdd_succ (m : Nat) : isOdd (m + 1) = !isOdd m := by
  unfold isOdd
  rcases Nat.mod_two_eq_zero_or_one m with h | h
  · rw [Nat.add_mod, h]
    rfl
  · rw [Nat.add_mod, h]
    rfl

/-! ### Steps of the SYNC object -/

namespace SyncState

theorem SameParameters.cobId {s s' : SyncState} (h : s.SameParameters s') : s'.cobId = s.cobId := by
  unfold SyncState.cobId
  rw [h.cobIdWord]

/-- A node that is no producer only consumes: its ticks change nothing that a SYNC decides about. -/
theorem advance_consumer {s : SyncState} (h : s.producer = false) (elapsed : Micros)
    (nmt : NmtState) : (s.advance elapsed nmt).frame = none ∧
      (s.advance elapsed nmt).next.producer = false ∧
      (s.advance elapsed nmt).next.receiveError = 0 := by
  have hhandles := s.handles_advance elapsed nmt
  generalize s.advance elapsed nmt = tick at hhandles ⊢
  cases hhandles with
  | unused _ => exact ⟨rfl, h, rfl⟩
  | received _ _ => exact ⟨rfl, h, rfl⟩
  | produced _ _ hdue =>
      unfold isDue wait at hdue
      rw [h] at hdue
      cases hdue
  | passed _ _ _ => exact ⟨rfl, h, rfl⟩

theorem receive_toFrame {s : SyncState} {nmt : NmtState} (hactive : nmt.syncActive = true)
    (counter : UInt8) (id : CanId) :
    s.receive (SyncMessage.toFrame ⟨if s.counterOverflow = 0 then none else some counter⟩ id) nmt =
      (true, { s with
        counter := if s.counterOverflow = 0 then s.counter else counter
        received := true
        toggle := !s.toggle }) := by
  have hread := SyncMessage.ofFrame_toFrame
    ⟨if s.counterOverflow = 0 then none else some counter⟩ id s.counterOverflow (by
      by_cases h : s.counterOverflow = 0
      · simp [h]
      · simp [h])
  unfold receive
  rw [if_pos hactive, hread]
  by_cases h : s.counterOverflow = 0
  · simp [h]
  · simp [h]

end SyncState

theorem Device.sync_receive_of_ne {d : Device} {f : Frame} (h : f.id ≠ d.sync.cobId) :
    (d.receive f).2.sync = d.sync := by
  have hf := d.receive_received f
  generalize (d.receive f).1 = reception at hf
  generalize (d.receive f).2 = d' at hf ⊢
  cases hf with
  | sync hid => exact absurd hid h
  | accepted _ _ _ _ => rfl
  | dropped _ _ _ _ => rfl
  | unclaimed _ => rfl

/-! ### Two nodes -/

/-- A SYNC message, and the toggle and the counter of its producer right after it. -/
structure Production where
  frame : Frame
  toggle : Bool
  counter : UInt8

/-- A producer, a consumer, and the SYNC messages between them. -/
structure SyncPair where
  producer : Node
  consumer : Node
  /-- The messages that were produced, the oldest first. -/
  produced : List Production
  /-- What became of the messages that have arrived, the oldest first.  The others are on their
  way. -/
  arrived : List Reception
  /-- How often the toggle of the consumer has flipped. -/
  flips : Nat

/-- What happens to a producer and a consumer, with transports of their own. -/
inductive Move (σ τ : Type) where
  | producer (e : Event σ)
  | consumer (e : Event τ)
  /-- The oldest message that is on its way arrives at the consumer. -/
  | deliver

namespace SyncPair

variable {σ τ : Type} [Transport σ] [Transport τ]

/-- Two nodes that have just been reset. -/
def start (producer consumer : Node) : SyncPair :=
  ⟨producer.resetCommunication, consumer.resetCommunication, [], [], 0⟩

/-- The pair with another state of the consumer. -/
def setConsumer (s : SyncPair) (n : Node) : SyncPair :=
  { s with
    consumer := n
    flips := if n.device.sync.toggle = s.consumer.device.sync.toggle then s.flips else s.flips + 1 }

/-- What is produced at an event. -/
def productions (n : Node) (e : Event σ) : List Production :=
  (n.produced e).toList.map fun f =>
    ⟨f, (n.step e).device.sync.toggle, (n.step e).device.sync.counter⟩

/-- The pair after a move. -/
def step (s : SyncPair) : Move σ τ → SyncPair
  | .producer e =>
      { s with producer := s.producer.step e, produced := s.produced ++ productions s.producer e }
  | .consumer e => s.setConsumer (s.consumer.step e)
  | .deliver =>
      match s.produced[s.arrived.length]? with
      | none => s
      | some p =>
          { s.setConsumer (s.consumer.receive p.frame).2 with
            arrived := s.arrived ++ [(s.consumer.receive p.frame).1] }

/-- The pair after a list of moves. -/
def run : SyncPair → List (Move σ τ) → SyncPair
  | s, [] => s
  | s, move :: moves => (s.step move).run moves

/-- The moves of nodes that are left alone: no parameter is written, both nodes stay operational or
pre-operational, the producer accepts no SYNC, and the consumer meets no SYNC but those of the
producer. -/
def Allowed (s : SyncPair) : Move σ τ → Prop
  | .producer e => s.producer.Stays (·.syncActive = true) e ∧
      ∀ f, e = .frame f → (s.producer.receive f).1 ≠ .sync true
  | .consumer e => s.consumer.Stays (·.syncActive = true) e ∧
      ∀ f, e = .frame f → f.id ≠ s.consumer.device.sync.cobId
  | .deliver => True

/-- Every move is allowed in the state which it meets. -/
def Along : SyncPair → List (Move σ τ) → Prop
  | _, [] => True
  | s, move :: moves => s.Allowed move ∧ (s.step move).Along moves

end SyncPair

/-! ### The producer -/

/-- A SYNC object with the given identifier and overflow value that has seen a number of SYNCs since
its reset. -/
structure SyncState.Seen (s : SyncState) (id : CanId) (overflow : UInt8) (count : Nat) : Prop where
  cobId : s.cobId = id
  overflow : s.counterOverflow = overflow
  toggle : s.toggle = isOdd count

theorem SyncState.Seen.of_same {s s' : SyncState} {id : CanId} {overflow : UInt8}
    {count count' : Nat} (h : s.Seen id overflow count) (hparams : s.SameParameters s')
    (htoggle : s'.toggle = isOdd count') : s'.Seen id overflow count' where
  cobId := hparams.cobId.trans h.cobId
  overflow := hparams.counterOverflow.trans h.overflow
  toggle := htoggle

namespace Node

variable {σ : Type} [Transport σ] {n : Node} {id : CanId} {overflow : UInt8}
  {messages : List Production}

/-- A producer and what it has produced since its reset: each message carries the counter, and the
toggle tells odd messages from even ones. -/
structure Produces (n : Node) (id : CanId) (overflow : UInt8) (messages : List Production) :
    Prop where
  nmt : n.device.nmt.syncActive = true
  seen : n.device.sync.Seen id overflow messages.length
  messages : ∀ (i : Nat) (p : Production), messages[i]? = some p → p.toggle = isOdd (i + 1) ∧
    p.frame = SyncMessage.toFrame ⟨if overflow = 0 then none else some p.counter⟩ id

theorem Produces.of_same (h : n.Produces id overflow messages) {m : Node}
    (hnmt : m.device.nmt.syncActive = true) (hparams : n.device.sync.SameParameters m.device.sync)
    (htoggle : m.device.sync.toggle = n.device.sync.toggle) : m.Produces id overflow messages :=
  ⟨hnmt, h.seen.of_same hparams (htoggle.trans h.seen.toggle), h.messages⟩

theorem Produces.of_sync_eq (h : n.Produces id overflow messages) {m : Node}
    (hnmt : m.device.nmt.syncActive = true) (hsync : m.device.sync = n.device.sync) :
    m.Produces id overflow messages :=
  h.of_same hnmt (hsync ▸ ⟨rfl, rfl, rfl, rfl⟩) (congrArg _ hsync)

/-- One more message, which flips the toggle and carries the new counter. -/
theorem Produces.append (h : n.Produces id overflow messages) {m : Node} {p : Production}
    (hnmt : m.device.nmt.syncActive = true) (hparams : n.device.sync.SameParameters m.device.sync)
    (hflip : m.device.sync.toggle = !n.device.sync.toggle) (htoggle : p.toggle = m.device.sync.toggle)
    (hframe : p.frame =
      SyncMessage.toFrame ⟨if overflow = 0 then none else some p.counter⟩ id) :
    m.Produces id overflow (messages ++ [p]) := by
  have hodd : m.device.sync.toggle = isOdd (messages.length + 1) := by
    rw [hflip, h.seen.toggle, isOdd_succ]
  refine ⟨hnmt, ?_, ?_⟩
  · rw [List.length_append]
    exact h.seen.of_same hparams hodd
  · intro i q hq
    by_cases hi : i < messages.length
    · rw [List.getElem?_append_left hi] at hq
      exact h.messages i q hq
    · have hle : messages.length ≤ i := Nat.le_of_not_lt hi
      rw [List.getElem?_append_right hle] at hq
      obtain ⟨hlast, hq⟩ := List.getElem?_eq_some_iff.mp hq
      have hlength : i = messages.length := by
        rw [List.length_singleton] at hlast
        omega
      rw [List.getElem_singleton] at hq
      rw [← hq, hlength]
      exact ⟨htoggle.trans hodd, hframe⟩

theorem Produces.tick (h : n.Produces id overflow messages) (now : UInt64) (link : σ) :
    (n.step (.tick now link)).Produces id overflow
      (messages ++ SyncPair.productions n (.tick now link)) := by
  have hsame := n.device.sync.sameParameters_advance (Micros.elapsed n.lastTick now) n.device.nmt
  have hproduced := n.produced_tick now link
  have hcounter := n.device.sync.counter_advance (Micros.elapsed n.lastTick now) n.device.nmt
  unfold SyncPair.productions
  rw [hproduced]
  unfold Device.syncTick
  rcases (n.device.sync.advance_cases (Micros.elapsed n.lastTick now) h.nmt).2 with
    ⟨hframe, htoggle, _⟩ | ⟨hframe, _, htoggle, _⟩
  · rw [hframe, Option.toList_none, List.map_nil, List.append_nil]
    exact h.of_same h.nmt hsame htoggle
  · rcases hcounter with ⟨hnone, _⟩ | ⟨hsome, hnext⟩
    · rw [hnone] at hframe
      cases hframe
    · rw [hsome]
      refine h.append h.nmt hsame htoggle rfl ?_
      show _ = SyncMessage.toFrame ⟨if overflow = 0 then none else
        some (n.device.sync.advance (Micros.elapsed n.lastTick now) n.device.nmt).next.counter⟩ id
      rw [hnext, ← h.seen.overflow, ← h.seen.cobId]

/-- What a producer has produced grows by what it produces at each event. -/
theorem Produces.step (h : n.Produces id overflow messages) {e : Event σ}
    (he : n.Stays (·.syncActive = true) e)
    (hquiet : ∀ f, e = .frame f → (n.receive f).1 ≠ .sync true) :
    (n.step e).Produces id overflow (messages ++ SyncPair.productions n e) := by
  have hnmt := he.nmt h.nmt
  rcases he.1.cases with ⟨now, link, rfl⟩ | ⟨f, rfl⟩ | hstill
  · exact h.tick now link
  · have hrefused : (n.device.receive f).1 ≠ .sync true := hquiet f rfl
    rw [show SyncPair.productions n (.frame (σ := σ) f) = [] from rfl, List.append_nil]
    by_cases hid : f.id = n.device.sync.cobId
    · have hreceive := Device.receive_of_id_eq hid
      have hsync : (n.step (.frame (σ := σ) f)).device.sync =
          (n.device.sync.receive f n.device.nmt).2 :=
        congrArg (fun x : Reception × Device => x.2.sync) hreceive
      rw [hreceive] at hrefused
      rcases n.device.sync.receive_cases f n.device.nmt with ⟨haccepted, _⟩ | ⟨_, _, htoggle⟩
      · exact absurd (congrArg _ haccepted) hrefused
      · refine h.of_same hnmt ?_ ((congrArg _ hsync).trans htoggle)
        rw [hsync]
        exact n.device.sync.sameParameters_receive f n.device.nmt
    · exact h.of_sync_eq hnmt (Device.sync_receive_of_ne hid)
  · have hnone : SyncPair.productions n e = [] := by
      cases e with
      | tick now link => exact absurd rfl (hstill.tick now link)
      | _ => rfl
    rw [hnone, List.append_nil]
    exact h.of_sync_eq hnmt hstill.sync

/-! ### The consumer -/

/-- A consumer and the messages that have arrived since its reset. -/
structure Consumes (n : Node) (id : CanId) (overflow : UInt8) (messages : List Production) :
    Prop where
  nmt : n.device.nmt.syncActive = true
  seen : n.device.sync.Seen id overflow messages.length
  consumer : n.device.sync.producer = false
  error : n.device.sync.receiveError = 0
  counter : ∀ p, messages.getLast? = some p → overflow ≠ 0 → n.device.sync.counter = p.counter

theorem Consumes.of_sync_eq (h : n.Consumes id overflow messages) {m : Node}
    (hnmt : m.device.nmt.syncActive = true) (hsync : m.device.sync = n.device.sync) :
    m.Consumes id overflow messages where
  nmt := hnmt
  seen := hsync ▸ h.seen
  consumer := hsync ▸ h.consumer
  error := hsync ▸ h.error
  counter := hsync ▸ h.counter

theorem Consumes.tick (h : n.Consumes id overflow messages) (now : UInt64) (link : σ) :
    (n.step (.tick now link)).Consumes id overflow messages ∧
      (n.step (.tick now link)).device.sync.toggle = n.device.sync.toggle := by
  obtain ⟨hframe, hproducer, herror⟩ := SyncState.advance_consumer h.consumer
    (Micros.elapsed n.lastTick now) n.device.nmt
  have hcounter : (n.device.sync.advance (Micros.elapsed n.lastTick now)
      n.device.nmt).next.counter = n.device.sync.counter := by
    rcases n.device.sync.counter_advance (Micros.elapsed n.lastTick now) n.device.nmt with
      ⟨_, hcounter⟩ | ⟨hsome, _⟩
    · exact hcounter
    · rw [hframe] at hsome
      cases hsome
  have htoggle : (n.device.sync.advance (Micros.elapsed n.lastTick now)
      n.device.nmt).next.toggle = n.device.sync.toggle := by
    rcases (n.device.sync.advance_cases (Micros.elapsed n.lastTick now) h.nmt).2 with
      ⟨_, htoggle, _⟩ | ⟨hsome, _⟩
    · exact htoggle
    · rw [hframe] at hsome
      cases hsome
  refine ⟨⟨h.nmt, ?_, hproducer, herror, fun p hp hne => ?_⟩, htoggle⟩
  · exact h.seen.of_same (n.device.sync.sameParameters_advance _ _)
      (htoggle.trans h.seen.toggle)
  · exact hcounter.trans (h.counter p hp hne)

/-- Events between messages change nothing that a SYNC decides about. -/
theorem Consumes.step (h : n.Consumes id overflow messages) {e : Event σ}
    (he : n.Stays (·.syncActive = true) e)
    (hquiet : ∀ f, e = .frame f → f.id ≠ n.device.sync.cobId) :
    (n.step e).Consumes id overflow messages ∧
      (n.step e).device.sync.toggle = n.device.sync.toggle := by
  have hnmt := he.nmt h.nmt
  rcases he.1.cases with ⟨now, link, rfl⟩ | ⟨f, rfl⟩ | hstill
  · exact h.tick now link
  · have hsync : (n.step (.frame (σ := σ) f)).device.sync = n.device.sync :=
      Device.sync_receive_of_ne (hquiet f rfl)
    exact ⟨h.of_sync_eq hnmt hsync, congrArg _ hsync⟩
  · exact ⟨h.of_sync_eq hnmt hstill.sync, congrArg _ hstill.sync⟩

/-- A message that arrives is accepted, flips the toggle, and hands over the counter. -/
theorem Consumes.receive (h : n.Consumes id overflow messages) {p : Production}
    (hp : p.frame = SyncMessage.toFrame ⟨if overflow = 0 then none else some p.counter⟩ id) :
    (n.receive p.frame).1 = .sync true ∧
      (n.receive p.frame).2.Consumes id overflow (messages ++ [p]) ∧
      (n.receive p.frame).2.device.sync.toggle = !n.device.sync.toggle := by
  have hid : p.frame.id = n.device.sync.cobId := by
    rw [hp, h.seen.cobId]
    rfl
  have hreceive := Device.receive_of_id_eq hid
  have hsync := SyncState.receive_toFrame (s := n.device.sync) h.nmt p.counter id
  rw [h.seen.overflow, ← hp] at hsync
  rw [hsync] at hreceive
  have hreception : (n.receive p.frame).1 = .sync true := congrArg Prod.fst hreceive
  have hdevice : (n.receive p.frame).2.device = _ := congrArg Prod.snd hreceive
  refine ⟨hreception, ⟨?_, ?_, ?_, ?_, ?_⟩, ?_⟩
  · rw [hdevice]
    exact h.nmt
  · rw [hdevice, List.length_append]
    refine ⟨h.seen.cobId, rfl, ?_⟩
    show (!n.device.sync.toggle) = isOdd (messages.length + 1)
    rw [h.seen.toggle, isOdd_succ]
  · rw [hdevice]
    exact h.consumer
  · rw [hdevice]
    exact h.error
  · intro q hq hne
    rw [List.getLast?_concat] at hq
    rw [hdevice, ← Option.some.inj hq]
    exact if_neg hne
  · rw [hdevice]

end Node

/-! ### Both nodes -/

namespace SyncPair

variable {σ τ : Type} [Transport σ] [Transport τ] {s : SyncPair} {id : CanId} {overflow : UInt8}

/-- The producer has produced the messages, the consumer has accepted those of them that have
arrived, and nothing else has flipped its toggle. -/
structure Locked (s : SyncPair) (id : CanId) (overflow : UInt8) : Prop where
  producer : s.producer.Produces id overflow s.produced
  consumer : s.consumer.Consumes id overflow (s.produced.take s.arrived.length)
  count : s.arrived.length ≤ s.produced.length
  accepted : ∀ reception ∈ s.arrived, reception = .sync true
  flips : s.flips = s.arrived.length

theorem Locked.deliver (h : s.Locked id overflow) :
    (s.step (.deliver : Move σ τ)).Locked id overflow := by
  unfold SyncPair.step
  cases hp : s.produced[s.arrived.length]? with
  | none => exact h
  | some p =>
      obtain ⟨hlt, hget⟩ := List.getElem?_eq_some_iff.mp hp
      obtain ⟨_, hframe⟩ := h.producer.messages _ p hp
      obtain ⟨hreception, hconsumer, htoggle⟩ := h.consumer.receive hframe
      have hflip : (s.consumer.receive p.frame).2.device.sync.toggle ≠
          s.consumer.device.sync.toggle := by
        rw [htoggle]
        simp
      have hmessages : s.produced.take s.arrived.length ++ [p] =
          s.produced.take (s.arrived.length + 1) := by
        rw [← hget]
        exact List.take_append_getElem hlt
      have hlength : (s.arrived ++ [(s.consumer.receive p.frame).1]).length =
          s.arrived.length + 1 := List.length_append
      refine ⟨h.producer, ?_, ?_, ?_, ?_⟩
      · dsimp only [setConsumer]
        rw [hlength, ← hmessages]
        exact hconsumer
      · dsimp only [setConsumer]
        rw [hlength]
        exact hlt
      · intro reception hmem
        rcases List.mem_append.mp hmem with hmem | hmem
        · exact h.accepted reception hmem
        · rw [List.mem_singleton.mp hmem, hreception]
      · dsimp only [setConsumer]
        rw [if_neg hflip, hlength, h.flips]

theorem Locked.step (h : s.Locked id overflow) {move : Move σ τ} (hmove : s.Allowed move) :
    (s.step move).Locked id overflow := by
  cases move with
  | deliver => exact h.deliver
  | producer e =>
      have hcount := h.count
      refine ⟨h.producer.step hmove.1 hmove.2, ?_, ?_, h.accepted, h.flips⟩
      · show s.consumer.Consumes id overflow ((s.produced ++ _).take s.arrived.length)
        rw [List.take_append_of_le_length hcount]
        exact h.consumer
      · show s.arrived.length ≤ (s.produced ++ _).length
        rw [List.length_append]
        omega
  | consumer e =>
      obtain ⟨hconsumer, htoggle⟩ := h.consumer.step hmove.1 hmove.2
      refine ⟨h.producer, hconsumer, h.count, h.accepted, ?_⟩
      show (if _ then s.flips else s.flips + 1) = s.arrived.length
      rw [if_pos htoggle]
      exact h.flips

theorem Locked.run (h : s.Locked id overflow) {moves : List (Move σ τ)} (hmoves : s.Along moves) :
    (s.run moves).Locked id overflow := by
  induction moves generalizing s with
  | nil => exact h
  | cons move moves ih => exact ih (h.step hmoves.1) hmoves.2

/-- Two nodes with the same identifier and the same overflow value are locked when they have been
reset. -/
theorem locked_start {producer consumer : Node} (hp : producer.device.nmt.syncActive = true)
    (hc : consumer.device.nmt.syncActive = true)
    (hid : consumer.device.sync.cobId = producer.device.sync.cobId)
    (hoverflow : consumer.device.sync.counterOverflow = producer.device.sync.counterOverflow)
    (hconsumer : consumer.device.sync.cobIdWord.hasBit30 = false) :
    (start producer consumer).Locked producer.device.sync.cobId
      producer.device.sync.counterOverflow where
  producer := ⟨hp, ⟨rfl, rfl, rfl⟩, nofun⟩
  consumer := ⟨hc, ⟨hid, hoverflow, rfl⟩, hconsumer, rfl, nofun⟩
  count := Nat.le_refl _
  accepted := nofun
  flips := rfl

/-- **A consumer stays in lockstep with its producer.**  Both nodes have just been reset, with the
same SYNC identifier and the same overflow value, and are left alone from then on; the messages
arrive in order and without loss, but as late as it may be, and anything else may happen to the nodes
in between.  Whenever `m + 1` messages have arrived, the consumer has accepted all of them and noted no
error, its toggle has flipped once for each of them and is what the toggle of the producer was right
after it had produced the last of them, and so is the counter, if there is one. -/
theorem lockstep (producer consumer : Node) (hp : producer.device.nmt.syncActive = true)
    (hc : consumer.device.nmt.syncActive = true)
    (hid : consumer.device.sync.cobId = producer.device.sync.cobId)
    (hoverflow : consumer.device.sync.counterOverflow = producer.device.sync.counterOverflow)
    (hconsumer : consumer.device.sync.cobIdWord.hasBit30 = false) {moves : List (Move σ τ)}
    (hmoves : (start producer consumer).Along moves) :
    let s := (start producer consumer).run moves
    (∀ reception ∈ s.arrived, reception = .sync true) ∧
      s.consumer.device.sync.receiveError = 0 ∧ s.flips = s.arrived.length ∧
      ∀ m, s.arrived.length = m + 1 → ∃ p, s.produced[m]? = some p ∧
        s.consumer.device.sync.toggle = p.toggle ∧
        (producer.device.sync.counterOverflow ≠ 0 → s.consumer.device.sync.counter = p.counter) := by
  intro s
  have h := (locked_start hp hc hid hoverflow hconsumer).run hmoves
  refine ⟨h.accepted, h.consumer.error, h.flips, fun m hm => ?_⟩
  have hlt : m < s.produced.length := by
    have hcount : s.arrived.length ≤ s.produced.length := h.count
    omega
  have hget : s.produced[m]? = some s.produced[m] := List.getElem?_eq_getElem hlt
  have hlast : (s.produced.take s.arrived.length).getLast? = some s.produced[m] := by
    rw [hm, ← List.take_append_getElem hlt, List.getLast?_concat]
  have hlength : (s.produced.take s.arrived.length).length = m + 1 := by
    rw [List.length_take, hm]
    omega
  refine ⟨s.produced[m], hget, ?_, h.consumer.counter _ hlast⟩
  calc s.consumer.device.sync.toggle
      = isOdd (s.produced.take s.arrived.length).length := h.consumer.seen.toggle
    _ = isOdd (m + 1) := by rw [hlength]
    _ = s.produced[m].toggle := (h.producer.messages m _ hget).1.symm

/-! ### A message that arrives after the next one was produced -/

/-- An operational node with the given identifier word, a cycle of a millisecond, and a counter up to
ten. -/
def cyclicNode (cobIdWord : UInt32) : Node :=
  (Node.start .unconfigured (Device.fresh 0 0 ⟨[]⟩)).run
    ([.loadConfig { DeviceConfig.initial with nodeId := 1, sync := ⟨cobIdWord, 1000, 0, 10⟩ },
      .setNmt .operational] : List (Event Bus))

/-- Two messages are produced before the first arrives, and the consumer ticks at other times. -/
def lateMoves : List (Move Bus Bus) :=
  [.producer (.tick 0 (.ofCapacity 1)), .consumer (.tick 300 (.ofCapacity 0)),
    .producer (.tick 1000 (.ofCapacity 1)), .producer (.tick 2000 (.ofCapacity 1)), .deliver,
    .consumer (.tick 1300 (.ofCapacity 0)), .deliver]

theorem lockstep_lateMoves :
    let s := (start (cyclicNode 0x40000080) (cyclicNode 0x80)).run lateMoves
    (∀ reception ∈ s.arrived, reception = .sync true) ∧
      s.consumer.device.sync.receiveError = 0 ∧ s.flips = s.arrived.length ∧
      ∃ p, s.produced[1]? = some p ∧ s.consumer.device.sync.toggle = p.toggle ∧
        s.consumer.device.sync.counter = p.counter := by
  have hmoves : (start (cyclicNode 0x40000080) (cyclicNode 0x80)).Along lateMoves :=
    ⟨⟨⟨nofun, nofun⟩, nofun⟩, ⟨⟨nofun, nofun⟩, nofun⟩, ⟨⟨nofun, nofun⟩, nofun⟩,
      ⟨⟨nofun, nofun⟩, nofun⟩, trivial, ⟨⟨nofun, nofun⟩, nofun⟩, trivial, trivial⟩
  obtain ⟨haccepted, herror, hflips, hlast⟩ := lockstep (cyclicNode 0x40000080)
    (cyclicNode 0x80) rfl rfl rfl rfl rfl hmoves
  obtain ⟨p, hp, htoggle, hcounter⟩ := hlast 1 rfl
  exact ⟨haccepted, herror, hflips, p, hp, htoggle, hcounter (by decide)⟩

end SyncPair

end Canopen
