import Canopen.Proofs.Events
import Canopen.Proofs.SyncTicks

/-! # The counter of produced SYNCs

A producer with a counter overflow value `n` puts a counter into its SYNC messages, which is to go
from 1 to `n` and then from 1 again.  The counter is one more than the one before, in eight bits, and
goes back to 1 if it is above `n` then.  So it is never above `n`, but the largest byte is followed by
zero, which is above no `n`: `produced_counter` says that a produced counter is zero exactly after
the largest byte.

That byte is stored by a received SYNC that carries it, or counted up to if it is the overflow value
itself; nothing else brings it about (`counter_step`). -/

namespace Canopen

namespace SyncState

/-! ### Counting -/

theorem nextCounter_le {s : SyncState} (h : s.counterOverflow ≠ 0) :
    s.nextCounter ≤ s.counterOverflow := by
  have hpos : s.counterOverflow.toNat ≠ 0 := fun h0 => h (UInt8.toNat_inj.mp h0)
  unfold nextCounter
  dsimp only
  split
  · rw [UInt8.le_iff_toNat_le]
    show 1 ≤ s.counterOverflow.toNat
    omega
  · rename_i hle
    exact UInt8.not_lt.mp hle

theorem one_le_nextCounter_iff (s : SyncState) : 1 ≤ s.nextCounter ↔ s.counter ≠ 255 := by
  have hlt := s.counter.toNat_lt
  have hsucc : (s.counter + 1).toNat = (s.counter.toNat + 1) % 256 := UInt8.toNat_add ..
  have hne : s.counter ≠ 255 ↔ s.counter.toNat ≠ 255 := not_congr UInt8.toNat_inj.symm
  rw [hne]
  unfold nextCounter
  dsimp only
  split
  · rename_i hover
    rw [UInt8.lt_iff_toNat_lt, hsucc] at hover
    refine iff_of_true (UInt8.le_refl 1) ?_
    omega
  · rw [UInt8.le_iff_toNat_le, hsucc]
    show 1 ≤ (s.counter.toNat + 1) % 256 ↔ _
    omega

/-- The largest byte is counted up to only if it is the overflow value. -/
theorem nextCounter_ne {s : SyncState} (h : s.counterOverflow ≠ 255) : s.nextCounter ≠ 255 := by
  have hlt := s.counterOverflow.toNat_lt
  have hne : s.counterOverflow.toNat ≠ 255 := fun h255 => h (UInt8.toNat_inj.mp h255)
  unfold nextCounter
  dsimp only
  split
  · decide
  · rename_i hle
    intro heq
    rw [heq, UInt8.not_lt, UInt8.le_iff_toNat_le] at hle
    replace hle : 255 ≤ s.counterOverflow.toNat := hle
    omega

/-! ### What changes the counter -/

/-- A tick counts exactly if it produces a SYNC, and that carries the new counter. -/
theorem counter_advance (s : SyncState) (elapsed : Micros) (nmt : NmtState) :
    ((s.advance elapsed nmt).frame = none ∧ (s.advance elapsed nmt).next.counter = s.counter) ∨
      ((s.advance elapsed nmt).frame = some (SyncMessage.toFrame
          ⟨if s.counterOverflow = 0 then none else some s.nextCounter⟩ s.cobId) ∧
        (s.advance elapsed nmt).next.counter = s.nextCounter) := by
  have hhandles := s.handles_advance elapsed nmt
  generalize s.advance elapsed nmt = tick at hhandles ⊢
  cases hhandles with
  | unused _ => exact .inl ⟨rfl, rfl⟩
  | received _ _ => exact .inl ⟨rfl, rfl⟩
  | produced _ _ _ => exact .inr ⟨rfl, rfl⟩
  | passed _ _ _ => exact .inl ⟨rfl, rfl⟩

theorem counter_receive (s : SyncState) (f : Frame) (nmt : NmtState) :
    (s.receive f nmt).2.counter = s.counter ∨ f.content = [(s.receive f nmt).2.counter] := by
  unfold receive
  split
  · split
    · rename_i message hmessage
      unfold SyncMessage.ofFrame at hmessage
      split at hmessage
      · split at hmessage
        · rw [← Except.ok.inj hmessage]
          exact .inl rfl
        · cases hmessage
      · split at hmessage
        · rename_i hdlc
          rw [← Except.ok.inj hmessage]
          refine .inr ?_
          have hlength := f.data.length_eq
          have hone : f.dataLength = 1 := by
            unfold Frame.dataLength
            rw [hdlc]
            rfl
          unfold Frame.content
          rw [hone]
          cases hbytes : f.data.bytes with
          | nil =>
              rw [hbytes] at hlength
              cases hlength
          | cons b bs => rfl
        · cases hmessage
    · exact .inl rfl
  · exact .inl rfl

/-- A dictionary write keeps the counter or starts to count anew. -/
theorem counter_writeParameter {s s' : SyncState} {p : Parameter} {data : Bytes}
    (h : s.writeParameter p data = .ok s') : s'.counter = s.counter ∨ s'.counter = 0 := by
  have hid : ∀ w, s.writeCobId w = .ok s' → s'.counter = s.counter ∨ s'.counter = 0 := by
    intro w hw
    unfold writeCobId at hw
    split at hw
    · cases hw
    split at hw
    · split at hw
      · cases hw
      split at hw
      · rw [← Except.ok.inj hw]
        exact .inl rfl
      · rw [← Except.ok.inj hw]
        exact .inr rfl
    · rw [← Except.ok.inj hw]
      exact .inl rfl
  unfold writeParameter at h
  split at h
  · obtain ⟨period, _, h⟩ := exists_of_bind_eq_ok h
    rw [← Except.ok.inj h]
    unfold writePeriod
    dsimp only
    split
    · exact .inr rfl
    · exact .inl rfl
  · obtain ⟨window, _, h⟩ := exists_of_bind_eq_ok h
    rw [← Except.ok.inj h]
    exact .inl rfl
  · obtain ⟨overflow, _, h⟩ := exists_of_bind_eq_ok h
    unfold writeCounterOverflow at h
    split at h
    · rw [← Except.ok.inj h]
      exact .inl rfl
    · cases h
  · obtain ⟨w, _, h⟩ := exists_of_bind_eq_ok h
    exact hid w h

end SyncState

theorem SyncMessage.content_toFrame (m : SyncMessage) (id : CanId) :
    (m.toFrame id).content = m.counter.toList := by
  refine Frame.content_carrying id ?_
  cases m.counter with
  | none => exact Nat.zero_le _
  | some c => exact Nat.le_add_left 1 7

theorem frame?_sendFrame {σ : Type} [Transport σ] (f : Option Frame) (link : σ) :
    (sendFrame f link).1.frame? = f := by
  cases f with
  | none => rfl
  | some f =>
      unfold sendFrame
      dsimp only
      split
      · rfl
      · rfl

namespace Node

variable {σ : Type} [Transport σ]

/-- The SYNC message that is produced at an event, if there is one. -/
def produced (n : Node) : Event σ → Option Frame
  | .tick now link => (n.tick now link).1.sync.frame?
  | _ => none

/-- The event does not bring the counter to the largest byte: it is no tick under the largest overflow
value, and no SYNC message that carries that byte. -/
def CountsBelow (n : Node) : Event σ → Prop
  | .tick _ _ => n.device.sync.counterOverflow ≠ 255
  | .frame f => f.id = n.device.sync.cobId → f.content ≠ [255]
  | _ => True

theorem produced_tick (n : Node) (now : UInt64) (link : σ) :
    n.produced (.tick now link) = (n.device.syncTick (Micros.elapsed n.lastTick now)).frame :=
  frame?_sendFrame _ _

theorem counter_step {n : Node} {e : Event σ} (h : n.device.sync.counter ≠ 255)
    (he : n.CountsBelow e) : (n.step e).device.sync.counter ≠ 255 := by
  have hstep := n.sync_step e
  generalize (n.step e).device.sync = s' at hstep ⊢
  cases hstep with
  | same => exact h
  | advanced now link hevent =>
      subst hevent
      rcases n.device.sync.counter_advance (Micros.elapsed n.lastTick now) n.device.nmt with
        ⟨_, hcounter⟩ | ⟨_, hcounter⟩
      · rw [hcounter]
        exact h
      · rw [hcounter]
        exact SyncState.nextCounter_ne he
  | received f hevent hid =>
      subst hevent
      rcases n.device.sync.counter_receive f n.device.nmt with hcounter | hcontent
      · rw [hcounter]
        exact h
      · intro h255
        rw [h255] at hcontent
        exact he hid hcontent
  | written hw =>
      rcases SyncState.counter_writeParameter hw with hcounter | hcounter
      · rw [hcounter]
        exact h
      · rw [hcounter]
        decide
  | reset _ => exact (by decide : (0 : UInt8) ≠ 255)
  | configured c _ => exact (by decide : (0 : UInt8) ≠ 255)

theorem counter_run {n : Node} {es : List (Event σ)} (h : n.device.sync.counter ≠ 255)
    (hes : n.Along CountsBelow es) : (n.run es).device.sync.counter ≠ 255 :=
  along_invariant (I := fun n => n.device.sync.counter ≠ 255) (fun _ _ he h => counter_step h he) hes h

/-- **A produced SYNC carries a counter from 1 to the overflow value, unless the counter before it was
the largest byte.**  This holds at every tick after every run of a node that was started on a device
with any number of fresh PDOs and any object dictionary.  The counter is not the largest byte as long
as no event of the run could bring it there. -/
theorem produced_counter (id : NodeId) (rpdos tpdos : Nat) (dictionary : Dictionary)
    (es : List (Event σ)) {now : UInt64} {link : σ} {f : Frame}
    (h : ((Node.start id (Device.fresh rpdos tpdos dictionary)).run es).produced
      (.tick now link) = some f) :
    let start := Node.start id (Device.fresh rpdos tpdos dictionary)
    let before := (start.run es).device.sync
    let after := ((start.run es).step (.tick now link)).device.sync
    (before.counterOverflow = 0 → f.content = []) ∧
      (before.counterOverflow ≠ 0 → f.content = [after.counter] ∧
        after.counter ≤ before.counterOverflow ∧ (1 ≤ after.counter ↔ before.counter ≠ 255)) ∧
      (start.Along CountsBelow es → before.counter ≠ 255) := by
  intro start before after
  rw [produced_tick] at h
  have hafter : after = (before.advance (Micros.elapsed (start.run es).lastTick now)
      (start.run es).device.nmt).next := rfl
  rcases before.counter_advance (Micros.elapsed (start.run es).lastTick now)
    (start.run es).device.nmt with ⟨hnone, _⟩ | ⟨hsome, hcounter⟩
  · exact absurd (hnone.symm.trans h) (by simp)
  · obtain rfl := Option.some.inj (hsome.symm.trans h)
    rw [← hafter] at hcounter
    refine ⟨fun hzero => ?_, fun hne => ?_, counter_run (by decide : (0 : UInt8) ≠ 255)⟩
    · rw [if_pos hzero]
      exact SyncMessage.content_toFrame _ _
    · rw [if_neg hne, hcounter]
      exact ⟨SyncMessage.content_toFrame _ _, SyncState.nextCounter_le hne,
        before.one_le_nextCounter_iff⟩

/-! ### A producer that counts to zero -/

/-- A node without PDOs. -/
def producer : Node := Node.start .unconfigured (Device.fresh 0 0 ⟨[]⟩)

/-- A tick of the producer, with room for a frame. -/
def producerTick (now : UInt64) : Event Bus := .tick now (.ofCapacity 1)

/-- Make the node produce a SYNC every millisecond, with a counter up to ten. -/
def startProducing : List (Event Bus) :=
  [.loadConfig { DeviceConfig.initial with nodeId := 1, sync := ⟨0x40000080, 1000, 0, 10⟩ },
    .setNmt .operational, producerTick 0]

/-- A SYNC message with a counter, from another node. -/
def foreignSync (counter : UInt8) : Event Bus := .frame (.carrying (.std defaultSyncId) [counter])

theorem produced_counter_producer :
    ∃ f, (producer.run (startProducing ++ [foreignSync 10, producerTick 10])).produced
        (producerTick 1010) = some f ∧
      ∃ c, f.content = [c] ∧ 1 ≤ c ∧ c ≤ 10 := by
  have hes : producer.Along CountsBelow (startProducing ++ [foreignSync 10, producerTick 10]) :=
    ⟨trivial, trivial, (by decide : (10 : UInt8) ≠ 255), fun _ => by decide,
      (by decide : (10 : UInt8) ≠ 255), trivial⟩
  obtain ⟨f, hf⟩ : ∃ f, (producer.run (startProducing ++
      [foreignSync 10, producerTick 10])).produced (producerTick 1010) = some f :=
    Option.isSome_iff_exists.mp (by decide)
  obtain ⟨_, hcounter, hbelow⟩ := produced_counter .unconfigured 0 0 ⟨[]⟩
    (startProducing ++ [foreignSync 10, producerTick 10]) hf
  obtain ⟨hcontent, hle, hpos⟩ := hcounter (by decide)
  exact ⟨f, hf, _, hcontent, hpos.mpr (hbelow hes), hle⟩

/-- A SYNC with the largest byte from another node is followed by a produced SYNC with the counter
zero. -/
theorem producer_counts_zero :
    let n := producer.run (startProducing ++ [foreignSync 255, producerTick 10])
    n.device.sync.counterOverflow = 10 ∧
      ∃ f, n.produced (producerTick 1010) = some f ∧ f.content = [0] ∧
        ¬ ∃ c, f.content = [c] ∧ 1 ≤ c ∧ c ≤ n.device.sync.counterOverflow := by
  refine ⟨rfl, _, rfl, rfl, ?_⟩
  rintro ⟨c, hcontent, hpos, _⟩
  have hzero : (0 : UInt8) = c := (List.cons.inj hcontent).1
  rw [← hzero] at hpos
  exact absurd hpos (by decide)

end Node

end Canopen
