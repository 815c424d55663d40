import Canopen.Proofs.ChangeOfState
import Canopen.Proofs.SyncCounter

/-! # A full transmit queue

A tick decides what to send before it hands anything to the transport: which frames it hands over is
the same whatever the transport answers (`Tpdo.process_noticeChange`, `handed_tick`), and so is all
state but the timers of event driven PDOs (`Tpdo.settle_eq_of_frame?`).  What a transport keeps of the
frames follows from what it does with each of them (`Transport.Follows`).

A bus accepts as many frames of a tick as it has room for and refuses those behind them, since nothing
is taken from its queue meanwhile (`Fills`).  `tick_bounded` compares a tick on a bus with the same
tick on a queue without bound: the frames that are lost are the last ones, the loss is reported, and of
the state nothing but the timers of lost event driven PDOs differs. -/

namespace Canopen

/-- The frame, if the transport has refused it. -/
def Transmission.refused? : Transmission → Option Frame
  | refused f => some f
  | idle | sent _ => none

namespace TickReport

/-- What became of the SYNC message and of each transmit PDO, in order. -/
def outcomes (r : TickReport) : List Transmission := r.sync :: r.transmissions

/-- The frames of transmit PDOs that were handed to the transport, in order. -/
def pdoFrames (r : TickReport) : List Frame := r.transmissions.filterMap Transmission.frame?

/-- The frames that were handed to the transport, in order. -/
def handed (r : TickReport) : List Frame := r.outcomes.filterMap Transmission.frame?

/-- The frames that the transport has refused, in order. -/
def dropped (r : TickReport) : List Frame := r.outcomes.filterMap Transmission.refused?

theorem handed_eq (r : TickReport) : r.handed = r.sync.frame?.toList ++ r.pdoFrames := by
  unfold handed outcomes pdoFrames
  rw [List.filterMap_cons]
  cases r.sync.frame? with
  | none => rfl
  | some f => rfl

end TickReport

/-! ### What a tick hands over -/

namespace Tpdo

/-- Is the PDO to be sent at a tick? -/
def isDue (t : Tpdo) (objects : Dictionary) (sync : SyncState) (syncOccurred : Bool)
    (nmt : NmtState) : Bool :=
  ((Device.noticeChange t objects).schedule sync syncOccurred nmt).1

/-- The PDO as a tick leaves it before it looks at the transport: with its frame filled, if it is to
be sent. -/
def prepared (t : Tpdo) (objects : Dictionary) (sync : SyncState) (syncOccurred : Bool)
    (nmt : NmtState) : Tpdo :=
  let scheduled := ((Device.noticeChange t objects).schedule sync syncOccurred nmt).2
  if t.isDue objects sync syncOccurred nmt then scheduled.load objects else scheduled

/-- Hand the PDO to the transport, if it is to be sent. -/
def handOver {σ : Type} [Transport σ] (t : Tpdo) (due : Bool) (link : σ) : Transmission × σ :=
  if due then
    let (accepted, link) := t.transmit link
    (if accepted then .sent t.frame else .refused t.frame, link)
  else (.idle, link)

/-- A tick prepares the PDO, hands it over, and only then looks at the outcome. -/
theorem process_noticeChange {σ : Type} [Transport σ] (t : Tpdo) (objects : Dictionary)
    (sync : SyncState) (syncOccurred : Bool) (elapsed : Micros) (nmt : NmtState) (link : σ) :
    (Device.noticeChange t objects).process objects sync syncOccurred elapsed nmt link =
      let prepared := t.prepared objects sync syncOccurred nmt
      let handed := prepared.handOver (t.isDue objects sync syncOccurred nmt) link
      (handed.1, prepared.settle handed.1 elapsed, handed.2) := by
  unfold process prepared isDue handOver
  generalize (Device.noticeChange t objects).schedule sync syncOccurred nmt = scheduled
  obtain ⟨due, t⟩ := scheduled
  cases due with
  | false => rfl
  | true => rfl

/-- Before it looks at the transport, a tick changes nothing of the PDO but what decides about
sending, and the data of a frame that is to be sent. -/
theorem exists_prepared (t : Tpdo) (objects : Dictionary) (sync : SyncState) (syncOccurred : Bool)
    (nmt : NmtState) : ∃ counter requested, t.prepared objects sync syncOccurred nmt =
      { t with
        frame := if t.isDue objects sync syncOccurred nmt then
          { t.frame with data := t.live objects } else t.frame
        syncCounter := counter
        sendRequested := requested } := by
  obtain ⟨requested, hnotice⟩ : ∃ requested, Device.noticeChange t objects =
      { t with sendRequested := requested } := by
    unfold Device.noticeChange
    split
    · exact ⟨true, rfl⟩
    · exact ⟨t.sendRequested, rfl⟩
  obtain ⟨counter, requested', hschedule⟩ :=
    (Device.noticeChange t objects).exists_schedule sync syncOccurred nmt
  rw [hnotice] at hschedule
  unfold prepared
  rw [hnotice, hschedule]
  cases t.isDue objects sync syncOccurred nmt with
  | false => exact ⟨counter, requested', rfl⟩
  | true => exact ⟨counter, false, rfl⟩

/-- The frame that a tick hands to the transport. -/
def dueFrame? (t : Tpdo) (objects : Dictionary) (sync : SyncState) (syncOccurred : Bool)
    (nmt : NmtState) : Option Frame :=
  if t.isDue objects sync syncOccurred nmt then some { t.frame with data := t.live objects } else none

theorem frame?_handOver {σ : Type} [Transport σ] (t : Tpdo) (objects : Dictionary)
    (sync : SyncState) (syncOccurred : Bool) (nmt : NmtState) (link : σ) :
    ((t.prepared objects sync syncOccurred nmt).handOver
        (t.isDue objects sync syncOccurred nmt) link).1.frame? =
      t.dueFrame? objects sync syncOccurred nmt := by
  obtain ⟨counter, requested, hprepared⟩ := t.exists_prepared objects sync syncOccurred nmt
  rw [hprepared]
  unfold handOver dueFrame?
  cases t.isDue objects sync syncOccurred nmt with
  | false => rfl
  | true =>
      simp only [↓reduceIte]
      split
      · rfl
      · rfl

/-- The PDO with the timers of `t`, less the time of a tick. -/
def withTimersOf (t' t : Tpdo) (elapsed : Micros) : Tpdo :=
  { t' with
    inhibitTimer := t.inhibitTimer.countdown elapsed
    eventTimer := t.eventTimer.countdown elapsed }

/-- The PDO as it comes out of a tick at which its frame met one of two answers.  An event driven PDO
whose frame is refused does not restart its timers, and that is the only difference. -/
theorem settle_eq_of_frame? (t : Tpdo) {outcome outcome' : Transmission}
    (hframe : outcome.frame? = outcome'.frame?) (hkept : outcome'.refused? = none)
    (elapsed : Micros) :
    t.settle outcome elapsed =
      if outcome.refused?.isSome && t.params.transmissionType.isEventDriven
      then (t.settle outcome' elapsed).withTimersOf t elapsed else t.settle outcome' elapsed := by
  unfold settle restartTimers
  cases outcome with
  | idle =>
      cases outcome' with
      | idle => rfl
      | sent g => cases hframe
      | refused g => cases hkept
  | sent f =>
      cases outcome' with
      | idle => cases hframe
      | sent g => rfl
      | refused g => cases hkept
  | refused f =>
      cases outcome' with
      | idle => cases hframe
      | sent g =>
          cases t.params.transmissionType.isEventDriven with
          | false => rfl
          | true => rfl
      | refused g => cases hkept

end Tpdo

namespace Device

section tick
variable {σ : Type} [Transport σ]

theorem tickTpdos_frames (objects : Dictionary) (sync : SyncState) (syncOccurred : Bool)
    (elapsed : Micros) (nmt : NmtState) (ts : List Tpdo) (errors : ErrorStatus) (link : σ) :
    (tickTpdos objects sync syncOccurred elapsed nmt ts errors link).1.map Transmission.frame? =
      ts.map fun t => t.dueFrame? objects sync syncOccurred nmt := by
  induction ts generalizing errors link with
  | nil => rfl
  | cons t ts ih =>
      have hframe := t.frame?_handOver objects sync syncOccurred nmt link
      simp only [tickTpdos, Tpdo.process_noticeChange, List.map_cons, ih, hframe]

theorem tickTpdos_errors (objects : Dictionary) (sync : SyncState) (syncOccurred : Bool)
    (elapsed : Micros) (nmt : NmtState) (ts : List Tpdo) (errors : ErrorStatus) (link : σ) :
    (tickTpdos objects sync syncOccurred elapsed nmt ts errors link).2.2.1 =
      (tickTpdos objects sync syncOccurred elapsed nmt ts errors link).1.foldl ErrorStatus.notePdo
        errors := by
  induction ts generalizing errors link with
  | nil => rfl
  | cons t ts ih => exact ih _ _

variable (d : Device) (elapsed : Micros) (link : σ)

/-- The objects after the received process data of a tick have been committed. -/
def tickObjects : Dictionary :=
  (tickRpdos (d.syncOccurs elapsed) (d.syncTick elapsed).next.toggle d.nmt d.rpdos d.dictionary).2.2

/-- The frame of a transmit PDO that a tick hands to the transport. -/
def dueFrame? (t : Tpdo) : Option Frame :=
  t.dueFrame? (d.tickObjects elapsed) (d.syncTick elapsed).next (d.syncOccurs elapsed) d.nmt

/-- A tick in terms of what it decides before it looks at the transport. -/
theorem tick_eq : d.tick elapsed link =
    let sync := sendFrame (d.syncTick elapsed).frame link
    let link := if (d.syncTick elapsed).event = .windowViolated then
      Transport.clearPendingSync sync.2 else sync.2
    let pdos := tickTpdos (d.tickObjects elapsed) (d.syncTick elapsed).next (d.syncOccurs elapsed)
      elapsed d.nmt d.tpdos ((d.errors.noteSync sync.1).noteSupervision (d.syncTick elapsed)) link
    let received := tickRpdos (d.syncOccurs elapsed) (d.syncTick elapsed).next.toggle d.nmt d.rpdos
      d.dictionary
    (⟨(d.syncTick elapsed).event, sync.1, received.1, pdos.1⟩,
      { d with
        sync := (d.syncTick elapsed).next
        rpdos := received.2.1
        tpdos := pdos.2.1
        errors := pdos.2.2.1
        dictionary := received.2.2 },
      pdos.2.2.2) :=
  rfl

theorem tick_dictionary : (d.tick elapsed link).2.1.dictionary = d.tickObjects elapsed := rfl

/-- The frames that a tick hands to the transport do not depend on it. -/
theorem tick_frames : (d.tick elapsed link).1.sync.frame? = (d.syncTick elapsed).frame ∧
    (d.tick elapsed link).1.transmissions.map Transmission.frame? =
      d.tpdos.map (d.dueFrame? elapsed) :=
  ⟨frame?_sendFrame _ _, tickTpdos_frames _ _ _ _ _ _ _ _⟩

end tick

end Device

/-! ### What a transport keeps -/

/-- The outcome for a frame that the transport has answered. -/
def Transmission.answered (f : Frame) (accepted : Bool) : Transmission :=
  if accepted then .sent f else .refused f

/-- A relation between a transport, the outcomes of what is handed to it, and the transport after
that.  It holds for each frame by itself, and for one frame after another. -/
structure Transport.Follows {σ : Type} [Transport σ] (R : σ → List Transmission → σ → Prop) :
    Prop where
  nil (link : σ) : R link [] link
  idle (link : σ) : R link [.idle] link
  cons {link link' link'' : σ} {outcome : Transmission} {outcomes : List Transmission} :
    R link [outcome] link' → R link' outcomes link'' → R link (outcome :: outcomes) link''
  send (f : Frame) (link : σ) :
    R link [.answered f (Transport.send f link).1] (Transport.send f link).2
  sendSync (f : Frame) (link : σ) :
    R link [.answered f (Transport.sendSync f link).1] (Transport.sendSync f link).2
  clear {link link' : σ} {outcomes : List Transmission} :
    R link outcomes link' → R link outcomes (Transport.clearPendingSync link')

/-- A relation of this kind that is known only of what a transport does with frames. -/
structure Transport.Tracks {σ : Type} [Transport σ] (R : σ → List Transmission → σ → Prop) :
    Prop where
  nil (link : σ) : R link [] link
  idle (link : σ) : R link [.idle] link
  cons {link link' link'' : σ} {outcome : Transmission} {outcomes : List Transmission} :
    R link [outcome] link' → R link' outcomes link'' → R link (outcome :: outcomes) link''
  send (f : Frame) (link : σ) :
    R link [.answered f (Transport.send f link).1] (Transport.send f link).2
  sendSync (f : Frame) (link : σ) :
    R link [.answered f (Transport.sendSync f link).1] (Transport.sendSync f link).2

namespace Transport.Tracks

variable {σ : Type} [Transport σ] {R : σ → List Transmission → σ → Prop}

theorem sendFrame (h : Tracks R) (f : Option Frame) (link : σ) :
    R link [(Canopen.sendFrame f link).1] (Canopen.sendFrame f link).2 := by
  cases f with
  | none => exact h.idle link
  | some f => exact h.send f link

theorem handOver (h : Tracks R) (t : Tpdo) (due : Bool) (link : σ) :
    R link [(t.handOver due link).1] (t.handOver due link).2 := by
  unfold Tpdo.handOver Tpdo.transmit
  cases due with
  | false => exact h.idle link
  | true =>
      cases t.params.transmissionType.isSynchronous with
      | false => exact h.send t.frame link
      | true => exact h.sendSync t.frame link

/-- What holds for each frame holds for all transmit PDOs of a tick. -/
theorem tickTpdos (h : Tracks R) (objects : Dictionary) (sync : SyncState) (syncOccurred : Bool)
    (elapsed : Micros) (nmt : NmtState) (ts : List Tpdo) (errors : ErrorStatus) (link : σ) :
    R link (Device.tickTpdos objects sync syncOccurred elapsed nmt ts errors link).1
      (Device.tickTpdos objects sync syncOccurred elapsed nmt ts errors link).2.2.2 := by
  induction ts generalizing errors link with
  | nil => exact h.nil link
  | cons t ts ih =>
      have hfirst := h.handOver (t.prepared objects sync syncOccurred nmt)
        (t.isDue objects sync syncOccurred nmt) link
      simp only [Device.tickTpdos, Tpdo.process_noticeChange]
      exact h.cons hfirst (ih _ _)

end Transport.Tracks

namespace Transport.Follows

variable {σ : Type} [Transport σ] {R : σ → List Transmission → σ → Prop}

theorem tracks (h : Follows R) : Tracks R := ⟨h.nil, h.idle, h.cons, h.send, h.sendSync⟩

/-- What holds for each frame holds for a whole tick. -/
theorem tick (h : Follows R) (d : Device) (elapsed : Micros) (link : σ) :
    R link (d.tick elapsed link).1.outcomes (d.tick elapsed link).2.2 := by
  have hsync := h.tracks.sendFrame (d.syncTick elapsed).frame link
  rw [d.tick_eq]
  refine h.cons ?_ (h.tracks.tickTpdos _ _ _ _ _ _ _ _)
  split
  · exact h.clear hsync
  · exact hsync

end Transport.Follows

/-! ### A transport inside another one -/

/-- A transport that does with everything what the transport inside it does. -/
structure Transport.Shows {τ σ : Type} [Transport τ] [Transport σ] (inside : τ → σ) : Prop where
  send (f : Frame) (t : τ) :
    Transport.send f (inside t) = ((Transport.send f t).1, inside (Transport.send f t).2)
  sendSync (f : Frame) (t : τ) :
    Transport.sendSync f (inside t) =
      ((Transport.sendSync f t).1, inside (Transport.sendSync f t).2)
  clear (t : τ) :
    Transport.clearPendingSync (inside t) = inside (Transport.clearPendingSync t)

namespace Transport.Shows

variable {τ σ : Type} [Transport τ] [Transport σ] {inside : τ → σ}

theorem sendFrame (h : Shows inside) (f : Option Frame) (t : τ) :
    Canopen.sendFrame f (inside t) =
      ((Canopen.sendFrame f t).1, inside (Canopen.sendFrame f t).2) := by
  cases f with
  | none => rfl
  | some f =>
      unfold Canopen.sendFrame
      dsimp only
      rw [h.send]

theorem handOver (h : Shows inside) (p : Tpdo) (due : Bool) (t : τ) :
    p.handOver due (inside t) = ((p.handOver due t).1, inside (p.handOver due t).2) := by
  unfold Tpdo.handOver Tpdo.transmit
  cases due with
  | false => rfl
  | true =>
      cases p.params.transmissionType.isSynchronous with
      | false =>
          simp only [↓reduceIte, Bool.false_eq_true]
          rw [h.send]
      | true =>
          simp only [↓reduceIte]
          rw [h.sendSync]

theorem tickTpdos (h : Shows inside) (objects : Dictionary) (sync : SyncState)
    (syncOccurred : Bool) (elapsed : Micros) (nmt : NmtState) (ts : List Tpdo)
    (errors : ErrorStatus) (t : τ) :
    let outer := Device.tickTpdos objects sync syncOccurred elapsed nmt ts errors t
    Device.tickTpdos objects sync syncOccurred elapsed nmt ts errors (inside t) =
      (outer.1, outer.2.1, outer.2.2.1, inside outer.2.2.2) := by
  induction ts generalizing errors t with
  | nil => rfl
  | cons p ps ih =>
      dsimp only at ih ⊢
      simp only [Device.tickTpdos, Tpdo.process_noticeChange]
      rw [h.handOver, ih]

/-- A tick does not notice that its transport is inside another one. -/
theorem tick (h : Shows inside) (d : Device) (elapsed : Micros) (t : τ) :
    d.tick elapsed (inside t) =
      ((d.tick elapsed t).1, (d.tick elapsed t).2.1, inside (d.tick elapsed t).2.2) := by
  have hsync := h.sendFrame (d.syncTick elapsed).frame t
  simp only [Device.tick_eq]
  rw [hsync]
  by_cases hevent : (d.syncTick elapsed).event = .windowViolated
  · simp only [hevent, ↓reduceIte]
    rw [h.clear, h.tickTpdos]
  · simp only [hevent, ↓reduceIte]
    rw [h.tickTpdos]

end Transport.Shows

/-! ### Queues -/

/-- A transmit queue without bound. -/
structure OpenQueue where
  frames : List Frame
deriving DecidableEq, Repr

instance : Transport OpenQueue where
  send f q := (true, ⟨q.frames ++ [f]⟩)

theorem OpenQueue.follows : Transport.Follows fun q outcomes (q' : OpenQueue) =>
    outcomes.filterMap Transmission.refused? = [] ∧
      q'.frames = q.frames ++ outcomes.filterMap Transmission.frame? where
  nil _ := ⟨rfl, (List.append_nil _).symm⟩
  idle _ := ⟨rfl, (List.append_nil _).symm⟩
  cons := by
    rintro q q' q'' outcome outcomes ⟨hnone, hframes⟩ ⟨hnone', hframes'⟩
    refine ⟨?_, ?_⟩
    · rw [← List.singleton_append, List.filterMap_append, hnone, hnone', List.append_nil]
    · rw [hframes', hframes, List.append_assoc, ← List.filterMap_append, List.singleton_append]
  send _ _ := ⟨rfl, rfl⟩
  sendSync _ _ := ⟨rfl, rfl⟩
  clear h := h

namespace ErrorStatus

theorem isActive_noteSupervision (e : ErrorStatus) (tick : SyncTick) :
    (e.noteSupervision tick).isActive .canTxOverflow = e.isActive .canTxOverflow := by
  unfold noteSupervision
  cases tick.supervision <;> cases tick.lengthError <;>
    simp [raise, isActive_report, isActive_reset]

end ErrorStatus

/-- What becomes of frames for which a transport has a limited room: the first are accepted and the
others refused. -/
inductive Fills : Nat → List Transmission → Prop
  | nil (room : Nat) : Fills room []
  | idle {room : Nat} {outcomes : List Transmission} : Fills room outcomes →
      Fills room (.idle :: outcomes)
  | sent {room : Nat} {outcomes : List Transmission} (f : Frame) : Fills room outcomes →
      Fills (room + 1) (.sent f :: outcomes)
  | refused {outcomes : List Transmission} (f : Frame) : Fills 0 outcomes →
      Fills 0 (.refused f :: outcomes)

namespace Fills

variable {room : Nat} {outcomes : List Transmission}

theorem accepted (h : Fills room outcomes) : outcomes.filterMap Transmission.accepted? =
    (outcomes.filterMap Transmission.frame?).take room := by
  induction h with
  | nil room => simp
  | idle _ ih => exact ih
  | sent f _ ih => exact congrArg (f :: ·) ih
  | refused f _ ih => exact ih

theorem refused_eq (h : Fills room outcomes) : outcomes.filterMap Transmission.refused? =
    (outcomes.filterMap Transmission.frame?).drop room := by
  induction h with
  | nil room => simp
  | idle _ ih => exact ih
  | sent f _ ih => exact ih
  | refused f _ ih => exact congrArg (f :: ·) ih

/-- A refused frame is reported, whether it is that of a PDO or a SYNC message. -/
theorem isActive_refused (e : ErrorStatus) (f : Frame) :
    (e.notePdo (.refused f)).isActive .canTxOverflow = true ∧
      (e.noteSync (.refused f)).isActive .canTxOverflow = true := by
  have hraise : (e.raise .canTxOverflow f.id.raw).isActive .canTxOverflow = true := by
    simp only [ErrorStatus.raise, ErrorStatus.isActive_report, decide_true, Bool.true_or]
  exact ⟨hraise, hraise⟩

/-- Where there is no room, nothing clears an overflow. -/
theorem isActive_of_full (h : Fills 0 outcomes) {e : ErrorStatus}
    (he : e.isActive .canTxOverflow = true) :
    (outcomes.foldl ErrorStatus.notePdo e).isActive .canTxOverflow = true := by
  generalize hroom : 0 = room at h
  induction h generalizing e with
  | nil _ => exact he
  | idle _ ih => exact ih he hroom
  | sent _ _ _ => cases hroom
  | refused f _ ih => exact ih (isActive_refused e f).1 hroom

/-- The overflow is active after the frames of transmit PDOs if the last of them was refused, and
inactive if it was accepted. -/
theorem isActive_notePdo (h : Fills room outcomes) (e : ErrorStatus) :
    (outcomes.foldl ErrorStatus.notePdo e).isActive .canTxOverflow =
      if outcomes.filterMap Transmission.refused? ≠ [] then true
      else if outcomes.filterMap Transmission.frame? ≠ [] then false
      else e.isActive .canTxOverflow := by
  induction h generalizing e with
  | nil room => rfl
  | idle _ ih => exact ih e
  | @sent room outcomes f _ ih =>
      have hreset : (e.notePdo (.sent f)).isActive .canTxOverflow = false := by
        simp only [ErrorStatus.notePdo, ErrorStatus.isActive_reset, decide_true, Bool.not_true,
          Bool.false_and]
      rw [List.foldl_cons, ih, hreset, ite_self]
      rfl
  | refused f h _ =>
      have hactive := h.isActive_of_full (isActive_refused e f).1
      exact hactive.trans (if_pos (List.cons_ne_nil _ _)).symm

/-- A SYNC message reports the overflow but does not clear it. -/
theorem isActive_tick {sync : Transmission} (h : Fills room (sync :: outcomes)) (e : ErrorStatus)
    (tick : SyncTick) :
    (outcomes.foldl ErrorStatus.notePdo ((e.noteSync sync).noteSupervision tick)).isActive
        .canTxOverflow =
      if (sync :: outcomes).filterMap Transmission.refused? ≠ [] then true
      else if outcomes.filterMap Transmission.frame? ≠ [] then false
      else e.isActive .canTxOverflow := by
  cases h with
  | idle h =>
      rw [h.isActive_notePdo, ErrorStatus.isActive_noteSupervision]
      rfl
  | sent f h =>
      rw [h.isActive_notePdo, ErrorStatus.isActive_noteSupervision]
      rfl
  | refused f h =>
      have hraise : ((e.noteSync (.refused f)).noteSupervision tick).isActive .canTxOverflow =
          true := by
        rw [ErrorStatus.isActive_noteSupervision]
        exact (isActive_refused e f).2
      exact (h.isActive_of_full hraise).trans (if_pos (List.cons_ne_nil _ _)).symm

end Fills

namespace Bus

/-- The number of frames that the queue has room for. -/
def room (b : Bus) : Nat := b.capacity - b.queue.length

/-- The queue after some frames have been handed over. -/
structure Takes (b : Bus) (outcomes : List Transmission) (b' : Bus) : Prop where
  fills : Fills b.room outcomes
  queue : b'.queue = b.queue ++ outcomes.filterMap Transmission.accepted?
  capacity : b'.capacity = b.capacity

theorem Takes.room_eq {b b' : Bus} {outcomes : List Transmission} (h : b.Takes outcomes b') :
    b'.room = b.room - (outcomes.filterMap Transmission.accepted?).length := by
  unfold room
  rw [h.capacity, h.queue, List.length_append]
  omega

theorem Takes.cons {b b' b'' : Bus} {outcome : Transmission} {outcomes : List Transmission}
    (h : b.Takes [outcome] b') (h' : b'.Takes outcomes b'') : b.Takes (outcome :: outcomes) b'' where
  fills := by
    have hroom := h.room_eq
    have hfills := h'.fills
    rw [hroom] at hfills
    obtain ⟨first, _, _⟩ := h
    generalize b.room = room at first hfills ⊢
    cases first with
    | idle _ => exact .idle hfills
    | sent f _ => exact .sent f hfills
    | refused f _ => exact .refused f hfills
  queue := by
    rw [h'.queue, h.queue, List.append_assoc]
    exact congrArg _ (List.filterMap_append (l := [outcome])).symm
  capacity := h'.capacity.trans h.capacity

/-- Nothing but the queue and its bound decides about further frames. -/
theorem Takes.congr {b b' b'' : Bus} {outcomes : List Transmission} (h : b.Takes outcomes b')
    (hqueue : b''.queue = b'.queue) (hcapacity : b''.capacity = b'.capacity) :
    b.Takes outcomes b'' :=
  ⟨h.fills, hqueue.trans h.queue, hcapacity.trans h.capacity⟩

theorem takes_offer (b : Bus) (f : Frame) :
    b.Takes [.answered f (b.offer f).1] (b.offer f).2 := by
  unfold offer
  by_cases hfree : b.queue.length < b.capacity
  · obtain ⟨room, hroom⟩ : ∃ room, b.room = room + 1 := Nat.exists_eq_succ_of_ne_zero (by
      unfold Bus.room
      omega)
    rw [if_pos hfree]
    refine ⟨?_, rfl, rfl⟩
    rw [hroom]
    exact .sent f (.nil _)
  · have hroom : b.room = 0 := by
      unfold room
      omega
    rw [if_neg hfree]
    refine ⟨?_, (List.append_nil _).symm, rfl⟩
    rw [hroom]
    exact .refused f (.nil _)

/-- Synchronous PDOs are queued like other frames, and counted besides. -/
theorem takes_offerSync (b : Bus) (f : Frame) :
    b.Takes [.answered f (b.offerSync f).1] (b.offerSync f).2 := by
  have hcount : (b.offerSync f).2.queue = (b.offer f).2.queue ∧
      (b.offerSync f).2.capacity = (b.offer f).2.capacity := by
    unfold offerSync
    dsimp only
    split
    · exact ⟨rfl, rfl⟩
    · exact ⟨rfl, rfl⟩
  exact (b.takes_offer f).congr hcount.1 hcount.2

theorem follows : Transport.Follows Takes where
  nil _ := ⟨.nil _, (List.append_nil _).symm, rfl⟩
  idle _ := ⟨.idle (.nil _), (List.append_nil _).symm, rfl⟩
  cons := Takes.cons
  send f b := b.takes_offer f
  sendSync f b := b.takes_offerSync f
  clear h := h.congr rfl rfl

end Bus

/-! ### A tick on a full queue -/

namespace Device

variable {σ : Type} [Transport σ] {d : Device} {k : Nat} {t : Tpdo}

theorem tick_settled (h : d.tpdos[k]? = some t) (elapsed : Micros) (link : σ) : ∃ outcome,
    (d.tick elapsed link).1.transmissions[k]? = some outcome ∧
      outcome.frame? = d.dueFrame? elapsed t ∧
      (d.tick elapsed link).2.1.tpdos[k]? = some ((t.prepared (d.tickObjects elapsed)
        (d.syncTick elapsed).next (d.syncOccurs elapsed) d.nmt).settle outcome elapsed) := by
  obtain ⟨link', houtcome, htpdo⟩ := d.tick_tpdos elapsed link k
  rw [h, Option.map_some, tick_dictionary, Tpdo.process_noticeChange] at houtcome htpdo
  exact ⟨_, houtcome, t.frame?_handOver _ _ _ _ link', htpdo⟩

theorem tick_errors (elapsed : Micros) (link : σ) : (d.tick elapsed link).2.1.errors =
    (d.tick elapsed link).1.transmissions.foldl ErrorStatus.notePdo
      ((d.errors.noteSync (d.tick elapsed link).1.sync).noteSupervision (d.syncTick elapsed)) :=
  tickTpdos_errors _ _ _ _ _ _ _ _

theorem pdoFrames_tick (elapsed : Micros) (link : σ) :
    (d.tick elapsed link).1.pdoFrames = d.tpdos.filterMap (d.dueFrame? elapsed) := by
  have hframes := congrArg (List.filterMap id) (d.tick_frames elapsed link).2
  rw [List.filterMap_map, List.filterMap_map] at hframes
  exact hframes

theorem handed_tick (elapsed : Micros) (link : σ) : (d.tick elapsed link).1.handed =
    (d.syncTick elapsed).frame.toList ++ d.tpdos.filterMap (d.dueFrame? elapsed) := by
  rw [TickReport.handed_eq, (d.tick_frames elapsed link).1, pdoFrames_tick]

/-- Of a transmit PDO, a bounded queue changes at most that timers are not restarted. -/
theorem tick_tpdo_bounded (h : d.tpdos[k]? = some t) (elapsed : Micros) (b : Bus) (q : OpenQueue) :
    ∃ t', (d.tick elapsed q).2.1.tpdos[k]? = some t' ∧
      (d.tick elapsed b).2.1.tpdos[k]? = some
        (if ((d.tick elapsed b).1.transmissions[k]?.bind Transmission.refused?).isSome &&
            t.params.transmissionType.isEventDriven
          then t'.withTimersOf t elapsed else t') := by
  obtain ⟨outcome, houtcome, hframe, htpdo⟩ := tick_settled h elapsed b
  obtain ⟨outcome', houtcome', hframe', htpdo'⟩ := tick_settled h elapsed q
  have hkept : outcome'.refused? = none := by
    have hnone : (d.tick elapsed q).1.dropped = [] := (OpenQueue.follows.tick d elapsed q).1
    have hmem : outcome' ∈ (d.tick elapsed q).1.outcomes :=
      List.mem_cons_of_mem _ (List.mem_of_getElem? houtcome')
    exact List.filterMap_eq_nil_iff.mp hnone outcome' hmem
  obtain ⟨counter, requested, hprepared⟩ := t.exists_prepared (d.tickObjects elapsed)
    (d.syncTick elapsed).next (d.syncOccurs elapsed) d.nmt
  refine ⟨_, htpdo', ?_⟩
  rw [htpdo, houtcome, Tpdo.settle_eq_of_frame? _ (hframe.trans hframe'.symm) hkept, hprepared]
  rfl

end Device

namespace Node

/-- **A full transmit queue loses the last frames of a tick and nothing else, and the loss is
reported.**  The tick is compared with the same tick on a queue without bound, at which it sends
`frames`.  As many of them as there is room for are queued, and the others are dropped; an overflow is
active if one was dropped, inactive if none was and a transmit PDO was sent, and as before otherwise.
The node is the same but for the errors and for the timers of dropped event driven PDOs, which are
not restarted. -/
theorem tick_bounded (n : Node) (now : UInt64) (b : Bus) :
    let free := n.tick now (OpenQueue.mk [])
    let full := n.tick now b
    let frames := free.2.2.frames
    let room := b.capacity - b.queue.length
    (frames = free.1.sync.frame?.toList ++ free.1.pdoFrames ∧ full.1.handed = frames) ∧
    (full.2.2.queue = b.queue ++ frames.take room ∧ full.1.dropped = frames.drop room ∧
      full.2.2.capacity = b.capacity) ∧
    full.2.1.device.errors.isActive .canTxOverflow =
      (if full.1.dropped ≠ [] then true
      else if free.1.pdoFrames ≠ [] then false
      else n.device.errors.isActive .canTxOverflow) ∧
    (full.1.event = free.1.event ∧ full.1.commits = free.1.commits ∧
      full.2.1 = { free.2.1 with device := { free.2.1.device with
        errors := full.2.1.device.errors
        tpdos := full.2.1.device.tpdos } }) ∧
    full.2.1.device.tpdos.length = free.2.1.device.tpdos.length ∧
      ∀ (k : Nat) (t : Tpdo), n.device.tpdos[k]? = some t →
        ∃ t', free.2.1.device.tpdos[k]? = some t' ∧ full.2.1.device.tpdos[k]? = some
          (if (full.1.transmissions[k]?.bind Transmission.refused?).isSome &&
              t.params.transmissionType.isEventDriven
            then t'.withTimersOf t (Micros.elapsed n.lastTick now) else t') := by
  intro free full frames room
  have hfree : free.1.dropped = [] ∧ frames = [] ++ free.1.handed :=
    OpenQueue.follows.tick n.device (Micros.elapsed n.lastTick now) ⟨[]⟩
  have hfull : b.Takes full.1.outcomes full.2.2 :=
    Bus.follows.tick n.device (Micros.elapsed n.lastTick now) b
  have hhanded : full.1.handed = frames := by
    have hopen : free.1.handed = full.1.handed :=
      (Device.handed_tick _ _).trans (Device.handed_tick _ _).symm
    rw [hfree.2, List.nil_append, hopen]
  have hpdoFrames : full.1.pdoFrames = free.1.pdoFrames :=
    (Device.pdoFrames_tick _ _).trans (Device.pdoFrames_tick _ _).symm
  have herrors := hfull.fills.isActive_tick n.device.errors
    (n.device.syncTick (Micros.elapsed n.lastTick now))
  have hlength := (n.device.length_tick (Micros.elapsed n.lastTick now) b).2.trans
    (n.device.length_tick (Micros.elapsed n.lastTick now) (OpenQueue.mk [])).2.symm
  refine ⟨⟨?_, hhanded⟩, ⟨?_, ?_, hfull.capacity⟩, ?_, ⟨rfl, rfl, rfl⟩, hlength, ?_⟩
  · rw [hfree.2, List.nil_append, TickReport.handed_eq]
  · rw [hfull.queue, hfull.fills.accepted, ← hhanded]
    rfl
  · rw [← hhanded]
    exact hfull.fills.refused_eq
  · rw [← hpdoFrames]
    have hactive := congrArg (·.isActive .canTxOverflow)
      (n.device.tick_errors (Micros.elapsed n.lastTick now) b)
    exact hactive.trans herrors
  · intro k t ht
    exact Device.tick_tpdo_bounded ht _ b ⟨[]⟩

end Node

end Canopen
