import Canopen.Proofs.Operations
import Canopen.Proofs.SyncTicks

/-! # The order of commits

While a receive PDO is in operation, its staged frames wait in the order in which they are due
(`Rpdo.waiting`).  Every event that concerns the PDO is one of the cases of `Rpdo.Moves`, and in each
of them the frames committed, followed by those left waiting, are among those that were waiting
before, followed by the accepted one.  The exception is a SYNC that comes while both slots of a
synchronous PDO are filled, since it makes the younger frame the one that is due: the tick has been
overrun by the SYNC.

`committed_sublist_accepted` says that frames are committed in the order of acceptance as long as no
tick is overrun, and that every overrun can be continued, without another one, so that they are
not. -/

namespace Canopen

/-! ### The SYNC toggle -/

namespace SyncState

theorem advance_toggle (s : SyncState) (elapsed : Micros) (nmt : NmtState)
    (h : (s.advance elapsed nmt).next.toggle ≠ s.toggle) : (s.advance elapsed nmt).event = .sync := by
  have hhandles := s.handles_advance elapsed nmt
  generalize s.advance elapsed nmt = tick at hhandles h ⊢
  cases hhandles with
  | unused _ => exact absurd rfl h
  | received _ _ => rfl
  | produced _ _ _ => rfl
  | passed _ _ _ => exact absurd rfl h

/-- A SYNC that was received takes effect at the next tick, which does not flip the toggle again. -/
theorem advance_of_received {s : SyncState} (h : s.received = true) (elapsed : Micros)
    {nmt : NmtState} (hactive : nmt.syncActive = true) :
    (s.advance elapsed nmt).event = .sync ∧ (s.advance elapsed nmt).next.toggle = s.toggle := by
  have hhandles := s.handles_advance elapsed nmt
  generalize s.advance elapsed nmt = tick at hhandles ⊢
  cases hhandles with
  | unused hinactive =>
      rw [hactive] at hinactive
      cases hinactive
  | received _ _ => exact ⟨rfl, rfl⟩
  | produced _ hnone _ =>
      rw [h] at hnone
      cases hnone
  | passed _ hnone _ =>
      rw [h] at hnone
      cases hnone

theorem received_of_receive_toggle {s : SyncState} {f : Frame} {nmt : NmtState}
    (h : (s.receive f nmt).2.toggle ≠ s.toggle) : (s.receive f nmt).2.received = true := by
  unfold receive at h ⊢
  split at h
  · rename_i hactive
    rw [if_pos hactive]
    split at h
    · rfl
    · exact absurd rfl h
  · exact absurd rfl h

/-- The SYNC message that a node would send is one that it accepts. -/
theorem receive_message (s : SyncState) {nmt : NmtState} (hactive : nmt.syncActive = true) :
    (s.receive s.message nmt).1 = true ∧ (s.receive s.message nmt).2.received = true ∧
      (s.receive s.message nmt).2.toggle = !s.toggle := by
  have hm : SyncMessage.ofFrame s.counterOverflow s.message =
      .ok ⟨if s.counterOverflow = 0 then none else some s.counter⟩ := by
    refine SyncMessage.ofFrame_toFrame _ _ _ ?_
    by_cases h : s.counterOverflow = 0
    · simp [h]
    · simp [h]
  unfold receive
  rw [if_pos hactive, hm]
  exact ⟨rfl, rfl, rfl⟩

end SyncState

/-! ### The frames that wait -/

namespace Rpdo

/-- The staged frames in the order in which they are due.  An asynchronous PDO uses only the first
slot. -/
def waiting (r : Rpdo) (toggle : Bool) : List Payload :=
  if r.synchronous then
    (r.slots.get (.forCommit true toggle)).toList ++ (r.slots.get (.forWriting true toggle)).toList
  else r.slots.first.toList

/-- Are both slots of a synchronous PDO filled? -/
def isFull (r : Rpdo) : Bool := r.synchronous && r.slots.first.isSome && r.slots.second.isSome

theorem isFull_of_get {r : Rpdo} {slot : Slot} (h : r.slots.get slot = none) :
    r.isFull = false := by
  have h' : (r.slots.get slot).isSome = false := by
    rw [h]
    rfl
  cases slot with
  | first =>
      unfold isFull
      rw [show r.slots.first.isSome = false from h', Bool.and_false, Bool.false_and]
  | second =>
      unfold isFull
      rw [show r.slots.second.isSome = false from h', Bool.and_false]

theorem exists_of_isFull {r : Rpdo} (h : r.isFull = true) :
    r.synchronous = true ∧ ∀ slot, ∃ p, r.slots.get slot = some p := by
  unfold isFull at h
  rw [Bool.and_eq_true, Bool.and_eq_true] at h
  obtain ⟨⟨hs, hfirst⟩, hsecond⟩ := h
  refine ⟨hs, fun slot => ?_⟩
  cases slot with
  | first => exact Option.isSome_iff_exists.mp hfirst
  | second => exact Option.isSome_iff_exists.mp hsecond

/-- A SYNC does not change the order of fewer than two frames. -/
theorem waiting_not {r : Rpdo} (h : r.isFull = false) (toggle : Bool) :
    r.waiting (!toggle) = r.waiting toggle := by
  obtain ⟨_, _, synchronous, _, _, ⟨first, second⟩⟩ := r
  cases synchronous with
  | false => rfl
  | true =>
      cases first with
      | none => cases toggle <;> simp [waiting, Slots.get, Slot.forCommit, Slot.forWriting]
      | some p =>
          cases second with
          | none => cases toggle <;> simp [waiting, Slots.get, Slot.forCommit, Slot.forWriting]
          | some q => cases h

/-- A tick commits the first of the waiting frames or none. -/
theorem take_waiting {r : Rpdo} (hv : r.valid = true) (syncOccurred toggle : Bool) :
    (r.take syncOccurred toggle .operational).1.toList ++
      (r.take syncOccurred toggle .operational).2.waiting toggle = r.waiting toggle := by
  have hactive : (r.valid && NmtState.operational == .operational) = true := by
    rw [hv]
    rfl
  unfold take
  rw [if_pos hactive]
  cases hs : r.synchronous with
  | false => simp [waiting, hs, Slots.get, Slots.set, Slot.forCommit, Slot.forWriting]
  | true =>
      cases syncOccurred with
      | false => rfl
      | true =>
          cases toggle <;>
            simp [waiting, hs, Slots.get, Slots.set, Slot.forCommit, Slot.forWriting]

/-- A frame is staged behind those that wait, in the place of one that it replaces. -/
theorem stage_waiting (r : Rpdo) (f : Frame) (toggle : Bool) :
    ((r.stage f toggle).waiting toggle).Sublist (r.waiting toggle ++ [f.data]) := by
  unfold waiting stage
  cases hs : r.synchronous with
  | false => simp [Slots.set, Slot.forWriting]
  | true =>
      cases toggle <;>
        simp [Slots.get, Slots.set, Slot.forCommit, Slot.forWriting]

theorem applyTransmissionType_waiting (r : Rpdo) (t : TransmissionType) (toggle : Bool) :
    ((r.applyTransmissionType t).waiting toggle).Sublist (r.waiting toggle) := by
  unfold applyTransmissionType waiting
  dsimp only
  cases hs : r.synchronous <;> cases ht : t.isSynchronous
  · exact .refl _
  · cases toggle <;> simp [Slots.get, Slots.set, Slot.forCommit, Slot.forWriting]
  · cases toggle <;> simp [Slots.get, Slots.set, Slot.forCommit, Slot.forWriting]
  · exact .refl _

/-- What an event does to a PDO in operation: the frame that it accepts, the one that is committed,
the PDO that it leaves, and the SYNC toggle that goes with it. -/
inductive Moves (r : Rpdo) (toggle : Bool) : List Payload → List Payload → Rpdo → Bool → Prop
  | take (syncOccurred toggle' : Bool) : (toggle' ≠ toggle → syncOccurred = true) →
      Moves r toggle [] (r.take syncOccurred toggle' .operational).1.toList
        (r.take syncOccurred toggle' .operational).2 toggle'
  | pass (toggle' : Bool) : Moves r toggle [] [] r toggle'
  | stage (f : Frame) : Moves r toggle [f.data] [] (r.stage f toggle) toggle
  | retype (t : TransmissionType) : Moves r toggle [] [] (r.applyTransmissionType t) toggle

variable {r r' : Rpdo} {toggle toggle' : Bool} {accepted committed : List Payload}

theorem Moves.valid (h : r.Moves toggle accepted committed r' toggle') : r'.valid = r.valid := by
  cases h with
  | take syncOccurred _ _ =>
      obtain ⟨s, hs⟩ := r.exists_slots_of_take syncOccurred toggle' .operational
      rw [hs]
  | pass _ => rfl
  | stage f => rfl
  | retype t => rfl

/-- Unless a SYNC comes while both slots are filled, no frame gets ahead of another. -/
theorem Moves.sublist (h : r.Moves toggle accepted committed r' toggle') (hv : r.valid = true)
    (horder : toggle' ≠ toggle → r.isFull = false) :
    (committed ++ r'.waiting toggle').Sublist (r.waiting toggle ++ accepted) := by
  have hflip : r.waiting toggle' = r.waiting toggle := by
    by_cases ht : toggle' = toggle
    · rw [ht]
    · rw [Bool.eq_not.mpr ht, waiting_not (horder ht)]
  cases h with
  | take syncOccurred _ _ =>
      simp only [take_waiting hv, hflip, List.append_nil]
      exact .refl _
  | pass _ =>
      simp only [List.nil_append, hflip, List.append_nil]
      exact .refl _
  | stage f => exact r.stage_waiting f toggle
  | retype t =>
      rw [List.nil_append, List.append_nil]
      exact r.applyTransmissionType_waiting t toggle

end Rpdo

/-! ### Events that concern a receive PDO -/

namespace Device

theorem writeParameter_transmissionType (d : Device) (k : Nat) (data : Bytes) :
    (d.writeParameter (.rpdoComm k) 2 data).2 = d ∨ ∃ r t, d.rpdos[k]? = some r ∧
      (d.writeParameter (.rpdoComm k) 2 data).2 =
        { d with rpdos := d.rpdos.set k (r.applyTransmissionType t) } := by
  unfold writeParameter answer
  dsimp only
  split
  · rename_i r' hr'
    obtain ⟨_, _, hr'⟩ := exists_of_bind_eq_ok hr'
    obtain ⟨r, hr, hr'⟩ := exists_of_bind_eq_ok hr'
    rcases Rpdo.writeComm_ok hr' with ⟨hsub, _⟩ | ⟨_, t, _, rfl⟩
    · cases hsub
    · exact .inr ⟨r, t, rpdo_eq_ok hr, rfl⟩
  · exact .inl rfl

end Device

namespace Node

variable {σ : Type} [Transport σ]

/-- The events that concern a receive PDO in operation: ticks, frames from the bus, and writes of its
transmission type. -/
def Concerns (k : Nat) (n : Node) : Event σ → Prop
  | .tick _ _ | .frame _ => True
  | .write id _ | .writeLeading id _ =>
      id.sub = 2 ∧ n.device.object id.index = .ok (.parameter (.rpdoComm k))
  | _ => False

/-- The staged frames of a receive PDO, in the order in which they are due. -/
def waiting (k : Nat) (n : Node) : List Payload :=
  match n.device.rpdos[k]? with
  | some r => r.waiting n.device.sync.toggle
  | none => []

/-- Does a SYNC come at this event, while both slots of a synchronous PDO are still filled? -/
def Overruns (k : Nat) (n : Node) (e : Event σ) : Prop :=
  (n.step e).device.sync.toggle ≠ n.device.sync.toggle ∧
    n.device.rpdos[k]?.any Rpdo.isFull = true

instance (k : Nat) (n : Node) (e : Event σ) : Decidable (n.Overruns k e) :=
  inferInstanceAs (Decidable (_ ∧ _))

/-- An event that concerns a receive PDO and does not overrun a tick. -/
def InTime (k : Nat) (n : Node) (e : Event σ) : Prop := n.Concerns k e ∧ ¬ n.Overruns k e

/-- Is a receive PDO valid on a node that is operational? -/
def Exchanges (k : Nat) (n : Node) : Prop :=
  n.device.nmt = .operational ∧ ∃ r, n.device.rpdos[k]? = some r ∧ r.valid = true

variable {k : Nat} {n : Node} {r : Rpdo} {e : Event σ}

theorem tick_moves (hn : n.device.nmt = .operational) (hr : n.device.rpdos[k]? = some r)
    (now : UInt64) (link : σ) :
    ∃ r', (n.tick now link).2.1.device.rpdos[k]? = some r' ∧
      r.Moves n.device.sync.toggle [] (n.committedBy k (.tick now link)) r'
        (n.tick now link).2.1.device.sync.toggle := by
  have hcommits := n.device.tick_commits (Micros.elapsed n.lastTick now) link
  have hrpdos := n.device.tick_rpdos (Micros.elapsed n.lastTick now) link
  rw [hn] at hcommits hrpdos
  have hcommitted : n.committedBy k (.tick now link) =
      (r.take (n.device.syncOccurs (Micros.elapsed n.lastTick now))
        (n.device.syncTick (Micros.elapsed n.lastTick now)).next.toggle .operational).1.toList := by
    show ((n.device.tick (Micros.elapsed n.lastTick now) link).1.commits[k]?.join).toList = _
    rw [hcommits, List.getElem?_map, hr]
    rfl
  rw [hcommitted]
  refine ⟨_, ?_, .take _ _ fun htoggle => ?_⟩
  · show (n.device.tick (Micros.elapsed n.lastTick now) link).2.1.rpdos[k]? = _
    rw [hrpdos, List.getElem?_map, hr]
    rfl
  · have hsync := SyncState.advance_toggle _ _ _ htoggle
    unfold Device.syncOccurs Device.syncTick
    rw [hsync]
    rfl

omit [Transport σ] in
theorem frame_moves (hr : n.device.rpdos[k]? = some r) (f : Frame) :
    ∃ r', (n.receive f).2.device.rpdos[k]? = some r' ∧
      r.Moves n.device.sync.toggle (n.acceptedBy k (.frame (σ := σ) f)) [] r'
        (n.receive f).2.device.sync.toggle := by
  have hf := n.device.receive_received f
  show ∃ r', (n.device.receive f).2.rpdos[k]? = some r' ∧
    r.Moves n.device.sync.toggle (if (n.device.receive f).1 = .rpdo k true then [f.data] else []) []
      r' (n.device.receive f).2.sync.toggle
  generalize (n.device.receive f).1 = reception at hf ⊢
  generalize (n.device.receive f).2 = d' at hf ⊢
  cases hf with
  | sync _ => exact ⟨r, hr, .pass _⟩
  | @accepted i r₀ _ hr₀ _ _ =>
      by_cases hi : i = k
      · subst hi
        have hlt := (List.getElem?_eq_some_iff.mp hr).1
        rw [Option.some.inj (hr₀.symm.trans hr), if_pos rfl]
        exact ⟨_, List.getElem?_set_self hlt, .stage f⟩
      · have hne : Reception.rpdo i true ≠ .rpdo k true := fun h => hi (Reception.rpdo.inj h).1
        rw [if_neg hne]
        exact ⟨r, (List.getElem?_set_ne hi).trans hr, .pass _⟩
  | dropped _ _ _ _ =>
      rw [if_neg fun h => Bool.noConfusion (Reception.rpdo.inj h).2]
      exact ⟨r, hr, .pass _⟩
  | unclaimed _ => exact ⟨r, hr, .pass _⟩

theorem concerns_cases (he : n.Concerns k e) :
    (∃ now link, e = .tick now link) ∨ (∃ f, e = .frame f) ∨
      n.acceptedBy k e = [] ∧ n.committedBy k e = [] ∧
        ((n.step e).device = n.device ∨ ∃ r t, n.device.rpdos[k]? = some r ∧ (n.step e).device =
          { n.device with rpdos := n.device.rpdos.set k (r.applyTransmissionType t) }) := by
  cases e with
  | tick now link => exact .inl ⟨now, link, rfl⟩
  | frame f => exact .inr (.inl ⟨f, rfl⟩)
  | write id data =>
      obtain ⟨hsub, hobject⟩ := he
      have hstep : (n.step (.write (σ := σ) id data)).device =
          (n.device.writeParameter _ id.sub data).2 :=
        congrArg Prod.snd (Device.write_parameter hobject data)
      refine .inr (.inr ⟨rfl, rfl, ?_⟩)
      rw [hstep, hsub]
      exact n.device.writeParameter_transmissionType k data
  | writeLeading id data =>
      obtain ⟨hsub, hobject⟩ := he
      refine .inr (.inr ⟨rfl, rfl, ?_⟩)
      rcases Device.writeLeading_parameter hobject data with hwrite | ⟨_, value, _, _, hwrite⟩
      · exact .inl hwrite
      · have hstep : (n.step (.writeLeading (σ := σ) id data)).device =
            (n.device.writeParameter _ id.sub value).2 := congrArg Prod.snd hwrite
        rw [hstep, hsub]
        exact n.device.writeParameter_transmissionType k value
  | store _ _ _ => cases he
  | requestSend _ => cases he
  | setNmt _ => cases he
  | setNodeId _ => cases he
  | reset => cases he
  | loadConfig _ => cases he

/-- Every event that concerns a PDO is one of the cases of `Rpdo.Moves`, on a node that is
operational and stays so. -/
theorem concerns_moves (hn : n.device.nmt = .operational) (hr : n.device.rpdos[k]? = some r)
    (he : n.Concerns k e) : (n.step e).device.nmt = .operational ∧
      ∃ r', (n.step e).device.rpdos[k]? = some r' ∧
        r.Moves n.device.sync.toggle (n.acceptedBy k e) (n.committedBy k e) r'
          (n.step e).device.sync.toggle := by
  rcases concerns_cases he with ⟨now, link, rfl⟩ | ⟨f, rfl⟩ |
    ⟨haccepted, hcommitted, hdevice | ⟨r₀, t, hr₀, hdevice⟩⟩
  · exact ⟨hn, tick_moves hn hr now link⟩
  · exact ⟨(n.device.receive_received f).nmt.trans hn, frame_moves hr f⟩
  · rw [haccepted, hcommitted, hdevice]
    exact ⟨hn, r, hr, .pass _⟩
  · rw [haccepted, hcommitted, hdevice, Option.some.inj (hr₀.symm.trans hr)]
    have hlt := (List.getElem?_eq_some_iff.mp hr).1
    exact ⟨hn, _, List.getElem?_set_self hlt, .retype t⟩

theorem exchanges_step (h : n.Exchanges k) (he : n.Concerns k e) : (n.step e).Exchanges k := by
  obtain ⟨hn, r, hr, hv⟩ := h
  obtain ⟨hn', r', hr', hmoves⟩ := concerns_moves hn hr he
  exact ⟨hn', r', hr', hmoves.valid.trans hv⟩

theorem waiting_eq (hr : n.device.rpdos[k]? = some r) :
    n.waiting k = r.waiting n.device.sync.toggle := by
  unfold waiting
  rw [hr]

/-- No event that does not overrun a tick lets a frame get ahead of another. -/
theorem committedBy_sublist (h : n.Exchanges k) (he : n.Concerns k e) (ho : ¬ n.Overruns k e) :
    (n.committedBy k e ++ (n.step e).waiting k).Sublist (n.waiting k ++ n.acceptedBy k e) := by
  obtain ⟨hn, r, hr, hv⟩ := h
  obtain ⟨_, r', hr', hmoves⟩ := concerns_moves hn hr he
  rw [waiting_eq hr, waiting_eq hr']
  refine hmoves.sublist hv fun htoggle => ?_
  cases hfull : r.isFull with
  | false => rfl
  | true => exact absurd ⟨htoggle, (Option.any_eq_true _ _).mpr ⟨r, hr, hfull⟩⟩ ho

/-- No run without an overrun lets a frame get ahead of another. -/
theorem committed_append_waiting_sublist (h : n.Exchanges k) {es : List (Event σ)}
    (hes : n.Along (InTime k) es) :
    (n.run es).Exchanges k ∧
      (n.committed k es ++ (n.run es).waiting k).Sublist (n.waiting k ++ n.accepted k es) := by
  induction es generalizing n with
  | nil =>
      refine ⟨h, ?_⟩
      simp only [committed, accepted, trace, run_nil, List.nil_append, List.append_nil]
      exact .refl _
  | cons e es ih =>
      obtain ⟨⟨he, ho⟩, hes⟩ := hes
      obtain ⟨hrun, hsub⟩ := ih (exchanges_step h he) hes
      refine ⟨hrun, ?_⟩
      have hstep := committedBy_sublist h he ho
      simp only [committed, accepted, trace, run_cons, List.append_assoc] at hsub ⊢
      have hhead := hsub.append_left (n.committedBy k e)
      have htail := hstep.append_right (n.step e |>.trace (acceptedBy k) es)
      simp only [List.append_assoc] at hhead htail
      exact hhead.trans htail

/-! ### After an overrun -/

/-- A tick at which a SYNC takes effect commits what is in the slot for it. -/
theorem tick_commits_slot (hn : n.device.nmt = .operational) (hr : n.device.rpdos[k]? = some r)
    (hv : r.valid = true) (hs : r.synchronous = true) {now : UInt64} {link : σ}
    (hsync : (n.tick now link).1.event = .sync) {slot : Slot}
    (hslot : slot = .forCommit true (n.tick now link).2.1.device.sync.toggle) :
    n.committedBy k (.tick now link) = (r.slots.get slot).toList ∧
      (n.tick now link).2.1.device.rpdos[k]? = some { r with slots := r.slots.set slot none } := by
  have hcommits := n.device.tick_commits (Micros.elapsed n.lastTick now) link
  have hrpdos := n.device.tick_rpdos (Micros.elapsed n.lastTick now) link
  have hoccurs : n.device.syncOccurs (Micros.elapsed n.lastTick now) = true := by
    show ((n.tick now link).1.event == .sync) = true
    rw [hsync]
    rfl
  have htake : r.take true (n.device.syncTick (Micros.elapsed n.lastTick now)).next.toggle
      .operational = (r.slots.get slot, { r with slots := r.slots.set slot none }) := by
    rw [hslot]
    unfold Rpdo.take
    rw [hv, hs]
    rfl
  rw [hn, hoccurs] at hcommits hrpdos
  constructor
  · show ((n.device.tick (Micros.elapsed n.lastTick now) link).1.commits[k]?.join).toList = _
    rw [hcommits, List.getElem?_map, hr, Option.map_some, htake]
    rfl
  · show (n.device.tick (Micros.elapsed n.lastTick now) link).2.1.rpdos[k]? = _
    rw [hrpdos, List.getElem?_map, hr, Option.map_some, htake]

theorem tick_of_received (hn : n.device.nmt = .operational) (h : n.device.sync.received = true)
    (now : UInt64) (link : σ) : (n.tick now link).1.event = .sync ∧
      (n.tick now link).2.1.device.sync.toggle = n.device.sync.toggle :=
  SyncState.advance_of_received h _ (by rw [hn]; rfl)

/-- The frame that waits alone is committed after one more SYNC. -/
theorem committed_sync_tick (hn : n.device.nmt = .operational) (hr : n.device.rpdos[k]? = some r)
    (hv : r.valid = true) (hs : r.synchronous = true) {p : Payload}
    (hp : r.slots.get (.forWriting true n.device.sync.toggle) = some p)
    (hempty : r.slots.get (.forCommit true n.device.sync.toggle) = none) (link : σ) :
    ∃ es : List (Event σ), n.Along (InTime k) es ∧
      n.committed k es = [p] ∧ n.accepted k es = [] := by
  have hactive : n.device.nmt.syncActive = true := by
    rw [hn]
    rfl
  obtain ⟨_, hreceived, htoggle⟩ := n.device.sync.receive_message hactive
  have hreceive := Device.receive_of_id_eq (d := n.device) (f := n.device.sync.message) rfl
  obtain ⟨m, hm⟩ : ∃ m, m = (n.receive n.device.sync.message).2 := ⟨_, rfl⟩
  have hdevice : m.device = { n.device with
      sync := (n.device.sync.receive n.device.sync.message n.device.nmt).2 } := by
    rw [hm]
    exact congrArg Prod.snd hreceive
  have hmn : m.device.nmt = .operational := by
    rw [hdevice]
    exact hn
  have hmr : m.device.rpdos[k]? = some r := by
    rw [hdevice]
    exact hr
  obtain ⟨hevent, hkept⟩ := tick_of_received hmn (by rw [hdevice]; exact hreceived) 0 link
  have hslot : Slot.forWriting true n.device.sync.toggle =
      .forCommit true (m.tick 0 link).2.1.device.sync.toggle := by
    rw [hkept, hdevice, htoggle]
    unfold Slot.forCommit
    rw [Bool.not_not]
  obtain ⟨hcommitted, _⟩ := tick_commits_slot hmn hmr hv hs hevent hslot
  rw [hp] at hcommitted
  refine ⟨[.frame n.device.sync.message, .tick 0 link], ⟨⟨trivial, ?_⟩, ⟨trivial, ?_⟩, trivial⟩, ?_,
    ?_⟩
  · rintro ⟨_, hfull⟩
    rw [hr, Option.any_some, Rpdo.isFull_of_get hempty] at hfull
    cases hfull
  · rintro ⟨hflip, _⟩
    rw [hm] at hkept
    exact hflip hkept
  · rw [hm] at hcommitted
    show [] ++ ((n.receive n.device.sync.message).2.committedBy k (.tick 0 link) ++ []) = [p]
    rw [hcommitted]
    rfl
  · show (if (n.device.receive n.device.sync.message).1 = .rpdo k true then _ else []) ++ [] = []
    rw [hreceive, if_neg fun h => Reception.noConfusion h]
    rfl

/-- Two waiting frames are committed by a tick at which a SYNC takes effect, and after one more
SYNC. -/
theorem committed_tick_sync_tick (hn : n.device.nmt = .operational)
    (hr : n.device.rpdos[k]? = some r) (hv : r.valid = true) (hs : r.synchronous = true)
    {now : UInt64} {link : σ} (hsync : (n.tick now link).1.event = .sync) {toggle : Bool}
    (htoggle : (n.tick now link).2.1.device.sync.toggle = toggle) {p q : Payload}
    (hp : r.slots.get (.forCommit true toggle) = some p)
    (hq : r.slots.get (.forWriting true toggle) = some q) :
    ∃ es : List (Event σ),
      (n.step (.tick now link)).Along (InTime k) es ∧
        n.committedBy k (.tick now link) ++ (n.step (.tick now link)).committed k es = [p, q] ∧
        (n.step (.tick now link)).accepted k es = [] := by
  have hslots : Slot.forWriting true toggle ≠ .forCommit true toggle := by
    cases toggle <;> decide
  obtain ⟨hcommitted, hr'⟩ := tick_commits_slot hn hr hv hs hsync (congrArg _ htoggle.symm)
  rw [hp] at hcommitted
  obtain ⟨es, hes, hlast, haccepted⟩ := committed_sync_tick (n := (n.tick now link).2.1) hn hr' hv hs
    (p := q) (by rw [htoggle, Slots.get_set, if_neg hslots, hq])
    (by rw [htoggle, Slots.get_set, if_pos rfl]) link
  refine ⟨es, hes, ?_, haccepted⟩
  rw [hcommitted]
  show [p] ++ (n.tick now link).2.1.committed k es = [p, q]
  rw [hlast]
  rfl

omit [Transport σ] in
theorem receive_of_flip (k : Nat) {f : Frame}
    (h : (n.receive f).2.device.sync.toggle ≠ n.device.sync.toggle) :
    n.acceptedBy k (.frame (σ := σ) f) = [] ∧ (n.receive f).2.device =
      { n.device with sync := (n.device.sync.receive f n.device.nmt).2 } := by
  have hid : f.id = n.device.sync.cobId := by
    have hf := n.device.receive_received f
    replace h : (n.device.receive f).2.sync.toggle ≠ n.device.sync.toggle := h
    generalize (n.device.receive f).1 = reception at hf
    generalize (n.device.receive f).2 = d' at hf h
    cases hf with
    | sync hid => exact hid
    | accepted _ _ _ _ => exact absurd rfl h
    | dropped _ _ _ _ => exact absurd rfl h
    | unclaimed _ => exact absurd rfl h
  have hreceive := Device.receive_of_id_eq (d := n.device) hid
  refine ⟨?_, congrArg Prod.snd hreceive⟩
  show (if (n.device.receive f).1 = .rpdo k true then [f.data] else []) = []
  rw [hreceive, if_neg fun h => Reception.noConfusion h]

/-- Two waiting frames are committed by the first tick after a SYNC that was received while they
waited, and after one more SYNC. -/
theorem committed_of_frame (hn : n.device.nmt = .operational) (hr : n.device.rpdos[k]? = some r)
    (hv : r.valid = true) (hs : r.synchronous = true) {f : Frame}
    (hflip : (n.receive f).2.device.sync.toggle ≠ n.device.sync.toggle) {p q : Payload}
    (hp : r.slots.get (.forCommit true !n.device.sync.toggle) = some p)
    (hq : r.slots.get (.forWriting true !n.device.sync.toggle) = some q) (link : σ) :
    ∃ es : List (Event σ), (n.receive f).2.Along (InTime k) es ∧
      (n.receive f).2.committed k es = [p, q] ∧ (n.receive f).2.accepted k es = [] := by
  obtain ⟨_, hdevice⟩ := receive_of_flip (σ := σ) k hflip
  generalize (n.receive f).2 = m at hflip hdevice ⊢
  have hmn : m.device.nmt = .operational := by
    rw [hdevice]
    exact hn
  have hmr : m.device.rpdos[k]? = some r := by
    rw [hdevice]
    exact hr
  have hreceived : m.device.sync.received = true := by
    rw [hdevice] at hflip ⊢
    exact SyncState.received_of_receive_toggle hflip
  obtain ⟨hsync, hkept⟩ := tick_of_received hmn hreceived 0 link
  obtain ⟨es, hes, hcommitted, hnone⟩ := committed_tick_sync_tick hmn hmr hv hs hsync
    (hkept.trans (Bool.eq_not.mpr hflip)) hp hq
  exact ⟨.tick 0 link :: es, ⟨⟨trivial, fun h => h.1 hkept⟩, hes⟩, hcommitted, hnone⟩

/-- After an overrun of a tick the frame that was due first is committed last. -/
theorem committed_of_overruns (h : n.Exchanges k) (he : n.Concerns k e) (ho : n.Overruns k e)
    (link : σ) : ∃ p q, n.waiting k = [p, q] ∧ n.acceptedBy k e = [] ∧ ∃ es : List (Event σ),
      (n.step e).Along (InTime k) es ∧ n.committedBy k e ++ (n.step e).committed k es = [q, p] ∧
        (n.step e).accepted k es = [] := by
  obtain ⟨hn, r, hr, hv⟩ := h
  obtain ⟨hflip, hfull⟩ := ho
  rw [hr, Option.any_some] at hfull
  obtain ⟨hs, hget⟩ := Rpdo.exists_of_isFull hfull
  obtain ⟨p, hp⟩ := hget (.forCommit true n.device.sync.toggle)
  obtain ⟨q, hq⟩ := hget (.forWriting true n.device.sync.toggle)
  have hwaiting : n.waiting k = [p, q] := by
    rw [waiting_eq hr]
    unfold Rpdo.waiting
    rw [if_pos hs, hp, hq]
    rfl
  -- the flip has exchanged the two slots
  have hq' : r.slots.get (.forCommit true !n.device.sync.toggle) = some q := by
    unfold Slot.forCommit
    rw [Bool.not_not]
    exact hq
  refine ⟨p, q, hwaiting, ?_⟩
  rcases concerns_cases he with ⟨now, link', rfl⟩ | ⟨f, rfl⟩ |
    ⟨_, _, hdevice | ⟨r₀, t, _, hdevice⟩⟩
  · have htoggle : (n.tick now link').2.1.device.sync.toggle = !n.device.sync.toggle :=
      Bool.eq_not.mpr hflip
    have hsync : (n.tick now link').1.event = .sync := SyncState.advance_toggle _ _ _ hflip
    exact ⟨rfl, committed_tick_sync_tick hn hr hv hs hsync htoggle hq' hp⟩
  · obtain ⟨haccepted, _⟩ := receive_of_flip (σ := σ) k hflip
    exact ⟨haccepted, committed_of_frame hn hr hv hs hflip hq' hp link⟩
  · rw [hdevice] at hflip
    exact absurd rfl hflip
  · rw [hdevice] at hflip
    exact absurd rfl hflip

theorem not_sublist_swap {α : Type} {a b : α} {l : List α} (hl : l.Nodup)
    (h : [a, b].Sublist l) : ¬ [b, a].Sublist l := by
  induction l with
  | nil => cases h
  | cons c l ih =>
      obtain ⟨hc, hl⟩ := List.nodup_cons.mp hl
      intro h'
      cases h with
      | cons _ h =>
          cases h' with
          | cons _ h' => exact ih hl h h'
          | cons_cons _ h' => exact hc (h.subset (List.mem_cons_of_mem _ (List.mem_singleton_self _)))
      | cons_cons _ h =>
          cases h' with
          | cons _ h' => exact hc (h'.subset (List.mem_cons_of_mem _ (List.mem_singleton_self _)))
          | cons_cons _ h' => exact hc (h.subset (List.mem_singleton_self _))

/-- **Frames are committed in the order of acceptance, each at most once, exactly as long as no SYNC
overruns a tick.**  This is about a receive PDO that is valid on a node that is operational.  The
frames that are staged at the start come before all others.  After the first overrun, the frames of a
run, all of them different, can be made to be committed in another order without a second one. -/
theorem committed_sublist_accepted (h : n.Exchanges k) {es : List (Event σ)}
    (hes : n.Along (InTime k) es) :
    (n.committed k es).Sublist (n.waiting k ++ n.accepted k es) ∧
      ∀ (e : Event σ) (_ : σ), (n.run es).Concerns k e → (n.run es).Overruns k e →
        (n.waiting k ++ n.accepted k es).Nodup →
        ∃ es' : List (Event σ), (n.run (es ++ [e])).Along (InTime k) es' ∧
          ¬ (n.committed k (es ++ e :: es')).Sublist
            (n.waiting k ++ n.accepted k (es ++ e :: es')) := by
  obtain ⟨hrun, hsub⟩ := committed_append_waiting_sublist h hes
  refine ⟨(List.sublist_append_left _ _).trans hsub, ?_⟩
  intro e link he ho hdistinct
  obtain ⟨p, q, hwaiting, hnone, es', hes', hlast, hnone'⟩ := committed_of_overruns hrun he ho link
  refine ⟨es', ?_, ?_⟩
  · rw [run_append]
    exact hes'
  · have haccepted : n.accepted k (es ++ e :: es') = n.accepted k es := by
      unfold accepted at hnone' ⊢
      rw [trace_append]
      simp only [trace, hnone, hnone', List.append_nil]
    have hcommitted : n.committed k (es ++ e :: es') = n.committed k es ++ [q, p] := by
      unfold committed at hlast ⊢
      rw [trace_append, ← hlast]
      rfl
    rw [haccepted, hcommitted]
    rw [hwaiting] at hsub
    intro hbad
    exact not_sublist_swap hdistinct ((List.sublist_append_right _ _).trans hsub)
      ((List.sublist_append_right _ _).trans hbad)

/-! ### A receiver that is overrun -/

/-- An operational node with one receive PDO, which maps an 8-bit number and is committed at every
SYNC. -/
def receiver : Node :=
  let number := AppObject.var (SubInfo.u8.readWrite.mappable .rpdo) (.ofNumber .u8 0)
  let config := { DeviceConfig.initial with
    nodeId := 1
    rpdos := [⟨some 0x201, 1, [0x20000008], 0⟩] }
  (Node.start .unconfigured (Device.fresh 1 0 ⟨[⟨0x2000, .application number⟩]⟩)).run
    ([.loadConfig config, .setNmt .operational] : List (Event Bus))

def receiverFrame (value : UInt8) : Event Bus := .frame (.carrying (.std 0x201) [value])

def syncFrame : Event Bus := .frame (.carrying (.std defaultSyncId) [])

def receiverTick (now : UInt64) : Event Bus := .tick now (.ofCapacity 0)

theorem receiver_exchanges : receiver.Exchanges 0 := ⟨rfl, _, rfl, rfl⟩

theorem committed_sublist_accepted_receiver :
    (receiver.committed 0 [receiverFrame 0xAA, syncFrame, receiverFrame 0xBB]).Sublist
        (receiver.waiting 0 ++
          receiver.accepted 0 [receiverFrame 0xAA, syncFrame, receiverFrame 0xBB]) ∧
      ∃ es' : List (Event Bus), ¬ (receiver.committed 0
        ([receiverFrame 0xAA, syncFrame, receiverFrame 0xBB] ++ syncFrame :: es')).Sublist
          (receiver.waiting 0 ++ receiver.accepted 0
            ([receiverFrame 0xAA, syncFrame, receiverFrame 0xBB] ++ syncFrame :: es')) := by
  have hes : receiver.Along (InTime 0) [receiverFrame 0xAA, syncFrame, receiverFrame 0xBB] :=
    ⟨⟨trivial, by decide⟩, ⟨trivial, by decide⟩, ⟨trivial, by decide⟩, trivial⟩
  obtain ⟨hsub, hbad⟩ := committed_sublist_accepted receiver_exchanges hes
  obtain ⟨es', _, h⟩ := hbad syncFrame (.ofCapacity 0) trivial (by decide) (by decide)
  exact ⟨hsub, es', h⟩

/-- The second of two SYNCs between two ticks makes the younger frame overtake the older one, which
is committed after it. -/
theorem receiver_overrun :
    let es := [receiverTick 0, syncFrame, receiverTick 10, receiverFrame 0xAA, syncFrame,
      receiverFrame 0xBB, syncFrame, receiverTick 20, syncFrame, receiverTick 30]
    receiver.Exchanges 0 ∧ receiver.waiting 0 = [] ∧ receiver.Along (Concerns 0) es ∧
      ¬ (receiver.committed 0 es).Sublist (receiver.accepted 0 es) := by
  refine ⟨receiver_exchanges, rfl, ?_, by decide⟩
  exact ⟨trivial, trivial, trivial, trivial, trivial, trivial, trivial, trivial, trivial, trivial,
    trivial⟩

end Node

end Canopen
