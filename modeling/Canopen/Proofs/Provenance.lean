import Canopen.Proofs.Events

/-! # Where committed frames come from

A frame is checked when it is accepted and committed by a later tick.  What happens between the two
decides whether the check still stands.  `committed_frame_kept` says that the receive PDO has been
valid ever since it accepted the frame, and that the mapping in force has changed at nothing but
communication resets.

A reset does not drop the frames of a PDO which it leaves valid: they are committed under the mapping
that it has put into effect (`reset_keeps_frame`). -/

namespace Canopen

namespace Rpdo

/-- Is the payload in one of the slots? -/
def Staged (r : Rpdo) (p : Payload) : Prop := ∃ slot, r.slots.get slot = some p

variable {r r' : Rpdo} {p : Payload}

theorem staged_of_set (slot : Slot) {s : Slots}
    (hs : s = r.slots ∨ s = r.slots.set slot none) (h : { r with slots := s }.Staged p) :
    r.Staged p := by
  obtain ⟨place, hp⟩ := h
  rcases hs with rfl | rfl
  · exact ⟨place, hp⟩
  · rw [Slots.get_set] at hp
    split at hp
    · cases hp
    · exact ⟨place, hp⟩

theorem staged_of_take {syncOccurred toggle : Bool} {nmt : NmtState}
    (h : (r.take syncOccurred toggle nmt).2.Staged p) : r.Staged p := by
  unfold take at h
  split at h
  · split at h
    · exact h
    · exact staged_of_set _ (.inr rfl) h
  · obtain ⟨slot, hp⟩ := h
    rw [Slots.get_none] at hp
    cases hp

theorem staged_of_take_eq {syncOccurred toggle : Bool} {nmt : NmtState}
    (h : (r.take syncOccurred toggle nmt).1 = some p) : r.Staged p := by
  unfold take at h
  split at h
  · split at h
    · cases h
    · exact ⟨_, h⟩
  · cases h

theorem staged_of_stage {f : Frame} {toggle : Bool} (h : (r.stage f toggle).Staged p) :
    f.data = p ∨ r.Staged p := by
  obtain ⟨slot, hp⟩ := h
  unfold stage at hp
  rw [Slots.get_set] at hp
  split at hp
  · exact .inl (Option.some.inj hp)
  · exact .inr ⟨slot, hp⟩

/-- An identifier word that leaves the PDO without validity drops its frames. -/
theorem staged_of_configureCommunication {w : CobIdWord}
    (h : (r.configureCommunication w).Staged p) :
    r.Staged p ∧ (r.configureCommunication w).valid = true := by
  obtain ⟨slot, hp⟩ := h
  unfold configureCommunication at hp ⊢
  dsimp only at hp ⊢
  split at hp
  · rename_i hid
    exact ⟨⟨slot, hp⟩, hid⟩
  · rw [Slots.get_none] at hp
    cases hp

theorem staged_of_applyTransmissionType {t : TransmissionType}
    (h : (r.applyTransmissionType t).Staged p) : r.Staged p := by
  obtain ⟨slot, hp⟩ := h
  unfold applyTransmissionType at hp
  dsimp only at hp
  split at hp
  · exact ⟨slot, hp⟩
  · exact staged_of_set .second (.inr rfl) ⟨slot, hp⟩

theorem slots_applyMapping (attributes : Attributes) (errors : ErrorStatus) (w : MappingWrite) :
    (r.applyMapping attributes errors w).pdo.slots = r.slots := by
  cases w with
  | entry i w => rfl
  | count n =>
      obtain ⟨_, hpdo⟩ := r.exists_applyMapping_count attributes errors n
      rw [hpdo]

theorem staged_of_restart {attributes : Attributes} (h : (r.restart attributes).Staged p) :
    r.Staged p ∧ (r.restart attributes).valid = true := by
  unfold restart reset at h ⊢
  simp only [configureMapping_pdo] at h ⊢
  exact staged_of_configureCommunication h

/-- A frame that is staged after an event was staged before it or is accepted by it.  The PDO is
valid, and its mapping is unchanged unless the event is a reset. -/
theorem Stepped.of_staged {σ : Type} {n : Node} {k : Nat} {e : Event σ} (h : r.Stepped n k e r')
    (hvalid : ∀ q, r.Staged q → r.valid = true) (hp : r'.Staged p) :
    r'.valid = true ∧ (¬ e.IsReset → r'.mapping = r.mapping) ∧ (r.Staged p ∨
      ∃ f, e = .frame f ∧ f.data = p ∧ (n.receive f).1 = .rpdo k true ∧
        r.isReceptive f.dlc n.device.nmt = true) := by
  cases h with
  | same => exact ⟨hvalid p hp, fun _ => rfl, .inl hp⟩
  | taken syncOccurred toggle =>
      have hold := staged_of_take hp
      obtain ⟨s, hs⟩ := r.exists_slots_of_take syncOccurred toggle n.device.nmt
      rw [hs]
      exact ⟨hvalid p hold, fun _ => rfl, .inl hold⟩
  | staged f he hreception hreceptive =>
      have hv : r.valid = true := by
        simp only [isReceptive, Bool.and_eq_true] at hreceptive
        exact hreceptive.1.1
      refine ⟨hv, fun _ => rfl, ?_⟩
      rcases staged_of_stage hp with hnew | hold
      · exact .inr ⟨f, he, hnew, hreception, hreceptive⟩
      · exact .inl hold
  | comm _ hw =>
      rcases writeComm_ok hw with ⟨_, w, stored, _, _, rfl⟩ | ⟨_, t, _, rfl⟩
      · obtain ⟨hold, hv⟩ := staged_of_configureCommunication hp
        exact ⟨hv, fun _ => rfl, .inl hold⟩
      · have hold := staged_of_applyTransmissionType hp
        exact ⟨hvalid p hold, fun _ => rfl, .inl hold⟩
  | map hw =>
      obtain ⟨slot, hslot⟩ := hp
      rw [slots_applyMapping] at hslot
      -- the mapping is written only while the PDO is disabled, and then nothing is staged
      have hv := hvalid p ⟨slot, hslot⟩
      rw [valid_of_checkMappingWrite hw] at hv
      cases hv
  | reset params attributes he =>
      obtain ⟨hold, hv⟩ := staged_of_restart hp
      exact ⟨hv, fun hne => absurd he hne, .inl hold⟩

end Rpdo

namespace Node

variable {σ : Type} [Transport σ]

/-- The mapping of a receive PDO that is in force. -/
def mapping (k : Nat) (n : Node) : Option MappedPdo := n.device.rpdos[k]?.map Rpdo.mapping

def isValid (k : Nat) (n : Node) : Bool := n.device.rpdos[k]?.any Rpdo.valid

/-- In a run of the node `n`, the receive PDO `k` has accepted the frame `f` after the events `past`
and has kept it through the events `since`. -/
structure Kept (n : Node) (k : Nat) (past : List (Event σ)) (f : Frame) (since : List (Event σ)) :
    Prop where
  accepted : ((n.run past).receive f).1 = .rpdo k true
  /-- The frame was long enough for the mapping in force, which it has not changed. -/
  fits : ∃ m, (n.run past).mapping k = some m ∧ (n.run (past ++ [.frame f])).mapping k = some m ∧
    m.dataLen ≤ f.dlc.toNat
  /-- The PDO has been valid all along. -/
  valid : ∀ es, es <+: since → (n.run (past ++ .frame f :: es)).isValid k = true
  /-- The mapping in force has changed at nothing but resets. -/
  mapping : ∀ es es', since = es ++ es' → (∀ e ∈ es', ¬ e.IsReset) →
    (n.run (past ++ .frame f :: since)).mapping k = (n.run (past ++ .frame f :: es)).mapping k

variable {n : Node} {k : Nat} {r r' : Rpdo}

theorem mapping_eq (hr : n.device.rpdos[k]? = some r) : n.mapping k = some r.mapping := by
  unfold mapping
  rw [hr]
  rfl

theorem isValid_eq (hr : n.device.rpdos[k]? = some r) : n.isValid k = r.valid := by
  unfold isValid
  rw [hr]
  rfl

theorem kept_frame {es : List (Event σ)} {f : Frame} (hr : (n.run es).device.rpdos[k]? = some r)
    (hr' : (n.run (es ++ [.frame f])).device.rpdos[k]? = some r')
    (haccepted : ((n.run es).receive f).1 = .rpdo k true)
    (hreceptive : r.isReceptive f.dlc (n.run es).device.nmt = true) (hv : r'.valid = true)
    (hmapping : r'.mapping = r.mapping) : n.Kept k es f [] where
  accepted := haccepted
  fits := by
    refine ⟨r.mapping, mapping_eq hr, ?_, ?_⟩
    · rw [mapping_eq hr', hmapping]
    simp only [Rpdo.isReceptive, Bool.and_eq_true, decide_eq_true_eq] at hreceptive
    exact hreceptive.2
  valid := by
    intro es' hes'
    rw [List.prefix_nil.mp hes', isValid_eq hr']
    exact hv
  mapping := by
    intro es₁ es₂ hes _
    rw [(List.append_eq_nil_iff.mp hes.symm).1]

theorem Kept.concat {past since : List (Event σ)} {f : Frame} {e : Event σ}
    (h : n.Kept k past f since)
    (hr : (n.run (past ++ .frame f :: since)).device.rpdos[k]? = some r)
    (hr' : (n.run (past ++ .frame f :: (since ++ [e]))).device.rpdos[k]? = some r')
    (hv : r'.valid = true) (hmapping : ¬ e.IsReset → r'.mapping = r.mapping) :
    n.Kept k past f (since ++ [e]) where
  accepted := h.accepted
  fits := h.fits
  valid := by
    intro es hes
    rcases List.prefix_concat_iff.mp hes with rfl | hes
    · rw [isValid_eq hr']
      exact hv
    · exact h.valid es hes
  mapping := by
    intro es₁ es₂ hes hne
    rcases List.eq_nil_or_concat es₂ with rfl | ⟨es₂, e', rfl⟩
    · rw [hes, List.append_nil]
    · rw [List.concat_eq_append, ← List.append_assoc] at hes
      obtain ⟨rfl, he⟩ := List.append_inj' hes rfl
      obtain rfl := List.singleton_inj.mp he
      have hlast := hne e (by simp)
      have hsince := h.mapping es₁ es₂ rfl fun e' he' => hne e' (by simp [he'])
      rw [mapping_eq hr', hmapping hlast, ← mapping_eq hr, hsince]

/-- Every staged frame of a PDO has been kept since it was accepted. -/
def Traces (n : Node) (k : Nat) (es : List (Event σ)) (m : Node) : Prop :=
  ∀ r, m.device.rpdos[k]? = some r → ∀ p, r.Staged p →
    ∃ past f since, es = past ++ .frame f :: since ∧ f.data = p ∧ n.Kept k past f since

theorem traces_run (hn : ∀ r, n.device.rpdos[k]? = some r → ∀ p, ¬ r.Staged p)
    (es : List (Event σ)) : n.Traces k es (n.run es) := by
  refine run_history (I := n.Traces k) ?_ ?_ es
  · intro r hr p hp
    exact absurd hp (hn r hr p)
  · intro es e ih r' hr' p hp
    have hstep : ((n.run es).step e).device.rpdos[k]? = some r' := by
      rw [← run_concat]
      exact hr'
    obtain ⟨r, hr, hs⟩ := rpdo_step hstep
    have hvalid : ∀ q, r.Staged q → r.valid = true := by
      intro q hq
      obtain ⟨past, f, since, rfl, _, hkept⟩ := ih r hr q hq
      rw [← isValid_eq hr]
      exact hkept.valid since List.prefix_rfl
    obtain ⟨hv, hmapping, hold | ⟨f, rfl, hf, haccepted, hreceptive⟩⟩ := hs.of_staged hvalid hp
    · obtain ⟨past, f, since, rfl, hf, hkept⟩ := ih r hr p hold
      have hes : past ++ .frame f :: since ++ [e] = past ++ .frame f :: (since ++ [e]) := by
        rw [List.append_assoc, List.cons_append]
      rw [hes] at hr' ⊢
      exact ⟨past, f, since ++ [e], rfl, hf, hkept.concat hr hr' hv hmapping⟩
    · exact ⟨es, f, [], rfl, hf, kept_frame hr hr' haccepted hreceptive hv (hmapping fun h => h)⟩

theorem not_staged_start (id : NodeId) (rpdos tpdos : Nat) (dictionary : Dictionary)
    (hr : (Node.start id (Device.fresh rpdos tpdos dictionary)).device.rpdos[k]? = some r)
    (p : Payload) : ¬ r.Staged p := by
  intro hp
  replace hr : (Node.assignIdentity ⟨id, none, { Device.fresh rpdos tpdos dictionary with
      started := true }⟩).device.resetCommunication.rpdos[k]? = some r := hr
  rw [Device.resetCommunication_rpdos, List.getElem?_map] at hr
  obtain ⟨r₁, hr₁, rfl⟩ := Option.map_eq_some_iff.mp hr
  obtain ⟨r₀, params, hr₀, rfl⟩ := exists_of_assignIdentity_rpdos hr₁
  obtain ⟨⟨slot, hslot⟩, _⟩ := Rpdo.staged_of_restart hp
  have hfresh : r₀ = .fresh := (List.mem_replicate.mp (List.mem_of_getElem? hr₀)).2
  rw [hfresh] at hslot
  change Slots.none.get slot = some p at hslot
  rw [Slots.get_none] at hslot
  cases hslot

theorem staged_of_mem_committedBy {now : UInt64} {link : σ} {p : Payload}
    (h : p ∈ n.committedBy k (.tick now link)) :
    ∃ r, n.device.rpdos[k]? = some r ∧ r.Staged p := by
  have hcommits := n.device.tick_commits (Micros.elapsed n.lastTick now) link
  replace h : (n.device.tick (Micros.elapsed n.lastTick now) link).1.commits[k]?.join = some p :=
    Option.mem_toList.mp h
  rw [hcommits, List.getElem?_map] at h
  cases hr : n.device.rpdos[k]? with
  | none =>
      rw [hr] at h
      cases h
  | some r =>
      rw [hr] at h
      exact ⟨r, rfl, Rpdo.staged_of_take_eq h⟩

/-- **A frame that is committed has been kept since it was accepted.**  This holds at every tick after
every run of a node that was started on a device with any number of fresh PDOs and any object
dictionary. -/
theorem committed_frame_kept (id : NodeId) (rpdos tpdos : Nat) (dictionary : Dictionary)
    (es : List (Event σ)) {k : Nat} {now : UInt64} {link : σ} {p : Payload}
    (h : p ∈ ((Node.start id (Device.fresh rpdos tpdos dictionary)).run es).committedBy k
      (.tick now link)) :
    ∃ past f since, es = past ++ .frame f :: since ∧ f.data = p ∧
      (Node.start id (Device.fresh rpdos tpdos dictionary)).Kept k past f since := by
  obtain ⟨r, hr, hp⟩ := staged_of_mem_committedBy h
  exact traces_run (fun r hr => not_staged_start id rpdos tpdos dictionary hr) es r hr p hp

/-! ### A frame that is kept through a reset -/

/-- A node with one receive PDO and two numbers that may be mapped. -/
def listener : Node :=
  let byte := AppObject.var (SubInfo.u8.readWrite.mappable .rpdo) (.ofNumber .u8 0)
  let half := AppObject.var (SubInfo.u16.readWrite.mappable .rpdo) (.ofNumber .u16 0x1234)
  Node.start .unconfigured
    (Device.fresh 1 0 ⟨[⟨0x2000, .application byte⟩, ⟨0x2001, .application half⟩]⟩)

/-- Map a number into the receive PDO of the listener. -/
def listenTo (mapping : UInt32) : Event Bus :=
  .loadConfig { DeviceConfig.initial with
    nodeId := 1
    rpdos := [⟨some 0x201, 254, [mapping], 0⟩] }

def listenerFrame : Frame := .carrying (.std 0x201) [0xAA]

theorem committed_frame_kept_listener : ∃ past f since,
    [listenTo 0x20000008, .setNmt .operational, .frame listenerFrame] =
        past ++ .frame f :: since ∧
      f.data = listenerFrame.data ∧ listener.Kept 0 past f since := by
  have h : listenerFrame.data ∈ (listener.run [listenTo 0x20000008, .setNmt .operational,
      .frame listenerFrame]).committedBy 0 (.tick 0 (Bus.ofCapacity 0)) := by decide
  exact committed_frame_kept .unconfigured 1 0 _ _ h

/-- A reset between the acceptance and the tick: the frame is committed although it was accepted
before the last reset, and is shorter than the mapping. -/
theorem reset_keeps_frame :
    let es := [listenTo 0x20000008, .setNmt .operational, .frame listenerFrame,
      listenTo 0x20010010]
    listenerFrame.data ∈ (listener.run es).committedBy 0 (.tick 0 (Bus.ofCapacity 0)) ∧
      (∃ m, (listener.run es).mapping 0 = some m ∧ listenerFrame.dlc.toNat < m.dataLen) ∧
      ¬ ∃ past f since, es = past ++ .frame f :: since ∧ ∀ e ∈ since, ¬ e.IsReset := by
  refine ⟨by decide, ⟨_, rfl, by decide⟩, ?_⟩
  rintro ⟨past, f, since, hes, hne⟩
  have hlast : listenTo 0x20010010 ∈ since := by
    rcases past with _ | ⟨_, _ | ⟨_, _ | ⟨_, _ | ⟨_, past⟩⟩⟩⟩
    · cases hes
    · cases hes
    · cases hes
      exact List.mem_singleton_self _
    · cases hes
    · cases past <;> cases hes
  exact hne _ hlast trivial

end Node

end Canopen
