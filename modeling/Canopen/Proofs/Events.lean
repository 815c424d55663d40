import Canopen.Proofs.Operations

/-! # What an event does to one PDO, and to the SYNC object

Whatever happens to a node, each of its PDOs ends up in one of the cases of `Rpdo.Stepped` or
`Tpdo.Stepped` (`rpdo_step`, `tpdo_step`), and its SYNC object in one of those of
`SyncState.Stepped` (`sync_step`).  What holds throughout a run is proved by going through these
cases. -/

namespace Canopen

variable {σ : Type}

/-- The event is an accepted write of a value to a sub object of a parameter object. -/
inductive Event.Writes (n : Node) (p : Parameter) (sub : UInt8) (data : Bytes) : Event σ → Prop
  | whole {id : ObjectId} : n.device.object id.index = .ok (.parameter p) → id.sub = sub →
      (n.device.write id data).1 = .ok () → Writes n p sub data (.write id data)
  /-- The leading bytes are written and the others are kept. -/
  | leading {id : ObjectId} {part : Bytes} {info : SubInfo} :
      n.device.object id.index = .ok (.parameter p) → id.sub = sub → p.subInfo id.sub = .ok info →
      completeValue info.size (n.device.read id 0) part = .ok data →
      (n.device.writeLeading id part).1 = .ok () → Writes n p sub data (.writeLeading id part)

/-- A receive PDO after an event of the node `n`. -/
inductive Rpdo.Stepped (n : Node) (k : Nat) (e : Event σ) (r : Rpdo) : Rpdo → Prop
  | same : Stepped n k e r r
  | taken (syncOccurred toggle : Bool) :
      Stepped n k e r (r.take syncOccurred toggle n.device.nmt).2
  | staged (f : Frame) : e = .frame f → (n.receive f).1 = .rpdo k true →
      r.isReceptive f.dlc n.device.nmt = true → Stepped n k e r (r.stage f n.device.sync.toggle)
  | comm {sub : UInt8} {data : Bytes} {r' : Rpdo} : e.Writes n (.rpdoComm k) sub data →
      r.writeComm n.device.nmt sub data = .ok r' → Stepped n k e r r'
  | map {sub : UInt8} {data : Bytes} {w : MappingWrite} :
      checkMappingWrite r.params r.valid r.mapping .receive n.device.attributes n.device.started
        n.device.nmt sub data = .ok w →
      Stepped n k e r (r.applyMapping n.device.attributes n.device.errors w).pdo
  | reset (params : PdoParams) (attributes : Attributes) : e.IsReset →
      Stepped n k e r ({ r with params := params }.restart attributes)

/-- A transmit PDO after an event of the node `n`. -/
inductive Tpdo.Stepped [Transport σ] (n : Node) (k : Nat) (e : Event σ) (t : Tpdo) : Tpdo → Prop
  | same : Stepped n k e t t
  | requested : e = .requestSend k → Stepped n k e t t.requestSend
  | processed (now : UInt64) (link link' : σ) : e = .tick now link →
      Stepped n k e t ((Device.noticeChange t (n.tick now link).2.1.device.dictionary).process
        (n.tick now link).2.1.device.dictionary
        (n.device.syncTick (Micros.elapsed n.lastTick now)).next
        (n.device.syncOccurs (Micros.elapsed n.lastTick now)) (Micros.elapsed n.lastTick now)
        n.device.nmt link').2.1
  | comm {sub : UInt8} {data : Bytes} {t' : Tpdo} : e.Writes n (.tpdoComm k) sub data →
      t.writeComm n.device.nmt sub data = .ok t' → Stepped n k e t t'
  | map {sub : UInt8} {data : Bytes} {w : MappingWrite} :
      checkMappingWrite t.params t.valid t.mapping .transmit n.device.attributes n.device.started
        n.device.nmt sub data = .ok w →
      Stepped n k e t (t.applyMapping n.device.attributes n.device.errors w).pdo
  | reset (params : PdoParams) (inhibitTime eventTime : UInt16) (syncStart : UInt8)
      (attributes : Attributes) : e.IsReset →
      Stepped n k e t ({ t with
        params := params
        inhibitTime := inhibitTime
        eventTime := eventTime
        syncStart := syncStart }.restart attributes)

/-- The SYNC object after an event of the node `n`. -/
inductive SyncState.Stepped (n : Node) (e : Event σ) (s : SyncState) : SyncState → Prop
  | same : Stepped n e s s
  | advanced (now : UInt64) (link : σ) : e = .tick now link →
      Stepped n e s (s.advance (Micros.elapsed n.lastTick now) n.device.nmt).next
  | received (f : Frame) : e = .frame f → f.id = s.cobId →
      Stepped n e s (s.receive f n.device.nmt).2
  | written {p : Parameter} {data : Bytes} {s' : SyncState} :
      s.writeParameter p data = .ok s' → Stepped n e s s'
  | reset : e.IsReset → Stepped n e s s.reset
  | configured (c : DeviceConfig) : e = .loadConfig c → Stepped n e s (c.sync.apply s).reset

/-- Events other than resets leave the mapping of a PDO alone, stored and in use, but for a write of
mapping parameters. -/
theorem Rpdo.Stepped.mapping_cases {n : Node} {k : Nat} {e : Event σ} {r r' : Rpdo}
    (h : r.Stepped n k e r') (he : ¬ e.IsReset) :
    (r'.mapping = r.mapping ∧ r'.params.mappings = r.params.mappings ∧
        r'.params.mappingCount = r.params.mappingCount) ∨
      ∃ sub data w, checkMappingWrite r.params r.valid r.mapping .receive n.device.attributes
          n.device.started n.device.nmt sub data = .ok w ∧
        r' = (r.applyMapping n.device.attributes n.device.errors w).pdo := by
  cases h with
  | same => exact .inl ⟨rfl, rfl, rfl⟩
  | taken syncOccurred toggle =>
      obtain ⟨s, hs⟩ := r.exists_slots_of_take syncOccurred toggle n.device.nmt
      rw [hs]
      exact .inl ⟨rfl, rfl, rfl⟩
  | staged f _ _ _ => exact .inl ⟨rfl, rfl, rfl⟩
  | comm _ hw =>
      rcases writeComm_ok hw with ⟨_, w, stored, _, _, rfl⟩ | ⟨_, t, _, rfl⟩
      · exact .inl ⟨rfl, rfl, rfl⟩
      · exact .inl ⟨rfl, rfl, rfl⟩
  | map hw => exact .inr ⟨_, _, _, hw, rfl⟩
  | reset params attributes hreset => exact absurd hreset he

theorem Tpdo.Stepped.mapping_cases [Transport σ] {n : Node} {k : Nat} {e : Event σ} {t t' : Tpdo}
    (h : t.Stepped n k e t') (he : ¬ e.IsReset) :
    (t'.mapping = t.mapping ∧ t'.params.mappings = t.params.mappings ∧
        t'.params.mappingCount = t.params.mappingCount) ∨
      ∃ sub data w, checkMappingWrite t.params t.valid t.mapping .transmit n.device.attributes
          n.device.started n.device.nmt sub data = .ok w ∧
        t' = (t.applyMapping n.device.attributes n.device.errors w).pdo := by
  cases h with
  | same => exact .inl ⟨rfl, rfl, rfl⟩
  | requested _ => exact .inl ⟨rfl, rfl, rfl⟩
  | processed now link link' _ =>
      rw [(t.sameSetup_tick _ _ _ _ _ _).params, (t.sameSetup_tick _ _ _ _ _ _).mapping]
      exact .inl ⟨rfl, rfl, rfl⟩
  | comm _ hw =>
      rcases writeComm_ok hw with ⟨_, w, stored, _, _, rfl⟩ | ⟨type, _, rfl⟩ | ⟨_, time, rfl⟩ |
        ⟨time, rfl⟩ | ⟨_, start, _, rfl⟩
      · exact .inl ⟨rfl, rfl, rfl⟩
      · exact .inl ⟨rfl, rfl, rfl⟩
      · exact .inl ⟨rfl, rfl, rfl⟩
      · exact .inl ⟨rfl, rfl, rfl⟩
      · exact .inl ⟨rfl, rfl, rfl⟩
  | map hw => exact .inr ⟨_, _, _, hw, rfl⟩
  | reset params inhibitTime eventTime syncStart attributes hreset => exact absurd hreset he

theorem eq_of_getElem?_set {α : Type} {l : List α} {i k : Nat} {a b : α}
    (h : (l.set i a)[k]? = some b) : (i = k ∧ b = a) ∨ l[k]? = some b := by
  by_cases hi : i = k
  · subst hi
    have hlt := (List.getElem?_eq_some_iff.mp h).1
    rw [List.getElem?_set_self (by simpa using hlt)] at h
    exact .inl ⟨rfl, (Option.some.inj h).symm⟩
  · rw [List.getElem?_set_ne hi] at h
    exact .inr h

theorem exists_of_applyEach {α β : Type} {apply : α → β → β} {cs : List α} {xs : List β} {k : Nat}
    {y : β} (h : (applyEach apply cs xs)[k]? = some y) :
    ∃ x, xs[k]? = some x ∧ (y = x ∨ ∃ c, y = apply c x) := by
  induction cs generalizing xs k with
  | nil =>
      cases xs with
      | nil => cases h
      | cons x xs => exact ⟨y, h, .inl rfl⟩
  | cons c cs ih =>
      cases xs with
      | nil => cases h
      | cons x xs =>
          cases k with
          | zero => exact ⟨x, rfl, .inr ⟨c, (Option.some.inj h).symm⟩⟩
          | succ k =>
              have h' : (applyEach apply cs xs)[k]? = some y := h
              obtain ⟨x', hx', hy⟩ := ih h'
              exact ⟨x', hx', hy⟩

namespace Node

/-- Loading a configuration stores it in the parameters of the node and ends with a reset. -/
theorem exists_of_loadConfig (n : Node) (c : DeviceConfig) : ∃ (id : NodeId) (d : Device),
    (n.loadConfig c).device = d.resetCommunication ∧
      d.rpdos = applyEach RpdoConfig.apply c.rpdos { n with id := id }.assignIdentity.device.rpdos ∧
      d.tpdos = applyEach TpdoConfig.apply c.tpdos
        { n with id := id }.assignIdentity.device.tpdos := by
  unfold loadConfig
  cases NodeId.ofRaw c.nodeId with
  | ok id => exact ⟨id, _, rfl, rfl, rfl⟩
  | error e => exact ⟨n.id, _, rfl, rfl, rfl⟩

theorem exists_of_assignIdentity_rpdos {n : Node} {k : Nat} {r' : Rpdo}
    (h : n.assignIdentity.device.rpdos[k]? = some r') :
    ∃ r params, n.device.rpdos[k]? = some r ∧ r' = { r with params := params } := by
  simp only [assignIdentity, Device.assignIdentity, List.getElem?_mapIdx] at h
  obtain ⟨r, hr, rfl⟩ := Option.map_eq_some_iff.mp h
  exact ⟨r, _, hr, rfl⟩

theorem exists_of_assignIdentity_tpdos {n : Node} {k : Nat} {t' : Tpdo}
    (h : n.assignIdentity.device.tpdos[k]? = some t') :
    ∃ t params, n.device.tpdos[k]? = some t ∧ t' = { t with params := params } := by
  simp only [assignIdentity, Device.assignIdentity, List.getElem?_mapIdx] at h
  obtain ⟨t, ht, rfl⟩ := Option.map_eq_some_iff.mp h
  exact ⟨t, _, ht, rfl⟩

/-! ### Receive PDOs -/

section receive
variable {n : Node} {k : Nat} {e : Event σ} {r' : Rpdo}

theorem rpdo_of_answered {d' : Device} {p : Parameter} {sub : UInt8} {data : Bytes}
    {outcome : WriteOutcome} (ha : n.device.Answered sub data p outcome d')
    (hwrites : outcome = .ok () → e.Writes n p sub data) (h : d'.rpdos[k]? = some r') :
    ∃ r, n.device.rpdos[k]? = some r ∧ r.Stepped n k e r' := by
  cases ha with
  | refused _ => exact ⟨r', h, .same⟩
  | sync _ _ => exact ⟨r', h, .same⟩
  | @rpdoComm i r _ hr hr' =>
      rcases eq_of_getElem?_set h with ⟨rfl, rfl⟩ | h
      · exact ⟨r, hr, .comm (hwrites rfl) hr'⟩
      · exact ⟨r', h, .same⟩
  | tpdoComm _ _ => exact ⟨r', h, .same⟩
  | @rpdoMap i r _ hr hw =>
      rcases eq_of_getElem?_set h with ⟨rfl, rfl⟩ | h
      · exact ⟨r, hr, .map hw⟩
      · exact ⟨r', h, .same⟩
  | tpdoMap _ _ => exact ⟨r', h, .same⟩

theorem rpdo_of_receive {f : Frame} (h : (n.receive f).2.device.rpdos[k]? = some r') :
    ∃ r, n.device.rpdos[k]? = some r ∧ r.Stepped n k (.frame (σ := σ) f) r' := by
  have hf := n.device.receive_received f
  obtain ⟨reception, hreception⟩ : ∃ c, c = (n.device.receive f).1 := ⟨_, rfl⟩
  replace h : (n.device.receive f).2.rpdos[k]? = some r' := h
  rw [← hreception] at hf
  generalize (n.device.receive f).2 = d' at hf h
  cases hf with
  | sync _ => exact ⟨r', h, .same⟩
  | @accepted i r _ hr _ hrec =>
      rcases eq_of_getElem?_set h with ⟨rfl, rfl⟩ | h
      · exact ⟨r, hr, .staged f rfl hreception.symm hrec⟩
      · exact ⟨r', h, .same⟩
  | dropped _ _ _ _ => exact ⟨r', h, .same⟩
  | unclaimed _ => exact ⟨r', h, .same⟩

theorem rpdo_of_reset {d : Device} (he : e.IsReset) (h : d.resetCommunication.rpdos[k]? = some r')
    (hd : ∀ r₁, d.rpdos[k]? = some r₁ →
      ∃ r params, n.device.rpdos[k]? = some r ∧ r₁ = { r with params := params }) :
    ∃ r, n.device.rpdos[k]? = some r ∧ r.Stepped n k e r' := by
  rw [Device.resetCommunication_rpdos, List.getElem?_map] at h
  obtain ⟨r₁, hr₁, rfl⟩ := Option.map_eq_some_iff.mp h
  obtain ⟨r, params, hr, rfl⟩ := hd r₁ hr₁
  exact ⟨r, hr, .reset params _ he⟩

/-- Every event treats a receive PDO in one of the ways of `Rpdo.Stepped`. -/
theorem rpdo_step [Transport σ] (h : (n.step e).device.rpdos[k]? = some r') :
    ∃ r, n.device.rpdos[k]? = some r ∧ r.Stepped n k e r' := by
  cases e with
  | tick now link =>
      have hrpdos := n.device.tick_rpdos (Micros.elapsed n.lastTick now) link
      replace h : (n.device.tick (Micros.elapsed n.lastTick now) link).2.1.rpdos[k]? = some r' := h
      rw [hrpdos, List.getElem?_map] at h
      obtain ⟨r, hr, rfl⟩ := Option.map_eq_some_iff.mp h
      exact ⟨r, hr, .taken _ _⟩
  | frame f => exact rpdo_of_receive h
  | write id data =>
      replace h : (n.device.write id data).2.rpdos[k]? = some r' := h
      rcases n.device.write_cases id data with ⟨objects, hwrite⟩ | ⟨p, hp, hwrite⟩
      · rw [hwrite] at h
        exact ⟨r', h, .same⟩
      · have ha := n.device.writeParameter_answered p id.sub data
        rw [← hwrite] at ha
        exact rpdo_of_answered ha (.whole hp rfl) h
  | writeLeading id data =>
      replace h : (n.device.writeLeading id data).2.rpdos[k]? = some r' := h
      rcases n.device.writeLeading_cases id data with
        ⟨objects, hwrite⟩ | ⟨p, info, value, hp, hinfo, hvalue, hwrite⟩
      · rw [hwrite] at h
        exact ⟨r', h, .same⟩
      · have ha := n.device.writeParameter_answered p id.sub value
        rw [← hwrite] at ha
        exact rpdo_of_answered ha (.leading hp rfl hinfo hvalue) h
  | store index i v =>
      obtain ⟨objects, hstore⟩ := n.device.exists_store_eq index i v
      replace h : (n.device.store index i v).rpdos[k]? = some r' := h
      rw [hstore] at h
      exact ⟨r', h, .same⟩
  | requestSend _ => exact ⟨r', h, .same⟩
  | setNmt _ => exact ⟨r', h, .same⟩
  | setNodeId id => exact rpdo_of_reset trivial h fun _ => exists_of_assignIdentity_rpdos
  | reset => exact rpdo_of_reset trivial h fun r hr => ⟨r, r.params, hr, rfl⟩
  | loadConfig c =>
      obtain ⟨id, d, hd, hrpdos, _⟩ := n.exists_of_loadConfig c
      replace h : (n.loadConfig c).device.rpdos[k]? = some r' := h
      rw [hd] at h
      refine rpdo_of_reset trivial h fun r₂ hr₂ => ?_
      rw [hrpdos] at hr₂
      obtain ⟨r₁, hr₁, hr₂⟩ := exists_of_applyEach hr₂
      obtain ⟨r, params, hr, rfl⟩ := exists_of_assignIdentity_rpdos hr₁
      rcases hr₂ with rfl | ⟨config, rfl⟩
      · exact ⟨r, params, hr, rfl⟩
      · exact ⟨r, _, hr, rfl⟩

end receive

/-! ### Transmit PDOs -/

section transmit
variable [Transport σ] {n : Node} {k : Nat} {e : Event σ} {t' : Tpdo}

theorem tpdo_of_answered {d' : Device} {p : Parameter} {sub : UInt8} {data : Bytes}
    {outcome : WriteOutcome} (ha : n.device.Answered sub data p outcome d')
    (hwrites : outcome = .ok () → e.Writes n p sub data) (h : d'.tpdos[k]? = some t') :
    ∃ t, n.device.tpdos[k]? = some t ∧ t.Stepped n k e t' := by
  cases ha with
  | refused _ => exact ⟨t', h, .same⟩
  | sync _ _ => exact ⟨t', h, .same⟩
  | rpdoComm _ _ => exact ⟨t', h, .same⟩
  | @tpdoComm i t _ ht ht' =>
      rcases eq_of_getElem?_set h with ⟨rfl, rfl⟩ | h
      · exact ⟨t, ht, .comm (hwrites rfl) ht'⟩
      · exact ⟨t', h, .same⟩
  | rpdoMap _ _ => exact ⟨t', h, .same⟩
  | @tpdoMap i t _ ht hw =>
      rcases eq_of_getElem?_set h with ⟨rfl, rfl⟩ | h
      · exact ⟨t, ht, .map hw⟩
      · exact ⟨t', h, .same⟩

theorem tpdo_of_reset {d : Device} (he : e.IsReset) (h : d.resetCommunication.tpdos[k]? = some t')
    (hd : ∀ t₁, d.tpdos[k]? = some t₁ → ∃ t params inhibitTime eventTime syncStart,
      n.device.tpdos[k]? = some t ∧ t₁ = { t with
        params := params
        inhibitTime := inhibitTime
        eventTime := eventTime
        syncStart := syncStart }) :
    ∃ t, n.device.tpdos[k]? = some t ∧ t.Stepped n k e t' := by
  rw [Device.resetCommunication_tpdos, List.getElem?_map] at h
  obtain ⟨t₁, ht₁, rfl⟩ := Option.map_eq_some_iff.mp h
  obtain ⟨t, params, inhibitTime, eventTime, syncStart, ht, rfl⟩ := hd t₁ ht₁
  exact ⟨t, ht, .reset params inhibitTime eventTime syncStart _ he⟩

/-- Every event treats a transmit PDO in one of the ways of `Tpdo.Stepped`. -/
theorem tpdo_step (h : (n.step e).device.tpdos[k]? = some t') :
    ∃ t, n.device.tpdos[k]? = some t ∧ t.Stepped n k e t' := by
  cases e with
  | tick now link =>
      obtain ⟨link', _, htpdos⟩ := n.device.tick_tpdos (Micros.elapsed n.lastTick now) link k
      replace h : (n.device.tick (Micros.elapsed n.lastTick now) link).2.1.tpdos[k]? = some t' := h
      rw [htpdos] at h
      obtain ⟨t, ht, rfl⟩ := Option.map_eq_some_iff.mp h
      exact ⟨t, ht, .processed now link link' rfl⟩
  | frame f =>
      have hf := n.device.receive_received f
      replace h : (n.device.receive f).2.tpdos[k]? = some t' := h
      rw [hf.tpdos] at h
      exact ⟨t', h, .same⟩
  | write id data =>
      replace h : (n.device.write id data).2.tpdos[k]? = some t' := h
      rcases n.device.write_cases id data with ⟨objects, hwrite⟩ | ⟨p, hp, hwrite⟩
      · rw [hwrite] at h
        exact ⟨t', h, .same⟩
      · have ha := n.device.writeParameter_answered p id.sub data
        rw [← hwrite] at ha
        exact tpdo_of_answered ha (.whole hp rfl) h
  | writeLeading id data =>
      replace h : (n.device.writeLeading id data).2.tpdos[k]? = some t' := h
      rcases n.device.writeLeading_cases id data with
        ⟨objects, hwrite⟩ | ⟨p, info, value, hp, hinfo, hvalue, hwrite⟩
      · rw [hwrite] at h
        exact ⟨t', h, .same⟩
      · have ha := n.device.writeParameter_answered p id.sub value
        rw [← hwrite] at ha
        exact tpdo_of_answered ha (.leading hp rfl hinfo hvalue) h
  | store index i v =>
      obtain ⟨objects, hstore⟩ := n.device.exists_store_eq index i v
      replace h : (n.device.store index i v).tpdos[k]? = some t' := h
      rw [hstore] at h
      exact ⟨t', h, .same⟩
  | requestSend i =>
      replace h : (n.device.requestSend i).tpdos[k]? = some t' := h
      simp only [Device.requestSend, Device.modifyTpdo, List.getElem?_modify] at h
      obtain ⟨t, ht, rfl⟩ := Option.map_eq_some_iff.mp h
      refine ⟨t, ht, ?_⟩
      split
      · rename_i hi
        exact .requested (congrArg Event.requestSend hi)
      · exact .same
  | setNmt _ => exact ⟨t', h, .same⟩
  | setNodeId id =>
      refine tpdo_of_reset trivial h fun t₁ ht₁ => ?_
      obtain ⟨t, params, ht, rfl⟩ := exists_of_assignIdentity_tpdos ht₁
      exact ⟨t, params, _, _, _, ht, rfl⟩
  | reset => exact tpdo_of_reset trivial h fun t ht => ⟨t, t.params, _, _, _, ht, rfl⟩
  | loadConfig c =>
      obtain ⟨id, d, hd, _, htpdos⟩ := n.exists_of_loadConfig c
      replace h : (n.loadConfig c).device.tpdos[k]? = some t' := h
      rw [hd] at h
      refine tpdo_of_reset trivial h fun t₂ ht₂ => ?_
      rw [htpdos] at ht₂
      obtain ⟨t₁, ht₁, ht₂⟩ := exists_of_applyEach ht₂
      obtain ⟨t, params, ht, rfl⟩ := exists_of_assignIdentity_tpdos ht₁
      rcases ht₂ with rfl | ⟨config, rfl⟩
      · exact ⟨t, params, _, _, _, ht, rfl⟩
      · exact ⟨t, _, _, _, _, ht, rfl⟩

end transmit

/-! ### The SYNC object -/

section sync
variable {n : Node} {e : Event σ}

theorem sync_of_written {d' : Device} (hw : n.device.Written d') :
    n.device.sync.Stepped n e d'.sync := by
  cases hw with
  | sync hs => exact .written hs
  | refused => exact .same
  | application _ => exact .same
  | rpdoComm _ _ => exact .same
  | tpdoComm _ _ => exact .same
  | rpdoMap _ _ => exact .same
  | tpdoMap _ _ => exact .same

/-- Every event treats the SYNC object in one of the ways of `SyncState.Stepped`. -/
theorem sync_step [Transport σ] (n : Node) (e : Event σ) :
    n.device.sync.Stepped n e (n.step e).device.sync := by
  cases e with
  | tick now link => exact .advanced now link rfl
  | frame f =>
      have hf := n.device.receive_received f
      show n.device.sync.Stepped n (.frame f) (n.device.receive f).2.sync
      generalize (n.device.receive f).1 = reception at hf
      generalize (n.device.receive f).2 = d' at hf ⊢
      cases hf with
      | sync hid => exact .received f rfl hid
      | accepted _ _ _ _ => exact .same
      | dropped _ _ _ _ => exact .same
      | unclaimed _ => exact .same
  | write id data => exact sync_of_written (n.device.write_written id data)
  | writeLeading id data => exact sync_of_written (n.device.writeLeading_written id data)
  | store index i v =>
      obtain ⟨objects, hstore⟩ := n.device.exists_store_eq index i v
      show n.device.sync.Stepped n _ (n.device.store index i v).sync
      rw [hstore]
      exact .same
  | requestSend _ => exact .same
  | setNmt _ => exact .same
  | setNodeId _ => exact .reset trivial
  | reset => exact .reset trivial
  | loadConfig c =>
      have hsync : (n.loadConfig c).device.sync = (c.sync.apply n.device.sync).reset := by
        unfold loadConfig
        cases NodeId.ofRaw c.nodeId <;> rfl
      show n.device.sync.Stepped n _ (n.loadConfig c).device.sync
      rw [hsync]
      exact .configured c rfl

end sync

end Node

/-! ### The numbers of PDOs -/

namespace Device

theorem Written.length_eq {d d' : Device} (h : d.Written d') :
    d'.rpdos.length = d.rpdos.length ∧ d'.tpdos.length = d.tpdos.length := by
  cases h with
  | refused => exact ⟨rfl, rfl⟩
  | application _ => exact ⟨rfl, rfl⟩
  | sync _ => exact ⟨rfl, rfl⟩
  | rpdoComm _ _ => exact ⟨List.length_set, rfl⟩
  | tpdoComm _ _ => exact ⟨rfl, List.length_set⟩
  | rpdoMap _ _ => exact ⟨List.length_set, rfl⟩
  | tpdoMap _ _ => exact ⟨rfl, List.length_set⟩

theorem Received.length_eq {d d' : Device} {f : Frame} {reception : Reception}
    (h : d.Received f reception d') :
    d'.rpdos.length = d.rpdos.length ∧ d'.tpdos.length = d.tpdos.length := by
  cases h with
  | sync _ => exact ⟨rfl, rfl⟩
  | accepted _ _ _ _ => exact ⟨List.length_set, rfl⟩
  | dropped _ _ _ _ => exact ⟨rfl, rfl⟩
  | unclaimed _ => exact ⟨rfl, rfl⟩

theorem length_tickTpdos {σ : Type} [Transport σ] (objects : Dictionary) (sync : SyncState)
    (syncOccurred : Bool) (elapsed : Micros) (nmt : NmtState) (ts : List Tpdo)
    (errors : ErrorStatus) (link : σ) :
    (tickTpdos objects sync syncOccurred elapsed nmt ts errors link).2.1.length = ts.length := by
  induction ts generalizing errors link with
  | nil => rfl
  | cons t ts ih => exact congrArg (· + 1) (ih _ _)

theorem length_tick {σ : Type} [Transport σ] (d : Device) (elapsed : Micros) (link : σ) :
    (d.tick elapsed link).2.1.rpdos.length = d.rpdos.length ∧
      (d.tick elapsed link).2.1.tpdos.length = d.tpdos.length := by
  rw [tick_rpdos, List.length_map]
  exact ⟨rfl, length_tickTpdos _ _ _ _ _ _ _ _⟩

theorem length_resetCommunication (d : Device) :
    d.resetCommunication.rpdos.length = d.rpdos.length ∧
      d.resetCommunication.tpdos.length = d.tpdos.length := by
  rw [resetCommunication_rpdos, resetCommunication_tpdos]
  exact ⟨List.length_map _, List.length_map _⟩

theorem length_assignIdentity (d : Device) (offset : UInt8) :
    (d.assignIdentity offset).rpdos.length = d.rpdos.length ∧
      (d.assignIdentity offset).tpdos.length = d.tpdos.length :=
  ⟨List.length_mapIdx, List.length_mapIdx⟩

end Device

namespace Node

theorem length_step [Transport σ] (n : Node) (e : Event σ) :
    (n.step e).device.rpdos.length = n.device.rpdos.length ∧
      (n.step e).device.tpdos.length = n.device.tpdos.length := by
  cases e with
  | tick now link => exact n.device.length_tick _ link
  | frame f => exact (n.device.receive_received f).length_eq
  | write id data => exact (n.device.write_written id data).length_eq
  | writeLeading id data => exact (n.device.writeLeading_written id data).length_eq
  | store index i v =>
      obtain ⟨objects, hstore⟩ := n.device.exists_store_eq index i v
      show (n.device.store index i v).rpdos.length = _ ∧ (n.device.store index i v).tpdos.length = _
      rw [hstore]
      exact ⟨rfl, rfl⟩
  | requestSend i => exact ⟨rfl, List.length_modify ..⟩
  | setNmt _ => exact ⟨rfl, rfl⟩
  | setNodeId id =>
      obtain ⟨hrpdos, htpdos⟩ := (n.device.assignIdentity id.offset).length_resetCommunication
      obtain ⟨hrpdos', htpdos'⟩ := n.device.length_assignIdentity id.offset
      exact ⟨hrpdos.trans hrpdos', htpdos.trans htpdos'⟩
  | reset => exact n.device.length_resetCommunication
  | loadConfig c =>
      obtain ⟨id, d, hd, hrpdos, htpdos⟩ := n.exists_of_loadConfig c
      obtain ⟨hrpdos', htpdos'⟩ := n.device.length_assignIdentity id.offset
      show (n.loadConfig c).device.rpdos.length = _ ∧ (n.loadConfig c).device.tpdos.length = _
      rw [hd, d.length_resetCommunication.1, d.length_resetCommunication.2, hrpdos, htpdos,
        length_applyEach, length_applyEach]
      exact ⟨hrpdos', htpdos'⟩

theorem exists_rpdo_step [Transport σ] {n : Node} {k : Nat} {r : Rpdo}
    (h : n.device.rpdos[k]? = some r) (e : Event σ) :
    ∃ r', (n.step e).device.rpdos[k]? = some r' ∧ r.Stepped n k e r' := by
  have hlt : k < (n.step e).device.rpdos.length := by
    rw [(n.length_step e).1]
    exact (List.getElem?_eq_some_iff.mp h).1
  have h' := List.getElem?_eq_getElem hlt
  obtain ⟨r₀, hr₀, hstep⟩ := rpdo_step h'
  obtain rfl := Option.some.inj (hr₀.symm.trans h)
  exact ⟨_, h', hstep⟩

theorem exists_tpdo_step [Transport σ] {n : Node} {k : Nat} {t : Tpdo}
    (h : n.device.tpdos[k]? = some t) (e : Event σ) :
    ∃ t', (n.step e).device.tpdos[k]? = some t' ∧ t.Stepped n k e t' := by
  have hlt : k < (n.step e).device.tpdos.length := by
    rw [(n.length_step e).2]
    exact (List.getElem?_eq_some_iff.mp h).1
  have h' := List.getElem?_eq_getElem hlt
  obtain ⟨t₀, ht₀, hstep⟩ := tpdo_step h'
  obtain rfl := Option.some.inj (ht₀.symm.trans h)
  exact ⟨_, h', hstep⟩

end Node

end Canopen
