import Canopen.Proofs.Operations

/-! # Refused writes

A write to the object dictionary is checked before anything is stored.  So a refused write leaves the
whole node as it is, whatever it is addressed to, with one exception (`Device.Unmapped`): the number
of entries of a mapping is put into effect before it is stored, and one that cannot be resolved leaves
the PDO without a mapping, which is reported.  An accepted write to an object of a PDO changes nothing
but that PDO (`Device.ChangedPdo`). -/

namespace Canopen

/-- A number of entries that may be written, for which the parameters of the PDO cannot be resolved. -/
structure Unresolvable (d : Device) (p : PdoParams) (valid : Bool) (direction : Direction)
    (data : Bytes) (fault : MappingError) : Prop where
  permitted : p.restrictions.checkMap d.nmt = .ok ()
  disabled : valid = false
  unresolved : ∃ n : UInt8, data = [n] ∧ n.toNat ≤ maxMappings ∧
    p.resolve d.attributes direction n = .error fault

/-- The answer to a number of entries that cannot be resolved, and the device after it.  The PDO has
lost its mapping; its stored parameters are what they were. -/
inductive Device.Unmapped (d : Device) (id : ObjectId) (data : Bytes) : AbortCode → Device → Prop
  | rpdo {k : Nat} {r : Rpdo} {fault : MappingError} :
      d.object id.index = .ok (.parameter (.rpdoMap k)) → id.sub = 0 → d.rpdos[k]? = some r →
      Unresolvable d r.params r.valid .receive data fault →
      Unmapped d id data fault.abort { d with
        rpdos := d.rpdos.set k { r with mapping := .empty }
        errors := d.errors.reportMapping fault }
  | tpdo {k : Nat} {t : Tpdo} {fault : MappingError} :
      d.object id.index = .ok (.parameter (.tpdoMap k)) → id.sub = 0 → d.tpdos[k]? = some t →
      Unresolvable d t.params t.valid .transmit data fault →
      Unmapped d id data fault.abort { d with
        tpdos := d.tpdos.set k { t with mapping := .empty, frame := { t.frame with dlc := 0 } }
        errors := d.errors.reportMapping fault }

/-- The devices that differ in nothing but the PDO to which a parameter object belongs. -/
inductive Device.ChangedPdo (d : Device) : Parameter → Device → Prop
  | rpdoComm (k : Nat) (r : Rpdo) : ChangedPdo d (.rpdoComm k) { d with rpdos := d.rpdos.set k r }
  | rpdoMap (k : Nat) (r : Rpdo) : ChangedPdo d (.rpdoMap k) { d with rpdos := d.rpdos.set k r }
  | tpdoComm (k : Nat) (t : Tpdo) : ChangedPdo d (.tpdoComm k) { d with tpdos := d.tpdos.set k t }
  | tpdoMap (k : Nat) (t : Tpdo) : ChangedPdo d (.tpdoMap k) { d with tpdos := d.tpdos.set k t }

/-! ### Writes of mapping parameters -/

theorem checkMappingWrite_count {d : Device} {p : PdoParams} {valid : Bool} {sub n : UInt8}
    (hpermitted : p.restrictions.checkMap d.nmt = .ok ()) (hvalid : valid = false)
    (hstarted : d.started = true) (hsub : sub = 0) (hle : n.toNat ≤ maxMappings) (m : MappedPdo)
    (direction : Direction) :
    checkMappingWrite p valid m direction d.attributes d.started d.nmt sub [n] = .ok (.count n) := by
  have hdata : byteOfData [n] = .ok n := byteOfData_eq_ok_iff.mpr rfl
  unfold checkMappingWrite
  rw [hpermitted, hvalid, hstarted, hsub, hdata]
  show (if maxMappings < n.toNat then _ else Except.ok (MappingWrite.count n)) = _
  rw [if_neg (Nat.not_lt.mpr hle)]

/-- A write of mapping parameters succeeds without a report, or it is one of a number of entries that
cannot be resolved. -/
theorem Rpdo.applyMapping_cases (r : Rpdo) (attributes : Attributes) (errors : ErrorStatus)
    (w : MappingWrite) :
    (∃ r', r.applyMapping attributes errors w = ⟨r', errors, .ok ()⟩) ∨
      ∃ n fault, w = .count n ∧ r.params.resolve attributes .receive n = .error fault := by
  cases w with
  | entry i w => exact .inl ⟨_, rfl⟩
  | count n =>
      cases h : r.params.resolve attributes .receive n with
      | ok m => exact .inl ⟨_, applyMapping_of_ok h errors⟩
      | error fault => exact .inr ⟨n, fault, rfl, h⟩

theorem Tpdo.applyMapping_cases (t : Tpdo) (attributes : Attributes) (errors : ErrorStatus)
    (w : MappingWrite) :
    (∃ t', t.applyMapping attributes errors w = ⟨t', errors, .ok ()⟩) ∨
      ∃ n fault, w = .count n ∧ t.params.resolve attributes .transmit n = .error fault := by
  cases w with
  | entry i w => exact .inl ⟨_, rfl⟩
  | count n =>
      cases h : t.params.resolve attributes .transmit n with
      | ok m => exact .inl ⟨_, applyMapping_of_ok h errors⟩
      | error fault => exact .inr ⟨n, fault, rfl, h⟩

/-- What a permitted write of so many entries says, if they cannot be resolved. -/
theorem unresolvable_of_checkMappingWrite {d : Device} {p : PdoParams} {valid : Bool} {m : MappedPdo}
    {direction : Direction} {sub : UInt8} {data : Bytes} {n : UInt8} {fault : MappingError}
    (h : checkMappingWrite p valid m direction d.attributes d.started d.nmt sub data =
      .ok (.count n)) (hfault : p.resolve d.attributes direction n = .error fault) :
    sub = 0 ∧ Unresolvable d p valid direction data fault := by
  obtain ⟨hpermitted, hvalid, _, ⟨hsub, n', hdata, hle, hn⟩ | ⟨_, _, _, hn⟩⟩ := checkMappingWrite_ok h
  · obtain rfl := MappingWrite.count.inj hn
    exact ⟨hsub, hpermitted, hvalid, n, hdata, hle, hfault⟩
  · cases hn

namespace Device

/-! ### Writes to a device -/

theorem Answered.of_error {d d' : Device} {id : ObjectId} {data : Bytes} {p : Parameter}
    {outcome : WriteOutcome} (h : d.Answered id.sub data p outcome d')
    (hp : d.object id.index = .ok (.parameter p)) {e : AbortCode} (he : outcome = .error e) :
    d' = d ∨ d.Unmapped id data e d' := by
  cases h with
  | refused e' => exact .inl rfl
  | sync _ _ => cases he
  | rpdoComm _ _ => cases he
  | tpdoComm _ _ => cases he
  | @rpdoMap k r w hr hw =>
      rcases r.applyMapping_cases d.attributes d.errors w with ⟨r', happly⟩ | ⟨n, fault, rfl, hfault⟩
      · rw [happly] at he
        cases he
      · obtain ⟨hsub, hcount⟩ := unresolvable_of_checkMappingWrite hw hfault
        rw [Rpdo.applyMapping_of_error hfault] at he ⊢
        obtain rfl := Except.error.inj he
        exact .inr (.rpdo hp hsub hr hcount)
  | @tpdoMap k t w ht hw =>
      rcases t.applyMapping_cases d.attributes d.errors w with ⟨t', happly⟩ | ⟨n, fault, rfl, hfault⟩
      · rw [happly] at he
        cases he
      · obtain ⟨hsub, hcount⟩ := unresolvable_of_checkMappingWrite hw hfault
        rw [Tpdo.applyMapping_of_error hfault] at he ⊢
        obtain rfl := Except.error.inj he
        exact .inr (.tpdo hp hsub ht hcount)

theorem Answered.of_ok {d d' : Device} {sub : UInt8} {data : Bytes} {p : Parameter}
    {outcome : WriteOutcome} (h : d.Answered sub data p outcome d') (hp : p.isSync = false)
    (hok : outcome = .ok ()) : d.ChangedPdo p d' := by
  cases h with
  | refused e => cases hok
  | sync hsync _ =>
      rw [hp] at hsync
      cases hsync
  | rpdoComm _ _ => exact .rpdoComm _ _
  | tpdoComm _ _ => exact .tpdoComm _ _
  | @rpdoMap k r w _ _ =>
      rcases r.applyMapping_cases d.attributes d.errors w with ⟨r', happly⟩ | ⟨n, fault, rfl, hfault⟩
      · rw [happly]
        exact .rpdoMap k r'
      · rw [Rpdo.applyMapping_of_error hfault] at hok
        cases hok
  | @tpdoMap k t w _ _ =>
      rcases t.applyMapping_cases d.attributes d.errors w with ⟨t', happly⟩ | ⟨n, fault, rfl, hfault⟩
      · rw [happly]
        exact .tpdoMap k t'
      · rw [Tpdo.applyMapping_of_error hfault] at hok
        cases hok

variable {d : Device} {id : ObjectId} {data : Bytes}

theorem eq_or_unmapped_of_write {e : AbortCode} (h : (d.write id data).1 = .error e) :
    (d.write id data).2 = d ∨ d.Unmapped id data e (d.write id data).2 := by
  cases ho : d.object id.index with
  | error e' =>
      unfold write
      rw [ho]
      exact .inl rfl
  | ok object =>
      cases object with
      | application o =>
          unfold write at h ⊢
          rw [ho] at h ⊢
          dsimp only at h ⊢
          cases hresult : o.write id.sub data with
          | ok o' =>
              rw [hresult] at h
              cases h
          | error e' => exact .inl rfl
      | parameter p =>
          rw [write_parameter ho] at h ⊢
          exact (d.writeParameter_answered p id.sub data).of_error ho h

theorem Unmapped.write_eq {e : AbortCode} {d' : Device} (h : d.Unmapped id data e d')
    (hstarted : d.started = true) : d.write id data = (.error e, d') := by
  cases h with
  | @rpdo k r fault ho hsub hr hcount =>
      obtain ⟨hpermitted, hdisabled, n, rfl, hle, hfault⟩ := hcount
      have hcheck := checkMappingWrite_count hpermitted hdisabled hstarted hsub hle r.mapping
        .receive
      rw [write_parameter ho]
      show d.writeRpdoMap k id.sub [n] = _
      unfold writeRpdoMap
      simp only [rpdo_of_getElem? hr, hcheck, Rpdo.applyMapping_of_error hfault, mappingOutcome]
  | @tpdo k t fault ho hsub ht hcount =>
      obtain ⟨hpermitted, hdisabled, n, rfl, hle, hfault⟩ := hcount
      have hcheck := checkMappingWrite_count hpermitted hdisabled hstarted hsub hle t.mapping
        .transmit
      rw [write_parameter ho]
      show d.writeTpdoMap k id.sub [n] = _
      unfold writeTpdoMap
      simp only [tpdo_of_getElem? ht, hcheck, Tpdo.applyMapping_of_error hfault, mappingOutcome]
      rfl

theorem Unmapped.sub_eq {e : AbortCode} {d' : Device} (h : d.Unmapped id data e d') : id.sub = 0 := by
  cases h with
  | rpdo _ hsub _ _ => exact hsub
  | tpdo _ hsub _ _ => exact hsub

theorem changedPdo_of_write {p : Parameter} (ho : d.object id.index = .ok (.parameter p))
    (hp : p.isSync = false) (hok : (d.write id data).1 = .ok ()) :
    d.ChangedPdo p (d.write id data).2 := by
  rw [write_parameter ho] at hok ⊢
  exact (d.writeParameter_answered p id.sub data).of_ok hp hok

theorem Written.started {d' : Device} (h : d.Written d') : d'.started = d.started := by
  cases h <;> rfl

theorem Received.started {d' : Device} {f : Frame} {reception : Reception}
    (h : d.Received f reception d') : d'.started = d.started := by
  cases h <;> rfl

end Device

namespace Node

variable {σ : Type} [Transport σ]

/-- A node is started once. -/
theorem started_step (n : Node) (e : Event σ) : (n.step e).device.started = n.device.started := by
  cases e with
  | tick now link => rfl
  | frame f => exact (n.device.receive_received f).started
  | write id data => exact (n.device.write_written id data).started
  | writeLeading id data => exact (n.device.writeLeading_written id data).started
  | store index i v =>
      obtain ⟨objects, hstore⟩ := n.device.exists_store_eq index i v
      show (n.device.store index i v).started = _
      rw [hstore]
  | requestSend _ => rfl
  | setNmt _ => rfl
  | setNodeId _ => rfl
  | reset => rfl
  | loadConfig c =>
      show (n.loadConfig c).device.started = _
      unfold loadConfig
      cases NodeId.ofRaw c.nodeId <;> rfl

theorem started_run (id : NodeId) (d : Device) (es : List (Event σ)) :
    ((Node.start id d).run es).device.started = true :=
  run_invariant (I := fun n => n.device.started = true)
    (fun n e h => (n.started_step e).trans h) rfl es

/-- **A refused write changes nothing, but for a number of mapping entries that cannot be resolved.**
This holds of every object, sub index and value, after every run of a node that was started on a
device with any number of fresh PDOs and any object dictionary.  The exception comes about whenever
its conditions hold.  An accepted write to an object of a PDO leaves everything else of the node as it
is. -/
theorem write_refused (id : NodeId) (rpdos tpdos : Nat) (dictionary : Dictionary)
    (es : List (Event σ)) (object : ObjectId) (data : Bytes) :
    let n := (Node.start id (Device.fresh rpdos tpdos dictionary)).run es
    (∀ e, (n.write object data).1 = .error e → (n.write object data).2 = n ∨
        ∃ d, n.device.Unmapped object data e d ∧ (n.write object data).2 = { n with device := d }) ∧
      (∀ e d, n.device.Unmapped object data e d →
        n.write object data = (.error e, { n with device := d })) ∧
      ∀ p, n.device.object object.index = .ok (.parameter p) → p.isSync = false →
        (n.write object data).1 = .ok () →
        ∃ d, n.device.ChangedPdo p d ∧ (n.write object data).2 = { n with device := d } := by
  intro n
  refine ⟨fun e he => ?_, fun e d hd => ?_, fun p ho hp hok => ?_⟩
  · rcases Device.eq_or_unmapped_of_write he with hsame | hunmapped
    · exact .inl (congrArg (fun d => { n with device := d }) hsame)
    · exact .inr ⟨_, hunmapped, rfl⟩
  · have hwrite := hd.write_eq (started_run id _ es)
    unfold Node.write
    rw [hwrite]
  · exact ⟨_, Device.changedPdo_of_write ho hp hok, rfl⟩

/-- A number of four bytes, and the mapping object of a receive PDO. -/
def mapperObjects : Dictionary :=
  let number := AppObject.var (SubInfo.u32.readWrite.mappable .rpdo) (.ofNumber .u32 0)
  ⟨[⟨0x1600, .parameter (.rpdoMap 0)⟩, ⟨0x2000, .application number⟩]⟩

/-- Store the number as a mapping entry. -/
def storeEntry (sub : UInt8) : Event Bus := .write ⟨0x1600, sub⟩ (.ofUInt32 0x20000020)

/-- A node with a disabled receive PDO that maps the number twice, and has it stored a third time. -/
def mapper : Node := (Node.start .unconfigured (Device.fresh 1 0 mapperObjects)).run
  [storeEntry 1, storeEntry 2, storeEntry 3, .write ⟨0x1600, 0⟩ [2]]

/-- Three times are too many: the PDO loses its mapping and keeps the stored number of entries.  One
entry can be resolved, and there is no sub object with the index nine. -/
theorem write_refused_mapper :
    mapper.write ⟨0x1600, 9⟩ [3] = (.error .noSuchSubIndex, mapper) ∧
      (∃ d, mapper.write ⟨0x1600, 0⟩ [3] = (.error .pdoTooLong, { mapper with device := d }) ∧
        d.rpdos.map (fun r => (r.mapping.dataLen, r.params.mappingCount)) = [(0, 2)] ∧
        d.errors.isActive .pdoWrongMapping = true) ∧
      ∃ r, mapper.write ⟨0x1600, 0⟩ [1] =
        (.ok (), { mapper with device := { mapper.device with rpdos := [r] } }) := by
  have hrefused := write_refused .unconfigured 1 0 mapperObjects
    [storeEntry 1, storeEntry 2, storeEntry 3, .write ⟨0x1600, 0⟩ [2]]
  refine ⟨?_, ?_, ?_⟩
  · rcases (hrefused ⟨0x1600, 9⟩ [3]).1 .noSuchSubIndex rfl with hkept | ⟨d, hd, _⟩
    · exact Prod.ext rfl hkept
    · exact absurd hd.sub_eq (by decide)
  · have hd : mapper.device.Unmapped ⟨0x1600, 0⟩ [3]
        (MappingError.abort ⟨.lengthExceeded, ⟨0x2000, 0⟩⟩) _ :=
      .rpdo rfl rfl rfl ⟨rfl, rfl, 3, rfl, by decide, rfl⟩
    exact ⟨_, (hrefused ⟨0x1600, 0⟩ [3]).2.1 _ _ hd, rfl, by decide⟩
  · obtain ⟨d, hd, hwrite⟩ := (hrefused ⟨0x1600, 0⟩ [1]).2.2 (.rpdoMap 0) rfl rfl rfl
    cases hd with
    | rpdoMap _ r => exact ⟨r, Prod.ext rfl hwrite⟩

end Node

end Canopen
