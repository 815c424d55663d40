import Canopen.Proofs.CheckedPdo

/-! # The object dictionary with checked operations

Every read, into a buffer of any length and from any position, and every write of the object
dictionary, with a checked result for every operation on the way.  The number of a sub object counts
from one where the positions of what it holds count from zero, and the bytes of a number are only
taken out of written data once the length of the data is checked.

The only thing that is asked of the device is that its pre-defined identifiers are small
(`Device.HasSmallIds`). -/

namespace Canopen

/-! ### Data -/

def bytesOfDataChecked (data : Bytes) (width : Nat) : ExceptT AbortCode Option Bytes := do
  total (checkLength data width)
  data.slice? 0 width

def byteOfDataChecked (data : Bytes) : ExceptT AbortCode Option UInt8 := do
  return (← bytesOfDataChecked data 1).toUInt8

def halfOfDataChecked (data : Bytes) : ExceptT AbortCode Option UInt16 := do
  return (← bytesOfDataChecked data 2).toUInt16

def wordOfDataChecked (data : Bytes) : ExceptT AbortCode Option UInt32 := do
  return (← bytesOfDataChecked data 4).toUInt32

def transmissionTypeOfDataChecked (data : Bytes) : ExceptT AbortCode Option TransmissionType := do
  let t : TransmissionType ← byteOfDataChecked data
  if t.isReserved then throw .invalidValue else return t

/-- Part of a value, read into a buffer. -/
def readPartChecked (value : Bytes) (offset : Nat) (buffer : Bytes) :
    ExceptT AbortCode Option (Nat × Bytes) :=
  if value.length < offset then throw .lengthTooHigh else liftM (value.copyOut? offset buffer)

theorem bytesOfDataChecked_eq (data : Bytes) (width : Nat) :
    bytesOfDataChecked data width = total ((checkLength data width).map fun _ => data) := by
  unfold bytesOfDataChecked
  cases h : checkLength data width with
  | error e => rfl
  | ok u =>
      have hlen := checkLength_eq_ok_iff.mp h
      have hwhole : data.window 0 width = data := by
        unfold Bytes.window
        rw [List.drop_zero, List.take_of_length_le (Nat.le_of_eq hlen)]
      rw [total_ok_bind, Bytes.slice?_eq (by omega), hwhole]
      rfl

theorem byteOfDataChecked_eq (data : Bytes) : byteOfDataChecked data = total (byteOfData data) := by
  unfold byteOfDataChecked byteOfData
  rw [bytesOfDataChecked_eq]
  cases checkLength data 1 <;> rfl

theorem halfOfDataChecked_eq (data : Bytes) : halfOfDataChecked data = total (halfOfData data) := by
  unfold halfOfDataChecked halfOfData
  rw [bytesOfDataChecked_eq]
  cases checkLength data 2 <;> rfl

theorem wordOfDataChecked_eq (data : Bytes) : wordOfDataChecked data = total (wordOfData data) := by
  unfold wordOfDataChecked wordOfData
  rw [bytesOfDataChecked_eq]
  cases checkLength data 4 <;> rfl

theorem transmissionTypeOfDataChecked_eq (data : Bytes) :
    transmissionTypeOfDataChecked data = total (transmissionTypeOfData data) := by
  unfold transmissionTypeOfDataChecked transmissionTypeOfData
  rw [byteOfDataChecked_eq]
  refine total_bind fun t _ => ?_
  split <;> rfl

theorem readPartChecked_eq (value : Bytes) (offset : Nat) (buffer : Bytes) :
    readPartChecked value offset buffer =
      total ((readPart value offset buffer.length).map buffer.fill) := by
  unfold readPartChecked readPart
  split
  · rfl
  · rw [Bytes.copyOut?_eq (by omega)]
    rfl

/-! ### Parameter objects -/

def SyncState.writeParameterChecked (s : SyncState) (p : Parameter) (data : Bytes) :
    ExceptT AbortCode Option SyncState :=
  match p with
  | .syncPeriod => do return s.writePeriod (← wordOfDataChecked data)
  | .syncWindow => do return { s with window := ← wordOfDataChecked data }
  | .syncOverflow => do
    let overflow ← byteOfDataChecked data
    total (s.writeCounterOverflow overflow)
  | _ => do
    let w ← wordOfDataChecked data
    total (s.writeCobId w)

theorem SyncState.writeParameterChecked_eq (s : SyncState) (p : Parameter) (data : Bytes) :
    s.writeParameterChecked p data = total (s.writeParameter p data) := by
  unfold writeParameterChecked writeParameter
  rw [wordOfDataChecked_eq, byteOfDataChecked_eq]
  cases p <;> exact total_bind fun _ _ => rfl

def mappingBytesChecked (params : PdoParams) (mapping : MappedPdo) (sub : UInt8) :
    ExceptT AbortCode Option Bytes :=
  if sub = 0 then return [if mapping.dataLen = 0 then 0 else params.mappingCount]
  else do
    let i ← subtract? sub.toNat 1
    match params.mappings.get? i with
    | some w => return .ofUInt32 w
    | none => throw .noSuchSubIndex

theorem subtract?_sub_one {sub : UInt8} (h : sub ≠ 0) :
    subtract? sub.toNat 1 = some (sub.toNat - 1) := by
  have hne := mt UInt8.toNat_inj.mp h
  rw [UInt8.toNat_zero] at hne
  exact subtract?_eq (by omega)

theorem mappingBytesChecked_eq (params : PdoParams) (mapping : MappedPdo) (sub : UInt8) :
    mappingBytesChecked params mapping sub = total (mappingBytes params mapping sub) := by
  unfold mappingBytesChecked mappingBytes
  by_cases h : sub = 0
  · rw [if_pos h, if_pos h]
    rfl
  · rw [if_neg h, if_neg h, subtract?_sub_one h, lift_some, total_ok_bind]
    cases params.mappings.get? (sub.toNat - 1) <;> rfl

def checkMappingWriteChecked (d : Device) (params : PdoParams) (valid : Bool) (mapping : MappedPdo)
    (direction : Direction) (sub : UInt8) (data : Bytes) :
    ExceptT AbortCode Option MappingWrite := do
  let _ ← total ((Parameter.rpdoMap 0).subInfo sub)
  total (params.restrictions.checkMap d.nmt)
  if valid then throw .invalidValue
  else if !d.started then throw .resourceNotAvailable
  else if sub = 0 then do
    let count ← byteOfDataChecked data
    if maxMappings < count.toNat then throw .valueTooHigh else return .count count
  else do
    let w ← wordOfDataChecked data
    if mapping.dataLen ≠ 0 then throw .invalidValue
    else
      match ← ((resolveEntryChecked d.dictionary d.rpdos.length d.tpdos.length direction (.ofWord w)
        0).run : ExceptT AbortCode Option _) with
      | .ok _ => return .entry (← subtract? sub.toNat 1) w
      | .error e => throw e.abort

theorem checkMappingWriteChecked_eq (d : Device) (params : PdoParams) (valid : Bool)
    (mapping : MappedPdo) (direction : Direction) (sub : UInt8) (data : Bytes) :
    checkMappingWriteChecked d params valid mapping direction sub data =
      total (checkMappingWrite params valid mapping direction d.attributes d.started d.nmt sub
        data) := by
  have hentry : ∀ w : UInt32, (resolveEntryChecked d.dictionary d.rpdos.length d.tpdos.length
      direction (.ofWord w) 0).run = some (resolveEntry d.attributes direction (.ofWord w) 0) :=
    fun w => resolveEntryChecked_eq _ _ _ direction _ (Nat.zero_le _)
  unfold checkMappingWriteChecked checkMappingWrite
  refine total_bind fun _ _ => total_bind fun _ _ => ?_
  cases valid with
  | true => rfl
  | false =>
      cases d.started with
      | false => rfl
      | true =>
          simp only [Bool.false_eq_true, if_false, Bool.not_true]
          by_cases hsub : sub = 0
          · rw [if_pos hsub, if_pos hsub, byteOfDataChecked_eq]
            refine total_bind fun count _ => ?_
            split <;> rfl
          · rw [if_neg hsub, if_neg hsub, wordOfDataChecked_eq]
            refine total_bind fun w _ => ?_
            rw [hentry, subtract?_sub_one hsub]
            by_cases hlen : mapping.dataLen ≠ 0
            · rw [if_pos hlen, if_pos hlen]
              rfl
            · rw [if_neg hlen, if_neg hlen, lift_some, total_ok_bind]
              cases resolveEntry d.attributes direction (.ofWord w) 0 <;> rfl

namespace Rpdo

def commBytesChecked (r : Rpdo) (sub : UInt8) : ExceptT AbortCode Option Bytes :=
  if sub = 1 then do return .ofUInt32 (← r.params.reportedCobIdChecked r.valid)
  else total (r.commBytes sub)

def writeCommChecked (r : Rpdo) (nmt : NmtState) (sub : UInt8) (data : Bytes) :
    ExceptT AbortCode Option Rpdo := do
  total (r.params.restrictions.checkComm nmt)
  if sub = 1 then do
    let w ← wordOfDataChecked data
    let w ← r.params.checkCobIdWriteChecked w r.valid
    r.applyCobIdChecked w
  else if sub = 2 then do
    let t ← transmissionTypeOfDataChecked data
    return r.applyTransmissionType t
  else throw .noSuchSubIndex

def applyMappingChecked (r : Rpdo) (d : Device) : MappingWrite → Option (Remapped Rpdo)
  | .count n => do
    let mapped ← r.configureMappingChecked d.dictionary d.rpdos.length d.tpdos.length n d.errors
    match mapped.outcome with
    | .ok () => return { mapped with
        pdo := { mapped.pdo with params := { mapped.pdo.params with mappingCount := n } } }
    | .error _ => return mapped
  | .entry i w => return ⟨{ r with params := r.params.setMapping i w }, d.errors, .ok ()⟩

variable {r : Rpdo}

theorem commBytesChecked_eq (hr : r.params.HasSmallId) (sub : UInt8) :
    r.commBytesChecked sub = total (r.commBytes sub) := by
  unfold commBytesChecked
  split
  · rename_i h
    rw [h, PdoParams.reportedCobIdChecked_eq hr]
    rfl
  · rfl

theorem writeCommChecked_eq (hr : r.params.HasSmallId) (nmt : NmtState) (sub : UInt8)
    (data : Bytes) : r.writeCommChecked nmt sub data = total (r.writeComm nmt sub data) := by
  unfold writeCommChecked writeComm
  refine total_bind fun _ _ => ?_
  split
  · rw [wordOfDataChecked_eq]
    refine total_bind fun w _ => ?_
    rw [PdoParams.checkCobIdWriteChecked_eq hr]
    refine total_bind fun w _ => ?_
    rw [applyCobIdChecked_eq hr]
    rfl
  · split
    · rw [transmissionTypeOfDataChecked_eq]
      exact total_bind fun _ _ => rfl
    · rfl

theorem applyMappingChecked_eq (r : Rpdo) (d : Device) (w : MappingWrite) :
    r.applyMappingChecked d w = some (r.applyMapping d.attributes d.errors w) := by
  cases w with
  | entry i w => rfl
  | count n =>
      have hmapped :
          r.configureMappingChecked d.dictionary d.rpdos.length d.tpdos.length n d.errors =
          some (r.configureMapping d.attributes n d.errors) :=
        r.configureMappingChecked_eq _ _ _ n d.errors
      unfold applyMappingChecked applyMapping
      dsimp only
      rw [hmapped]
      rcases r.configureMapping d.attributes n d.errors with ⟨pdo, errors, outcome⟩
      cases outcome <;> rfl

end Rpdo

namespace Tpdo

def commBytesChecked (t : Tpdo) (sub : UInt8) : ExceptT AbortCode Option Bytes :=
  if sub = 1 then do return .ofUInt32 (← t.params.reportedCobIdChecked t.valid)
  else total (t.commBytes sub)

def writeCommChecked (t : Tpdo) (nmt : NmtState) (sub : UInt8) (data : Bytes) :
    ExceptT AbortCode Option Tpdo := do
  total (t.params.restrictions.checkComm nmt)
  if sub = 1 then do
    let w ← wordOfDataChecked data
    let w ← t.params.checkCobIdWriteChecked w t.valid
    t.applyCobIdChecked w
  else if sub = 2 then do
    let type ← transmissionTypeOfDataChecked data
    return t.applyTransmissionType type
  else if sub = 3 then do
    let time ← halfOfDataChecked data
    if t.valid then throw .invalidValue else return t.applyInhibitTime time
  else if sub = 5 then do
    let time ← halfOfDataChecked data
    t.applyEventTimeChecked time
  else if sub = 6 then do
    let start ← byteOfDataChecked data
    if t.valid || syncStartMax < start then throw .invalidValue
    else return { t with syncStart := start }
  else throw .noSuchSubIndex

def applyMappingChecked (t : Tpdo) (d : Device) : MappingWrite → Option (Remapped Tpdo)
  | .count n => do
    let mapped ← t.configureMappingChecked d.dictionary d.rpdos.length d.tpdos.length n d.errors
    match mapped.outcome with
    | .ok () => return { mapped with
        pdo := { mapped.pdo with params := { mapped.pdo.params with mappingCount := n } } }
    | .error _ => return mapped
  | .entry i w => return ⟨{ t with params := t.params.setMapping i w }, d.errors, .ok ()⟩

variable {t : Tpdo}

theorem commBytesChecked_eq (ht : t.params.HasSmallId) (sub : UInt8) :
    t.commBytesChecked sub = total (t.commBytes sub) := by
  unfold commBytesChecked
  split
  · rename_i h
    rw [h, PdoParams.reportedCobIdChecked_eq ht]
    rfl
  · rfl

theorem writeCommChecked_eq (ht : t.params.HasSmallId) (nmt : NmtState) (sub : UInt8)
    (data : Bytes) : t.writeCommChecked nmt sub data = total (t.writeComm nmt sub data) := by
  unfold writeCommChecked writeComm
  refine total_bind fun _ _ => ?_
  split
  · rw [wordOfDataChecked_eq]
    refine total_bind fun w _ => ?_
    rw [PdoParams.checkCobIdWriteChecked_eq ht]
    refine total_bind fun w _ => ?_
    rw [applyCobIdChecked_eq ht]
    rfl
  split
  · rw [transmissionTypeOfDataChecked_eq]
    exact total_bind fun _ _ => rfl
  split
  · rw [halfOfDataChecked_eq]
    refine total_bind fun time _ => ?_
    split <;> rfl
  split
  · rw [halfOfDataChecked_eq]
    refine total_bind fun time _ => ?_
    rw [applyEventTimeChecked_eq]
    rfl
  split
  · rw [byteOfDataChecked_eq]
    refine total_bind fun start _ => ?_
    split <;> rfl
  · rfl

theorem applyMappingChecked_eq (t : Tpdo) (d : Device) (w : MappingWrite) :
    t.applyMappingChecked d w = some (t.applyMapping d.attributes d.errors w) := by
  cases w with
  | entry i w => rfl
  | count n =>
      have hmapped :
          t.configureMappingChecked d.dictionary d.rpdos.length d.tpdos.length n d.errors =
          some (t.configureMapping d.attributes n d.errors) :=
        t.configureMappingChecked_eq _ _ _ n d.errors
      unfold applyMappingChecked applyMapping
      dsimp only
      rw [hmapped]
      rcases t.configureMapping d.attributes n d.errors with ⟨pdo, errors, outcome⟩
      cases outcome <;> rfl

end Tpdo

/-! ### Devices -/

namespace Device

/-- The pre-defined identifiers of all PDOs are those of PDOs of a node. -/
structure HasSmallIds (d : Device) : Prop where
  rpdos : ∀ r ∈ d.rpdos, r.params.HasSmallId
  tpdos : ∀ t ∈ d.tpdos, t.params.HasSmallId

def parameterBytesChecked (d : Device) (p : Parameter) (sub : UInt8) :
    ExceptT AbortCode Option Bytes :=
  match p with
  | .rpdoComm n => do
    let r ← total (d.rpdo n)
    r.commBytesChecked sub
  | .tpdoComm n => do
    let t ← total (d.tpdo n)
    t.commBytesChecked sub
  | .rpdoMap n => do
    let r ← total (d.rpdo n)
    mappingBytesChecked r.params r.mapping sub
  | .tpdoMap n => do
    let t ← total (d.tpdo n)
    mappingBytesChecked t.params t.mapping sub
  | _ => total (d.parameterBytes p sub)

/-- Read a value into a buffer. -/
def readChecked (d : Device) (id : ObjectId) (offset : Nat) (buffer : Bytes) :
    ExceptT AbortCode Option (Nat × Bytes) := do
  match ← total (d.object id.index) with
  | .application o => o.readChecked id.sub offset buffer
  | .parameter p =>
    let value ← d.parameterBytesChecked p id.sub
    readPartChecked value offset buffer

def answerChecked {α : Type} (d : Device) (result : ExceptT AbortCode Option α)
    (put : α → Device) : Option (WriteOutcome × Device) := do
  return d.answer (← result.run) put

def writeRpdoMapChecked (d : Device) (n : Nat) (sub : UInt8) (data : Bytes) :
    Option (WriteOutcome × Device) :=
  match d.rpdo n with
  | .error e => return (.error e, d)
  | .ok r => do
    match ← (checkMappingWriteChecked d r.params r.valid r.mapping .receive sub data).run with
    | .error e => return (.error e, d)
    | .ok write =>
      let mapped ← r.applyMappingChecked d write
      return (mappingOutcome mapped.outcome,
        { d with rpdos := d.rpdos.set n mapped.pdo, errors := mapped.errors })

def writeTpdoMapChecked (d : Device) (n : Nat) (sub : UInt8) (data : Bytes) :
    Option (WriteOutcome × Device) :=
  match d.tpdo n with
  | .error e => return (.error e, d)
  | .ok t => do
    match ← (checkMappingWriteChecked d t.params t.valid t.mapping .transmit sub data).run with
    | .error e => return (.error e, d)
    | .ok write =>
      let mapped ← t.applyMappingChecked d write
      return (mappingOutcome mapped.outcome,
        { d with tpdos := d.tpdos.set n mapped.pdo, errors := mapped.errors })

def writeParameterChecked (d : Device) (p : Parameter) (sub : UInt8) (data : Bytes) :
    Option (WriteOutcome × Device) :=
  match p with
  | .rpdoMap n => d.writeRpdoMapChecked n sub data
  | .tpdoMap n => d.writeTpdoMapChecked n sub data
  | .rpdoComm n =>
    d.answerChecked
      (do
        total (checkCommSub p sub)
        let r ← total (d.rpdo n)
        r.writeCommChecked d.nmt sub data)
      fun r => { d with rpdos := d.rpdos.set n r }
  | .tpdoComm n =>
    d.answerChecked
      (do
        total (checkCommSub p sub)
        let t ← total (d.tpdo n)
        t.writeCommChecked d.nmt sub data)
      fun t => { d with tpdos := d.tpdos.set n t }
  | _ =>
    d.answerChecked
      (do
        let _ ← total (p.subInfo sub)
        d.sync.writeParameterChecked p data)
      fun s => { d with sync := s }

def writeChecked (d : Device) (id : ObjectId) (data : Bytes) : Option (WriteOutcome × Device) :=
  match d.object id.index with
  | .error e => return (.error e, d)
  | .ok (.application o) =>
    d.answerChecked (o.writeChecked id.sub data) (d.setApplication id.index)
  | .ok (.parameter p) => d.writeParameterChecked p id.sub data

def writeLeadingChecked (d : Device) (id : ObjectId) (data : Bytes) :
    Option (WriteOutcome × Device) :=
  match d.object id.index with
  | .error e => return (.error e, d)
  | .ok (.application o) =>
    d.answerChecked (o.writeLeadingChecked id.sub data) (d.setApplication id.index)
  | .ok (.parameter p) =>
    let value : ExceptT AbortCode Option Bytes := do
      let info ← total (p.subInfo id.sub)
      completeValueChecked info.size (d.readChecked id 0) data
    do
      match ← value.run with
      | .error e => return (.error e, d)
      | .ok value => d.writeParameterChecked p id.sub value

variable {d : Device}

theorem HasSmallIds.rpdo (hd : d.HasSmallIds) {n : Nat} {r : Rpdo} (h : d.rpdo n = .ok r) :
    r.params.HasSmallId := hd.rpdos r (List.mem_of_getElem? (rpdo_eq_ok h))

theorem HasSmallIds.tpdo (hd : d.HasSmallIds) {n : Nat} {t : Tpdo} (h : d.tpdo n = .ok t) :
    t.params.HasSmallId := hd.tpdos t (List.mem_of_getElem? (tpdo_eq_ok h))

theorem parameterBytesChecked_eq (hd : d.HasSmallIds) (p : Parameter) (sub : UInt8) :
    d.parameterBytesChecked p sub = total (d.parameterBytes p sub) := by
  cases p with
  | rpdoComm n => exact total_bind fun r hr => Rpdo.commBytesChecked_eq (hd.rpdo hr) sub
  | tpdoComm n => exact total_bind fun t ht => Tpdo.commBytesChecked_eq (hd.tpdo ht) sub
  | rpdoMap n => exact total_bind fun r _ => mappingBytesChecked_eq r.params r.mapping sub
  | tpdoMap n => exact total_bind fun t _ => mappingBytesChecked_eq t.params t.mapping sub
  | _ => rfl

theorem readChecked_eq (hd : d.HasSmallIds) (id : ObjectId) (offset : Nat) (buffer : Bytes) :
    d.readChecked id offset buffer = total (d.readInto id offset buffer) := by
  unfold readChecked readInto read
  cases d.object id.index with
  | error e => rfl
  | ok object =>
      cases object with
      | application o => exact o.readChecked_eq id.sub offset buffer
      | parameter p =>
          rw [total_ok_bind]
          dsimp only
          rw [parameterBytesChecked_eq hd]
          show _ = total (((d.parameterBytes p id.sub) >>= fun value =>
            readPart value offset buffer.length).map buffer.fill)
          cases d.parameterBytes p id.sub with
          | error e => rfl
          | ok value => exact readPartChecked_eq value offset buffer

theorem answerChecked_eq {α : Type} (d : Device) (x : Except AbortCode α) (put : α → Device) :
    d.answerChecked (total x) put = some (d.answer x put) := rfl

theorem writeRpdoMapChecked_eq (d : Device) (n : Nat) (sub : UInt8) (data : Bytes) :
    d.writeRpdoMapChecked n sub data = some (d.writeRpdoMap n sub data) := by
  unfold writeRpdoMapChecked writeRpdoMap
  cases d.rpdo n with
  | error e => rfl
  | ok r =>
      dsimp only
      rw [checkMappingWriteChecked_eq]
      simp only [Rpdo.applyMappingChecked_eq]
      show (match checkMappingWrite _ _ _ _ _ _ _ _ _ with
        | .error e => _
        | .ok write => _) = _
      cases checkMappingWrite r.params r.valid r.mapping .receive d.attributes d.started d.nmt sub
        data <;> rfl

theorem writeTpdoMapChecked_eq (d : Device) (n : Nat) (sub : UInt8) (data : Bytes) :
    d.writeTpdoMapChecked n sub data = some (d.writeTpdoMap n sub data) := by
  unfold writeTpdoMapChecked writeTpdoMap
  cases d.tpdo n with
  | error e => rfl
  | ok t =>
      dsimp only
      rw [checkMappingWriteChecked_eq]
      simp only [Tpdo.applyMappingChecked_eq]
      show (match checkMappingWrite _ _ _ _ _ _ _ _ _ with
        | .error e => _
        | .ok write => _) = _
      cases checkMappingWrite t.params t.valid t.mapping .transmit d.attributes d.started d.nmt sub
        data <;> rfl

theorem writeParameterChecked_eq (hd : d.HasSmallIds) (p : Parameter) (sub : UInt8)
    (data : Bytes) : d.writeParameterChecked p sub data = some (d.writeParameter p sub data) := by
  have hsync : (do
      let _ ← total (p.subInfo sub)
      d.sync.writeParameterChecked p data) = total (do
      let _ ← p.subInfo sub
      d.sync.writeParameter p data) :=
    total_bind fun _ _ => d.sync.writeParameterChecked_eq p data
  cases p with
  | rpdoMap n => exact d.writeRpdoMapChecked_eq n sub data
  | tpdoMap n => exact d.writeTpdoMapChecked_eq n sub data
  | rpdoComm n =>
      have hresult : (do
          total (checkCommSub (.rpdoComm n) sub)
          let r ← total (d.rpdo n)
          r.writeCommChecked d.nmt sub data) = total (do
          checkCommSub (.rpdoComm n) sub
          (← d.rpdo n).writeComm d.nmt sub data) :=
        total_bind fun _ _ => total_bind fun r hr =>
          Rpdo.writeCommChecked_eq (hd.rpdo hr) d.nmt sub data
      unfold writeParameterChecked
      dsimp only
      rw [hresult]
      exact d.answerChecked_eq _ _
  | tpdoComm n =>
      have hresult : (do
          total (checkCommSub (.tpdoComm n) sub)
          let t ← total (d.tpdo n)
          t.writeCommChecked d.nmt sub data) = total (do
          checkCommSub (.tpdoComm n) sub
          (← d.tpdo n).writeComm d.nmt sub data) :=
        total_bind fun _ _ => total_bind fun t ht =>
          Tpdo.writeCommChecked_eq (hd.tpdo ht) d.nmt sub data
      unfold writeParameterChecked
      dsimp only
      rw [hresult]
      exact d.answerChecked_eq _ _
  | _ =>
      unfold writeParameterChecked
      dsimp only
      rw [hsync]
      exact d.answerChecked_eq _ _

theorem writeChecked_eq (hd : d.HasSmallIds) (id : ObjectId) (data : Bytes) :
    d.writeChecked id data = some (d.write id data) := by
  unfold writeChecked write
  cases d.object id.index with
  | error e => rfl
  | ok object =>
      cases object with
      | application o =>
          dsimp only
          rw [o.writeChecked_eq]
          exact d.answerChecked_eq _ _
      | parameter p => exact writeParameterChecked_eq hd p id.sub data

theorem length_le_of_read {id : ObjectId} {offset len : Nat} {data : Bytes}
    (h : d.read id offset len = .ok data) : data.length ≤ len := by
  obtain ⟨object, -, h⟩ := exists_of_bind_eq_ok h
  cases object with
  | application o => exact AppObject.length_le_of_read h
  | parameter p =>
      obtain ⟨value, -, h⟩ := exists_of_bind_eq_ok h
      unfold readPart at h
      split at h
      · cases h
      · rw [← Except.ok.inj h, Bytes.length_window]
        exact Nat.min_le_left _ _

theorem writeLeadingChecked_eq (hd : d.HasSmallIds) (id : ObjectId) (data : Bytes) :
    d.writeLeadingChecked id data = some (d.writeLeading id data) := by
  unfold writeLeadingChecked writeLeading
  cases d.object id.index with
  | error e => rfl
  | ok object =>
      cases object with
      | application o =>
          dsimp only
          rw [o.writeLeadingChecked_eq]
          exact d.answerChecked_eq _ _
      | parameter p =>
          have hvalue : (do
              let info ← total (p.subInfo id.sub)
              completeValueChecked info.size (d.readChecked id 0) data) = total (do
              completeValue (← p.subInfo id.sub).size (d.read id 0) data) :=
            total_bind fun info _ => completeValueChecked_eq
              (fun buffer => readChecked_eq hd id 0 buffer) (fun _ _ => length_le_of_read) data
          dsimp only
          rw [hvalue]
          simp only [writeParameterChecked_eq hd]
          show (match (do completeValue (← p.subInfo id.sub).size (d.read id 0) data) with
            | .error e => _
            | .ok value => _) = _
          cases (do completeValue (← p.subInfo id.sub).size (d.read id 0) data) <;> rfl

end Device

end Canopen
