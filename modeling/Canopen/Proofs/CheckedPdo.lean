import Mathlib.Data.Nat.Bitwise
import Canopen.Proofs.CheckedMapping

/-! # PDOs and the SYNC object with checked operations

The parameters of a PDO take effect, process data is committed and sent, and the SYNC message is
produced, with a checked result for everything that is added, subtracted, multiplied or copied on
the way.

What is added to an identifier fits because a pre-defined identifier is small
(`PdoParams.HasSmallId`) and because an identifier in use has eleven bits; what is copied fits
because mappings are well formed. -/

namespace Canopen

/-! ### Errors -/

/-- The bit that stands for a kind in the word of the active kinds. -/
def ErrorKind.mask? (kind : ErrorKind) : Option UInt32 := do
  let shift ← subtract? kind.statusBit.toNat ErrorKind.canTxOverflow.statusBit.toNat
  if shift < 32 then return 1 <<< UInt32.ofNat shift else none

namespace ErrorStatus

def raiseChecked (e : ErrorStatus) (kind : ErrorKind) (info : UInt32) : Option ErrorStatus := do
  let _ ← kind.mask?
  return e.raise kind info

def resetChecked (e : ErrorStatus) (kind : ErrorKind) : Option ErrorStatus := do
  let _ ← kind.mask?
  return e.reset kind

def reportMappingChecked (e : ErrorStatus) (fault : MappingError) : Option ErrorStatus :=
  e.raiseChecked .pdoWrongMapping
    ((fault.object.index.toUInt32 <<< 16) ||| (fault.object.sub.toUInt32 <<< 8))

def noteSyncChecked (e : ErrorStatus) : Transmission → Option ErrorStatus
  | .refused f => e.raiseChecked .canTxOverflow f.id.raw
  | .idle | .sent _ => return e

def notePdoChecked (e : ErrorStatus) : Transmission → Option ErrorStatus
  | .refused f => e.raiseChecked .canTxOverflow f.id.raw
  | .sent _ => e.resetChecked .canTxOverflow
  | .idle => return e

def noteSupervisionChecked (e : ErrorStatus) (t : SyncTick) : Option ErrorStatus := do
  let e ←
    match t.supervision with
    | .missing => e.raiseChecked .syncTimeout t.next.timer
    | .present => e.resetChecked .syncTimeout
    | .unchanged => some e
  match t.lengthError with
  | some length => e.raiseChecked .syncLength length.toUInt32
  | none => return e

theorem raiseChecked_eq (e : ErrorStatus) (kind : ErrorKind) (info : UInt32) :
    e.raiseChecked kind info = some (e.raise kind info) := by cases kind <;> rfl

theorem resetChecked_eq (e : ErrorStatus) (kind : ErrorKind) :
    e.resetChecked kind = some (e.reset kind) := by cases kind <;> rfl

theorem noteSyncChecked_eq (e : ErrorStatus) (t : Transmission) :
    e.noteSyncChecked t = some (e.noteSync t) := by
  cases t with
  | idle => rfl
  | sent f => rfl
  | refused f => exact e.raiseChecked_eq _ _

theorem notePdoChecked_eq (e : ErrorStatus) (t : Transmission) :
    e.notePdoChecked t = some (e.notePdo t) := by
  cases t with
  | idle => rfl
  | sent f => exact e.resetChecked_eq _
  | refused f => exact e.raiseChecked_eq _ _

theorem noteSupervisionChecked_eq (e : ErrorStatus) (t : SyncTick) :
    e.noteSupervisionChecked t = some (e.noteSupervision t) := by
  unfold noteSupervisionChecked noteSupervision
  simp only [raiseChecked_eq, resetChecked_eq]
  cases t.supervision <;> cases t.lengthError <;> rfl

end ErrorStatus

/-! ### The SYNC object -/

/-- The frame that carries the given data. -/
def Frame.carrying? (id : CanId) (data : Bytes) : Option Frame :=
  if maxDataLength < data.length then none
  else do
    let buffer ← (Bytes.zeros maxDataLength).copy? 0 data.length data
    return ⟨.padded buffer, UInt8.ofNat data.length, id⟩

theorem Frame.carrying?_eq (id : CanId) {data : Bytes} (h : data.length ≤ maxDataLength) :
    carrying? id data = some (carrying id data) := by
  have hbuffer : (Bytes.zeros maxDataLength).length = maxDataLength := Bytes.length_zeros _
  have hlen : (data.overlay (Bytes.zeros maxDataLength)).length = maxDataLength := by
    rw [Bytes.length_overlay, hbuffer]
    exact Nat.max_eq_right h
  have hpayload : Payload.padded (data.overlay (Bytes.zeros maxDataLength)) = .padded data := by
    have hbytes : (Payload.padded data).bytes = data.overlay (Bytes.zeros maxDataLength) := by
      show (data ++ List.replicate maxDataLength 0).take maxDataLength =
        data ++ (List.replicate maxDataLength 0).drop data.length
      rw [List.take_append, List.take_of_length_le h, List.drop_replicate, List.take_replicate,
        Nat.min_eq_left (Nat.sub_le _ _)]
    exact Payload.ext ((Payload.bytes_padded_of_length hlen).trans hbytes.symm)
  unfold carrying?
  rw [if_neg (Nat.not_lt.mpr h), Bytes.copy?_zero (by omega), Option.bind_eq_bind,
    Option.bind_some, hpayload]
  rfl

namespace SyncState

/-- The SYNC message with the present counter. -/
def messageChecked (s : SyncState) : Option Frame :=
  Frame.carrying? s.cobId (if s.counterOverflow = 0 then [] else [s.counter])

/-- Run a tick: the SYNC message is put together once the counter is stored. -/
def advanceChecked (s : SyncState) (elapsed : Micros) (nmt : NmtState) : Option SyncTick := do
  let tick := s.advance elapsed nmt
  match tick.frame with
  | none => return tick
  | some _ => return { tick with frame := some (← tick.next.messageChecked) }

/-- Take a SYNC frame from the bus; its counter is the first byte of the buffer. -/
def receiveChecked (s : SyncState) (f : Frame) (nmt : NmtState) : Option (Bool × SyncState) := do
  let (accepted, next) := s.receive f nmt
  if accepted ∧ s.counterOverflow ≠ 0 then
    let counter ← f.data.bytes[0]?
    return (accepted, { next with counter := counter })
  else return (accepted, next)

theorem messageChecked_eq (s : SyncState) : s.messageChecked = some s.message := by
  unfold messageChecked message SyncMessage.toFrame
  split
  · exact Frame.carrying?_eq _ (Nat.zero_le _)
  · exact Frame.carrying?_eq _ (Nat.le_of_ble_eq_true rfl)

/-- The SYNC message of a tick carries the counter that the tick leaves behind. -/
theorem frame_advance (s : SyncState) (elapsed : Micros) (nmt : NmtState) :
    (s.advance elapsed nmt).frame = none ∨
      (s.advance elapsed nmt).frame = some (s.advance elapsed nmt).next.message := by
  unfold advance
  split
  · dsimp only
    split
    · exact .inr rfl
    · exact .inl rfl
  · exact .inl rfl

theorem advanceChecked_eq (s : SyncState) (elapsed : Micros) (nmt : NmtState) :
    s.advanceChecked elapsed nmt = some (s.advance elapsed nmt) := by
  unfold advanceChecked
  dsimp only
  rcases s.frame_advance elapsed nmt with hframe | hframe
  · rw [hframe]
    rfl
  · have htick : { s.advance elapsed nmt with
        frame := some (s.advance elapsed nmt).next.message } = s.advance elapsed nmt := by
      rw [← hframe]
    rw [hframe, messageChecked_eq, Option.bind_eq_bind, Option.bind_some, htick]
    rfl

theorem receiveChecked_eq (s : SyncState) (f : Frame) (nmt : NmtState) :
    s.receiveChecked f nmt = some (s.receive f nmt) := by
  have hlen := f.data.length_eq
  obtain ⟨b, bs, hb⟩ : ∃ b bs, f.data.bytes = b :: bs :=
    List.exists_cons_of_length_pos (by rw [hlen]; decide)
  unfold receiveChecked receive SyncMessage.ofFrame Bytes.firstByte
  rw [hb]
  by_cases hactive : nmt.syncActive = true <;> by_cases hoverflow : s.counterOverflow = 0 <;>
    by_cases hdlc : f.dlc = 0 <;> by_cases hdlc' : f.dlc = 1 <;>
      simp [hactive, hoverflow, hdlc, hdlc']

end SyncState

/-! ### Parameters -/

namespace PdoParams

/-- The pre-defined identifier is that of one of the PDOs of a node. -/
def HasSmallId (p : PdoParams) : Prop := p.predefinedId.toNat ≤ 0x500

def stripNodeIdChecked (p : PdoParams) (w : CobIdWord) : Option CobIdWord :=
  if p.predefinedId = 0 then return w
  else do
    let id ← add16? p.predefinedId p.nodeOffset.toUInt16
    return if w.lowWord = id then
      (w &&& (.invalidBit ||| .bit30)) ||| p.predefinedId.toUInt32
    else w

def checkCobIdWriteChecked (p : PdoParams) (w : CobIdWord) (valid : Bool) :
    ExceptT AbortCode Option CobIdWord :=
  if w.hasReservedBits then throw .invalidValue
  else do
    let stored ← p.stripNodeIdChecked w
    if valid && (stored ^^^ p.cobId) &&& .idFieldMask != 0 then throw .invalidValue
    else return stored

def reportedCobIdChecked (p : PdoParams) (valid : Bool) : Option CobIdWord := do
  let w ←
    if p.predefinedId ≠ 0 ∧ p.cobId.lowWord = p.predefinedId then
      add32? p.cobId p.nodeOffset.toUInt32
    else some p.cobId
  return if valid then w else w ||| .invalidBit

def effectiveIdChecked (p : PdoParams) (w : CobIdWord) (dataLen : Nat) : Option (Option UInt16) :=
  let id := w.standardId
  if w.isInvalid || w.hasReservedBits || dataLen == 0 || id == 0 then return none
  else do
    let id ← if id = p.predefinedId then add16? id p.nodeOffset.toUInt16 else some id
    return if isRestrictedId id then none else some id

variable {p : PdoParams}

theorem stripNodeIdChecked_eq (hp : p.HasSmallId) (w : CobIdWord) :
    p.stripNodeIdChecked w = some (p.stripNodeId w) := by
  have hsum : add16? p.predefinedId p.nodeOffset.toUInt16 =
      some (p.predefinedId + p.nodeOffset.toUInt16) := by
    have hoffset := p.nodeOffset.toNat_lt
    have hid : p.predefinedId.toNat ≤ 0x500 := hp
    exact add16?_eq (by rw [UInt8.toNat_toUInt16]; omega)
  unfold stripNodeIdChecked stripNodeId
  by_cases h0 : p.predefinedId = 0
  · rw [if_pos h0, if_neg (fun h => h.1 h0)]
    rfl
  · simp only [hsum, Option.bind_eq_bind, Option.bind_some, ne_eq, h0, not_false_eq_true,
      true_and]
    rfl

theorem checkCobIdWriteChecked_eq (hp : p.HasSmallId) (w : CobIdWord) (valid : Bool) :
    p.checkCobIdWriteChecked w valid = total (p.checkCobIdWrite w valid) := by
  unfold checkCobIdWriteChecked checkCobIdWrite
  rw [stripNodeIdChecked_eq hp, lift_some]
  split
  · rfl
  · rw [total_ok_bind]
    dsimp only
    split <;> rfl

/-- The low half of the word is as small as the pre-defined identifier. -/
theorem reportedCobIdChecked_eq (hp : p.HasSmallId) (valid : Bool) :
    p.reportedCobIdChecked valid = some (p.reportedCobId valid) := by
  unfold reportedCobIdChecked reportedCobId
  by_cases h : p.predefinedId ≠ 0 ∧ p.cobId.lowWord = p.predefinedId
  · have hsum : add32? p.cobId p.nodeOffset.toUInt32 =
        some (p.cobId + p.nodeOffset.toUInt32) := by
      have hlow : p.cobId.toNat % 65536 = p.predefinedId.toNat :=
        (UInt32.toNat_toUInt16 p.cobId).symm.trans (congrArg UInt16.toNat h.2)
      have hid : p.predefinedId.toNat ≤ 0x500 := hp
      have hoffset := p.nodeOffset.toNat_lt
      have hword := p.cobId.toNat_lt
      exact add32?_eq (by rw [UInt8.toNat_toUInt32]; omega)
    rw [if_pos h, if_pos h, hsum]
    rfl
  · rw [if_neg h, if_neg h]
    rfl

theorem standardId_le (w : CobIdWord) : w.standardId.toNat ≤ 0x7FF := by
  have hmask : (w &&& CobIdWord.standardMask).toNat ≤ 0x7FF := by
    rw [UInt32.toNat_and]
    exact Nat.and_le_right
  unfold CobIdWord.standardId
  rw [UInt32.toNat_toUInt16]
  omega

theorem effectiveIdChecked_eq (p : PdoParams) (w : CobIdWord) (dataLen : Nat) :
    p.effectiveIdChecked w dataLen = some (p.effectiveId w dataLen) := by
  have hsum : add16? w.standardId p.nodeOffset.toUInt16 =
      some (w.standardId + p.nodeOffset.toUInt16) := by
    have hid := standardId_le w
    have hoffset := p.nodeOffset.toNat_lt
    exact add16?_eq (by rw [UInt8.toNat_toUInt16]; omega)
  unfold effectiveIdChecked effectiveId
  dsimp only
  rw [hsum]
  split
  · rfl
  · by_cases h : w.standardId = p.predefinedId
    · rw [if_pos h, if_pos h]
      rfl
    · rw [if_neg h, if_neg h]
      rfl

def setCobIdChecked (p : PdoParams) (w : CobIdWord) : Option PdoParams := do
  return { p with cobId := ← p.stripNodeIdChecked w }

theorem setCobIdChecked_eq (hp : p.HasSmallId) (w : CobIdWord) :
    p.setCobIdChecked w = some (p.setCobId w) := by
  unfold setCobIdChecked
  rw [stripNodeIdChecked_eq hp]
  rfl

end PdoParams

def Micros.ofInhibitTimeChecked (time : UInt16) : Option Micros := multiply32? time.toUInt32 100

def Micros.ofEventTimeChecked (time : UInt16) : Option Micros := multiply32? time.toUInt32 1000

theorem Micros.ofInhibitTimeChecked_eq (time : UInt16) :
    ofInhibitTimeChecked time = some (ofInhibitTime time) := by
  have htime := time.toNat_lt
  have hunit : (100 : UInt32).toNat = 100 := rfl
  exact multiply32?_eq (by rw [UInt16.toNat_toUInt32, hunit]; omega)

theorem Micros.ofEventTimeChecked_eq (time : UInt16) :
    ofEventTimeChecked time = some (ofEventTime time) := by
  have htime := time.toNat_lt
  have hunit : (1000 : UInt32).toNat = 1000 := rfl
  exact multiply32?_eq (by rw [UInt16.toNat_toUInt32, hunit]; omega)

/-! ### Receive PDOs -/

namespace Rpdo

def configureMappingChecked (r : Rpdo) (objects : Dictionary) (rpdos tpdos : Nat) (count : UInt8)
    (errors : ErrorStatus) : Option (Remapped Rpdo) := do
  match ← (MappedPdo.resolveChecked objects rpdos tpdos .receive
    (r.params.mappings.descriptors count.toNat)).run with
  | .ok mapping => return ⟨{ r with mapping := mapping }, errors, .ok ()⟩
  | .error e => return ⟨{ r with mapping := .empty }, ← errors.reportMappingChecked e, .error e⟩

def configureCommunicationChecked (r : Rpdo) (w : CobIdWord) : Option Rpdo := do
  let id ← r.params.effectiveIdChecked w r.mapping.dataLen
  return { r with
    valid := id.isSome
    cobId := id.map .std
    synchronous := r.params.transmissionType.isSynchronous
    slots := if id.isSome then r.slots else .none }

def applyCobIdChecked (r : Rpdo) (w : CobIdWord) : Option Rpdo := do
  let params ← r.params.setCobIdChecked w
  { r with params := params }.configureCommunicationChecked w

/-- Run a tick: the payload that was committed, the PDO, and the objects. -/
def processChecked (r : Rpdo) (d : Dictionary) (s : Scratch) (syncOccurred toggle : Bool)
    (nmt : NmtState) : Option ((Option Payload × Rpdo × Dictionary) × Scratch) :=
  match (r.take syncOccurred toggle nmt).1 with
  | none => return ((none, (r.take syncOccurred toggle nmt).2, d), s)
  | some p => do
    let (d, s) ← r.mapping.scatterChecked d s p
    return ((some p, (r.take syncOccurred toggle nmt).2, d), s)

theorem configureMappingChecked_eq (r : Rpdo) (objects : Dictionary) (rpdos tpdos : Nat)
    (count : UInt8) (errors : ErrorStatus) :
    r.configureMappingChecked objects rpdos tpdos count errors =
      some (r.configureMapping (objects.attributes rpdos tpdos) count errors) := by
  have hresolve : (MappedPdo.resolveChecked objects rpdos tpdos .receive
      (r.params.mappings.descriptors count.toNat)).run =
        some (r.params.resolve (objects.attributes rpdos tpdos) .receive count) :=
    MappedPdo.resolveChecked_eq objects rpdos tpdos .receive _
  unfold configureMappingChecked configureMapping ErrorStatus.reportMappingChecked
  simp only [hresolve, ErrorStatus.raiseChecked_eq]
  cases r.params.resolve (objects.attributes rpdos tpdos) .receive count <;> rfl

theorem configureCommunicationChecked_eq (r : Rpdo) (w : CobIdWord) :
    r.configureCommunicationChecked w = some (r.configureCommunication w) := by
  unfold configureCommunicationChecked
  rw [PdoParams.effectiveIdChecked_eq]
  rfl

theorem applyCobIdChecked_eq {r : Rpdo} (hr : r.params.HasSmallId) (w : CobIdWord) :
    r.applyCobIdChecked w = some (r.applyCobId w) := by
  unfold applyCobIdChecked
  rw [PdoParams.setCobIdChecked_eq hr]
  exact configureCommunicationChecked_eq _ w

theorem processChecked_eq {r : Rpdo} (hr : r.mapping.WellFormed) (d : Dictionary) (s : Scratch)
    (syncOccurred toggle : Bool) (nmt : NmtState) :
    ∃ s', r.processChecked d s syncOccurred toggle nmt =
      some (r.process d syncOccurred toggle nmt, s') := by
  obtain ⟨slots, htake⟩ := r.exists_slots_of_take syncOccurred toggle nmt
  unfold processChecked process commit
  dsimp only
  cases (r.take syncOccurred toggle nmt).1 with
  | none => exact ⟨s, rfl⟩
  | some p =>
      obtain ⟨s', hs'⟩ := MappedPdo.scatterChecked_eq hr d s p
      refine ⟨s', ?_⟩
      dsimp only
      rw [hs', htake]
      rfl

end Rpdo

/-! ### Transmit PDOs -/

namespace Tpdo

def configureMappingChecked (t : Tpdo) (objects : Dictionary) (rpdos tpdos : Nat) (count : UInt8)
    (errors : ErrorStatus) : Option (Remapped Tpdo) := do
  match ← (MappedPdo.resolveChecked objects rpdos tpdos .transmit
    (t.params.mappings.descriptors count.toNat)).run with
  | .ok mapping => return ⟨t.remap mapping, errors, .ok ()⟩
  | .error e => return ⟨t.remap .empty, ← errors.reportMappingChecked e, .error e⟩

def configureCommunicationChecked (t : Tpdo) (w : CobIdWord) : Option Tpdo := do
  let id ← t.params.effectiveIdChecked w t.mapping.dataLen
  return { t with
    valid := id.isSome
    frame := { t.frame with id := .std (id.getD 0), dlc := UInt8.ofNat t.mapping.dataLen } }

def applyCobIdChecked (t : Tpdo) (w : CobIdWord) : Option Tpdo := do
  let params ← t.params.setCobIdChecked w
  let t ← { t with params := params }.configureCommunicationChecked w
  return { t with syncCounter := counterUnset }

def applyEventTimeChecked (t : Tpdo) (time : UInt16) : Option Tpdo := do
  return { t with eventTime := time, eventTimer := ← Micros.ofEventTimeChecked time }

def liveChecked (t : Tpdo) (d : Dictionary) : Option Payload := do
  return .padded (← t.mapping.gatherChecked d (Bytes.zeros maxDataLength))

def isChangeOfStateChecked (t : Tpdo) (d : Dictionary) : Option Bool :=
  if t.mapping.dataLen = 0 ∨ t.mapping.changeFlags = 0 then return false
  else do
    let live ← t.liveChecked d
    (List.range t.mapping.dataLen).reverse.anyM fun i => do
      let now ← live.bytes[i]?
      let sent ← t.frame.data.bytes[i]?
      if now = sent then return false else return (t.mapping.changeFlags &&& (← bit? i)) != 0

def sendChecked {σ : Type} [Transport σ] (t : Tpdo) (d : Dictionary) (link : σ) :
    Option (Transmission × Tpdo × σ) := do
  let data ← t.liveChecked d
  let t := { t with frame := { t.frame with data := data }, sendRequested := false }
  let (accepted, link) := t.transmit link
  return (if accepted then .sent t.frame else .refused t.frame, t, link)

def restartTimersChecked (t : Tpdo) : Option Tpdo :=
  if t.params.transmissionType.isEventDriven then do
    return { t with
      inhibitTimer := ← Micros.ofInhibitTimeChecked t.inhibitTime
      eventTimer := ← Micros.ofEventTimeChecked t.eventTime }
  else return t

def settleChecked (t : Tpdo) (outcome : Transmission) (elapsed : Micros) : Option Tpdo := do
  let t ← if outcome.isSent then t.restartTimersChecked else some t
  return t.elapse elapsed

/-- Run a tick. -/
def processChecked {σ : Type} [Transport σ] (t : Tpdo) (d : Dictionary) (sync : SyncState)
    (syncOccurred : Bool) (elapsed : Micros) (nmt : NmtState) (link : σ) :
    Option (Transmission × Tpdo × σ) := do
  let (due, t) := t.schedule sync syncOccurred nmt
  let (outcome, t, link) ← if due then t.sendChecked d link else some (.idle, t, link)
  return (outcome, ← t.settleChecked outcome elapsed, link)

theorem configureMappingChecked_eq (t : Tpdo) (objects : Dictionary) (rpdos tpdos : Nat)
    (count : UInt8) (errors : ErrorStatus) :
    t.configureMappingChecked objects rpdos tpdos count errors =
      some (t.configureMapping (objects.attributes rpdos tpdos) count errors) := by
  have hresolve : (MappedPdo.resolveChecked objects rpdos tpdos .transmit
      (t.params.mappings.descriptors count.toNat)).run =
        some (t.params.resolve (objects.attributes rpdos tpdos) .transmit count) :=
    MappedPdo.resolveChecked_eq objects rpdos tpdos .transmit _
  unfold configureMappingChecked configureMapping ErrorStatus.reportMappingChecked
  simp only [hresolve, ErrorStatus.raiseChecked_eq]
  cases t.params.resolve (objects.attributes rpdos tpdos) .transmit count <;> rfl

theorem configureCommunicationChecked_eq (t : Tpdo) (w : CobIdWord) :
    t.configureCommunicationChecked w = some (t.configureCommunication w) := by
  unfold configureCommunicationChecked
  rw [PdoParams.effectiveIdChecked_eq]
  rfl

theorem applyCobIdChecked_eq {t : Tpdo} (ht : t.params.HasSmallId) (w : CobIdWord) :
    t.applyCobIdChecked w = some (t.applyCobId w) := by
  unfold applyCobIdChecked
  rw [PdoParams.setCobIdChecked_eq ht, Option.bind_eq_bind, Option.bind_some,
    configureCommunicationChecked_eq]
  rfl

theorem applyEventTimeChecked_eq (t : Tpdo) (time : UInt16) :
    t.applyEventTimeChecked time = some (t.applyEventTime time) := by
  unfold applyEventTimeChecked
  rw [Micros.ofEventTimeChecked_eq]
  rfl

theorem liveChecked_eq {t : Tpdo} (ht : t.mapping.WellFormed) (d : Dictionary) :
    t.liveChecked d = some (t.live d) := by
  unfold liveChecked
  rw [MappedPdo.gatherChecked_eq ht d (Bytes.length_zeros _)]
  rfl

theorem and_one_shiftLeft_ne_zero (m i : Nat) : (m &&& 1 <<< i != 0) = m.testBit i := by
  rw [Nat.one_shiftLeft, Nat.and_two_pow]
  cases m.testBit i <;> simp

theorem anyM_eq_some {α : Type} {l : List α} {p : α → Option Bool} {q : α → Bool}
    (h : ∀ a ∈ l, p a = some (q a)) : l.anyM p = some (l.any q) := by
  induction l with
  | nil => rfl
  | cons a l ih =>
      have hrest := ih fun b hb => h b (List.mem_cons_of_mem _ hb)
      rw [List.anyM_cons, h a List.mem_cons_self, List.any_cons, hrest]
      cases q a <;> rfl

theorem isChangeOfStateChecked_eq {t : Tpdo} (ht : t.mapping.WellFormed) (d : Dictionary) :
    t.isChangeOfStateChecked d = some (t.isChangeOfState d) := by
  unfold isChangeOfStateChecked isChangeOfState
  by_cases hnone : t.mapping.dataLen = 0 ∨ t.mapping.changeFlags = 0
  · rw [if_pos hnone]
    rcases hnone with h | h
    · rw [h]
      rfl
    · simp [h]
  · have hlen : t.mapping.dataLen ≤ 8 := ht.dataLen_le
    have hlive : (t.live d).bytes.length = 8 := (t.live d).length_eq
    have hsent : t.frame.data.bytes.length = 8 := t.frame.data.length_eq
    rw [if_neg hnone, liveChecked_eq ht, Option.bind_eq_bind, Option.bind_some,
      ← List.any_reverse]
    refine anyM_eq_some fun i hi => ?_
    have hi : i < 8 := by
      have := List.mem_range.mp (List.mem_reverse.mp hi)
      omega
    rw [bit?_eq hi, List.getElem?_eq_getElem (by omega : i < (t.live d).bytes.length),
      List.getElem?_eq_getElem (by omega : i < t.frame.data.bytes.length),
      ← and_one_shiftLeft_ne_zero]
    by_cases heq : (t.live d).bytes[i] = t.frame.data.bytes[i]
    · simp [heq]
    · simp [heq]

theorem sendChecked_eq {σ : Type} [Transport σ] {t : Tpdo} (ht : t.mapping.WellFormed)
    (d : Dictionary) (link : σ) : t.sendChecked d link = some (t.send d link) := by
  unfold sendChecked
  rw [liveChecked_eq ht]
  rfl

theorem settleChecked_eq (t : Tpdo) (outcome : Transmission) (elapsed : Micros) :
    t.settleChecked outcome elapsed = some (t.settle outcome elapsed) := by
  have htimers : t.restartTimersChecked = some t.restartTimers := by
    unfold restartTimersChecked restartTimers
    rw [Micros.ofInhibitTimeChecked_eq, Micros.ofEventTimeChecked_eq]
    split <;> rfl
  unfold settleChecked settle
  rw [htimers]
  cases outcome.isSent <;> rfl

theorem processChecked_eq {σ : Type} [Transport σ] {t : Tpdo} (ht : t.mapping.WellFormed)
    (d : Dictionary) (sync : SyncState) (syncOccurred : Bool) (elapsed : Micros) (nmt : NmtState)
    (link : σ) : t.processChecked d sync syncOccurred elapsed nmt link =
      some (t.process d sync syncOccurred elapsed nmt link) := by
  have hmapping : (t.schedule sync syncOccurred nmt).2.mapping.WellFormed := by
    rw [(t.sameSetup_schedule sync syncOccurred nmt).mapping]
    exact ht
  unfold processChecked process
  dsimp only
  rw [sendChecked_eq hmapping]
  cases (t.schedule sync syncOccurred nmt).1 <;> simp [settleChecked_eq]

end Tpdo

end Canopen
