import Canopen.Proofs.CheckedAccess

/-! # Mappings with checked operations

The resolution of a mapping and the transfer of mapped values, with a checked result for every sum
of lengths, for every bit of a byte and for every slice of the buffer of a frame.  An entry takes
the slice of the buffer that begins where the entry before it ends.

A dummy entry of a receive PDO leaves its bytes in a cell of four bytes that all receive PDOs share
(`Scratch`); one of a transmit PDO takes its bytes from a cell of four zeros.

The slices are in bounds because a mapping is well formed, which is established when it is
resolved. -/

namespace Canopen

/-! ### Resolution -/

/-- The bits from `start` to `stop`, set one after another. -/
def byteMaskChecked (start stop : Nat) : Option Nat :=
  (List.range' start (stop - start)).foldlM (fun mask i => do return mask ||| (← bit? i)) 0

theorem byteMaskChecked_eq {start len : Nat} (h : start + len ≤ 8) :
    byteMaskChecked start (start + len) = some (byteMask start len) := by
  have key : ∀ (len start mask : Nat), start + len ≤ 8 →
      (List.range' start len).foldlM (fun mask i => do return mask ||| (← bit? i)) mask =
        some (mask ||| byteMask start len) := by
    intro len
    induction len with
    | zero =>
        intro start mask _
        simp [byteMask]
    | succ len ih =>
        intro start mask h
        have hstep : mask ||| 1 <<< start ||| byteMask (start + 1) len =
            mask ||| byteMask start (len + 1) := by
          apply Nat.eq_of_testBit_eq
          intro i
          simp only [Nat.testBit_or, testBit_byteMask, Nat.one_shiftLeft, Nat.testBit_two_pow,
            Bool.or_assoc, ← Bool.decide_or]
          congr 2
          exact propext (by omega)
        rw [List.range'_succ, List.foldlM_cons, bit?_eq (by omega)]
        exact (ih (start + 1) _ (by omega)).trans (congrArg some hstep)
  unfold byteMaskChecked
  rw [Nat.add_sub_cancel_left, key len start 0 h, Nat.zero_or]

namespace Object

/-- The highest sub index, which is read into a buffer of one byte. -/
def maxSubChecked (rpdos tpdos : Nat) : Object → Option UInt8
  | application o => o.maxSubChecked
  | parameter p => do
    let (_, buffer) ← Bytes.copyOut? [p.maxSub rpdos tpdos] 0 (Bytes.zeros 1)
    return buffer.firstByte

def infoChecked (o : Object) (sub : UInt8) : Option (Option SubInfo) :=
  match o with
  | application o => do return (← o.layout.sub?Checked sub).map SubObject.info
  | parameter p => return p.subInfo? sub

theorem maxSubChecked_eq (rpdos tpdos : Nat) (o : Object) :
    o.maxSubChecked rpdos tpdos = some (o.attributes rpdos tpdos).maxSub := by
  cases o with
  | application o => exact o.maxSubChecked_eq
  | parameter p => rfl

theorem infoChecked_eq (rpdos tpdos : Nat) (o : Object) (sub : UInt8) :
    o.infoChecked sub = some ((o.attributes rpdos tpdos).info sub) := by
  cases o with
  | application o =>
      unfold infoChecked
      dsimp only
      rw [Layout.sub?Checked_eq]
      rfl
  | parameter p => rfl

end Object

section Resolution
variable (objects : Dictionary) (rpdos tpdos : Nat) (direction : Direction)

def resolveEntryChecked (d : MappingDescriptor) (mapped : Nat) :
    ExceptT MappingError Option ResolvedEntry :=
  let fail (fault : MappingFault) : ExceptT MappingError Option ResolvedEntry :=
    throw ⟨fault, ⟨d.index, d.sub⟩⟩
  match d.byteLength? with
  | none => fail .notMappable
  | some len => do
    let totalLen ← sumLength? mapped len
    if maxPdoLength < totalLen then fail .lengthExceeded
    else if d.isDummy then
      if dummySize d.index < len then fail .notMappable
      else return ⟨.dummy direction len, totalLen, 0⟩
    else
      match objects.find? d.index with
      | none => fail .objectNotFound
      | some object => do
        let maxSub ← object.maxSubChecked rpdos tpdos
        if maxSub < d.sub then fail .objectNotFound
        else
          match ← (object.infoChecked d.sub : ExceptT MappingError Option _) with
          | none => fail .objectNotFound
          | some info =>
            if direction.permits info && len ≤ info.size then
              if direction = .transmit ∧ info.detectChange then do
                let changeFlags ← byteMaskChecked mapped totalLen
                return ⟨.object ⟨d.index, d.sub⟩ len info.isMultibyte, totalLen, changeFlags⟩
              else return ⟨.object ⟨d.index, d.sub⟩ len info.isMultibyte, totalLen, 0⟩
            else fail .notMappable

theorem resolveEntryChecked_eq (d : MappingDescriptor) {mapped : Nat} (h : mapped ≤ maxPdoLength) :
    resolveEntryChecked objects rpdos tpdos direction d mapped =
      total (resolveEntry (objects.attributes rpdos tpdos) direction d mapped) := by
  unfold resolveEntryChecked resolveEntry
  dsimp only
  cases hlen : d.byteLength? with
  | none => rfl
  | some len =>
      have hmax : maxPdoLength = 8 := rfl
      have hsum : sumLength? mapped len = some (mapped + len) := by
        have hbits := d.bits.toNat_lt
        unfold MappingDescriptor.byteLength? at hlen
        split at hlen
        · cases hlen
          exact sumLength?_eq (by omega)
        · cases hlen
      dsimp only
      rw [hsum, lift_some, total_ok_bind]
      by_cases hfit : maxPdoLength < mapped + len
      · rw [if_pos hfit, if_pos hfit]
        rfl
      · rw [if_neg hfit, if_neg hfit]
        by_cases hdummy : d.isDummy
        · rw [if_pos hdummy, if_pos hdummy]
          split <;> rfl
        · rw [if_neg hdummy, if_neg hdummy]
          unfold Dictionary.attributes
          cases objects.find? d.index with
          | none => rfl
          | some object =>
              dsimp only [Option.map_some]
              rw [object.maxSubChecked_eq, lift_some, total_ok_bind]
              by_cases hsub : (object.attributes rpdos tpdos).maxSub < d.sub
              · rw [if_pos hsub, if_pos hsub]
                rfl
              · rw [if_neg hsub, if_neg hsub, object.infoChecked_eq rpdos tpdos, lift_some,
                  total_ok_bind]
                cases (object.attributes rpdos tpdos).info d.sub with
                | none => rfl
                | some info =>
                    dsimp only
                    split
                    · rw [byteMaskChecked_eq (by omega)]
                      split <;> rfl
                    · rfl

namespace MappedPdo

def extendChecked (m : MappedPdo) (d : MappingDescriptor) :
    ExceptT MappingError Option MappedPdo := do
  let entry ← resolveEntryChecked objects rpdos tpdos direction d m.dataLen
  if m.targets.length < maxMappings then
    return {
      targets := m.targets ++ [entry.target]
      dataLen := entry.totalLen
      changeFlags := m.changeFlags ||| entry.changeFlags }
  else
    throw ⟨.lengthExceeded, ⟨d.index, d.sub⟩⟩

def resolveChecked (ds : List MappingDescriptor) : ExceptT MappingError Option MappedPdo :=
  ds.foldlM (extendChecked objects rpdos tpdos direction) empty

theorem extendChecked_eq {m : MappedPdo} (hm : m.WellFormed) (d : MappingDescriptor) :
    extendChecked objects rpdos tpdos direction m d =
      total (extend (objects.attributes rpdos tpdos) direction m d) := by
  unfold extendChecked extend
  rw [resolveEntryChecked_eq objects rpdos tpdos direction d hm.dataLen_le]
  refine total_bind fun entry _ => ?_
  split <;> rfl

/-- The entries before a descriptor never fill more than a frame. -/
theorem resolveChecked_eq (ds : List MappingDescriptor) :
    resolveChecked objects rpdos tpdos direction ds =
      total (resolve (objects.attributes rpdos tpdos) direction ds) := by
  have key : ∀ (ds : List MappingDescriptor) (m : MappedPdo), m.WellFormed →
      ds.foldlM (extendChecked objects rpdos tpdos direction) m =
        total (ds.foldlM (extend (objects.attributes rpdos tpdos) direction) m) := by
    intro ds
    induction ds with
    | nil => exact fun _ _ => rfl
    | cons d ds ih =>
        intro m hm
        rw [List.foldlM_cons, List.foldlM_cons, extendChecked_eq objects rpdos tpdos direction hm]
        exact total_bind fun m' hm' => ih m' (extend_wellFormed hm hm')
  exact key ds empty empty_wellFormed

end MappedPdo

end Resolution

/-! ### Transfer -/

/-- The number of bytes of the cells that dummy entries use. -/
abbrev scratchSize : Nat := 4

/-- The cell that takes the bytes of the dummy entries of receive PDOs. -/
structure Scratch where
  bytes : Bytes
  length_eq : bytes.length = scratchSize

/-- The cell with its leading bytes replaced. -/
def Scratch.store? (s : Scratch) (data : Bytes) : Option Scratch :=
  if h : data.length ≤ scratchSize then
    some ⟨data.overlay s.bytes, by rw [Bytes.length_overlay, s.length_eq]; exact Nat.max_eq_right h⟩
  else none

theorem Scratch.exists_store? (s : Scratch) {data : Bytes} (h : data.length ≤ scratchSize) :
    ∃ s', s.store? data = some s' := ⟨_, dif_pos h⟩

theorem Dictionary.length_le_of_read {d : Dictionary} {id : ObjectId} {offset len : Nat}
    {data : Bytes} (h : d.read id offset len = .ok data) : data.length ≤ len := by
  unfold read at h
  split at h
  · exact AppObject.length_le_of_read h
  · cases h

namespace Target

/-- The entry is a dummy entry that is no longer than the cells for dummy entries. -/
def FitsScratch (t : Target) : Prop :=
  ∀ direction len, t = .dummy direction len → len ≤ scratchSize

/-- The slice of the buffer for an entry, once the value of the entry is read into it. -/
def fetchChecked (d : Dictionary) (t : Target) (chunk : Bytes) : Option Bytes :=
  match t with
  | object id _ _ => do
    match ← (d.readChecked id 0 chunk).run with
    | .ok (_, chunk) => return chunk
    | .error _ => return chunk
  | dummy _ _ => do
    let zeros ← (Bytes.zeros scratchSize).slice? 0 chunk.length
    chunk.copy? 0 chunk.length zeros

/-- Put the received bytes of an entry into its object, or into the cell for dummy entries. -/
def deliverChecked (d : Dictionary) (s : Scratch) (t : Target) (chunk : Bytes) :
    Option (Dictionary × Scratch) :=
  match t with
  | object id _ _ => do
    match ← (d.writeLeadingChecked id chunk).run with
    | .ok d => return (d, s)
    | .error _ => return (d, s)
  | dummy _ _ => do
    let s ← s.store? chunk
    return (d, s)

theorem length_fetch (d : Dictionary) (t : Target) (chunk : Bytes) :
    (t.fetch d chunk).length = chunk.length := by
  cases t with
  | dummy direction len => exact Bytes.length_zeros _
  | object id len multibyte =>
      unfold fetch
      dsimp only
      split
      · rename_i value hvalue
        rw [Bytes.length_overlay]
        exact Nat.max_eq_right (Dictionary.length_le_of_read hvalue)
      · rfl

theorem fetchChecked_eq (d : Dictionary) {t : Target} (ht : t.FitsScratch) {chunk : Bytes}
    (hchunk : chunk.length = t.len) : t.fetchChecked d chunk = some (t.fetch d chunk) := by
  cases t with
  | object id len multibyte =>
      have hread : (d.readChecked id 0 chunk).run = some ((d.read id 0 chunk.length).map chunk.fill) :=
        d.readChecked_eq id 0 chunk
      unfold fetchChecked fetch
      dsimp only
      rw [hread]
      cases d.read id 0 chunk.length <;> rfl
  | dummy direction len =>
      have hlen : chunk.length ≤ scratchSize := hchunk ▸ ht direction len rfl
      have hslice : (Bytes.zeros scratchSize).slice? 0 chunk.length =
          some (Bytes.zeros chunk.length) := by
        rw [Bytes.slice?_eq (by rw [Bytes.length_zeros]; omega)]
        unfold Bytes.window Bytes.zeros
        rw [List.drop_zero, List.take_replicate, Nat.min_eq_left hlen]
      have hcopy : chunk.copy? 0 chunk.length (Bytes.zeros chunk.length) =
          some (Bytes.zeros chunk.length) := by
        have hzeros : (Bytes.zeros chunk.length).length = chunk.length := Bytes.length_zeros _
        have hwhole := Bytes.copy?_zero (Nat.le_of_eq hzeros)
        rw [hzeros, Bytes.overlay_of_length_le (Nat.le_of_eq hzeros.symm)] at hwhole
        exact hwhole
      unfold fetchChecked fetch
      dsimp only
      rw [hslice]
      exact hcopy

theorem deliverChecked_eq (d : Dictionary) (s : Scratch) {t : Target} (ht : t.FitsScratch)
    {chunk : Bytes} (hchunk : chunk.length = t.len) :
    ∃ s', t.deliverChecked d s chunk = some (t.deliver d chunk, s') := by
  cases t with
  | object id len multibyte =>
      have hwrite : (d.writeLeadingChecked id chunk).run = some (d.writeLeading id chunk) :=
        d.writeLeadingChecked_eq id chunk
      refine ⟨s, ?_⟩
      unfold deliverChecked deliver
      dsimp only
      rw [hwrite]
      cases d.writeLeading id chunk <;> rfl
  | dummy direction len =>
      obtain ⟨s', hs'⟩ := s.exists_store? (hchunk ▸ ht direction len rfl : chunk.length ≤ scratchSize)
      refine ⟨s', ?_⟩
      unfold deliverChecked
      dsimp only
      rw [hs']
      rfl

end Target

/-- Fill a buffer from `offset` on with the values of the targets. -/
def gatherTargetsChecked (d : Dictionary) : List Target → Nat → Bytes → Option Bytes
  | [], _, buffer => return buffer
  | t :: ts, offset, buffer => do
    let chunk ← buffer.slice? offset t.len
    let chunk ← t.fetchChecked d chunk
    let buffer ← buffer.copy? offset t.len chunk
    let offset ← sumLength? offset t.len
    gatherTargetsChecked d ts offset buffer

/-- Put received bytes from `offset` on into the targets. -/
def scatterTargetsChecked (d : Dictionary) (s : Scratch) :
    List Target → Nat → Bytes → Option (Dictionary × Scratch)
  | [], _, _ => return (d, s)
  | t :: ts, offset, data => do
    let chunk ← data.slice? offset t.len
    let (d, s) ← t.deliverChecked d s chunk
    let offset ← sumLength? offset t.len
    scatterTargetsChecked d s ts offset data

/-- The bytes before `offset` belong to the entries that are done. -/
theorem gatherTargetsChecked_eq (d : Dictionary) {ts : List Target}
    (hts : ∀ t ∈ ts, t.FitsScratch) {offset : Nat} {buffer : Bytes}
    (hfit : offset + Target.totalLen ts ≤ buffer.length) (hshort : buffer.length < 65536) :
    gatherTargetsChecked d ts offset buffer =
      some (buffer.take offset ++ gatherTargets d ts (buffer.drop offset)) := by
  induction ts generalizing offset buffer with
  | nil => exact congrArg some (List.take_append_drop offset buffer).symm
  | cons t ts ih =>
      rw [Target.totalLen, ← Nat.add_assoc] at hfit
      have hslice : buffer.slice? offset t.len = some (buffer.window offset t.len) :=
        Bytes.slice?_eq (by omega)
      have hchunk : (buffer.window offset t.len).length = t.len := by
        rw [Bytes.length_window]
        omega
      have hfetch := Target.fetchChecked_eq d (hts t List.mem_cons_self) hchunk
      have hlen := (t.length_fetch d _).trans hchunk
      have hcopy : buffer.copy? offset t.len (t.fetch d (buffer.window offset t.len)) =
          some (buffer.take offset ++
            (t.fetch d (buffer.window offset t.len) ++ buffer.drop (offset + t.len))) :=
        Bytes.copy?_eq (by omega) hlen
      have hsum := sumLength?_eq (a := offset) (b := t.len) (by omega)
      have hdone : (buffer.take offset).length = offset := by
        rw [List.length_take]
        omega
      -- what the remaining entries find in the buffer
      have hfound : (buffer.take offset ++ (t.fetch d (buffer.window offset t.len) ++
          buffer.drop (offset + t.len))).length = buffer.length := by
        simp only [List.length_append, List.length_drop, hdone, hlen]
        omega
      have hrest := ih (fun t ht => hts t (List.mem_cons_of_mem _ ht))
        (hfound.symm ▸ hfit) (hfound.symm ▸ hshort)
      have htake : (buffer.take offset ++ (t.fetch d (buffer.window offset t.len) ++
          buffer.drop (offset + t.len))).take (offset + t.len) =
            buffer.take offset ++ t.fetch d (buffer.window offset t.len) := by
        rw [← List.append_assoc, List.take_left' (by rw [List.length_append, hdone, hlen])]
      have hdrop : (buffer.take offset ++ (t.fetch d (buffer.window offset t.len) ++
          buffer.drop (offset + t.len))).drop (offset + t.len) = buffer.drop (offset + t.len) := by
        rw [← List.append_assoc, List.drop_left' (by rw [List.length_append, hdone, hlen])]
      rw [htake, hdrop] at hrest
      unfold gatherTargetsChecked gatherTargets
      simp only [Option.bind_eq_bind, hslice, hfetch, hcopy, hsum, Option.bind_some]
      rw [hrest, List.append_assoc, List.drop_drop]
      rfl

theorem scatterTargetsChecked_eq {ts : List Target} (hts : ∀ t ∈ ts, t.FitsScratch)
    (d : Dictionary) (s : Scratch) {offset : Nat} {data : Bytes}
    (hfit : offset + Target.totalLen ts ≤ data.length) (hshort : data.length < 65536) :
    ∃ s', scatterTargetsChecked d s ts offset data =
      some (scatterTargets d ts (data.drop offset), s') := by
  induction ts generalizing d s offset with
  | nil => exact ⟨s, rfl⟩
  | cons t ts ih =>
      rw [Target.totalLen, ← Nat.add_assoc] at hfit
      have hslice : data.slice? offset t.len = some (data.window offset t.len) :=
        Bytes.slice?_eq (by omega)
      have hchunk : (data.window offset t.len).length = t.len := by
        rw [Bytes.length_window]
        omega
      have hsum := sumLength?_eq (a := offset) (b := t.len) (by omega)
      obtain ⟨s₁, hdeliver⟩ := Target.deliverChecked_eq d s (hts t List.mem_cons_self) hchunk
      obtain ⟨s₂, hrest⟩ := ih (fun t ht => hts t (List.mem_cons_of_mem _ ht))
        (t.deliver d (data.window offset t.len)) s₁ hfit
      refine ⟨s₂, ?_⟩
      unfold scatterTargetsChecked scatterTargets
      simp only [Option.bind_eq_bind, hslice, hdeliver, hsum, Option.bind_some]
      rw [hrest, List.drop_drop]
      rfl

namespace MappedPdo

/-- Fill the buffer of a frame with the values of the mapped objects. -/
def gatherChecked (m : MappedPdo) (d : Dictionary) (buffer : Bytes) : Option Bytes :=
  gatherTargetsChecked d m.targets 0 buffer

/-- Put received bytes into the mapped objects. -/
def scatterChecked (m : MappedPdo) (d : Dictionary) (s : Scratch) (p : Payload) :
    Option (Dictionary × Scratch) :=
  scatterTargetsChecked d s m.targets 0 p.bytes

variable {m : MappedPdo}

theorem WellFormed.totalLen_le (hm : m.WellFormed) : Target.totalLen m.targets ≤ maxDataLength :=
  hm.dataLen_eq ▸ hm.dataLen_le

theorem gatherChecked_eq (hm : m.WellFormed) (d : Dictionary) {buffer : Bytes}
    (hbuffer : buffer.length = maxDataLength) :
    m.gatherChecked d buffer = some (m.gather d buffer) := by
  have hmax : maxDataLength = 8 := rfl
  have htotal := hm.totalLen_le
  exact gatherTargetsChecked_eq d hm.dummy_le (by omega) (by omega)

/-- Entries that are longer than a frame leave the bounds of its buffer. -/
example : gatherTargetsChecked ⟨[]⟩ [.dummy .transmit 4, .dummy .transmit 4, .dummy .transmit 1] 0
    (Bytes.zeros maxDataLength) = none := by decide

theorem scatterChecked_eq (hm : m.WellFormed) (d : Dictionary) (s : Scratch) (p : Payload) :
    ∃ s', m.scatterChecked d s p = some (m.scatter d p.bytes, s') := by
  have hmax : maxDataLength = 8 := rfl
  have htotal := hm.totalLen_le
  have hlen := p.length_eq
  exact scatterTargetsChecked_eq hm.dummy_le d s (by omega) (by omega)

end MappedPdo

end Canopen
