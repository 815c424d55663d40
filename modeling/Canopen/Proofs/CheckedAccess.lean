import Canopen.Proofs.Resolution
import Canopen.Proofs.Run

/-! # Reading and writing objects with checked operations

A slice that reaches beyond the end, a copy between slices of different lengths, and a sum, a
difference or a shift that leaves its type are errors that no caller can handle.  Here each of these
operations is a function to `Option` that has no result in that case.

What reads and writes an object is stated a second time with these operations, in the order in which
they are carried out on buffers.  The theorem beside each definition says that it computes the plain
definition: there always is a result, and it is the same (`total`). -/

namespace Canopen

/-! ### Operations -/

/-- A difference of lengths. -/
def subtract? (a b : Nat) : Option Nat := if b ≤ a then some (a - b) else none

/-- A sum of lengths, in the narrowest machine word there is. -/
def sumLength? (a b : Nat) : Option Nat := if a + b < 65536 then some (a + b) else none

def add16? (a b : UInt16) : Option UInt16 :=
  if a.toNat + b.toNat < 65536 then some (a + b) else none

def add32? (a b : UInt32) : Option UInt32 :=
  if a.toNat + b.toNat < 4294967296 then some (a + b) else none

def multiply32? (a b : UInt32) : Option UInt32 :=
  if a.toNat * b.toNat < 4294967296 then some (a * b) else none

/-- A byte with one bit set. -/
def bit? (i : Nat) : Option Nat := if i < 8 then some (1 <<< i) else none

theorem subtract?_eq {a b : Nat} (h : b ≤ a) : subtract? a b = some (a - b) := if_pos h

theorem sumLength?_eq {a b : Nat} (h : a + b < 65536) : sumLength? a b = some (a + b) := if_pos h

theorem add16?_eq {a b : UInt16} (h : a.toNat + b.toNat < 65536) : add16? a b = some (a + b) :=
  if_pos h

theorem add32?_eq {a b : UInt32} (h : a.toNat + b.toNat < 4294967296) :
    add32? a b = some (a + b) := if_pos h

theorem multiply32?_eq {a b : UInt32} (h : a.toNat * b.toNat < 4294967296) :
    multiply32? a b = some (a * b) := if_pos h

theorem bit?_eq {i : Nat} (h : i < 8) : bit? i = some (1 <<< i) := if_pos h

namespace Bytes

/-- The slice of `len` bytes from `start` on. -/
def slice? (bytes : Bytes) (start len : Nat) : Option Bytes :=
  if start + len ≤ bytes.length then some (bytes.window start len) else none

/-- The bytes with the slice of `len` bytes from `start` on replaced by `data`. -/
def copy? (bytes : Bytes) (start len : Nat) (data : Bytes) : Option Bytes :=
  if start + len ≤ bytes.length ∧ data.length = len then
    some (bytes.take start ++ (data ++ bytes.drop (start + len)))
  else none

/-- Copy as many bytes of a value, from `offset` on, as fit into a buffer: their number, and the
buffer. -/
def copyOut? (value : Bytes) (offset : Nat) (buffer : Bytes) : Option (Nat × Bytes) := do
  let rest ← subtract? value.length offset
  let len := min buffer.length rest
  let part ← value.slice? offset len
  let buffer ← buffer.copy? 0 len part
  return (len, buffer)

/-- The number of bytes read into a buffer, and the buffer. -/
def fill (buffer data : Bytes) : Nat × Bytes := (data.length, data.overlay buffer)

theorem slice?_eq {bytes : Bytes} {start len : Nat} (h : start + len ≤ bytes.length) :
    bytes.slice? start len = some (bytes.window start len) := if_pos h

theorem copy?_eq {bytes : Bytes} {start len : Nat} {data : Bytes}
    (h : start + len ≤ bytes.length) (hdata : data.length = len) :
    bytes.copy? start len data =
      some (bytes.take start ++ (data ++ bytes.drop (start + len))) := if_pos ⟨h, hdata⟩

theorem copy?_zero {bytes data : Bytes} (h : data.length ≤ bytes.length) :
    bytes.copy? 0 data.length data = some (data.overlay bytes) := by
  have hfits : 0 + data.length ≤ bytes.length := by omega
  rw [copy?_eq hfits rfl, Nat.zero_add]
  rfl

theorem copyOut?_eq {value : Bytes} {offset : Nat} (h : offset ≤ value.length) (buffer : Bytes) :
    value.copyOut? offset buffer = some (buffer.fill (value.window offset buffer.length)) := by
  have hrest := subtract?_eq h
  have hlen : offset + min buffer.length (value.length - offset) ≤ value.length := by omega
  have hpart := slice?_eq hlen
  have hwindow : value.window offset (min buffer.length (value.length - offset)) =
      value.window offset buffer.length := by
    unfold window
    rw [List.take_eq_take_iff, List.length_drop]
    omega
  have hlength : (value.window offset buffer.length).length =
      min buffer.length (value.length - offset) := length_window _ _ _
  have hcopy : buffer.copy? 0 (min buffer.length (value.length - offset))
      (value.window offset buffer.length) =
        some ((value.window offset buffer.length).overlay buffer) := by
    rw [← hlength]
    exact copy?_zero (by omega)
  unfold copyOut? fill
  rw [hrest]
  simp only [Option.bind_eq_bind, Option.bind_some]
  rw [hpart, hwindow]
  simp only [Option.bind_some]
  rw [hcopy, hlength]
  rfl

theorem window_zero_overlay {patch : Bytes} {len : Nat} (h : patch.length ≤ len) (bytes : Bytes) :
    (patch.overlay bytes).window 0 len = patch.overlay (bytes.window 0 len) := by
  unfold window overlay
  rw [List.drop_zero, List.drop_zero, List.take_append, List.take_of_length_le h, List.drop_take]

end Bytes

/-! ### Answers -/

/-- An answer that is reached without a checked operation. -/
def total {ε α : Type} (x : Except ε α) : ExceptT ε Option α := ExceptT.mk (some x)

section total
variable {ε α β : Type}

theorem total_ok_bind (a : α) (f : α → ExceptT ε Option β) : (total (.ok a) >>= f) = f a := rfl

theorem lift_some (a : α) : (liftM (some a) : ExceptT ε Option α) = total (.ok a) := rfl

/-- Steps that never fail to answer make up one that never does. -/
theorem total_bind {x : Except ε α} {f : α → ExceptT ε Option β} {g : α → Except ε β}
    (h : ∀ a, x = .ok a → f a = total (g a)) : (total x >>= f) = total (x >>= g) := by
  cases x with
  | error e => rfl
  | ok a => exact h a rfl

end total

/-! ### Contents of sub objects -/

namespace Field

def readChecked (f : Field) (offset : Nat) (buffer : Bytes) :
    ExceptT AbortCode Option (Nat × Bytes) :=
  match f with
  | flag value =>
    if offset ≠ 0 ∨ 1 < buffer.length then throw .lengthTooHigh
    else return (buffer.length, buffer.set 0 (if value then 1 else 0))
  | number _ _ | constant _ | block _ =>
    if offset < f.size then liftM (f.bytes.copyOut? offset buffer) else return (0, buffer)

def writeLeadingChecked (f : Field) (data : Bytes) : ExceptT AbortCode Option Field :=
  match f with
  | number type bytes =>
    if bytes.length < data.length then throw .lengthTooHigh
    else do
      let bytes ← bytes.copy? 0 data.length data
      return number type bytes
  | flag _ | constant _ | block _ => total (f.writeLeading data)

theorem copyOut?_or_nothing (f : Field) (offset : Nat) (buffer : Bytes) :
    (if offset < f.size then liftM (f.bytes.copyOut? offset buffer) else return (0, buffer) :
      ExceptT AbortCode Option (Nat × Bytes)) =
        total (.ok (buffer.fill (f.bytes.window offset buffer.length))) := by
  by_cases h : offset < f.size
  · rw [if_pos h, Bytes.copyOut?_eq (Nat.le_of_lt h)]
    rfl
  · have hnothing : f.bytes.window offset buffer.length = [] := by
      unfold Bytes.window
      rw [List.drop_eq_nil_of_le (Nat.le_of_not_lt h), List.take_nil]
    rw [if_neg h, hnothing]
    unfold Bytes.fill
    rw [Bytes.overlay_nil]
    rfl

theorem readChecked_eq (f : Field) (offset : Nat) (buffer : Bytes) :
    f.readChecked offset buffer = total ((f.read offset buffer.length).map buffer.fill) := by
  cases f with
  | flag value =>
      unfold readChecked read
      by_cases h : offset ≠ 0 ∨ 1 < buffer.length
      · rw [if_pos h]
        dsimp only
        rw [if_pos h]
        rfl
      · dsimp only
        rw [if_neg h, if_neg h]
        obtain ⟨h0, hlen⟩ := not_or.mp h
        obtain rfl := Decidable.not_not.mp h0
        cases buffer with
        | nil => rfl
        | cons b bs =>
            have hbs : bs = [] := by
              simp only [List.length_cons] at hlen
              exact List.length_eq_zero_iff.mp (by omega)
            rw [hbs]
            rfl
  | number type bytes => exact copyOut?_or_nothing (number type bytes) offset buffer
  | constant bytes => exact copyOut?_or_nothing (constant bytes) offset buffer
  | block bytes => exact copyOut?_or_nothing (block bytes) offset buffer

theorem writeLeadingChecked_eq (f : Field) (data : Bytes) :
    f.writeLeadingChecked data = total (f.writeLeading data) := by
  cases f with
  | number type bytes =>
      unfold writeLeadingChecked writeLeading
      dsimp only
      by_cases h : bytes.length < data.length
      · rw [if_pos h, if_pos h]
        rfl
      · rw [if_neg h, if_neg h, Bytes.copy?_zero (Nat.le_of_not_lt h)]
        rfl
  | flag value => rfl
  | constant bytes => rfl
  | block bytes => rfl

theorem length_le_of_read {f : Field} {offset len : Nat} {data : Bytes}
    (h : f.read offset len = .ok data) : data.length ≤ len := by
  have hwindow : ∀ bytes : Bytes, (bytes.window offset len).length ≤ len := by
    intro bytes
    rw [Bytes.length_window]
    exact Nat.min_le_left _ _
  cases f with
  | flag value =>
      unfold read at h
      dsimp only at h
      split at h
      · cases h
      · rw [← Except.ok.inj h]
        exact hwindow _
  | number type bytes =>
      rw [← Except.ok.inj h]
      exact hwindow _
  | constant bytes =>
      rw [← Except.ok.inj h]
      exact hwindow _
  | block bytes =>
      rw [← Except.ok.inj h]
      exact hwindow _

end Field

/-! ### Completed values -/

/-- A value with its leading bytes replaced, put together in a buffer for the largest value for
which that is possible. -/
def complete? (present data : Bytes) : Option Bytes := do
  let buffer ← (Bytes.zeros maxCompletedSize).copy? 0 present.length present
  let buffer ← buffer.copy? 0 data.length data
  buffer.slice? 0 present.length

/-- The value to write back when the leading bytes of a value are replaced, which is read into such
a buffer first. -/
def completeValueChecked (size : Nat) (read : Bytes → ExceptT AbortCode Option (Nat × Bytes))
    (data : Bytes) : ExceptT AbortCode Option Bytes :=
  if data.length = size then return data
  else if size < data.length then throw .lengthTooHigh
  else if maxCompletedSize < size then throw .unsupportedAccess
  else do
    let buffer ← (Bytes.zeros maxCompletedSize).slice? 0 size
    let (_, present) ← read buffer
    complete? present data

theorem complete?_eq {present data : Bytes} (hfits : present.length ≤ maxCompletedSize)
    (h : data.length ≤ present.length) : complete? present data = some (data.overlay present) := by
  have hbuffer : (Bytes.zeros maxCompletedSize).length = maxCompletedSize := Bytes.length_zeros _
  have hpresent := Bytes.copy?_zero (show present.length ≤ _ from hbuffer ▸ hfits)
  have hlen : (present.overlay (Bytes.zeros maxCompletedSize)).length = maxCompletedSize := by
    rw [Bytes.length_overlay, hbuffer]
    exact Nat.max_eq_right hfits
  have hdata := Bytes.copy?_zero
    (show data.length ≤ (present.overlay (Bytes.zeros maxCompletedSize)).length by omega)
  have hslice : (data.overlay (present.overlay (Bytes.zeros maxCompletedSize))).slice? 0
      present.length = some (data.overlay present) := by
    rw [Bytes.slice?_eq (by rw [Bytes.length_overlay]; omega), Bytes.window_zero_overlay h,
      Bytes.window_zero_overlay (Nat.le_refl _)]
    simp [Bytes.window, Bytes.overlay]
  unfold complete?
  rw [hpresent, Option.bind_eq_bind, Option.bind_some, hdata]
  exact hslice

theorem completeValueChecked_eq {size : Nat}
    {readChecked : Bytes → ExceptT AbortCode Option (Nat × Bytes)}
    {read : Nat → Except AbortCode Bytes}
    (hread : ∀ buffer : Bytes, readChecked buffer =
      total ((read buffer.length).map buffer.fill))
    (hlength : ∀ len data, read len = .ok data → data.length ≤ len) (data : Bytes) :
    completeValueChecked size readChecked data = total (completeValue size read data) := by
  unfold completeValueChecked completeValue
  by_cases hwhole : data.length = size
  · rw [if_pos hwhole, if_pos hwhole]
    rfl
  · rw [if_neg hwhole, if_neg hwhole]
    by_cases hlong : size < data.length
    · rw [if_pos hlong, if_pos hlong]
      rfl
    · rw [if_neg hlong, if_neg hlong]
      by_cases hlarge : maxCompletedSize < size
      · rw [if_pos hlarge, if_pos hlarge]
        rfl
      · rw [if_neg hlarge, if_neg hlarge]
        have hslice : (Bytes.zeros maxCompletedSize).slice? 0 size = some (Bytes.zeros size) := by
          rw [Bytes.slice?_eq (by rw [Bytes.length_zeros]; omega)]
          unfold Bytes.window Bytes.zeros
          rw [List.drop_zero, List.take_replicate, Nat.min_eq_left (Nat.le_of_not_lt hlarge)]
        rw [hslice, lift_some, total_ok_bind, hread, Bytes.length_zeros]
        cases hpresent : read size with
        | error e => rfl
        | ok present =>
            have hlen : (present.overlay (Bytes.zeros size)).length = size := by
              rw [Bytes.length_overlay, Bytes.length_zeros]
              exact Nat.max_eq_right (hlength size present hpresent)
            have hcomplete : complete? (present.overlay (Bytes.zeros size)) data =
                some (data.overlay (present.overlay (Bytes.zeros size))) :=
              complete?_eq (by omega) (by omega)
            exact congrArg (fun x => (liftM x : ExceptT AbortCode Option Bytes)) hcomplete

/-! ### Objects of the application -/

/-- The sub object at a sub index.  The elements of an array are counted from zero. -/
def Layout.sub?Checked (l : Layout) (sub : UInt8) : Option (Option SubObject) :=
  match l with
  | array info elements =>
    if sub = 0 then return l.sub? sub
    else do
      let i ← subtract? sub.toNat 1
      return elements[i]?.map fun f => ⟨info, f⟩
  | var _ | record _ _ => return l.sub? sub

theorem Layout.sub?Checked_eq (l : Layout) (sub : UInt8) : l.sub?Checked sub = some (l.sub? sub) := by
  cases l with
  | var value => rfl
  | record code subs => rfl
  | array info elements =>
      unfold sub?Checked sub?
      dsimp only
      by_cases h : sub = 0
      · rw [if_pos h, if_pos h]
        rfl
      · have hpos : 1 ≤ sub.toNat := by
          have := mt UInt8.toNat_inj.mp h
          simp only [UInt8.toNat_zero] at this
          omega
        rw [if_neg h, if_neg h, subtract?_eq hpos]
        rfl

namespace SubObject

def readChecked (s : SubObject) (offset : Nat) (buffer : Bytes) :
    ExceptT AbortCode Option (Nat × Bytes) :=
  if s.info.access.isReadable then s.field.readChecked offset buffer else throw .writeOnly

def writeLeadingChecked (s : SubObject) (data : Bytes) : ExceptT AbortCode Option Field :=
  if s.info.access.isWritable then s.field.writeLeadingChecked data else throw .readOnly

theorem readChecked_eq (s : SubObject) (offset : Nat) (buffer : Bytes) :
    s.readChecked offset buffer = total ((s.read offset buffer.length).map buffer.fill) := by
  unfold readChecked read
  split
  · exact s.field.readChecked_eq offset buffer
  · rfl

theorem writeLeadingChecked_eq (s : SubObject) (data : Bytes) :
    s.writeLeadingChecked data = total (s.writeLeading data) := by
  unfold writeLeadingChecked writeLeading
  split
  · exact s.field.writeLeadingChecked_eq data
  · rfl

end SubObject

namespace AppObject

def subChecked (o : AppObject) (sub : UInt8) : ExceptT AbortCode Option SubObject := do
  match ← (o.layout.sub?Checked sub : ExceptT AbortCode Option _) with
  | some s => return s
  | none => throw .noSuchSubIndex

def readChecked (o : AppObject) (sub : UInt8) (offset : Nat) (buffer : Bytes) :
    ExceptT AbortCode Option (Nat × Bytes) := do
  (← o.subChecked sub).readChecked offset buffer

def writeChecked (o : AppObject) (sub : UInt8) (data : Bytes) :
    ExceptT AbortCode Option AppObject := do
  let s ← o.subChecked sub
  let f ← total (s.write data)
  return o.set sub f

def writeLeadingChecked (o : AppObject) (sub : UInt8) (data : Bytes) :
    ExceptT AbortCode Option AppObject :=
  match o.leadingWrite with
  | .inPlace => do
    let s ← o.subChecked sub
    let f ← s.writeLeadingChecked data
    return o.set sub f
  | .wholeValue => do
    let s ← o.subChecked sub
    let value ← completeValueChecked s.info.size (o.readChecked sub 0) data
    o.writeChecked sub value

/-- The highest sub index, which is read into a buffer of one byte. -/
def maxSubChecked (o : AppObject) : Option UInt8 :=
  match o.layout.code with
  | .var => return 0
  | .array | .record => do
    match ← (o.readChecked 0 0 (Bytes.zeros 1)).run with
    | .ok (_, buffer) => return buffer.firstByte
    | .error _ => return 0

theorem subChecked_eq (o : AppObject) (sub : UInt8) : o.subChecked sub = total (o.sub sub) := by
  unfold subChecked AppObject.sub
  rw [Layout.sub?Checked_eq, lift_some, total_ok_bind]
  cases o.layout.sub? sub <;> rfl

theorem readChecked_eq (o : AppObject) (sub : UInt8) (offset : Nat) (buffer : Bytes) :
    o.readChecked sub offset buffer =
      total ((o.read sub offset buffer.length).map buffer.fill) := by
  unfold readChecked read
  rw [subChecked_eq]
  cases o.sub sub with
  | error e => rfl
  | ok s => exact s.readChecked_eq offset buffer

theorem writeChecked_eq (o : AppObject) (sub : UInt8) (data : Bytes) :
    o.writeChecked sub data = total (o.write sub data) := by
  unfold writeChecked write
  rw [subChecked_eq]
  refine total_bind fun s _ => ?_
  cases s.write data <;> rfl

theorem length_le_of_read {o : AppObject} {sub : UInt8} {offset len : Nat} {data : Bytes}
    (h : o.read sub offset len = .ok data) : data.length ≤ len := by
  obtain ⟨s, -, h⟩ := exists_of_bind_eq_ok h
  unfold SubObject.read at h
  split at h
  · exact Field.length_le_of_read h
  · cases h

theorem writeLeadingChecked_eq (o : AppObject) (sub : UInt8) (data : Bytes) :
    o.writeLeadingChecked sub data = total (o.writeLeading sub data) := by
  unfold writeLeadingChecked writeLeading
  cases o.leadingWrite with
  | inPlace =>
      dsimp only
      rw [subChecked_eq]
      refine total_bind fun s _ => ?_
      rw [SubObject.writeLeadingChecked_eq]
      cases s.writeLeading data <;> rfl
  | wholeValue =>
      dsimp only
      rw [subChecked_eq]
      unfold subInfo
      cases o.sub sub with
      | error e => rfl
      | ok s =>
          have hvalue : completeValueChecked s.info.size (o.readChecked sub 0) data =
              total (completeValue s.info.size (o.read sub 0) data) :=
            completeValueChecked_eq (o.readChecked_eq sub 0) (fun _ _ => length_le_of_read) data
          rw [total_ok_bind, hvalue]
          exact total_bind fun value _ => o.writeChecked_eq sub value

theorem maxSubChecked_eq (o : AppObject) : o.maxSubChecked = some o.maxSub := by
  have hread : (o.readChecked 0 0 (Bytes.zeros 1)).run =
      some ((o.read 0 0 1).map (Bytes.zeros 1).fill) := o.readChecked_eq 0 0 (Bytes.zeros 1)
  unfold maxSubChecked maxSub
  cases o.layout.code with
  | var => rfl
  | _ =>
      dsimp only
      rw [hread]
      rcases o.read 0 0 1 with e | bytes
      · rfl
      · cases bytes <;> rfl

end AppObject

namespace Dictionary

def readChecked (d : Dictionary) (id : ObjectId) (offset : Nat) (buffer : Bytes) :
    ExceptT AbortCode Option (Nat × Bytes) :=
  match d.application? id.index with
  | some o => o.readChecked id.sub offset buffer
  | none => throw .noSuchObject

def writeLeadingChecked (d : Dictionary) (id : ObjectId) (data : Bytes) :
    ExceptT AbortCode Option Dictionary :=
  match d.application? id.index with
  | some o => do
    let o ← o.writeLeadingChecked id.sub data
    return d.set id.index o
  | none => throw .noSuchObject

theorem readChecked_eq (d : Dictionary) (id : ObjectId) (offset : Nat) (buffer : Bytes) :
    d.readChecked id offset buffer =
      total ((d.read id offset buffer.length).map buffer.fill) := by
  unfold readChecked read
  cases d.application? id.index with
  | none => rfl
  | some o => exact o.readChecked_eq id.sub offset buffer

theorem writeLeadingChecked_eq (d : Dictionary) (id : ObjectId) (data : Bytes) :
    d.writeLeadingChecked id data = total (d.writeLeading id data) := by
  unfold writeLeadingChecked writeLeading
  cases d.application? id.index with
  | none => rfl
  | some o =>
      dsimp only
      rw [AppObject.writeLeadingChecked_eq]
      cases o.writeLeading id.sub data <;> rfl

end Dictionary

end Canopen
