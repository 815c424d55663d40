import Mathlib.Algebra.GroupWithZero.Nat
import Canopen.Proofs.StoredMapping

/-! # Partial reads

The value of a sub object is what a read from its start gives (`Device.value`).  Contents of sub
objects and parameters are cut into parts by routines of their own, which agree: a read from any
position up to the end gives the bytes of the value from there on, as many as there is room for, and
parts that are read one after the other make up the value (`Device.Shows.readChunks`).

A flag is an exception.  It can be read only from its start and into at most one byte
(`Device.readInto_slice_iff`), so that whoever reads on until nothing is left is refused at the end of
a flag (`flag_end_refused`). -/

namespace Canopen

/-- What follows a part of a string, and the part itself, are a longer part. -/
theorem Bytes.window_append_window (bytes : Bytes) (offset len more : Nat) :
    bytes.window offset len ++ bytes.window (offset + (bytes.window offset len).length) more =
      bytes.window offset (len + more) := by
  rw [length_window]
  unfold window
  rw [List.take_add, List.drop_drop]
  by_cases h : len ≤ bytes.length - offset
  · rw [Nat.min_eq_left h]
  · rw [List.drop_eq_nil_of_le (by omega : bytes.length ≤ offset + min len (bytes.length - offset)),
      List.drop_eq_nil_of_le (by omega : bytes.length ≤ offset + len)]

namespace Field

theorem read_eq_window {f : Field} (h : ∀ value, f ≠ flag value) (offset len : Nat) :
    f.read offset len = .ok (f.bytes.window offset len) := by
  cases f with
  | flag value => exact absurd rfl (h value)
  | _ => rfl

end Field

namespace Device

/-- The value of a sub object: what a read from its start gives, of as many bytes as can be read. -/
def value (d : Device) (id : ObjectId) : Except AbortCode Bytes := do
  d.read id 0 (← d.readSize id)

/-- Read chunks of the given lengths, each from where the one before has ended. -/
def readChunks (d : Device) (id : ObjectId) : Nat → List Nat → Except AbortCode Bytes
  | _, [] => .ok []
  | offset, len :: lens => do
    let part ← d.read id offset len
    return part ++ (← d.readChunks id (offset + part.length) lens)

/-- The device has the PDO to which a parameter belongs. -/
def HasPdo (d : Device) : Parameter → Prop
  | .rpdoComm k | .rpdoMap k => k < d.rpdos.length
  | .tpdoComm k | .tpdoMap k => k < d.tpdos.length
  | _ => True

/-- The sub object exists and may be read. -/
inductive Readable (d : Device) (id : ObjectId) : Prop
  | content {s : SubObject} : d.dictionary.sub? id = some s → s.info.access.isReadable = true →
      Readable d id
  | parameter {p : Parameter} {info : SubInfo} : d.object id.index = .ok (.parameter p) →
      p.subInfo id.sub = .ok info → d.HasPdo p → Readable d id

/-- The sub object holds a flag. -/
def HoldsFlag (d : Device) (id : ObjectId) : Prop :=
  ∃ info b, d.dictionary.sub? id = some ⟨info, .flag b⟩

/-- What stands behind the value of a sub object that can be read. -/
inductive Shows (d : Device) (id : ObjectId) (value : Bytes) : Prop
  | content {s : SubObject} : d.dictionary.sub? id = some s → s.info.access.isReadable = true →
      value = s.field.bytes → Shows d id value
  | parameter {p : Parameter} : d.object id.index = .ok (.parameter p) →
      d.parameterBytes p id.sub = .ok value → Shows d id value

end Device

/-! ### Values of parameters -/

theorem Rpdo.length_commBytes (r : Rpdo) (k : Nat) (sub : UInt8) :
    (r.commBytes sub).map List.length = ((Parameter.rpdoComm k).subInfo sub).map SubInfo.size := by
  unfold commBytes Parameter.subInfo Parameter.subInfo?
  dsimp only
  by_cases h0 : sub = 0
  · subst h0; rfl
  by_cases h1 : sub = 1
  · subst h1; rfl
  by_cases h2 : sub = 2
  · subst h2; rfl
  · simp only [h0, h1, h2, if_false]
    rfl

theorem Tpdo.length_commBytes (t : Tpdo) (k : Nat) (sub : UInt8) :
    (t.commBytes sub).map List.length = ((Parameter.tpdoComm k).subInfo sub).map SubInfo.size := by
  unfold commBytes Parameter.subInfo Parameter.subInfo?
  dsimp only
  by_cases h0 : sub = 0
  · subst h0; rfl
  by_cases h1 : sub = 1
  · subst h1; rfl
  by_cases h2 : sub = 2
  · subst h2; rfl
  by_cases h3 : sub = 3
  · subst h3; rfl
  by_cases h5 : sub = 5
  · subst h5; rfl
  by_cases h6 : sub = 6
  · subst h6; rfl
  · simp only [h0, h1, h2, h3, h5, h6, or_false, if_false]
    rfl

theorem length_mappingBytes (k : Nat) (params : PdoParams) (m : MappedPdo) (sub : UInt8) :
    (mappingBytes params m sub).map List.length =
      ((Parameter.rpdoMap k).subInfo sub).map SubInfo.size := by
  unfold mappingBytes MappingTable.get? Parameter.subInfo Parameter.subInfo?
  dsimp only
  by_cases hzero : sub = 0
  · subst hzero
    rfl
  · have hpos : sub.toNat ≠ 0 := fun h => hzero (UInt8.toNat_inj.mp h)
    have hlength : params.mappings.words.length = 8 := params.mappings.length_eq
    rw [if_neg hzero, if_neg hzero]
    by_cases hle : sub ≤ 8
    · have hlt : sub.toNat - 1 < params.mappings.words.length := by
        have hle : sub.toNat ≤ 8 := UInt8.le_iff_toNat_le.mp hle
        omega
      rw [if_pos hle, List.getElem?_eq_getElem hlt]
      exact congrArg Except.ok (Bytes.length_ofUInt32 _)
    · have hge : params.mappings.words.length ≤ sub.toNat - 1 := by
        have hlt := mt UInt8.le_iff_toNat_le.mpr hle
        replace hlt : ¬ sub.toNat ≤ 8 := hlt
        omega
      rw [if_neg hle, List.getElem?_eq_none hge]
      rfl

namespace Device

variable {d : Device} {id : ObjectId} {value : Bytes} {p : Parameter}

theorem length_parameterBytes (h : d.HasPdo p) (sub : UInt8) :
    (d.parameterBytes p sub).map List.length = (p.subInfo sub).map SubInfo.size := by
  cases p with
  | rpdoComm k =>
      rw [parameterBytes_rpdoComm (List.getElem?_eq_getElem h)]
      exact Rpdo.length_commBytes _ k sub
  | tpdoComm k =>
      rw [parameterBytes_tpdoComm (List.getElem?_eq_getElem h)]
      exact Tpdo.length_commBytes _ k sub
  | rpdoMap k =>
      rw [parameterBytes_rpdoMap (List.getElem?_eq_getElem h)]
      exact length_mappingBytes k _ _ sub
  | tpdoMap k =>
      rw [parameterBytes_tpdoMap (List.getElem?_eq_getElem h)]
      exact length_mappingBytes k _ _ sub
  | _ =>
      by_cases h0 : sub = 0
      · subst h0
        rfl
      · unfold parameterBytes Parameter.subInfo Parameter.subInfo?
        simp only [if_neg h0]
        rfl

theorem hasPdo_of_parameterBytes {sub : UInt8} (h : d.parameterBytes p sub = .ok value) :
    d.HasPdo p := by
  cases p with
  | rpdoComm k | rpdoMap k =>
      obtain ⟨r, hr, -⟩ := exists_of_bind_eq_ok h
      exact (List.getElem?_eq_some_iff.mp (rpdo_eq_ok hr)).1
  | tpdoComm k | tpdoMap k =>
      obtain ⟨t, ht, -⟩ := exists_of_bind_eq_ok h
      exact (List.getElem?_eq_some_iff.mp (tpdo_eq_ok ht)).1
  | _ => trivial

theorem parameterBytes_eq_ok_iff {sub : UInt8} :
    (∃ value, d.parameterBytes p sub = .ok value) ↔
      d.HasPdo p ∧ ∃ info, p.subInfo sub = .ok info := by
  constructor
  · rintro ⟨value, hvalue⟩
    have hpdo := hasPdo_of_parameterBytes hvalue
    have hlength := length_parameterBytes hpdo sub
    rw [hvalue] at hlength
    cases hinfo : p.subInfo sub with
    | ok info => exact ⟨hpdo, info, rfl⟩
    | error e =>
        rw [hinfo] at hlength
        cases hlength
  · rintro ⟨hpdo, info, hinfo⟩
    have hlength := length_parameterBytes hpdo sub
    rw [hinfo] at hlength
    cases hvalue : d.parameterBytes p sub with
    | ok value => exact ⟨value, rfl⟩
    | error e =>
        rw [hvalue] at hlength
        cases hlength

/-! ### Parts of a value -/

theorem AppObject.sub?_of_sub {o : AppObject} {sub : UInt8} {s : SubObject} (h : o.sub sub = .ok s) :
    o.layout.sub? sub = some s := by
  unfold AppObject.sub at h
  split at h
  · rename_i s' hs'
    rw [hs', Except.ok.inj h]
  · cases h

theorem object_of_sub? {s : SubObject} (h : d.dictionary.sub? id = some s) :
    ∃ o, d.object id.index = .ok (.application o) ∧ o.sub id.sub = .ok s := by
  obtain ⟨o, ho, hs⟩ := Option.bind_eq_some_iff.mp h
  refine ⟨o, ?_, ?_⟩
  · unfold object
    rw [Dictionary.find?_of_application? ho]
  · unfold AppObject.sub
    rw [hs]

theorem read_content {s : SubObject} (h : d.dictionary.sub? id = some s)
    (hreadable : s.info.access.isReadable = true) (offset len : Nat) :
    d.read id offset len = s.field.read offset len := by
  obtain ⟨o, ho, hs⟩ := object_of_sub? h
  unfold read
  rw [ho]
  show o.read id.sub offset len = _
  unfold AppObject.read
  rw [hs]
  show s.read offset len = _
  unfold SubObject.read
  rw [if_pos hreadable]

theorem readSize_content {s : SubObject} (h : d.dictionary.sub? id = some s) :
    d.readSize id = .ok s.field.bytes.length := by
  obtain ⟨o, ho, hs⟩ := object_of_sub? h
  unfold readSize
  rw [ho]
  show o.readSize id.sub = _
  unfold AppObject.readSize
  rw [hs]
  rfl

theorem readPart_parameter (h : d.object id.index = .ok (.parameter p))
    (hvalue : d.parameterBytes p id.sub = .ok value) (offset len : Nat) :
    d.read id offset len = readPart value offset len := by
  unfold read
  rw [h]
  show (do readPart (← d.parameterBytes p id.sub) offset len) = _
  rw [hvalue]
  rfl

theorem readSize_parameter (h : d.object id.index = .ok (.parameter p))
    (hvalue : d.parameterBytes p id.sub = .ok value) : d.readSize id = .ok value.length := by
  have hlength := length_parameterBytes (hasPdo_of_parameterBytes hvalue) id.sub
  rw [hvalue] at hlength
  unfold readSize
  rw [h]
  exact hlength.symm

theorem not_holdsFlag_of_parameter (h : d.object id.index = .ok (.parameter p)) :
    ¬ d.HoldsFlag id := by
  rintro ⟨info, b, hsub⟩
  obtain ⟨o, ho, -⟩ := object_of_sub? hsub
  rw [h] at ho
  cases ho

namespace Shows

theorem readSize (h : d.Shows id value) : d.readSize id = .ok value.length := by
  cases h with
  | content hsub _ hvalue =>
      rw [hvalue]
      exact readSize_content hsub
  | parameter hobject hbytes => exact readSize_parameter hobject hbytes

/-- A value that is no flag is read from any position on. -/
theorem read_of_not_holdsFlag (h : d.Shows id value) (hflag : ¬ d.HoldsFlag id) {offset : Nat}
    (hoffset : offset ≤ value.length) (len : Nat) :
    d.read id offset len = .ok (value.window offset len) := by
  cases h with
  | @content s hsub hreadable hvalue =>
      have hne : ∀ b, s.field ≠ .flag b := fun b hb => hflag ⟨s.info, b, hb ▸ hsub⟩
      rw [hvalue, read_content hsub hreadable, Field.read_eq_window hne]
  | parameter hobject hbytes =>
      rw [readPart_parameter hobject hbytes]
      exact if_neg (Nat.not_lt.mpr hoffset)

/-- A flag is read from its start and into at most one byte. -/
theorem read_of_holdsFlag (h : d.Shows id value) (hflag : d.HoldsFlag id) (offset len : Nat) :
    d.read id offset len =
      if offset ≠ 0 ∨ 1 < len then .error .lengthTooHigh else .ok (value.window offset len) := by
  cases h with
  | content hsub hreadable hvalue =>
      obtain ⟨info, b, hb⟩ := hflag
      obtain rfl := Option.some.inj (hsub.symm.trans hb)
      rw [hvalue]
      exact read_content hsub hreadable offset len
  | parameter hobject _ => exact absurd hflag (not_holdsFlag_of_parameter hobject)

theorem length_of_holdsFlag (h : d.Shows id value) (hflag : d.HoldsFlag id) : value.length = 1 := by
  cases h with
  | content hsub _ hvalue =>
      obtain ⟨info, b, hb⟩ := hflag
      obtain rfl := Option.some.inj (hsub.symm.trans hb)
      rw [hvalue]
      rfl
  | parameter hobject _ => exact absurd hflag (not_holdsFlag_of_parameter hobject)

theorem value_eq (h : d.Shows id value) : d.value id = .ok value := by
  have hall : value.window 0 value.length = value := List.take_length ..
  unfold Device.value
  rw [h.readSize]
  show d.read id 0 value.length = .ok value
  by_cases hflag : d.HoldsFlag id
  · have hlength := h.length_of_holdsFlag hflag
    rw [h.read_of_holdsFlag hflag, if_neg (by omega), hall]
  · rw [h.read_of_not_holdsFlag hflag (Nat.zero_le _), hall]

end Shows

theorem readable_iff : d.Readable id ↔ ∃ value, d.Shows id value := by
  constructor
  · intro h
    cases h with
    | content hsub hreadable => exact ⟨_, .content hsub hreadable rfl⟩
    | parameter hobject hinfo hpdo =>
        obtain ⟨value, hvalue⟩ := parameterBytes_eq_ok_iff.mpr ⟨hpdo, _, hinfo⟩
        exact ⟨value, .parameter hobject hvalue⟩
  · rintro ⟨value, h⟩
    cases h with
    | content hsub hreadable _ => exact .content hsub hreadable
    | parameter hobject hbytes =>
        obtain ⟨hpdo, info, hinfo⟩ := parameterBytes_eq_ok_iff.mp ⟨_, hbytes⟩
        exact .parameter hobject hinfo hpdo

/-- What can be read has a sub object or a parameter behind it. -/
theorem shows_of_read {offset len : Nat} {data : Bytes} (h : d.read id offset len = .ok data) :
    ∃ value, d.Shows id value := by
  obtain ⟨object, hobject, hread⟩ := exists_of_bind_eq_ok h
  cases object with
  | application o =>
      obtain ⟨s, hs, hread⟩ :=
        exists_of_bind_eq_ok (show o.read id.sub offset len = .ok data from hread)
      have hsub : d.dictionary.sub? id = some s := Option.bind_eq_some_iff.mpr
        ⟨o, application?_of_object hobject, AppObject.sub?_of_sub hs⟩
      by_cases hreadable : s.info.access.isReadable = true
      · exact ⟨_, .content hsub hreadable rfl⟩
      · unfold SubObject.read at hread
        rw [if_neg hreadable] at hread
        cases hread
  | parameter p =>
      obtain ⟨value, hvalue, -⟩ := exists_of_bind_eq_ok
        (show (do readPart (← d.parameterBytes p id.sub) offset len) = .ok data from hread)
      exact ⟨value, .parameter hobject hvalue⟩

theorem value_eq_ok_iff : d.value id = .ok value ↔ d.Shows id value := by
  refine ⟨fun h => ?_, Shows.value_eq⟩
  obtain ⟨size, -, hread⟩ := exists_of_bind_eq_ok h
  obtain ⟨shown, hshown⟩ := shows_of_read hread
  obtain rfl := Except.ok.inj (h.symm.trans hshown.value_eq)
  exact hshown

/-- Chunks that are read one after the other make up the value from where the first one starts. -/
theorem Shows.readChunks (h : d.Shows id value) (hflag : ¬ d.HoldsFlag id) (lens : List Nat)
    {offset : Nat} (hoffset : offset ≤ value.length) :
    d.readChunks id offset lens = .ok (value.window offset lens.sum) := by
  induction lens generalizing offset with
  | nil =>
      show Except.ok [] = Except.ok (value.window offset 0)
      rw [Bytes.window, List.take_zero]
  | cons len lens ih =>
      have hnext : offset + (value.window offset len).length ≤ value.length := by
        rw [Bytes.length_window]
        omega
      unfold Device.readChunks
      rw [h.read_of_not_holdsFlag hflag hoffset]
      show (do return value.window offset len ++ (← d.readChunks id _ lens)) = _
      rw [ih hnext, List.sum_cons, ← Bytes.window_append_window]
      rfl

/-- A slice of a value replaces the leading bytes of the buffer that it is read into. -/
theorem readInto_of_read {offset : Nat} {buffer : Bytes}
    (h : d.read id offset buffer.length = .ok (value.window offset buffer.length)) :
    d.readInto id offset buffer =
      .ok (min buffer.length (value.length - offset),
        (value.drop offset).take (min buffer.length (value.length - offset)) ++
          buffer.drop (min buffer.length (value.length - offset))) := by
  have hslice : value.window offset buffer.length =
      (value.drop offset).take (min buffer.length (value.length - offset)) := by
    unfold Bytes.window
    rw [List.take_eq_take_iff, List.length_drop]
    omega
  unfold readInto Bytes.overlay
  rw [h]
  show Except.ok ((value.window offset buffer.length).length,
    value.window offset buffer.length ++ buffer.drop (value.window offset buffer.length).length) = _
  rw [Bytes.length_window, hslice]

/-- **Every part of a value that can be read is a slice of it, unless it is a flag.**  Whatever exists
and may be read has a value.  A read into a buffer, from any position up to the end of the value, gives
as many bytes as are left and fit, fills the start of the buffer with them and keeps the rest of it;
chunks that are read one after the other make up the value.  This is about every sub object of the
application and every parameter.

A flag has one byte.  It is read so from its start and into at most one byte, and every other read of
it is refused. -/
theorem readInto_slice_iff (d : Device) (id : ObjectId) :
    (d.Readable id ↔ ∃ value, d.value id = .ok value) ∧
    ∀ {value : Bytes}, d.value id = .ok value →
      d.readSize id = .ok value.length ∧
      (∀ {offset : Nat} (buffer : Bytes), offset ≤ value.length →
        let n := min buffer.length (value.length - offset)
        let permitted := d.HoldsFlag id → offset = 0 ∧ buffer.length ≤ 1
        (d.readInto id offset buffer =
            .ok (n, (value.drop offset).take n ++ buffer.drop n) ↔ permitted) ∧
          (¬ permitted → d.readInto id offset buffer = .error .lengthTooHigh)) ∧
      (¬ d.HoldsFlag id → ∀ lens, d.readChunks id 0 lens = .ok (value.take lens.sum)) := by
  refine ⟨readable_iff.trans (exists_congr fun _ => value_eq_ok_iff.symm), fun {value} hvalue => ?_⟩
  have hshows := value_eq_ok_iff.mp hvalue
  refine ⟨hshows.readSize, fun {offset} buffer hoffset => ?_, fun hflag lens => ?_⟩
  · intro n permitted
    by_cases hflag : d.HoldsFlag id
    · have hread := hshows.read_of_holdsFlag hflag offset buffer.length
      by_cases hp : offset = 0 ∧ buffer.length ≤ 1
      · rw [if_neg (by omega)] at hread
        exact ⟨iff_of_true (readInto_of_read hread) fun _ => hp, fun hnot => absurd (fun _ => hp) hnot⟩
      · have hrefused : d.readInto id offset buffer = .error .lengthTooHigh := by
          unfold readInto
          rw [hread, if_pos (by omega)]
          rfl
        refine ⟨iff_of_false (fun hok => ?_) fun h => hp (h hflag), fun _ => hrefused⟩
        rw [hrefused] at hok
        cases hok
    · have hread := hshows.read_of_not_holdsFlag hflag hoffset buffer.length
      have hp : permitted := fun h => absurd h hflag
      exact ⟨iff_of_true (readInto_of_read hread) hp, fun hnot => absurd hp hnot⟩
  · exact hshows.readChunks hflag lens (Nat.zero_le _)

end Device

/-! ### A word and a flag -/

/-- A 32-bit variable and a flag. -/
def wordAndFlag : Dictionary :=
  ⟨[⟨0x2000, .application (.var SubInfo.u32.readWrite (.ofNumber .u32 0x44332211))⟩,
    ⟨0x2001, .application (.var (SubInfo.plain 1 .boolean).readWrite (.flag true))⟩]⟩

/-- Three bytes of the word are left from its second one on, and leave a byte of the buffer; it is
read byte by byte too.  The flag is read into one byte. -/
theorem readInto_slice_iff_wordAndFlag :
    let d := Device.fresh 0 0 wordAndFlag
    d.readInto ⟨0x2000, 0⟩ 1 [0xEE, 0xEE, 0xEE, 0xEE] = .ok (3, [0x22, 0x33, 0x44, 0xEE]) ∧
      d.readChunks ⟨0x2000, 0⟩ 0 [1, 1, 1, 1] = .ok [0x11, 0x22, 0x33, 0x44] ∧
      d.readInto ⟨0x2001, 0⟩ 0 [0xEE] = .ok (1, [1]) := by
  intro d
  have hword : d.value ⟨0x2000, 0⟩ = .ok [0x11, 0x22, 0x33, 0x44] := rfl
  have hflag : d.value ⟨0x2001, 0⟩ = .ok [1] := rfl
  have hnot : ¬ d.HoldsFlag ⟨0x2000, 0⟩ := by
    rintro ⟨info, b, h⟩
    cases h
  obtain ⟨_, hslice, hchunks⟩ := (d.readInto_slice_iff ⟨0x2000, 0⟩).2 hword
  refine ⟨(hslice [0xEE, 0xEE, 0xEE, 0xEE] (by decide)).1.mpr fun h => absurd h hnot,
    hchunks hnot [1, 1, 1, 1], ?_⟩
  exact (((d.readInto_slice_iff ⟨0x2001, 0⟩).2 hflag).2.1 [0xEE] (by decide)).1.mpr
    fun _ => ⟨rfl, by decide⟩

/-- The value of the flag is one byte.  Nothing is left after it, but the read that would show so is
refused, and so is a read into a longer buffer. -/
theorem flag_end_refused :
    let d := Device.fresh 0 0 wordAndFlag
    d.Readable ⟨0x2001, 0⟩ ∧ d.value ⟨0x2001, 0⟩ = .ok [1] ∧
      d.readInto ⟨0x2001, 0⟩ 1 [0xEE] = .error .lengthTooHigh ∧
      d.readInto ⟨0x2001, 0⟩ 0 [0xEE, 0xEE, 0xEE, 0xEE] = .error .lengthTooHigh ∧
      d.readChunks ⟨0x2001, 0⟩ 0 [1, 1] = .error .lengthTooHigh :=
  ⟨.content rfl rfl, rfl, rfl, rfl, rfl⟩

end Canopen
