import Canopen.Proofs.Transfer

/-! # Two ways to replace leading bytes

An object replaces the leading bytes of a value in place, or it reads the value, replaces the bytes
and writes the whole back.  For a number or a flag of the declared size both ways compute the same
value, but the second has to read it (`SubObject.replaceLeading_wholeValue`).  A read is subject to
the access type: of a sub object that is write-only, leading bytes can be replaced in place and not in
the other way, although the resolver accepts both for a receive PDO
(`AppObject.leadingWrites_agree_iff`). -/

namespace Canopen

namespace Field

variable {f : Field} {data : Bytes}

/-- The content is a number of the width of its type, or a flag. -/
inductive IsScalar : Field → Prop
  | number {type : NumberType} {bytes : Bytes} (h : bytes.length = type.width) :
      IsScalar (number type bytes)
  | flag (value : Bool) : IsScalar (flag value)

theorem IsScalar.size_le (h : f.IsScalar) : f.size ≤ maxCompletedSize := by
  cases h with
  | @number type bytes h =>
      show bytes.length ≤ 8
      rw [h]
      cases type <;> decide
  | flag value => exact (by decide : 1 ≤ 8)

theorem IsScalar.writeLeading_of_le (h : f.IsScalar) (hle : data.length ≤ f.size) :
    ∃ g, f.writeLeading data = .ok g ∧ f.write (data.overlay f.bytes) = .ok g := by
  cases h with
  | @number type bytes h =>
      replace hle : data.length ≤ bytes.length := hle
      have hlength : (data.overlay bytes).length = bytes.length := by
        rw [Bytes.length_overlay]
        omega
      refine ⟨.number type (data.overlay bytes), if_neg (Nat.not_lt.mpr hle), ?_⟩
      show (checkLength (data.overlay bytes) bytes.length).map _ = _
      rw [checkLength_eq_ok_iff.mpr hlength]
      rfl
  | flag value =>
      cases data with
      | nil => cases value <;> exact ⟨_, rfl, rfl⟩
      | cons b rest =>
          replace hle : rest.length + 1 ≤ 1 := hle
          obtain rfl : rest = [] := List.eq_nil_of_length_eq_zero (by omega)
          exact ⟨_, rfl, rfl⟩

theorem IsScalar.writeLeading_of_lt (h : f.IsScalar) (hlt : f.size < data.length) :
    f.writeLeading data = .error .lengthTooHigh := by
  cases h with
  | number _ => exact if_pos hlt
  | flag value =>
      replace hlt : 1 < data.length := hlt
      have hne : data ≠ [] := fun hnil => by
        rw [hnil] at hlt
        cases hlt
      unfold writeLeading write checkLength
      dsimp only
      rw [if_neg hne, if_neg (by omega), if_pos hlt]
      rfl

end Field

namespace SubObject

variable {s : SubObject} {data : Bytes}

/-- Replace the leading bytes of a sub object in one of the two ways. -/
def replaceLeading (s : SubObject) (data : Bytes) : LeadingWrite → Except AbortCode Field
  | .inPlace => s.writeLeading data
  | .wholeValue => completeValue s.info.size (s.read 0) data >>= s.write

/-- The second way comes to the same if it need not read the value, or may. -/
theorem replaceLeading_wholeValue (hscalar : s.field.IsScalar) (hsize : s.info.size = s.field.size)
    (hwritable : s.info.access.isWritable = true)
    (h : s.info.access.isReadable = true ∨ s.field.size ≤ data.length) :
    s.replaceLeading data .wholeValue = s.replaceLeading data .inPlace := by
  have hwrite : ∀ value, s.write value = s.field.write value := fun value => if_pos hwritable
  have hinPlace : s.replaceLeading data .inPlace = s.field.writeLeading data := if_pos hwritable
  rw [hinPlace]
  unfold replaceLeading completeValue
  dsimp only
  rw [hsize]
  rcases Nat.lt_trichotomy data.length s.field.size with hlt | heq | hgt
  · have hreadable := h.resolve_right (Nat.not_le.mpr hlt)
    have hread : s.read 0 s.field.size = .ok s.field.bytes := by
      unfold SubObject.read
      rw [if_pos hreadable, Field.read_zero (Nat.le_refl _)]
      exact congrArg _ (List.take_length ..)
    have hpresent : s.field.bytes.overlay (Bytes.zeros s.field.size) = s.field.bytes :=
      Bytes.overlay_of_length_le (Nat.le_of_eq (Bytes.length_zeros _))
    rw [if_neg (Nat.ne_of_lt hlt), if_neg (Nat.not_lt.mpr (Nat.le_of_lt hlt)),
      if_neg (Nat.not_lt.mpr hscalar.size_le), hread]
    show s.write (data.overlay (s.field.bytes.overlay (Bytes.zeros s.field.size))) = _
    obtain ⟨g, hplace, hwhole⟩ := hscalar.writeLeading_of_le (Nat.le_of_lt hlt)
    rw [hpresent, hwrite, hplace, hwhole]
  · rw [if_pos heq]
    show s.write data = _
    have hall : data.overlay s.field.bytes = data :=
      Bytes.overlay_of_length_le (Nat.le_of_eq heq.symm)
    obtain ⟨g, hplace, hwhole⟩ := hscalar.writeLeading_of_le (Nat.le_of_eq heq)
    rw [hall] at hwhole
    rw [hwrite, hplace, hwhole]
  · rw [if_neg (Nat.ne_of_gt hgt), if_pos hgt, hscalar.writeLeading_of_lt hgt]
    rfl

/-- A value that may not be read cannot be completed. -/
theorem replaceLeading_of_writeOnly (hscalar : s.field.IsScalar)
    (hsize : s.info.size = s.field.size)
    (h : ¬ (s.info.access.isReadable = true ∨ s.field.size ≤ data.length)) :
    s.replaceLeading data .wholeValue = .error .writeOnly := by
  rw [not_or, Nat.not_le] at h
  obtain ⟨hreadable, hlt⟩ := h
  have hread : s.read 0 s.field.size = .error .writeOnly := if_neg hreadable
  unfold replaceLeading completeValue
  dsimp only
  rw [hsize, if_neg (Nat.ne_of_lt hlt), if_neg (Nat.not_lt.mpr (Nat.le_of_lt hlt)),
    if_neg (Nat.not_lt.mpr hscalar.size_le), hread]
  rfl

/-- The ways differ exactly where a value must be read that may not be. -/
theorem replaceLeading_cases (hscalar : s.field.IsScalar) (hsize : s.info.size = s.field.size)
    (hwritable : s.info.access.isWritable = true) (data : Bytes) :
    ((s.info.access.isReadable = true ∨ s.field.size ≤ data.length) ∧
        s.replaceLeading data .wholeValue = s.replaceLeading data .inPlace) ∨
      (¬ (s.info.access.isReadable = true ∨ s.field.size ≤ data.length) ∧
        s.replaceLeading data .wholeValue = .error .writeOnly ∧
        ∃ f, s.field.writeLeading data = .ok f ∧ s.replaceLeading data .inPlace = .ok f) := by
  by_cases h : s.info.access.isReadable = true ∨ s.field.size ≤ data.length
  · exact .inl ⟨h, replaceLeading_wholeValue hscalar hsize hwritable h⟩
  · have hle : data.length ≤ s.field.size := Nat.le_of_not_le (not_or.mp h).2
    obtain ⟨f, hf, _⟩ := hscalar.writeLeading_of_le hle
    have hinPlace : s.replaceLeading data .inPlace = s.field.writeLeading data := if_pos hwritable
    exact .inr ⟨h, replaceLeading_of_writeOnly hscalar hsize h, f, hf, hinPlace.trans hf⟩

end SubObject

/-! ### Objects -/

namespace AppObject

variable {o : AppObject} {sub : UInt8} {s : SubObject}

/-- The same object with another way to replace leading bytes. -/
def withLeadingWrite (o : AppObject) (way : LeadingWrite) : AppObject :=
  { o with leadingWrite := way }

/-- What the object holds after the leading bytes of a value have been replaced in one of the two
ways, or why they have not. -/
def afterLeading (o : AppObject) (sub : UInt8) (data : Bytes) (way : LeadingWrite) :
    Except AbortCode Layout :=
  ((o.withLeadingWrite way).writeLeading sub data).map AppObject.layout

theorem afterLeading_eq (hs : o.layout.sub? sub = some s) (data : Bytes) (way : LeadingWrite) :
    o.afterLeading sub data way = (s.replaceLeading data way).map (o.layout.set sub) := by
  have hsub : ∀ way, (o.withLeadingWrite way).sub sub = .ok s := by
    intro way
    unfold AppObject.sub withLeadingWrite
    dsimp only
    rw [hs]
  unfold afterLeading writeLeading
  cases way with
  | inPlace =>
      show Except.map _ ((o.withLeadingWrite .inPlace).sub sub >>= fun s => s.writeLeading data >>=
        fun f => pure ((o.withLeadingWrite .inPlace).set sub f)) = _
      rw [hsub]
      show Except.map _ (s.writeLeading data >>= fun f => _) =
        (s.writeLeading data).map (o.layout.set sub)
      cases s.writeLeading data with
      | error e => rfl
      | ok f => rfl
  | wholeValue =>
      have hinfo : (o.withLeadingWrite .wholeValue).subInfo sub = .ok s.info := by
        unfold subInfo
        rw [hsub]
        rfl
      have hread : (o.withLeadingWrite .wholeValue).read sub 0 = s.read 0 := by
        funext len
        unfold AppObject.read
        rw [hsub]
        rfl
      show Except.map _ ((o.withLeadingWrite .wholeValue).subInfo sub >>= fun info =>
        completeValue info.size ((o.withLeadingWrite .wholeValue).read sub 0) data >>= fun value =>
          (o.withLeadingWrite .wholeValue).write sub value) = _
      rw [hinfo, hread]
      show Except.map _ (completeValue s.info.size (s.read 0) data >>= fun value => _) =
        (completeValue s.info.size (s.read 0) data >>= s.write).map (o.layout.set sub)
      cases completeValue s.info.size (s.read 0) data with
      | error e => rfl
      | ok value =>
          show Except.map _ ((o.withLeadingWrite .wholeValue).write sub value) =
            (s.write value).map (o.layout.set sub)
          unfold AppObject.write
          rw [hsub]
          show Except.map _ (s.write value >>= fun f => _) = _
          cases s.write value with
          | error e => rfl
          | ok f => rfl

end AppObject

namespace Dictionary

/-- What the application object at an index holds. -/
def layout? (d : Dictionary) (index : UInt16) : Option Layout :=
  (d.application? index).map AppObject.layout

/-- Received bytes that an object refuses are dropped. -/
theorem layout?_deliver {d : Dictionary} {id : ObjectId} {o : AppObject}
    (h : d.application? id.index = some o) (len : Nat) (multibyte : Bool) (data : Bytes)
    (way : LeadingWrite) :
    ((Target.object id len multibyte).deliver (d.set id.index (o.withLeadingWrite way)) data).layout?
        id.index =
      some ((o.afterLeading id.sub data way).toOption.getD o.layout) := by
  have hset : (d.set id.index (o.withLeadingWrite way)).application? id.index =
      some (o.withLeadingWrite way) := (application?_set h id.index).trans (if_pos rfl)
  unfold Target.deliver writeLeading AppObject.afterLeading
  dsimp only
  rw [hset]
  dsimp only
  cases (o.withLeadingWrite way).writeLeading id.sub data with
  | error e =>
      unfold layout?
      dsimp only [Except.map]
      rw [hset]
      rfl
  | ok o' =>
      unfold layout?
      dsimp only [Except.map]
      rw [application?_set hset, if_pos rfl]
      rfl

end Dictionary

/-- **Leading bytes can be replaced in either way, unless they are part of a value that may not be
read.**  This is about any number or flag of the declared size in an application object, with any
value.  If it may be written, then with any data both ways have the same result and leave the same
values behind, exactly if the value may also be read or the data are not shorter than it; else the
bytes are replaced in place, and the other way is refused.

Likewise for an entry of a receive PDO that the resolver accepts, and the bytes received for it: both
ways leave the same values behind if the value may be read or the entry covers all of it; else the
object that reads the value first drops what is received, and the other one takes it. -/
theorem AppObject.leadingWrites_agree_iff {o : AppObject} {sub : UInt8} {s : SubObject}
    (hs : o.layout.sub? sub = some s) (hscalar : s.field.IsScalar)
    (hsize : s.info.size = s.field.size) :
    (s.info.access.isWritable = true → ∀ data : Bytes,
      let completes := s.info.access.isReadable = true ∨ s.field.size ≤ data.length
      (o.afterLeading sub data .wholeValue = o.afterLeading sub data .inPlace ↔ completes) ∧
        (¬ completes → o.afterLeading sub data .wholeValue = .error .writeOnly ∧
          ∃ f, s.field.writeLeading data = .ok f ∧
            o.afterLeading sub data .inPlace = .ok (o.layout.set sub f))) ∧
    ∀ {d : Dictionary} {rpdos tpdos : Nat} {descriptor : MappingDescriptor} {mapped : Nat}
      {entry : ResolvedEntry} {multibyte : Bool} {data : Bytes},
      d.application? descriptor.index = some o →
      resolveEntry (d.attributes rpdos tpdos) .receive descriptor mapped = .ok entry →
      entry.target = .object ⟨descriptor.index, sub⟩ data.length multibyte →
      let completes := s.info.access.isReadable = true ∨ s.field.size = data.length
      let delivered := fun way => (entry.target.deliver
        (d.set descriptor.index (o.withLeadingWrite way)) data).layout? descriptor.index
      (completes → delivered .wholeValue = delivered .inPlace) ∧
        (¬ completes → delivered .wholeValue = some o.layout ∧
          ∃ f, s.field.writeLeading data = .ok f ∧
            delivered .inPlace = some (o.layout.set sub f)) := by
  refine ⟨fun hwritable data => ?_, ?_⟩
  · intro completes
    rw [afterLeading_eq hs, afterLeading_eq hs]
    rcases SubObject.replaceLeading_cases hscalar hsize hwritable data with
      ⟨hcompletes, hsame⟩ | ⟨hnot, hrefused, f, hf, htaken⟩
    · rw [hsame]
      exact ⟨iff_of_true rfl hcompletes, fun hnot => absurd hcompletes hnot⟩
    · rw [hrefused, htaken]
      exact ⟨iff_of_false nofun hnot, fun _ => ⟨rfl, f, hf, rfl⟩⟩
  · intro d rpdos tpdos descriptor mapped entry multibyte data ho hentry htarget completes delivered
    have hsub : d.sub? ⟨descriptor.index, sub⟩ = some s := Option.bind_eq_some_iff.mpr ⟨o, ho, hs⟩
    obtain ⟨info, hinfo, hpermits, hle⟩ := MappedPdo.declared_resolveEntry hentry htarget
    rw [Dictionary.info?_of_sub? hsub] at hinfo
    obtain rfl := Option.some.inj hinfo
    rw [hsize] at hle
    have hwritable := Direction.isWritable_of_permits hpermits
    have hcovers : s.field.size = data.length ↔ s.field.size ≤ data.length :=
      ⟨Nat.le_of_eq, fun hge => Nat.le_antisymm hge hle⟩
    have hdelivered : ∀ way, delivered way =
        some ((o.afterLeading sub data way).toOption.getD o.layout) := by
      intro way
      show (entry.target.deliver (d.set descriptor.index (o.withLeadingWrite way)) data).layout?
        descriptor.index = _
      rw [htarget]
      exact Dictionary.layout?_deliver ho data.length multibyte data way
    show ((_ ∨ s.field.size = data.length) → _) ∧ (¬ (_ ∨ s.field.size = data.length) → _)
    rw [hcovers, hdelivered, hdelivered, afterLeading_eq hs, afterLeading_eq hs]
    rcases SubObject.replaceLeading_cases hscalar hsize hwritable data with
      ⟨hcompletes, hsame⟩ | ⟨hnot, hrefused, f, hf, htaken⟩
    · rw [hsame]
      exact ⟨fun _ => rfl, fun hnot => absurd hcompletes hnot⟩
    · rw [hrefused, htaken]
      exact ⟨fun hcompletes => absurd hcompletes hnot, fun _ => ⟨rfl, f, hf, rfl⟩⟩

/-! ### A word that may not be read -/

/-- A 16-bit variable that may be mapped into receive PDOs. -/
def mappedWord (access : AccessType) : AppObject :=
  .var { SubInfo.u16 with access := access, pdoMapping := .rpdo } (.ofNumber .u16 0x3322)

/-- A dictionary with such a variable that is write-only. -/
def mappedWords : Dictionary := ⟨[⟨0x2000, .application (mappedWord .writeOnly)⟩]⟩

/-- The entry of a receive PDO that covers the low byte of the variable. -/
def lowByteEntry : ResolvedEntry := ⟨.object ⟨0x2000, 0⟩ 1 true, 1, 0⟩

theorem AppObject.leadingWrites_agree_iff_mappedWord :
    (mappedWord .readWrite).afterLeading 0 [0x11] .wholeValue =
        (mappedWord .readWrite).afterLeading 0 [0x11] .inPlace ∧
      (mappedWord .writeOnly).afterLeading 0 [0x11, 0x55] .wholeValue =
        (mappedWord .writeOnly).afterLeading 0 [0x11, 0x55] .inPlace ∧
      (mappedWord .writeOnly).afterLeading 0 [0x11] .wholeValue = .error .writeOnly ∧
      (lowByteEntry.target.deliver (mappedWords.set 0x2000
        ((mappedWord .writeOnly).withLeadingWrite .wholeValue)) [0x11]).layout? 0x2000 =
          some (mappedWord .writeOnly).layout := by
  have hscalar : (Field.ofNumber .u16 0x3322).IsScalar := .number (NumberType.length_encode _ _)
  have hword : ∀ access, (mappedWord access).layout.sub? 0 =
      some ⟨{ SubInfo.u16 with access := access, pdoMapping := .rpdo }, .ofNumber .u16 0x3322⟩ :=
    fun _ => rfl
  obtain ⟨hreadable, _⟩ := leadingWrites_agree_iff (hword .readWrite) hscalar rfl
  obtain ⟨hwriteOnly, hreceived⟩ := leadingWrites_agree_iff (hword .writeOnly) hscalar rfl
  refine ⟨(hreadable rfl [0x11]).1.mpr (.inl rfl), (hwriteOnly rfl [0x11, 0x55]).1.mpr ?_,
    ((hwriteOnly rfl [0x11]).2 ?_).1, ?_⟩
  · exact .inr (by decide)
  · decide
  · have hentry : resolveEntry (mappedWords.attributes 0 0) .receive ⟨0x2000, 0, 8⟩ 0 =
        .ok lowByteEntry := rfl
    exact ((hreceived rfl hentry rfl).2 (by decide)).1

/-- The low byte of a word that may be written: the resolver accepts the entry, the object that reads
the word first refuses the byte and keeps `0x3322`, the other one takes it. -/
theorem leading_byte_dropped :
    let delivered := fun way => (lowByteEntry.target.deliver (mappedWords.set 0x2000
      ((mappedWord .writeOnly).withLeadingWrite way)) [0x11]).layout? 0x2000
    (∃ s, (mappedWord .writeOnly).layout.sub? 0 = some s ∧ s.field.IsScalar ∧
        s.info.size = s.field.size ∧ s.info.access.isWritable = true) ∧
      resolveEntry (mappedWords.attributes 0 0) .receive ⟨0x2000, 0, 8⟩ 0 = .ok lowByteEntry ∧
      (mappedWord .writeOnly).afterLeading 0 [0x11] .wholeValue = .error .writeOnly ∧
      ((mappedWord .writeOnly).afterLeading 0 [0x11] .inPlace).map Layout.fields =
        .ok [.number .u16 [0x11, 0x33]] ∧
      (delivered .wholeValue).map Layout.fields = some [.number .u16 [0x22, 0x33]] ∧
      (delivered .inPlace).map Layout.fields = some [.number .u16 [0x11, 0x33]] :=
  ⟨⟨_, rfl, .number (NumberType.length_encode _ _), rfl, rfl⟩, rfl, rfl, rfl, rfl, rfl⟩

end Canopen
