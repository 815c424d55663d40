import Canopen.Proofs.ValidPdo

/-! # Identifier words

The identifier of a PDO stands in three places: in the word that is stored, in the word that its
communication object shows, and in the PDO itself.  The first is the second without the node
identifier, where the PDO has its pre-defined identifier; the third is the second, while the PDO is
valid.  Read as numbers, all of this is arithmetic on the bits below and above the identifier
(`PdoParams.toNat_stripNodeId`, `PdoParams.toNat_reportedCobId`,
`PdoParams.effectiveId_eq_some_iff`).

A word that is stored while the PDO is disabled is shown as it was written
(`PdoParams.reportedCobId_setCobId`).  The word that a valid PDO shows can be stored again, unless it
names what the pre-defined identifier has become under another node identifier
(`PdoParams.Shadowed`). -/

namespace Canopen

/-! ### Words as numbers -/

namespace CobIdWord

theorem toNat_and_of_mask (w : CobIdWord) {mask : CobIdWord} {m i : Nat} (h : mask.toNat = m <<< i) :
    (w &&& mask).toNat = ((w.toNat >>> i) &&& m) <<< i := by
  rw [UInt32.toNat_and, h]
  apply Nat.eq_of_testBit_eq
  intro j
  simp only [Nat.testBit_and, Nat.testBit_shiftLeft, Nat.testBit_shiftRight]
  by_cases hj : i ≤ j <;> simp [hj]

theorem isInvalid_eq_false_iff {w : CobIdWord} : w.isInvalid = false ↔ w.toNat < 0x80000000 := by
  have hlt := w.toNat_lt
  have hbits : (w &&& invalidBit).toNat = w.toNat / 0x80000000 % 2 * 0x80000000 := by
    rw [w.toNat_and_of_mask (m := 1) (i := 31) rfl, Nat.and_one_is_mod, Nat.shiftLeft_eq,
      Nat.shiftRight_eq_div_pow]
  unfold isInvalid
  rw [bne_eq_false_iff_eq, ← UInt32.toNat_inj, hbits]
  change _ = 0 ↔ _
  omega

theorem hasReservedBits_eq_false_iff {w : CobIdWord} :
    w.hasReservedBits = false ↔ w.toNat % 0x40000000 < 0x800 := by
  have hbits : (w &&& reservedMask).toNat = w.toNat / 0x800 % 0x80000 * 0x800 := by
    rw [w.toNat_and_of_mask (m := 0x7FFFF) (i := 11) rfl, Nat.shiftLeft_eq,
      Nat.shiftRight_eq_div_pow]
    exact congrArg (· * 0x800) (Nat.and_two_pow_sub_one_eq_mod _ 19)
  unfold hasReservedBits
  rw [bne_eq_false_iff_eq, ← UInt32.toNat_inj, hbits]
  change _ = 0 ↔ _
  omega

theorem toNat_flags (w : CobIdWord) :
    w.flags.toNat = 0x40000000 * (w.toNat / 0x40000000) := by
  have hlt := w.toNat_lt
  have hbits : w.flags.toNat = w.toNat / 0x40000000 % 4 * 0x40000000 := by
    unfold flags
    rw [w.toNat_and_of_mask (m := 3) (i := 30) rfl, Nat.shiftLeft_eq, Nat.shiftRight_eq_div_pow]
    exact congrArg (· * 0x40000000) (Nat.and_two_pow_sub_one_eq_mod _ 2)
  omega

theorem toNat_flags_or (w : CobIdWord) {id : CobIdWord} (h : id.toNat < 0x40000000) :
    (w.flags ||| id).toNat = 0x40000000 * (w.toNat / 0x40000000) + id.toNat := by
  rw [UInt32.toNat_or, toNat_flags]
  exact (Nat.two_pow_add_eq_or_of_lt (i := 30) h _).symm

theorem toNat_or_invalidBit (w : CobIdWord) :
    (w ||| invalidBit).toNat = 0x80000000 + w.toNat % 0x80000000 := by
  have hlt := w.toNat_lt
  have hdiv : (w ||| invalidBit).toNat / 0x80000000 = w.toNat / 0x80000000 ||| 1 := by
    rw [UInt32.toNat_or]
    exact Nat.or_div_two_pow (n := 31)
  have hmod : (w ||| invalidBit).toNat % 0x80000000 = w.toNat % 0x80000000 ||| 0 := by
    rw [UInt32.toNat_or]
    exact Nat.or_mod_two_pow (n := 31)
  have hbit : w.toNat / 0x80000000 = 0 ∨ w.toNat / 0x80000000 = 1 := by omega
  have hset : w.toNat / 0x80000000 ||| 1 = 1 := by
    rcases hbit with hbit | hbit
    · rw [hbit]
      rfl
    · rw [hbit]
      rfl
  rw [hset] at hdiv
  rw [Nat.or_zero] at hmod
  omega

theorem toNat_and_idFieldMask (w : CobIdWord) :
    (w &&& idFieldMask).toNat = w.toNat % 0x40000000 := by
  rw [UInt32.toNat_and]
  exact Nat.and_two_pow_sub_one_eq_mod w.toNat 30

theorem xor_and_idFieldMask_eq_zero_iff {w w' : CobIdWord} :
    (w ^^^ w') &&& idFieldMask = 0 ↔ w.toNat % 0x40000000 = w'.toNat % 0x40000000 := by
  rw [← toNat_and_idFieldMask, ← toNat_and_idFieldMask, UInt32.toNat_inj]
  constructor
  · exact and_eq_of_xor_and
  · intro h
    have hnumbers := congrArg UInt32.toNat h
    rw [UInt32.toNat_and, UInt32.toNat_and] at hnumbers
    apply UInt32.toNat_inj.mp
    rw [UInt32.toNat_and, UInt32.toNat_xor, Nat.and_xor_distrib_right, hnumbers, Nat.xor_self]
    rfl

theorem standardId_or_invalidBit (w : CobIdWord) : standardId (w ||| invalidBit) = w.standardId := by
  apply UInt16.toNat_inj.mp
  rw [toNat_standardId, toNat_standardId, toNat_or_invalidBit]
  omega

/-- A word that names an identifier of 11 bits, other than the pre-defined one without the node
identifier. -/
structure Plain (w : CobIdWord) (predefinedId : UInt16) (offset : UInt8) : Prop where
  plain : w.hasReservedBits = false
  named : w.standardId ≠ 0
  full : w.standardId ≠ predefinedId ∨ offset = 0

theorem Plain.toNat {w : CobIdWord} {predefinedId : UInt16} {offset : UInt8}
    (h : w.Plain predefinedId offset) : w.toNat % 0x40000000 < 0x800 ∧ w.toNat % 2048 ≠ 0 ∧
      (w.toNat % 2048 ≠ predefinedId.toNat ∨ offset.toNat = 0) := by
  refine ⟨hasReservedBits_eq_false_iff.mp h.plain, ?_, ?_⟩
  · rw [← toNat_standardId]
    exact fun h0 => h.named (UInt16.toNat_inj.mp h0)
  · rw [← toNat_standardId, ne_eq, UInt16.toNat_inj]
    exact h.full.imp_right (congrArg UInt8.toNat)

end CobIdWord

/-! ### Words that are stored and shown -/

namespace PdoParams

variable {p : PdoParams} {w : CobIdWord} {dataLen : Nat} {id : UInt16}

theorem predefinedId_ne_zero_iff : p.predefinedId ≠ 0 ↔ p.predefinedId.toNat ≠ 0 := by
  rw [ne_eq, ← UInt16.toNat_inj]
  rfl

theorem toNat_stripNodeId (hp : p.predefinedId.toNat + p.nodeOffset.toNat < 2048) (w : CobIdWord) :
    (p.stripNodeId w).toNat =
      if p.predefinedId.toNat ≠ 0 ∧
          w.toNat % 65536 = p.predefinedId.toNat + p.nodeOffset.toNat then
        0x40000000 * (w.toNat / 0x40000000) + p.predefinedId.toNat
      else w.toNat := by
  have hid : p.predefinedId.toUInt32.toNat < 0x40000000 := by
    rw [UInt16.toNat_toUInt32]
    omega
  have hiff : (p.predefinedId ≠ 0 ∧ w.lowWord = p.predefinedId + p.nodeOffset.toUInt16) ↔
      p.predefinedId.toNat ≠ 0 ∧
        w.toNat % 65536 = p.predefinedId.toNat + p.nodeOffset.toNat := by
    rw [predefinedId_ne_zero_iff, ← UInt16.toNat_inj, toNat_predefined_add hp,
      CobIdWord.toNat_lowWord]
  unfold stripNodeId
  split
  · rename_i h
    rw [if_pos (hiff.mp h)]
    exact CobIdWord.toNat_flags_or w hid
  · rename_i h
    rw [if_neg fun h' => h (hiff.mpr h')]

theorem toNat_reportedCobId (hp : p.predefinedId.toNat + p.nodeOffset.toNat < 2048) :
    (p.reportedCobId true).toNat =
      if p.predefinedId.toNat ≠ 0 ∧ p.cobId.toNat % 65536 = p.predefinedId.toNat then
        p.cobId.toNat + p.nodeOffset.toNat
      else p.cobId.toNat := by
  have hiff : (p.predefinedId ≠ 0 ∧ p.cobId.lowWord = p.predefinedId) ↔
      p.predefinedId.toNat ≠ 0 ∧ p.cobId.toNat % 65536 = p.predefinedId.toNat := by
    rw [predefinedId_ne_zero_iff, ← UInt16.toNat_inj, CobIdWord.toNat_lowWord]
  have hlt := p.cobId.toNat_lt
  show (if p.predefinedId ≠ 0 ∧ p.cobId.lowWord = p.predefinedId then
    p.cobId + p.nodeOffset.toUInt32 else p.cobId).toNat = _
  split
  · rename_i h
    have h' := hiff.mp h
    rw [if_pos h', UInt32.toNat_add, UInt8.toNat_toUInt32]
    omega
  · rename_i h
    rw [if_neg fun h' => h (hiff.mpr h')]

theorem effectiveId_eq_some_iff (hp : p.predefinedId.toNat + p.nodeOffset.toNat < 2048) :
    p.effectiveId w dataLen = some id ↔ w.toNat < 0x80000000 ∧ w.toNat % 0x40000000 < 0x800 ∧
      dataLen ≠ 0 ∧ w.toNat % 2048 ≠ 0 ∧ isRestrictedId id = false ∧
      id.toNat = if w.toNat % 2048 = p.predefinedId.toNat then
        p.predefinedId.toNat + p.nodeOffset.toNat else w.toNat % 2048 := by
  have hnamed : w.standardId = 0 ↔ w.toNat % 2048 = 0 := by
    rw [← UInt16.toNat_inj, CobIdWord.toNat_standardId]
    rfl
  have hpredefined : w.standardId = p.predefinedId ↔ w.toNat % 2048 = p.predefinedId.toNat := by
    rw [← UInt16.toNat_inj, CobIdWord.toNat_standardId]
  have heffective : (if w.standardId = p.predefinedId then
      w.standardId + p.nodeOffset.toUInt16 else w.standardId).toNat =
        if w.toNat % 2048 = p.predefinedId.toNat then
          p.predefinedId.toNat + p.nodeOffset.toNat else w.toNat % 2048 := by
    by_cases h : w.standardId = p.predefinedId
    · rw [if_pos h, if_pos (hpredefined.mp h), h, toNat_predefined_add hp]
    · rw [if_neg h, if_neg fun h' => h (hpredefined.mpr h'), CobIdWord.toNat_standardId]
  rw [← heffective, UInt16.toNat_inj, ← CobIdWord.isInvalid_eq_false_iff,
    ← CobIdWord.hasReservedBits_eq_false_iff, ne_eq, ne_eq, ← hnamed]
  unfold effectiveId
  dsimp only
  cases w.isInvalid <;> cases w.hasReservedBits <;> by_cases hlen : dataLen = 0 <;>
    by_cases hid : w.standardId = 0 <;> simp [hlen, hid]
  constructor
  · rintro ⟨hfree, rfl⟩
    exact ⟨hfree, rfl⟩
  · rintro ⟨hfree, rfl⟩
    exact ⟨hfree, rfl⟩

theorem checkCobIdWrite_eq (p : PdoParams) (h : w.hasReservedBits = false) (valid : Bool) :
    p.checkCobIdWrite w valid =
      if valid = true ∧ (p.stripNodeId w).toNat % 0x40000000 ≠ p.cobId.toNat % 0x40000000 then
        .error .invalidValue
      else .ok (p.stripNodeId w) := by
  have hiff : (valid && (p.stripNodeId w ^^^ p.cobId) &&& .idFieldMask != 0) = true ↔
      valid = true ∧ (p.stripNodeId w).toNat % 0x40000000 ≠ p.cobId.toNat % 0x40000000 := by
    rw [Bool.and_eq_true, bne_iff_ne, ne_eq, ne_eq, CobIdWord.xor_and_idFieldMask_eq_zero_iff]
  unfold checkCobIdWrite
  rw [h]
  show (if (valid && (p.stripNodeId w ^^^ p.cobId) &&& .idFieldMask != 0) = true then _ else _) = _
  split
  · rename_i hlocked
    rw [if_pos (hiff.mp hlocked)]
  · rename_i hfree
    rw [if_neg fun h' => hfree (hiff.mpr h')]

/-- A word that is stored already can be stored again. -/
theorem setCobId_stripNodeId (p : PdoParams) (w : CobIdWord) :
    p.setCobId (p.stripNodeId w) = p.setCobId w := by
  unfold setCobId
  rw [stripNodeId_stripNodeId]

theorem reportedCobId_eq (p : PdoParams) (valid : Bool) : p.reportedCobId valid =
    if valid = true then p.reportedCobId true else p.reportedCobId true ||| .invalidBit := by
  cases valid <;> rfl

/-! ### The word of a valid PDO -/

/-- The stored word names the identifier that the pre-defined one has become with the identifier of
the node.  A word that is written to name it is stored without the node identifier, so the stored word
was written under another one. -/
def Shadowed (p : PdoParams) : Prop :=
  p.predefinedId ≠ 0 ∧ p.nodeOffset ≠ 0 ∧
    p.cobId.lowWord = p.predefinedId + p.nodeOffset.toUInt16

theorem shadowed_iff (hp : p.predefinedId.toNat + p.nodeOffset.toNat < 2048) :
    p.Shadowed ↔ p.predefinedId.toNat ≠ 0 ∧ p.nodeOffset.toNat ≠ 0 ∧
      p.cobId.toNat % 65536 = p.predefinedId.toNat + p.nodeOffset.toNat := by
  have hoffset : p.nodeOffset ≠ 0 ↔ p.nodeOffset.toNat ≠ 0 := by
    rw [ne_eq, ← UInt8.toNat_inj]
    rfl
  unfold Shadowed
  rw [predefinedId_ne_zero_iff, hoffset, ← UInt16.toNat_inj, toNat_predefined_add hp,
    CobIdWord.toNat_lowWord]

/-- A word that is stored without the node identifier, as far as it has one, shadows nothing. -/
theorem not_shadowed_of_stripped (hp : p.predefinedId.toNat + p.nodeOffset.toNat < 2048)
    (h : p.stripNodeId p.cobId = p.cobId) : ¬ p.Shadowed := by
  rw [shadowed_iff hp]
  rintro ⟨hpredefined, hoffset, hlow⟩
  have hstrip := toNat_stripNodeId hp p.cobId
  rw [h, if_pos ⟨hpredefined, hlow⟩] at hstrip
  omega

theorem reportedCobId_of_effectiveId (hp : p.predefinedId.toNat + p.nodeOffset.toNat < 2048)
    (h : p.effectiveId p.cobId dataLen = some id) :
    (p.reportedCobId true).standardId = id ∧ (p.reportedCobId true).isInvalid = false ∧
      (p.reportedCobId true).hasReservedBits = false := by
  obtain ⟨henabled, hplain, _, hnamed, _, hid⟩ := (effectiveId_eq_some_iff hp).mp h
  have hreported := toNat_reportedCobId hp
  rw [← UInt16.toNat_inj, CobIdWord.toNat_standardId, CobIdWord.isInvalid_eq_false_iff,
    CobIdWord.hasReservedBits_eq_false_iff]
  split at hreported <;> split at hid <;> omega

/-- The word that a valid PDO shows is stored as it was, if it is accepted. -/
theorem toNat_stripNodeId_reportedCobId (hp : p.predefinedId.toNat + p.nodeOffset.toNat < 2048)
    (h : p.effectiveId p.cobId dataLen = some id) :
    (p.stripNodeId (p.reportedCobId true)).toNat % 0x40000000 = p.cobId.toNat % 0x40000000 ↔
      ¬ p.Shadowed := by
  obtain ⟨henabled, hplain, _, hnamed, _, hid⟩ := (effectiveId_eq_some_iff hp).mp h
  have hreported := toNat_reportedCobId hp
  have hstrip := toNat_stripNodeId hp (p.reportedCobId true)
  rw [shadowed_iff hp]
  split at hreported <;> split at hstrip <;> omega

theorem toNat_stripNodeId_or_invalidBit (hp : p.predefinedId.toNat + p.nodeOffset.toNat < 2048)
    (w : CobIdWord) : (p.stripNodeId (w ||| .invalidBit)).toNat % 0x40000000 =
      (p.stripNodeId w).toNat % 0x40000000 := by
  have hor := w.toNat_or_invalidBit
  have hstrip := toNat_stripNodeId hp w
  have hstrip' := toNat_stripNodeId hp (w ||| .invalidBit)
  split at hstrip <;> split at hstrip' <;> omega

/-! ### The word of a disabled PDO -/

section disabled
variable (hp : p.predefinedId.toNat + p.nodeOffset.toNat < 2048)
  (hw : w.Plain p.predefinedId p.nodeOffset)
include hp hw

/-- A word that is stored while the PDO is disabled is shown as it was written. -/
theorem reportedCobId_setCobId : (p.setCobId w).reportedCobId true = w := by
  have hreported := toNat_reportedCobId (p := p.setCobId w) hp
  have hstrip := toNat_stripNodeId hp w
  obtain ⟨hplain, _, hfull⟩ := hw.toNat
  change _ = if p.predefinedId.toNat ≠ 0 ∧
      (p.stripNodeId w).toNat % 65536 = p.predefinedId.toNat then
    (p.stripNodeId w).toNat + p.nodeOffset.toNat else (p.stripNodeId w).toNat at hreported
  apply UInt32.toNat_inj.mp
  split at hreported <;> split at hstrip <;> omega

theorem eq_standardId_of_effectiveId (h : p.effectiveId (p.stripNodeId w) dataLen = some id) :
    id = w.standardId := by
  obtain ⟨_, _, _, _, _, hid⟩ := (effectiveId_eq_some_iff hp).mp h
  have hstrip := toNat_stripNodeId hp w
  obtain ⟨hplain, _, hfull⟩ := hw.toNat
  rw [← UInt16.toNat_inj, CobIdWord.toNat_standardId]
  split at hid <;> split at hstrip <;> omega

theorem stripNodeId_ne_invalidBit : p.stripNodeId w ≠ .invalidBit := by
  intro h
  have hstrip := toNat_stripNodeId hp w
  have hbit : CobIdWord.invalidBit.toNat = 0x80000000 := rfl
  obtain ⟨_, hnamed, _⟩ := hw.toNat
  rw [h, hbit] at hstrip
  split at hstrip <;> omega

/-- A word follows the identifier of the node if it named the pre-defined identifier plus the node
identifier when it was written, and names what it did otherwise. -/
theorem standardId_reportedCobId {q : PdoParams}
    (hq : q.predefinedId.toNat + q.nodeOffset.toNat < 2048)
    (hpredefined : q.predefinedId = p.predefinedId) (hstored : q.cobId = p.stripNodeId w)
    (valid : Bool) :
    (q.reportedCobId valid).standardId =
      if p.predefinedId ≠ 0 ∧ w.standardId = p.predefinedId + p.nodeOffset.toUInt16 then
        p.predefinedId + q.nodeOffset.toUInt16
      else w.standardId := by
  have hreported : (q.reportedCobId valid).standardId = (q.reportedCobId true).standardId := by
    cases valid with
    | true => rfl
    | false => exact CobIdWord.standardId_or_invalidBit _
  have hfollows : (p.predefinedId ≠ 0 ∧ w.standardId = p.predefinedId + p.nodeOffset.toUInt16) ↔
      p.predefinedId.toNat ≠ 0 ∧
        w.toNat % 2048 = p.predefinedId.toNat + p.nodeOffset.toNat := by
    rw [predefinedId_ne_zero_iff, ← UInt16.toNat_inj, CobIdWord.toNat_standardId,
      toNat_predefined_add hp]
  have hsum := toNat_predefined_add hq
  have hnumber := toNat_reportedCobId hq
  have hstrip := toNat_stripNodeId hp w
  obtain ⟨hplain, _, hfull⟩ := hw.toNat
  rw [hpredefined] at hq hsum hnumber
  rw [hstored] at hnumber
  rw [hreported, ← UInt16.toNat_inj, CobIdWord.toNat_standardId, hnumber]
  by_cases h : p.predefinedId ≠ 0 ∧ w.standardId = p.predefinedId + p.nodeOffset.toUInt16
  · have hnamed := hfollows.mp h
    rw [if_pos h, hsum]
    split at hstrip <;> split <;> omega
  · rw [if_neg h, CobIdWord.toNat_standardId]
    have hnot := mt hfollows.mpr h
    split at hstrip <;> split <;> omega

end disabled

/-! ### Parameters that agree on the identifier -/

/-- Two PDOs have the same identifier word, and add the same to it. -/
structure SameWord (p q : PdoParams) : Prop where
  predefinedId : q.predefinedId = p.predefinedId
  nodeOffset : q.nodeOffset = p.nodeOffset
  cobId : q.cobId = p.cobId

theorem SameWord.refl (p : PdoParams) : p.SameWord p := ⟨rfl, rfl, rfl⟩

theorem stripNodeId_congr {p q : PdoParams} (hpredefined : q.predefinedId = p.predefinedId)
    (hoffset : q.nodeOffset = p.nodeOffset) (w : CobIdWord) : q.stripNodeId w = p.stripNodeId w := by
  unfold stripNodeId
  rw [hpredefined, hoffset]

/-- A PDO that was configured keeps its word when the node gets another identifier. -/
theorem cobId_assignIdentity {p : PdoParams} (h : p.cobId ≠ .invalidBit) (predefinedId : UInt16)
    (offset : UInt8) : (p.assignIdentity predefinedId offset).cobId = p.cobId := by
  unfold assignIdentity
  dsimp only
  rw [if_neg h]

/-- A node identifier that does not change leaves stored words without it. -/
theorem stripNodeId_cobId_assignIdentity {p : PdoParams} {predefinedId : UInt16} {offset : UInt8}
    (hpredefined : p.predefinedId = predefinedId) (hoffset : p.nodeOffset = offset)
    (h : p.stripNodeId p.cobId = p.cobId) :
    (p.assignIdentity predefinedId offset).stripNodeId (p.assignIdentity predefinedId offset).cobId =
      (p.assignIdentity predefinedId offset).cobId := by
  subst hpredefined hoffset
  unfold assignIdentity
  dsimp only
  split
  · exact stripNodeId_stripNodeId _ _
  · exact h

end PdoParams

end Canopen
