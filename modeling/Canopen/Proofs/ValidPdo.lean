import Canopen.Proofs.PdoState
import Canopen.Proofs.Configuration

/-! # Valid PDOs

While a PDO is valid, its identifier, its mapping and what they were configured from cannot be
changed (`Rpdo.SameLocked`, `Tpdo.SameLocked`).  Most of the parameters cannot be written then.  The
identifier word can, but only to the same identifier: bits 0 to 29 of the word that is stored are to
be those that are stored already, so that the PDO is configured as it was, unless bit 31 disables it
(`effectiveId_of_checkCobIdWrite`).  Such a write is the only thing apart from a reset that makes a
valid PDO invalid (`valid_pdo_kept`). -/

namespace Canopen

/-! ### Identifier words -/

namespace CobIdWord

theorem and_eq_of_field {w w' mask : CobIdWord} (h : w &&& idFieldMask = w' &&& idFieldMask)
    (hmask : idFieldMask &&& mask = mask) : w &&& mask = w' &&& mask := by
  rw [← hmask, ← UInt32.and_assoc, h, UInt32.and_assoc]

theorem and_eq_of_xor_and {w w' mask : CobIdWord} (h : (w ^^^ w') &&& mask = 0) :
    w &&& mask = w' &&& mask := by
  have hdistrib : (w ^^^ w') &&& mask = (w &&& mask) ^^^ (w' &&& mask) := by
    apply UInt32.toNat_inj.mp
    simp only [UInt32.toNat_and, UInt32.toNat_xor, Nat.and_xor_distrib_right]
  rw [hdistrib] at h
  exact UInt32.xor_eq_zero_iff.mp h

theorem toUInt32_and_invalidBit (id : UInt16) : id.toUInt32 &&& invalidBit = 0 := by
  have hlow : id.toUInt32 &&& 0xFFFF = id.toUInt32 := by
    apply UInt32.toNat_inj.mp
    rw [UInt32.toNat_and, UInt16.toNat_toUInt32]
    exact Nat.and_two_pow_sub_one_of_lt_two_pow (n := 16) id.toNat_lt
  have hmask : (0xFFFF : UInt32) &&& invalidBit = 0 := by decide
  rw [← hlow, UInt32.and_assoc, hmask, UInt32.and_zero]

end CobIdWord

namespace PdoParams

theorem isInvalid_stripNodeId (p : PdoParams) (w : CobIdWord) :
    (p.stripNodeId w).isInvalid = w.isInvalid := by
  unfold stripNodeId
  split
  · have hflag : (CobIdWord.invalidBit ||| CobIdWord.bit30) &&& CobIdWord.invalidBit =
        CobIdWord.invalidBit := by decide
    show CobIdWord.isInvalid (w.flags ||| p.predefinedId.toUInt32) = _
    unfold CobIdWord.isInvalid
    rw [CobIdWord.flags_or_and, hflag, CobIdWord.toUInt32_and_invalidBit, UInt32.or_zero]
  · rfl

/-- The identifier word of a valid PDO keeps its bits 0 to 29. -/
theorem of_checkCobIdWrite {p : PdoParams} {w stored : CobIdWord}
    (h : p.checkCobIdWrite w true = .ok stored) : stored.isInvalid = w.isInvalid ∧
      stored &&& CobIdWord.idFieldMask = p.cobId &&& CobIdWord.idFieldMask := by
  unfold checkCobIdWrite at h
  dsimp only at h
  split at h
  · cases h
  · split at h
    · cases h
    · rename_i hsame
      obtain rfl := Except.ok.inj h
      refine ⟨p.isInvalid_stripNodeId w, CobIdWord.and_eq_of_xor_and ?_⟩
      simpa using hsame

/-- What a valid PDO is configured to by the word that is written: it is disabled, or stays as it
is. -/
theorem effectiveId_of_checkCobIdWrite {p : PdoParams} {w stored : CobIdWord} {dataLen : Nat}
    {id : UInt16} (h : p.checkCobIdWrite w true = .ok stored)
    (hid : p.effectiveId p.cobId dataLen = some id) :
    p.effectiveId stored dataLen = if w.isInvalid then none else some id := by
  obtain ⟨hinvalid, hfield⟩ := of_checkCobIdWrite h
  have henabled : p.cobId.isInvalid = false :=
    ((p.isSome_effectiveId_iff p.cobId dataLen).mp (Option.isSome_of_eq_some hid)).1
  have hreserved : stored.hasReservedBits = p.cobId.hasReservedBits := by
    unfold CobIdWord.hasReservedBits
    rw [CobIdWord.and_eq_of_field hfield (by decide)]
  have hstandard : stored.standardId = p.cobId.standardId := by
    unfold CobIdWord.standardId
    rw [CobIdWord.and_eq_of_field hfield (by decide)]
  rw [← hid]
  unfold effectiveId
  rw [hinvalid, henabled, hreserved, hstandard]
  cases w.isInvalid with
  | true => rfl
  | false => rfl

theorem kept_or_disabled_of_checkCobIdWrite {p : PdoParams} {w stored : CobIdWord} {dataLen : Nat}
    {id : UInt16} (h : p.checkCobIdWrite w true = .ok stored)
    (hid : p.effectiveId p.cobId dataLen = some id) :
    (p.effectiveId stored dataLen = some id ∧
        (p.setCobId stored).cobId &&& CobIdWord.idFieldMask = p.cobId &&& CobIdWord.idFieldMask) ∨
      (p.effectiveId stored dataLen = none ∧ w.isInvalid = true) := by
  have hstored := effectiveId_of_checkCobIdWrite h hid
  cases hinvalid : w.isInvalid with
  | true =>
      rw [hinvalid] at hstored
      exact .inr ⟨hstored, rfl⟩
  | false =>
      rw [hinvalid] at hstored
      refine .inl ⟨hstored, ?_⟩
      show p.stripNodeId stored &&& CobIdWord.idFieldMask = _
      rw [stripNodeId_of_checkCobIdWrite h]
      exact (of_checkCobIdWrite h).2

end PdoParams

/-- What cannot be changed of a receive PDO while it is valid. -/
structure Rpdo.SameLocked (r r' : Rpdo) : Prop where
  cobId : r'.cobId = r.cobId
  /-- The identifier as it is stored. -/
  field : r'.params.cobId &&& CobIdWord.idFieldMask = r.params.cobId &&& CobIdWord.idFieldMask
  mapping : r'.mapping = r.mapping
  mappings : r'.params.mappings = r.params.mappings
  mappingCount : r'.params.mappingCount = r.params.mappingCount

/-- What cannot be changed of a transmit PDO while it is valid. -/
structure Tpdo.SameLocked (t t' : Tpdo) : Prop where
  id : t'.frame.id = t.frame.id
  /-- The identifier as it is stored. -/
  field : t'.params.cobId &&& CobIdWord.idFieldMask = t.params.cobId &&& CobIdWord.idFieldMask
  mapping : t'.mapping = t.mapping
  mappings : t'.params.mappings = t.params.mappings
  mappingCount : t'.params.mappingCount = t.params.mappingCount
  inhibitTime : t'.inhibitTime = t.inhibitTime
  syncStart : t'.syncStart = t.syncStart

/-- The event is an accepted write of an identifier word with the bit that disables the PDO. -/
def Event.Disables {σ : Type} (n : Node) (p : Parameter) (e : Event σ) : Prop :=
  ∃ data w, e.Writes n p 1 data ∧ wordOfData data = .ok w ∧ CobIdWord.isInvalid w = true

/-! ### Receive PDOs -/

namespace Rpdo

theorem SameLocked.refl (r : Rpdo) : r.SameLocked r := ⟨rfl, rfl, rfl, rfl, rfl⟩

theorem SameLocked.trans {r₁ r₂ r₃ : Rpdo} (h : r₁.SameLocked r₂) (h' : r₂.SameLocked r₃) :
    r₁.SameLocked r₃ where
  cobId := h'.cobId.trans h.cobId
  field := h'.field.trans h.field
  mapping := h'.mapping.trans h.mapping
  mappings := h'.mappings.trans h.mappings
  mappingCount := h'.mappingCount.trans h.mappingCount

theorem applyCobId_of_valid {r : Rpdo} (hr : r.Consistent) (hv : r.valid = true)
    {w stored : CobIdWord} (h : r.params.checkCobIdWrite w r.valid = .ok stored) :
    ((r.applyCobId stored).valid = true ∧ r.SameLocked (r.applyCobId stored)) ∨
      ((r.applyCobId stored).valid = false ∧ w.isInvalid = true) := by
  rw [hv] at h
  obtain ⟨_, id, hid, _, hcobId⟩ := hr.identified hv
  have hvalid : (r.applyCobId stored).valid =
      (r.params.effectiveId stored r.mapping.dataLen).isSome := rfl
  have hcobId' : (r.applyCobId stored).cobId =
      (r.params.effectiveId stored r.mapping.dataLen).map CanId.std := rfl
  rcases PdoParams.kept_or_disabled_of_checkCobIdWrite h hid with
    ⟨hstored, hfield⟩ | ⟨hstored, hinvalid⟩
  · rw [hstored] at hvalid hcobId'
    exact .inl ⟨hvalid, hcobId'.trans hcobId.symm, hfield, rfl, rfl, rfl⟩
  · rw [hstored] at hvalid
    exact .inr ⟨hvalid, hinvalid⟩

/-- An event that is no reset keeps a valid PDO, or disables it. -/
theorem Stepped.locked {σ : Type} {n : Node} {k : Nat} {e : Event σ} {r r' : Rpdo}
    (h : r.Stepped n k e r') (he : ¬ e.IsReset) (hr : r.Consistent) (hv : r.valid = true) :
    (r'.valid = true ∧ r.SameLocked r') ∨ (r'.valid = false ∧ e.Disables n (.rpdoComm k)) := by
  cases h with
  | same => exact .inl ⟨hv, .refl r⟩
  | taken syncOccurred toggle =>
      obtain ⟨s, hs⟩ := r.exists_slots_of_take syncOccurred toggle n.device.nmt
      rw [hs]
      exact .inl ⟨hv, rfl, rfl, rfl, rfl, rfl⟩
  | staged f _ _ _ => exact .inl ⟨hv, rfl, rfl, rfl, rfl, rfl⟩
  | @comm sub data _ hwrites hw =>
      rcases writeComm_ok hw with ⟨rfl, w, stored, hdata, hstored, rfl⟩ | ⟨_, t, _, rfl⟩
      · rcases applyCobId_of_valid hr hv hstored with hkept | ⟨hvalid, hinvalid⟩
        · exact .inl hkept
        · exact .inr ⟨hvalid, data, w, hwrites, hdata, hinvalid⟩
      · exact .inl ⟨hv, rfl, rfl, rfl, rfl, rfl⟩
  | map hw =>
      rw [valid_of_checkMappingWrite hw] at hv
      cases hv
  | reset params attributes hreset => exact absurd hreset he

end Rpdo

/-! ### Transmit PDOs -/

namespace Tpdo

theorem SameLocked.refl (t : Tpdo) : t.SameLocked t := ⟨rfl, rfl, rfl, rfl, rfl, rfl, rfl⟩

theorem SameLocked.trans {t₁ t₂ t₃ : Tpdo} (h : t₁.SameLocked t₂) (h' : t₂.SameLocked t₃) :
    t₁.SameLocked t₃ where
  id := h'.id.trans h.id
  field := h'.field.trans h.field
  mapping := h'.mapping.trans h.mapping
  mappings := h'.mappings.trans h.mappings
  mappingCount := h'.mappingCount.trans h.mappingCount
  inhibitTime := h'.inhibitTime.trans h.inhibitTime
  syncStart := h'.syncStart.trans h.syncStart

theorem SameSetup.sameLocked {t t' : Tpdo} (h : t.SameSetup t') : t.SameLocked t' where
  id := h.id
  field := by rw [h.params]
  mapping := h.mapping
  mappings := by rw [h.params]
  mappingCount := by rw [h.params]
  inhibitTime := h.inhibitTime
  syncStart := h.syncStart

theorem applyCobId_of_valid {t : Tpdo} (ht : t.Consistent) (hv : t.valid = true)
    {w stored : CobIdWord} (h : t.params.checkCobIdWrite w t.valid = .ok stored) :
    ((t.applyCobId stored).valid = true ∧ t.SameLocked (t.applyCobId stored)) ∨
      ((t.applyCobId stored).valid = false ∧ w.isInvalid = true) := by
  rw [hv] at h
  obtain ⟨_, id, hid, _, hframe⟩ := ht.identified hv
  have hvalid : (t.applyCobId stored).valid =
      (t.params.effectiveId stored t.mapping.dataLen).isSome := rfl
  have hframe' : (t.applyCobId stored).frame.id =
      .std ((t.params.effectiveId stored t.mapping.dataLen).getD 0) := rfl
  rcases PdoParams.kept_or_disabled_of_checkCobIdWrite h hid with
    ⟨hstored, hfield⟩ | ⟨hstored, hinvalid⟩
  · rw [hstored] at hvalid hframe'
    exact .inl ⟨hvalid, hframe'.trans hframe.symm, hfield, rfl, rfl, rfl, rfl, rfl⟩
  · rw [hstored] at hvalid
    exact .inr ⟨hvalid, hinvalid⟩

/-- An event that is no reset keeps a valid PDO, or disables it. -/
theorem Stepped.locked {σ : Type} [Transport σ] {n : Node} {k : Nat} {e : Event σ} {t t' : Tpdo}
    (h : t.Stepped n k e t') (he : ¬ e.IsReset) (ht : t.Consistent) (hv : t.valid = true) :
    (t'.valid = true ∧ t.SameLocked t') ∨ (t'.valid = false ∧ e.Disables n (.tpdoComm k)) := by
  cases h with
  | same => exact .inl ⟨hv, .refl t⟩
  | requested _ => exact .inl ⟨hv, t.sameSetup_requestSend.sameLocked⟩
  | processed now link link' _ =>
      have hsame := t.sameSetup_tick (n.tick now link).2.1.device.dictionary
        (n.device.syncTick (Micros.elapsed n.lastTick now)).next
        (n.device.syncOccurs (Micros.elapsed n.lastTick now)) (Micros.elapsed n.lastTick now)
        n.device.nmt link'
      exact .inl ⟨hsame.valid.trans hv, hsame.sameLocked⟩
  | @comm sub data _ hwrites hw =>
      rcases writeComm_ok hw with ⟨rfl, w, stored, hdata, hstored, rfl⟩ | ⟨type, _, rfl⟩ |
        ⟨hinvalid, _⟩ | ⟨time, rfl⟩ | ⟨hinvalid, _⟩
      · rcases applyCobId_of_valid ht hv hstored with hkept | ⟨hvalid, hinvalid⟩
        · exact .inl hkept
        · exact .inr ⟨hvalid, data, w, hwrites, hdata, hinvalid⟩
      · exact .inl ⟨hv, rfl, rfl, rfl, rfl, rfl, rfl, rfl⟩
      · rw [hinvalid] at hv
        cases hv
      · exact .inl ⟨hv, rfl, rfl, rfl, rfl, rfl, rfl, rfl⟩
      · rw [hinvalid] at hv
        cases hv
  | map hw =>
      rw [valid_of_checkMappingWrite hw] at hv
      cases hv
  | reset params inhibitTime eventTime syncStart attributes hreset => exact absurd hreset he

end Tpdo

/-! ### Runs without resets -/

namespace Node

def RpdoValid (n : Node) (k : Nat) : Prop := ∃ r, n.device.rpdos[k]? = some r ∧ r.valid = true

def TpdoValid (n : Node) (k : Nat) : Prop := ∃ t, n.device.tpdos[k]? = some t ∧ t.valid = true

variable {σ : Type} [Transport σ] {n : Node} {k : Nat} {e : Event σ} {es : List (Event σ)}

theorem rpdo_locked_step (h : n.device.Consistent) (he : ¬ e.IsReset) {r : Rpdo}
    (hr : n.device.rpdos[k]? = some r) (hv : r.valid = true) :
    ∃ r', (n.step e).device.rpdos[k]? = some r' ∧ ((r'.valid = true ∧ r.SameLocked r') ∨
      (r'.valid = false ∧ e.Disables n (.rpdoComm k))) := by
  obtain ⟨r', hr', hstep⟩ := exists_rpdo_step hr e
  exact ⟨r', hr', hstep.locked he (h.rpdos r (List.mem_of_getElem? hr)) hv⟩

theorem tpdo_locked_step (h : n.device.Consistent) (he : ¬ e.IsReset) {t : Tpdo}
    (ht : n.device.tpdos[k]? = some t) (hv : t.valid = true) :
    ∃ t', (n.step e).device.tpdos[k]? = some t' ∧ ((t'.valid = true ∧ t.SameLocked t') ∨
      (t'.valid = false ∧ e.Disables n (.tpdoComm k))) := by
  obtain ⟨t', ht', hstep⟩ := exists_tpdo_step ht e
  exact ⟨t', ht', hstep.locked he (h.tpdos t (List.mem_of_getElem? ht)) hv⟩

/-- What no event changes of a PDO that it leaves valid is unchanged after a run throughout which the
PDO is valid.  The PDO is the one that `pdo` finds in a node. -/
theorem locked_run {α : Type} (pdo : Node → Option α) {valid : α → Bool} {Same : α → α → Prop}
    (hrefl : ∀ a, Same a a) (htrans : ∀ {a b c}, Same a b → Same b c → Same a c)
    (hstep : ∀ {m : Node} {e : Event σ} {a : α}, m.device.Consistent → ¬ e.IsReset →
      pdo m = some a → valid a = true →
      ∃ a', pdo (m.step e) = some a' ∧ (valid a' = true → Same a a'))
    (h : n.device.Consistent) (hes : n.Along (fun _ e => ¬ e.IsReset) es) {a : α}
    (ha : pdo n = some a)
    (hvalid : ∀ past, past <+: es → ∃ a', pdo (n.run past) = some a' ∧ valid a' = true) :
    ∃ a', pdo (n.run es) = some a' ∧ Same a a' := by
  let Valid (m : Node) : Prop := ∃ a', pdo m = some a' ∧ valid a' = true
  have halong : n.Along (fun m e => ¬ e.IsReset ∧ Valid m ∧ Valid (m.step e)) es := by
    refine (along_iff n es).mpr fun past e hpast => ⟨(along_iff n es).mp hes past e hpast, ?_, ?_⟩
    · exact hvalid past ((List.prefix_append past [e]).trans hpast)
    · rw [← run_concat]
      exact hvalid _ hpast
  have hkept : ∀ (m : Node) (e : Event σ), (¬ e.IsReset ∧ Valid m ∧ Valid (m.step e)) →
      (m.device.Consistent ∧ ∃ a', pdo m = some a' ∧ Same a a') →
      (m.step e).device.Consistent ∧ ∃ a', pdo (m.step e) = some a' ∧ Same a a' := by
    rintro m e ⟨he, ⟨a₁, ha₁, hv₁⟩, ⟨a₂, ha₂, hv₂⟩⟩ ⟨hm, a', ha', hsame⟩
    obtain rfl := Option.some.inj (ha₁.symm.trans ha')
    obtain ⟨a₃, ha₃, hsame'⟩ := hstep hm he ha₁ hv₁
    obtain rfl := Option.some.inj (ha₂.symm.trans ha₃)
    exact ⟨consistent_step m e hm, _, ha₂, htrans hsame (hsame' hv₂)⟩
  exact (along_invariant hkept halong ⟨h, a, ha, hrefl a⟩).2

theorem rpdo_locked_run (h : n.device.Consistent) (hes : n.Along (fun _ e => ¬ e.IsReset) es)
    {r : Rpdo} (hr : n.device.rpdos[k]? = some r)
    (hvalid : ∀ past, past <+: es → (n.run past).RpdoValid k) :
    ∃ r', (n.run es).device.rpdos[k]? = some r' ∧ r.SameLocked r' := by
  refine locked_run (fun n => n.device.rpdos[k]?) Rpdo.SameLocked.refl Rpdo.SameLocked.trans
    (fun hm he hr hv => ?_) h hes hr hvalid
  obtain ⟨r', hr', ⟨_, hsame⟩ | ⟨hinvalid, _⟩⟩ := rpdo_locked_step hm he hr hv
  · exact ⟨r', hr', fun _ => hsame⟩
  · exact ⟨r', hr', fun hv' => absurd (hinvalid.symm.trans hv') nofun⟩

theorem tpdo_locked_run (h : n.device.Consistent) (hes : n.Along (fun _ e => ¬ e.IsReset) es)
    {t : Tpdo} (ht : n.device.tpdos[k]? = some t)
    (hvalid : ∀ past, past <+: es → (n.run past).TpdoValid k) :
    ∃ t', (n.run es).device.tpdos[k]? = some t' ∧ t.SameLocked t' := by
  refine locked_run (fun n => n.device.tpdos[k]?) Tpdo.SameLocked.refl Tpdo.SameLocked.trans
    (fun hm he ht hv => ?_) h hes ht hvalid
  obtain ⟨t', ht', ⟨_, hsame⟩ | ⟨hinvalid, _⟩⟩ := tpdo_locked_step hm he ht hv
  · exact ⟨t', ht', fun _ => hsame⟩
  · exact ⟨t', ht', fun hv' => absurd (hinvalid.symm.trans hv') nofun⟩

/-- **A valid PDO keeps its identifier, its mapping and what they were configured from**, and it is
made invalid by nothing but an accepted write of an identifier word that disables it.  The run has no
resets, and starts after any run of a node that was started on a device with any number of fresh PDOs
and any object dictionary. -/
theorem valid_pdo_kept (id : NodeId) (rpdos tpdos : Nat) (dictionary : Dictionary)
    (before es : List (Event σ))
    (hes : ((Node.start id (Device.fresh rpdos tpdos dictionary)).run before).Along
      (fun _ e => ¬ e.IsReset) es) :
    let n := (Node.start id (Device.fresh rpdos tpdos dictionary)).run before
    (∀ k r, n.device.rpdos[k]? = some r → (∀ past, past <+: es → (n.run past).RpdoValid k) →
        ∃ r', (n.run es).device.rpdos[k]? = some r' ∧ r.SameLocked r') ∧
      (∀ k t, n.device.tpdos[k]? = some t → (∀ past, past <+: es → (n.run past).TpdoValid k) →
        ∃ t', (n.run es).device.tpdos[k]? = some t' ∧ t.SameLocked t') ∧
      ∀ past e, past ++ [e] <+: es →
        (∀ k, (n.run past).RpdoValid k → ¬ (n.run (past ++ [e])).RpdoValid k →
          e.Disables (n.run past) (.rpdoComm k)) ∧
        ∀ k, (n.run past).TpdoValid k → ¬ (n.run (past ++ [e])).TpdoValid k →
          e.Disables (n.run past) (.tpdoComm k) := by
  intro n
  have hconsistent : ∀ past : List (Event σ), (n.run past).device.Consistent :=
    run_invariant (I := fun n => n.device.Consistent) consistent_step
      (run_invariant (I := fun n => n.device.Consistent) consistent_step
        (Device.consistent_resetCommunication _) before)
  refine ⟨fun k r hr hvalid => rpdo_locked_run (hconsistent []) hes hr hvalid,
    fun k t ht hvalid => tpdo_locked_run (hconsistent []) hes ht hvalid, fun past e hpast => ?_⟩
  have he : ¬ e.IsReset := (along_iff n es).mp hes past e hpast
  rw [run_concat]
  constructor
  · rintro k ⟨r, hr, hv⟩ hinvalid
    obtain ⟨r', hr', ⟨hv', _⟩ | ⟨_, hdisables⟩⟩ := rpdo_locked_step (hconsistent past) he hr hv
    · exact absurd ⟨r', hr', hv'⟩ hinvalid
    · exact hdisables
  · rintro k ⟨t, ht, hv⟩ hinvalid
    obtain ⟨t', ht', ⟨hv', _⟩ | ⟨_, hdisables⟩⟩ := tpdo_locked_step (hconsistent past) he ht hv
    · exact absurd ⟨t', ht', hv'⟩ hinvalid
    · exact hdisables

/-! ### Attempts to change valid PDOs -/

/-- A byte, and the communication and mapping objects of two PDOs. -/
def byteObjects : Dictionary :=
  let byte := AppObject.var (SubInfo.u8.readWrite.mappable .both) (.ofNumber .u8 0)
  ⟨[⟨0x1400, .parameter (.rpdoComm 0)⟩, ⟨0x1600, .parameter (.rpdoMap 0)⟩,
    ⟨0x1800, .parameter (.tpdoComm 0)⟩, ⟨0x2000, .application byte⟩]⟩

/-- Make the PDOs of a node valid. -/
def enablePdos : List (Event Bus) :=
  [.loadConfig { DeviceConfig.initial with
    nodeId := 1
    rpdos := [⟨none, 254, [0x20000008], 0⟩]
    tpdos := [⟨none, 254, 10, 0, 0, [0x20000008], 0⟩] }]

/-- Attempts to change the identifier, the mapping, and the inhibit time. -/
def attempts : List (Event Bus) :=
  [.write ⟨0x1400, 1⟩ (.ofUInt32 0x202), .write ⟨0x1600, 0⟩ [0], .write ⟨0x1800, 3⟩ (.ofUInt16 20)]

/-- Disable the receive PDO. -/
def disableRpdo : Event Bus := .write ⟨0x1400, 1⟩ (.ofUInt32 0x80000201)

theorem valid_pdo_kept_attempts :
    let n := (Node.start .unconfigured (Device.fresh 1 1 byteObjects)).run enablePdos
    (∃ r, (n.run attempts).device.rpdos[0]? = some r ∧ r.cobId = some (.std 0x201) ∧
        r.mapping.dataLen = 1) ∧
      (∃ t, (n.run attempts).device.tpdos[0]? = some t ∧ t.inhibitTime = 10) ∧
      disableRpdo.Disables (n.run attempts) (.rpdoComm 0) := by
  intro n
  have hes : n.Along (fun _ e => ¬ e.IsReset) (attempts ++ [disableRpdo]) :=
    ⟨nofun, nofun, nofun, nofun, trivial⟩
  obtain ⟨hrpdo, htpdo, _⟩ := valid_pdo_kept .unconfigured 1 1 byteObjects enablePdos attempts
    ((along_append _ _ _).mp hes).1
  obtain ⟨_, _, hinvalid⟩ := valid_pdo_kept .unconfigured 1 1 byteObjects enablePdos _ hes
  have hprefix : ∀ past, past <+: attempts →
      past = [] ∨ past = attempts.take 1 ∨ past = attempts.take 2 ∨ past = attempts := by
    intro past hpast
    have hle : past.length ≤ 3 := hpast.length_le
    rw [List.prefix_iff_eq_take] at hpast
    rw [hpast]
    generalize past.length = i at hle
    match i, hle with
    | 0, _ => exact .inl rfl
    | 1, _ => exact .inr (.inl rfl)
    | 2, _ => exact .inr (.inr (.inl rfl))
    | 3, _ => exact .inr (.inr (.inr rfl))
  refine ⟨?_, ?_, ?_⟩
  · obtain ⟨r, hr, hlocked⟩ := hrpdo 0 _ rfl fun past hpast => by
      rcases hprefix past hpast with rfl | rfl | rfl | rfl <;> exact ⟨_, rfl, rfl⟩
    exact ⟨r, hr, hlocked.cobId, by rw [hlocked.mapping]; rfl⟩
  · obtain ⟨t, ht, hlocked⟩ := htpdo 0 _ rfl fun past hpast => by
      rcases hprefix past hpast with rfl | rfl | rfl | rfl <;> exact ⟨_, rfl, rfl⟩
    exact ⟨t, ht, hlocked.inhibitTime⟩
  · refine (hinvalid attempts disableRpdo List.prefix_rfl).1 0 ⟨_, rfl, rfl⟩ ?_
    rintro ⟨r, hr, hv⟩
    rw [← Option.some.inj hr] at hv
    exact absurd hv (by decide)

end Node

end Canopen
