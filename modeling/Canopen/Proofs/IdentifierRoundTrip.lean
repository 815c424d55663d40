import Canopen.Proofs.PdoIdentity

/-! # Identifier words that are read and written

What can be read from sub index one of a communication object can be written to it, and the other way
round.  A valid PDO shows an enabled word with the identifier in use; writing this word leaves the PDO
as it is, and writing it with bit 31 set disables the PDO (`reported_word_accepted`).  Both fail if
the stored word names what the pre-defined identifier has become under a node identifier that was
given to the node later (`renumbered_refuses`).

A word that is written while the PDO is disabled is read as it was written, apart from bit 31.  From
then on it follows the identifier of the node if it named the pre-defined identifier plus the node
identifier, and stays as it is otherwise (`written_word_follows`). -/

namespace Canopen

namespace Node

/-- The communication object at an index belongs to a PDO with this identity. -/
structure Communicates (n : Node) (index : UInt16) (p : Parameter) (v : PdoIdentity) : Prop where
  object : n.device.object index = .ok (.parameter p)
  identity : n.device.identity? p = some v

section access
variable {n : Node} {index : UInt16} {p : Parameter} {v : PdoIdentity} {w stored : CobIdWord}

theorem Communicates.write_ok (h : n.Communicates index p v) (hnone : v.params.restrictions = .none)
    (hstored : v.params.checkCobIdWrite w v.valid = .ok stored) :
    ∃ n', n.write ⟨index, 1⟩ (.ofUInt32 w) = (.ok (), n') ∧
      n'.Communicates index p (v.assume stored) := by
  obtain ⟨d, hd, hidentity, hdictionary⟩ := Device.write_cobIdWord h.object h.identity hnone hstored
  have hobject : d.object index = .ok (.parameter p) := by
    rw [Device.object_eq_parameter_iff, hdictionary, ← Device.object_eq_parameter_iff]
    exact h.object
  refine ⟨{ n with device := d }, ?_, hobject, hidentity⟩
  unfold write
  rw [hd]

theorem Communicates.write_error (h : n.Communicates index p v)
    (hnone : v.params.restrictions = .none) {e : AbortCode}
    (herror : v.params.checkCobIdWrite w v.valid = .error e) :
    n.write ⟨index, 1⟩ (.ofUInt32 w) = (.error e, n) := by
  unfold write
  rw [Device.write_cobIdWord_error h.object h.identity hnone herror]

end access

/-! ### Valid PDOs -/

section valid
variable {n : Node} {index : UInt16} {p : Parameter} {v : PdoIdentity} {id : UInt16}

/-- Whether a valid PDO takes a word that differs from the one which it shows in bit 31 at most. -/
theorem checkCobIdWrite_reported (hfit : v.params.predefinedId.toNat + v.params.nodeOffset.toNat < 2048)
    (hid : v.params.effectiveId v.params.cobId v.dataLen = some id) {w : CobIdWord}
    (hw : w = v.params.reportedCobId true ∨ w = v.params.reportedCobId true ||| .invalidBit) :
    (¬ v.params.Shadowed → ∃ stored, v.params.checkCobIdWrite w true = .ok stored) ∧
      (v.params.Shadowed → v.params.checkCobIdWrite w true = .error .invalidValue) := by
  obtain ⟨_, _, hplain⟩ := PdoParams.reportedCobId_of_effectiveId hfit hid
  have hshadowed := PdoParams.toNat_stripNodeId_reportedCobId hfit hid
  have hplain' : w.hasReservedBits = false := by
    rcases hw with rfl | rfl
    · exact hplain
    · rw [CobIdWord.hasReservedBits_or_invalidBit]
      exact hplain
  have hstrip : (v.params.stripNodeId w).toNat % 0x40000000 =
      (v.params.stripNodeId (v.params.reportedCobId true)).toNat % 0x40000000 := by
    rcases hw with rfl | rfl
    · rfl
    · exact PdoParams.toNat_stripNodeId_or_invalidBit hfit _
  rw [v.params.checkCobIdWrite_eq hplain', hstrip]
  constructor
  · intro hfree
    rw [if_neg fun h => h.2 (hshadowed.mpr hfree)]
    exact ⟨_, rfl⟩
  · intro hlocked
    rw [if_pos ⟨rfl, fun h => hshadowed.mp h hlocked⟩]

/-- A word that a valid PDO takes disables it, or leaves it as it is. -/
theorem Communicates.write_valid (h : n.Communicates index p v) (hvalid : v.valid = true)
    (hcobId : v.cobId = some (.std id)) (hnone : v.params.restrictions = .none)
    (hid : v.params.effectiveId v.params.cobId v.dataLen = some id) {w stored : CobIdWord}
    (hstored : v.params.checkCobIdWrite w true = .ok stored) :
    ∃ n' v', n.write ⟨index, 1⟩ (.ofUInt32 w) = (.ok (), n') ∧ n'.Communicates index p v' ∧
      v'.valid = !w.isInvalid ∧ (w.isInvalid = false → v'.cobId = v.cobId) := by
  have heffective := PdoParams.effectiveId_of_checkCobIdWrite hstored hid
  rw [← hvalid] at hstored
  obtain ⟨n', hwrite, h'⟩ := h.write_ok hnone hstored
  refine ⟨n', _, hwrite, h', ?_, ?_⟩
  · show (v.params.effectiveId stored v.dataLen).isSome = _
    rw [heffective]
    cases w.isInvalid <;> rfl
  · intro henabled
    show (v.params.effectiveId stored v.dataLen).map CanId.std = _
    rw [heffective, henabled, hcobId]
    rfl

theorem Communicates.read_valid (h : n.Communicates index p v) (hvalid : v.valid = true)
    (hcobId : v.cobId = some (.std id))
    (hfit : v.params.predefinedId.toNat + v.params.nodeOffset.toNat < 2048)
    (hid : v.params.effectiveId v.params.cobId v.dataLen = some id) :
    n.device.read ⟨index, 1⟩ 0 4 = .ok (.ofUInt32 (v.params.reportedCobId true)) ∧
      v.cobId = some (.std (v.params.reportedCobId true).standardId) ∧
      (v.params.reportedCobId true).isInvalid = false := by
  obtain ⟨hstandard, henabled, _⟩ := PdoParams.reportedCobId_of_effectiveId hfit hid
  have hread := Device.read_cobIdWord h.object h.identity
  rw [hvalid] at hread
  rw [hstandard]
  exact ⟨hread, hcobId, henabled⟩

/-- What a valid PDO shows can be written, unless it is shadowed. -/
theorem Communicates.write_reported (h : n.Communicates index p v) (hvalid : v.valid = true)
    (hcobId : v.cobId = some (.std id)) (hnone : v.params.restrictions = .none)
    (hfit : v.params.predefinedId.toNat + v.params.nodeOffset.toNat < 2048)
    (hid : v.params.effectiveId v.params.cobId v.dataLen = some id) {w : CobIdWord}
    (hw : w = v.params.reportedCobId true ∨ w = v.params.reportedCobId true ||| .invalidBit) :
    (¬ v.params.Shadowed → ∃ n' v', n.write ⟨index, 1⟩ (.ofUInt32 w) = (.ok (), n') ∧
        n'.Communicates index p v' ∧ v'.valid = !w.isInvalid ∧
        (w.isInvalid = false → v'.cobId = v.cobId)) ∧
      (v.params.Shadowed → n.write ⟨index, 1⟩ (.ofUInt32 w) = (.error .invalidValue, n)) := by
  obtain ⟨haccepted, hrefused⟩ := checkCobIdWrite_reported hfit hid hw
  constructor
  · intro hfree
    obtain ⟨stored, hstored⟩ := haccepted hfree
    exact h.write_valid hvalid hcobId hnone hid hstored
  · intro hlocked
    have herror := hrefused hlocked
    rw [← hvalid] at herror
    exact h.write_error hnone herror

end valid

variable {σ : Type} [Transport σ]

/-- **A valid PDO takes the identifier word that it shows, and the same word with bit 31 set**, if its
restrictions are none: the former leaves it valid under the same identifier, the latter disables it.
The word that it shows is enabled and has the identifier in use.  The exception is a stored word that
names what the pre-defined identifier has become: then both words are refused.  It does not come about
while the node keeps its identifier.  The node was started on a device with any number of fresh PDOs
and any object dictionary, and has met any events. -/
theorem reported_word_accepted (id : NodeId) (rpdos tpdos : Nat) (dictionary : Dictionary)
    (es : List (Event σ)) {index : UInt16} {p : Parameter} {v : PdoIdentity}
    (h : ((Node.start id (Device.fresh rpdos tpdos dictionary)).run es).Communicates index p v)
    (hvalid : v.valid = true) (hnone : v.params.restrictions = .none) :
    let start := Node.start id (Device.fresh rpdos tpdos dictionary)
    let n := start.run es
    ∃ w : CobIdWord, n.device.read ⟨index, 1⟩ 0 4 = .ok (.ofUInt32 w) ∧
      v.cobId = some (.std w.standardId) ∧ w.isInvalid = false ∧
      (¬ v.params.Shadowed →
        (∃ n' v', n.write ⟨index, 1⟩ (.ofUInt32 w) = (.ok (), n') ∧ n'.Communicates index p v' ∧
          v'.valid = true ∧ v'.cobId = v.cobId) ∧
        ∃ n' v', n.write ⟨index, 1⟩ (.ofUInt32 (w ||| CobIdWord.invalidBit)) = (.ok (), n') ∧
          n'.Communicates index p v' ∧ v'.valid = false) ∧
      (v.params.Shadowed →
        n.write ⟨index, 1⟩ (.ofUInt32 w) = (.error .invalidValue, n) ∧
        n.write ⟨index, 1⟩ (.ofUInt32 (w ||| CobIdWord.invalidBit)) = (.error .invalidValue, n)) ∧
      (start.Along (fun m e => (m.step e).id.offset = m.id.offset) es → ¬ v.params.Shadowed) := by
  intro start n
  have hfit := (identified_run id _ es).toNat_lt h.identity
  obtain ⟨hrpdos, htpdos⟩ := pdos_consistent id rpdos tpdos dictionary es
  have hconsistent : n.device.Consistent := ⟨hrpdos, htpdos⟩
  obtain ⟨used, hused, hcobId⟩ := hconsistent.identity h.identity hvalid
  obtain ⟨hread, hshown, henabled⟩ := h.read_valid hvalid hcobId hfit hused
  obtain ⟨hsame, hsame'⟩ := h.write_reported hvalid hcobId hnone hfit hused (.inl rfl)
  obtain ⟨hdisabled, hdisabled'⟩ := h.write_reported hvalid hcobId hnone hfit hused (.inr rfl)
  rw [henabled] at hsame
  rw [CobIdWord.isInvalid_or_invalidBit] at hdisabled
  refine ⟨_, hread, hshown, henabled, fun hfree => ⟨?_, ?_⟩,
    fun hlocked => ⟨hsame' hlocked, hdisabled' hlocked⟩, fun hkept => ?_⟩
  · obtain ⟨n', v', hwrite, h', hv', hcobId'⟩ := hsame hfree
    exact ⟨n', v', hwrite, h', hv', hcobId' rfl⟩
  · obtain ⟨n', v', hwrite, h', hv', _⟩ := hdisabled hfree
    exact ⟨n', v', hwrite, h', hv'⟩
  · have hstripped := stripped_run id rpdos tpdos dictionary hkept
    exact PdoParams.not_shadowed_of_stripped hfit (hstripped p v h.identity)

def five : NodeId := (NodeId.ofRaw 5).toOption.getD .unconfigured

/-- The node gets its PDOs under the identifier 1, and then the identifier 5. -/
def followed : List (Event Bus) := enablePdos ++ [.setNodeId five]

/-- The receive PDO has its pre-defined identifier, which has followed the node. -/
theorem reported_word_accepted_followed :
    let n := (Node.start .unconfigured (Device.fresh 1 1 byteObjects)).run followed
    n.device.read ⟨0x1400, 1⟩ 0 4 = .ok (.ofUInt32 0x205) ∧
      (∃ n' v, n.write ⟨0x1400, 1⟩ (.ofUInt32 0x205) = (.ok (), n') ∧
        n'.Communicates 0x1400 (.rpdoComm 0) v ∧ v.cobId = some (.std 0x205)) ∧
      ∃ n' v, n.write ⟨0x1400, 1⟩ (.ofUInt32 0x80000205) = (.ok (), n') ∧
        n'.Communicates 0x1400 (.rpdoComm 0) v ∧ v.valid = false := by
  intro n
  obtain ⟨v, h, hvalid, hnone, hcobId, hfree⟩ : ∃ v, n.Communicates 0x1400 (.rpdoComm 0) v ∧
      v.valid = true ∧ v.params.restrictions = .none ∧ v.cobId = some (.std 0x205) ∧
      ¬ v.params.Shadowed :=
    ⟨_, ⟨rfl, rfl⟩, rfl, rfl, rfl, fun hlocked => absurd hlocked.2.2 (by decide)⟩
  have hread : n.device.read ⟨0x1400, 1⟩ 0 4 = .ok (.ofUInt32 0x205) := rfl
  obtain ⟨w, hw, _, _, haccepted, _⟩ :=
    reported_word_accepted .unconfigured 1 1 byteObjects followed h hvalid hnone
  have hword : w = 0x205 := by
    have hbytes := congrArg Bytes.toUInt32 (Except.ok.inj (hw.symm.trans hread))
    rwa [Bytes.toUInt32_ofUInt32, Bytes.toUInt32_ofUInt32] at hbytes
  obtain ⟨⟨n₁, v₁, hwrite₁, h₁, _, hcobId₁⟩, n₂, v₂, hwrite₂, h₂, hvalid₂⟩ := haccepted hfree
  rw [hword] at hwrite₁ hwrite₂
  exact ⟨hread, ⟨n₁, v₁, hwrite₁, h₁, hcobId₁.trans hcobId⟩, n₂, v₂, hwrite₂, h₂, hvalid₂⟩

/-- The receive PDO gets the identifier 0x205 while the node has the identifier 1, and then the node
gets the identifier 5. -/
def renumbered : Node :=
  (Node.start .unconfigured (Device.fresh 1 0 byteObjects)).run
    [.loadConfig { DeviceConfig.initial with
        nodeId := 1
        rpdos := [⟨some 0x205, 254, [0x20000008], 0⟩] },
      Event.setNodeId (σ := Bus) five]

/-- The receive PDO is valid under the identifier 0x205, and shows it, but it takes neither this word
nor the one that disables it: both are stored with the pre-defined identifier. -/
theorem renumbered_refuses :
    ∃ v, renumbered.Communicates 0x1400 (.rpdoComm 0) v ∧ v.valid = true ∧
      v.params.restrictions = .none ∧ v.cobId = some (.std 0x205) ∧
      renumbered.device.read ⟨0x1400, 1⟩ 0 4 = .ok (.ofUInt32 0x205) ∧
      renumbered.write ⟨0x1400, 1⟩ (.ofUInt32 0x205) = (.error .invalidValue, renumbered) ∧
      renumbered.write ⟨0x1400, 1⟩ (.ofUInt32 0x80000205) = (.error .invalidValue, renumbered) :=
  ⟨_, ⟨rfl, rfl⟩, rfl, rfl, rfl, rfl, rfl, rfl⟩

/-! ### Disabled PDOs -/

/-- The word of a PDO that was configured stays stored while no other is. -/
theorem Communicates.run {n : Node} {index : UInt16} {p : Parameter} {v : PdoIdentity}
    (h : n.Communicates index p v) (hne : v.params.cobId ≠ .invalidBit) {es : List (Event σ)}
    (hes : n.Along (fun m e => e.LeavesWord m p) es) :
    ∃ v', (n.run es).Communicates index p v' ∧ v'.params.cobId = v.params.cobId := by
  have hstep : ∀ (m : Node) (e : Event σ), e.LeavesWord m p →
      (m.device.object index = .ok (.parameter p) ∧
        ∃ v', m.device.identity? p = some v' ∧ v'.params.cobId = v.params.cobId) →
      (m.step e).device.object index = .ok (.parameter p) ∧
        ∃ v', (m.step e).device.identity? p = some v' ∧ v'.params.cobId = v.params.cobId :=
    fun m e he hm => ⟨object_step e hm.1, cobId_step e he hne hm.2⟩
  obtain ⟨hobject, v', hv', hcobId⟩ :=
    along_invariant hstep hes ⟨h.object, v, h.identity, rfl⟩
  exact ⟨v', ⟨hobject, hv'⟩, hcobId⟩

/-- **A word that is written while a PDO is disabled is read back, and follows the node.**  The word
has bits 11 to 29 clear and names an identifier, but not the pre-defined one without the node
identifier; the restrictions of the PDO are none.  It is accepted, and read as it was written, with
bit 31 set if the PDO has not become valid; a valid PDO uses the identifier that was written.  When the
node has got another identifier, and no other word was stored in between, the identifier that is read
is the pre-defined one plus the new node identifier if it was the same with the old one, and the one
that was written otherwise.  The node was started on a device with any number of fresh PDOs and any
object dictionary, and has met any events. -/
theorem written_word_follows (id : NodeId) (rpdos tpdos : Nat) (dictionary : Dictionary)
    (es : List (Event σ)) {index : UInt16} {p : Parameter} {v : PdoIdentity} {w : CobIdWord}
    (h : ((Node.start id (Device.fresh rpdos tpdos dictionary)).run es).Communicates index p v)
    (hvalid : v.valid = false) (hnone : v.params.restrictions = .none)
    (hw : w.Plain p.predefinedId
      ((Node.start id (Device.fresh rpdos tpdos dictionary)).run es).id.offset) :
    let n := (Node.start id (Device.fresh rpdos tpdos dictionary)).run es
    ∃ n' v', n.write ⟨index, 1⟩ (.ofUInt32 w) = (.ok (), n') ∧ n'.Communicates index p v' ∧
      (v'.valid = true ↔ w.Usable p.predefinedId n.id.offset ∧ v.dataLen ≠ 0) ∧
      n'.device.read ⟨index, 1⟩ 0 4 =
        .ok (.ofUInt32 (if v'.valid = true then w else w ||| CobIdWord.invalidBit)) ∧
      (v'.valid = true → v'.cobId = some (.std w.standardId)) ∧
      ∀ (between : List (Event σ)) (id' : NodeId),
        n'.Along (fun m e => e.LeavesWord m p) between →
        ∃ w' : CobIdWord, ((n'.run between).setNodeId id').device.read ⟨index, 1⟩ 0 4 =
            .ok (.ofUInt32 w') ∧
          w'.standardId =
            if p.predefinedId ≠ 0 ∧ w.standardId = p.predefinedId + n.id.offset.toUInt16 then
              p.predefinedId + id'.offset.toUInt16
            else w.standardId := by
  intro n
  have hidentified : n.Identified := identified_run id _ es
  have hfit := hidentified.toNat_lt h.identity
  obtain ⟨hpredefined, hoffset⟩ := hidentified p v h.identity
  rw [← hpredefined, ← hoffset] at hw ⊢
  have hstored := v.params.checkCobIdWrite_of_plain hw.plain
  rw [← hvalid] at hstored
  obtain ⟨n', hwrite, h'⟩ := h.write_ok hnone hstored
  have hcobId : (v.assume (v.params.stripNodeId w)).params.cobId = v.params.stripNodeId w :=
    v.params.stripNodeId_stripNodeId w
  refine ⟨n', _, hwrite, h', ?_, ?_, fun hv' => ?_, fun between id' hbetween => ?_⟩
  · exact PdoParams.isSome_effectiveId_stripNodeId hfit w v.dataLen
  · have hshown : (v.assume (v.params.stripNodeId w)).params.reportedCobId true = w := by
      show (v.params.setCobId (v.params.stripNodeId w)).reportedCobId true = w
      rw [PdoParams.setCobId_stripNodeId]
      exact PdoParams.reportedCobId_setCobId hfit hw
    have hread := Device.read_cobIdWord h'.object h'.identity
    rw [PdoParams.reportedCobId_eq, hshown] at hread
    exact hread
  · obtain ⟨used, hused⟩ := Option.isSome_iff_exists.mp hv'
    show (v.params.effectiveId (v.params.stripNodeId w) v.dataLen).map CanId.std = _
    rw [hused, PdoParams.eq_standardId_of_effectiveId hfit hw hused]
    rfl
  · -- the change of the node identifier is one more event that stores no word
    have hlast : (Event.setNodeId (σ := σ) id').LeavesWord (n'.run between) p := ⟨nofun, nofun⟩
    have hleaves : n'.Along (fun m e => e.LeavesWord m p) (between ++ [.setNodeId id']) :=
      (along_append _ _ _).mpr ⟨hbetween, hlast, trivial⟩
    have hne : (v.assume (v.params.stripNodeId w)).params.cobId ≠ .invalidBit := by
      rw [hcobId]
      exact PdoParams.stripNodeId_ne_invalidBit hfit hw
    obtain ⟨v'', h'', hkept⟩ := h'.run hne hleaves
    rw [run_concat] at h''
    have hidentified' := identified_setNodeId (n'.run between) id'
    obtain ⟨hpredefined', hoffset'⟩ := hidentified' p v'' h''.identity
    have hfollows := PdoParams.standardId_reportedCobId hfit hw
      (hidentified'.toNat_lt h''.identity) (hpredefined'.trans hpredefined.symm)
      (hkept.trans hcobId) v''.valid
    rw [hoffset'] at hfollows
    exact ⟨_, Device.read_cobIdWord h''.object h''.identity, hfollows⟩

/-- Write a mapping entry and the number of entries, so that the receive PDO can become valid. -/
def mapByte : List (Event Bus) :=
  [.write ⟨0x1600, 1⟩ (.ofUInt32 0x20000008), .write ⟨0x1600, 0⟩ [1]]

/-- The receive PDO of a node with the identifier 5 is given its pre-defined identifier, or another one
while it stays disabled.  Then time passes and the identifier of the node changes twice. -/
theorem written_word_follows_five :
    let n := (Node.start five (Device.fresh 1 0 byteObjects)).run mapByte
    let between : List (Event Bus) := [.tick 10 (.ofCapacity 1), .setNodeId .unconfigured]
    (∃ n' v, ∃ w' : CobIdWord, n.write ⟨0x1400, 1⟩ (.ofUInt32 0x205) = (.ok (), n') ∧
        n'.Communicates 0x1400 (.rpdoComm 0) v ∧ v.valid = true ∧ v.cobId = some (.std 0x205) ∧
        ((n'.run between).setNodeId five).device.read ⟨0x1400, 1⟩ 0 4 = .ok (.ofUInt32 w') ∧
        w'.standardId = 0x205) ∧
      ∃ n', ∃ w' : CobIdWord, n.write ⟨0x1400, 1⟩ (.ofUInt32 0x80000345) = (.ok (), n') ∧
        n'.device.read ⟨0x1400, 1⟩ 0 4 = .ok (.ofUInt32 0x80000345) ∧
        ((n'.run between).setNodeId five).device.read ⟨0x1400, 1⟩ 0 4 = .ok (.ofUInt32 w') ∧
        w'.standardId = 0x345 := by
  intro n between
  obtain ⟨v, h, hinvalid, hnone, hlength⟩ : ∃ v, n.Communicates 0x1400 (.rpdoComm 0) v ∧
      v.valid = false ∧ v.params.restrictions = .none ∧ v.dataLen = 1 :=
    ⟨_, ⟨rfl, rfl⟩, rfl, rfl, rfl⟩
  have hleaves (n' : Node) : n'.Along (fun m e => e.LeavesWord m (.rpdoComm 0)) between :=
    ⟨⟨nofun, nofun⟩, ⟨nofun, nofun⟩, trivial⟩
  constructor
  · obtain ⟨n', v', hwrite, h', hvalid, _, hused, hfollows⟩ :=
      written_word_follows five 1 0 byteObjects mapByte (w := 0x205) h hinvalid hnone
        ⟨by decide, by decide, .inl (by decide)⟩
    have hv' : v'.valid = true :=
      hvalid.mpr ⟨⟨by decide, .inl (by decide), by decide, by decide⟩, by omega⟩
    obtain ⟨w', hread, hw'⟩ := hfollows between five (hleaves n')
    exact ⟨n', v', w', hwrite, h', hv', hused hv', hread, hw'⟩
  · obtain ⟨n', v', hwrite, _, hvalid, hread', _, hfollows⟩ :=
      written_word_follows five 1 0 byteObjects mapByte (w := 0x80000345) h hinvalid hnone
        ⟨by decide, by decide, .inl (by decide)⟩
    have hv' : ¬ v'.valid = true := fun hv' => absurd (hvalid.mp hv').1.enabled (by decide)
    rw [if_neg hv'] at hread'
    obtain ⟨w', hread, hw'⟩ := hfollows between five (hleaves n')
    exact ⟨n', w', hwrite, hread', hread, hw'⟩

end Node

end Canopen
