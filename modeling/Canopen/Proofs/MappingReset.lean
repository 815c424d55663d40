import Canopen.Proofs.PdoIdentity

/-! # Mappings and communication resets

A communication reset puts the stored mapping parameters of a PDO into effect
(`MappingState.restart`).  It changes nothing if they are in effect already (`MappingState.Settled`),
as they are after a reset and after an accepted number of entries.  Two writes can set them apart from
the mapping in use: a number of entries that is refused because they cannot be resolved, and an entry
among those that the stored number counts.  After either of them nothing is mapped, so a PDO that has
something mapped is settled whatever was written to it (`MappingState.Held`).

A reset keeps the mapping of a PDO that has something mapped, and of any PDO for which there was no
such write since the last reset or the last accepted number of entries (`Node.reset_keeps_mapping`).
Otherwise it may bring a mapping (`Node.reset_maps_entry`). -/

namespace Canopen

/-- The direction of the PDO to which a mapping object belongs. -/
def Parameter.direction : Parameter → Direction
  | tpdoMap _ => .transmit
  | _ => .receive

/-- Entries beyond the number do not matter. -/
theorem MappingTable.descriptors_set (t : MappingTable) {count i : Nat} (h : count ≤ i) (w : UInt32) :
    (t.set i w).descriptors count = t.descriptors count := by
  unfold descriptors set
  rw [List.take_set_of_le h]

/-- What is seen of an entry of a list in which one was replaced. -/
theorem map_getElem?_set {α β : Type} {l : List α} {k i : Nat} {a a' : α} {f : α → β} {b : β}
    (hk : l[k]? = some a) (h : (l.set k a')[i]?.map f = some b) :
    (i = k ∧ b = f a') ∨ (i ≠ k ∧ l[i]?.map f = some b) := by
  by_cases hi : i = k
  · subst hi
    rw [List.getElem?_set_self (List.getElem?_eq_some_iff.mp hk).1] at h
    exact .inl ⟨rfl, (Option.some.inj h).symm⟩
  · rw [List.getElem?_set_ne fun heq => hi heq.symm] at h
    exact .inr ⟨hi, h⟩

theorem map_getElem?_map {α β : Type} {l : List α} {g : α → α} {f : α → β} {h : β → β}
    (hg : ∀ a, f (g a) = h (f a)) (i : Nat) : (l.map g)[i]?.map f = (l[i]?.map f).map h := by
  rw [List.getElem?_map, Option.map_map, Option.map_map]
  exact congrArg (l[i]?.map ·) (funext hg)

namespace PdoParams

variable {p : PdoParams} {attributes : Attributes} {direction : Direction}

theorem liveMapping_of_ok {count : UInt8} {m : MappedPdo}
    (h : p.resolve attributes direction count = .ok m) :
    p.liveMapping attributes direction count = m := by
  unfold liveMapping
  rw [h]

theorem liveMapping_setMapping {count : UInt8} {i : Nat} (h : count.toNat ≤ i) (w : UInt32) :
    (p.setMapping i w).liveMapping attributes direction count =
      p.liveMapping attributes direction count := by
  unfold liveMapping resolve setMapping
  rw [p.mappings.descriptors_set h]

end PdoParams

/-! ### The mapping of a PDO -/

/-- The part of a PDO that has to do with its mapping. -/
structure MappingState where
  params : PdoParams
  /-- The mapping in use. -/
  live : MappedPdo
deriving DecidableEq, Repr

namespace MappingState

/-- The stored parameters are put into effect. -/
def restart (v : MappingState) (attributes : Attributes) (direction : Direction) : MappingState :=
  { v with live := v.params.liveMapping attributes direction v.params.mappingCount }

/-- The mapping in use is the one that the stored parameters stand for. -/
def Settled (v : MappingState) (attributes : Attributes) (direction : Direction) : Prop :=
  v.live = v.params.liveMapping attributes direction v.params.mappingCount

/-- The mapping in use is the one that the stored parameters stand for, unless nothing is mapped. -/
def Held (v : MappingState) (attributes : Attributes) (direction : Direction) : Prop :=
  v.live.dataLen = 0 ∨ v.Settled attributes direction

/-- Nothing that has to do with the mapping is changed. -/
structure Same (v v' : MappingState) : Prop where
  live : v'.live = v.live
  mappingCount : v'.params.mappingCount = v.params.mappingCount
  mappings : v'.params.mappings = v.params.mappings

/-- The answer to a write to the mapping object of a PDO which takes the device `d` to `d'`, and the
mapping after it. -/
inductive Written (d d' : Device) (direction : Direction) (id : ObjectId) (data : Bytes)
    (v : MappingState) : WriteOutcome → MappingState → Prop
  | counted {n : UInt8} {m : MappedPdo} : id.sub = 0 →
      v.params.resolve d.attributes direction n = .ok m →
      Written d d' direction id data v (.ok ()) ⟨{ v.params with mappingCount := n }, m⟩
  | stored {w : UInt32} : id.sub ≠ 0 → v.live.dataLen = 0 →
      Written d d' direction id data v (.ok ())
        ⟨v.params.setMapping (id.sub.toNat - 1) w, v.live⟩
  | unmapped {e : AbortCode} : d.Unmapped id data e d' →
      Written d d' direction id data v (.error e) ⟨v.params, .empty⟩
  | refused (e : AbortCode) : Written d d' direction id data v (.error e) v

variable {v v' : MappingState} {attributes : Attributes} {direction : Direction}

theorem Same.refl (v : MappingState) : v.Same v := ⟨rfl, rfl, rfl⟩

theorem settled_restart (v : MappingState) (attributes : Attributes) (direction : Direction) :
    (v.restart attributes direction).Settled attributes direction := rfl

theorem Settled.restart_eq (h : v.Settled attributes direction) :
    v.restart attributes direction = v := by
  unfold restart
  rw [← h]

theorem Settled.of_same (h : v.Settled attributes direction) (hsame : v.Same v') :
    v'.Settled attributes direction := by
  unfold Settled PdoParams.liveMapping PdoParams.resolve at h ⊢
  rw [hsame.live, hsame.mappingCount, hsame.mappings]
  exact h

theorem Held.of_same (h : v.Held attributes direction) (hsame : v.Same v') :
    v'.Held attributes direction := by
  rcases h with hempty | hsettled
  · rw [← hsame.live] at hempty
    exact .inl hempty
  · exact .inr (hsettled.of_same hsame)

section write
variable {d d' : Device} {id : ObjectId} {data : Bytes} {outcome : WriteOutcome}

/-- An accepted number of entries settles the mapping. -/
theorem Written.settled_of_count (h : v.Written d d' direction id data outcome v')
    (hok : outcome = .ok ()) (hsub : id.sub = 0) : v'.Settled d.attributes direction := by
  cases h with
  | counted _ hm => exact (PdoParams.liveMapping_of_ok hm).symm
  | stored hne _ => exact absurd hsub hne
  | unmapped _ => cases hok
  | refused _ => cases hok

/-- No write unsettles the mapping, but for a number that cannot be resolved and a counted entry. -/
theorem Settled.written (hv : v.Settled d.attributes direction)
    (h : v.Written d d' direction id data outcome v')
    (hresolved : ∀ e d', ¬ d.Unmapped id data e d')
    (hcount : outcome = .ok () → id.sub = 0 ∨ v.params.mappingCount < id.sub) :
    v'.Settled d.attributes direction := by
  cases h with
  | counted _ hm => exact (PdoParams.liveMapping_of_ok hm).symm
  | @stored w hne _ =>
      have hlt := UInt8.lt_iff_toNat_lt.mp ((hcount rfl).resolve_left hne)
      have hle : v.params.mappingCount.toNat ≤ id.sub.toNat - 1 := by omega
      exact hv.trans (PdoParams.liveMapping_setMapping hle w).symm
  | unmapped hunmapped => exact absurd hunmapped (hresolved _ _)
  | refused _ => exact hv

/-- A write that passes the check is one of the cases, if it acts on the mapping as on that of either
kind of PDO. -/
theorem Written.of_check {valid : Bool} {w : MappingWrite}
    (hw : checkMappingWrite v.params valid v.live direction d.attributes d.started d.nmt id.sub data =
      .ok w)
    (hcounted : ∀ n m, w = .count n → v.params.resolve d.attributes direction n = .ok m →
      outcome = .ok () ∧ v' = ⟨{ v.params with mappingCount := n }, m⟩)
    (hunmapped : ∀ n fault, w = .count n →
      v.params.resolve d.attributes direction n = .error fault →
      outcome = .error fault.abort ∧ v' = ⟨v.params, .empty⟩ ∧
        (id.sub = 0 → Unresolvable d v.params valid direction data fault →
          d.Unmapped id data fault.abort d'))
    (hstored : ∀ i word, w = .entry i word →
      outcome = .ok () ∧ v' = ⟨v.params.setMapping i word, v.live⟩) :
    v.Written d d' direction id data outcome v' := by
  obtain ⟨hpermitted, hdisabled, _, ⟨hsub, n, hdata, hle, hn⟩ | ⟨hsub, hempty, word, hentry⟩⟩ :=
    checkMappingWrite_cases hw
  · cases hm : v.params.resolve d.attributes direction n with
    | ok m =>
        obtain ⟨rfl, rfl⟩ := hcounted n m hn hm
        exact .counted hsub hm
    | error fault =>
        obtain ⟨rfl, rfl, hlost⟩ := hunmapped n fault hn hm
        exact .unmapped (hlost hsub ⟨hpermitted, hdisabled, n, hdata, hle, hm⟩)
  · obtain ⟨rfl, rfl⟩ := hstored _ word hentry
    exact .stored hsub hempty

theorem Held.written (hv : v.Held d.attributes direction)
    (h : v.Written d d' direction id data outcome v') : v'.Held d.attributes direction := by
  cases h with
  | counted _ hm => exact .inr (PdoParams.liveMapping_of_ok hm).symm
  | stored _ hempty => exact .inl hempty
  | unmapped _ => exact .inl rfl
  | refused _ => exact hv

end write

end MappingState

/-! ### Mappings by their mapping objects -/

def Rpdo.mappingState (r : Rpdo) : MappingState := ⟨r.params, r.mapping⟩

def Tpdo.mappingState (t : Tpdo) : MappingState := ⟨t.params, t.mapping⟩

/-- The mapping of the PDO to which a mapping object belongs. -/
def Device.mapping? (d : Device) : Parameter → Option MappingState
  | .rpdoMap k => d.rpdos[k]?.map Rpdo.mappingState
  | .tpdoMap k => d.tpdos[k]?.map Tpdo.mappingState
  | _ => none

theorem Rpdo.mappingState_restart (r : Rpdo) (attributes : Attributes) :
    (r.restart attributes).mappingState = r.mappingState.restart attributes .receive := by
  unfold restart reset
  simp only [configureMapping_pdo]
  rfl

theorem Tpdo.mappingState_restart (t : Tpdo) (attributes : Attributes) :
    (t.restart attributes).mappingState = t.mappingState.restart attributes .transmit := by
  unfold restart reset
  simp only [configureMapping_pdo]
  rfl

theorem Rpdo.same_of_writeComm {r r' : Rpdo} {nmt : NmtState} {sub : UInt8} {data : Bytes}
    (h : r.writeComm nmt sub data = .ok r') : r.mappingState.Same r'.mappingState := by
  rcases writeComm_ok h with ⟨_, w, stored, _, _, rfl⟩ | ⟨_, t, _, rfl⟩
  · exact ⟨rfl, rfl, rfl⟩
  · exact ⟨rfl, rfl, rfl⟩

theorem Tpdo.same_of_writeComm {t t' : Tpdo} {nmt : NmtState} {sub : UInt8} {data : Bytes}
    (h : t.writeComm nmt sub data = .ok t') : t.mappingState.Same t'.mappingState := by
  rcases writeComm_ok h with ⟨_, w, stored, _, _, rfl⟩ | ⟨type, _, rfl⟩ | ⟨_, time, rfl⟩ |
    ⟨time, rfl⟩ | ⟨_, start, _, rfl⟩
  · exact ⟨rfl, rfl, rfl⟩
  · exact ⟨rfl, rfl, rfl⟩
  · exact .refl _
  · exact .refl _
  · exact .refl _

namespace Device

variable {d d' : Device} {p q : Parameter} {v v' : MappingState} {id : ObjectId} {data : Bytes}
  {outcome : WriteOutcome}

theorem mapping?_rpdoMap {k : Nat} {r : Rpdo} (h : d.rpdos[k]? = some r) :
    d.mapping? (.rpdoMap k) = some r.mappingState :=
  congrArg (Option.map Rpdo.mappingState) h

theorem mapping?_tpdoMap {k : Nat} {t : Tpdo} (h : d.tpdos[k]? = some t) :
    d.mapping? (.tpdoMap k) = some t.mappingState :=
  congrArg (Option.map Tpdo.mappingState) h

theorem mapping?_resetCommunication (d : Device) (p : Parameter) :
    d.resetCommunication.mapping? p =
      (d.mapping? p).map (fun v => v.restart d.attributes p.direction) := by
  cases p with
  | rpdoMap k =>
      show d.resetCommunication.rpdos[k]?.map Rpdo.mappingState = _
      rw [resetCommunication_rpdos]
      exact map_getElem?_map (fun r => r.mappingState_restart d.attributes) k
  | tpdoMap k =>
      show d.resetCommunication.tpdos[k]?.map Tpdo.mappingState = _
      rw [resetCommunication_tpdos]
      exact map_getElem?_map (fun t => t.mappingState_restart d.attributes) k
  | _ => rfl

theorem written_rpdoMap {k : Nat} {r : Rpdo} {w : MappingWrite}
    (ho : d.object id.index = .ok (.parameter (.rpdoMap k))) (hr : d.rpdos[k]? = some r)
    (hw : checkMappingWrite r.params r.valid r.mapping .receive d.attributes d.started d.nmt id.sub
      data = .ok w) :
    r.mappingState.Written d { d with
        rpdos := d.rpdos.set k (r.applyMapping d.attributes d.errors w).pdo
        errors := (r.applyMapping d.attributes d.errors w).errors } .receive id data
      (mappingOutcome (r.applyMapping d.attributes d.errors w).outcome)
      (r.applyMapping d.attributes d.errors w).pdo.mappingState := by
  refine .of_check hw ?_ ?_ ?_
  · rintro n m rfl hm
    rw [Rpdo.applyMapping_of_ok hm]
    exact ⟨rfl, rfl⟩
  · rintro n fault rfl hfault
    rw [Rpdo.applyMapping_of_error hfault]
    exact ⟨rfl, rfl, fun hsub hcount => .rpdo ho hsub hr hcount⟩
  · rintro i word rfl
    exact ⟨rfl, rfl⟩

theorem written_tpdoMap {k : Nat} {t : Tpdo} {w : MappingWrite}
    (ho : d.object id.index = .ok (.parameter (.tpdoMap k))) (ht : d.tpdos[k]? = some t)
    (hw : checkMappingWrite t.params t.valid t.mapping .transmit d.attributes d.started d.nmt id.sub
      data = .ok w) :
    t.mappingState.Written d { d with
        tpdos := d.tpdos.set k (t.applyMapping d.attributes d.errors w).pdo
        errors := (t.applyMapping d.attributes d.errors w).errors } .transmit id data
      (mappingOutcome (t.applyMapping d.attributes d.errors w).outcome)
      (t.applyMapping d.attributes d.errors w).pdo.mappingState := by
  refine .of_check hw ?_ ?_ ?_
  · rintro n m rfl hm
    rw [Tpdo.applyMapping_of_ok hm]
    exact ⟨rfl, rfl⟩
  · rintro n fault rfl hfault
    rw [Tpdo.applyMapping_of_error hfault]
    exact ⟨rfl, rfl, fun hsub hcount => .tpdo ho hsub ht hcount⟩
  · rintro i word rfl
    exact ⟨rfl, rfl⟩

theorem mapping?_set_rpdo {k : Nat} {r r' : Rpdo} (hr : d.rpdos[k]? = some r)
    (h : d'.mapping? p = some v') (hrpdos : d'.rpdos = d.rpdos.set k r')
    (htpdos : d'.tpdos = d.tpdos) :
    (p = .rpdoMap k ∧ v' = r'.mappingState) ∨ (p ≠ .rpdoMap k ∧ d.mapping? p = some v') := by
  cases p with
  | rpdoMap i =>
      change d'.rpdos[i]?.map Rpdo.mappingState = _ at h
      rw [hrpdos] at h
      rcases map_getElem?_set hr h with ⟨rfl, hv'⟩ | ⟨hi, hv'⟩
      · exact .inl ⟨rfl, hv'⟩
      · exact .inr ⟨fun hp => hi (Parameter.rpdoMap.inj hp), hv'⟩
  | tpdoMap i =>
      change d'.tpdos[i]?.map Tpdo.mappingState = _ at h
      rw [htpdos] at h
      exact .inr ⟨nofun, h⟩
  | _ => cases h

theorem mapping?_set_tpdo {k : Nat} {t t' : Tpdo} (ht : d.tpdos[k]? = some t)
    (h : d'.mapping? p = some v') (hrpdos : d'.rpdos = d.rpdos)
    (htpdos : d'.tpdos = d.tpdos.set k t') :
    (p = .tpdoMap k ∧ v' = t'.mappingState) ∨ (p ≠ .tpdoMap k ∧ d.mapping? p = some v') := by
  cases p with
  | rpdoMap i =>
      change d'.rpdos[i]?.map Rpdo.mappingState = _ at h
      rw [hrpdos] at h
      exact .inr ⟨nofun, h⟩
  | tpdoMap i =>
      change d'.tpdos[i]?.map Tpdo.mappingState = _ at h
      rw [htpdos] at h
      rcases map_getElem?_set ht h with ⟨rfl, hv'⟩ | ⟨hi, hv'⟩
      · exact .inl ⟨rfl, hv'⟩
      · exact .inr ⟨fun hp => hi (Parameter.tpdoMap.inj hp), hv'⟩
  | _ => cases h

/-- A write that puts another PDO in the place of one leaves the mappings of the others alone, and that
of this one unless it is addressed to its mapping object. -/
theorem mapping_of_set {own : Parameter} {w w' : MappingState} (hown : d.mapping? own = some w)
    (hset : (p = own ∧ v' = w') ∨ (p ≠ own ∧ d.mapping? p = some v'))
    (hq : q = own ∧ w.Written d d' own.direction id data outcome w' ∨
      d.mapping? q = none ∧ w.Same w') :
    ∃ v, d.mapping? p = some v ∧
      (q ≠ p ∧ v.Same v' ∨ q = p ∧ v.Written d d' p.direction id data outcome v') := by
  rcases hset with ⟨rfl, rfl⟩ | ⟨hp, hv⟩
  · rcases hq with ⟨rfl, hwritten⟩ | ⟨hnone, hsame⟩
    · exact ⟨w, hown, .inr ⟨rfl, hwritten⟩⟩
    · refine ⟨w, hown, .inl ⟨?_, hsame⟩⟩
      rintro rfl
      cases hnone.symm.trans hown
  · refine ⟨v', hv, .inl ⟨?_, .refl _⟩⟩
    rintro rfl
    rcases hq with ⟨rfl, _⟩ | ⟨hnone, _⟩
    · exact hp rfl
    · cases hnone.symm.trans hv

/-- A write to a parameter object leaves the mappings of all PDOs alone but that to which the object
belongs, if it is a mapping object. -/
theorem Answered.mapping (h : d.Answered id.sub data q outcome d')
    (ho : d.object id.index = .ok (.parameter q)) (hv' : d'.mapping? p = some v') :
    ∃ v, d.mapping? p = some v ∧
      (q ≠ p ∧ v.Same v' ∨ q = p ∧ v.Written d d' p.direction id data outcome v') := by
  cases h with
  | refused e =>
      by_cases hq : q = p
      · exact ⟨v', hv', .inr ⟨hq, .refused e⟩⟩
      · exact ⟨v', hv', .inl ⟨hq, .refl _⟩⟩
  | sync hsync _ =>
      refine ⟨v', hv', .inl ⟨?_, .refl _⟩⟩
      rintro rfl
      cases q with
      | rpdoMap k => cases hsync
      | tpdoMap k => cases hsync
      | _ => cases hv'
  | rpdoComm hr hw =>
      exact mapping_of_set (mapping?_rpdoMap hr)
        (mapping?_set_rpdo hr hv' rfl rfl) (.inr ⟨rfl, Rpdo.same_of_writeComm hw⟩)
  | tpdoComm ht hw =>
      exact mapping_of_set (mapping?_tpdoMap ht)
        (mapping?_set_tpdo ht hv' rfl rfl) (.inr ⟨rfl, Tpdo.same_of_writeComm hw⟩)
  | rpdoMap hr hw =>
      exact mapping_of_set (mapping?_rpdoMap hr)
        (mapping?_set_rpdo hr hv' rfl rfl) (.inl ⟨rfl, written_rpdoMap ho hr hw⟩)
  | tpdoMap ht hw =>
      exact mapping_of_set (mapping?_tpdoMap ht)
        (mapping?_set_tpdo ht hv' rfl rfl) (.inl ⟨rfl, written_tpdoMap ho ht hw⟩)

theorem writeLeading_eq {part : Bytes} {info : SubInfo}
    (ho : d.object id.index = .ok (.parameter p)) (hinfo : p.subInfo id.sub = .ok info)
    (hdata : completeValue info.size (d.read id 0) part = .ok data) :
    d.writeLeading id part = d.writeParameter p id.sub data := by
  have hvalue : (do
      let info ← p.subInfo id.sub
      completeValue info.size (d.read id 0) part) = .ok data := by
    rw [hinfo]
    exact hdata
  unfold writeLeading
  rw [ho]
  dsimp only
  rw [hvalue]

theorem Answered.dictionary_eq {sub : UInt8} (h : d.Answered sub data q outcome d') :
    d'.dictionary = d.dictionary := by
  cases h <;> rfl

theorem read_mappingCount {index : UInt16} (ho : d.object index = .ok (.parameter p))
    (hv : d.mapping? p = some v) :
    d.read ⟨index, 0⟩ 0 1 = .ok [v.params.shownCount v.live] := by
  have hbytes : d.parameterBytes p 0 = .ok [v.params.shownCount v.live] := by
    cases p with
    | rpdoMap k =>
        obtain ⟨r, hr, rfl⟩ := Option.map_eq_some_iff.mp hv
        rw [parameterBytes_rpdoMap hr]
        rfl
    | tpdoMap k =>
        obtain ⟨t, ht, rfl⟩ := Option.map_eq_some_iff.mp hv
        rw [parameterBytes_tpdoMap ht]
        rfl
    | _ => cases hv
  exact read_parameter ho hbytes

end Device

/-! ### Events -/

/-- The event is a write of a value to a sub object of a parameter object, with its answer. -/
inductive Event.Addresses {σ : Type} (n : Node) (p : Parameter) (id : ObjectId) (data : Bytes)
    (outcome : WriteOutcome) : Event σ → Prop
  | whole : n.device.object id.index = .ok (.parameter p) → (n.device.write id data).1 = outcome →
      Addresses n p id data outcome (.write id data)
  /-- The leading bytes are written and the others are kept. -/
  | leading {part : Bytes} {info : SubInfo} : n.device.object id.index = .ok (.parameter p) →
      p.subInfo id.sub = .ok info →
      completeValue info.size (n.device.read id 0) part = .ok data →
      (n.device.writeLeading id part).1 = outcome →
      Addresses n p id data outcome (.writeLeading id part)

/-- The event is a write to the object dictionary. -/
def Event.IsWrite {σ : Type} : Event σ → Prop
  | .write _ _ | .writeLeading _ _ => True
  | _ => False

/-- The event puts the stored mapping parameters of a PDO into effect: it is a reset, or an accepted
number of mapping entries. -/
def Event.Settles {σ : Type} (n : Node) (p : Parameter) (e : Event σ) : Prop :=
  e.IsReset ∨ ∃ id data, e.Addresses n p id data (.ok ()) ∧ id.sub = 0

/-- The event does not set the stored mapping parameters of a PDO apart from the mapping in use: it is
no number of entries that cannot be resolved, and no accepted entry among those that are counted. -/
structure Event.Upholds {σ : Type} (n : Node) (p : Parameter) (e : Event σ) : Prop where
  resolved : ∀ id data outcome, e.Addresses n p id data outcome →
    ∀ code d, ¬ n.device.Unmapped id data code d
  uncounted : ∀ id data, e.Addresses n p id data (.ok ()) → id.sub = 0 ∨
    ∀ v, n.device.mapping? p = some v → v.params.mappingCount < id.sub

namespace Node

variable {σ : Type} [Transport σ] {n : Node} {e : Event σ} {p : Parameter} {id : ObjectId}
  {data : Bytes} {outcome : WriteOutcome}

theorem answered_of_addresses (h : e.Addresses n p id data outcome) :
    n.device.object id.index = .ok (.parameter p) ∧
      n.device.Answered id.sub data p outcome (n.step e).device := by
  have hanswered := n.device.writeParameter_answered p id.sub data
  cases h with
  | whole ho houtcome =>
      rw [← Device.write_parameter ho, houtcome] at hanswered
      exact ⟨ho, hanswered⟩
  | @leading part info ho hinfo hvalue houtcome =>
      rw [← Device.writeLeading_eq ho hinfo hvalue, houtcome] at hanswered
      exact ⟨ho, hanswered⟩

/-- A write to a parameter object does not change what the resolver looks at. -/
theorem keepsMaxSubs_of_addresses (h : e.Addresses n p id data outcome) : n.KeepsMaxSubs e := by
  intro index
  rw [(answered_of_addresses h).2.dictionary_eq]

theorem along_keepsMaxSubs {index : UInt16} (ho : n.device.object index = .ok (.parameter p))
    {es : List (Event σ)} (hes : ∀ e ∈ es, ∃ sub data, e = .write ⟨index, sub⟩ data) :
    n.Along (fun m e => e.IsWrite ∧ m.KeepsMaxSubs e) es := by
  induction es generalizing n with
  | nil => trivial
  | cons e es ih =>
      obtain ⟨sub, data, rfl⟩ := hes e List.mem_cons_self
      exact ⟨⟨trivial, keepsMaxSubs_of_addresses (.whole ho rfl)⟩,
        ih (object_step _ ho) fun e' he' => hes e' (List.mem_cons_of_mem _ he')⟩

/-- A write that is not addressed to a parameter object changes no more than the dictionary. -/
theorem eq_or_addresses_of_isWrite (he : e.IsWrite) :
    (∃ objects, (n.step e).device = { n.device with dictionary := objects }) ∨
      ∃ p id data outcome, e.Addresses n p id data outcome := by
  cases e with
  | write id data =>
      rcases n.device.write_cases id data with happlication | ⟨p, ho, _⟩
      · exact .inl happlication
      · exact .inr ⟨p, id, data, _, .whole ho rfl⟩
  | writeLeading id part =>
      rcases n.device.writeLeading_cases id part with
        happlication | ⟨p, info, data, ho, hinfo, hdata, _⟩
      · exact .inl happlication
      · exact .inr ⟨p, id, data, _, .leading ho hinfo hdata rfl⟩
  | _ => cases he

/-- A write to the object dictionary leaves the mapping of a PDO alone, or is addressed to the mapping
object of the PDO. -/
theorem mapping_of_isWrite {v' : MappingState} (he : e.IsWrite)
    (hv' : (n.step e).device.mapping? p = some v') :
    ∃ v, n.device.mapping? p = some v ∧
      (v.Same v' ∨ ∃ id data outcome, e.Addresses n p id data outcome ∧
        v.Written n.device (n.step e).device p.direction id data outcome v') := by
  rcases eq_or_addresses_of_isWrite he with ⟨objects, hstep⟩ | ⟨q, id, data, outcome, haddresses⟩
  · rw [hstep] at hv'
    exact ⟨v', hv', .inl (.refl _)⟩
  · obtain ⟨ho, hanswered⟩ := answered_of_addresses haddresses
    obtain ⟨v, hv, ⟨_, hsame⟩ | ⟨rfl, hwritten⟩⟩ := hanswered.mapping ho hv'
    · exact ⟨v, hv, .inl hsame⟩
    · exact ⟨v, hv, .inr ⟨id, data, outcome, haddresses, hwritten⟩⟩

/-- The stored mapping parameters of a PDO are in effect. -/
def SettlesMapping (n : Node) (p : Parameter) : Prop :=
  ∀ v, n.device.mapping? p = some v → v.Settled n.device.attributes p.direction

/-- The stored mapping parameters of a PDO are in effect if it has something mapped. -/
def HoldsMapping (n : Node) (p : Parameter) : Prop :=
  ∀ v, n.device.mapping? p = some v → v.Held n.device.attributes p.direction

theorem settlesMapping_resetCommunication {d : Device} (hn : n.device = d.resetCommunication)
    (p : Parameter) : n.SettlesMapping p := by
  intro v hv
  rw [hn, Device.mapping?_resetCommunication] at hv
  obtain ⟨v₀, _, rfl⟩ := Option.map_eq_some_iff.mp hv
  rw [hn, Device.attributes_resetCommunication]
  exact v₀.settled_restart _ _

theorem settlesMapping_start (id : NodeId) (d : Device) (p : Parameter) :
    (Node.start id d).SettlesMapping p :=
  settlesMapping_resetCommunication rfl p

theorem settlesMapping_of_settles (he : e.Settles n p) : (n.step e).SettlesMapping p := by
  rcases he with hreset | ⟨id, data, haddresses, hsub⟩
  · obtain ⟨d, hd⟩ := n.exists_resetCommunication hreset
    exact settlesMapping_resetCommunication hd p
  · intro v' hv'
    obtain ⟨ho, hanswered⟩ := answered_of_addresses haddresses
    obtain ⟨v, _, ⟨hne, _⟩ | ⟨_, hwritten⟩⟩ := hanswered.mapping ho hv'
    · exact absurd rfl hne
    · rw [attributes_step (keepsMaxSubs_of_addresses haddresses)]
      exact hwritten.settled_of_count rfl hsub

theorem settlesMapping_step (he : e.IsWrite) (hmax : n.KeepsMaxSubs e) (hupholds : e.Upholds n p)
    (h : n.SettlesMapping p) : (n.step e).SettlesMapping p := by
  intro v' hv'
  obtain ⟨v, hv, hchange⟩ := mapping_of_isWrite he hv'
  have hsettled := h v hv
  rw [attributes_step hmax]
  rcases hchange with hsame | ⟨id, data, outcome, haddresses, hwritten⟩
  · exact hsettled.of_same hsame
  · refine hsettled.written hwritten (hupholds.resolved id data outcome haddresses) fun hok => ?_
    rw [hok] at haddresses
    exact (hupholds.uncounted id data haddresses).imp_right fun hcount => hcount v hv

theorem holdsMapping_step (he : e.IsWrite) (hmax : n.KeepsMaxSubs e) (h : n.HoldsMapping p) :
    (n.step e).HoldsMapping p := by
  intro v' hv'
  obtain ⟨v, hv, hchange⟩ := mapping_of_isWrite he hv'
  have hheld := h v hv
  rw [attributes_step hmax]
  rcases hchange with hsame | ⟨id, data, outcome, _, hwritten⟩
  · exact hheld.of_same hsame
  · exact hheld.written hwritten

/-- **A communication reset puts the stored mapping parameters into effect, and keeps the mapping of a
PDO that has something mapped.**  It keeps the mapping of a PDO that has nothing mapped, too, if no
write has set the stored parameters apart from it.  Whatever is kept, sub index zero of the mapping
object reads the same before and after the reset.  The node was started on a device with any number of
fresh PDOs and any object dictionary, and has met any events; the last of them was a reset, or an
accepted number of entries of this PDO, or there was none.  Then came any writes to the object
dictionary, accepted or refused, which change no highest sub index of an object of the application. -/
theorem reset_keeps_mapping (id : NodeId) (rpdos tpdos : Nat) (dictionary : Dictionary)
    (past writes : List (Event σ)) {p : Parameter} {v : MappingState}
    (hpast : past = [] ∨ ∃ earlier e, past = earlier ++ [e] ∧
      e.Settles ((Node.start id (Device.fresh rpdos tpdos dictionary)).run earlier) p)
    (hwrites : ((Node.start id (Device.fresh rpdos tpdos dictionary)).run past).Along
      (fun m e => e.IsWrite ∧ m.KeepsMaxSubs e) writes)
    (hv : (((Node.start id (Device.fresh rpdos tpdos dictionary)).run past).run
      writes).device.mapping? p = some v) :
    let settled := (Node.start id (Device.fresh rpdos tpdos dictionary)).run past
    let n := settled.run writes
    n.resetCommunication.device.mapping? p = some (v.restart n.device.attributes p.direction) ∧
      (v.live.dataLen ≠ 0 ∨ settled.Along (fun m e => e.Upholds m p) writes →
        n.resetCommunication.device.mapping? p = some v ∧
          ∀ index, n.device.object index = .ok (.parameter p) → ∃ count,
            n.device.read ⟨index, 0⟩ 0 1 = .ok [count] ∧
            n.resetCommunication.device.read ⟨index, 0⟩ 0 1 = .ok [count]) := by
  intro settled n
  have hsettled : settled.SettlesMapping p := by
    rcases hpast with hnil | ⟨earlier, e, hpast, he⟩
    · show (Node.run _ past).SettlesMapping p
      rw [hnil]
      exact settlesMapping_start id _ p
    · show (Node.run _ past).SettlesMapping p
      rw [hpast, run_concat]
      exact settlesMapping_of_settles he
  have hreset : n.resetCommunication.device.mapping? p =
      some (v.restart n.device.attributes p.direction) := by
    show n.device.resetCommunication.mapping? p = _
    rw [Device.mapping?_resetCommunication, hv]
    rfl
  refine ⟨hreset, fun hkept => ?_⟩
  have hlive : v.Settled n.device.attributes p.direction := by
    rcases hkept with hmapped | hupholds
    · have hheld : n.HoldsMapping p :=
        along_invariant (I := fun m => m.HoldsMapping p) (fun m e he => holdsMapping_step he.1 he.2)
          hwrites fun v hv => .inr (hsettled v hv)
      exact (hheld v hv).resolve_left hmapped
    · have hkeeps : n.SettlesMapping p :=
        along_invariant (I := fun m => m.SettlesMapping p)
          (fun m e he => settlesMapping_step he.1.1 he.1.2 he.2) (along_and hwrites hupholds) hsettled
      exact hkeeps v hv
  rw [hlive.restart_eq] at hreset
  refine ⟨hreset, fun index ho => ⟨_, Device.read_mappingCount ho hv, ?_⟩⟩
  exact Device.read_mappingCount ho hreset

/-- A node that maps the number twice keeps its mapping.  So does one that has nothing mapped, and has
stored an entry that is not counted. -/
theorem reset_keeps_mapping_mapper :
    let start := Node.start .unconfigured (Device.fresh 1 0 mapperObjects)
    (∃ v, mapper.resetCommunication.device.mapping? (.rpdoMap 0) = some v ∧ v.live.dataLen = 8) ∧
      ∃ v, ((start.step (storeEntry 1)).resetCommunication.device.mapping? (.rpdoMap 0) = some v) ∧
        v.live = .empty := by
  intro start
  have ho : start.device.object 0x1600 = .ok (.parameter (.rpdoMap 0)) := rfl
  constructor
  · have hlive : (mapper.device.mapping? (.rpdoMap 0)).map (fun v => v.live.dataLen) = some 8 := rfl
    obtain ⟨v, hv, hlength⟩ := Option.map_eq_some_iff.mp hlive
    obtain ⟨_, hkept⟩ := reset_keeps_mapping .unconfigured 1 0 mapperObjects []
      [storeEntry 1, storeEntry 2, storeEntry 3, .write ⟨0x1600, 0⟩ [2]] (.inl rfl)
      (along_keepsMaxSubs ho (by simp [storeEntry])) hv
    exact ⟨v, (hkept (.inl (by omega))).1, hlength⟩
  · have hlive : ((start.step (storeEntry 1)).device.mapping? (.rpdoMap 0)).map MappingState.live =
        some .empty := rfl
    obtain ⟨v, hv, hempty⟩ := Option.map_eq_some_iff.mp hlive
    have hupholds : (storeEntry 1).Upholds start (.rpdoMap 0) := by
      constructor
      · intro id data outcome haddresses code d hunmapped
        cases haddresses with
        | whole _ _ => exact absurd hunmapped.sub_eq (by decide)
      · intro id data haddresses
        cases haddresses with
        | whole _ _ =>
            refine .inr fun v hv => ?_
            rw [← Option.some.inj hv]
            decide
    obtain ⟨_, hkept⟩ := reset_keeps_mapping .unconfigured 1 0 mapperObjects [] [storeEntry 1]
      (.inl rfl) (along_keepsMaxSubs ho (by simp [storeEntry])) hv
    exact ⟨v, (hkept (.inr ⟨hupholds, trivial⟩)).1, hempty⟩

/-- A configuration has the receive PDO map an object that there is not.  Nothing is mapped, but the
entry is counted; the entry that is written in its place is mapped by the reset. -/
theorem reset_maps_entry :
    let n := (Node.start .unconfigured (Device.fresh 1 0 mapperObjects)).run
      [.loadConfig { DeviceConfig.initial with
        nodeId := 1
        rpdos := [⟨none, 254, [0x21000020], 0⟩] }, storeEntry 1]
    (∃ v, n.device.mapping? (.rpdoMap 0) = some v ∧ v.live = .empty ∧
        n.device.read ⟨0x1600, 0⟩ 0 1 = .ok [0]) ∧
      ∃ v, n.resetCommunication.device.mapping? (.rpdoMap 0) = some v ∧ v.live.dataLen = 4 ∧
        n.resetCommunication.device.read ⟨0x1600, 0⟩ 0 1 = .ok [1] :=
  ⟨⟨_, rfl, rfl, rfl⟩, _, rfl, rfl, rfl⟩

end Node

end Canopen
