import Canopen.Proofs.Events
import Canopen.Proofs.Resolution

/-! # The objects that are mapped

A mapping is resolved once, when it is put into effect, and is used by every tick from then on.  The
values of the objects change in the meantime, but nothing that happens to a node changes which sub
objects there are and what they declare (`sameShape_step`).  So what the resolver has found out stays
true: every mapped sub object exists, may be mapped in the direction of the PDO, and is large enough
(`declared_run`). -/

namespace Canopen

/-! ### Sub objects -/

namespace Layout

theorem lookup_map_content (subs : List (UInt8 × SubObject)) (sub sub' : UInt8) (f : Field) :
    (subs.map fun (s, o) => (s, if s = sub then { o with field := f } else o)).lookup sub' =
      (subs.lookup sub').map fun o => if sub' = sub then { o with field := f } else o := by
  induction subs with
  | nil => rfl
  | cons entry subs ih =>
      obtain ⟨s, o⟩ := entry
      rw [List.map_cons, List.lookup_cons, List.lookup_cons]
      cases hs : sub' == s with
      | true =>
          rw [eq_of_beq hs]
          rfl
      | false => exact ih

theorem sub?_set_of_ne (l : Layout) {sub sub' : UInt8} (h : sub' ≠ sub) (f : Field) :
    (l.set sub f).sub? sub' = l.sub? sub' := by
  cases l with
  | var value =>
      simp only [set]
      by_cases hsub : sub = 0
      · have hsub' : sub' ≠ 0 := fun h0 => h (h0.trans hsub.symm)
        simp only [hsub, ↓reduceIte, sub?, hsub']
      · rw [if_neg hsub]
  | array info elements =>
      simp only [set]
      by_cases hsub : sub = 0
      · rw [if_pos hsub]
      · rw [if_neg hsub]
        simp only [sub?, List.length_set]
        by_cases hsub' : sub' = 0
        · rw [if_pos hsub', if_pos hsub']
        · have hne : sub.toNat - 1 ≠ sub'.toNat - 1 := by
            have h₁ : sub.toNat ≠ 0 := fun h0 => hsub (UInt8.toNat_inj.mp h0)
            have h₂ : sub'.toNat ≠ 0 := fun h0 => hsub' (UInt8.toNat_inj.mp h0)
            have h₃ : sub'.toNat ≠ sub.toNat := fun heq => h (UInt8.toNat_inj.mp heq)
            omega
          rw [if_neg hsub', if_neg hsub', List.getElem?_set_ne hne]
  | record code subs =>
      simp only [set, sub?, lookup_map_content, if_neg h, Option.map_id']

theorem sub?_set_self {l : Layout} {sub : UInt8} {s : SubObject} (h : l.sub? sub = some s)
    (hw : s.info.access.isWritable = true) (f : Field) :
    (l.set sub f).sub? sub = some { s with field := f } := by
  cases l with
  | var value =>
      simp only [sub?] at h
      split at h
      · rename_i hsub
        obtain rfl := Option.some.inj h
        simp only [set, hsub, ↓reduceIte, sub?]
      · cases h
  | array info elements =>
      simp only [sub?] at h
      split at h
      · -- the length of the array cannot be written
        obtain rfl := Option.some.inj h
        cases hw
      · rename_i hsub
        obtain ⟨f', hf', rfl⟩ := Option.map_eq_some_iff.mp h
        have hlt := (List.getElem?_eq_some_iff.mp hf').1
        simp only [set, hsub, ↓reduceIte, sub?, List.getElem?_set_self hlt, Option.map_some]
  | record code subs =>
      have hlookup : subs.lookup sub = some s := h
      simp only [set, sub?, lookup_map_content, hlookup, Option.map_some, ↓reduceIte]

theorem info_sub?_set (l : Layout) (sub sub' : UInt8) (f : Field) :
    ((l.set sub f).sub? sub').map SubObject.info = (l.sub? sub').map SubObject.info := by
  by_cases h : sub' = sub
  · subst h
    cases l with
    | var value =>
        simp only [set]
        split
        · rename_i hsub
          simp only [sub?, hsub, ↓reduceIte, Option.map_some]
        · rfl
    | array info elements =>
        simp only [set]
        split
        · rfl
        · rename_i hsub
          simp only [sub?, hsub, ↓reduceIte, Option.map_map]
          by_cases hlt : sub'.toNat - 1 < elements.length
          · rw [List.getElem?_set_self hlt, List.getElem?_eq_getElem hlt]
            rfl
          · rw [List.getElem?_eq_none (by simpa using hlt), List.getElem?_eq_none (by simpa using hlt)]
    | record code subs =>
        simp only [set, sub?, lookup_map_content, ↓reduceIte, Option.map_map]
        rfl
  · rw [l.sub?_set_of_ne h]

end Layout

theorem AppObject.info_sub?_store (o : AppObject) (i : Nat) (v : ScalarValue) (sub : UInt8) :
    ((o.store i v).layout.sub? sub).map SubObject.info =
      (o.layout.sub? sub).map SubObject.info := by
  obtain ⟨layout, leadingWrite⟩ := o
  cases layout with
  | var value =>
      simp only [store, Layout.sub?]
      split
      · rfl
      · rfl
  | array info elements =>
      simp only [store, Layout.sub?, List.length_modify, List.getElem?_modify]
      split
      · rfl
      · cases elements[sub.toNat - 1]? with
        | none => rfl
        | some f => rfl
  | record code subs => rfl

namespace Dictionary

/-! ### What a dictionary holds -/

/-- The parameter that an object shows, if it is a parameter object. -/
def parameter? (d : Dictionary) (index : UInt16) : Option Parameter :=
  match d.find? index with
  | some (.parameter p) => some p
  | _ => none

/-- A sub object of the application. -/
def sub? (d : Dictionary) (id : ObjectId) : Option SubObject :=
  (d.application? id.index).bind fun o => o.layout.sub? id.sub

/-- How an object of the application replaces the leading bytes of a value. -/
def leadingWrite? (d : Dictionary) (index : UInt16) : Option LeadingWrite :=
  (d.application? index).map AppObject.leadingWrite

/-- What a sub object declares. -/
def info? (d : Dictionary) (id : ObjectId) : Option SubInfo :=
  match d.parameter? id.index with
  | some p => p.subInfo? id.sub
  | none => (d.sub? id).map SubObject.info

/-- The resolver looks at the same declarations. -/
theorem info?_attributes (d : Dictionary) (rpdos tpdos : Nat) (id : ObjectId) :
    ((d.attributes rpdos tpdos id.index).bind fun o => o.info id.sub) = d.info? id := by
  unfold attributes info? parameter? sub? application?
  cases d.find? id.index with
  | none => rfl
  | some o =>
      cases o with
      | application o => rfl
      | parameter p => rfl

/-- Two dictionaries with the same sub objects, apart from the values of the application. -/
structure SameShape (d d' : Dictionary) : Prop where
  parameter : ∀ index, d'.parameter? index = d.parameter? index
  leadingWrite : ∀ index, d'.leadingWrite? index = d.leadingWrite? index
  info : ∀ id, (d'.sub? id).map SubObject.info = (d.sub? id).map SubObject.info

theorem SameShape.refl (d : Dictionary) : d.SameShape d := ⟨fun _ => rfl, fun _ => rfl, fun _ => rfl⟩

theorem SameShape.trans {d₁ d₂ d₃ : Dictionary} (h : d₁.SameShape d₂) (h' : d₂.SameShape d₃) :
    d₁.SameShape d₃ where
  parameter index := (h'.parameter index).trans (h.parameter index)
  leadingWrite index := (h'.leadingWrite index).trans (h.leadingWrite index)
  info id := (h'.info id).trans (h.info id)

theorem SameShape.info?_eq {d d' : Dictionary} (h : d.SameShape d') (id : ObjectId) :
    d'.info? id = d.info? id := by
  unfold info?
  rw [h.parameter, h.info]

/-! ### Replacing an object -/

theorem find?_set (d : Dictionary) (index i : UInt16) (o : AppObject) :
    (d.set index o).find? i =
      (d.find? i).map fun object => if i = index then .application o else object := by
  obtain ⟨entries⟩ := d
  unfold set find?
  dsimp only
  induction entries with
  | nil => rfl
  | cons e entries ih =>
      have hindex : (if e.index = index then ⟨e.index, .application o⟩ else e : Entry).index =
          e.index := by
        split
        · rfl
        · rfl
      rw [List.map_cons, List.find?_cons, List.find?_cons, hindex]
      cases he : e.index == i with
      | true =>
          rw [← eq_of_beq he]
          by_cases hi : e.index = index
          · rw [if_pos hi]
            simp only [Option.map_some, hi, ↓reduceIte]
          · rw [if_neg hi]
            simp only [Option.map_some, hi, ↓reduceIte]
      | false => exact ih

variable {d : Dictionary} {index : UInt16} {o o' : AppObject}

theorem find?_of_application? (h : d.application? index = some o) :
    d.find? index = some (.application o) := by
  unfold application? at h
  split at h
  · rename_i o' ho'
    rw [ho', Option.some.inj h]
  · cases h

theorem application?_set (h : d.application? index = some o) (i : UInt16) :
    (d.set index o').application? i = if i = index then some o' else d.application? i := by
  unfold application?
  rw [find?_set]
  by_cases hi : i = index
  · rw [hi, find?_of_application? h]
    simp only [Option.map_some, ↓reduceIte]
  · simp only [if_neg hi, Option.map_id']

theorem parameter?_set (h : d.application? index = some o) (i : UInt16) :
    (d.set index o').parameter? i = d.parameter? i := by
  unfold parameter?
  rw [find?_set]
  by_cases hi : i = index
  · rw [hi, find?_of_application? h]
    simp only [Option.map_some, ↓reduceIte]
  · simp only [if_neg hi, Option.map_id']

/-- An object is replaced by one that declares the same. -/
theorem sameShape_set (h : d.application? index = some o)
    (hleading : o'.leadingWrite = o.leadingWrite)
    (hinfo : ∀ sub, (o'.layout.sub? sub).map SubObject.info =
      (o.layout.sub? sub).map SubObject.info) : d.SameShape (d.set index o') where
  parameter := parameter?_set h
  leadingWrite i := by
    unfold leadingWrite?
    rw [application?_set h]
    by_cases hi : i = index
    · rw [if_pos hi, hi, h, Option.map_some, Option.map_some, hleading]
    · rw [if_neg hi]
  info id := by
    unfold sub?
    rw [application?_set h]
    by_cases hi : id.index = index
    · rw [if_pos hi, hi, h]
      exact hinfo id.sub
    · rw [if_neg hi]

theorem sameShape_set_content (h : d.application? index = some o) (sub : UInt8) (f : Field) :
    d.SameShape (d.set index (o.set sub f)) :=
  sameShape_set h rfl fun sub' => o.layout.info_sub?_set sub sub' f

theorem sameShape_writeLeading {d' : Dictionary} {id : ObjectId} {data : Bytes}
    (h : d.writeLeading id data = .ok d') : d.SameShape d' := by
  unfold writeLeading at h
  split at h
  · rename_i o ho
    cases hwrite : o.writeLeading id.sub data with
    | error e =>
        rw [hwrite] at h
        cases h
    | ok o' =>
        rw [hwrite] at h
        obtain rfl := Except.ok.inj h
        obtain ⟨f, rfl⟩ := AppObject.exists_set_of_writeLeading hwrite
        exact sameShape_set_content ho id.sub f
  · cases h

theorem sameShape_deliver (d : Dictionary) (t : Target) (chunk : Bytes) :
    d.SameShape (t.deliver d chunk) := by
  unfold Target.deliver
  split
  · split
    · rename_i d' hd'
      exact sameShape_writeLeading hd'
    · exact .refl d
  · exact .refl d

theorem sameShape_scatterTargets (d : Dictionary) (ts : List Target) (data : Bytes) :
    d.SameShape (scatterTargets d ts data) := by
  induction ts generalizing d data with
  | nil => exact .refl d
  | cons t ts ih => exact (d.sameShape_deliver t _).trans (ih _ _)

theorem sameShape_scatterAll (d : Dictionary) (payloads : List (MappedPdo × Payload)) :
    d.SameShape (d.scatterAll payloads) := by
  induction payloads generalizing d with
  | nil => exact .refl d
  | cons p payloads ih => exact (d.sameShape_scatterTargets _ _).trans (ih _)

end Dictionary

/-! ### Devices and nodes -/

namespace Device

theorem sameShape_tickRpdos (syncOccurred toggle : Bool) (nmt : NmtState) (rs : List Rpdo)
    (objects : Dictionary) :
    objects.SameShape (tickRpdos syncOccurred toggle nmt rs objects).2.2 := by
  rw [tickRpdos_objects]
  exact objects.sameShape_scatterAll _

theorem sameShape_written {d d' : Device} (h : d.Written d') :
    d.dictionary.SameShape d'.dictionary := by
  cases h with
  | application ho => exact Dictionary.sameShape_set_content ho _ _
  | refused => exact .refl _
  | sync _ => exact .refl _
  | rpdoComm _ _ => exact .refl _
  | tpdoComm _ _ => exact .refl _
  | rpdoMap _ _ => exact .refl _
  | tpdoMap _ _ => exact .refl _

theorem sameShape_store (d : Device) (index : UInt16) (i : Nat) (v : ScalarValue) :
    d.dictionary.SameShape (d.store index i v).dictionary := by
  unfold store
  split
  · rename_i o ho
    refine Dictionary.sameShape_set ho ?_ (o.info_sub?_store i v)
    unfold AppObject.store
    split
    · rfl
    · rfl
    · rfl
  · exact .refl _

theorem dictionary_receive (d : Device) (f : Frame) :
    (d.receive f).2.dictionary = d.dictionary := by
  have h := d.receive_received f
  generalize (d.receive f).1 = reception at h
  generalize (d.receive f).2 = d' at h ⊢
  cases h with
  | sync _ => rfl
  | accepted _ _ _ _ => rfl
  | dropped _ _ _ _ => rfl
  | unclaimed _ => rfl

end Device

namespace Node

variable {σ : Type} [Transport σ]

/-- No event changes which sub objects there are, and what they declare. -/
theorem sameShape_step (n : Node) (e : Event σ) :
    n.device.dictionary.SameShape (n.step e).device.dictionary := by
  cases e with
  | tick now link => exact Device.sameShape_tickRpdos _ _ _ _ _
  | frame f =>
      show n.device.dictionary.SameShape (n.device.receive f).2.dictionary
      rw [Device.dictionary_receive]
      exact .refl _
  | write id data => exact Device.sameShape_written (n.device.write_written id data)
  | writeLeading id data => exact Device.sameShape_written (n.device.writeLeading_written id data)
  | store index i v => exact n.device.sameShape_store index i v
  | requestSend _ => exact .refl _
  | setNmt _ => exact .refl _
  | setNodeId _ => exact .refl _
  | reset => exact .refl _
  | loadConfig c =>
      have h : (n.loadConfig c).device.dictionary = n.device.dictionary := by
        unfold loadConfig
        cases NodeId.ofRaw c.nodeId <;> rfl
      show n.device.dictionary.SameShape (n.loadConfig c).device.dictionary
      rw [h]
      exact .refl _

end Node

/-! ### Mapped objects -/

namespace MappedPdo

/-- Every mapped sub object exists, may be mapped in the given direction, and is large enough. -/
def Declared (m : MappedPdo) (d : Dictionary) (direction : Direction) : Prop :=
  ∀ id len multibyte, .object id len multibyte ∈ m.targets →
    ∃ info, d.info? id = some info ∧ direction.permits info = true ∧ len ≤ info.size

variable {d : Dictionary} {rpdos tpdos : Nat} {direction : Direction}

theorem declared_empty (d : Dictionary) (direction : Direction) : empty.Declared d direction :=
  fun _ _ _ h => by cases h

theorem Declared.of_sameShape {m : MappedPdo} {d' : Dictionary} (hm : m.Declared d direction)
    (h : d.SameShape d') : m.Declared d' direction := by
  intro id len multibyte ht
  obtain ⟨info, hinfo, hpermits, hlen⟩ := hm id len multibyte ht
  exact ⟨info, (h.info?_eq id).trans hinfo, hpermits, hlen⟩

theorem declared_resolveEntry {desc : MappingDescriptor} {mapped : Nat} {e : ResolvedEntry}
    (h : resolveEntry (d.attributes rpdos tpdos) direction desc mapped = .ok e) {id : ObjectId}
    {len : Nat} {multibyte : Bool} (he : e.target = .object id len multibyte) :
    ∃ info, d.info? id = some info ∧ direction.permits info = true ∧ len ≤ info.size := by
  unfold resolveEntry at h
  dsimp only at h
  split at h
  · cases h
  split at h
  · cases h
  split at h
  · split at h
    · cases h
    · cases h
      cases he
  split at h
  · cases h
  rename_i object hobject
  split at h
  · cases h
  split at h
  · cases h
  rename_i info hinfo
  split at h
  · rename_i hok
    rw [Bool.and_eq_true, decide_eq_true_eq] at hok
    cases h
    obtain ⟨rfl, rfl, _⟩ := Target.object.inj he
    refine ⟨info, ?_, hok⟩
    rw [← d.info?_attributes rpdos tpdos]
    show (d.attributes rpdos tpdos desc.index).bind _ = _
    rw [hobject]
    exact hinfo
  · cases h

theorem declared_resolve {ds : List MappingDescriptor} {m : MappedPdo}
    (h : resolve (d.attributes rpdos tpdos) direction ds = .ok m) : m.Declared d direction := by
  refine resolve_induction (P := fun m => m.Declared d direction) (declared_empty d direction) ?_ h
  intro m m' desc hm hextend
  obtain ⟨e, he, hextend⟩ := exists_of_bind_eq_ok hextend
  split at hextend
  · cases hextend
    intro id len multibyte ht
    rcases List.mem_append.mp ht with ht | ht
    · exact hm id len multibyte ht
    · exact declared_resolveEntry he (List.mem_singleton.mp ht).symm
  · cases hextend

end MappedPdo

theorem PdoParams.declared_liveMapping (p : PdoParams) (d : Device) (direction : Direction)
    (count : UInt8) : (p.liveMapping d.attributes direction count).Declared d.dictionary direction := by
  unfold liveMapping
  split
  · rename_i m hm
    exact MappedPdo.declared_resolve hm
  · exact MappedPdo.declared_empty _ _

theorem Rpdo.declared_applyMapping {r : Rpdo} {d : Device}
    (h : r.mapping.Declared d.dictionary .receive) (errors : ErrorStatus) (w : MappingWrite) :
    (r.applyMapping d.attributes errors w).pdo.mapping.Declared d.dictionary .receive := by
  cases w with
  | entry i w => exact h
  | count n =>
      obtain ⟨_, hpdo⟩ := r.exists_applyMapping_count d.attributes errors n
      rw [hpdo]
      exact r.params.declared_liveMapping d .receive n

theorem Tpdo.declared_applyMapping {t : Tpdo} {d : Device}
    (h : t.mapping.Declared d.dictionary .transmit) (errors : ErrorStatus) (w : MappingWrite) :
    (t.applyMapping d.attributes errors w).pdo.mapping.Declared d.dictionary .transmit := by
  cases w with
  | entry i w => exact h
  | count n =>
      obtain ⟨_, hpdo⟩ := t.exists_applyMapping_count d.attributes errors n
      rw [hpdo]
      exact t.params.declared_liveMapping d .transmit n

/-- All mappings are of objects that are declared for it. -/
structure Device.Declared (d : Device) : Prop where
  rpdos : ∀ r ∈ d.rpdos, r.mapping.Declared d.dictionary .receive
  tpdos : ∀ t ∈ d.tpdos, t.mapping.Declared d.dictionary .transmit

theorem Device.declared_resetCommunication (d : Device) : d.resetCommunication.Declared where
  rpdos := by
    intro r hr
    rw [resetCommunication_rpdos] at hr
    obtain ⟨r₀, _, rfl⟩ := List.mem_map.mp hr
    unfold Rpdo.restart Rpdo.reset
    simp only [Rpdo.configureMapping_pdo]
    exact r₀.params.declared_liveMapping d .receive _
  tpdos := by
    intro t ht
    rw [resetCommunication_tpdos] at ht
    obtain ⟨t₀, _, rfl⟩ := List.mem_map.mp ht
    unfold Tpdo.restart Tpdo.reset
    simp only [Tpdo.configureMapping_pdo]
    exact t₀.params.declared_liveMapping d .transmit _

section step
variable {σ : Type} {n : Node} {k : Nat} {e : Event σ}

theorem Rpdo.Stepped.declared {r r' : Rpdo} (h : r.Stepped n k e r') (he : ¬ e.IsReset)
    (hr : r.mapping.Declared n.device.dictionary .receive) :
    r'.mapping.Declared n.device.dictionary .receive := by
  rcases h.mapping_cases he with ⟨hmapping, _⟩ | ⟨_, _, w, _, rfl⟩
  · rw [hmapping]
    exact hr
  · exact declared_applyMapping hr _ _

theorem Tpdo.Stepped.declared [Transport σ] {t t' : Tpdo} (h : t.Stepped n k e t') (he : ¬ e.IsReset)
    (ht : t.mapping.Declared n.device.dictionary .transmit) :
    t'.mapping.Declared n.device.dictionary .transmit := by
  rcases h.mapping_cases he with ⟨hmapping, _⟩ | ⟨_, _, w, _, rfl⟩
  · rw [hmapping]
    exact ht
  · exact declared_applyMapping ht _ _

end step

namespace Node

variable {σ : Type} [Transport σ] {n : Node} {e : Event σ}

theorem exists_resetCommunication (n : Node) (h : e.IsReset) :
    ∃ d : Device, (n.step e).device = d.resetCommunication := by
  cases e with
  | setNodeId id => exact ⟨_, rfl⟩
  | reset => exact ⟨_, rfl⟩
  | loadConfig c =>
      obtain ⟨_, d, hd, _⟩ := n.exists_of_loadConfig c
      exact ⟨d, hd⟩
  | _ => cases h

theorem declared_step (n : Node) (e : Event σ) (h : n.device.Declared) :
    (n.step e).device.Declared := by
  by_cases he : e.IsReset
  · obtain ⟨d, hd⟩ := n.exists_resetCommunication he
    rw [hd]
    exact d.declared_resetCommunication
  · have hshape := n.sameShape_step e
    constructor
    · intro r' hr'
      obtain ⟨k, hk⟩ := List.mem_iff_getElem?.mp hr'
      obtain ⟨r, hr, hstep⟩ := rpdo_step hk
      exact (hstep.declared he (h.rpdos r (List.mem_of_getElem? hr))).of_sameShape hshape
    · intro t' ht'
      obtain ⟨k, hk⟩ := List.mem_iff_getElem?.mp ht'
      obtain ⟨t, ht, hstep⟩ := tpdo_step hk
      exact (hstep.declared he (h.tpdos t (List.mem_of_getElem? ht))).of_sameShape hshape

/-- Whatever has happened to a node, its PDOs map objects that are declared for it. -/
theorem declared_run (id : NodeId) (rpdos tpdos : Nat) (dictionary : Dictionary)
    (es : List (Event σ)) :
    ((Node.start id (Device.fresh rpdos tpdos dictionary)).run es).device.Declared :=
  run_invariant (I := fun n => n.device.Declared) declared_step
    (Device.declared_resetCommunication _) es

end Node

end Canopen
