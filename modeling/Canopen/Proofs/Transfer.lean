import Canopen.Proofs.MappedObjects

/-! # The bytes of a frame

A transmit PDO fills its frame with the low bytes of the mapped numbers, one after the other
(`gatherTargets_eq`).  A receive PDO with the same entry lengths puts each of these byte strings into
the low bytes of the number at the same position (`sub?_scatterTargets`), and changes no other object
(`sub?_scatterTargets_of_not_mem`).  Numbers are ready for this if they were accepted by the resolver
and have the size that they declare (`Declared.ready`). -/

namespace Canopen

/-! ### Filling and emptying a frame -/

theorem Direction.isReadable_of_permits {info : SubInfo}
    (h : Direction.transmit.permits info = true) : info.access.isReadable = true := by
  simp only [permits, Bool.and_eq_true] at h
  exact h.1

theorem Direction.isWritable_of_permits {info : SubInfo}
    (h : Direction.receive.permits info = true) : info.access.isWritable = true := by
  simp only [permits, Bool.and_eq_true] at h
  exact h.1

theorem Field.read_zero {f : Field} {len : Nat} (h : len ≤ f.size) :
    f.read 0 len = .ok (f.bytes.take len) := by
  cases f with
  | flag value =>
      have hlen : ¬ (0 ≠ 0 ∨ 1 < len) := by
        have hsize : len ≤ 1 := h
        omega
      unfold read
      dsimp only
      rw [if_neg hlen]
      rfl
  | _ => rfl

namespace Target

/-- The object that is mapped, unless the entry is a dummy. -/
def object? : Target → Option ObjectId
  | object id _ _ => some id
  | dummy _ _ => none

/-- The low bytes of the mapped value; zeros for a dummy. -/
def low (d : Dictionary) : Target → Bytes
  | object id len _ => ((d.sub? id).elim [] fun s => s.field.bytes).take len
  | dummy _ len => Bytes.zeros len

/-- A mapped number that is accessible in the given direction and large enough, in an object whose
values are written in place. -/
def Ready (d : Dictionary) (direction : Direction) : Target → Prop
  | object id len _ => d.leadingWrite? id.index = some .inPlace ∧
      ∃ info type bytes, d.sub? id = some ⟨info, .number type bytes⟩ ∧
        direction.permits info = true ∧ len ≤ bytes.length
  | dummy _ _ => True

/-- A mapped value that can be read and has the bytes that the entry takes of it. -/
def Readable (d : Dictionary) : Target → Prop
  | object id len _ =>
      ∃ s, d.sub? id = some s ∧ s.info.access.isReadable = true ∧ len ≤ s.field.size
  | dummy _ _ => True

variable {d : Dictionary} {t : Target}

theorem Ready.readable (ht : t.Ready d .transmit) : t.Readable d := by
  cases t with
  | dummy _ _ => trivial
  | object id len multibyte =>
      obtain ⟨_, info, type, bytes, hsub, hpermits, hlen⟩ := ht
      exact ⟨_, hsub, Direction.isReadable_of_permits hpermits, hlen⟩

theorem low_object {id : ObjectId} {s : SubObject} (h : d.sub? id = some s) (len : Nat)
    (multibyte : Bool) : (object id len multibyte).low d = s.field.bytes.take len := by
  unfold low
  dsimp only
  rw [h]
  rfl

theorem length_low (ht : t.Readable d) : (t.low d).length = t.len := by
  cases t with
  | dummy _ len => exact Bytes.length_zeros len
  | object id len multibyte =>
      obtain ⟨s, hsub, _, hlen⟩ := ht
      rw [low_object hsub]
      show (s.field.bytes.take len).length = len
      rw [List.length_take]
      exact Nat.min_eq_left hlen

theorem fetch_eq_low (ht : t.Readable d) {chunk : Bytes} (hchunk : chunk.length = t.len) :
    t.fetch d chunk = t.low d := by
  cases t with
  | dummy _ len => exact congrArg Bytes.zeros hchunk
  | object id len multibyte =>
      have hlow := length_low ht
      obtain ⟨s, hsub, hreadable, hlen⟩ := ht
      obtain ⟨o, ho, hs⟩ := Option.bind_eq_some_iff.mp hsub
      rw [low_object hsub] at hlow ⊢
      have hread : d.read id 0 chunk.length = .ok (s.field.bytes.take len) := by
        simp only [Dictionary.read, ho, AppObject.read, AppObject.sub, hs]
        show s.read 0 chunk.length = _
        unfold SubObject.read
        rw [if_pos hreadable, hchunk]
        exact Field.read_zero hlen
      unfold fetch
      dsimp only
      rw [hread]
      exact Bytes.overlay_of_length_le (Nat.le_of_eq (hchunk.trans hlow.symm))

theorem totalLen_congr {ts ts' : List Target} (h : ts.map len = ts'.map len) :
    totalLen ts = totalLen ts' := by
  induction ts generalizing ts' with
  | nil =>
      cases ts' with
      | nil => rfl
      | cons t' ts' => cases h
  | cons t ts ih =>
      cases ts' with
      | nil => cases h
      | cons t' ts' =>
          obtain ⟨ht, hts⟩ := List.cons.inj h
          rw [totalLen, totalLen, ht, ih hts]

theorem map_length_low {ts : List Target} (hts : ∀ t ∈ ts, t.Readable d) :
    (ts.map (low d)).map List.length = ts.map len := by
  rw [List.map_map]
  exact List.map_congr_left fun t ht => length_low (hts t ht)

theorem length_flatten_low {ts : List Target} (hts : ∀ t ∈ ts, t.Readable d) :
    (ts.map (low d)).flatten.length = totalLen ts := by
  induction ts with
  | nil => rfl
  | cons t ts ih =>
      rw [List.map_cons, List.flatten_cons, List.length_append, totalLen,
        length_low (hts t List.mem_cons_self), ih fun t ht => hts t (List.mem_cons_of_mem _ ht)]

end Target

/-- A frame is filled with the low bytes of the values, one after the other. -/
theorem gatherTargets_eq {d : Dictionary} {ts : List Target} {buffer : Bytes}
    (hts : ∀ t ∈ ts, t.Readable d) (hlen : Target.totalLen ts ≤ buffer.length) :
    gatherTargets d ts buffer =
      (ts.map (Target.low d)).flatten ++ buffer.drop (Target.totalLen ts) := by
  induction ts generalizing buffer with
  | nil => rfl
  | cons t ts ih =>
      rw [Target.totalLen] at hlen ⊢
      have hchunk : (buffer.take t.len).length = t.len := by
        rw [List.length_take]
        omega
      have hrest : Target.totalLen ts ≤ (buffer.drop t.len).length := by
        rw [List.length_drop]
        omega
      rw [gatherTargets, Target.fetch_eq_low (hts t List.mem_cons_self) hchunk,
        ih (fun t ht => hts t (List.mem_cons_of_mem _ ht)) hrest, List.map_cons,
        List.flatten_cons, List.append_assoc, List.drop_drop]

namespace Dictionary

variable {d : Dictionary}

theorem sub?_set {index : UInt16} {o o' : AppObject} (h : d.application? index = some o)
    (id : ObjectId) : (d.set index o').sub? id =
      if id.index = index then o'.layout.sub? id.sub else d.sub? id := by
  unfold sub?
  rw [application?_set h]
  split
  · rfl
  · rfl

theorem sub?_deliver_of_ne {t : Target} {id : ObjectId} (h : t.object? ≠ some id) (chunk : Bytes) :
    (t.deliver d chunk).sub? id = d.sub? id := by
  cases t with
  | dummy _ _ => rfl
  | object target len multibyte =>
      have hne : id ≠ target := fun heq => h (congrArg some heq.symm)
      unfold Target.deliver
      dsimp only
      cases hwrite : d.writeLeading target chunk with
      | error e => rfl
      | ok d' =>
          unfold writeLeading at hwrite
          split at hwrite
          · rename_i o ho
            cases hobject : o.writeLeading target.sub chunk with
            | error e =>
                rw [hobject] at hwrite
                cases hwrite
            | ok o' =>
                rw [hobject] at hwrite
                obtain rfl := Except.ok.inj hwrite
                obtain ⟨f, rfl⟩ := AppObject.exists_set_of_writeLeading hobject
                show (d.set target.index (o.set target.sub f)).sub? id = _
                rw [sub?_set ho]
                split
                · rename_i hindex
                  have hsub : id.sub ≠ target.sub := fun hsub => hne (by
                    obtain ⟨_, _⟩ := id
                    obtain ⟨_, _⟩ := target
                    cases hindex
                    cases hsub
                    rfl)
                  unfold sub?
                  rw [hindex, ho]
                  exact o.layout.sub?_set_of_ne hsub f
                · rfl
          · cases hwrite

theorem sub?_deliver_self {id : ObjectId} {len : Nat} {multibyte : Bool} {info : SubInfo}
    {type : NumberType} {bytes chunk : Bytes} (hleading : d.leadingWrite? id.index = some .inPlace)
    (hsub : d.sub? id = some ⟨info, .number type bytes⟩)
    (hpermits : Direction.receive.permits info = true) (hlen : chunk.length ≤ bytes.length) :
    ((Target.object id len multibyte).deliver d chunk).sub? id =
      some ⟨info, .number type (chunk.overlay bytes)⟩ := by
  obtain ⟨o, ho, hs⟩ := Option.bind_eq_some_iff.mp hsub
  have hwritable : info.access.isWritable = true := by
    simp only [Direction.permits, Bool.and_eq_true] at hpermits
    exact hpermits.1
  have hinPlace : o.leadingWrite = .inPlace := by
    unfold leadingWrite? at hleading
    rw [ho] at hleading
    exact Option.some.inj hleading
  have hfield : SubObject.writeLeading ⟨info, .number type bytes⟩ chunk =
      .ok (.number type (chunk.overlay bytes)) := by
    simp only [SubObject.writeLeading, hwritable, ↓reduceIte, Field.writeLeading,
      if_neg (Nat.not_lt.mpr hlen)]
  have hobject : o.writeLeading id.sub chunk =
      .ok (o.set id.sub (.number type (chunk.overlay bytes))) := by
    simp only [AppObject.writeLeading, hinPlace, AppObject.sub, hs]
    show (SubObject.writeLeading ⟨info, .number type bytes⟩ chunk >>= fun f =>
      Except.ok (o.set id.sub f)) = _
    rw [hfield]
    rfl
  have hwrite : d.writeLeading id chunk =
      .ok (d.set id.index (o.set id.sub (.number type (chunk.overlay bytes)))) := by
    simp only [writeLeading, ho, hobject]
    rfl
  unfold Target.deliver
  dsimp only
  rw [hwrite]
  dsimp only
  rw [sub?_set ho, if_pos rfl]
  exact Layout.sub?_set_self hs hwritable _

theorem ready_deliver {t t' : Target} {direction : Direction} (ht' : t'.Ready d direction)
    (h : ∀ id, t'.object? = some id → t.object? ≠ some id) (chunk : Bytes) :
    t'.Ready (t.deliver d chunk) direction := by
  cases t' with
  | dummy _ _ => trivial
  | object id len multibyte =>
      obtain ⟨hleading, info, type, bytes, hsub, hpermits, hlen⟩ := ht'
      refine ⟨?_, info, type, bytes, ?_, hpermits, hlen⟩
      · rw [(d.sameShape_deliver t chunk).leadingWrite]
        exact hleading
      · rw [sub?_deliver_of_ne (h id rfl)]
        exact hsub

/-- The bytes of a frame leave every object alone that is not mapped. -/
theorem sub?_scatterTargets_of_not_mem {ts : List Target} {id : ObjectId}
    (h : id ∉ ts.filterMap Target.object?) (d : Dictionary) (data : Bytes) :
    (scatterTargets d ts data).sub? id = d.sub? id := by
  induction ts generalizing d data with
  | nil => rfl
  | cons t ts ih =>
      have ht : t.object? ≠ some id := fun heq =>
        h (List.mem_filterMap.mpr ⟨t, List.mem_cons_self, heq⟩)
      have hts : id ∉ ts.filterMap Target.object? := by
        intro hmem
        obtain ⟨t', ht', heq⟩ := List.mem_filterMap.mp hmem
        exact h (List.mem_filterMap.mpr ⟨t', List.mem_cons_of_mem _ ht', heq⟩)
      exact (ih hts _ _).trans (sub?_deliver_of_ne ht _)

/-- Each mapped number takes its bytes of the frame as its low bytes, if no object is mapped twice. -/
theorem sub?_scatterTargets {ts : List Target} {values : List Bytes} (rest : Bytes)
    (hts : ∀ t ∈ ts, t.Ready d .receive) (hdistinct : (ts.filterMap Target.object?).Nodup)
    (hlengths : values.map List.length = ts.map Target.len) {i : Nat} {id : ObjectId} {len : Nat}
    {multibyte : Bool} {value : Bytes} (ht : ts[i]? = some (.object id len multibyte))
    (hvalue : values[i]? = some value) :
    ∃ info type bytes, d.sub? id = some ⟨info, .number type bytes⟩ ∧
      (scatterTargets d ts (values.flatten ++ rest)).sub? id =
        some ⟨info, .number type (value.overlay bytes)⟩ := by
  induction ts generalizing d values i with
  | nil => cases ht
  | cons t ts ih =>
      cases values with
      | nil => cases hvalue
      | cons v vs =>
          obtain ⟨hv, hvs⟩ := List.cons.inj hlengths
          have htake : ((v :: vs).flatten ++ rest).take t.len = v := by
            rw [List.flatten_cons, List.append_assoc, List.take_left' hv]
          have hdrop : ((v :: vs).flatten ++ rest).drop t.len = vs.flatten ++ rest := by
            rw [List.flatten_cons, List.append_assoc, List.drop_left' hv]
          rw [scatterTargets, htake, hdrop]
          -- an object of the remaining entries is not the one of this entry
          have hother : ∀ t' ∈ ts, ∀ id, t'.object? = some id → t.object? ≠ some id := by
            intro t' ht' id hid heq
            rw [List.filterMap_cons_some heq, List.nodup_cons] at hdistinct
            exact hdistinct.1 (List.mem_filterMap.mpr ⟨t', ht', hid⟩)
          have hdistinct' : (ts.filterMap Target.object?).Nodup := by
            cases heq : t.object? with
            | none =>
                rw [List.filterMap_cons_none heq] at hdistinct
                exact hdistinct
            | some id =>
                rw [List.filterMap_cons_some heq, List.nodup_cons] at hdistinct
                exact hdistinct.2
          cases i with
          | zero =>
              obtain rfl := Option.some.inj ht
              obtain rfl := Option.some.inj hvalue
              obtain ⟨hleading, info, type, bytes, hsub, hpermits, hlen⟩ :=
                hts _ List.mem_cons_self
              have hnotin : id ∉ ts.filterMap Target.object? := by
                intro hmem
                obtain ⟨t', ht', hid⟩ := List.mem_filterMap.mp hmem
                exact hother t' ht' id hid rfl
              refine ⟨info, type, bytes, hsub, ?_⟩
              rw [sub?_scatterTargets_of_not_mem hnotin]
              exact sub?_deliver_self hleading hsub hpermits (Nat.le_trans (Nat.le_of_eq hv) hlen)
          | succ i =>
              have ht' : ts[i]? = some (.object id len multibyte) := ht
              have hmem := List.mem_of_getElem? ht'
              have hready : ∀ t' ∈ ts, t'.Ready (t.deliver d v) .receive := fun t' ht' =>
                ready_deliver (hts t' (List.mem_cons_of_mem _ ht')) (hother t' ht') v
              obtain ⟨info, type, bytes, hsub, hafter⟩ := ih hready hdistinct' hvs ht' hvalue
              rw [sub?_deliver_of_ne (hother _ hmem id rfl)] at hsub
              exact ⟨info, type, bytes, hsub, hafter⟩

end Dictionary

/-! ### Mapped numbers -/

namespace Dictionary

variable {d : Dictionary} {id : ObjectId}

theorem parameter?_of_sub? {s : SubObject} (h : d.sub? id = some s) :
    d.parameter? id.index = none := by
  obtain ⟨o, ho, _⟩ := Option.bind_eq_some_iff.mp h
  unfold parameter?
  rw [find?_of_application? ho]

theorem info?_of_sub? {s : SubObject} (h : d.sub? id = some s) : d.info? id = some s.info := by
  unfold info?
  rw [parameter?_of_sub? h, h]
  rfl

/-- The sub object is a number that has the size that it declares, in an object whose values are
written in place. -/
def HoldsNumber (d : Dictionary) (id : ObjectId) : Prop :=
  d.leadingWrite? id.index = some .inPlace ∧
    ∃ info type bytes, d.sub? id = some ⟨info, .number type bytes⟩ ∧ info.size = bytes.length

end Dictionary

namespace MappedPdo

/-- The objects that are mapped. -/
def objects (m : MappedPdo) : List ObjectId := m.targets.filterMap Target.object?

/-- The lengths of the entries. -/
def lengths (m : MappedPdo) : List Nat := m.targets.map Target.len

/-- What a mapping takes from a dictionary fits what another mapping has in its own: the entries have
the same lengths and are numbers or dummies, and no object receives two of them. -/
structure Feeds (source : MappedPdo) (d : Dictionary) (sink : MappedPdo) (d' : Dictionary) : Prop where
  sources : ∀ id ∈ source.objects, d.HoldsNumber id
  sinks : ∀ id ∈ sink.objects, d'.HoldsNumber id
  lengths : source.lengths = sink.lengths
  distinct : sink.objects.Nodup

variable {m : MappedPdo} {d : Dictionary} {direction : Direction}

theorem Declared.ready (hm : m.Declared d direction) (hnumbers : ∀ id ∈ m.objects, d.HoldsNumber id) :
    ∀ t ∈ m.targets, t.Ready d direction := by
  intro t ht
  cases t with
  | dummy _ _ => trivial
  | object id len multibyte =>
      obtain ⟨info', hinfo, hpermits, hlen⟩ := hm id len multibyte ht
      obtain ⟨hleading, info, type, bytes, hsub, hsize⟩ :=
        hnumbers id (List.mem_filterMap.mpr ⟨_, ht, rfl⟩)
      rw [Dictionary.info?_of_sub? hsub] at hinfo
      obtain rfl := Option.some.inj hinfo
      exact ⟨hleading, info, type, bytes, hsub, hpermits, hsize ▸ hlen⟩

theorem WellFormed.dataLen_congr {m' : MappedPdo} (hm : m.WellFormed) (hm' : m'.WellFormed)
    (h : m.lengths = m'.lengths) : m.dataLen = m'.dataLen := by
  rw [hm.dataLen_eq, hm'.dataLen_eq]
  exact Target.totalLen_congr h

end MappedPdo

/-- A transmit PDO sends the low bytes of the mapped numbers. -/
theorem Tpdo.bytes_live {t : Tpdo} {d : Dictionary} (hm : t.mapping.WellFormed)
    (hready : ∀ s ∈ t.mapping.targets, s.Readable d) :
    (t.live d).bytes = (t.mapping.targets.map (Target.low d)).flatten ++
      (Bytes.zeros maxDataLength).drop t.mapping.dataLen := by
  have hle : t.mapping.dataLen ≤ maxDataLength := hm.dataLen_le
  have hgather : t.mapping.gather d (Bytes.zeros maxDataLength) =
      (t.mapping.targets.map (Target.low d)).flatten ++
        (Bytes.zeros maxDataLength).drop t.mapping.dataLen := by
    unfold MappedPdo.gather
    rw [hm.dataLen_eq] at hle ⊢
    refine gatherTargets_eq hready ?_
    rw [Bytes.length_zeros]
    exact hle
  have hlength : (t.mapping.gather d (Bytes.zeros maxDataLength)).length = maxDataLength := by
    rw [hgather, List.length_append, Target.length_flatten_low hready, ← hm.dataLen_eq,
      List.length_drop, Bytes.length_zeros]
    omega
  unfold live
  rw [Payload.bytes_padded_of_length hlength, hgather]

end Canopen
