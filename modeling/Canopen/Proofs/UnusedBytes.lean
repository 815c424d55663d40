import Canopen.Proofs.CheckedNode
import Canopen.Proofs.Provenance
import Canopen.Proofs.StagedBytes

/-! # Unused bytes have no influence

A mapping does not use the bytes of its dummy entries, nor those beyond its length
(`MappedPdo.IsUnused`).  All eight bytes of a frame are staged nevertheless, and the bytes of dummy
entries end up in a cell that all receive PDOs share.

Two runs that differ in unused bytes of received frames, and in the content of that cell, look the
same (`Node.unused_bytes_have_no_influence`).  What is staged in the second run is a counterpart of
what is staged in the first one: it is the same, or agrees with it for the mapping that was in force
when it was received (`Node.Counterpart`).  So a tick comes to the same in both runs if the mapping
that it uses is still that one (`Node.CommitsInForce`).  Otherwise a byte of a dummy entry may reach
an object (`Node.loadConfig_reveals_unused_bytes`). -/

namespace Canopen

/-! ### The bytes that a mapping uses -/

/-- The entry to which the byte at a position belongs. -/
def entryAt? : List Target → Nat → Option Target
  | [], _ => none
  | t :: ts, i => if i < t.len then some t else entryAt? ts (i - t.len)

theorem lt_totalLen_of_entryAt? {ts : List Target} {i : Nat} {t : Target}
    (h : entryAt? ts i = some t) : i < Target.totalLen ts := by
  induction ts generalizing i with
  | nil => cases h
  | cons t' ts ih =>
      unfold entryAt? at h
      unfold Target.totalLen
      split at h
      · omega
      · have hrest := ih h
        omega

/-- Payloads that differ in the bytes of dummy entries only come to the same. -/
theorem scatterTargets_congr {ts : List Target} {xs ys : Bytes}
    (h : ∀ i id len multibyte, entryAt? ts i = some (.object id len multibyte) → xs[i]? = ys[i]?)
    (d : Dictionary) : scatterTargets d ts xs = scatterTargets d ts ys := by
  induction ts generalizing xs ys d with
  | nil => rfl
  | cons t ts ih =>
      have hdeliver : t.deliver d (xs.take t.len) = t.deliver d (ys.take t.len) := by
        cases t with
        | dummy direction len => rfl
        | object id len multibyte =>
            have htake : xs.take len = ys.take len := by
              apply List.ext_getElem?
              intro i
              rw [List.getElem?_take, List.getElem?_take]
              split
              · rename_i hi
                exact h i id len multibyte (if_pos hi)
              · rfl
            exact congrArg (Target.deliver d (.object id len multibyte)) htake
      have hrest : ∀ i id len multibyte, entryAt? ts i = some (.object id len multibyte) →
          (xs.drop t.len)[i]? = (ys.drop t.len)[i]? := by
        intro i id len multibyte hentry
        rw [List.getElem?_drop, List.getElem?_drop]
        refine h (t.len + i) id len multibyte ?_
        unfold entryAt?
        rw [if_neg (by omega), Nat.add_sub_cancel_left]
        exact hentry
      unfold scatterTargets
      rw [hdeliver]
      exact ih hrest _

namespace MappedPdo

/-- The byte at a position is beyond the mapped bytes, or belongs to a dummy entry. -/
def IsUnused (m : MappedPdo) (i : Nat) : Prop :=
  m.dataLen ≤ i ∨ ∃ direction len, entryAt? m.targets i = some (.dummy direction len)

/-- The payloads have the same bytes, apart from unused ones. -/
def Agree (m : MappedPdo) (p q : Payload) : Prop := ∀ i, ¬ m.IsUnused i → p.bytes[i]? = q.bytes[i]?

theorem Agree.scatter_eq {m : MappedPdo} (hm : m.WellFormed) {p q : Payload} (h : m.Agree p q)
    (d : Dictionary) : m.scatter d p.bytes = m.scatter d q.bytes := by
  refine scatterTargets_congr (fun i id len multibyte hentry => h i ?_) d
  rintro (hbeyond | ⟨direction, len', hdummy⟩)
  · have hlt := lt_totalLen_of_entryAt? hentry
    rw [← hm.dataLen_eq] at hlt
    omega
  · rw [hentry] at hdummy
    cases hdummy

end MappedPdo

/-- What can be seen of a node at a moment. -/
structure View where
  objects : Dictionary
  errors : ErrorStatus
  read : ObjectId → Nat → Bytes → Except AbortCode (Nat × Bytes)

namespace Node

variable {σ : Type} [Transport σ]

/-! ### Runs that differ in unused bytes -/

/-- The same event, or a frame for a receive PDO with other bytes where the mapping in force does
not use them. -/
inductive SameEvent (n : Node) : Event σ → Event σ → Prop
  | same (e : Event σ) : SameEvent n e e
  | frame {f : Frame} {q : Payload} {k : Nat} {accepted : Bool} {m : MappedPdo} :
      (n.receive f).1 = .rpdo k accepted → n.mapping k = some m → m.Agree f.data q →
      SameEvent n (.frame f) (.frame { f with data := q })

/-- The same events, apart from unused bytes. -/
def SameEvents : Node → List (Event σ) → List (Event σ) → Prop
  | _, [], [] => True
  | n, e :: es, e' :: es' => n.SameEvent e e' ∧ (n.step e).SameEvents es es'
  | _, _, _ => False

/-- In a run of the node `n`, the receive PDO `k` has staged the frame `f` in a slot after the
events `before`, and no other frame in this slot during the events `since`. -/
structure LastStaged (n : Node) (k : Nat) (slot : Slot) (before : List (Event σ)) (f : Frame)
    (since : List (Event σ)) : Prop where
  staged : (n.run before).device.Stages f k slot
  last : ∀ es g es', since = es ++ .frame g :: es' →
    ¬ (n.run (before ++ .frame f :: es)).device.Stages g k slot

/-- A tick commits a frame of the receive PDO `k` from this slot. -/
def CommitsFrom (n : Node) (k : Nat) (now : UInt64) (link : σ) (slot : Slot) : Prop :=
  n.committedBy k (.tick now link) ≠ [] ∧ ∃ r, n.device.rpdos[k]? = some r ∧
    slot = .forCommit r.synchronous (n.tick now link).2.1.device.sync.toggle

/-- Every frame that is received and committed in a run of `n` is committed by the mapping that was
in force when it was received.  In particular no change of the mapping comes between
(`commitsInForce_of_along`). -/
def CommitsInForce (n : Node) (es : List (Event σ)) : Prop :=
  ∀ past now link, past ++ [.tick now link] <+: es →
    ∀ k slot, (n.run past).CommitsFrom k now link slot →
      ∀ before f since, past = before ++ .frame f :: since → n.LastStaged k slot before f since →
        (n.run past).mapping k = (n.run before).mapping k

theorem CommitsInForce.shorten {n : Node} {es es' : List (Event σ)} (h : n.CommitsInForce es)
    (hes : es' <+: es) : n.CommitsInForce es' :=
  fun past now link hpast => h past now link (hpast.trans hes)

/-- If no mapping changes in a run, none changes between a reception and a commit. -/
theorem commitsInForce_of_along {n : Node} {es : List (Event σ)}
    (h : n.Along (fun n e => ∀ k, (n.step e).mapping k = n.mapping k) es) :
    n.CommitsInForce es := by
  have hbefore : ∀ past, past <+: es → ∀ k, (n.run past).mapping k = n.mapping k := by
    rintro past ⟨after, rfl⟩
    have hpast := ((along_append n past after).mp h).1
    exact along_invariant (I := fun m => ∀ k, m.mapping k = n.mapping k)
      (fun m e he hm k => (he k).trans (hm k)) hpast fun _ => rfl
  rintro past now link hpast k slot _ before f since rfl _
  have hwhole := (List.prefix_append (before ++ .frame f :: since) _).trans hpast
  rw [hbefore _ hwhole, hbefore _ ((List.prefix_append before _).trans hwhole)]

theorem mapping_receive (n : Node) (f : Frame) (k : Nat) :
    (n.receive f).2.mapping k = n.mapping k := by
  have hf := n.device.receive_received f
  show (n.device.receive f).2.rpdos[k]?.map Rpdo.mapping = n.device.rpdos[k]?.map Rpdo.mapping
  generalize (n.device.receive f).1 = reception at hf
  generalize (n.device.receive f).2 = d at hf ⊢
  cases hf with
  | sync _ => rfl
  | @accepted i r _ hr _ _ =>
      dsimp only
      by_cases hi : i = k
      · subst hi
        rw [List.getElem?_set_self (List.getElem?_eq_some_iff.mp hr).1, hr]
        rfl
      · rw [List.getElem?_set_ne hi]
  | dropped _ _ _ _ => rfl
  | unclaimed _ => rfl

theorem mapping_tick (n : Node) (now : UInt64) (link : σ) (k : Nat) :
    (n.tick now link).2.1.mapping k = n.mapping k := by
  show (n.device.tick _ link).2.1.rpdos[k]?.map Rpdo.mapping = n.device.rpdos[k]?.map Rpdo.mapping
  rw [Device.tick_rpdos, List.getElem?_map, Option.map_map]
  refine congrArg (n.device.rpdos[k]?.map ·) (funext fun r => ?_)
  obtain ⟨s, hs⟩ := r.exists_slots_of_take (n.device.syncOccurs (Micros.elapsed n.lastTick now))
    (n.device.syncTick (Micros.elapsed n.lastTick now)).next.toggle n.device.nmt
  show (r.take _ _ _).2.mapping = r.mapping
  rw [hs]

/-- What may be staged in the second run where the first run has `p` staged: the same, or what
agrees with it for the mapping that was in force when it was received. -/
def Counterpart (n : Node) (past : List (Event σ)) (k : Nat) (slot : Slot) (p q : Payload) : Prop :=
  p = q ∨ ∃ before f since m, past = before ++ .frame f :: since ∧
    n.LastStaged k slot before f since ∧ (n.run before).mapping k = some m ∧ m.Agree p q

variable {n : Node} {past : List (Event σ)} {k : Nat} {slot : Slot} {p q : Payload}

theorem Counterpart.concat {e : Event σ} (h : n.Counterpart past k slot p q)
    (he : ∀ g, e = .frame g → ¬ (n.run past).device.Stages g k slot) :
    n.Counterpart (past ++ [e]) k slot p q := by
  rcases h with rfl | ⟨before, f, since, m, rfl, hlast, hm, hpq⟩
  · exact .inl rfl
  refine .inr ⟨before, f, since ++ [e], m, ?_, ⟨hlast.staged, ?_⟩, hm, hpq⟩
  · rw [List.append_assoc, List.cons_append]
  intro es g es' hes
  rcases List.eq_nil_or_concat es' with rfl | ⟨es', e', rfl⟩
  · obtain ⟨rfl, hg⟩ := List.append_inj' hes rfl
    exact he g (List.singleton_inj.mp hg)
  · rw [List.concat_eq_append, ← List.cons_append, ← List.append_assoc] at hes
    exact hlast.last es g es' (List.append_inj' hes rfl).1

/-! ### What can be seen of a run -/

/-- What can be seen of the node: its objects, the errors that it reported, and what is read from
its object dictionary. -/
def view (n : Node) : View where
  objects := n.device.dictionary
  errors := n.device.errors
  read := n.device.readInto

/-- What is answered at each event, and what can be seen after it. -/
def observations (n : Node) (es : List (Event σ)) : List (Answer σ × View) :=
  n.trace (fun n e => [(n.answer e, (n.step e).view)]) es

theorem observations_cons (n : Node) (e : Event σ) (es : List (Event σ)) :
    n.observations (e :: es) = (n.answer e, (n.step e).view) :: (n.step e).observations es := rfl

theorem Alike.view_eq {agree : Nat → Slot → Payload → Payload → Prop} {n n' : Node}
    (h : n.Alike agree n') : n'.view = n.view := by
  obtain ⟨d, rfl, hd⟩ := h
  have hread : d.readInto = n.device.readInto := by
    funext id offset buffer
    unfold Device.readInto
    rw [hd.read_eq]
  unfold view
  rw [hread]
  obtain ⟨rs, rfl, _⟩ := hd
  rfl

section step
variable {m : Node} (h : (n.run past).Alike (n.Counterpart past) m)
include h

theorem alike_quiet {e : Event σ} (hframe : ∀ f, e ≠ .frame f)
    (htick : ∀ now link, e ≠ .tick now link) : m.answer e = (n.run past).answer e ∧
      ((n.run past).step e).Alike (n.Counterpart (past ++ [e])) (m.step e) := by
  obtain ⟨hanswer, hafter⟩ := h.step_of_quiet hframe htick
  exact ⟨hanswer, hafter.imp fun k slot p q hp => hp.concat fun g hg => absurd hg (hframe g)⟩

/-- A frame is staged in both runs, with bytes that agree for the mapping in force. -/
theorem alike_frame {f : Frame} {q : Payload}
    (hsync : f.id = (n.run past).device.sync.cobId → q = f.data)
    (hagree : ∀ k slot, (n.run past).device.Stages f k slot →
      f.data = q ∨ ∃ m, (n.run past).mapping k = some m ∧ m.Agree f.data q) :
    m.answer (.frame (σ := σ) { f with data := q }) = (n.run past).answer (.frame f) ∧
      ((n.run past).step (.frame (σ := σ) f)).Alike (n.Counterpart (past ++ [.frame f]))
        (m.step (.frame (σ := σ) { f with data := q })) := by
  refine h.receive f q hsync (fun k slot p p' hnot hp => ?_) (fun k slot hstages => ?_)
  · exact hp.concat fun g hg => Event.frame.inj hg ▸ hnot
  · rcases hagree k slot hstages with hq | ⟨mapping, hmapping, hq⟩
    · exact .inl hq
    · refine .inr ⟨past, f, [], mapping, rfl, ⟨hstages, fun es g es' hes => ?_⟩, hmapping, hq⟩
      exact absurd hes.symm (by simp)

/-- A tick commits payloads that agree for the mapping that it uses. -/
theorem alike_tick (hwf : (n.run past).device.Consistent) {now : UInt64} {link : σ}
    (hforce : n.CommitsInForce (past ++ [.tick now link])) :
    m.answer (.tick now link) = (n.run past).answer (.tick now link) ∧
      ((n.run past).step (.tick now link)).Alike (n.Counterpart (past ++ [.tick now link]))
        (m.step (.tick now link)) := by
  obtain ⟨hanswer, hafter⟩ := h.tick now link (by
    rintro k r p q hr hp (rfl | ⟨before, f, since, _, hpast, hlast, hm, hagree⟩) objects
    · rfl
    have hkept := hforce past now link List.prefix_rfl k _
      ⟨List.ne_nil_of_mem hp, r, hr, rfl⟩ before f since hpast hlast
    rw [mapping_eq hr, hm] at hkept
    obtain rfl := Option.some.inj hkept
    exact hagree.scatter_eq (hwf.rpdos r (List.mem_of_getElem? hr)).mapping objects)
  exact ⟨hanswer, hafter.imp fun k slot p q hp => hp.concat fun g hg => nomatch hg⟩

/-- One event keeps the runs together. -/
theorem alike_step (hwf : (n.run past).device.Consistent) {e e' : Event σ}
    (he : (n.run past).SameEvent e e') (hforce : n.CommitsInForce (past ++ [e])) :
    m.answer e' = (n.run past).answer e ∧
      ((n.run past).step e).Alike (n.Counterpart (past ++ [e])) (m.step e') := by
  cases he with
  | same =>
      cases e with
      | tick now link => exact alike_tick h hwf hforce
      | frame f => exact alike_frame h (q := f.data) (fun _ => rfl) fun k slot _ => .inl rfl
      | _ => exact alike_quiet h (by simp) (by simp)
  | @frame f q i accepted mapping hreception hmapping hq =>
      refine alike_frame h (fun hid => ?_) fun k slot hstages => .inr ⟨mapping, ?_, hq⟩
      · have hsync : ((n.run past).receive f).1 = .sync _ :=
          congrArg Prod.fst (Device.receive_of_id_eq hid)
        rw [hsync] at hreception
        cases hreception
      · have hk : Reception.rpdo k true = .rpdo i accepted := hstages.1.symm.trans hreception
        rw [(Reception.rpdo.inj hk).1]
        exact hmapping

end step

theorem consistent_run (hn : n.device.Consistent) (es : List (Event σ)) :
    (n.run es).device.Consistent :=
  run_invariant (I := fun n => n.device.Consistent) consistent_step hn es

/-- Runs that differ in unused bytes look the same. -/
theorem observations_eq {m : Node} (hn : n.device.Consistent)
    (h : (n.run past).Alike (n.Counterpart past) m) {es es' : List (Event σ)}
    (hes : (n.run past).SameEvents es es') (hforce : n.CommitsInForce (past ++ es)) :
    m.observations es' = (n.run past).observations es := by
  induction es generalizing past m es' with
  | nil =>
      cases es' with
      | nil => rfl
      | cons e' es' => cases hes
  | cons e es ih =>
      cases es' with
      | nil => cases hes
      | cons e' es' =>
          obtain ⟨he, hrest⟩ := hes
          rw [List.append_cons] at hforce
          obtain ⟨hanswer, hafter⟩ := alike_step h (consistent_run hn past) he
            (hforce.shorten (List.prefix_append _ es))
          have hview := hafter.view_eq
          rw [← run_concat] at hafter hrest
          have hobservations := ih hafter hrest hforce
          rw [run_concat] at hobservations
          rw [observations_cons, observations_cons, hanswer, hview, hobservations]

/-! ### The cell for dummy entries -/

/-- An event, with all operations checked: the answer, the node, and the cell that receive PDOs use
for dummy entries. -/
def stepChecked (n : Node) (s : Scratch) : Event σ → Option (Answer σ × Node × Scratch)
  | .tick now link => do
    let ((report, n, link), s) ← n.tickChecked now link s
    return (.ticked report.event report.sync report.transmissions link, n, s)
  | .frame f => do
    let (reception, n) ← n.receiveChecked f
    return (.received reception, n, s)
  | .write id data => do
    let (outcome, n) ← n.writeChecked id data
    return (.written outcome, n, s)
  | .writeLeading id data => do
    let (outcome, device) ← n.device.writeLeadingChecked id data
    return (.written outcome, { n with device := device }, s)
  | e => return (n.answer e, n.step e, s)

/-- A run, with all operations checked: what is answered at each event, and what can be seen after
it. -/
def runChecked : Node → Scratch → List (Event σ) → Option (List (Answer σ × View))
  | _, _, [] => return []
  | n, s, e :: es => do
    let (answer, n, s) ← n.stepChecked s e
    return (answer, n.view) :: (← n.runChecked s es)

theorem stepChecked_eq {n : Node} (hn : n.device.Consistent) (hids : n.device.HasSmallIds)
    (s : Scratch) (e : Event σ) :
    ∃ s', n.stepChecked s e = some (n.answer e, n.step e, s') := by
  cases e with
  | tick now link =>
      obtain ⟨s', hs'⟩ := Device.tickChecked_eq hn (Micros.elapsed n.lastTick now) link s
      refine ⟨s', ?_⟩
      unfold stepChecked tickChecked
      dsimp only
      rw [hs']
      rfl
  | frame f =>
      refine ⟨s, ?_⟩
      unfold stepChecked receiveChecked
      dsimp only
      rw [Device.receiveChecked_eq]
      rfl
  | write id data =>
      refine ⟨s, ?_⟩
      unfold stepChecked writeChecked
      dsimp only
      rw [Device.writeChecked_eq hids]
      rfl
  | writeLeading id data =>
      refine ⟨s, ?_⟩
      unfold stepChecked
      dsimp only
      rw [Device.writeLeadingChecked_eq hids]
      rfl
  | _ => exact ⟨s, rfl⟩

/-- What is seen of a run does not depend on the cell. -/
theorem runChecked_eq {n : Node} (hn : n.device.Consistent) (hids : n.device.HasSmallIds)
    (s : Scratch) (es : List (Event σ)) : n.runChecked s es = some (n.observations es) := by
  induction es generalizing n s with
  | nil => rfl
  | cons e es ih =>
      obtain ⟨s', hstep⟩ := stepChecked_eq hn hids s e
      have hrest := ih (consistent_step n e hn) (hasSmallIds_step n e hids) s'
      unfold runChecked
      simp only [hstep, hrest, Option.bind_eq_bind, Option.bind_some]
      rfl

/-! ### Two runs -/

/-- **Bytes that a mapping does not use have no influence.**  Take a node that can be reached, and
two runs of it with the same events, except that frames for receive PDOs may differ in bytes that
the mapping in force does not use.  The cell for dummy entries may hold anything in either run.
Provided that every frame is committed by the mapping that was in force when it was received, both
runs send the same frames and give the same answers, and after each event the objects, the reported
errors and all that is read from the object dictionary are the same. -/
theorem unused_bytes_have_no_influence {es es' : List (Event σ)} (hn : n.Reached σ)
    (hes : n.SameEvents es es') (hforce : n.CommitsInForce es) (s s' : Scratch) :
    ∃ observed, n.runChecked s es = some observed ∧ n.runChecked s' es' = some observed := by
  have hconsistent := hn.consistent
  have hids := hn.hasSmallIds
  have halike : (n.run ([] : List (Event σ))).Alike (n.Counterpart ([] : List (Event σ))) n :=
    .refl (fun k slot p => .inl rfl) n
  have hsame := observations_eq hconsistent halike hes hforce
  refine ⟨n.observations es, runChecked_eq hconsistent hids s es, ?_⟩
  rw [runChecked_eq hconsistent hids s' es', hsame]
  rfl

/-- A frame for the padded node, its first four bytes being those of a dummy entry. -/
def paddedFrame (data : Bytes) : Event Bus := .frame (.carrying (.std 0x27F) data)

theorem paddedFrame_same : padded.SameEvent (paddedFrame [1, 2, 3, 4, 5, 6, 7, 8])
    (paddedFrame [0, 0, 0, 9, 5, 6, 7, 8]) := by
  have hreception : (padded.receive (.carrying (.std 0x27F) [1, 2, 3, 4, 5, 6, 7, 8])).1 =
      .rpdo 0 true := by decide
  have hmapping : padded.mapping 0 =
      some ⟨[.dummy .receive 4, .object ⟨0x2100, 0⟩ 4 true], 8, 0⟩ := by decide
  refine .frame hreception hmapping fun i hi => ?_
  have hle : 4 ≤ i := Nat.le_of_not_lt fun hlt => hi (.inr ⟨_, _, if_pos hlt⟩)
  obtain ⟨j, rfl⟩ := Nat.exists_eq_add_of_le hle
  rw [← List.getElem?_drop, ← List.getElem?_drop]
  rfl

theorem unused_bytes_have_no_influence_padded :
    let es (data : Bytes) : List (Event Bus) := [paddedFrame data, .tick 1000 (Bus.ofCapacity 1)]
    let s : Scratch := ⟨[0, 0, 0, 0], rfl⟩
    let s' : Scratch := ⟨[1, 1, 1, 1], rfl⟩
    padded.SameEvents (es [1, 2, 3, 4, 5, 6, 7, 8]) (es [0, 0, 0, 9, 5, 6, 7, 8]) ∧
      padded.CommitsInForce (es [1, 2, 3, 4, 5, 6, 7, 8]) ∧
      ∃ observed, padded.runChecked s (es [1, 2, 3, 4, 5, 6, 7, 8]) = some observed ∧
        padded.runChecked s' (es [0, 0, 0, 9, 5, 6, 7, 8]) = some observed := by
  intro es s s'
  have hsame : padded.SameEvents (es [1, 2, 3, 4, 5, 6, 7, 8]) (es [0, 0, 0, 9, 5, 6, 7, 8]) :=
    ⟨paddedFrame_same, .same _, trivial⟩
  have hforce : padded.CommitsInForce (es [1, 2, 3, 4, 5, 6, 7, 8]) :=
    commitsInForce_of_along ⟨mapping_receive _ _, mapping_tick _ _ _, trivial⟩
  exact ⟨hsame, hforce, unused_bytes_have_no_influence padded_reached hsame hforce s s'⟩

/-- The mapping must not change on the way: when a configuration that maps the object alone is
loaded before the tick, the bytes of the dummy entry reach the object. -/
theorem loadConfig_reveals_unused_bytes :
    let config := { DeviceConfig.initial with
      nodeId := 127
      rpdos := [⟨none, 254, [0x21000020], 0⟩] }
    let es (data : Bytes) : List (Event Bus) :=
      [paddedFrame data, .loadConfig config, .tick 1000 (Bus.ofCapacity 0)]
    padded.SameEvents (es [1, 2, 3, 4, 5, 6, 7, 8]) (es [0, 0, 0, 9, 5, 6, 7, 8]) ∧
      (padded.run (es [1, 2, 3, 4, 5, 6, 7, 8])).device.dictionary ≠
        (padded.run (es [0, 0, 0, 9, 5, 6, 7, 8])).device.dictionary := by
  intro config es
  exact ⟨⟨paddedFrame_same, .same _, .same _, trivial⟩, by decide⟩

end Node

end Canopen
