import Canopen.Proofs.Events
import Canopen.Proofs.ValueTransport

/-! # Nodes that differ in staged bytes

Two nodes are alike (`Node.Alike`) if they differ at most in the bytes of the frames that are staged
in the slots of their receive PDOs.  `agree k slot` says how the bytes in a slot of the receive PDO
`k` may differ; it is arbitrary here, since what is staged is kept or dropped, but not looked at, by
everything that happens to a node but a tick.

Alike nodes answer alike, and stay alike (`Node.Alike.step_of_quiet`, `Node.Alike.receive`).  A tick
commits staged bytes, so it asks that the objects that come out of it are the same
(`Node.Alike.tick`). -/

namespace Canopen

/-! ### Related lists and results -/

theorem rel_imp {α β : Type} {R S : α → β → Prop} {o : Option α} {o' : Option β}
    (h : Option.Rel R o o') (hRS : ∀ x y, R x y → S x y) : Option.Rel S o o' := by
  cases h with
  | some hxy => exact .some (hRS _ _ hxy)
  | none => exact .none

theorem rel_map {α β γ δ : Type} {R : α → β → Prop} {S : γ → δ → Prop} {o : Option α}
    {o' : Option β} {f : α → γ} {g : β → δ} (h : Option.Rel R o o')
    (hfg : ∀ x y, R x y → S (f x) (g y)) : Option.Rel S (o.map f) (o'.map g) := by
  cases h with
  | some hxy => exact .some (hfg _ _ hxy)
  | none => exact .none

/-- The lists have the same length, and what they hold at position `k` is related by `R k`. -/
def Each {α β : Type} (R : Nat → α → β → Prop) (xs : List α) (ys : List β) : Prop :=
  ∀ k, Option.Rel (R k) xs[k]? ys[k]?

namespace Each

variable {α β γ δ : Type} {R : Nat → α → β → Prop} {S : Nat → γ → δ → Prop} {xs : List α}
  {ys : List β}

theorem refl {R : Nat → α → α → Prop} (h : ∀ k x, R k x x) (xs : List α) : Each R xs xs := by
  intro k
  cases xs[k]? with
  | none => exact .none
  | some x => exact .some (h k x)

theorem getElem? (h : Each R xs ys) {k : Nat} {x : α} (hx : xs[k]? = some x) :
    ∃ y, ys[k]? = some y ∧ R k x y := by
  have hk := h k
  rw [hx] at hk
  generalize ys[k]? = o at hk
  cases hk with
  | some hxy => exact ⟨_, rfl, hxy⟩

theorem cons {x : α} (h : Each R (x :: xs) ys) :
    ∃ y ys', ys = y :: ys' ∧ R 0 x y ∧ Each (fun k => R (k + 1)) xs ys' := by
  cases ys with
  | nil => cases h 0
  | cons y ys =>
      obtain ⟨y', hy', hxy⟩ := h.getElem? (k := 0) rfl
      obtain rfl := Option.some.inj hy'
      exact ⟨y, ys, rfl, hxy, fun k => h (k + 1)⟩

theorem nil (h : Each R [] ys) : ys = [] := by
  cases ys with
  | nil => rfl
  | cons y ys => cases h 0

theorem imp (h : Each R xs ys) {R' : Nat → α → β → Prop} (hR : ∀ k x y, R k x y → R' k x y) :
    Each R' xs ys :=
  fun k => rel_imp (h k) (hR k)

/-- One position is replaced; how the others are related may be put differently. -/
theorem update (h : Each R xs ys) {R' : Nat → α → β → Prop} {n : Nat} {x : α} {y : β}
    (hR : ∀ k x y, k ≠ n → R k x y → R' k x y) (hxy : R' n x y) :
    Each R' (xs.set n x) (ys.set n y) := by
  intro k
  by_cases hk : n = k
  · subst hk
    rw [List.getElem?_set_self', List.getElem?_set_self']
    have hn := h n
    generalize xs[n]? = o at hn
    generalize ys[n]? = o' at hn
    cases hn with
    | some _ => exact .some hxy
    | none => exact .none
  · rw [List.getElem?_set_ne hk, List.getElem?_set_ne hk]
    exact rel_imp (h k) fun x y => hR k x y (Ne.symm hk)

theorem set (h : Each R xs ys) {n : Nat} {x : α} {y : β} (hxy : R n x y) :
    Each R (xs.set n x) (ys.set n y) :=
  h.update (fun _ _ _ _ => id) hxy

theorem mapIdx (h : Each R xs ys) {f : Nat → α → γ} {g : Nat → β → δ}
    (hfg : ∀ k x y, R k x y → S k (f k x) (g k y)) : Each S (xs.mapIdx f) (ys.mapIdx g) := by
  intro k
  rw [List.getElem?_mapIdx, List.getElem?_mapIdx]
  exact rel_map (h k) (hfg k)

theorem map (h : Each R xs ys) {f : α → γ} {g : β → δ}
    (hfg : ∀ k x y, R k x y → S k (f x) (g y)) : Each S (xs.map f) (ys.map g) := by
  intro k
  rw [List.getElem?_map, List.getElem?_map]
  exact rel_map (h k) (hfg k)

theorem map_eq (h : Each R xs ys) {f : α → γ} {g : β → γ} (hfg : ∀ k x y, R k x y → f x = g y) :
    xs.map f = ys.map g := by
  have hmap : Each (fun _ => Eq) (xs.map f) (ys.map g) := h.map hfg
  apply List.ext_getElem?
  intro k
  have hk := hmap k
  generalize (xs.map f)[k]? = o at hk ⊢
  generalize (ys.map g)[k]? = o' at hk ⊢
  cases hk with
  | some hxy => exact congrArg some hxy
  | none => rfl

theorem length_eq (h : Each R xs ys) : xs.length = ys.length := by
  have hunits := congrArg List.length (h.map_eq fun _ _ _ _ => (rfl : () = ()))
  rwa [List.length_map, List.length_map] at hunits

theorem applyEach {α β γ : Type} {R : Nat → β → γ → Prop} {xs : List β} {ys : List γ}
    (h : Each R xs ys) {f : α → β → β} {g : α → γ → γ}
    (hfg : ∀ c k x y, R k x y → R k (f c x) (g c y)) (cs : List α) :
    Each R (Canopen.applyEach f cs xs) (Canopen.applyEach g cs ys) := by
  induction cs generalizing xs ys R with
  | nil =>
      unfold Canopen.applyEach
      exact h
  | cons c cs ih =>
      cases xs with
      | nil =>
          obtain rfl := h.nil
          exact h
      | cons x xs =>
          obtain ⟨y, ys', rfl, hxy, hrest⟩ := h.cons
          have htail := ih hrest fun c k x y => hfg c (k + 1) x y
          intro k
          cases k with
          | zero => exact .some (hfg c 0 x y hxy)
          | succ k => exact htail k

end Each

/-- Both computations are refused for the same reason, or both have results, which are related. -/
inductive Both {ε α β : Type} (R : α → β → Prop) : Except ε α → Except ε β → Prop
  | error (e : ε) : Both R (.error e) (.error e)
  | ok {a : α} {b : β} : R a b → Both R (.ok a) (.ok b)

theorem Both.bind {ε α β γ : Type} {R : α → β → Prop} (x : Except ε γ) {f : γ → Except ε α}
    {g : γ → Except ε β} (h : ∀ c, Both R (f c) (g c)) : Both R (x >>= f) (x >>= g) := by
  cases x with
  | error e => exact .error e
  | ok c => exact h c

/-! ### Receive PDOs -/

namespace Slots

/-- The same slots are filled, and the bytes in them agree. -/
def Alike (agree : Slot → Payload → Payload → Prop) (s s' : Slots) : Prop :=
  ∀ slot, Option.Rel (agree slot) (s.get slot) (s'.get slot)

variable {agree : Slot → Payload → Payload → Prop} {s s' : Slots}

theorem alike_none : none.Alike agree none := by
  intro slot
  rw [get_none]
  exact .none

theorem Alike.refl (hagree : ∀ slot p, agree slot p p) (s : Slots) : s.Alike agree s := by
  intro slot
  cases s.get slot with
  | none => exact .none
  | some p => exact .some (hagree slot p)

theorem Alike.imp (h : s.Alike agree s') {agree' : Slot → Payload → Payload → Prop}
    (hagree : ∀ slot p q, agree slot p q → agree' slot p q) : s.Alike agree' s' :=
  fun slot => rel_imp (h slot) (hagree slot)

/-- One slot is filled or emptied; how the contents of the other agree may be put differently. -/
theorem Alike.update (h : s.Alike agree s') {agree' : Slot → Payload → Payload → Prop}
    {slot : Slot} {p q : Option Payload}
    (hagree : ∀ other p q, other ≠ slot → agree other p q → agree' other p q)
    (hpq : Option.Rel (agree' slot) p q) : (s.set slot p).Alike agree' (s'.set slot q) := by
  intro other
  rw [get_set, get_set]
  split
  · rename_i heq
    exact heq ▸ hpq
  · rename_i hne
    exact rel_imp (h other) fun p q => hagree other p q hne

theorem Alike.clear (h : s.Alike agree s') (slot : Slot) :
    (s.set slot .none).Alike agree (s'.set slot .none) :=
  h.update (fun _ _ _ _ => id) .none

end Slots

namespace Rpdo

/-- The PDOs differ at most in what is staged, which agrees. -/
def Alike (agree : Slot → Payload → Payload → Prop) (r r' : Rpdo) : Prop :=
  ∃ s, r' = { r with slots := s } ∧ r.slots.Alike agree s

variable {agree : Slot → Payload → Payload → Prop} {r r' : Rpdo}

theorem Alike.refl (hagree : ∀ slot p, agree slot p p) (r : Rpdo) : r.Alike agree r :=
  ⟨r.slots, rfl, .refl hagree r.slots⟩

theorem Alike.params_eq (h : r.Alike agree r') : r'.params = r.params := by
  obtain ⟨s, rfl, _⟩ := h
  rfl

theorem Alike.imp (h : r.Alike agree r') {agree' : Slot → Payload → Payload → Prop}
    (hagree : ∀ slot p q, agree slot p q → agree' slot p q) : r.Alike agree' r' := by
  obtain ⟨s, rfl, hs⟩ := h
  exact ⟨s, rfl, hs.imp hagree⟩

theorem Alike.configureCommunication (h : r.Alike agree r') (w : CobIdWord) :
    (r.configureCommunication w).Alike agree (r'.configureCommunication w) := by
  obtain ⟨s, rfl, hs⟩ := h
  refine ⟨_, rfl, ?_⟩
  unfold Rpdo.configureCommunication
  dsimp only
  split
  · exact hs
  · exact Slots.alike_none

theorem Alike.applyCobId (h : r.Alike agree r') (w : CobIdWord) :
    (r.applyCobId w).Alike agree (r'.applyCobId w) := by
  obtain ⟨s, rfl, hs⟩ := h
  have hstored : Alike agree { r with params := r.params.setCobId w }
      { r with params := r.params.setCobId w, slots := s } := ⟨s, rfl, hs⟩
  exact hstored.configureCommunication w

theorem Alike.applyTransmissionType (h : r.Alike agree r') (t : TransmissionType) :
    (r.applyTransmissionType t).Alike agree (r'.applyTransmissionType t) := by
  obtain ⟨s, rfl, hs⟩ := h
  refine ⟨_, rfl, ?_⟩
  unfold Rpdo.applyTransmissionType
  dsimp only
  split
  · exact hs
  · exact hs.clear _

theorem Alike.writeComm (h : r.Alike agree r') (nmt : NmtState) (sub : UInt8) (data : Bytes) :
    Both (Alike agree) (r.writeComm nmt sub data) (r'.writeComm nmt sub data) := by
  obtain ⟨s, rfl, hs⟩ := h
  have hr : r.Alike agree { r with slots := s } := ⟨s, rfl, hs⟩
  unfold Rpdo.writeComm
  refine .bind _ fun _ => ?_
  split
  · exact .bind _ fun w => .bind _ fun w => .ok (hr.applyCobId w)
  · split
    · exact .bind _ fun t => .ok (hr.applyTransmissionType t)
    · exact .error _

/-- After a change of the mapping in both PDOs, the reports and the outcome are the same. -/
structure RemappedAlike (agree : Slot → Payload → Payload → Prop) (m m' : Remapped Rpdo) : Prop where
  pdo : m.pdo.Alike agree m'.pdo
  errors : m'.errors = m.errors
  outcome : m'.outcome = m.outcome

theorem Alike.configureMapping (h : r.Alike agree r') (attributes : Attributes) (count : UInt8)
    (errors : ErrorStatus) : RemappedAlike agree (r.configureMapping attributes count errors)
      (r'.configureMapping attributes count errors) := by
  obtain ⟨s, rfl, hs⟩ := h
  unfold Rpdo.configureMapping
  dsimp only
  cases r.params.resolve attributes .receive count with
  | ok m => exact ⟨⟨s, rfl, hs⟩, rfl, rfl⟩
  | error e => exact ⟨⟨s, rfl, hs⟩, rfl, rfl⟩

theorem Alike.applyMapping (h : r.Alike agree r') (attributes : Attributes) (errors : ErrorStatus)
    (w : MappingWrite) : RemappedAlike agree (r.applyMapping attributes errors w)
      (r'.applyMapping attributes errors w) := by
  cases w with
  | entry i w =>
      obtain ⟨s, rfl, hs⟩ := h
      exact ⟨⟨s, rfl, hs⟩, rfl, rfl⟩
  | count n =>
      have hmapped := h.configureMapping attributes n errors
      unfold Rpdo.applyMapping
      dsimp only
      rw [hmapped.outcome]
      cases houtcome : (r.configureMapping attributes n errors).outcome with
      | error e => exact hmapped
      | ok _ =>
          obtain ⟨s, hpdo, hs⟩ := hmapped.pdo
          refine ⟨⟨s, ?_, hs⟩, hmapped.errors, rfl⟩
          dsimp only
          rw [hpdo]

theorem Alike.reset (h : r.Alike agree r') (attributes : Attributes) (errors : ErrorStatus) :
    (r.reset attributes errors).1.Alike agree (r'.reset attributes errors).1 ∧
      (r.reset attributes errors).2 = (r'.reset attributes errors).2 := by
  have hmapped := h.configureMapping attributes r.params.mappingCount errors
  unfold Rpdo.reset
  dsimp only
  rw [h.params_eq, hmapped.pdo.params_eq, hmapped.errors]
  exact ⟨hmapped.pdo.configureCommunication _, rfl⟩

theorem receive_fst (r : Rpdo) (f : Frame) (nmt : NmtState) (toggle : Bool) :
    (r.receive f nmt toggle).1 = r.isReceptive f.dlc nmt := by
  unfold Rpdo.receive
  cases r.isReceptive f.dlc nmt <;> rfl

/-- A frame is staged in one slot of each PDO; what agrees in the other slot is kept. -/
theorem Alike.receive (h : r.Alike agree r') (f : Frame) (q : Payload) (nmt : NmtState)
    (toggle : Bool) {agree' : Slot → Payload → Payload → Prop}
    (hkeep : ∀ slot p q, ¬ (r.isReceptive f.dlc nmt = true ∧
      slot = .forWriting r.synchronous toggle) → agree slot p q → agree' slot p q)
    (hnew : r.isReceptive f.dlc nmt = true → agree' (.forWriting r.synchronous toggle) f.data q) :
    (r'.receive { f with data := q } nmt toggle).1 = (r.receive f nmt toggle).1 ∧
      (r.receive f nmt toggle).2.Alike agree' (r'.receive { f with data := q } nmt toggle).2 := by
  obtain ⟨s, rfl, hs⟩ := h
  have hsame : Rpdo.isReceptive { r with slots := s } f.dlc nmt = r.isReceptive f.dlc nmt := rfl
  unfold Rpdo.receive
  dsimp only
  rw [hsame]
  by_cases hreceptive : r.isReceptive f.dlc nmt = true
  · rw [if_pos hreceptive, if_pos hreceptive]
    refine ⟨rfl, _, rfl, hs.update (fun slot p q hslot => ?_) (.some (hnew hreceptive))⟩
    exact hkeep slot p q fun hstages => hslot hstages.2
  · rw [if_neg hreceptive, if_neg hreceptive]
    exact ⟨rfl, s, rfl, hs.imp fun slot p q => hkeep slot p q fun hstages => hreceptive hstages.1⟩

/-- The payloads that a tick commits come from the same slot. -/
theorem Alike.take (h : r.Alike agree r') (syncOccurred toggle : Bool) (nmt : NmtState) :
    Option.Rel (agree (.forCommit r.synchronous toggle)) (r.take syncOccurred toggle nmt).1
        (r'.take syncOccurred toggle nmt).1 ∧
      (r.take syncOccurred toggle nmt).2.Alike agree (r'.take syncOccurred toggle nmt).2 := by
  obtain ⟨s, rfl, hs⟩ := h
  unfold Rpdo.take
  dsimp only
  split
  · split
    · exact ⟨.none, s, rfl, hs⟩
    · exact ⟨hs _, _, rfl, hs.clear _⟩
  · exact ⟨.none, _, rfl, Slots.alike_none⟩

/-- A tick scatters the same from both PDOs if the mapping does not see in what the payloads
differ. -/
theorem Alike.scatterAll_eq (h : r.Alike agree r') {syncOccurred toggle : Bool} {nmt : NmtState}
    (hcommit : ∀ p q, (r.take syncOccurred toggle nmt).1 = some p →
      agree (.forCommit r.synchronous toggle) p q →
      ∀ d, r.mapping.scatter d p.bytes = r.mapping.scatter d q.bytes) (d : Dictionary) :
    d.scatterAll (r'.scattered syncOccurred toggle nmt) =
      d.scatterAll (r.scattered syncOccurred toggle nmt) := by
  obtain ⟨htake, _⟩ := h.take syncOccurred toggle nmt
  obtain ⟨s, rfl, _⟩ := h
  unfold Rpdo.scattered
  generalize (r.take syncOccurred toggle nmt).1 = p at hcommit htake ⊢
  generalize (Rpdo.take { r with slots := s } syncOccurred toggle nmt).1 = q at htake ⊢
  cases htake with
  | none => rfl
  | some hpq => exact (hcommit _ _ rfl hpq d).symm

end Rpdo

/-! ### Devices -/

namespace Device

/-- The devices differ at most in what is staged, which agrees. -/
def Alike (agree : Nat → Slot → Payload → Payload → Prop) (d d' : Device) : Prop :=
  ∃ rs, d' = { d with rpdos := rs } ∧ Each (fun k => Rpdo.Alike (agree k)) d.rpdos rs

variable {agree : Nat → Slot → Payload → Payload → Prop} {d d' : Device}

theorem Alike.attributes_eq (h : d.Alike agree d') : d'.attributes = d.attributes := by
  obtain ⟨rs, rfl, hrs⟩ := h
  unfold attributes
  rw [hrs.length_eq]

theorem Alike.rpdo_cases (h : d.Alike agree d') (n : Nat) :
    (∃ e, d.rpdo n = .error e ∧ d'.rpdo n = .error e) ∨
      ∃ r r', d.rpdo n = .ok r ∧ d'.rpdo n = .ok r' ∧ r.Alike (agree n) r' := by
  obtain ⟨rs, rfl, hrs⟩ := h
  unfold Device.rpdo
  have hn := hrs n
  dsimp only
  generalize d.rpdos[n]? = o at hn
  generalize rs[n]? = o' at hn
  cases hn with
  | some h => exact .inr ⟨_, _, rfl, rfl, h⟩
  | none => exact .inl ⟨_, rfl, rfl⟩

theorem Alike.sameParameters (h : d.Alike agree d') : d.SameParameters d' := by
  obtain ⟨rs, rfl, hrs⟩ := h
  refine ⟨⟨rfl, rfl, rfl, rfl⟩, fun k => ?_, fun k => ⟨id, fun t => .refl t, ?_⟩⟩
  · have hk := hrs k
    generalize d.rpdos[k]? = o at hk ⊢
    dsimp only
    generalize rs[k]? = o' at hk ⊢
    cases hk with
    | none => exact ⟨Rpdo.slots, rfl⟩
    | some halike =>
        obtain ⟨s, rfl, _⟩ := halike
        exact ⟨fun _ => s, rfl⟩
  · rw [Option.map_id]
    rfl

/-! #### Accesses to the dictionary -/

theorem Alike.read_eq (h : d.Alike agree d') (id : ObjectId) (offset len : Nat) :
    d'.read id offset len = d.read id offset len := by
  have hobject : d'.object id.index = d.object id.index := by
    obtain ⟨rs, rfl, _⟩ := h
    rfl
  unfold read
  rw [hobject]
  simp only [h.sameParameters.parameterBytes_eq]

/-- The answers to a write are the same, and the devices are alike after it. -/
def AlikeAfter (agree : Nat → Slot → Payload → Payload → Prop) (x y : WriteOutcome × Device) :
    Prop :=
  x.1 = y.1 ∧ x.2.Alike agree y.2

theorem Alike.answer {α β : Type} {R : α → β → Prop} (h : d.Alike agree d')
    {x : Except AbortCode α} {y : Except AbortCode β} (hxy : Both R x y) {put : α → Device}
    {put' : β → Device} (hput : ∀ a b, R a b → (put a).Alike agree (put' b)) :
    AlikeAfter agree (d.answer x put) (d'.answer y put') := by
  cases hxy with
  | error e => exact ⟨rfl, h⟩
  | ok hab => exact ⟨rfl, hput _ _ hab⟩

theorem Alike.writeRpdoMap (h : d.Alike agree d') (n : Nat) (sub : UInt8) (data : Bytes) :
    AlikeAfter agree (d.writeRpdoMap n sub data) (d'.writeRpdoMap n sub data) := by
  have hattributes := h.attributes_eq
  have hrpdo := h.rpdo_cases n
  have h' := h
  obtain ⟨rs, rfl, hrs⟩ := h'
  unfold Device.writeRpdoMap
  rw [hattributes]
  rcases hrpdo with ⟨e, hr, hr'⟩ | ⟨r, r', hr, hr', halike⟩
  · rw [hr, hr']
    exact ⟨rfl, h⟩
  have hcheck : checkMappingWrite r'.params r'.valid r'.mapping .receive d.attributes d.started
      d.nmt sub data = checkMappingWrite r.params r.valid r.mapping .receive d.attributes
      d.started d.nmt sub data := by
    obtain ⟨s, rfl, _⟩ := halike
    rfl
  rw [hr, hr']
  dsimp only
  rw [hcheck]
  cases checkMappingWrite r.params r.valid r.mapping .receive d.attributes d.started d.nmt sub
    data with
  | error e => exact ⟨rfl, h⟩
  | ok w =>
      have hmapped := halike.applyMapping d.attributes d.errors w
      refine ⟨congrArg mappingOutcome hmapped.outcome.symm, _, ?_, hrs.set hmapped.pdo⟩
      dsimp only
      rw [hmapped.errors]

theorem Alike.writeTpdoMap (h : d.Alike agree d') (n : Nat) (sub : UInt8) (data : Bytes) :
    AlikeAfter agree (d.writeTpdoMap n sub data) (d'.writeTpdoMap n sub data) := by
  have hattributes := h.attributes_eq
  have h' := h
  obtain ⟨rs, rfl, hrs⟩ := h'
  unfold Device.writeTpdoMap
  rw [hattributes]
  have htpdo : Device.tpdo { d with rpdos := rs } n = d.tpdo n := rfl
  rw [htpdo]
  cases d.tpdo n with
  | error e => exact ⟨rfl, h⟩
  | ok t =>
      dsimp only
      cases checkMappingWrite t.params t.valid t.mapping .transmit d.attributes d.started d.nmt sub
        data with
      | error e => exact ⟨rfl, h⟩
      | ok w => exact ⟨rfl, rs, rfl, hrs⟩

theorem both_refl {ε α : Type} (x : Except ε α) : Both (fun a b => a = b) x x := by
  cases x with
  | error e => exact .error e
  | ok a => exact .ok rfl

theorem Alike.writeParameter (h : d.Alike agree d') (p : Parameter) (sub : UInt8) (data : Bytes) :
    AlikeAfter agree (d.writeParameter p sub data) (d'.writeParameter p sub data) := by
  cases p with
  | rpdoMap n => exact h.writeRpdoMap n sub data
  | tpdoMap n => exact h.writeTpdoMap n sub data
  | rpdoComm n =>
      have hrpdo := h.rpdo_cases n
      have h' := h
      obtain ⟨rs, rfl, hrs⟩ := h'
      have hwrite : Both (Rpdo.Alike (agree n))
          (do checkCommSub (.rpdoComm n) sub
              (← d.rpdo n).writeComm d.nmt sub data)
          (do checkCommSub (.rpdoComm n) sub
              (← Device.rpdo { d with rpdos := rs } n).writeComm d.nmt sub data) := by
        refine .bind _ fun _ => ?_
        rcases hrpdo with ⟨e, hr, hr'⟩ | ⟨r, r', hr, hr', halike⟩
        · rw [hr, hr']
          exact .error e
        · rw [hr, hr']
          exact halike.writeComm d.nmt sub data
      exact h.answer hwrite fun r r' hr => ⟨rs.set n r', rfl, hrs.set hr⟩
  | tpdoComm n =>
      have h' := h
      obtain ⟨rs, rfl, hrs⟩ := h'
      exact h.answer (both_refl _) fun t t' ht => ⟨rs, ht ▸ rfl, hrs⟩
  | _ =>
      have h' := h
      obtain ⟨rs, rfl, hrs⟩ := h'
      exact h.answer (both_refl _) fun s s' hs => ⟨rs, hs ▸ rfl, hrs⟩

theorem Alike.setApplication (h : d.Alike agree d') (index : UInt16) (o : AppObject) :
    (d.setApplication index o).Alike agree (d'.setApplication index o) := by
  obtain ⟨rs, rfl, hrs⟩ := h
  exact ⟨rs, rfl, hrs⟩

theorem Alike.object_eq (h : d.Alike agree d') (index : UInt16) :
    d'.object index = d.object index := by
  obtain ⟨rs, rfl, _⟩ := h
  rfl

theorem Alike.write (h : d.Alike agree d') (id : ObjectId) (data : Bytes) :
    AlikeAfter agree (d.write id data) (d'.write id data) := by
  unfold Device.write
  rw [h.object_eq]
  cases d.object id.index with
  | error e => exact ⟨rfl, h⟩
  | ok object =>
      cases object with
      | application o =>
          exact h.answer (both_refl _) fun o o' ho => ho ▸ h.setApplication id.index o
      | parameter p => exact h.writeParameter p id.sub data

theorem Alike.writeLeading (h : d.Alike agree d') (id : ObjectId) (data : Bytes) :
    AlikeAfter agree (d.writeLeading id data) (d'.writeLeading id data) := by
  have hread : d'.read id 0 = d.read id 0 := funext fun len => h.read_eq id 0 len
  unfold Device.writeLeading
  rw [h.object_eq, hread]
  cases d.object id.index with
  | error e => exact ⟨rfl, h⟩
  | ok object =>
      cases object with
      | application o =>
          exact h.answer (both_refl _) fun o o' ho => ho ▸ h.setApplication id.index o
      | parameter p =>
          dsimp only
          split
          · exact ⟨rfl, h⟩
          · exact h.writeParameter p id.sub _

theorem Alike.store (h : d.Alike agree d') (index : UInt16) (i : Nat) (v : ScalarValue) :
    (d.store index i v).Alike agree (d'.store index i v) := by
  have hobjects : d'.dictionary = d.dictionary := by
    obtain ⟨rs, rfl, _⟩ := h
    rfl
  unfold Device.store
  rw [hobjects]
  cases d.dictionary.application? index with
  | none => exact h
  | some o => exact h.setApplication index (o.store i v)

/-! #### Resets -/

theorem resetRpdos_errors {rs rs' : List Rpdo} (h : Each (fun k => Rpdo.Alike (agree k)) rs rs')
    (attributes : Attributes) (errors : ErrorStatus) :
    (resetRpdos attributes rs' errors).2 = (resetRpdos attributes rs errors).2 := by
  induction rs generalizing rs' agree errors with
  | nil =>
      obtain rfl := h.nil
      rfl
  | cons r rs ih =>
      obtain ⟨r', rs', rfl, hr, hrest⟩ := h.cons
      have herrors := (hr.reset attributes errors).2
      show (resetRpdos attributes rs' (r'.reset attributes errors).2).2 =
        (resetRpdos attributes rs (r.reset attributes errors).2).2
      rw [← herrors]
      exact ih hrest _

theorem Alike.resetCommunication (h : d.Alike agree d') :
    d.resetCommunication.Alike agree d'.resetCommunication := by
  have hattributes := h.attributes_eq
  obtain ⟨rs, rfl, hrs⟩ := h
  have herrors := resetRpdos_errors hrs d.attributes d.errors
  refine ⟨rs.map fun r => r.restart d.attributes, ?_, ?_⟩
  · unfold Device.resetCommunication
    rw [hattributes]
    dsimp only
    rw [herrors, resetRpdos_fst]
  · rw [resetCommunication_rpdos]
    exact hrs.map fun k r r' hr => (hr.reset d.attributes .fresh).1

theorem Alike.assignIdentity (h : d.Alike agree d') (offset : UInt8) :
    (d.assignIdentity offset).Alike agree (d'.assignIdentity offset) := by
  obtain ⟨rs, rfl, hrs⟩ := h
  refine ⟨_, rfl, hrs.mapIdx fun k r r' hr => ?_⟩
  obtain ⟨s, rfl, hs⟩ := hr
  exact ⟨s, rfl, hs⟩

theorem Alike.configure (h : d.Alike agree d') (c : DeviceConfig) :
    Alike agree
      { d with
        sync := c.sync.apply d.sync
        rpdos := Canopen.applyEach RpdoConfig.apply c.rpdos d.rpdos
        tpdos := Canopen.applyEach TpdoConfig.apply c.tpdos d.tpdos }
      { d' with
        sync := c.sync.apply d'.sync
        rpdos := Canopen.applyEach RpdoConfig.apply c.rpdos d'.rpdos
        tpdos := Canopen.applyEach TpdoConfig.apply c.tpdos d'.tpdos } := by
  obtain ⟨rs, rfl, hrs⟩ := h
  refine ⟨_, rfl, hrs.applyEach (fun c k r r' hr => ?_) c.rpdos⟩
  obtain ⟨s, rfl, hs⟩ := hr
  exact ⟨s, rfl, hs⟩

/-! #### Frames -/

/-- An accepted frame is staged in this slot of the receive PDO `k`. -/
def Stages (d : Device) (f : Frame) (k : Nat) (slot : Slot) : Prop :=
  (d.receive f).1 = .rpdo k true ∧
    ∃ r, d.rpdos[k]? = some r ∧ slot = .forWriting r.synchronous d.sync.toggle

/-- The first PDO with the identifier of a frame stages it if it can, and no other does. -/
theorem stages_iff {d : Device} {f : Frame} {n : Nat} {r : Rpdo} (hid : f.id ≠ d.sync.cobId)
    (hn : d.rpdos.findIdx? (fun r => r.cobId == some f.id) = some n)
    (hr : d.rpdos[n]? = some r) (k : Nat) (slot : Slot) :
    d.Stages f k slot ↔ k = n ∧ r.isReceptive f.dlc d.nmt = true ∧
      slot = .forWriting r.synchronous d.sync.toggle := by
  unfold Stages
  rw [receive_of_claimed hid hn hr, ← r.receive_fst f d.nmt d.sync.toggle]
  constructor
  · rintro ⟨hreception, r₀, hr₀, hslot⟩
    obtain ⟨rfl, haccepted⟩ := Reception.rpdo.inj hreception
    obtain rfl := Option.some.inj (hr.symm.trans hr₀)
    exact ⟨rfl, haccepted, hslot⟩
  · rintro ⟨rfl, haccepted, hslot⟩
    exact ⟨congrArg (Reception.rpdo k) haccepted, r, hr, hslot⟩

theorem findIdx?_cobId {rs rs' : List Rpdo} (h : Each (fun k => Rpdo.Alike (agree k)) rs rs')
    (id : CanId) : rs'.findIdx? (fun r => r.cobId == some id) =
      rs.findIdx? (fun r => r.cobId == some id) := by
  have hmap : rs.map Rpdo.cobId = rs'.map Rpdo.cobId := h.map_eq fun k r r' hr => by
    obtain ⟨s, rfl, _⟩ := hr
    rfl
  have hfind : ∀ l : List Rpdo, l.findIdx? (fun r => r.cobId == some id) =
      (l.map Rpdo.cobId).findIdx? (fun c => c == some id) := by
    intro l
    rw [List.findIdx?_map]
    rfl
  rw [hfind, hfind, hmap]

/-- If nothing is staged, alike devices are alike after a frame if they were before it. -/
theorem Alike.imp_of_not_stages (h : d.Alike agree d') {f : Frame}
    {agree' : Nat → Slot → Payload → Payload → Prop}
    (hkeep : ∀ k slot p q, ¬ d.Stages f k slot → agree k slot p q → agree' k slot p q)
    (hnot : ∀ k accepted, (d.receive f).1 ≠ .rpdo k accepted) : d.Alike agree' d' := by
  obtain ⟨rs, rfl, hrs⟩ := h
  refine ⟨rs, rfl, hrs.imp fun k r r' hr => hr.imp fun slot p q => ?_⟩
  exact hkeep k slot p q fun hstages => hnot k true hstages.1

/-- The frame goes to the same receive PDO of both devices. -/
theorem Alike.receive_of_claimed (h : d.Alike agree d') {f : Frame} {q : Payload} {n : Nat}
    {agree' : Nat → Slot → Payload → Payload → Prop} (hid : f.id ≠ d.sync.cobId)
    (hn : d.rpdos.findIdx? (fun r => r.cobId == some f.id) = some n)
    (hkeep : ∀ k slot p q, ¬ d.Stages f k slot → agree k slot p q → agree' k slot p q)
    (hnew : ∀ k slot, d.Stages f k slot → agree' k slot f.data q) :
    (d'.receive { f with data := q }).1 = (d.receive f).1 ∧
      (d.receive f).2.Alike agree' (d'.receive { f with data := q }).2 := by
  obtain ⟨hlt, _⟩ := List.findIdx?_eq_some_iff_getElem.mp hn
  obtain ⟨r, hr⟩ : ∃ r, d.rpdos[n]? = some r := ⟨_, List.getElem?_eq_getElem hlt⟩
  obtain ⟨rs, rfl, hrs⟩ := h
  obtain ⟨r', hr', halike⟩ := hrs.getElem? hr
  have hd := Device.receive_of_claimed hid hn hr
  have hd' : Device.receive { d with rpdos := rs } { f with data := q } =
      (.rpdo n _, { d with rpdos := rs.set n _ }) :=
    Device.receive_of_claimed hid ((findIdx?_cobId hrs f.id).trans hn) hr'
  have hstages := stages_iff hid hn hr
  obtain ⟨haccepted, hstaged⟩ := halike.receive f q d.nmt d.sync.toggle
    (fun slot p q hnot => hkeep n slot p q fun hs => hnot ((hstages n slot).mp hs).2)
    (fun hreceptive => hnew n _ ((hstages n _).mpr ⟨rfl, hreceptive, rfl⟩))
  have hothers : ∀ k r r', k ≠ n → Rpdo.Alike (agree k) r r' → Rpdo.Alike (agree' k) r r' :=
    fun k r r' hk hr => hr.imp fun slot p q => hkeep k slot p q fun hs =>
      hk ((hstages k slot).mp hs).1
  rw [hd, hd']
  exact ⟨congrArg (Reception.rpdo n) haccepted, _, rfl, hrs.update hothers hstaged⟩

/-- Alike devices take frames alike that differ in their bytes and are not for the SYNC object. -/
theorem Alike.receive (h : d.Alike agree d') (f : Frame) (q : Payload)
    {agree' : Nat → Slot → Payload → Payload → Prop} (hsync : f.id = d.sync.cobId → q = f.data)
    (hkeep : ∀ k slot p q, ¬ d.Stages f k slot → agree k slot p q → agree' k slot p q)
    (hnew : ∀ k slot, d.Stages f k slot → agree' k slot f.data q) :
    (d'.receive { f with data := q }).1 = (d.receive f).1 ∧
      (d.receive f).2.Alike agree' (d'.receive { f with data := q }).2 := by
  by_cases hid : f.id = d.sync.cobId
  · obtain rfl := hsync hid
    have hd := receive_of_id_eq hid
    have hkept := h.imp_of_not_stages hkeep fun k accepted hreception => by
      rw [hd] at hreception
      cases hreception
    obtain ⟨rs, rfl, hrs⟩ := hkept
    have hd' : Device.receive { d with rpdos := rs } f =
        (.sync _, { d with sync := _, rpdos := rs }) := receive_of_id_eq hid
    rw [hd, hd']
    exact ⟨rfl, rs, rfl, hrs⟩
  cases hn : d.rpdos.findIdx? (fun r => r.cobId == some f.id) with
  | none =>
      have hd := receive_of_unclaimed hid hn
      have hkept := h.imp_of_not_stages hkeep fun k accepted hreception => by
        rw [hd] at hreception
        cases hreception
      obtain ⟨rs, rfl, hrs⟩ := h
      have hd' : Device.receive { d with rpdos := rs } { f with data := q } = (.unclaimed, _) :=
        receive_of_unclaimed hid ((findIdx?_cobId hrs f.id).trans hn)
      rw [hd, hd']
      exact ⟨rfl, hkept⟩
  | some n => exact h.receive_of_claimed hid hn hkeep hnew

/-! #### Ticks -/

theorem tickRpdos_objects_eq {rs rs' : List Rpdo} (h : Each (fun k => Rpdo.Alike (agree k)) rs rs')
    {syncOccurred toggle : Bool} {nmt : NmtState}
    (hcommit : ∀ k r p q, rs[k]? = some r → (r.take syncOccurred toggle nmt).1 = some p →
      agree k (.forCommit r.synchronous toggle) p q →
      ∀ d, r.mapping.scatter d p.bytes = r.mapping.scatter d q.bytes) (objects : Dictionary) :
    (tickRpdos syncOccurred toggle nmt rs' objects).2.2 =
      (tickRpdos syncOccurred toggle nmt rs objects).2.2 := by
  induction rs generalizing rs' agree objects with
  | nil =>
      obtain rfl := h.nil
      rfl
  | cons r rs ih =>
      obtain ⟨r', rs', rfl, hr, hrest⟩ := h.cons
      have hfirst := hr.scatterAll_eq (fun p q => hcommit 0 r p q rfl) objects
      have hothers := ih hrest (fun k => hcommit (k + 1))
      simp only [tickRpdos_objects] at hothers ⊢
      rw [List.flatMap_cons, List.flatMap_cons, Dictionary.scatterAll_append,
        Dictionary.scatterAll_append, hfirst, hothers]

/-- Alike devices are alike after a tick, and send the same, if the payloads that are committed come
to the same. -/
theorem Alike.tick {σ : Type} [Transport σ] (h : d.Alike agree d') (elapsed : Micros) (link : σ)
    (hcommit : ∀ k r p q, d.rpdos[k]? = some r →
      (r.take (d.syncOccurs elapsed) (d.syncTick elapsed).next.toggle d.nmt).1 = some p →
      agree k (.forCommit r.synchronous (d.syncTick elapsed).next.toggle) p q →
      ∀ objects, r.mapping.scatter objects p.bytes = r.mapping.scatter objects q.bytes) :
    (d'.tick elapsed link).1 =
        { (d.tick elapsed link).1 with commits := (d'.tick elapsed link).1.commits } ∧
      (d'.tick elapsed link).2.2 = (d.tick elapsed link).2.2 ∧
      (d.tick elapsed link).2.1.Alike agree (d'.tick elapsed link).2.1 := by
  have hrpdos := d.tick_rpdos elapsed link
  obtain ⟨rs, rfl, hrs⟩ := h
  have hrpdos' := Device.tick_rpdos { d with rpdos := rs } elapsed link
  have hobjects := tickRpdos_objects_eq hrs hcommit d.dictionary
  have halike : Each (fun k => Rpdo.Alike (agree k)) (d.tick elapsed link).2.1.rpdos
      (Device.tick { d with rpdos := rs } elapsed link).2.1.rpdos := by
    rw [hrpdos, hrpdos']
    exact hrs.map fun k r r' hr => (hr.take _ _ _).2
  unfold syncOccurs syncTick at hobjects
  unfold Device.tick Device.processSync at halike ⊢
  dsimp only at halike ⊢
  rw [hobjects]
  exact ⟨rfl, rfl, _, rfl, halike⟩

end Device

/-! ### Nodes -/

/-- What is answered at an event: what a tick sends and how it leaves the transport, or the result
of a call. -/
inductive Answer (σ : Type) where
  | ticked (event : SyncEvent) (sync : Transmission) (transmissions : List Transmission) (link : σ)
  | received (reception : Reception)
  | written (outcome : WriteOutcome)
  | done

namespace Node

variable {σ : Type} [Transport σ]

def answer (n : Node) : Event σ → Answer σ
  | .tick now link =>
    let (report, _, link) := n.tick now link
    .ticked report.event report.sync report.transmissions link
  | .frame f => .received (n.receive f).1
  | .write id data => .written (n.write id data).1
  | .writeLeading id data => .written (n.device.writeLeading id data).1
  | .store _ _ _ | .requestSend _ | .setNmt _ | .setNodeId _ | .reset | .loadConfig _ => .done

/-- The nodes differ at most in what is staged, which agrees. -/
def Alike (agree : Nat → Slot → Payload → Payload → Prop) (n n' : Node) : Prop :=
  ∃ d, n' = { n with device := d } ∧ n.device.Alike agree d

variable {agree : Nat → Slot → Payload → Payload → Prop} {n n' : Node}

theorem Alike.refl (hagree : ∀ k slot p, agree k slot p p) (n : Node) : n.Alike agree n :=
  ⟨_, rfl, _, rfl, .refl (fun k => .refl (hagree k)) n.device.rpdos⟩

theorem Alike.imp (h : n.Alike agree n') {agree' : Nat → Slot → Payload → Payload → Prop}
    (hagree : ∀ k slot p q, agree k slot p q → agree' k slot p q) : n.Alike agree' n' := by
  obtain ⟨_, rfl, rs, rfl, hrs⟩ := h
  exact ⟨_, rfl, rs, rfl, hrs.imp fun k r r' hr => hr.imp (hagree k)⟩

/-- Alike nodes take every event alike that is neither a frame nor a tick. -/
theorem Alike.step_of_quiet (h : n.Alike agree n') {e : Event σ} (hframe : ∀ f, e ≠ .frame f)
    (htick : ∀ now link, e ≠ .tick now link) :
    n'.answer e = n.answer e ∧ (n.step e).Alike agree (n'.step e) := by
  obtain ⟨d, rfl, hd⟩ := h
  cases e with
  | tick now link => exact absurd rfl (htick now link)
  | frame f => exact absurd rfl (hframe f)
  | write id data =>
      obtain ⟨houtcome, hafter⟩ := hd.write id data
      exact ⟨congrArg Answer.written houtcome.symm, _, rfl, hafter⟩
  | writeLeading id data =>
      obtain ⟨houtcome, hafter⟩ := hd.writeLeading id data
      exact ⟨congrArg Answer.written houtcome.symm, _, rfl, hafter⟩
  | store index i v => exact ⟨rfl, _, rfl, hd.store index i v⟩
  | requestSend i =>
      obtain ⟨rs, rfl, hrs⟩ := hd
      exact ⟨rfl, _, rfl, rs, rfl, hrs⟩
  | setNmt nmt =>
      obtain ⟨rs, rfl, hrs⟩ := hd
      exact ⟨rfl, _, rfl, rs, rfl, hrs⟩
  | setNodeId id => exact ⟨rfl, _, rfl, (hd.assignIdentity id.offset).resetCommunication⟩
  | reset => exact ⟨rfl, _, rfl, hd.resetCommunication⟩
  | loadConfig c =>
      refine ⟨rfl, ?_⟩
      show (n.loadConfig c).Alike agree (Node.loadConfig { n with device := d } c)
      unfold loadConfig
      cases NodeId.ofRaw c.nodeId with
      | ok id => exact ⟨_, rfl, ((hd.assignIdentity id.offset).configure c).resetCommunication⟩
      | error e => exact ⟨_, rfl, ((hd.assignIdentity n.id.offset).configure c).resetCommunication⟩

theorem Alike.receive (h : n.Alike agree n') (f : Frame) (q : Payload)
    {agree' : Nat → Slot → Payload → Payload → Prop}
    (hsync : f.id = n.device.sync.cobId → q = f.data)
    (hkeep : ∀ k slot p q, ¬ n.device.Stages f k slot → agree k slot p q → agree' k slot p q)
    (hnew : ∀ k slot, n.device.Stages f k slot → agree' k slot f.data q) :
    n'.answer (.frame (σ := σ) { f with data := q }) = n.answer (.frame f) ∧
      (n.receive f).2.Alike agree' (n'.receive { f with data := q }).2 := by
  obtain ⟨d, rfl, hd⟩ := h
  obtain ⟨hreception, hafter⟩ := hd.receive f q hsync hkeep hnew
  exact ⟨congrArg Answer.received hreception, _, rfl, hafter⟩

theorem Alike.tick (h : n.Alike agree n') (now : UInt64) (link : σ)
    (hcommit : ∀ k r p q, n.device.rpdos[k]? = some r →
      p ∈ n.committedBy k (.tick now link) →
      agree k (.forCommit r.synchronous (n.tick now link).2.1.device.sync.toggle) p q →
      ∀ objects, r.mapping.scatter objects p.bytes = r.mapping.scatter objects q.bytes) :
    n'.answer (.tick now link) = n.answer (.tick now link) ∧
      (n.tick now link).2.1.Alike agree (n'.tick now link).2.1 := by
  obtain ⟨d, rfl, hd⟩ := h
  have hcommits := n.device.tick_commits (Micros.elapsed n.lastTick now) link
  obtain ⟨hreport, hlink, hafter⟩ := hd.tick (Micros.elapsed n.lastTick now) link
    fun k r p q hr hp => hcommit k r p q hr (by
      show p ∈ (n.device.tick _ link).1.commits[k]?.join.toList
      rw [hcommits, List.getElem?_map, hr]
      exact Option.mem_toList.mpr hp)
  refine ⟨?_, _, rfl, hafter⟩
  unfold answer Node.tick
  dsimp only
  rw [hlink, hreport]

end Node

end Canopen
