import Canopen.Config

/-! # The rules of a configuration

A configuration is valid if its numbers are in their ranges and no PDO has too many mappings
(`DeviceConfig.Valid`).  What is wrong with one that is not valid is said rule by rule
(`DeviceConfig.Violates`), and the rules have an order: the node comes first, then the SYNC, the receive
PDOs and the transmit PDOs (`ConfigError.place`).

The check of a configuration stops at the first violated rule.  It reports the head of the list of all
violations (`DeviceConfig.validate_eq_firstError`), and this list is in order
(`DeviceConfig.pairwise_violations`).  So the reported error is the violation that comes before all
others (`DeviceConfig.first_violation_reported`). -/

namespace Canopen

/-! ### Rules -/

/-- The identifiers of a node, and the value for a node that has none. -/
def AllowedNodeId (raw : UInt8) : Prop := (1 ≤ raw.toNat ∧ raw.toNat ≤ 127) ∨ raw.toNat = 255

/-- The values of a SYNC counter overflow, of which zero stands for no counter. -/
def AllowedOverflow (overflow : UInt8) : Prop :=
  overflow.toNat = 0 ∨ (2 ≤ overflow.toNat ∧ overflow.toNat ≤ 240)

/-- The transmission types that may not be configured. -/
def ReservedType (type : TransmissionType) : Prop := 241 ≤ type.toNat ∧ type.toNat ≤ 253

instance : DecidablePred AllowedNodeId := fun _ => inferInstanceAs (Decidable (_ ∨ _))

instance : DecidablePred AllowedOverflow := fun _ => inferInstanceAs (Decidable (_ ∨ _))

instance : DecidablePred ReservedType := fun _ => inferInstanceAs (Decidable (_ ∧ _))

namespace DeviceConfig

variable (c : DeviceConfig)

/-- A configuration that violates no rule. -/
structure Valid : Prop where
  nodeId : AllowedNodeId c.nodeId
  counterOverflow : AllowedOverflow c.sync.counterOverflow
  rpdos : ∀ r ∈ c.rpdos, r.mappings.length ≤ 8 ∧ ¬ReservedType r.transmissionType
  tpdos : ∀ t ∈ c.tpdos,
    t.mappings.length ≤ 8 ∧ ¬ReservedType t.transmissionType ∧ t.syncStart.toNat ≤ 240

/-- A PDO of a configuration, with what the rules for both directions are about. -/
inductive HasPdo : PdoName → List UInt32 → TransmissionType → Prop where
  | receive {n : Nat} {r : RpdoConfig} (h : c.rpdos[n]? = some r) :
      HasPdo ⟨.receive, n⟩ r.mappings r.transmissionType
  | transmit {n : Nat} {t : TpdoConfig} (h : c.tpdos[n]? = some t) :
      HasPdo ⟨.transmit, n⟩ t.mappings t.transmissionType

/-- What is wrong with a configuration. -/
inductive Violates : ConfigError → Prop where
  | nodeId (h : ¬AllowedNodeId c.nodeId) : Violates (.invalidNodeId c.nodeId)
  | counterOverflow (h : ¬AllowedOverflow c.sync.counterOverflow) :
      Violates (.invalidCounterOverflow c.sync.counterOverflow)
  | mappings {pdo : PdoName} {ms : List UInt32} {type : TransmissionType}
      (hpdo : c.HasPdo pdo ms type) (h : 8 < ms.length) : Violates (.tooManyMappings pdo ms.length)
  | transmissionType {pdo : PdoName} {ms : List UInt32} {type : TransmissionType}
      (hpdo : c.HasPdo pdo ms type) (h : ReservedType type) :
      Violates (.invalidTransmissionType pdo type)
  | syncStart {n : Nat} {t : TpdoConfig} (ht : c.tpdos[n]? = some t) (h : 240 < t.syncStart.toNat) :
      Violates (.invalidSyncStart ⟨.transmit, n⟩ t.syncStart)

end DeviceConfig

/-- Where a PDO stands in a configuration: in which part of it, and at which position. -/
def PdoName.place (pdo : PdoName) : List Nat :=
  match pdo.direction with
  | .receive => [2, pdo.n]
  | .transmit => [3, pdo.n]

/-- Where a violated rule stands among the rules, the order of which is the lexicographic one. -/
def ConfigError.place : ConfigError → List Nat
  | .invalidNodeId _ => [0]
  | .invalidCounterOverflow _ => [1]
  | .tooManyMappings pdo _ => pdo.place ++ [0]
  | .invalidTransmissionType pdo _ => pdo.place ++ [1]
  | .invalidSyncStart pdo _ => pdo.place ++ [2]

/-! ### Names of PDOs -/

namespace PdoName

theorem toList_describe (p : PdoName) : p.describe.toList =
    (if p.direction = .receive then 'R' else 'T') :: 'P' :: 'D' :: 'O' :: Nat.toDigits 10 p.n := by
  obtain ⟨direction, n⟩ := p
  unfold describe
  rw [String.toList_append, Nat.toString_eq_repr, Nat.toList_repr]
  cases direction <;> simp

theorem describe_inj {p q : PdoName} : p.describe = q.describe ↔ p = q := by
  refine ⟨fun h => ?_, congrArg describe⟩
  obtain ⟨dp, m⟩ := p
  obtain ⟨dq, n⟩ := q
  have hlist := congrArg String.toList h
  rw [toList_describe, toList_describe] at hlist
  obtain ⟨hletter, hrest⟩ := List.cons.inj hlist
  have hdirection : dp = dq := by
    cases dp <;> cases dq <;> simp_all
  have hdigits : Nat.toDigits 10 m = Nat.toDigits 10 n := by simpa using hrest
  have hposition : m = n := calc
    m = Nat.ofDigitChars 10 (Nat.toDigits 10 m) 0 := Nat.ofDigitChars_ten_toDigits.symm
    _ = Nat.ofDigitChars 10 (Nat.toDigits 10 n) 0 := by rw [hdigits]
    _ = n := Nat.ofDigitChars_ten_toDigits
  rw [hdirection, hposition]

end PdoName

/-! ### Violations in their order -/

/-- The error, if something is wrong. -/
def violation (wrong : Prop) [Decidable wrong] (e : ConfigError) : List ConfigError :=
  if wrong then [e] else []

/-- The violations of the rules for every PDO. -/
def pdoViolations (pdo : PdoName) (ms : List UInt32) (type : TransmissionType) : List ConfigError :=
  violation (8 < ms.length) (.tooManyMappings pdo ms.length) ++
    violation (ReservedType type) (.invalidTransmissionType pdo type)

def RpdoConfig.violations (c : RpdoConfig) (n : Nat) : List ConfigError :=
  pdoViolations ⟨.receive, n⟩ c.mappings c.transmissionType

def TpdoConfig.violations (c : TpdoConfig) (n : Nat) : List ConfigError :=
  pdoViolations ⟨.transmit, n⟩ c.mappings c.transmissionType ++
    violation (240 < c.syncStart.toNat) (.invalidSyncStart ⟨.transmit, n⟩ c.syncStart)

/-- The violations of entries, each of which is looked at with its position. -/
def entryViolations {α : Type} (violations : α → Nat → List ConfigError) (cs : List α) (n : Nat) :
    List ConfigError :=
  (cs.zipIdx n).flatMap fun c => violations c.1 c.2

def DeviceConfig.violations (c : DeviceConfig) : List ConfigError :=
  violation (¬AllowedNodeId c.nodeId) (.invalidNodeId c.nodeId) ++
    (violation (¬AllowedOverflow c.sync.counterOverflow)
        (.invalidCounterOverflow c.sync.counterOverflow) ++
      (entryViolations RpdoConfig.violations c.rpdos 0 ++
        entryViolations TpdoConfig.violations c.tpdos 0))

section Membership

variable {wrong : Prop} [Decidable wrong] {e e' : ConfigError} {pdo : PdoName} {ms : List UInt32}
  {type : TransmissionType} {n : Nat}

theorem mem_violation : e' ∈ violation wrong e ↔ wrong ∧ e' = e := by
  unfold violation
  by_cases h : wrong
  · simp [h]
  · simp [h]

theorem mem_pdoViolations : e ∈ pdoViolations pdo ms type ↔
    (8 < ms.length ∧ e = .tooManyMappings pdo ms.length) ∨
      (ReservedType type ∧ e = .invalidTransmissionType pdo type) := by
  simp only [pdoViolations, List.mem_append, mem_violation]

theorem TpdoConfig.mem_violations {c : TpdoConfig} : e ∈ c.violations n ↔
    e ∈ pdoViolations ⟨.transmit, n⟩ c.mappings c.transmissionType ∨
      (240 < c.syncStart.toNat ∧ e = .invalidSyncStart ⟨.transmit, n⟩ c.syncStart) := by
  simp only [violations, List.mem_append, mem_violation]

theorem mem_entryViolations {α : Type} {violations : α → Nat → List ConfigError} {cs : List α} :
    e ∈ entryViolations violations cs 0 ↔ ∃ n c, cs[n]? = some c ∧ e ∈ violations c n := by
  unfold entryViolations
  rw [List.mem_flatMap]
  constructor
  · rintro ⟨⟨c, n⟩, hc, he⟩
    exact ⟨n, c, List.mem_zipIdx_iff_getElem?.mp hc, he⟩
  · rintro ⟨n, c, hc, he⟩
    exact ⟨(c, n), List.mem_zipIdx_iff_getElem?.mpr hc, he⟩

namespace DeviceConfig

variable {c : DeviceConfig}

theorem mem_violations : e ∈ c.violations ↔
    (¬AllowedNodeId c.nodeId ∧ e = .invalidNodeId c.nodeId) ∨
      (¬AllowedOverflow c.sync.counterOverflow ∧
        e = .invalidCounterOverflow c.sync.counterOverflow) ∨
      (∃ n r, c.rpdos[n]? = some r ∧ e ∈ RpdoConfig.violations r n) ∨
      ∃ n t, c.tpdos[n]? = some t ∧ e ∈ TpdoConfig.violations t n := by
  simp only [violations, List.mem_append, mem_violation, mem_entryViolations]

theorem HasPdo.mem_violations (h : c.HasPdo pdo ms type) (he : e ∈ pdoViolations pdo ms type) :
    e ∈ c.violations := by
  rw [DeviceConfig.mem_violations]
  cases h with
  | receive hr => exact .inr (.inr (.inl ⟨_, _, hr, he⟩))
  | transmit ht => exact .inr (.inr (.inr ⟨_, _, ht, TpdoConfig.mem_violations.mpr (.inl he)⟩))

theorem HasPdo.violates (h : c.HasPdo pdo ms type) (he : e ∈ pdoViolations pdo ms type) :
    c.Violates e := by
  obtain ⟨hlen, rfl⟩ | ⟨htype, rfl⟩ := mem_pdoViolations.mp he
  · exact .mappings h hlen
  · exact .transmissionType h htype

/-- The list has everything that is wrong, and nothing else. -/
theorem mem_violations_iff : e ∈ c.violations ↔ c.Violates e := by
  constructor
  · intro he
    obtain ⟨h, rfl⟩ | ⟨h, rfl⟩ | ⟨n, r, hr, he⟩ | ⟨n, t, ht, he⟩ := mem_violations.mp he
    · exact .nodeId h
    · exact .counterOverflow h
    · exact (HasPdo.receive hr).violates he
    · obtain he | ⟨h, rfl⟩ := TpdoConfig.mem_violations.mp he
      · exact (HasPdo.transmit ht).violates he
      · exact .syncStart ht h
  · intro h
    cases h with
    | nodeId h => exact mem_violations.mpr (.inl ⟨h, rfl⟩)
    | counterOverflow h => exact mem_violations.mpr (.inr (.inl ⟨h, rfl⟩))
    | mappings hpdo h => exact hpdo.mem_violations (mem_pdoViolations.mpr (.inl ⟨h, rfl⟩))
    | transmissionType hpdo h => exact hpdo.mem_violations (mem_pdoViolations.mpr (.inr ⟨h, rfl⟩))
    | syncStart ht h =>
        exact mem_violations.mpr
          (.inr (.inr (.inr ⟨_, _, ht, TpdoConfig.mem_violations.mpr (.inr ⟨h, rfl⟩)⟩)))

theorem valid_iff : c.Valid ↔ ∀ e, ¬c.Violates e := by
  constructor
  · intro h e he
    cases he with
    | nodeId hid => exact hid h.nodeId
    | counterOverflow hoverflow => exact hoverflow h.counterOverflow
    | mappings hpdo hlen =>
        cases hpdo with
        | receive hr => exact Nat.not_lt.mpr (h.rpdos _ (List.mem_of_getElem? hr)).1 hlen
        | transmit ht => exact Nat.not_lt.mpr (h.tpdos _ (List.mem_of_getElem? ht)).1 hlen
    | transmissionType hpdo htype =>
        cases hpdo with
        | receive hr => exact (h.rpdos _ (List.mem_of_getElem? hr)).2 htype
        | transmit ht => exact (h.tpdos _ (List.mem_of_getElem? ht)).2.1 htype
    | syncStart ht hstart => exact Nat.not_lt.mpr (h.tpdos _ (List.mem_of_getElem? ht)).2.2 hstart
  · intro h
    refine ⟨Decidable.not_not.mp fun hid => h _ (.nodeId hid),
      Decidable.not_not.mp fun hoverflow => h _ (.counterOverflow hoverflow), fun r hr => ?_,
      fun t ht => ?_⟩
    · obtain ⟨n, hn⟩ := List.mem_iff_getElem?.mp hr
      exact ⟨Nat.not_lt.mp fun hlen => h _ (.mappings (.receive hn) hlen),
        fun htype => h _ (.transmissionType (.receive hn) htype)⟩
    · obtain ⟨n, hn⟩ := List.mem_iff_getElem?.mp ht
      exact ⟨Nat.not_lt.mp fun hlen => h _ (.mappings (.transmit hn) hlen),
        fun htype => h _ (.transmissionType (.transmit hn) htype),
        Nat.not_lt.mp fun hstart => h _ (.syncStart hn hstart)⟩

end DeviceConfig

end Membership

/-! ### The order of the violations -/

/-- The one error comes before the other. -/
def ConfigError.Before (e e' : ConfigError) : Prop := e.place < e'.place

section Order

variable {wrong : Prop} [Decidable wrong] {e e' : ConfigError} {pdo : PdoName} {ms : List UInt32}
  {type : TransmissionType} {n : Nat}

theorem pairwise_violation : (violation wrong e).Pairwise ConfigError.Before := by
  unfold violation
  split
  · exact List.pairwise_singleton _ _
  · exact .nil

theorem place_of_mem_pdoViolations (h : e ∈ pdoViolations pdo ms type) :
    e.place = pdo.place ++ [0] ∨ e.place = pdo.place ++ [1] := by
  obtain ⟨_, rfl⟩ | ⟨_, rfl⟩ := mem_pdoViolations.mp h
  · exact .inl rfl
  · exact .inr rfl

theorem place_append_lt (l : List Nat) {a b : Nat} (h : a < b) : l ++ [a] < l ++ [b] :=
  List.append_left_lt (List.cons_lt_cons_iff.mpr (.inl h))

theorem pairwise_pdoViolations : (pdoViolations pdo ms type).Pairwise ConfigError.Before := by
  refine List.pairwise_append.mpr ⟨pairwise_violation, pairwise_violation, fun e he e' he' => ?_⟩
  obtain ⟨_, rfl⟩ := mem_violation.mp he
  obtain ⟨_, rfl⟩ := mem_violation.mp he'
  exact place_append_lt pdo.place (by decide)

theorem RpdoConfig.place_of_mem_violations {c : RpdoConfig} (h : e ∈ c.violations n) :
    ∃ k, e.place = [2, n, k] := by
  obtain h | h := place_of_mem_pdoViolations h
  · exact ⟨0, h⟩
  · exact ⟨1, h⟩

theorem TpdoConfig.place_of_mem_violations {c : TpdoConfig} (h : e ∈ c.violations n) :
    ∃ k, e.place = [3, n, k] := by
  obtain h | ⟨_, rfl⟩ := mem_violations.mp h
  · obtain h | h := place_of_mem_pdoViolations h
    · exact ⟨0, h⟩
    · exact ⟨1, h⟩
  · exact ⟨2, rfl⟩

theorem TpdoConfig.pairwise_violations (c : TpdoConfig) (n : Nat) :
    (c.violations n).Pairwise ConfigError.Before := by
  refine List.pairwise_append.mpr ⟨pairwise_pdoViolations, pairwise_violation, fun e he e' he' => ?_⟩
  obtain ⟨_, rfl⟩ := mem_violation.mp he'
  unfold ConfigError.Before
  obtain h | h := place_of_mem_pdoViolations he
  · rw [h]
    exact place_append_lt _ (by decide)
  · rw [h]
    exact place_append_lt _ (by decide)

/-- The violations of entries are in order if those of each entry are, and have its position. -/
theorem pairwise_entryViolations {α : Type} {violations : α → Nat → List ConfigError} {part : Nat}
    (hentry : ∀ c n, (violations c n).Pairwise ConfigError.Before)
    (hplace : ∀ c n, ∀ e ∈ violations c n, ∃ k, e.place = [part, n, k]) (cs : List α) (n : Nat) :
    (entryViolations violations cs n).Pairwise ConfigError.Before := by
  have hpositions : (cs.zipIdx n).Pairwise fun a b => a.2 < b.2 := by
    rw [← List.pairwise_map, List.zipIdx_map_snd]
    exact List.pairwise_lt_range'
  refine List.pairwise_flatMap.mpr ⟨fun c _ => hentry c.1 c.2, ?_⟩
  refine hpositions.imp fun {a b} hlt e he e' he' => ?_
  obtain ⟨k, hk⟩ := hplace a.1 a.2 e he
  obtain ⟨k', hk'⟩ := hplace b.1 b.2 e' he'
  unfold ConfigError.Before
  rw [hk, hk', List.cons_lt_cons_iff, List.cons_lt_cons_iff]
  exact .inr ⟨rfl, .inl hlt⟩

theorem ConfigError.before_of_part {a b : Nat} {l l' : List Nat} (h : e.place = a :: l)
    (h' : e'.place = b :: l') (hlt : a < b) : e.Before e' := by
  unfold Before
  rw [h, h']
  exact List.cons_lt_cons_iff.mpr (.inl hlt)

theorem DeviceConfig.pairwise_violations (c : DeviceConfig) :
    c.violations.Pairwise ConfigError.Before := by
  have hrpdos : ∀ e ∈ entryViolations RpdoConfig.violations c.rpdos 0, ∃ l, e.place = 2 :: l := by
    intro e he
    obtain ⟨n, r, _, he⟩ := mem_entryViolations.mp he
    obtain ⟨k, hk⟩ := RpdoConfig.place_of_mem_violations he
    exact ⟨_, hk⟩
  have htpdos : ∀ e ∈ entryViolations TpdoConfig.violations c.tpdos 0, ∃ l, e.place = 3 :: l := by
    intro e he
    obtain ⟨n, t, _, he⟩ := mem_entryViolations.mp he
    obtain ⟨k, hk⟩ := TpdoConfig.place_of_mem_violations he
    exact ⟨_, hk⟩
  have hpdos : ∀ e, e ∈ entryViolations RpdoConfig.violations c.rpdos 0 ∨
      e ∈ entryViolations TpdoConfig.violations c.tpdos 0 → ∃ a l, 1 < a ∧ e.place = a :: l := by
    rintro e (he | he)
    · obtain ⟨l, hl⟩ := hrpdos e he
      exact ⟨2, l, by decide, hl⟩
    · obtain ⟨l, hl⟩ := htpdos e he
      exact ⟨3, l, by decide, hl⟩
  unfold violations
  simp only [List.pairwise_append, List.mem_append]
  refine ⟨pairwise_violation, ⟨pairwise_violation, ⟨pairwise_entryViolations
    (fun _ _ => pairwise_pdoViolations) (fun _ _ _ => RpdoConfig.place_of_mem_violations) _ 0,
    pairwise_entryViolations TpdoConfig.pairwise_violations
      (fun _ _ _ => TpdoConfig.place_of_mem_violations) _ 0, fun e he e' he' => ?_⟩,
    fun e he e' he' => ?_⟩, fun e he e' he' => ?_⟩
  · obtain ⟨l, hl⟩ := hrpdos e he
    obtain ⟨l', hl'⟩ := htpdos e' he'
    exact ConfigError.before_of_part hl hl' (by decide)
  · obtain ⟨_, rfl⟩ := mem_violation.mp he
    obtain ⟨a, l, ha, hl⟩ := hpdos e' he'
    exact ConfigError.before_of_part rfl hl ha
  · obtain ⟨_, rfl⟩ := mem_violation.mp he
    obtain he' | he' := he'
    · obtain ⟨_, rfl⟩ := mem_violation.mp he'
      exact ConfigError.before_of_part rfl rfl (by decide)
    · obtain ⟨a, l, ha, hl⟩ := hpdos e' he'
      exact ConfigError.before_of_part rfl hl (Nat.lt_of_succ_lt ha)

end Order

/-! ### The check -/

/-- Report the first of the errors. -/
def firstError : List ConfigError → Except ConfigError Unit
  | [] => .ok ()
  | e :: _ => .error e

section Check

variable {wrong : Prop} [Decidable wrong] {e : ConfigError} {es : List ConfigError}

theorem firstError_eq_ok_iff : firstError es = .ok () ↔ ∀ e, e ∉ es := by
  rw [← List.eq_nil_iff_forall_not_mem]
  cases es with
  | nil => exact iff_of_true rfl rfl
  | cons e es => exact iff_of_false nofun nofun

/-- In a list that is in order, the first error is the one that comes before all others. -/
theorem firstError_eq_error_iff (h : es.Pairwise ConfigError.Before) :
    firstError es = .error e ↔ e ∈ es ∧ ∀ e' ∈ es, e' ≠ e → e.Before e' := by
  cases es with
  | nil => exact iff_of_false nofun fun he => List.not_mem_nil he.1
  | cons first es =>
      have hfirst := (List.pairwise_cons.mp h).1
      constructor
      · intro he
        obtain rfl := Except.error.inj he
        exact ⟨List.mem_cons_self, fun e' he' hne =>
          hfirst e' ((List.mem_cons.mp he').resolve_left hne)⟩
      · rintro ⟨he, hbefore⟩
        by_cases heq : first = e
        · exact congrArg Except.error heq
        · have hle := hfirst e ((List.mem_cons.mp he).resolve_left (Ne.symm heq))
          exact absurd (hbefore first List.mem_cons_self heq) (List.lt_asymm hle)

theorem firstError_append (es' : List ConfigError) :
    firstError (es ++ es') = (do firstError es; firstError es') := by
  cases es with
  | nil => rfl
  | cons e es => rfl

theorem firstError_violation : firstError (violation wrong e) = if wrong then .error e else .ok () := by
  unfold violation
  split
  · rfl
  · rfl

theorem firstError_violation_append :
    firstError (violation wrong e ++ es) = if wrong then .error e else firstError es := by
  rw [firstError_append, firstError_violation]
  split
  · rfl
  · rfl

end Check

theorem TransmissionType.isReserved_iff (type : TransmissionType) :
    type.isReserved = true ↔ ReservedType type := by
  unfold isReserved ReservedType
  rw [Bool.and_eq_true, decide_eq_true_iff, decide_eq_true_iff, UInt8.lt_iff_toNat_lt,
    UInt8.lt_iff_toNat_lt]
  change 240 < type.toNat ∧ type.toNat < 254 ↔ _
  omega

theorem checkPdoConfig_eq_firstError (pdo : PdoName) (ms : List UInt32) (type : TransmissionType) :
    checkPdoConfig pdo ms type = firstError (pdoViolations pdo ms type) := by
  unfold pdoViolations
  rw [firstError_violation_append, firstError_violation]
  refine ite_congr rfl (fun _ => rfl) fun _ => ?_
  exact ite_congr (propext type.isReserved_iff) (fun _ => rfl) fun _ => rfl

theorem RpdoConfig.validate_eq_firstError (c : RpdoConfig) (n : Nat) :
    c.validate n = firstError (c.violations n) := checkPdoConfig_eq_firstError _ _ _

theorem TpdoConfig.validate_eq_firstError (c : TpdoConfig) (n : Nat) :
    c.validate n = firstError (c.violations n) := by
  unfold TpdoConfig.violations
  rw [firstError_append, firstError_violation, ← checkPdoConfig_eq_firstError]
  refine congrArg (checkPdoConfig _ _ _ >>= ·) (funext fun _ => ?_)
  exact ite_congr (propext UInt8.lt_iff_toNat_lt) (fun _ => rfl) fun _ => rfl

theorem validateEntries_eq_firstError {α : Type} {check : α → Nat → Except ConfigError Unit}
    {violations : α → Nat → List ConfigError} (h : ∀ c n, check c n = firstError (violations c n))
    (cs : List α) (n : Nat) :
    validateEntries check cs n = firstError (entryViolations violations cs n) := by
  induction cs generalizing n with
  | nil => rfl
  | cons c cs ih =>
      have hcons : entryViolations violations (c :: cs) n =
          violations c n ++ entryViolations violations cs (n + 1) := rfl
      rw [hcons, firstError_append, ← h, ← ih]
      rfl

/-- The check of a configuration stops at the first violation. -/
theorem DeviceConfig.validate_eq_firstError (c : DeviceConfig) :
    c.validate = firstError c.violations := by
  have hnode : (¬(1 ≤ c.nodeId ∧ c.nodeId ≤ 127) ∧ c.nodeId ≠ 255) ↔ ¬AllowedNodeId c.nodeId := by
    unfold AllowedNodeId
    rw [UInt8.le_iff_toNat_le, UInt8.le_iff_toNat_le, ne_eq, ← UInt8.toNat_inj]
    change ¬(1 ≤ c.nodeId.toNat ∧ c.nodeId.toNat ≤ 127) ∧ ¬c.nodeId.toNat = 255 ↔ _
    omega
  have hoverflow : (c.sync.counterOverflow = 1 ∨ syncStartMax < c.sync.counterOverflow) ↔
      ¬AllowedOverflow c.sync.counterOverflow := by
    unfold AllowedOverflow
    rw [UInt8.lt_iff_toNat_lt, ← UInt8.toNat_inj]
    change c.sync.counterOverflow.toNat = 1 ∨ 240 < c.sync.counterOverflow.toNat ↔ _
    omega
  unfold violations
  rw [firstError_violation_append, firstError_violation_append, firstError_append,
    ← validateEntries_eq_firstError RpdoConfig.validate_eq_firstError,
    ← validateEntries_eq_firstError TpdoConfig.validate_eq_firstError]
  refine ite_congr (propext hnode) (fun _ => rfl) fun _ => ?_
  exact ite_congr (propext hoverflow) (fun _ => rfl) fun _ => rfl

/-- **The check of a configuration is exact, and reports the first violated rule.**  It succeeds for the
valid configurations.  Otherwise the error is something that is wrong with the configuration, and all
else that is wrong with it comes later.  The name of a PDO is its direction and its decimal position, and
belongs to this PDO only. -/
theorem DeviceConfig.first_violation_reported (c : DeviceConfig) :
    (c.validate = .ok () ↔ c.Valid) ∧
      (∀ e, c.validate = .error e ↔
        c.Violates e ∧ ∀ e', c.Violates e' → e' ≠ e → e.place < e'.place) ∧
      (∀ n, PdoName.describe ⟨.receive, n⟩ = "RPDO" ++ toString n ∧
        PdoName.describe ⟨.transmit, n⟩ = "TPDO" ++ toString n) ∧
      ∀ p q : PdoName, p.describe = q.describe ↔ p = q := by
  refine ⟨?_, fun e => ?_, fun n => ⟨rfl, rfl⟩, fun p q => PdoName.describe_inj⟩
  · rw [validate_eq_firstError, firstError_eq_ok_iff, valid_iff]
    exact forall_congr' fun e => not_congr mem_violations_iff
  · rw [validate_eq_firstError, firstError_eq_error_iff c.pairwise_violations, mem_violations_iff]
    refine and_congr_right fun _ => forall_congr' fun e' => ?_
    rw [mem_violations_iff]
    exact Iff.rfl

/-- The second receive PDO has a reserved transmission type, and the transmit PDO has a mapping too many
and a SYNC start that is too high. -/
def faultyConfig : DeviceConfig :=
  { DeviceConfig.initial with
    rpdos := [.initial, { RpdoConfig.initial with transmissionType := 241 }]
    tpdos := [{ TpdoConfig.initial with
      mappings := List.replicate 9 0x20000108
      syncStart := 241 }] }

/-- Of three violations the first is reported. -/
theorem DeviceConfig.first_violation_reported_faulty :
    ¬faultyConfig.Valid ∧
      faultyConfig.validate = .error (.invalidTransmissionType ⟨.receive, 1⟩ 241) ∧
      (ConfigError.invalidTransmissionType ⟨.receive, 1⟩ 241).message =
        "RPDO1 has invalid transmission type 241" ∧
      [2, 1, 1] < (ConfigError.tooManyMappings ⟨.transmit, 0⟩ 9).place ∧
      [2, 1, 1] < (ConfigError.invalidSyncStart ⟨.transmit, 0⟩ 241).place := by
  obtain ⟨hok, herror, _⟩ := faultyConfig.first_violation_reported
  have hreported : faultyConfig.validate = .error (.invalidTransmissionType ⟨.receive, 1⟩ 241) := rfl
  have hfirst := ((herror _).mp hreported).2
  have ht : faultyConfig.tpdos[0]? = some _ := rfl
  refine ⟨fun hvalid => ?_, hreported, rfl, hfirst _ (.mappings (.transmit ht) (by decide)) nofun,
    hfirst _ (.syncStart ht (by decide)) nofun⟩
  rw [hok.mpr hvalid] at hreported
  cases hreported

end Canopen
