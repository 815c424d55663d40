import Canopen.Proofs.Operations

/-! # Resolved mappings

Every mapping that comes out of the resolver is well formed: it has at most eight entries, its length
is the sum of the lengths of its entries and fits into a frame, and no dummy entry is longer than the
largest basic data type (`resolve_wellFormed`).  The same holds of the mapping of a PDO after any
change of its mapping parameters, since one that cannot be resolved is replaced by the mapping
without entries (`liveMapping_wellFormed`). -/

namespace Canopen

/-- The sum of the lengths of entries. -/
def Target.totalLen : List Target → Nat
  | [] => 0
  | t :: ts => t.len + totalLen ts

theorem Target.totalLen_append (ts ts' : List Target) :
    totalLen (ts ++ ts') = totalLen ts + totalLen ts' := by
  induction ts with
  | nil => simp only [List.nil_append, totalLen, Nat.zero_add]
  | cons t ts ih => simp only [List.cons_append, totalLen, ih, Nat.add_assoc]

/-- What holds of every mapping in use. -/
structure MappedPdo.WellFormed (m : MappedPdo) : Prop where
  length_le : m.targets.length ≤ maxMappings
  dataLen_eq : m.dataLen = Target.totalLen m.targets
  dataLen_le : m.dataLen ≤ maxPdoLength
  dummy_le : ∀ t ∈ m.targets, ∀ direction len, t = .dummy direction len → len ≤ 4

/-- What a resolved descriptor is: it follows the entries before it, fits into the frame, and is no
longer than the basic data type if it is a dummy entry. -/
theorem resolveEntry_ok {attributes : Attributes} {direction : Direction} {d : MappingDescriptor}
    {mapped : Nat} {e : ResolvedEntry} (h : resolveEntry attributes direction d mapped = .ok e) :
    e.totalLen = mapped + e.target.len ∧ e.totalLen ≤ maxPdoLength ∧
      ∀ direction len, e.target = .dummy direction len → len ≤ 4 := by
  unfold resolveEntry at h
  dsimp only at h
  split at h
  · cases h
  · rename_i len hlen
    split at h
    · cases h
    · rename_i hfit
      have hle : mapped + len ≤ maxPdoLength := by omega
      split at h
      · split at h
        · cases h
        · rename_i hdummy
          cases h
          refine ⟨rfl, hle, fun _ len' he => ?_⟩
          obtain ⟨_, rfl⟩ := Target.dummy.inj he
          exact Nat.le_trans (Nat.le_of_not_lt hdummy) (dummySize_le d.index)
      · split at h
        · cases h
        · split at h
          · cases h
          · split at h
            · cases h
            · split at h
              · cases h
                exact ⟨rfl, hle, fun _ _ he => by cases he⟩
              · cases h

namespace MappedPdo

theorem empty_wellFormed : empty.WellFormed where
  length_le := Nat.zero_le _
  dataLen_eq := rfl
  dataLen_le := Nat.zero_le _
  dummy_le := fun _ ht => by cases ht

theorem extend_wellFormed {attributes : Attributes} {direction : Direction} {m m' : MappedPdo}
    {d : MappingDescriptor} (hm : m.WellFormed) (h : extend attributes direction m d = .ok m') :
    m'.WellFormed := by
  obtain ⟨e, he, h⟩ := exists_of_bind_eq_ok h
  obtain ⟨htotal, hle, hdummy⟩ := resolveEntry_ok he
  split at h
  · rename_i hroom
    cases h
    refine ⟨?_, ?_, hle, ?_⟩
    · simp only [List.length_append, List.length_singleton]
      omega
    · rw [Target.totalLen_append, ← hm.dataLen_eq]
      exact htotal
    · intro t ht
      rcases List.mem_append.mp ht with ht | ht
      · exact hm.dummy_le t ht
      · rw [List.mem_singleton.mp ht]
        exact hdummy
  · cases h

/-- What holds of the mapping without entries and is kept by every further entry holds of every
resolved mapping. -/
theorem resolve_induction {attributes : Attributes} {direction : Direction} {P : MappedPdo → Prop}
    (hempty : P empty)
    (hextend : ∀ m m' d, P m → extend attributes direction m d = .ok m' → P m')
    {ds : List MappingDescriptor} {m : MappedPdo} (h : resolve attributes direction ds = .ok m) :
    P m := by
  have key : ∀ (ds : List MappingDescriptor) (m₀ : MappedPdo), P m₀ →
      ds.foldlM (extend attributes direction) m₀ = .ok m → P m := by
    intro ds
    induction ds with
    | nil =>
        intro m₀ h₀ h
        rw [← Except.ok.inj h]
        exact h₀
    | cons d ds ih =>
        intro m₀ h₀ h
        rw [List.foldlM_cons] at h
        obtain ⟨m₁, h₁, h⟩ := exists_of_bind_eq_ok h
        exact ih m₁ (hextend m₀ m₁ d h₀ h₁) h
  exact key ds empty hempty h

theorem resolve_wellFormed {attributes : Attributes} {direction : Direction}
    {ds : List MappingDescriptor} {m : MappedPdo} (h : resolve attributes direction ds = .ok m) :
    m.WellFormed :=
  resolve_induction empty_wellFormed (fun _ _ _ => extend_wellFormed) h

end MappedPdo

theorem PdoParams.liveMapping_wellFormed (p : PdoParams) (attributes : Attributes)
    (direction : Direction) (count : UInt8) :
    (p.liveMapping attributes direction count).WellFormed := by
  unfold liveMapping
  split
  · rename_i m hm
    exact MappedPdo.resolve_wellFormed hm
  · exact MappedPdo.empty_wellFormed

end Canopen
