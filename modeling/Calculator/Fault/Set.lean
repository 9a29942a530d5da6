/-
# Sets of faults

The faults found on a line so far.  `FaultSet.ofPred` builds a set from a test
and `k ∈ s` reads it back; every operation is given by what it does to
membership, and `FaultSet.ext` says that membership is all there is.
-/

import Calculator.Fault

namespace Calculator

/-- A set of fault kinds, one flag for each. -/
structure FaultSet where
  /-- Whether the set holds `Fault.lineTooLong`. -/
  lineTooLong : Bool
  /-- Whether the set holds `Fault.malformed`. -/
  malformed : Bool
  /-- Whether the set holds `Fault.literalTooLarge`. -/
  literalTooLarge : Bool
  /-- Whether the set holds `Fault.zeroDivisor`. -/
  zeroDivisor : Bool
  /-- Whether the set holds `Fault.outOfRange`. -/
  outOfRange : Bool
deriving DecidableEq

namespace FaultSet

/-- Whether a kind is in the set. -/
def has (s : FaultSet) : Fault → Bool
  | .lineTooLong => s.lineTooLong
  | .malformed => s.malformed
  | .literalTooLarge => s.literalTooLarge
  | .zeroDivisor => s.zeroDivisor
  | .outOfRange => s.outOfRange

instance : Membership Fault FaultSet := ⟨fun s k => s.has k = true⟩

instance (k : Fault) (s : FaultSet) : Decidable (k ∈ s) :=
  inferInstanceAs (Decidable (s.has k = true))

theorem mem_def {k : Fault} {s : FaultSet} : k ∈ s ↔ s.has k = true := Iff.rfl

/-- The set of the kinds that pass a test. -/
def ofPred (p : Fault → Bool) : FaultSet :=
  ⟨p .lineTooLong, p .malformed, p .literalTooLarge, p .zeroDivisor, p .outOfRange⟩

@[simp] theorem has_ofPred (p : Fault → Bool) (k : Fault) : (ofPred p).has k = p k := by
  cases k <;> rfl

/-- **A set is its members.** -/
@[ext] theorem ext {s t : FaultSet} (h : ∀ k, k ∈ s ↔ k ∈ t) : s = t := by
  have flag (k : Fault) : s.has k = t.has k := Bool.eq_iff_iff.2 (h k)
  cases s; cases t
  simp only [FaultSet.mk.injEq]
  exact ⟨flag .lineTooLong, flag .malformed, flag .literalTooLarge, flag .zeroDivisor,
    flag .outOfRange⟩

instance : EmptyCollection FaultSet := ⟨ofPred fun _ => false⟩

instance : Singleton Fault FaultSet := ⟨fun k => ofPred (· == k)⟩

instance : Insert Fault FaultSet := ⟨fun k s => ofPred fun j => j == k || s.has j⟩

instance : Union FaultSet := ⟨fun s t => ofPred fun k => s.has k || t.has k⟩

@[simp] theorem not_mem_empty (k : Fault) : ¬ k ∈ (∅ : FaultSet) := by cases k <;> decide

@[simp] theorem mem_singleton {j k : Fault} : j ∈ ({k} : FaultSet) ↔ j = k :=
  (Bool.eq_iff_iff.1 (has_ofPred (· == k) j)).trans beq_iff_eq

@[simp] theorem mem_insert {j k : Fault} {s : FaultSet} : j ∈ insert k s ↔ j = k ∨ j ∈ s :=
  (Bool.eq_iff_iff.1 (has_ofPred (fun i => i == k || s.has i) j)).trans <| by
    rw [Bool.or_eq_true, beq_iff_eq, mem_def]

@[simp] theorem mem_union {k : Fault} {s t : FaultSet} : k ∈ s ∪ t ↔ k ∈ s ∨ k ∈ t :=
  (Bool.eq_iff_iff.1 (has_ofPred (fun i => s.has i || t.has i) k)).trans <| by
    rw [Bool.or_eq_true, mem_def, mem_def]

theorem eq_empty_iff {s : FaultSet} : s = ∅ ↔ ∀ k, ¬ k ∈ s :=
  ⟨fun h k => h ▸ not_mem_empty k, fun h => ext fun k => iff_of_false (h k) (not_mem_empty k)⟩

@[simp] theorem union_eq_empty_iff {s t : FaultSet} : s ∪ t = ∅ ↔ s = ∅ ∧ t = ∅ := by
  simp only [eq_empty_iff, mem_union, not_or, forall_and]

@[simp] theorem insert_ne_empty (k : Fault) (s : FaultSet) : insert k s ≠ ∅ :=
  fun h => eq_empty_iff.1 h k (mem_insert.2 (.inl rfl))

@[simp] theorem union_empty (s : FaultSet) : s ∪ ∅ = s := ext fun k => by simp

theorem insert_empty (k : Fault) : (insert k ∅ : FaultSet) = {k} := ext fun j => by simp

/-- The set of every kind. -/
def full : FaultSet := ofPred fun _ => true

/-- The set of the kinds in a list. -/
def ofList (kinds : List Fault) : FaultSet := ofPred fun k => kinds.contains k

/-- The members, the most severe first. -/
def toList (s : FaultSet) : List Fault := Fault.all.filter s.has

@[simp] theorem mem_toList {k : Fault} {s : FaultSet} : k ∈ s.toList ↔ k ∈ s := by
  simp [toList, Fault.mem_all, mem_def]

/-- The member that is told to the sender of a line: the most severe one. -/
def mostSevere? (s : FaultSet) : Option Fault := s.toList.head?

/-- **The most severe member** is in the set, and nothing more severe is. -/
theorem mostSevere?_eq_some_iff {s : FaultSet} {k : Fault} :
    s.mostSevere? = some k ↔ k ∈ s ∧ ∀ j, j.rank < k.rank → ¬ j ∈ s := by
  have sorted : s.toList.Pairwise fun a b => a.rank ≤ b.rank :=
    (show Fault.all.Pairwise _ by decide).filter s.has
  have members : ∀ j, j ∈ s ↔ j ∈ s.toList := fun j => mem_toList.symm
  simp only [members, mostSevere?]
  cases h : s.toList with
  | nil => simp
  | cons first others =>
    rw [h] at sorted
    have least : ∀ j ∈ first :: others, first.rank ≤ j.rank :=
      List.forall_mem_cons.2 ⟨Nat.le_refl _, (List.pairwise_cons.1 sorted).1⟩
    rw [List.head?_cons, Option.some.injEq]
    constructor
    · rintro rfl
      exact ⟨List.mem_cons_self, fun j lower hj => Nat.not_lt.2 (least j hj) lower⟩
    · rintro ⟨hk, lower⟩
      have notLower : ¬ first.rank < k.rank := fun h => lower first h List.mem_cons_self
      exact Fault.rank_injective (Nat.le_antisymm (least k hk) (Nat.le_of_not_lt notLower))

/-- **Nothing is more severe than the length.** -/
theorem mostSevere?_eq_lineTooLong_iff {s : FaultSet} :
    s.mostSevere? = some .lineTooLong ↔ .lineTooLong ∈ s :=
  mostSevere?_eq_some_iff.trans <| and_iff_left fun _ lower => absurd lower (Nat.not_lt_zero _)

/-- **Only the length is more severe than the syntax.** -/
theorem mostSevere?_eq_malformed_iff {s : FaultSet} :
    s.mostSevere? = some .malformed ↔ .malformed ∈ s ∧ ¬ .lineTooLong ∈ s := by
  have above : ∀ fault : Fault, fault.rank < Fault.malformed.rank → fault = .lineTooLong := by
    intro fault
    cases fault <;> decide
  rw [mostSevere?_eq_some_iff]
  refine and_congr_right fun _ => ⟨fun first => first .lineTooLong (by decide), ?_⟩
  intro short fault lower
  rwa [above fault lower]

theorem mostSevere?_eq_none_iff {s : FaultSet} : s.mostSevere? = none ↔ s = ∅ := by
  rw [mostSevere?, List.head?_eq_none_iff, List.eq_nil_iff_forall_not_mem, eq_empty_iff]
  simp only [mem_toList]

/-- The set as a number: the sum of its members' bits. -/
def toBits (s : FaultSet) : Nat := s.toList.foldr (fun k bits => k.bit + bits) 0

/-- The set as the log writes it: its members' flags, or zero when it has none. -/
def describe (s : FaultSet) : String :=
  let flags := s.toList.map Fault.flag
  "ErrorSet(" ++ (if flags.isEmpty then "0x0" else " | ".intercalate flags) ++ ")"

end FaultSet
end Calculator
