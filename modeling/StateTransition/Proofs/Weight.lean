import StateTransition.Dispatch.Info
import StateTransition.Proofs.Word

set_option autoImplicit false

/-! Weights along each of their dimensions, where all arithmetic on them is that of numbers. -/

namespace StateTransition

inductive Dimension where
  | time
  | proof

namespace Weight

def along (weight : Weight) : Dimension → Nat
  | .time => weight.refTime.toNat
  | .proof => weight.proofSize.toNat

variable {dimension : Dimension}

theorem along_lt (weight : Weight) (dimension : Dimension) :
    weight.along dimension < 18446744073709551616 := by
  cases dimension with
  | time => exact weight.refTime.toNat_lt
  | proof => exact weight.proofSize.toNat_lt

theorem along_zero : zero.along dimension = 0 := by
  cases dimension <;> rfl

/-! ### Arithmetic -/

theorem toNat_saturatingAdd (left right : UInt64) :
    (Word.saturatingAdd left right).toNat =
      min (left.toNat + right.toNat) 18446744073709551615 :=
  @Word.toNat_clamp UInt64 _ (left.toNat + right.toNat)

theorem along_saturatingAdd (left right : Weight) :
    (left.saturatingAdd right).along dimension =
      min (left.along dimension + right.along dimension) 18446744073709551615 := by
  cases dimension with
  | time => exact toNat_saturatingAdd left.refTime right.refTime
  | proof => exact toNat_saturatingAdd left.proofSize right.proofSize

theorem along_saturatingSub (left right : Weight) :
    (left.saturatingSub right).along dimension = left.along dimension - right.along dimension := by
  cases dimension with
  | time => exact Word.toNat_saturatingSub left.refTime right.refTime
  | proof => exact Word.toNat_saturatingSub left.proofSize right.proofSize

theorem toNat_lesser (left right : UInt64) :
    (if left < right then left else right).toNat = min left.toNat right.toNat := by
  by_cases less : left < right
  · rw [if_pos less]
    have order := UInt64.lt_iff_toNat_lt.mp less
    omega
  · rw [if_neg less]
    have order := UInt64.le_iff_toNat_le.mp (UInt64.not_lt.mp less)
    omega

theorem toNat_larger (left right : UInt64) :
    (if right < left then left else right).toNat = max left.toNat right.toNat := by
  by_cases more : right < left
  · rw [if_pos more]
    have order := UInt64.lt_iff_toNat_lt.mp more
    omega
  · rw [if_neg more]
    have order := UInt64.le_iff_toNat_le.mp (UInt64.not_lt.mp more)
    omega

theorem along_lesser (left right : Weight) :
    (left.lesser right).along dimension = min (left.along dimension) (right.along dimension) := by
  cases dimension with
  | time => exact toNat_lesser left.refTime right.refTime
  | proof => exact toNat_lesser left.proofSize right.proofSize

theorem along_larger (left right : Weight) :
    (left.larger right).along dimension = max (left.along dimension) (right.along dimension) := by
  cases dimension with
  | time => exact toNat_larger left.refTime right.refTime
  | proof => exact toNat_larger left.proofSize right.proofSize

theorem checkedAdd?_along {left right sum : Weight}
    (added : left.checkedAdd? right = some sum) (dimension : Dimension) :
    sum.along dimension = left.along dimension + right.along dimension := by
  unfold checkedAdd? combine? at added
  cases time : Word.checkedAdd? left.refTime right.refTime with
  | none =>
      rw [time] at added
      cases added
  | some timeSum =>
      cases proof : Word.checkedAdd? left.proofSize right.proofSize with
      | none =>
          rw [time, proof] at added
          cases added
      | some proofSum =>
          rw [time, proof] at added
          cases added
          cases dimension with
          | time => exact Word.checkedAdd?_eq_some time
          | proof => exact Word.checkedAdd?_eq_some proof

theorem checkedAdd?_of_fits {left right : Weight}
    (fits : ∀ dimension, left.along dimension + right.along dimension < 18446744073709551616) :
    left.checkedAdd? right = some (left.saturatingAdd right) := by
  unfold checkedAdd? combine?
  rw [Word.checkedAdd?_of_fits (fits .time), Word.checkedAdd?_of_fits (fits .proof)]
  rfl

/-! ### Comparison -/

def Within (weight limit : Weight) : Prop :=
  ∀ dimension, weight.along dimension ≤ limit.along dimension

theorem Within.refl (weight : Weight) : weight.Within weight := fun _ => Nat.le_refl _

theorem Within.trans {first second third : Weight} (lower : first.Within second)
    (upper : second.Within third) : first.Within third :=
  fun dimension => Nat.le_trans (lower dimension) (upper dimension)

theorem within_of_not_anyGreater {weight limit : Weight} (below : ¬weight.anyGreater limit = true) :
    weight.Within limit := by
  simp only [anyGreater, any, greater, Bool.or_eq_true, decide_eq_true_eq, not_or,
    UInt64.not_lt] at below
  intro dimension
  cases dimension with
  | time => exact UInt64.le_iff_toNat_le.mp below.1
  | proof => exact UInt64.le_iff_toNat_le.mp below.2

theorem not_anyGreater_of_within {weight limit : Weight} (within : weight.Within limit) :
    weight.anyGreater limit = false := by
  simp only [anyGreater, any, greater, Bool.or_eq_false_iff, decide_eq_false_iff_not,
    UInt64.not_lt]
  exact ⟨UInt64.le_iff_toNat_le.mpr (within .time), UInt64.le_iff_toNat_le.mpr (within .proof)⟩

theorem forall_dimension {holds : Dimension → Prop} :
    (∀ dimension, holds dimension) ↔ holds .time ∧ holds .proof := by
  constructor
  · intro both
    exact ⟨both .time, both .proof⟩
  · rintro ⟨time, proof⟩ dimension
    cases dimension with
    | time => exact time
    | proof => exact proof

theorem allGreater_iff (larger smaller : Weight) :
    larger.allGreater smaller = true ↔
      ∀ dimension, smaller.along dimension < larger.along dimension := by
  simp only [forall_dimension, allGreater, all, greater, Bool.and_eq_true, decide_eq_true_eq,
    UInt64.lt_iff_toNat_lt, along]

theorem allAtLeast_iff (limit weight : Weight) :
    limit.allAtLeast weight = true ↔ weight.Within limit := by
  simp only [Within, forall_dimension, allAtLeast, all, atLeast, Bool.and_eq_true,
    decide_eq_true_eq, UInt64.le_iff_toNat_le, along]

end Weight

theorem PostInfo.along_actualWeight (post : PostInfo) (info : DispatchInfo)
    (dimension : Dimension) :
    (post.actualWeight info).along dimension =
      min ((post.actual.getD info.weight).along dimension) (info.weight.along dimension) := by
  unfold actualWeight
  cases post.actual with
  | none => exact (Nat.min_self _).symm
  | some actual => exact Weight.along_lesser actual info.weight

theorem PostInfo.along_unspent (post : PostInfo) (info : DispatchInfo) (dimension : Dimension) :
    (post.actualWeight info).along dimension ≤ info.weight.along dimension ∧
      (post.unspent info).along dimension + (post.actualWeight info).along dimension =
        info.weight.along dimension := by
  have less : (post.actualWeight info).along dimension ≤ info.weight.along dimension := by
    rw [along_actualWeight]
    exact Nat.min_le_right _ _
  unfold unspent
  rw [Weight.along_saturatingSub]
  omega

end StateTransition
