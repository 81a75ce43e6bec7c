import StateTransition.Testnet.Network
import StateTransition.Proofs.Trap
import StateTransition.Proofs.Weight
import Mathlib.Data.List.Basic

set_option autoImplicit false

/-! The priority of a transaction. It grows with the tip, and it falls the heavier or the longer the
transaction is, since a block holds fewer of its like. No division on the way is one by zero, and an
operational transaction that has the same terms as a normal one never comes behind it. -/

namespace StateTransition

/-! ### How many things fit -/

/-- How many things of one size fit into a room. Each is at least one unit large and at most as
large as the room. -/
def fitting (room size : Nat) : Nat := room / min (max size 1) (max room 1)

private theorem fitting_antitone (room : Nat) {smaller larger : Nat} (order : smaller ≤ larger) :
    fitting room larger ≤ fitting room smaller :=
  Nat.div_le_div_left (by omega) (by omega)

private theorem fitting_mono {narrower wider : Nat} (order : narrower ≤ wider) (size : Nat) :
    fitting narrower size ≤ fitting wider size := by
  unfold fitting
  by_cases inside : max size 1 ≤ max narrower 1
  · rw [Nat.min_eq_left inside, Nat.min_eq_left (by omega)]
    exact Nat.div_le_div_right order
  · rcases Nat.eq_zero_or_pos narrower with rfl | some
    · rw [Nat.zero_div]
      exact Nat.zero_le _
    · -- What is too large for the narrower room fills it once, and finds a place in the wider.
      have once : narrower / min (max size 1) (max narrower 1) = 1 := by
        rw [Nat.min_eq_right (by omega), Nat.max_eq_left some, Nat.div_self some]
      have place : 0 < wider / min (max size 1) (max wider 1) := Nat.div_pos (by omega) (by omega)
      omega

namespace Weight

private theorem eq_zero_iff (value : UInt64) : value = 0 ↔ value.toNat = 0 := UInt64.toNat_inj.symm

/-- Of two parts that are missing in the same dimensions, the greater goes less often into a
weight. -/
theorem quotient?_antitone (whole : Weight) {lesser greater : Weight}
    (within : lesser.Within greater)
    (alike : ∀ dimension, lesser.along dimension = 0 ↔ greater.along dimension = 0) :
    ((whole.quotient? greater).getD 1).toNat ≤ ((whole.quotient? lesser).getD 1).toNat := by
  have sameTime : greater.refTime = 0 ↔ lesser.refTime = 0 := by
    rw [eq_zero_iff, eq_zero_iff]
    exact (alike .time).symm
  have sameProof : greater.proofSize = 0 ↔ lesser.proofSize = 0 := by
    rw [eq_zero_iff, eq_zero_iff]
    exact (alike .proof).symm
  have fewerByTime (some : lesser.refTime ≠ 0) :
      (whole.refTime / greater.refTime).toNat ≤ (whole.refTime / lesser.refTime).toNat := by
    rw [UInt64.toNat_div, UInt64.toNat_div]
    exact Nat.div_le_div_left (within .time) (Nat.pos_of_ne_zero (mt (eq_zero_iff _).mpr some))
  have fewerByProof (some : lesser.proofSize ≠ 0) :
      (whole.proofSize / greater.proofSize).toNat ≤ (whole.proofSize / lesser.proofSize).toNat := by
    rw [UInt64.toNat_div, UInt64.toNat_div]
    exact Nat.div_le_div_left (within .proof) (Nat.pos_of_ne_zero (mt (eq_zero_iff _).mpr some))
  unfold quotient?
  -- What is missing in one part is missing in the other, so both quotients take the same branch.
  by_cases noTime : lesser.refTime = 0
  · rw [beq_iff_eq.mpr noTime, beq_iff_eq.mpr (sameTime.mpr noTime)]
    by_cases noProof : lesser.proofSize = 0
    · simp only [beq_iff_eq.mpr noProof, beq_iff_eq.mpr (sameProof.mpr noProof), Nat.le_refl]
    · rw [beq_eq_false_iff_ne.mpr noProof, beq_eq_false_iff_ne.mpr (mt sameProof.mp noProof)]
      exact fewerByProof noProof
  · rw [beq_eq_false_iff_ne.mpr noTime, beq_eq_false_iff_ne.mpr (mt sameTime.mp noTime)]
    by_cases noProof : lesser.proofSize = 0
    · rw [beq_iff_eq.mpr noProof, beq_iff_eq.mpr (sameProof.mpr noProof)]
      exact fewerByTime noTime
    · rw [beq_eq_false_iff_ne.mpr noProof, beq_eq_false_iff_ne.mpr (mt sameProof.mp noProof)]
      have time := fewerByTime noTime
      have proof := fewerByProof noProof
      simp only [Option.getD_some, UInt64.toNat_min]
      omega

/-- How many times a part goes into a weight, where no division may be one by zero. -/
def quotientOrTrap? (whole part : Weight) : Except Trap (Option UInt64) :=
  match part.refTime == 0, part.proofSize == 0 with
  | true, true => .ok none
  | false, true => some <$> quotientOrTrap whole.refTime part.refTime
  | true, false => some <$> quotientOrTrap whole.proofSize part.proofSize
  | false, false => do
      let byTime ← quotientOrTrap whole.refTime part.refTime
      let byProof ← quotientOrTrap whole.proofSize part.proofSize
      return some (min byTime byProof)

private theorem quotientOrTrap?_eq (whole part : Weight) :
    whole.quotientOrTrap? part = .ok (whole.quotient? part) := by
  unfold quotientOrTrap? quotient?
  cases noTime : part.refTime == 0 with
  | true =>
      cases noProof : part.proofSize == 0 with
      | true => rfl
      | false =>
          dsimp only
          rw [quotientOrTrap_of_ne_zero (beq_eq_false_iff_ne.mp noProof)]
          rfl
  | false =>
      cases noProof : part.proofSize == 0 with
      | true =>
          dsimp only
          rw [quotientOrTrap_of_ne_zero (beq_eq_false_iff_ne.mp noTime)]
          rfl
      | false =>
          dsimp only
          rw [quotientOrTrap_of_ne_zero (beq_eq_false_iff_ne.mp noTime),
            quotientOrTrap_of_ne_zero (beq_eq_false_iff_ne.mp noProof)]
          rfl

end Weight

namespace Rules

variable {Account Number : Type}
variable (rules : Rules Account Number)

/-! ### Capacity -/

def countedWeight (weight : Weight) : Weight :=
  (weight.larger (.ofBoth 1)).lesser rules.weights.maxBlock

def countedLength (kind : DispatchClass) (length : Nat) : UInt64 :=
  min (max (Word.clamp length) 1) (max (Word.convert (rules.lengths.max.get kind)) 1)

private theorem capacity_eq (info : DispatchInfo) (length : Nat) : rules.capacity info length =
    min (Word.convert (rules.lengths.max.get info.kind) / rules.countedLength info.kind length)
      ((rules.weights.maxBlock.quotient? (rules.countedWeight info.weight)).getD 1) := rfl

private theorem along_countedWeight (weight : Weight) (dimension : Dimension) :
    (rules.countedWeight weight).along dimension =
      min (max (weight.along dimension) 1) (rules.weights.maxBlock.along dimension) := by
  have one : (Weight.ofBoth 1).along dimension = 1 := by cases dimension <;> rfl
  rw [countedWeight, Weight.along_lesser, Weight.along_larger, one]

private theorem countedWeight_eq_zero_iff (weight : Weight) (dimension : Dimension) :
    (rules.countedWeight weight).along dimension = 0 ↔
      rules.weights.maxBlock.along dimension = 0 := by
  rw [along_countedWeight]
  omega

private theorem toNat_convert_length (limit : UInt32) :
    (Word.convert limit : UInt64).toNat = limit.toNat :=
  @Word.toNat_clamp_of_lt UInt64 _ _ (Nat.lt_trans limit.toNat_lt (by decide))

private theorem toNat_countedLength (kind : DispatchClass) (length : Nat) :
    (rules.countedLength kind length).toNat =
      min (max (Word.clamp length : UInt64).toNat 1)
        (max (rules.lengths.max.get kind).toNat 1) := by
  rw [countedLength, UInt64.toNat_min, UInt64.toNat_max, UInt64.toNat_max, toNat_convert_length]
  rfl

private theorem countedLength_ne_zero (kind : DispatchClass) (length : Nat) :
    rules.countedLength kind length ≠ 0 := by
  rw [Ne, Weight.eq_zero_iff, toNat_countedLength]
  omega

private theorem toNat_capacity (info : DispatchInfo) (length : Nat) :
    (rules.capacity info length).toNat =
      min (fitting (rules.lengths.max.get info.kind).toNat (Word.clamp length : UInt64).toNat)
        ((rules.weights.maxBlock.quotient? (rules.countedWeight info.weight)).getD 1).toNat := by
  rw [capacity_eq, UInt64.toNat_min, UInt64.toNat_div, toNat_convert_length, toNat_countedLength]
  rfl

theorem capacity_antitone {kind : DispatchClass} {lighter heavier : Weight}
    (within : lighter.Within heavier) {shorter longer : Nat} (order : shorter ≤ longer)
    (pays declared : Pays) :
    (rules.capacity ⟨heavier, kind, pays⟩ longer).toNat ≤
      (rules.capacity ⟨lighter, kind, declared⟩ shorter).toNat := by
  have byLength := fitting_antitone (rules.lengths.max.get kind).toNat
    (@Word.toNat_clamp_mono UInt64 _ _ _ order)
  have counted : (rules.countedWeight lighter).Within (rules.countedWeight heavier) := by
    intro dimension
    have more := within dimension
    rw [along_countedWeight, along_countedWeight]
    omega
  have byWeight := rules.weights.maxBlock.quotient?_antitone counted fun dimension =>
    (rules.countedWeight_eq_zero_iff lighter dimension).trans
      (rules.countedWeight_eq_zero_iff heavier dimension).symm
  rw [toNat_capacity, toNat_capacity]
  change fitting _ (Word.clamp longer : UInt64).toNat ≤
    fitting _ (Word.clamp shorter : UInt64).toNat at byLength
  dsimp only
  omega

theorem capacity_mono {narrow wide : DispatchClass}
    (order : rules.lengths.max.get narrow ≤ rules.lengths.max.get wide) (weight : Weight)
    (length : Nat) (pays declared : Pays) :
    (rules.capacity ⟨weight, narrow, pays⟩ length).toNat ≤
      (rules.capacity ⟨weight, wide, declared⟩ length).toNat := by
  have more := fitting_mono (UInt32.le_iff_toNat_le.mp order) (Word.clamp length : UInt64).toNat
  rw [toNat_capacity, toNat_capacity]
  dsimp only
  omega

/-! ### Priority -/

/-- The priority of a transaction of which so many fit into a block. -/
def priorityFor (kind : DispatchClass) (tip fee : Balance) (capacity : UInt64) : UInt64 :=
  let scaled := Word.saturatingMul (Word.saturatingAdd tip 1) capacity
  match kind with
  | .normal | .mandatory => scaled
  | .operational =>
      let virtualTip := Word.saturatingMul fee (Word.convert rules.operationalMultiplier)
      Word.saturatingAdd scaled (Word.saturatingMul virtualTip capacity)

theorem priorityFor_mono (kind : DispatchClass) (fee : Balance) {lower higher : Balance}
    (tips : lower ≤ higher) {fewer more : UInt64} (order : fewer.toNat ≤ more.toNat) :
    rules.priorityFor kind lower fee fewer ≤ rules.priorityFor kind higher fee more := by
  rw [UInt64.le_iff_toNat_le]
  have one : (1 : UInt64).toNat ≤ (1 : UInt64).toNat := Nat.le_refl _
  have tipped := @Word.saturatingAdd_mono Balance _ _ _ _ _ (UInt64.le_iff_toNat_le.mp tips) one
  have scaled := @Word.saturatingMul_mono UInt64 _ _ _ _ _ tipped order
  cases kind with
  | normal => exact scaled
  | mandatory => exact scaled
  | operational =>
      have same : (Word.saturatingMul fee (Word.convert rules.operationalMultiplier)).toNat ≤
          (Word.saturatingMul fee (Word.convert rules.operationalMultiplier)).toNat :=
        Nat.le_refl _
      exact @Word.saturatingAdd_mono UInt64 _ _ _ _ _ scaled
        (@Word.saturatingMul_mono UInt64 _ _ _ _ _ same order)

theorem priorityFor_normal_le (tip fee : Balance) (capacity : UInt64) :
    rules.priorityFor .normal tip fee capacity ≤
      rules.priorityFor .operational tip fee capacity := by
  rw [UInt64.le_iff_toNat_le]
  exact @Word.le_saturatingAdd UInt64 _ _ _

/-- The priority of a transaction, where no division may be one by zero. -/
def priorityOrTrap (info : DispatchInfo) (length : Nat) (tip fee : Balance) :
    Except Trap UInt64 := do
  let byLength ← quotientOrTrap (Word.convert (rules.lengths.max.get info.kind) : UInt64)
    (rules.countedLength info.kind length)
  let byWeight ← rules.weights.maxBlock.quotientOrTrap? (rules.countedWeight info.weight)
  return rules.priorityFor info.kind tip fee (min byLength (byWeight.getD 1))

private theorem priorityOrTrap_eq (info : DispatchInfo) (length : Nat) (tip fee : Balance) :
    rules.priorityOrTrap info length tip fee = .ok (rules.priority info length tip fee) := by
  unfold priorityOrTrap
  rw [quotientOrTrap_of_ne_zero (rules.countedLength_ne_zero info.kind length),
    Weight.quotientOrTrap?_eq]
  rfl

/-- Transactions are ranked without a division by zero. Of two with the same final fee, the one
with the greater tip does not come behind; the heavier one does not come before, nor does the
longer one; and if normal extrinsics may not be longer than operational ones, then an operational
transaction does not come behind a normal one. -/
theorem priority_ordered (rules : Rules Account Number) (fee : Balance) :
    (∀ info length tip,
      rules.priorityOrTrap info length tip fee = .ok (rules.priority info length tip fee)) ∧
    (∀ info length (lower higher : Balance), lower ≤ higher →
      rules.priority info length lower fee ≤ rules.priority info length higher fee) ∧
    (∀ (lighter heavier : Weight) kind pays length tip,
      (∀ dimension, lighter.along dimension ≤ heavier.along dimension) →
      rules.priority ⟨heavier, kind, pays⟩ length tip fee ≤
        rules.priority ⟨lighter, kind, pays⟩ length tip fee) ∧
    (∀ info (shorter longer : Nat) tip, shorter ≤ longer →
      rules.priority info longer tip fee ≤ rules.priority info shorter tip fee) ∧
    (rules.lengths.max.get .normal ≤ rules.lengths.max.get .operational →
      ∀ weight pays declared length tip,
        rules.priority ⟨weight, .normal, pays⟩ length tip fee ≤
          rules.priority ⟨weight, .operational, declared⟩ length tip fee) := by
  refine ⟨fun info length tip => rules.priorityOrTrap_eq info length tip fee, ?_, ?_, ?_, ?_⟩
  · intro info length lower higher tips
    exact rules.priorityFor_mono info.kind fee tips (Nat.le_refl _)
  · intro lighter heavier kind pays length tip within
    exact rules.priorityFor_mono kind fee (UInt64.le_refl tip)
      (rules.capacity_antitone within (Nat.le_refl length) pays pays)
  · intro info shorter longer tip order
    exact rules.priorityFor_mono info.kind fee (UInt64.le_refl tip)
      (rules.capacity_antitone (Weight.Within.refl info.weight) order info.pays info.pays)
  · intro limits weight pays declared length tip
    have more := rules.capacity_mono limits weight length pays declared
    exact UInt64.le_trans
      (rules.priorityFor_mono .normal fee (UInt64.le_refl tip) more)
      (rules.priorityFor_normal_le tip fee _)

/-- On the test network normal extrinsics may be three quarters as long as operational ones. -/
theorem priority_ordered_on_network :
    let quick : Weight := ⟨1000, 0⟩
    let slow : Weight := ⟨2000000000000, 7⟩
    Testnet.rules.priority ⟨quick, .normal, .yes⟩ 4000 3 50 ≤
        Testnet.rules.priority ⟨quick, .normal, .yes⟩ 4000 8 50 ∧
      Testnet.rules.priority ⟨slow, .normal, .yes⟩ 4000 3 50 ≤
        Testnet.rules.priority ⟨quick, .normal, .yes⟩ 4000 3 50 ∧
      Testnet.rules.priority ⟨quick, .normal, .yes⟩ 4000 3 50 ≤
        Testnet.rules.priority ⟨quick, .normal, .yes⟩ 200 3 50 ∧
      Testnet.rules.priority ⟨quick, .normal, .yes⟩ 4000 3 50 ≤
        Testnet.rules.priority ⟨quick, .operational, .yes⟩ 4000 3 50 := by
  intro quick slow
  obtain ⟨_, byTip, byWeight, byLength, byClass⟩ := priority_ordered Testnet.rules 50
  have within (dimension : Dimension) : quick.along dimension ≤ slow.along dimension := by
    cases dimension <;> decide
  exact ⟨byTip _ _ 3 8 (by decide), byWeight quick slow .normal .yes 4000 3 within,
    byLength _ 200 4000 3 (by decide), byClass (by decide +kernel) quick .yes .yes 4000 3⟩

end Rules

end StateTransition
