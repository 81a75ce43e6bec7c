import StateTransition.Fee.Multiplier
import StateTransition.Proofs.Action
import StateTransition.Proofs.Codec
import StateTransition.Proofs.Trap
import StateTransition.Proofs.Word

set_option autoImplicit false

/-! The multiplier of weight fees moves with the blocks and stays between its bounds. A block that
is at least as full as it should be never lowers it, any other never raises it, and none of the
divisions on the way fails. -/

namespace StateTransition

/-! ### Fixed-point numbers -/

namespace Fixed

variable (left right : Fixed)

private theorem ofParts_toNat : ofParts left.toNat = left :=
  congrArg Fixed.mk (@Word.clamp_toNat U128 _ left.parts)

theorem le_saturatingAdd : left.toNat ≤ (left.saturatingAdd right).toNat :=
  @Word.le_saturatingAdd U128 _ left.parts right.parts

private theorem saturatingSub_le : (left.saturatingSub right).toNat ≤ left.toNat := by
  have rest : (left.saturatingSub right).toNat = left.toNat - right.toNat :=
    @Word.toNat_saturatingSub U128 _ left.parts right.parts
  omega

private theorem saturatingAdd_zero : left.saturatingAdd zero = left := left.ofParts_toNat

private theorem saturatingMul_zero : left.saturatingMul zero = zero := by
  change ofParts (left.toNat * 0 / unit) = zero
  rw [Nat.mul_zero, Nat.zero_div]
  rfl

private theorem zero_saturatingMul : zero.saturatingMul right = zero := by
  change ofParts (0 * right.toNat / unit) = zero
  rw [Nat.zero_mul, Nat.zero_div]
  rfl

private theorem ofRatio_zero (denominator : Nat) : ofRatio 0 denominator = zero := by
  rw [ofRatio, Nat.zero_mul, Nat.zero_div]
  rfl

def ofRatioOrTrap (numerator denominator : Nat) : Except Trap Fixed :=
  ofParts <$> quotientOrTrap (numerator * unit) denominator

def ofPartsOrTrap (parts : Nat) : Except Trap Fixed :=
  match (Word.ofNat? parts : Option U128) with
  | some parts => .ok ⟨parts⟩
  | none => .error (.stated "attempt to divide with overflow")

def divideOrTrap (left right : Fixed) : Except Trap Fixed :=
  quotientOrTrap (left.toNat * unit) right.toNat >>= ofPartsOrTrap

private theorem ofRatioOrTrap_of_pos (numerator : Nat) {denominator : Nat}
    (some : 0 < denominator) :
    ofRatioOrTrap numerator denominator = .ok (ofRatio numerator denominator) := by
  rw [ofRatioOrTrap, quotientOrTrap_of_ne_zero (Nat.ne_of_gt some)]
  rfl

private theorem ofPartsOrTrap_of_fits {parts : Nat} (fits : parts < Bytes.span (Word.width U128)) :
    ofPartsOrTrap parts = .ok (ofParts parts) := by
  rw [ofPartsOrTrap, Word.ofNat?, if_pos fits]
  rfl

private theorem divideOrTrap_of_one_le {right : Fixed} (large : unit ≤ right.toNat) :
    left.divideOrTrap right = .ok (left.divide right) := by
  have positive : 0 < unit := by decide
  have fits : left.toNat * unit / right.toNat < Bytes.span (Word.width U128) := calc
    left.toNat * unit / right.toNat ≤ left.toNat * unit / unit := Nat.div_le_div_left large positive
    _ = left.toNat := Nat.mul_div_cancel _ positive
    _ < Bytes.span (Word.width U128) := Word.toNat_lt left.parts
  rw [divideOrTrap, quotientOrTrap_bind (Nat.ne_of_gt (Nat.lt_of_lt_of_le positive large))]
  exact ofPartsOrTrap_of_fits fits

end Fixed

theorem toNat_fixedMax (left right : Fixed) :
    (left.max right).toNat = max left.toNat right.toNat := by
  unfold Fixed.max
  by_cases order : left.toNat < right.toNat
  · rw [if_pos order]
    omega
  · rw [if_neg order]
    omega

/-- Between bounds that are the right way round there is always a nearest number. -/
theorem clamp?_of_ordered {least most : Fixed} (ordered : least.toNat ≤ most.toNat)
    (number : Fixed) :
    ∃ next, number.clamp? least most = some next ∧
      next.toNat = max least.toNat (min number.toNat most.toNat) := by
  unfold Fixed.clamp?
  rw [if_neg (Nat.not_lt.mpr ordered)]
  by_cases small : number.toNat < least.toNat
  · rw [if_pos small]
    exact ⟨least, rfl, by omega⟩
  · rw [if_neg small]
    by_cases great : most.toNat < number.toNat
    · rw [if_pos great]
      exact ⟨most, rfl, by omega⟩
    · rw [if_neg great]
      exact ⟨number, rfl, by omega⟩

def Share.ofRatioOrTrap (whole part total : Nat) : Except Trap (Share whole) :=
  if total < part then .ok (one whole) else ofParts whole <$> quotientOrTrap (part * whole) total

private theorem Share.ofRatioOrTrap_of_pos (whole part : Nat) {total : Nat} (some : 0 < total) :
    ofRatioOrTrap whole part total = .ok (ofRatio whole part total) := by
  unfold ofRatioOrTrap ofRatio
  rw [quotientOrTrap_of_ne_zero (Nat.ne_of_gt some)]
  by_cases more : total < part
  · rw [if_pos more, if_pos (Or.inr more)]
  · rw [if_neg more, if_neg (not_or.mpr ⟨Nat.ne_of_gt some, more⟩)]
    rfl

namespace Rules

variable {Account Number : Type}
variable {rules : Rules Account Number}

/-! ### One move -/

/-- The move of the multiplier in one of the two directions, for a distance from the target that is
given as a share of the limit, and for half of the square of the variability. -/
def movedBy (previous variability ratio half : Fixed) (grows : Prop) [Decidable grows] : Fixed :=
  let first := variability.saturatingMul ratio
  let second := half.saturatingMul (ratio.saturatingMul ratio)
  if grows then previous.saturatingAdd ((first.saturatingAdd second).saturatingMul previous)
  else previous.saturatingSub ((first.saturatingSub second).saturatingMul previous)

def distance (target : Perquintill) (used limit : UInt64) : Nat :=
  (used.toNat - target.of limit.toNat) + (target.of limit.toNat - used.toNat)

section

variable (previous variability : Fixed) {target : Perquintill} {used limit : UInt64}

private theorem moved_eq : moved previous variability target used limit =
    movedBy previous variability (.ofRatio (distance target used limit) (max limit.toNat 1))
      ((variability.saturatingMul variability).divide (.ofInteger 2))
      (target.of limit.toNat ≤ used.toNat) := rfl

theorem le_moved (enough : target.of limit.toNat ≤ used.toNat) :
    previous.toNat ≤ (moved previous variability target used limit).toNat := by
  rw [moved_eq, movedBy, if_pos enough]
  exact Fixed.le_saturatingAdd _ _

theorem moved_le (scarce : used.toNat < target.of limit.toNat) :
    (moved previous variability target used limit).toNat ≤ previous.toNat := by
  rw [moved_eq, movedBy, if_neg (Nat.not_le.mpr scarce)]
  exact Fixed.saturatingSub_le _ _

theorem moved_of_exact (exact : used.toNat = target.of limit.toNat) :
    moved previous variability target used limit = previous := by
  -- Without a distance both terms vanish, so that the multiplier grows by nothing.
  have here : distance target used limit = 0 := by
    unfold distance
    omega
  rw [moved_eq, movedBy, if_pos (Nat.le_of_eq exact.symm), here, Fixed.ofRatio_zero]
  simp only [Fixed.saturatingMul_zero, Fixed.saturatingAdd_zero, Fixed.zero_saturatingMul]

end

/-! ### Divisions

The way to the next multiplier once more, with a trap for every division that fails. -/

def movedOrTrap (previous variability : Fixed) (target : Perquintill) (used limit : UInt64) :
    Except Trap Fixed := do
  let ratio ← Fixed.ofRatioOrTrap (distance target used limit) (max limit.toNat 1)
  let half ← (variability.saturatingMul variability).divideOrTrap (.ofInteger 2)
  return movedBy previous variability ratio half (target.of limit.toNat ≤ used.toNat)

def scarcerOrTrap (used limit : Weight) : Except Trap (UInt64 × UInt64) := do
  let byTime ← Share.ofRatioOrTrap 1000000000 used.refTime.toNat (max limit.refTime.toNat 1)
  let byProof ← Share.ofRatioOrTrap 1000000000 used.proofSize.toNat (max limit.proofSize.toNat 1)
  return if byTime.parts < byProof.parts then (used.proofSize, limit.proofSize)
    else (used.refTime, limit.refTime)

/-- What normal extrinsics have used in the dimension that is filled more, and their limit there.
They count up to the limit. -/
def limiting (rules : Rules Account Number) (store : Store) : UInt64 × UInt64 :=
  scarcer (((Item.blockWeight.get store).get .normal).lesser rules.normalLimit) rules.normalLimit

def multiplierAfterOrTrap (rules : Rules Account Number) (previous : Fixed) (store : Store) :
    Except Trap Fixed :=
  match rules.multiplierRule with
  | .kept => .ok previous
  | .constant value => .ok value
  | .targeted target variability least most => do
      let (used, limit) ← scarcerOrTrap
        (((Item.blockWeight.get store).get .normal).lesser rules.normalLimit) rules.normalLimit
      let next ← movedOrTrap (previous.max least) variability target used limit
      match next.clamp? least most with
      | some next => .ok next
      | none => .error .multiplierBounds

private theorem movedOrTrap_eq (previous variability : Fixed) (target : Perquintill)
    (used limit : UInt64) :
    movedOrTrap previous variability target used limit =
      .ok (moved previous variability target used limit) := by
  unfold movedOrTrap
  rw [Fixed.ofRatioOrTrap_of_pos _ (Nat.lt_of_lt_of_le Nat.one_pos (Nat.le_max_right _ 1)),
    Fixed.divideOrTrap_of_one_le _ (by decide)]
  rfl

private theorem scarcerOrTrap_eq (used limit : Weight) :
    scarcerOrTrap used limit = .ok (scarcer used limit) := by
  unfold scarcerOrTrap
  rw [Share.ofRatioOrTrap_of_pos _ _ (Nat.lt_of_lt_of_le Nat.one_pos (Nat.le_max_right _ 1)),
    Share.ofRatioOrTrap_of_pos _ _ (Nat.lt_of_lt_of_le Nat.one_pos (Nat.le_max_right _ 1))]
  rfl

theorem multiplierAfterOrTrap_eq (previous : Fixed) (store : Store) :
    rules.multiplierAfterOrTrap previous store = rules.multiplierAfter previous store := by
  unfold multiplierAfterOrTrap multiplierAfter
  cases rules.multiplierRule with
  | kept => rfl
  | constant value => rfl
  | targeted target variability least most =>
      dsimp only
      rw [scarcerOrTrap_eq]
      exact congrArg (fun found => found >>= fun next =>
          match Fixed.clamp? next least most with
          | some next => Except.ok next
          | none => Except.error Trap.multiplierBounds)
        (movedOrTrap_eq (previous.max least) variability target (rules.limiting store).1
          (rules.limiting store).2)

/-! ### The next multiplier -/

section

variable {target : Perquintill} {variability least most : Fixed}

private theorem multiplierAfter_eq
    (targeted : rules.multiplierRule = .targeted target variability least most)
    {previous next : Fixed} {store : Store}
    (clamped : (moved (previous.max least) variability target (rules.limiting store).1
      (rules.limiting store).2).clamp? least most = some next) :
    rules.multiplierAfter previous store = .ok next := by
  unfold multiplierAfter
  rw [targeted]
  change (match (moved (previous.max least) variability target (rules.limiting store).1
    (rules.limiting store).2).clamp? least most with
    | some next => Except.ok next
    | none => Except.error Trap.multiplierBounds) = _
  rw [clamped]

theorem multiplierAfter_clamped
    (targeted : rules.multiplierRule = .targeted target variability least most)
    (ordered : least.toNat ≤ most.toNat) (previous : Fixed) (store : Store) :
    ∃ next, rules.multiplierAfter previous store = .ok next ∧
      next.toNat = max least.toNat
        (min (moved (previous.max least) variability target (rules.limiting store).1
          (rules.limiting store).2).toNat most.toNat) := by
  obtain ⟨next, clamped, value⟩ := clamp?_of_ordered ordered
    (moved (previous.max least) variability target (rules.limiting store).1
      (rules.limiting store).2)
  exact ⟨next, multiplierAfter_eq targeted clamped, value⟩

end

private theorem nextMultiplier_put (next : Fixed) (store : Store) :
    Item.nextMultiplier.get (Item.nextMultiplier.put next store) = next := by
  have readsBack : Item.nextMultiplier.codec.decodeFront?
      (Item.nextMultiplier.codec.encode next) = some next :=
    ((@Codec.word_faithful U128 _).via (fun _ => rfl) fun _ _ => rfl).decodeFront?_encode _ trivial
  rw [Slot.get, Slot.stored?_put _ readsBack]
  rfl

theorem updateMultiplier_eq_ok {world after : World}
    (run : rules.updateMultiplier world = .ok () after) :
    rules.multiplierAfter (Item.nextMultiplier.get world.store) world.store =
      .ok (Item.nextMultiplier.get after.store) := by
  obtain ⟨previous, looked, looks, afterLooking⟩ := Action.bind_eq_ok run
  obtain ⟨next, asked, asks, changes⟩ := Action.bind_eq_ok afterLooking
  cases looks
  obtain ⟨found, rfl⟩ := Action.ask_eq_ok asks
  rw [Action.change_run] at changes
  cases changes
  rw [nextMultiplier_put]
  exact found

end Rules

end StateTransition
