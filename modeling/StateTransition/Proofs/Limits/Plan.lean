import StateTransition.Limits.Plan
import StateTransition.Proofs.Limits.Room

set_option autoImplicit false

/-! Limits that follow from a plan. Where the limit on a single extrinsic was derived from the share
of the block that is used before its extrinsics, every extrinsic that respects it fits into a block
in which nothing but such a beginning has been used; so what the pool takes is not kept out of all
blocks by their beginnings. -/

namespace StateTransition

private theorem PerClass.get_ofFunction {α : Type} (value : DispatchClass → α)
    (kind : DispatchClass) : (PerClass.ofFunction value).get kind = value kind := by
  cases kind <;> rfl

theorem DispatchClass.mem_all (kind : DispatchClass) : kind ∈ DispatchClass.all := by
  cases kind <;> simp [DispatchClass.all]

namespace BlockWeights

variable {weights : BlockWeights} {kind : DispatchClass}

/-! ### Consistent limits -/

/-- What is demanded of the limits of a class. A total that is missing is the greatest weight, and
one of zero closes the class; so it is with a reserve. -/
structure Consistent (weights : BlockWeights) (kind : DispatchClass) : Prop where
  total : (∀ dimension,
      weights.baseBlock.along dimension <
          ((weights.get kind).maxTotal.getD .top).along dimension ∧
        (weights.get kind).baseExtrinsic.along dimension <
          ((weights.get kind).maxTotal.getD .top).along dimension) ∨
    (weights.get kind).maxTotal.getD .top = .zero
  fits : ((weights.get kind).maxExtrinsic.getD .zero).Within
    (((weights.get kind).maxTotal.getD .top).saturatingSub (weights.get kind).baseExtrinsic)
  positive : ∀ dimension,
    0 < ((weights.get kind).maxExtrinsic.getD .top).along dimension
  reserve : (∀ dimension, (weights.get kind).baseExtrinsic.along dimension <
      ((weights.get kind).reserved.getD .top).along dimension) ∨
    (weights.get kind).reserved.getD .top = .zero
  within : ((weights.get kind).maxTotal.getD .zero).Within weights.maxBlock
  least : ∀ dimension,
    ((weights.get kind).baseExtrinsic.saturatingAdd weights.baseBlock).along dimension <
      weights.maxBlock.along dimension

private theorem demand_eq_nil_iff (condition : Bool) (fault : LimitFault) :
    demand condition fault = [] ↔ condition = true := by
  cases condition <;> simp [demand]

private theorem classFaults_eq_nil (faultless : weights.classFaults kind = []) :
    weights.Consistent kind := by
  simp only [classFaults, List.append_eq_nil_iff, demand_eq_nil_iff, Bool.or_eq_true,
    Bool.and_eq_true, beq_iff_eq, Weight.allGreater_iff, Weight.allAtLeast_iff,
    Weight.along_zero] at faultless
  obtain ⟨⟨⟨⟨⟨total, fits⟩, positive⟩, reserve⟩, within⟩, least⟩ := faultless
  exact
    { total := total.imp_left fun ⟨ofBlock, ofExtrinsic⟩ dimension =>
        ⟨ofBlock dimension, ofExtrinsic dimension⟩
      fits, positive, reserve, within, least }

private theorem validate_eq_ok {found : BlockWeights} (valid : weights.validate = .ok (.ok found)) :
    found = weights ∧ ∀ kind, weights.Consistent kind := by
  unfold validate at valid
  split at valid
  · cases faults : weights.faults with
    | nil =>
        rw [faults] at valid
        cases valid
        refine ⟨rfl, fun kind => classFaults_eq_nil ?_⟩
        exact List.flatMap_eq_nil_iff.mp faults kind kind.mem_all
    | cons fault others =>
        rw [faults] at valid
        cases valid
  · cases valid

end BlockWeights

/-! ### Derived limits -/

namespace LimitPlan

variable {plan : LimitPlan} {share : Perbill} {weights : BlockWeights} {kind : DispatchClass}

private theorem build_eq_ok (built : plan.build = .ok (.ok weights)) :
    weights = plan.limits ∧ ∀ kind, weights.Consistent kind := by
  obtain ⟨rfl, consistent⟩ := BlockWeights.validate_eq_ok built
  exact ⟨rfl, consistent⟩

private theorem limits_get (average : plan.beginning = some share) (kind : DispatchClass) :
    plan.limits.get kind =
      deriveExtrinsic (plan.maxBlock.share share) (plan.classes.get kind) := by
  rw [limits, BlockWeights.get, average]
  exact PerClass.get_ofFunction _ kind

private theorem deriveExtrinsic_of_none {beginning total : Weight} {limits : ClassLimits}
    (derived : limits.maxExtrinsic = none) (limited : limits.maxTotal = some total) :
    deriveExtrinsic beginning limits =
      { limits with
        maxExtrinsic := some ((total.saturatingSub beginning).saturatingSub limits.baseExtrinsic) } := by
  rw [deriveExtrinsic, derived, limited]
  rfl

/-- A derived limit leaves the beginning of a block and the base of the extrinsic in the total of the
class, which is a part of the block. -/
theorem derived_limit (average : plan.beginning = some share)
    (built : plan.build = .ok (.ok weights)) {total : Weight}
    (derived : (plan.classes.get kind).maxExtrinsic = none)
    (limited : (plan.classes.get kind).maxTotal = some total) :
    ∃ heaviest, (weights.get kind).maxExtrinsic = some heaviest ∧
      (weights.get kind).maxTotal = some total ∧ total.Within weights.maxBlock ∧
      ∀ dimension, 0 < heaviest.along dimension ∧
        (weights.maxBlock.share share).along dimension + heaviest.along dimension +
          (weights.get kind).baseExtrinsic.along dimension = total.along dimension := by
  obtain ⟨rfl, consistent⟩ := build_eq_ok built
  have shape := limits_get average kind
  rw [deriveExtrinsic_of_none derived limited] at shape
  have single := congrArg ClassLimits.maxExtrinsic shape
  have whole : (plan.limits.get kind).maxTotal = some total :=
    (congrArg ClassLimits.maxTotal shape).trans limited
  have base : (plan.limits.get kind).baseExtrinsic = (plan.classes.get kind).baseExtrinsic :=
    by rw [shape]
  have within := (consistent kind).within
  have positive := (consistent kind).positive
  rw [whole] at within
  rw [single] at positive
  refine ⟨_, single, whole, within, fun dimension => ⟨positive dimension, ?_⟩⟩
  -- As the difference is not zero, nothing was cut off by the subtractions.
  have difference := positive dimension
  simp only [Option.getD_some, Weight.along_saturatingSub] at difference
  rw [base, Weight.along_saturatingSub, Weight.along_saturatingSub]
  change (plan.maxBlock.share share).along dimension + _ + _ = _
  omega

end LimitPlan

theorem Rules.checkExtrinsicWeight_iff {Account Number : Type} {rules : Rules Account Number}
    {info : DispatchInfo} {heaviest : Weight}
    (single : (rules.weights.get info.kind).maxExtrinsic = some heaviest) :
    rules.checkExtrinsicWeight info = .ok () ↔ info.weight.Within heaviest := by
  unfold Rules.checkExtrinsicWeight
  rw [single]
  constructor
  · intro passes
    apply not_exceeds
    intro heavy
    rw [if_pos heavy] at passes
    cases passes
  · intro light
    have small : exceeds info.weight (some heaviest) = false := Weight.not_anyGreater_of_within light
    rw [small]
    rfl

/-! ### Room for what the pool takes -/

namespace LimitPlan

/-- An extrinsic that is no heavier than the derived limit of its class is admitted to every block
of which no more is used than a beginning may use, and the pool checks no more of its weight. -/
theorem derived_limit_admits {plan : LimitPlan} {share : Perbill} {weights : BlockWeights}
    {kind : DispatchClass} {total : Weight} (average : plan.beginning = some share)
    (built : plan.build = .ok (.ok weights)) (ordinary : kind ∈ DispatchClass.nonMandatory)
    (derived : (plan.classes.get kind).maxExtrinsic = none)
    (limited : (plan.classes.get kind).maxTotal = some total) :
    ∃ heaviest, (weights.get kind).maxExtrinsic = some heaviest ∧
      ∀ info : DispatchInfo, info.kind = kind →
        (info.weight.Within heaviest → ∀ used : Weight,
          used.Within (weights.maxBlock.share share) →
            ∃ next, weights.consumedWith ⟨.zero, .zero, used⟩ info = .ok next) ∧
        ∀ {Account Number : Type} (rules : Rules Account Number), rules.weights = weights →
          (rules.checkExtrinsicWeight info = .ok () ↔ info.weight.Within heaviest) := by
  obtain ⟨heaviest, single, whole, within, fits⟩ := derived_limit average built derived limited
  refine ⟨heaviest, single, ?_⟩
  rintro info rfl
  constructor
  · intro light used small
    have unused : ∀ dimension, ((⟨.zero, .zero, used⟩ : ConsumedWeight).get info.kind).along
        dimension = 0 := by
      intro dimension
      cases kind : info.kind with
      | normal => exact Weight.along_zero
      | operational => exact Weight.along_zero
      | mandatory => simp [kind, DispatchClass.nonMandatory] at ordinary
    apply BlockWeights.consumedWith_of_fits whole light
    · intro dimension
      have sum := (fits dimension).2
      rw [unused]
      omega
    · intro dimension
      have sum := (fits dimension).2
      have begun := small dimension
      have most := within dimension
      rw [BlockWeights.along_total, Weight.along_zero]
      dsimp only
      omega
  · rintro Account Number rules rfl
    exact Rules.checkExtrinsicWeight_iff single

/-- The heaviest normal extrinsic of the standard limits, behind the heaviest beginning. -/
theorem derived_limit_admits_heaviest :
    (sensible ⟨1000000000000, Word.top⟩ defaultNormalShare).build = .ok (.ok .standard) ∧
      BlockWeights.standard.maxBlock.share (.ofPercent 1000000000 10 : Perbill) =
        ⟨100000000000, 1844674407370955161⟩ ∧
      (BlockWeights.standard.get .normal).maxExtrinsic =
        some ⟨649892926000, 11990383647911208550⟩ ∧
      ∃ next, BlockWeights.standard.consumedWith
        ⟨.zero, .zero, ⟨100000000000, 1844674407370955161⟩⟩
        ⟨⟨649892926000, 11990383647911208550⟩, .normal, .yes⟩ = .ok next := by
  have built : (sensible ⟨1000000000000, Word.top⟩ defaultNormalShare).build =
      .ok (.ok .standard) := rfl
  have normal : DispatchClass.normal ∈ [DispatchClass.normal, .operational] := List.mem_cons_self
  obtain ⟨heaviest, single, admits⟩ := derived_limit_admits rfl built normal rfl rfl
  have limit : some heaviest = some ⟨649892926000, 11990383647911208550⟩ := single.symm.trans rfl
  cases limit
  refine ⟨built, rfl, rfl, ?_⟩
  exact (admits ⟨_, .normal, .yes⟩ rfl).1 (Weight.Within.refl _) _ (Weight.Within.refl _)

end LimitPlan

end StateTransition
