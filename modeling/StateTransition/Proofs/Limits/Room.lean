import StateTransition.Limits.Room
import StateTransition.Proofs.Weight

set_option autoImplicit false

/-! What it takes to be admitted to a block, and how much of the block is used by what has been
admitted. A class that may fill a block up to a total never has more; two classes that draw on a
reserve in a full block never have more together than the block and the reserve. -/

namespace StateTransition

namespace PerClass

variable {α : Type}

theorem get_modify_same (values : PerClass α) (kind : DispatchClass) (change : α → α) :
    (values.modify kind change).get kind = change (values.get kind) :=
  get_set_same _ _ _

theorem get_modify_other (values : PerClass α) {changed other : DispatchClass}
    (different : other ≠ changed) (change : α → α) :
    (values.modify changed change).get other = values.get other :=
  get_set_other _ different _

end PerClass

theorem not_exceeds {weight limit : Weight} (below : ¬exceeds weight (some limit) = true) :
    weight.Within limit :=
  Weight.within_of_not_anyGreater below

namespace ClassLimits

def Limited (limits : ClassLimits) : Prop := limits.maxTotal.isSome ∨ limits.reserved.isSome

end ClassLimits

namespace BlockWeights

variable {weights : BlockWeights} {consumed next : ConsumedWeight} {info : DispatchInfo}

private theorem accrue?_other {limits : ClassLimits} {weight : Weight} {kind other : DispatchClass}
    (accrued : accrue? limits consumed weight kind = some next) (different : other ≠ kind) :
    next.get other = consumed.get other := by
  unfold accrue? at accrued
  split at accrued
  · cases accrued
    exact PerClass.get_modify_other _ different _
  · obtain ⟨sum, _, rfl⟩ := Option.map_eq_some_iff.mp accrued
    exact PerClass.get_set_other _ different _

private theorem accrue?_same {limits : ClassLimits} {weight : Weight} {kind : DispatchClass}
    (limited : limits.Limited) (accrued : accrue? limits consumed weight kind = some next)
    (dimension : Dimension) :
    (next.get kind).along dimension =
      (consumed.get kind).along dimension + weight.along dimension := by
  unfold accrue? at accrued
  split at accrued
  · rename_i unlimited
    simp only [Option.isNone_iff_eq_none] at unlimited
    simp [ClassLimits.Limited, unlimited] at limited
  · obtain ⟨sum, added, rfl⟩ := Option.map_eq_some_iff.mp accrued
    rw [PerClass.get_set_same]
    exact Weight.checkedAdd?_along added dimension

private theorem accrue?_of_fits {limits : ClassLimits} {weight : Weight} {kind : DispatchClass}
    (fits : ∀ dimension,
      (consumed.get kind).along dimension + weight.along dimension < 18446744073709551616) :
    ∃ next, accrue? limits consumed weight kind = some next := by
  unfold accrue?
  split
  · exact ⟨_, rfl⟩
  · unfold ConsumedWeight.checkedAdd?
    rw [Weight.checkedAdd?_of_fits fits]
    exact ⟨_, rfl⟩

/-- What an extrinsic has to meet to be admitted, and what the block has used with it. -/
structure Admits (weights : BlockWeights) (info : DispatchInfo) (consumed next : ConsumedWeight) :
    Prop where
  others : ∀ other, other ≠ info.kind → next.get other = consumed.get other
  charged : (weights.get info.kind).Limited → ∀ dimension,
    (next.get info.kind).along dimension = (consumed.get info.kind).along dimension +
      (info.weight.saturatingAdd (weights.get info.kind).baseExtrinsic).along dimension
  total : ∀ limit, (weights.get info.kind).maxTotal = some limit →
    (next.get info.kind).Within limit
  full : next.total.Within weights.maxBlock ∨
    ∀ reserve, (weights.get info.kind).reserved = some reserve →
      (next.get info.kind).Within reserve

theorem consumedWith_admits (admitted : weights.consumedWith consumed info = .ok next) :
    weights.Admits info consumed next := by
  unfold consumedWith at admitted
  dsimp only at admitted
  cases accrued : accrue? (weights.get info.kind) consumed
      (info.weight.saturatingAdd (weights.get info.kind).baseExtrinsic) info.kind with
  | none =>
      rw [accrued] at admitted
      cases admitted
  | some sum =>
      rw [accrued] at admitted
      dsimp only at admitted
      by_cases above : exceeds (sum.get info.kind) (weights.get info.kind).maxTotal = true
      · rw [if_pos above] at admitted
        cases admitted
      rw [if_neg above] at admitted
      by_cases crowded : (sum.total.anyGreater weights.maxBlock &&
          exceeds (sum.get info.kind) (weights.get info.kind).reserved) = true
      · rw [if_pos crowded] at admitted
        cases admitted
      rw [if_neg crowded] at admitted
      cases admitted
      constructor
      · intro other different
        exact accrue?_other accrued different
      · intro limited dimension
        exact accrue?_same limited accrued dimension
      · intro limit limits
        rw [limits] at above
        exact not_exceeds above
      · simp only [Bool.and_eq_true, not_and] at crowded
        by_cases full : next.total.anyGreater weights.maxBlock = true
        · right
          intro reserve reserves
          have below := crowded full
          rw [reserves] at below
          exact not_exceeds below
        · exact Or.inl (Weight.within_of_not_anyGreater full)

/-! ### Blocks that are within their limits -/

/-- The classes of a block have used no more than they may, each for itself and those with a reserve
together. -/
structure Respects (weights : BlockWeights) (consumed : ConsumedWeight) : Prop where
  total : ∀ kind ∈ DispatchClass.nonMandatory, ∀ limit,
    (weights.get kind).maxTotal = some limit → (consumed.get kind).Within limit
  single : ∀ normal operational, (weights.get .normal).reserved = some normal →
    (weights.get .operational).reserved = some operational →
    ∀ kind ∈ DispatchClass.nonMandatory,
      (consumed.get kind).Within (weights.maxBlock.larger (normal.larger operational))
  both : ∀ normal operational, (weights.get .normal).reserved = some normal →
    (weights.get .operational).reserved = some operational →
    (consumed.normal.saturatingAdd consumed.operational).Within
      ((weights.maxBlock.larger (normal.larger operational)).saturatingAdd
        (normal.larger operational))

theorem Respects.lessened (respects : weights.Respects consumed)
    (less : ∀ kind ∈ DispatchClass.nonMandatory, (next.get kind).Within (consumed.get kind)) :
    weights.Respects next := by
  constructor
  · intro kind member limit limits
    exact (less kind member).trans (respects.total kind member limit limits)
  · intro normal operational ofNormal ofOperational kind member
    exact (less kind member).trans
      (respects.single normal operational ofNormal ofOperational kind member)
  · intro normal operational ofNormal ofOperational dimension
    have bound := respects.both normal operational ofNormal ofOperational dimension
    have lessNormal : next.normal.along dimension ≤ consumed.normal.along dimension :=
      less .normal (by decide) dimension
    have lessOperational :
        next.operational.along dimension ≤ consumed.operational.along dimension :=
      less .operational (by decide) dimension
    rw [Weight.along_saturatingAdd] at bound ⊢
    omega

theorem respects_of_unused (unused : ∀ kind ∈ DispatchClass.nonMandatory,
    consumed.get kind = .zero) : weights.Respects consumed := by
  have nothing : ∀ kind ∈ DispatchClass.nonMandatory, ∀ dimension,
      (consumed.get kind).along dimension = 0 := by
    intro kind member dimension
    rw [unused kind member, Weight.along_zero]
  constructor
  · intro kind member limit _ dimension
    rw [nothing kind member]
    exact Nat.zero_le _
  · intro normal operational _ _ kind member dimension
    rw [nothing kind member]
    exact Nat.zero_le _
  · intro normal operational _ _ dimension
    have ofNormal : consumed.normal.along dimension = 0 := nothing .normal (by decide) dimension
    have ofOperational : consumed.operational.along dimension = 0 :=
      nothing .operational (by decide) dimension
    rw [Weight.along_saturatingAdd, ofNormal, ofOperational]
    exact Nat.zero_le _

theorem along_total (consumed : ConsumedWeight) (dimension : Dimension) :
    consumed.total.along dimension = min (consumed.normal.along dimension +
      consumed.operational.along dimension + consumed.mandatory.along dimension)
        18446744073709551615 := by
  unfold ConsumedWeight.total
  rw [Weight.along_saturatingAdd, Weight.along_saturatingAdd, Weight.along_saturatingAdd,
    Weight.along_zero]
  omega

private theorem along_le_total (consumed : ConsumedWeight) (kind : DispatchClass)
    (dimension : Dimension) :
    (consumed.get kind).along dimension ≤ consumed.total.along dimension := by
  have total := along_total consumed dimension
  have narrow := Weight.along_lt (consumed.get kind) dimension
  cases kind with
  | normal =>
      change consumed.normal.along dimension < _ at narrow
      change consumed.normal.along dimension ≤ _
      omega
  | operational =>
      change consumed.operational.along dimension < _ at narrow
      change consumed.operational.along dimension ≤ _
      omega
  | mandatory =>
      change consumed.mandatory.along dimension < _ at narrow
      change consumed.mandatory.along dimension ≤ _
      omega

private theorem accrue?_total {limits : ClassLimits} {weight : Weight} {kind : DispatchClass}
    (limited : limits.Limited) (accrued : accrue? limits consumed weight kind = some next)
    (dimension : Dimension) :
    next.total.along dimension ≤ consumed.total.along dimension + weight.along dimension := by
  have before := along_total consumed dimension
  have after := along_total next dimension
  have charged := accrue?_same limited accrued dimension
  cases kind with
  | normal =>
      have operational : next.operational = consumed.operational :=
        accrue?_other accrued (by decide : DispatchClass.operational ≠ .normal)
      have mandatory : next.mandatory = consumed.mandatory :=
        accrue?_other accrued (by decide : DispatchClass.mandatory ≠ .normal)
      change next.normal.along dimension = consumed.normal.along dimension + _ at charged
      rw [charged, operational, mandatory] at after
      omega
  | operational =>
      have normal : next.normal = consumed.normal :=
        accrue?_other accrued (by decide : DispatchClass.normal ≠ .operational)
      have mandatory : next.mandatory = consumed.mandatory :=
        accrue?_other accrued (by decide : DispatchClass.mandatory ≠ .operational)
      change next.operational.along dimension = consumed.operational.along dimension + _ at charged
      rw [normal, charged, mandatory] at after
      omega
  | mandatory =>
      have normal : next.normal = consumed.normal :=
        accrue?_other accrued (by decide : DispatchClass.normal ≠ .mandatory)
      have operational : next.operational = consumed.operational :=
        accrue?_other accrued (by decide : DispatchClass.operational ≠ .mandatory)
      change next.mandatory.along dimension = consumed.mandatory.along dimension + _ at charged
      rw [normal, operational, charged] at after
      omega

/-- Where the heaviest extrinsic of a class would fit into the class and into the block, there is
room for every one that is no heavier. -/
theorem consumedWith_of_fits {heaviest total : Weight}
    (limits : (weights.get info.kind).maxTotal = some total)
    (light : info.weight.Within heaviest)
    (fits : ∀ dimension, (consumed.get info.kind).along dimension + heaviest.along dimension +
      (weights.get info.kind).baseExtrinsic.along dimension ≤ total.along dimension)
    (room : ∀ dimension, consumed.total.along dimension + heaviest.along dimension +
      (weights.get info.kind).baseExtrinsic.along dimension ≤ weights.maxBlock.along dimension) :
    ∃ next, weights.consumedWith consumed info = .ok next := by
  have limited : (weights.get info.kind).Limited := Or.inl (by rw [limits]; rfl)
  have lighter : ∀ dimension,
      (info.weight.saturatingAdd (weights.get info.kind).baseExtrinsic).along dimension ≤
        heaviest.along dimension + (weights.get info.kind).baseExtrinsic.along dimension := by
    intro dimension
    have bound := light dimension
    rw [Weight.along_saturatingAdd]
    omega
  have summed : ∀ dimension, (consumed.get info.kind).along dimension +
      (info.weight.saturatingAdd (weights.get info.kind).baseExtrinsic).along dimension <
        18446744073709551616 := by
    intro dimension
    have bound := lighter dimension
    have fit := fits dimension
    have narrow := Weight.along_lt total dimension
    omega
  obtain ⟨next, accrued⟩ := @accrue?_of_fits consumed (weights.get info.kind) _ _ summed
  have inClass : exceeds (next.get info.kind) (some total) = false :=
    Weight.not_anyGreater_of_within fun dimension => by
      rw [accrue?_same limited accrued]
      have bound := lighter dimension
      have fit := fits dimension
      omega
  have inBlock : next.total.anyGreater weights.maxBlock = false :=
    Weight.not_anyGreater_of_within fun dimension => by
      have sum := accrue?_total limited accrued dimension
      have bound := lighter dimension
      have fit := room dimension
      omega
  unfold consumedWith
  dsimp only
  rw [accrued]
  dsimp only
  rw [limits, inClass, inBlock]
  exact ⟨_, rfl⟩

/-- Together with a block that is not full, or within the larger of the reserves. -/
theorem Admits.bounded (admits : weights.Admits info consumed next) {normal operational : Weight}
    (ofNormal : (weights.get .normal).reserved = some normal)
    (ofOperational : (weights.get .operational).reserved = some operational)
    (member : info.kind ∈ DispatchClass.nonMandatory) (dimension : Dimension) :
    next.total.along dimension ≤ weights.maxBlock.along dimension ∨
      (next.get info.kind).along dimension ≤ (normal.larger operational).along dimension := by
  rcases admits.full with roomy | reserved
  · exact Or.inl (roomy dimension)
  · right
    rw [Weight.along_larger]
    cases kind : info.kind with
    | normal =>
        rw [kind] at reserved
        have within := reserved normal ofNormal dimension
        omega
    | operational =>
        rw [kind] at reserved
        have within := reserved operational ofOperational dimension
        omega
    | mandatory =>
        rw [kind] at member
        cases member with
        | tail _ later => cases later with
          | tail _ none => cases none

private theorem Admits.respects_both (admits : weights.Admits info consumed next)
    (respects : weights.Respects consumed) {normal operational : Weight}
    (ofNormal : (weights.get .normal).reserved = some normal)
    (ofOperational : (weights.get .operational).reserved = some operational) :
    (next.normal.saturatingAdd next.operational).Within
      ((weights.maxBlock.larger (normal.larger operational)).saturatingAdd
        (normal.larger operational)) := by
  intro dimension
  have others := admits.others
  have before := respects.both normal operational ofNormal ofOperational dimension
  have alone := respects.single normal operational ofNormal ofOperational
  have normalBefore := alone .normal (by decide) dimension
  have operationalBefore := alone .operational (by decide) dimension
  have total := along_total next dimension
  have wide := Weight.along_lt weights.maxBlock dimension
  rw [Weight.along_larger] at normalBefore operationalBefore
  rw [Weight.along_saturatingAdd, Weight.along_saturatingAdd, Weight.along_larger] at before ⊢
  cases kind : info.kind with
  | normal =>
      have bounded := admits.bounded ofNormal ofOperational (kind ▸ by decide) dimension
      have unchanged := others .operational (by rw [kind]; decide)
      rw [kind] at bounded
      change next.operational = consumed.operational at unchanged
      rw [unchanged] at total ⊢
      change _ ∨ next.normal.along dimension ≤ _ at bounded
      change consumed.operational.along dimension ≤ _ at operationalBefore
      omega
  | operational =>
      have bounded := admits.bounded ofNormal ofOperational (kind ▸ by decide) dimension
      have unchanged := others .normal (by rw [kind]; decide)
      rw [kind] at bounded
      change next.normal = consumed.normal at unchanged
      rw [unchanged] at total ⊢
      change _ ∨ next.operational.along dimension ≤ _ at bounded
      change consumed.normal.along dimension ≤ _ at normalBefore
      omega
  | mandatory =>
      have normalSame := others .normal (by rw [kind]; decide)
      have operationalSame := others .operational (by rw [kind]; decide)
      change next.normal = consumed.normal at normalSame
      change next.operational = consumed.operational at operationalSame
      rw [normalSame, operationalSame]
      exact before

theorem Admits.respects (admits : weights.Admits info consumed next)
    (respects : weights.Respects consumed) : weights.Respects next := by
  have others := admits.others
  constructor
  · intro kind member limit limits
    by_cases same : kind = info.kind
    · subst same
      exact admits.total limit limits
    · rw [others kind same]
      exact respects.total kind member limit limits
  · intro normal operational ofNormal ofOperational kind member dimension
    have before :=
      respects.single normal operational ofNormal ofOperational kind member dimension
    by_cases same : kind = info.kind
    · subst same
      have part : (next.get info.kind).along dimension ≤ next.total.along dimension :=
        along_le_total next info.kind dimension
      rw [Weight.along_larger]
      rcases admits.bounded ofNormal ofOperational member dimension with roomy | reserved
      · omega
      · omega
    · rw [others kind same]
      exact before
  · intro normal operational ofNormal ofOperational
    exact admits.respects_both respects ofNormal ofOperational

end BlockWeights

end StateTransition
