import StateTransition.Account.Info
import StateTransition.Fee.Rule
import StateTransition.Limits.Plan
import StateTransition.Version

set_option autoImplicit false

/-! Settings of trial chains, on which limits, fees and hooks can be tried out. -/

namespace StateTransition.Trial

/-- What a hook of a trial chain says that it weighs, at each occasion. -/
structure HookWeights where
  beginning : Weight
  idle : Weight
  upgrade : Weight

def HookWeights.none : HookWeights := ⟨.zero, .zero, .zero⟩

inductive MultiplierChoice where
  | kept
  | constant
  | targeted
deriving DecidableEq

structure Settings where
  weights : BlockWeights
  lengths : BlockLength
  existentialDeposit : Balance
  weightFee : Balance
  byteFee : Balance
  operationalMultiplier : UInt8
  hashCount : UInt64
  storeWeight : StoreWeight
  version : Version
  multiplier : MultiplierChoice
  target : Perquintill
  variability : Fixed
  /-- The bounds of the multiplier; the lower one is also the constant. -/
  leastMultiplier : Fixed
  mostMultiplier : Fixed
  first : HookWeights
  second : HookWeights
  /-- What the upgrade of the chain itself weighs. -/
  upgrade : Weight

namespace Settings

/-- Normal extrinsics may fill three quarters of a block, and operational ones have the rest
reserved for them. -/
def plainWeights : BlockWeights where
  baseBlock := ⟨10, 0⟩
  maxBlock := ⟨1000000000, Word.top⟩
  classes :=
    { normal :=
        { baseExtrinsic := ⟨5, 0⟩, maxExtrinsic := none
          maxTotal := some ⟨750000000, Word.top⟩, reserved := some ⟨0, Word.top⟩ }
      operational :=
        { baseExtrinsic := ⟨10, 0⟩, maxExtrinsic := none
          maxTotal := some ⟨1000000000, Word.top⟩, reserved := some ⟨250000000, Word.top⟩ }
      mandatory :=
        { baseExtrinsic := ⟨5, 0⟩, maxExtrinsic := none, maxTotal := none, reserved := none } }

def plainVersion : Version where
  specName := "mock"
  implementationName := "mock-impl"
  authoring := 1
  spec := 1
  implementation := 1
  transaction := 2

def plain : Settings where
  weights := plainWeights
  lengths := ⟨⟨3072, 4096, 4096⟩⟩
  existentialDeposit := 10
  weightFee := 1
  byteFee := 1
  operationalMultiplier := 5
  hashCount := 10
  storeWeight := ⟨10, 100⟩
  version := plainVersion
  multiplier := .kept
  target := .ofPercent _ 25
  variability := .ofRatio 75 1000000
  leastMultiplier := .ofRatio 1 10
  mostMultiplier := .top
  first := .none
  second := .none
  upgrade := .zero

def multiplierRule (settings : Settings) : MultiplierRule :=
  match settings.multiplier with
  | .kept => .kept
  | .constant => .constant settings.leastMultiplier
  | .targeted =>
      .targeted settings.target settings.variability settings.leastMultiplier
        settings.mostMultiplier

end Settings

end StateTransition.Trial
