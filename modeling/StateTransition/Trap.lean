import StateTransition.Dispatch.Validity

set_option autoImplicit false

/-! Why a run stops for good. A trap is no answer of the chain: the block it happens in is
invalid, or the chain was set up wrongly. -/

namespace StateTransition

inductive Trap where
  | stated (text : String)
  | additionOverflow
  | subtractionOverflow
  | multiplicationOverflow
  | divisionByZero
  /-- Limits that were said to be consistent are not. -/
  | limits (text : String)
  /-- A state that had to stay the same has changed. -/
  | stateChanged (text : String)
  | layerLimit
  | layerClosed
  | parentHash
  | inherentPosition (index : Nat)
  | rejected (cause : Rejection)
  | digestLength
  | digestItem
  | stateRoot
  | extrinsicsRoot
  | timestampMissing
  | timestampRepeated
  | timestampTooEarly
  | timestampData
  | multiplierBounds
  | multiplierTooLow
  | normalUnlimited
deriving DecidableEq

namespace Trap

def message : Trap → String
  | .stated text => text
  | .additionOverflow => "attempt to add with overflow"
  | .subtractionOverflow => "attempt to subtract with overflow"
  | .multiplicationOverflow => "attempt to multiply with overflow"
  | .divisionByZero => "attempt to divide by zero"
  | .limits text => text
  | .stateChanged text => text
  | .layerLimit => "Always returning Ok; qed"
  | .layerClosed => "a transaction was started above; qed"
  | .parentHash => "Parent hash should be valid."
  | .inherentPosition index =>
      "Invalid inherent position for extrinsic at index " ++ toString index
  | .rejected cause => cause.message
  | .digestLength => "Number of digest items must match that calculated."
  | .digestItem => "Digest item must match that calculated."
  | .stateRoot => "Storage root must match that calculated."
  | .extrinsicsRoot => "Transaction trie root must be valid."
  | .timestampMissing => "Timestamp must be updated once in the block"
  | .timestampRepeated => "Timestamp must be updated only once in the block"
  | .timestampTooEarly =>
      "Timestamp must increment by at least <MinimumPeriod> between sequential blocks"
  | .timestampData => "Timestamp inherent data not correctly encoded"
  | .multiplierBounds => "assertion failed: min <= max"
  | .multiplierTooLow =>
      "The minimum bound of the multiplier is too low. When block saturation is more than " ++
        "target by 1% and multiplier is minimal then the multiplier doesn't increase."
  | .normalUnlimited =>
      "Setting `max_total` for `Normal` dispatch class is not compatible with " ++
        "`transaction-payment` module."

end Trap

end StateTransition
