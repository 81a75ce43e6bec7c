import StateTransition.Proofs.Account.Frame
import StateTransition.Transaction.Check

set_option autoImplicit false

/-! What the checks of a transaction may change: the room of the block, the log, and the books on
the account that signed it. -/

namespace StateTransition

variable {Account Number : Type} [DecidableEq Account] [Word Number]
variable {keys : Bytes → Prop}

/-- The room that is left in a block is among the keys. -/
structure HoldsRoom (keys : Bytes → Prop) : Prop where
  weight : keys Item.blockWeight.key
  length : keys Item.extrinsicsLength.key

namespace Rules

variable {rules : Rules Account Number} {who : Account}

/-! ### Fees -/

section

omit [DecidableEq Account] [Word Number]

private theorem seen_feeParts (length : UInt32) (weight : Weight) (tip : Balance) (pays : Pays)
    (kind : DispatchClass) : Store.Seen (rules.feeParts length weight tip pays kind) := by
  have seen : Store.Seen Item.nextMultiplier.get := Slot.seen_get _
  cases pays with
  | no => exact Store.seen_const _
  | yes =>
      intro left right same
      have multipliers := seen left right same
      simp only [feeParts, multipliers]

private theorem seen_fee (length : UInt32) (info : DispatchInfo) (tip : Balance) :
    Store.Seen (rules.fee length info tip) :=
  (seen_feeParts length info.weight tip info.pays info.kind).map FeeDetails.final

private theorem seen_actualFee (length : UInt32) (info : DispatchInfo) (post : PostInfo)
    (tip : Balance) : Store.Seen (rules.actualFee length info post tip) :=
  (seen_feeParts length (post.actualWeight info) tip (post.finalPays info) info.kind).map
    FeeDetails.final

end

theorem payFee_local (books : rules.HoldsBooks who keys) (fee : Balance) :
    Attempt.Local keys (rules.payFee who fee) := by
  refine Attempt.Local.ite (Attempt.Local.pure none) ?_
  exact ((withdraw_local books fee .keepAlive).adapt _).bind fun paid =>
    Attempt.Local.pure (some paid)

theorem correctFee_local {payment : Payment Account} (books : rules.HoldsBooks payment.who keys)
    (passed : ∀ amount, Action.Local keys (rules.feesTaken amount)) (actual : Balance) :
    Action.Local keys (rules.correctFee payment actual) := by
  unfold correctFee
  cases payment.paid with
  | none => exact Action.Local.pure ()
  | some paid =>
      have refunded : Action.Local keys (rules.createInExisting payment.who
          (Word.saturatingSub paid actual)).run := createInExisting_local books _
      exact refunded.bind fun outcome => (passed _).bind fun _ => passed _

theorem settlePayment_local {payment : Payment Account}
    (books : rules.HoldsBooks payment.who keys)
    (passed : ∀ amount, Action.Local keys (rules.feesTaken amount)) (info : DispatchInfo)
    (post : PostInfo) (length : Nat) :
    Action.Local keys (rules.settlePayment payment info post length) := by
  refine (Action.Local.look (seen_actualFee _ info post payment.tip)).bind fun actual => ?_
  exact (correctFee_local books passed actual).bind fun _ => deposit_local books.log _

omit [DecidableEq Account] [Word Number] in
theorem updateMultiplier_local (inside : keys Item.nextMultiplier.key) :
    Action.Local keys rules.updateMultiplier := by
  have seen : Store.Seen Item.nextMultiplier.get := Slot.seen_get _
  have seenAfter : ∀ previous, Store.Seen (rules.multiplierAfter previous) := by
    intro previous left right same
    have consumed : Item.blockWeight.get left = Item.blockWeight.get right :=
      Slot.seen_get _ left right same
    unfold multiplierAfter
    rw [consumed]
  refine (Action.Local.look seen).bind fun previous => ?_
  refine (Action.Local.ask (seenAfter previous)).bind fun next => ?_
  exact Action.Local.change (Slot.put_local inside next)

/-! ### Room -/

omit [DecidableEq Account] [Word Number] in
private theorem seen_roomWith (info : DispatchInfo) (length : UInt32) :
    Store.Seen (rules.roomWith info length) := by
  intro left right same
  have lengths : Item.extrinsicsLength.get left = Item.extrinsicsLength.get right :=
    Slot.seen_get _ left right same
  have weights : Item.blockWeight.get left = Item.blockWeight.get right :=
    Slot.seen_get _ left right same
  unfold roomWith lengthWith Environment.extrinsicsLength
  rw [lengths, weights]

omit [DecidableEq Account] [Word Number] in
theorem takeRoom_local (room : HoldsRoom keys) (info : DispatchInfo) (length : UInt32) :
    Attempt.Local keys (Attempt.update (rules.takeRoom info length)) := by
  have seen : Store.Seen (rules.roomWith info length) := seen_roomWith info length
  refine Attempt.Local.update ?_ ?_
  · intro left right same
    have found := seen left right same
    simp only [takeRoom, found]
    cases rules.roomWith info length right <;> rfl
  · refine Store.Local.of_view seen fun taken => ?_
    cases taken with
    | error cause => exact ⟨_, Store.Local.id, fun store found => by rw [takeRoom, found]⟩
    | ok parts =>
        exact ⟨_, (Slot.put_local room.length parts.1).comp (Slot.put_local room.weight parts.2),
          fun store found => by rw [takeRoom, found]⟩

theorem returnRoom_local (room : HoldsRoom keys) (info : DispatchInfo) (post : PostInfo) :
    Store.Local keys (returnRoom info post) :=
  (Slot.modify_local room.weight _).ite Store.Local.id

/-! ### The signed context -/

omit [DecidableEq Account] in
private theorem seen_signedPart (terms : Terms Number) (check : Check) :
    Store.Seen (rules.signedPart terms check) := by
  cases check with
  | genesis =>
      have seen : Store.Seen (Item.blockHash.row (Word.zero : Number)).get := Slot.seen_get _
      exact seen.map fun hash => Except.ok (Except.ok hash.bytes)
  | mortality =>
      have seen : Store.Seen (rules.birthHash terms.era) := by
        have seenNumber : Store.Seen (Item.number : Slot Number Number).get := Slot.seen_get _
        intro left right same
        have numbers : (Environment.number left : Number) = Environment.number right :=
          seenNumber left right same
        unfold birthHash
        rw [numbers]
        cases terms.era.birth? (Word.convert (Environment.number right : Number)) with
        | none => rfl
        | some birth =>
            have there := Slot.seen_exists? (Item.blockHash.row (Word.convert birth : Number))
              left right same
            have shown := Slot.seen_get (Item.blockHash.row (Word.convert birth : Number))
              left right same
            simp only [there, shown]
      exact Query.seen_bind seen fun birth => Query.seen_pure _
  | sender => exact Query.seen_pure _
  | specVersion => exact Query.seen_pure _
  | transactionVersion => exact Query.seen_pure _
  | nonce => exact Query.seen_pure _
  | weight => exact Query.seen_pure _
  | payment => exact Query.seen_pure _

omit [DecidableEq Account] in
theorem seen_signedParts (terms : Terms Number) (checks : List Check) :
    Store.Seen (rules.signedParts terms checks) := by
  induction checks with
  | nil => exact Query.seen_pure _
  | cons check others ih =>
      refine Query.seen_bind (seen_signedPart terms check) fun part => ?_
      cases part with
      | error cause => exact Query.seen_pure _
      | ok part => exact Query.seen_bind ih fun rest => Query.seen_pure _

/-! ### Before the call -/

omit [DecidableEq Account] [Word Number] in
private theorem seen_checkRoom (info : DispatchInfo) (length : UInt32) :
    Store.Seen (rules.checkRoom info length) := by
  intro left right same
  have lengths : Item.extrinsicsLength.get left = Item.extrinsicsLength.get right :=
    Slot.seen_get _ left right same
  unfold checkRoom lengthWith Environment.extrinsicsLength
  rw [lengths]

section

omit [DecidableEq Account]

private theorem seen_validateNonce (nonce : Number) :
    Store.Seen (rules.validateNonce who nonce) := by
  intro left right same
  have infos : rules.accountInfo who left = rules.accountInfo who right :=
    seen_accountInfo who left right same
  unfold validateNonce
  rw [infos]

private theorem seen_validatePayment (tip : Balance) (info : DispatchInfo) (length : Nat) :
    Store.Seen (rules.validatePayment who tip info length) := by
  intro left right same
  have fees : rules.fee (UInt32.ofNat length) info tip left =
      rules.fee (UInt32.ofNat length) info tip right := seen_fee _ info tip left right same
  have balances : rules.freeBalance who left = rules.freeBalance who right :=
    seen_freeBalance who left right same
  unfold validatePayment canPay
  rw [fees, balances]

private theorem seen_validateCheck (terms : Terms Number) (info : DispatchInfo) (length : Nat)
    (check : Check) : Store.Seen (rules.validateCheck terms who info length check) := by
  cases check with
  | sender => exact Store.seen_const _
  | specVersion => exact Store.seen_const _
  | transactionVersion => exact Store.seen_const _
  | genesis => exact Store.seen_const _
  | mortality =>
      have seen : Store.Seen (Item.number : Slot Number Number).get := Slot.seen_get _
      intro left right same
      have numbers : (Environment.number left : Number) = Environment.number right :=
        seen left right same
      simp only [validateCheck, numbers]
  | nonce => exact (seen_validateNonce terms.nonce).map Except.ok
  | weight => exact (seen_checkRoom info _).map Except.ok
  | payment => exact (seen_validatePayment terms.tip info length).map Except.ok

theorem seen_validateSigned (terms : Terms Number) (info : DispatchInfo) (length : Nat)
    (checks : List Check) (valid : ValidTransaction) :
    Store.Seen (rules.validateSigned terms who info length valid checks) := by
  induction checks generalizing valid with
  | nil => exact Query.seen_pure _
  | cons check others ih =>
      refine Query.seen_bind (seen_validateCheck terms info length check) fun verdict => ?_
      cases verdict with
      | error cause => exact Query.seen_pure _
      | ok more => exact ih (valid.combine more)

end

omit [DecidableEq Account] [Word Number] in
theorem seen_validateBare (info : DispatchInfo) (length : Nat) (checks : List Check) :
    Store.Seen (rules.validateBare info length checks) := by
  intro left right same
  have rooms : rules.checkRoom info (UInt32.ofNat length) left =
      rules.checkRoom info (UInt32.ofNat length) right := seen_checkRoom info _ left right same
  have verdicts : ∀ check, rules.validateBareCheck info length check left =
      rules.validateBareCheck info length check right := by
    intro check
    cases check with
    | weight => exact rooms
    | sender => rfl
    | specVersion => rfl
    | transactionVersion => rfl
    | genesis => rfl
    | mortality => rfl
    | nonce => rfl
    | payment => rfl
  unfold validateBare
  simp only [verdicts]

omit [DecidableEq Account] in
theorem takeNonce_local (record : keys (rules.accountSlot who).key) (nonce : Number) :
    Attempt.Local keys (rules.takeNonce who nonce) := by
  have seen : Store.Seen (rules.checkNonce who nonce) := by
    intro left right same
    have infos : rules.accountInfo who left = rules.accountInfo who right :=
      seen_accountInfo who left right same
    unfold checkNonce
    rw [infos]
  exact (Attempt.Local.mk (Action.Local.look seen)).bind fun _ =>
    Attempt.Local.lift (incrementNonce_local record)

theorem takeFee_local (books : rules.HoldsBooks who keys) (tip : Balance) (info : DispatchInfo)
    (length : Nat) : Attempt.Local keys (rules.takeFee who tip info length) := by
  refine (Attempt.Local.look (seen_fee _ info tip)).bind fun fee => ?_
  exact (payFee_local books fee).bind fun paid => Attempt.Local.pure _

private theorem prepareCheck_local (room : HoldsRoom keys) (books : rules.HoldsBooks who keys)
    (terms : Terms Number) (info : DispatchInfo) (length : Nat) (check : Check) :
    Attempt.Local keys (rules.prepareCheck terms who info length check) := by
  have validated : Attempt.Local keys do
      let _ ← Attempt.ask (rules.validateCheck terms who info length check)
      return (none : Option (Payment Account)) :=
    (Attempt.Local.ask (seen_validateCheck terms info length check)).bind fun _ =>
      Attempt.Local.pure none
  cases check with
  | nonce => exact (takeNonce_local books.record terms.nonce).bind fun _ => Attempt.Local.pure none
  | weight => exact (takeRoom_local room info _).bind fun _ => Attempt.Local.pure none
  | payment =>
      exact (takeFee_local books terms.tip info length).bind fun paid =>
        Attempt.Local.pure (some paid)
  | sender => exact validated
  | specVersion => exact validated
  | transactionVersion => exact validated
  | genesis => exact validated
  | mortality => exact validated

theorem prepareSigned_local (room : HoldsRoom keys) (books : rules.HoldsBooks who keys)
    (terms : Terms Number) (info : DispatchInfo) (length : Nat) (checks : List Check) :
    Attempt.Local keys (rules.prepareSigned terms who info length checks) := by
  induction checks with
  | nil => exact Attempt.Local.pure none
  | cons check others ih =>
      refine (prepareCheck_local room books terms info length check).bind fun first => ?_
      exact ih.bind fun later => Attempt.Local.pure (first.or later)

omit [DecidableEq Account] [Word Number] in
theorem prepareBare_local (room : HoldsRoom keys) (info : DispatchInfo) (length : Nat)
    (checks : List Check) : Attempt.Local keys (rules.prepareBare info length checks) := by
  refine Attempt.Local.forM checks fun check _ => ?_
  cases check with
  | weight => exact takeRoom_local room info _
  | sender => exact Attempt.Local.pure ()
  | specVersion => exact Attempt.Local.pure ()
  | transactionVersion => exact Attempt.Local.pure ()
  | genesis => exact Attempt.Local.pure ()
  | mortality => exact Attempt.Local.pure ()
  | nonce => exact Attempt.Local.pure ()
  | payment => exact Attempt.Local.pure ()

/-! ### After the call -/

theorem settle_local {payment : Option (Payment Account)} (room : HoldsRoom keys)
    (books : ∀ paid ∈ payment, rules.HoldsBooks paid.who keys)
    (passed : ∀ amount, Action.Local keys (rules.feesTaken amount)) (info : DispatchInfo)
    (post : PostInfo) (length : Nat) (failed : Bool) (checks : List Check) :
    Attempt.Local keys (rules.settle payment info post length failed checks) := by
  refine Attempt.Local.forM checks fun check _ => ?_
  cases check with
  | weight =>
      exact (Attempt.Local.throw _).ite
        (Attempt.Local.lift (Action.Local.change (returnRoom_local room info post)))
  | payment =>
      cases payment with
      | none => exact Attempt.Local.pure ()
      | some paid =>
          exact Attempt.Local.lift (settlePayment_local (books paid rfl) passed info post length)
  | sender => exact Attempt.Local.pure ()
  | specVersion => exact Attempt.Local.pure ()
  | transactionVersion => exact Attempt.Local.pure ()
  | genesis => exact Attempt.Local.pure ()
  | mortality => exact Attempt.Local.pure ()
  | nonce => exact Attempt.Local.pure ()

end Rules

end StateTransition
