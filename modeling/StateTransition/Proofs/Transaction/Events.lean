import StateTransition.Proofs.Account.Events
import StateTransition.Proofs.Transaction.Admission

set_option autoImplicit false

/-! The events of a transaction beside those of its call. The fee that is taken of its signer is told
before the call, unless it is nothing; when the fee is settled it is told what was paid in the end. -/

namespace StateTransition.Rules

open Item (Under under_head not_under_head)

variable {Account Number : Type} [Word Number]
variable {rules : Rules Account Number} {who : Account} {world after : World}

/-! ### Before the call -/

def takings (who : Account) (fee : Balance) : List (Event Account) :=
  if fee = 0 then [] else [.balances (.withdraw who fee)]

theorem takings_length (who : Account) (fee : Balance) : (takings who fee).length ≤ 1 := by
  unfold takings
  split
  · exact Nat.zero_le 1
  · exact Nat.le_refl 1

theorem takings_plain (who : Account) (fee : Balance) :
    ∀ event ∈ takings who fee, event.isPlain = true := by
  unfold takings
  split
  · exact List.forall_mem_nil _
  · exact List.forall_mem_singleton.mpr rfl

private theorem ne_account_of_log {key : Bytes} (under : Under logNames key) :
    key ≠ (rules.accountSlot who).key := by
  rintro rfl
  exact under.apart (by decide : ∀ name ∈ logNames, name ∉ balanceItems) (account_under who)

variable [DecidableEq Account]

private theorem charged_adds (fee : Balance) (store : Store) :
    rules.Adds (takings who fee) store (rules.charged who fee store) := by
  unfold takings charged
  by_cases nothing : fee = 0
  · rw [if_pos nothing, if_pos nothing]
    exact Adds.refl store
  · rw [if_neg nothing, if_neg nothing]
    exact (Adds.record _ _).behind fun key under =>
      lightened_destroyed_spares fee store (ne_account_of_log under) (apart_of_log (by decide) key under)

theorem takeRoom_adds {info : DispatchInfo} {length : UInt32}
    (run : (Attempt.update (rules.takeRoom info length)).run world = .ok (.ok ()) after) :
    rules.Adds [] world.store after.store := by
  have takes : Attempt.Local (Under [.blockWeight, .extrinsicsLength])
      (Attempt.update (rules.takeRoom info length)) := takeRoom_local holdsRoom_names info length
  exact .nothing fun key under => Action.Local.spared takes run (apart_of_log (by decide) key under)

theorem prepareSigned_adds (positive : 0 < rules.existentialDeposit) {terms : Terms Number}
    {info : DispatchInfo} {length : Nat} {payment : Option (Payment Account)}
    (run : (rules.prepareSigned terms who info length Check.all).run world =
      .ok (.ok payment) after) :
    ∃ fee, payment = some ⟨who, terms.tip, if fee = 0 then none else some fee⟩ ∧
      fee = rules.fee (UInt32.ofNat length) info terms.tip world.store ∧
      rules.Adds (takings who fee) world.store after.store := by
  obtain ⟨_, _, _, next, room, weight, _, _, _, paid, rfl⟩ :=
    (prepareSigned_all_iff positive rfl).mp run
  refine ⟨_, paid, rfl, (charged_adds _ _).behind fun key under => ?_⟩
  exact readied_spares next room weight world.store (ne_account_of_log under)
    (apart_of_log (by decide) key under)

/-! ### After the call -/

/-- What becomes of a fee and what else comes of the lives of accounts is not logged. -/
structure Silent (rules : Rules Account Number) : Prop where
  lives : rules.SilentLives
  fees : ∀ amount, Action.Logs rules 0 (rules.feesTaken amount)

variable {charge : Payment Account} {actual : Balance} {post : PostInfo} {info : DispatchInfo}
variable {length : Nat}

theorem returnRoom_adds (info : DispatchInfo) (post : PostInfo) (store : Store) :
    rules.Adds [] store (returnRoom info post store) :=
  .nothing fun key under => (returnRoom_local holdsRoom_names info post).spares store key
    (apart_of_log (by decide) key under)

private theorem correctFee_logs (silent : rules.Silent) :
    Action.Logs rules 4 (rules.correctFee charge actual) := by
  unfold correctFee
  cases charge.paid with
  | none => exact (Action.Logs.pure ()).mono (Nat.zero_le 4)
  | some paid =>
      exact Action.Logs.ahead (createInExisting_logs silent.lives _) fun refunded =>
        (silent.fees _).behind fun _ => silent.fees _

private theorem correctFee_silent (silent : rules.Silent)
    (exact : ∀ paid, charge.paid = some paid → paid = actual) :
    Action.Logs rules 0 (rules.correctFee charge actual) := by
  unfold correctFee
  cases paid : charge.paid with
  | none => exact Action.Logs.pure ()
  | some amount =>
      have nothing : (Word.saturatingSub amount actual : Balance) = 0 := by
        apply UInt64.toNat_inj.mp
        rw [exact amount paid, Balance.toNat_saturatingSub]
        exact Nat.sub_self _
      dsimp only
      rw [nothing, createInExisting, if_pos rfl]
      exact Action.Logs.behind (Action.Logs.pure _) fun _ =>
        (silent.fees _).behind fun _ => silent.fees _

theorem settlePayment_adds (silent : rules.Silent)
    (run : rules.settlePayment charge info post length world = .ok () after) :
    ∃ (actual : Balance) (events : List (Event Account)), events.length ≤ 4 ∧
      (∀ event ∈ events, event.isPlain = true) ∧
      rules.Adds (events ++ [.feePaid charge.who actual charge.tip]) world.store after.store := by
  have settles := Action.look_bind run
  obtain ⟨_, middle, correction, deposits⟩ := Action.bind_eq_ok settles
  obtain ⟨events, few, plain, adds⟩ := correctFee_logs silent _ _ _ correction
  exact ⟨_, events, few, plain, adds.trans (.of_deposit deposits)⟩

theorem settlePayment_exact (silent : rules.Silent) {fee : Balance}
    (run : rules.settlePayment charge info post length world = .ok () after)
    (exact : rules.actualFee (UInt32.ofNat length) info post charge.tip world.store = fee)
    (paid : charge.paid = if fee = 0 then none else some fee) :
    rules.Adds [.feePaid charge.who fee charge.tip] world.store after.store := by
  have settles := Action.look_bind run
  rw [exact] at settles
  obtain ⟨_, middle, correction, deposits⟩ := Action.bind_eq_ok settles
  have whole : ∀ amount, charge.paid = some amount → amount = fee := by
    intro amount isPaid
    rw [paid] at isPaid
    split at isPaid
    · cases isPaid
    · exact (Option.some.inj isPaid).symm
  obtain ⟨events, few, _, adds⟩ := correctFee_silent silent whole _ _ _ correction
  rw [List.eq_nil_of_length_eq_zero (Nat.le_zero.mp few)] at adds
  exact adds.trans (.of_deposit deposits)

end StateTransition.Rules
