import StateTransition.Proofs.Chain.Extrinsic
import StateTransition.Proofs.Transaction.Admission

set_option autoImplicit false

/-! What the pool says of a transaction, and on what that rests. Its checks look under a few names
only, so they find the same in all stores that are alike there. What a transaction has to wait for
is told by its nonce alone; in a block it is rejected for just that. -/

namespace StateTransition

variable {Account Number Call : Type} [Word Number]

def judgedNames : List Item.Name :=
  [.number, .blockHash, .account, .nextMultiplier, .extrinsicsLength]

/-- The checks of a transaction find the same in both stores. -/
def JudgedAlike (left right : Store) : Prop :=
  ∀ key, Item.Under judgedNames key → left.get? key = right.get? key

namespace JudgedAlike

variable {left middle right : Store}

theorem trans (first : JudgedAlike left middle) (second : JudgedAlike middle right) :
    JudgedAlike left right :=
  fun key judged => (first key judged).trans (second key judged)

theorem of_spares {names : List Item.Name} (apart : ∀ name ∈ judgedNames, name ∉ names)
    (spares : ∀ key, ¬Item.Under names key → left.get? key = right.get? key) :
    JudgedAlike left right :=
  fun key judged => spares key (judged.apart apart)

theorem number (alike : JudgedAlike left right) :
    (Environment.number left : Number) = Environment.number right :=
  Slot.get_congr _ (alike _ (Item.under_head .number (by decide)))

theorem blockHash (alike : JudgedAlike left right) (number : Number) :
    left.get? (Item.blockHash.row number).key = right.get? (Item.blockHash.row number).key :=
  alike _ (Item.under_row .blockHash (by decide) rfl number)

theorem accountInfo (alike : JudgedAlike left right) (rules : Rules Account Number)
    (who : Account) : rules.accountInfo who left = rules.accountInfo who right :=
  Slot.get_congr _ (alike _ (Item.under_row .account (by decide) rfl who))

omit [Word Number] in
theorem fee (alike : JudgedAlike left right) (rules : Rules Account Number) (length : UInt32)
    (info : DispatchInfo) (tip : Balance) :
    rules.fee length info tip left = rules.fee length info tip right :=
  Rules.fee_congr (alike _ (Item.under_head .nextMultiplier (by decide))) length info tip

theorem extrinsicsLength (alike : JudgedAlike left right) :
    Environment.extrinsicsLength left = Environment.extrinsicsLength right :=
  Environment.extrinsicsLength_congr (alike _ (Item.under_head .extrinsicsLength (by decide)))

/-! ### The signature -/

variable {rules : Rules Account Number}

theorem birthHash (alike : JudgedAlike left right) (era : Era) :
    rules.birthHash era left = rules.birthHash era right := by
  have numbers : (Environment.number left : Number) = Environment.number right := alike.number
  unfold Rules.birthHash
  rw [numbers]
  cases era.birth? (Word.convert (Environment.number right : Number)) with
  | none => rfl
  | some birth =>
      have stored := alike.blockHash (Word.convert birth : Number)
      have there : (Item.blockHash.row (Word.convert birth : Number)).exists? left =
          (Item.blockHash.row (Word.convert birth : Number)).exists? right :=
        congrArg Option.isSome stored
      have shown := Slot.get_congr (Item.blockHash.row (Word.convert birth : Number)) stored
      simp only [there, shown]

theorem signedPart (alike : JudgedAlike left right) (terms : Terms Number) (check : Check) :
    rules.signedPart terms check left = rules.signedPart terms check right := by
  cases check with
  | genesis =>
      exact congrArg (fun hash : Hash => Except.ok (Except.ok hash.bytes))
        (Slot.get_congr _ (alike.blockHash (Word.zero : Number)))
  | mortality => exact Query.bind_congr (alike.birthHash terms.era) fun _ => rfl
  | sender => rfl
  | specVersion => rfl
  | transactionVersion => rfl
  | nonce => rfl
  | weight => rfl
  | payment => rfl

theorem signedParts (alike : JudgedAlike left right) (terms : Terms Number)
    (checks : List Check) :
    rules.signedParts terms checks left = rules.signedParts terms checks right := by
  induction checks with
  | nil => rfl
  | cons check others ih =>
      refine Query.bind_congr (alike.signedPart terms check) fun part => ?_
      cases part with
      | error cause => rfl
      | ok part => exact Query.bind_congr ih fun _ => rfl

theorem verified {Index Proof : Type} {chain : Chain Account Number Call}
    (alike : JudgedAlike left right) (index : Codec Index) (proof : Codec Proof)
    (verify : Proof → Bytes → Account → Bool)
    (extrinsic : Extrinsic (Address Account Index) Proof Number Call) :
    (ExtrinsicForm.verified chain index proof verify).check extrinsic left =
      (ExtrinsicForm.verified chain index proof verify).check extrinsic right := by
  obtain ⟨signature, call⟩ := extrinsic
  unfold ExtrinsicForm.verified
  cases signature with
  | none => rfl
  | some signature =>
      dsimp only
      cases signature.place.resolve? with
      | none => rfl
      | some who =>
          refine Query.bind_congr (alike.signedParts signature.terms Check.all) fun context => ?_
          cases context with
          | error cause => rfl
          | ok context => rfl

/-! ### The checks -/

variable {terms : Terms Number} {who : Account} {info : DispatchInfo} {length : Nat}

theorem approves (alike : JudgedAlike left right) (check : Check) :
    rules.Approves terms who info length left check ↔
      rules.Approves terms who info length right check := by
  cases check with
  | mortality =>
      have numbers : (Environment.number left : Number) = Environment.number right := alike.number
      unfold Rules.Approves Rules.validateCheck
      simp only [numbers]
  | nonce => rw [Rules.approves_nonce_iff, Rules.approves_nonce_iff, alike.accountInfo]
  | weight =>
      rw [Rules.approves_weight_iff, Rules.approves_weight_iff, Rules.lengthWith,
        Rules.lengthWith, alike.extrinsicsLength]
  | payment =>
      have balances : rules.freeBalance who left = rules.freeBalance who right :=
        congrArg AccountInfo.free (alike.accountInfo rules who)
      rw [Rules.approves_payment_iff, Rules.approves_payment_iff, alike.fee, Rules.canPay,
        Rules.canPay, balances]
  | sender => exact Iff.rfl
  | specVersion => exact Iff.rfl
  | transactionVersion => exact Iff.rfl
  | genesis => exact Iff.rfl

end JudgedAlike

variable [DecidableEq Account]

namespace Rules

variable {rules : Rules Account Number} {terms : Terms Number} {who : Account}
variable {info : DispatchInfo} {length : Nat} {checks others : List Check}

/-! ### What a transaction waits for -/

def prerequisites (rules : Rules Account Number) (terms : Terms Number) (who : Account)
    (store : Store) : Check → List Bytes
  | .nonce =>
      if Word.toNat (rules.accountInfo who store).nonce < Word.toNat terms.nonce then
        [rules.nonceTag who (Word.saturatingSub terms.nonce Word.one)]
      else []
  | _ => []

section

omit [DecidableEq Account]

private theorem validateNonce_requires {nonce : Number} {store : Store} {valid : ValidTransaction}
    (validated : rules.validateNonce who nonce store = .ok valid) :
    valid.requires =
      if Word.toNat (rules.accountInfo who store).nonce < Word.toNat nonce then
        [rules.nonceTag who (Word.saturatingSub nonce Word.one)]
      else [] := by
  unfold validateNonce at validated
  dsimp only at validated
  split at validated
  · cases validated
  · split at validated
    · cases validated
    · cases validated
      simp only [decide_eq_true_eq]

private theorem validateCheck_requires {check : Check} {store : Store} {valid : ValidTransaction}
    (validated : rules.validateCheck terms who info length check store = .ok (.ok valid)) :
    valid.requires = rules.prerequisites terms who store check := by
  have answered : ∀ {verdict : Validity}, (Except.ok verdict : Except Trap Validity) =
      .ok (.ok valid) → verdict = .ok valid := fun same => Except.ok.inj same
  cases check with
  | sender =>
      have approved := answered validated
      split at approved
      · cases approved
      · cases approved
        rfl
  | mortality =>
      unfold validateCheck at validated
      dsimp only at validated
      split at validated
      · cases validated
      · cases validated
        rfl
  | nonce => exact validateNonce_requires (answered validated)
  | weight =>
      have approved : rules.checkRoom info (UInt32.ofNat length) store = .ok valid :=
        answered validated
      unfold checkRoom at approved
      cases lengths : rules.lengthWith info (UInt32.ofNat length) store with
      | error cause =>
          rw [lengths] at approved
          cases approved
      | ok next =>
          cases single : rules.checkExtrinsicWeight info with
          | error cause =>
              rw [lengths, single] at approved
              cases approved
          | ok _ =>
              rw [lengths, single] at approved
              cases approved
              rfl
  | payment =>
      have approved : rules.validatePayment who terms.tip info length store = .ok valid :=
        answered validated
      unfold validatePayment at approved
      dsimp only at approved
      split at approved
      · cases approved
        rfl
      · cases approved
  | specVersion =>
      cases validated
      rfl
  | transactionVersion =>
      cases validated
      rfl
  | genesis =>
      cases validated
      rfl

theorem validateSigned_requires {store : Store} {valid verdict : ValidTransaction}
    (validated : rules.validateSigned terms who info length valid checks store =
      .ok (.ok verdict)) :
    verdict.requires = valid.requires ++ checks.flatMap (rules.prerequisites terms who store) := by
  induction checks generalizing valid with
  | nil =>
      cases validated
      exact (List.append_nil _).symm
  | cons check others ih =>
      obtain ⟨first, atFirst, later⟩ := Query.bind_eq_ok validated
      cases first with
      | error cause => cases later
      | ok more =>
          rw [ih later, List.flatMap_cons, ← List.append_assoc, ← validateCheck_requires atFirst]
          rfl

theorem requires_nil_iff {store : Store} {verdict : ValidTransaction}
    (validated : rules.validateSigned terms who info length .neutral Check.all store =
      .ok (.ok verdict)) :
    verdict.requires = [] ↔
      Word.toNat terms.nonce ≤ Word.toNat (rules.accountInfo who store).nonce := by
  have waits : verdict.requires = rules.prerequisites terms who store .nonce :=
    (validateSigned_requires validated).trans (List.append_nil _)
  rw [waits]
  unfold prerequisites
  dsimp only
  split
  · rename_i ahead
    constructor
    · intro impossible
      cases impossible
    · intro current
      omega
  · rename_i current
    exact ⟨fun _ => Nat.not_lt.mp current, fun _ => rfl⟩

end

/-! ### Rejections in a block -/

/-- A check that only looks does so in a block as for the pool. -/
def Looks (rules : Rules Account Number) (terms : Terms Number) (who : Account)
    (info : DispatchInfo) (length : Nat) (check : Check) : Prop :=
  rules.prepareCheck terms who info length check = do
    let _ ← Attempt.ask (rules.validateCheck terms who info length check)
    return none

/-- Behind checks that only look and approve, the others decide on a rejection. -/
theorem prepareSigned_refused {cause : Rejection} {world after : World}
    (looks : ∀ check ∈ checks, rules.Looks terms who info length check)
    (approved : ∀ check ∈ checks, rules.Approves terms who info length world.store check)
    (refused : (rules.prepareSigned terms who info length others).run world =
      .ok (.error cause) after) :
    (rules.prepareSigned terms who info length (checks ++ others)).run world =
      .ok (.error cause) after := by
  induction checks with
  | nil => exact refused
  | cons check rest ih =>
      obtain ⟨firstLooks, restLook⟩ := List.forall_mem_cons.mp looks
      obtain ⟨⟨valid, approves⟩, restApproved⟩ := List.forall_mem_cons.mp approved
      have asks : (Attempt.ask (rules.validateCheck terms who info length check)).run world =
          .ok (.ok valid) world := Action.ask_of_ok approves
      -- Such a check leaves the world as it is, so the rest meets the store that it has met.
      have first : (rules.prepareCheck terms who info length check).run world =
          .ok (.ok none) world := by
        rw [firstLooks, Attempt.bind_run_ok asks]
        rfl
      rw [List.cons_append, prepareSigned, Attempt.bind_run_ok first]
      exact Attempt.bind_run_error (ih restLook restApproved)

private theorem opening_looks :
    ∀ check ∈ opening, rules.Looks terms who info length check := by
  simp only [opening, List.forall_mem_cons, List.not_mem_nil, false_implies, implies_true, and_true]
  exact ⟨rfl, rfl, rfl, rfl, rfl⟩

omit [DecidableEq Account] in
private theorem checkNonce_ahead {nonce : Number} {store : Store}
    (provided : (rules.accountInfo who store).isProvided = true)
    (ahead : Word.toNat (rules.accountInfo who store).nonce < Word.toNat nonce) :
    rules.checkNonce who nonce store = .error (.invalid .future) := by
  unfold checkNonce
  dsimp only
  rw [provided, if_neg (by decide), if_neg (Nat.not_lt.mpr (Nat.le_of_lt ahead)), if_pos ahead]

/-- A transaction that is ahead of its account is rejected for that if nothing else is said against
it before. -/
theorem prepareSigned_future {world : World}
    (opens : ∀ check ∈ opening, rules.Approves terms who info length world.store check)
    (provided : (rules.accountInfo who world.store).isProvided = true)
    (ahead : Word.toNat (rules.accountInfo who world.store).nonce < Word.toNat terms.nonce) :
    (rules.prepareSigned terms who info length Check.all).run world =
      .ok (.error (.invalid .future)) world := by
  have looks : (ExceptT.mk (Action.look (rules.checkNonce who terms.nonce)) :
      Attempt Rejection Unit).run world = .ok (.error (.invalid .future)) world :=
    congrArg (EStateM.Result.ok · world) (checkNonce_ahead provided ahead)
  have counts : (rules.prepareCheck terms who info length .nonce).run world =
      .ok (.error (.invalid .future)) world :=
    Attempt.bind_run_error (Attempt.bind_run_error looks)
  exact prepareSigned_refused opening_looks opens (Attempt.bind_run_error counts)

end Rules

end StateTransition
