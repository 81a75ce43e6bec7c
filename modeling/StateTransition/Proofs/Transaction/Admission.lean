import StateTransition.Proofs.Account.Replacement
import StateTransition.Proofs.Event.Log
import StateTransition.Proofs.Limits.Ledger
import StateTransition.Proofs.Transaction.Charge
import StateTransition.Testnet.Network

set_option autoImplicit false

/-! The pool and the block agree on transactions. The pool looks at one state with all its checks;
the block looks with each at what the checks before it have left. What a check writes is not what a
later one reads, so the verdicts are the same but for what the pool does not look at: whether a nonce
is the next one, and whether the block has weight left. -/

namespace StateTransition

namespace Rules

variable {Account Number : Type} [DecidableEq Account] [Word Number]
variable {rules : Rules Account Number} {who : Account} {world after : World}
variable {terms : Terms Number} {info : DispatchInfo} {length : Nat}
variable {payment : Option (Payment Account)} {check : Check} {checks : List Check}

/-! ### In the pool -/

/-- The verdict of a check for the pool is not a refusal, nor a trap. -/
def Approves (rules : Rules Account Number) (terms : Terms Number) (who : Account)
    (info : DispatchInfo) (length : Nat) (store : Store) (check : Check) : Prop :=
  ∃ valid, rules.validateCheck terms who info length check store = .ok (.ok valid)

section

omit [DecidableEq Account]

theorem validateSigned_iff (valid : ValidTransaction) (store : Store) :
    (∃ verdict, rules.validateSigned terms who info length valid checks store =
        .ok (.ok verdict)) ↔
      ∀ check ∈ checks, rules.Approves terms who info length store check := by
  induction checks generalizing valid with
  | nil => exact ⟨fun _ _ member => (List.not_mem_nil member).elim, fun _ => ⟨valid, rfl⟩⟩
  | cons check others ih =>
      constructor
      · rintro ⟨verdict, validated⟩
        obtain ⟨first, atFirst, later⟩ := Query.bind_eq_ok validated
        cases first with
        | error cause => cases later
        | ok more =>
            intro among member
            rcases List.mem_cons.mp member with rfl | rest
            · exact ⟨more, atFirst⟩
            · exact (ih _).mp ⟨verdict, later⟩ among rest
      · intro approved
        obtain ⟨more, atFirst⟩ := approved check List.mem_cons_self
        obtain ⟨verdict, later⟩ := (ih (valid.combine more)).mpr fun among member =>
          approved among (List.mem_cons_of_mem _ member)
        refine ⟨verdict, ?_⟩
        unfold validateSigned
        change Except.bind (rules.validateCheck terms who info length check store) _ = _
        rw [atFirst]
        exact later

theorem approves_nonce_iff (store : Store) :
    rules.Approves terms who info length store .nonce ↔
      (rules.accountInfo who store).isProvided = true ∧
        Word.toNat (rules.accountInfo who store).nonce ≤ Word.toNat terms.nonce := by
  have looks : rules.validateCheck terms who info length .nonce store =
      .ok (rules.validateNonce who terms.nonce store) := rfl
  unfold Approves
  rw [looks]
  unfold validateNonce
  dsimp only
  cases provided : (rules.accountInfo who store).isProvided with
  | false =>
      rw [if_pos (by decide)]
      constructor
      · rintro ⟨valid, impossible⟩
        cases impossible
      · rintro ⟨impossible, _⟩
        cases impossible
  | true =>
      rw [if_neg (by decide)]
      by_cases used : Word.toNat terms.nonce < Word.toNat (rules.accountInfo who store).nonce
      · rw [if_pos used]
        constructor
        · rintro ⟨valid, impossible⟩
          cases impossible
        · rintro ⟨_, unused⟩
          omega
      · rw [if_neg used]
        exact ⟨fun _ => ⟨rfl, Nat.not_lt.mp used⟩, fun _ => ⟨_, rfl⟩⟩

theorem approves_weight_iff (store : Store) :
    rules.Approves terms who info length store .weight ↔
      (∃ next, rules.lengthWith info (UInt32.ofNat length) store = .ok next) ∧
        rules.checkExtrinsicWeight info = .ok () := by
  have looks : rules.validateCheck terms who info length .weight store =
      .ok (rules.checkRoom info (UInt32.ofNat length) store) := rfl
  unfold Approves
  rw [looks]
  unfold checkRoom
  cases rules.lengthWith info (UInt32.ofNat length) store with
  | error cause =>
      constructor
      · rintro ⟨valid, impossible⟩
        cases impossible
      · rintro ⟨⟨next, impossible⟩, _⟩
        cases impossible
  | ok next =>
      cases rules.checkExtrinsicWeight info with
      | error cause =>
          constructor
          · rintro ⟨valid, impossible⟩
            cases impossible
          · rintro ⟨_, impossible⟩
            cases impossible
      | ok _ => exact ⟨fun _ => ⟨⟨next, rfl⟩, rfl⟩, fun _ => ⟨_, rfl⟩⟩

theorem approves_payment_iff (store : Store) :
    rules.Approves terms who info length store .payment ↔
      rules.canPay who (rules.fee (UInt32.ofNat length) info terms.tip store) store = true := by
  have looks : rules.validateCheck terms who info length .payment store =
      .ok (rules.validatePayment who terms.tip info length store) := rfl
  unfold Approves
  rw [looks]
  unfold validatePayment
  dsimp only
  by_cases pays : rules.canPay who (rules.fee (UInt32.ofNat length) info terms.tip store) store =
      true
  · rw [if_pos pays]
    exact ⟨fun _ => pays, fun _ => ⟨_, rfl⟩⟩
  · rw [if_neg pays]
    constructor
    · rintro ⟨valid, impossible⟩
      cases impossible
    · intro possible
      exact absurd possible pays

end

/-! ### In a block -/

private theorem prepareSigned_cons_iff :
    (rules.prepareSigned terms who info length (check :: checks)).run world =
        .ok (.ok payment) after ↔
      ∃ first middle later,
        (rules.prepareCheck terms who info length check).run world = .ok (.ok first) middle ∧
        (rules.prepareSigned terms who info length checks).run middle = .ok (.ok later) after ∧
        payment = first.or later := by
  constructor
  · exact prepareSigned_cons
  · rintro ⟨first, middle, later, atFirst, atOthers, rfl⟩
    unfold prepareSigned
    rw [Attempt.bind_run_ok atFirst, Attempt.bind_run_ok atOthers]
    rfl

/-- A check that only looks is passed in a block as in the pool. -/
theorem prepareSigned_looking_iff
    (looks : rules.prepareCheck terms who info length check = do
      let _ ← Attempt.ask (rules.validateCheck terms who info length check)
      return none) :
    (rules.prepareSigned terms who info length (check :: checks)).run world =
        .ok (.ok payment) after ↔
      rules.Approves terms who info length world.store check ∧
        (rules.prepareSigned terms who info length checks).run world =
          .ok (.ok payment) after := by
  constructor
  · intro run
    refine ⟨?_, prepareSigned_looking looks run⟩
    obtain ⟨first, middle, later, atFirst, _, _⟩ := prepareSigned_cons run
    rw [looks] at atFirst
    obtain ⟨valid, _, asks, _⟩ := Attempt.bind_eq_ok atFirst
    exact ⟨valid, (Attempt.ask_eq_ok asks).1⟩
  · rintro ⟨⟨valid, approved⟩, later⟩
    have asks : (Attempt.ask (rules.validateCheck terms who info length check)).run world =
        .ok (.ok valid) world := Action.ask_of_ok approved
    refine prepareSigned_cons_iff.mpr ⟨none, world, payment, ?_, later, rfl⟩
    rw [looks, Attempt.bind_run_ok asks]
    rfl

private theorem withTransaction_iff {info counted : AccountInfo Number} :
    info.withTransaction = .ok counted ↔
      ∃ next, Word.checkedAdd? info.nonce Word.one = some next ∧
        counted = { info with nonce := next } := by
  unfold AccountInfo.withTransaction
  cases Word.checkedAdd? info.nonce Word.one with
  | none =>
      constructor
      · intro impossible
        cases impossible
      · rintro ⟨_, impossible, _⟩
        cases impossible
  | some next =>
      constructor
      · intro counts
        cases counts
        exact ⟨next, rfl, rfl⟩
      · rintro ⟨_, same, rfl⟩
        cases same
        rfl

omit [DecidableEq Account] in
private theorem checkNonce_iff {nonce : Number} {store : Store} :
    rules.checkNonce who nonce store = .ok () ↔
      (rules.accountInfo who store).isProvided = true ∧
        nonce = (rules.accountInfo who store).nonce := by
  unfold checkNonce
  dsimp only
  cases provided : (rules.accountInfo who store).isProvided with
  | false =>
      rw [if_pos (by decide)]
      constructor
      · intro impossible
        cases impossible
      · rintro ⟨impossible, _⟩
        cases impossible
  | true =>
      rw [if_neg (by decide)]
      by_cases used : Word.toNat nonce < Word.toNat (rules.accountInfo who store).nonce
      · rw [if_pos used]
        constructor
        · intro impossible
          cases impossible
        · rintro ⟨_, rfl⟩
          exact absurd used (Nat.lt_irrefl _)
      · rw [if_neg used]
        by_cases ahead : Word.toNat (rules.accountInfo who store).nonce < Word.toNat nonce
        · rw [if_pos ahead]
          constructor
          · intro impossible
            cases impossible
          · rintro ⟨_, rfl⟩
            exact absurd ahead (Nat.lt_irrefl _)
        · rw [if_neg ahead]
          refine ⟨fun _ => ⟨rfl, Word.toNat_injective _ _ ?_⟩, fun _ => rfl⟩
          omega

omit [DecidableEq Account] in
private theorem takeNonce_iff {nonce : Number} :
    (rules.takeNonce who nonce).run world = .ok (.ok ()) after ↔
      (rules.accountInfo who world.store).isProvided = true ∧
        nonce = (rules.accountInfo who world.store).nonce ∧
        ∃ next, Word.checkedAdd? nonce Word.one = some next ∧
          after = ⟨(rules.accountSlot who).put
            { rules.accountInfo who world.store with nonce := next } world.store,
            world.notes⟩ := by
  constructor
  · intro run
    obtain ⟨allowed, counted, counting, rfl⟩ := takeNonce_stages run
    obtain ⟨provided, same⟩ := checkNonce_iff.mp allowed
    refine ⟨provided, same, ?_⟩
    obtain ⟨next, added, rfl⟩ := withTransaction_iff.mp counting
    rw [same]
    exact ⟨next, added, rfl⟩
  · rintro ⟨provided, rfl, next, added, rfl⟩
    have allowed : (ExceptT.mk (Action.look (rules.checkNonce who _))).run world =
        .ok (.ok ()) world := congrArg (EStateM.Result.ok · world)
      (checkNonce_iff.mpr ⟨provided, rfl⟩)
    have counted : (rules.accountInfo who world.store).withTransaction = .ok _ :=
      withTransaction_iff.mpr ⟨next, added, rfl⟩
    unfold takeNonce
    rw [Attempt.bind_run_ok allowed]
    apply Attempt.lift_run_ok
    unfold incrementNonce
    rw [Action.bind_run_ok (Action.ask_of_ok counted)]
    rfl

omit [DecidableEq Account] [Word Number] in
theorem takeRoom_iff {room : UInt32} :
    (Attempt.update (rules.takeRoom info room)).run world = .ok (.ok ()) after ↔
      ∃ nextLength next, rules.roomWith info room world.store = .ok (nextLength, next) ∧
        after = ⟨Item.blockWeight.put next (Item.extrinsicsLength.put nextLength world.store),
          world.notes⟩ := by
  have updated : (Attempt.update (rules.takeRoom info room)).run world =
      .ok (rules.takeRoom info room world.store).1
        { world with store := (rules.takeRoom info room world.store).2 } := rfl
  rw [updated]
  unfold takeRoom
  cases rules.roomWith info room world.store with
  | error cause =>
      constructor
      · intro impossible
        cases impossible
      · rintro ⟨_, _, impossible, _⟩
        cases impossible
  | ok found =>
      obtain ⟨nextLength, next⟩ := found
      constructor
      · intro run
        cases run
        exact ⟨nextLength, next, rfl, rfl⟩
      · rintro ⟨_, _, same, rfl⟩
        cases same
        rfl

/-! ### Paying the declared fee -/

/-- The store in which a fee is gone from its account. -/
def lightened (rules : Rules Account Number) (who : Account) (fee : Balance) (store : Store) :
    Store :=
  (rules.accountSlot who).put
    { rules.accountInfo who store with
      free := Word.saturatingSub (rules.freeBalance who store) fee } store

/-- The store in which a fee has been paid; one of zero is not paid. -/
def charged (rules : Rules Account Number) (who : Account) (fee : Balance) (store : Store) :
    Store :=
  if fee = 0 then store
  else rules.recordEvent [] (.balances (.withdraw who fee))
    (destroyed fee (rules.lightened who fee store))

omit [DecidableEq Account] in
theorem canPay_iff {fee : Balance} {store : Store} (some : fee ≠ 0) :
    rules.canPay who fee store = true ↔
      Word.checkedSub? (rules.freeBalance who store) fee =
          Option.some (Word.saturatingSub (rules.freeBalance who store) fee) ∧
        rules.existentialDeposit ≤ Word.saturatingSub (rules.freeBalance who store) fee := by
  unfold canPay
  cases taken : Word.checkedSub? (rules.freeBalance who store) fee with
  | none => simp [some]
  | some rest =>
      obtain ⟨_, rfl⟩ := checkedSub?_iff.mp taken
      simp [some]

private theorem withdrawn_eq_charged {fee : Balance} {store : Store} (some : fee ≠ 0)
    (provided : (rules.accountInfo who store).isProvided = true) :
    rules.withdrawn who fee store = rules.charged who fee store := by
  rw [withdrawn, putFree_some provided, charged, if_neg some]
  rfl

/-- The fee is paid in a block exactly where the pool finds that it can be paid. -/
theorem payFee_iff (positive : 0 < rules.existentialDeposit) {fee : Balance}
    {paid : Option Balance}
    (provided : (rules.accountInfo who world.store).isProvided = true) :
    (rules.payFee who fee).run world = .ok (.ok paid) after ↔
      rules.canPay who fee world.store = true ∧ paid = (if fee = 0 then none else some fee) ∧
        after = ⟨rules.charged who fee world.store, world.notes⟩ := by
  constructor
  · intro run
    rcases payFee_stages positive run with ⟨rfl, rfl, rfl⟩ | ⟨some, rfl, covered, enough, rfl⟩
    · rw [charged, if_pos rfl]
      exact ⟨rfl, rfl, rfl⟩
    · rw [withdrawn_eq_charged some provided, if_neg some]
      exact ⟨(canPay_iff some).mpr ⟨checkedSub?_iff.mpr ⟨covered, rfl⟩, enough⟩, rfl, rfl⟩
  · rintro ⟨pays, rfl, rfl⟩
    unfold payFee
    by_cases nothing : fee = 0
    · rw [if_pos nothing, if_pos nothing, charged, if_pos nothing]
      rfl
    · obtain ⟨taken, enough⟩ := (canPay_iff nothing).mp pays
      have withdraws := (withdraw_survived positive nothing).mpr
        ⟨(checkedSub?_iff.mp taken).1, enough, rfl, rfl⟩
      have adapts : ((rules.withdraw who fee .keepAlive).adapt fun _ =>
          Rejection.invalid .payment).run world =
          .ok (.ok fee) ⟨rules.charged who fee world.store, world.notes⟩ := by
        change ((Except.mapError _) <$> (rules.withdraw who fee .keepAlive).run) world = _
        rw [Action.map_run, withdraws, withdrawn_eq_charged nothing provided]
        rfl
      rw [if_neg nothing, if_neg nothing, Attempt.bind_run_ok adapts]
      rfl

/-! ### All checks together -/

def counted (rules : Rules Account Number) (who : Account) (next : Number) (store : Store) :
    Store :=
  (rules.accountSlot who).put { rules.accountInfo who store with nonce := next } store

def roomed (length : UInt32) (weight : ConsumedWeight) (store : Store) : Store :=
  Item.blockWeight.put weight (Item.extrinsicsLength.put length store)

omit [DecidableEq Account] in
private theorem ne_row {key : Bytes} (foreign : ¬Item.Under [.account] key) :
    key ≠ (rules.accountSlot who).key := by
  rintro rfl
  exact foreign (Item.under_row .account (by decide) rfl who)

omit [DecidableEq Account] in
private theorem head_ne_row {name : Item.Name} (foreign : name ∉ [Item.Name.account]) :
    name.head ≠ (rules.accountSlot who).key :=
  ne_row (Item.not_under_head name foreign)

private theorem roomed_local (room : UInt32) (weight : ConsumedWeight) :
    Store.Local (Item.Under [.blockWeight, .extrinsicsLength]) (roomed room weight) :=
  (Slot.put_local holdsRoom_names.length _).comp (Slot.put_local holdsRoom_names.weight _)

theorem roomed_same (room : UInt32) (weight : ConsumedWeight) (store : Store) :
    SameBooks store (roomed room weight store) :=
  SameBooks.of_spares (by decide) ((roomed_local room weight).spares store)

omit [DecidableEq Account] in
theorem readied_spares (next : Number) (room : UInt32) (weight : ConsumedWeight) (store : Store)
    {key : Bytes} (apart : key ≠ (rules.accountSlot who).key)
    (foreign : ¬Item.Under [.blockWeight, .extrinsicsLength] key) :
    (roomed room weight (rules.counted who next store)).get? key = store.get? key := by
  have counts : (rules.counted who next store).get? key = store.get? key :=
    (Store.get?_put _ _ _ _).trans (if_neg apart)
  exact ((roomed_local room weight).spares _ _ foreign).trans counts

omit [DecidableEq Account] in
private theorem accountInfo_counted (next : Number) (store : Store) :
    rules.accountInfo who (rules.counted who next store) =
      { rules.accountInfo who store with nonce := next } :=
  (put_rebooked _ store).record

omit [DecidableEq Account] [Word Number] in
private theorem roomWith_congr {left right : Store}
    (weights : left.get? Item.blockWeight.key = right.get? Item.blockWeight.key)
    (lengths : left.get? Item.extrinsicsLength.key = right.get? Item.extrinsicsLength.key)
    (room : UInt32) : rules.roomWith info room left = rules.roomWith info room right := by
  unfold roomWith lengthWith
  rw [Slot.get_congr Item.blockWeight weights, Environment.extrinsicsLength_congr lengths]

section

omit [DecidableEq Account]

private theorem roomWith_counted (next : Number) (room : UInt32) (store : Store) :
    rules.roomWith info room (rules.counted who next store) = rules.roomWith info room store := by
  have spares : ∀ name : Item.Name, name ∉ [Item.Name.account] →
      (rules.counted who next store).get? name.head = store.get? name.head :=
    fun name notAccount =>
      (Store.get?_put _ _ _ _).trans (if_neg (head_ne_row notAccount))
  exact roomWith_congr (spares .blockWeight (by decide)) (spares .extrinsicsLength (by decide)) room

private theorem accountInfo_roomed (next : Number) (room : UInt32) (weight : ConsumedWeight)
    (store : Store) :
    rules.accountInfo who (roomed room weight (rules.counted who next store)) =
      { rules.accountInfo who store with nonce := next } := by
  rw [(roomed_same room weight _).accountInfo rules who, accountInfo_counted]

private theorem fee_roomed (next : Number) (room : UInt32) (weight : ConsumedWeight) (store : Store)
    (bytes : UInt32) (tip : Balance) :
    rules.fee bytes info tip (roomed room weight (rules.counted who next store)) =
      rules.fee bytes info tip store := by
  exact fee_congr (readied_spares next room weight store
    (head_ne_row (by decide : Item.Name.nextMultiplier ∉ [Item.Name.account]))
    (Item.not_under_head .nextMultiplier (by decide))) bytes info tip

private theorem canPay_roomed (next : Number) (room : UInt32) (weight : ConsumedWeight)
    (store : Store) (fee : Balance) :
    rules.canPay who fee (roomed room weight (rules.counted who next store)) =
      rules.canPay who fee store := by
  unfold canPay freeBalance
  rw [accountInfo_roomed]

end

private theorem prepareSigned_nonce_iff :
    (rules.prepareSigned terms who info length (.nonce :: checks)).run world =
        .ok (.ok payment) after ↔
      (rules.accountInfo who world.store).isProvided = true ∧
        terms.nonce = (rules.accountInfo who world.store).nonce ∧
        ∃ next, Word.checkedAdd? terms.nonce Word.one = some next ∧
          (rules.prepareSigned terms who info length checks).run
            ⟨rules.counted who next world.store, world.notes⟩ = .ok (.ok payment) after := by
  rw [prepareSigned_cons_iff]
  constructor
  · rintro ⟨_, middle, later, counts, others, rfl⟩
    obtain ⟨_, _, takes, finishes⟩ := Attempt.bind_eq_ok counts
    obtain ⟨rfl, rfl⟩ := Attempt.pure_eq_ok finishes
    obtain ⟨provided, same, next, added, rfl⟩ := takeNonce_iff.mp takes
    exact ⟨provided, same, next, added, others⟩
  · rintro ⟨provided, same, next, added, others⟩
    have takes : (rules.takeNonce who terms.nonce).run world =
        .ok (.ok ()) ⟨rules.counted who next world.store, world.notes⟩ :=
      takeNonce_iff.mpr ⟨provided, same, next, added, rfl⟩
    refine ⟨none, _, payment, ?_, others, rfl⟩
    unfold prepareCheck
    rw [Attempt.bind_run_ok takes]
    rfl

private theorem prepareSigned_weight_iff :
    (rules.prepareSigned terms who info length (.weight :: checks)).run world =
        .ok (.ok payment) after ↔
      ∃ room weight, rules.roomWith info (UInt32.ofNat length) world.store = .ok (room, weight) ∧
        (rules.prepareSigned terms who info length checks).run
          ⟨roomed room weight world.store, world.notes⟩ = .ok (.ok payment) after := by
  rw [prepareSigned_cons_iff]
  constructor
  · rintro ⟨_, middle, later, places, others, rfl⟩
    obtain ⟨_, _, takes, finishes⟩ := Attempt.bind_eq_ok places
    obtain ⟨rfl, rfl⟩ := Attempt.pure_eq_ok finishes
    obtain ⟨room, weight, found, rfl⟩ := takeRoom_iff.mp takes
    exact ⟨room, weight, found, others⟩
  · rintro ⟨room, weight, found, others⟩
    have takes : (Attempt.update (rules.takeRoom info (UInt32.ofNat length))).run world =
        .ok (.ok ()) ⟨roomed room weight world.store, world.notes⟩ :=
      takeRoom_iff.mpr ⟨room, weight, found, rfl⟩
    refine ⟨none, _, payment, ?_, others, rfl⟩
    unfold prepareCheck
    rw [Attempt.bind_run_ok takes]
    rfl

private theorem prepareSigned_payment_iff (positive : 0 < rules.existentialDeposit)
    (provided : (rules.accountInfo who world.store).isProvided = true) {fee : Balance}
    (isFee : rules.fee (UInt32.ofNat length) info terms.tip world.store = fee) :
    (rules.prepareSigned terms who info length [.payment]).run world =
        .ok (.ok payment) after ↔
      rules.canPay who fee world.store = true ∧
        payment = some ⟨who, terms.tip, if fee = 0 then none else some fee⟩ ∧
        after = ⟨rules.charged who fee world.store, world.notes⟩ := by
  have looks : (Attempt.look (rules.fee (UInt32.ofNat length) info terms.tip) :
      Attempt Rejection Balance).run world = .ok (.ok fee) world := by
    rw [← isFee]
    rfl
  rw [prepareSigned_cons_iff]
  constructor
  · rintro ⟨_, middle, later, pays, nothing, rfl⟩
    obtain ⟨rfl, rfl⟩ := Attempt.pure_eq_ok nothing
    obtain ⟨charge, _, takes, finishes⟩ := Attempt.bind_eq_ok pays
    obtain ⟨rfl, rfl⟩ := Attempt.pure_eq_ok finishes
    unfold takeFee at takes
    rw [Attempt.bind_run_ok looks] at takes
    obtain ⟨paid, _, paying, ends⟩ := Attempt.bind_eq_ok takes
    obtain ⟨rfl, rfl⟩ := Attempt.pure_eq_ok ends
    obtain ⟨can, rfl, rfl⟩ := (payFee_iff positive provided).mp paying
    exact ⟨can, rfl, rfl⟩
  · rintro ⟨can, rfl, rfl⟩
    have paying := (payFee_iff positive provided).mpr ⟨can, rfl, rfl⟩
    have takes : (rules.takeFee who terms.tip info length).run world =
        .ok (.ok ⟨who, terms.tip, if fee = 0 then none else some fee⟩)
          ⟨rules.charged who fee world.store, world.notes⟩ := by
      unfold takeFee
      rw [Attempt.bind_run_ok looks, Attempt.bind_run_ok paying]
      rfl
    refine ⟨some ⟨who, terms.tip, if fee = 0 then none else some fee⟩, _, none, ?_, rfl, rfl⟩
    unfold prepareCheck
    rw [Attempt.bind_run_ok takes]
    rfl

def opening : List Check := [.sender, .specVersion, .transactionVersion, .genesis, .mortality]

theorem prepareSigned_all_iff (positive : 0 < rules.existentialDeposit) {fee : Balance}
    (isFee : rules.fee (UInt32.ofNat length) info terms.tip world.store = fee) :
    (rules.prepareSigned terms who info length Check.all).run world = .ok (.ok payment) after ↔
      (∀ check ∈ opening, rules.Approves terms who info length world.store check) ∧
        (rules.accountInfo who world.store).isProvided = true ∧
        terms.nonce = (rules.accountInfo who world.store).nonce ∧
        ∃ next room weight, Word.checkedAdd? terms.nonce Word.one = some next ∧
          rules.roomWith info (UInt32.ofNat length) world.store = .ok (room, weight) ∧
          rules.canPay who fee world.store = true ∧
          payment = some ⟨who, terms.tip, if fee = 0 then none else some fee⟩ ∧
          after = ⟨rules.charged who fee
            (roomed room weight (rules.counted who next world.store)), world.notes⟩ := by
  have opens : (rules.prepareSigned terms who info length Check.all).run world =
      .ok (.ok payment) after ↔
      (∀ check ∈ opening, rules.Approves terms who info length world.store check) ∧
        (rules.prepareSigned terms who info length [.nonce, .weight, .payment]).run world =
          .ok (.ok payment) after := by
    unfold Check.all opening
    rw [prepareSigned_looking_iff rfl, prepareSigned_looking_iff rfl,
      prepareSigned_looking_iff rfl, prepareSigned_looking_iff rfl, prepareSigned_looking_iff rfl]
    simp only [List.forall_mem_cons, List.not_mem_nil, false_implies, implies_true, true_and,
      and_assoc]
  rw [opens, prepareSigned_nonce_iff]
  refine and_congr_right fun _ => and_congr_right fun provided => and_congr_right fun _ => ?_
  have pays : ∀ next room weight,
      (rules.prepareSigned terms who info length [.payment]).run
          ⟨roomed room weight (rules.counted who next world.store), world.notes⟩ =
          .ok (.ok payment) after ↔ _ := fun next room weight =>
    prepareSigned_payment_iff positive (by rw [accountInfo_roomed]; exact provided)
      ((fee_roomed next room weight world.store _ _).trans isFee)
  constructor
  · rintro ⟨next, added, run⟩
    obtain ⟨room, weight, found, run⟩ := prepareSigned_weight_iff.mp run
    rw [roomWith_counted] at found
    obtain ⟨can, paid, same⟩ := (pays next room weight).mp run
    rw [canPay_roomed] at can
    exact ⟨next, room, weight, added, found, can, paid, same⟩
  · rintro ⟨next, room, weight, added, found, can, paid, same⟩
    rw [← canPay_roomed next room weight] at can
    rw [← roomWith_counted next] at found
    exact ⟨next, added, prepareSigned_weight_iff.mpr ⟨room, weight, found,
      (pays next room weight).mpr ⟨can, paid, same⟩⟩⟩

omit [DecidableEq Account] in
theorem approves_all_iff {store : Store} {fee : Balance}
    (isFee : rules.fee (UInt32.ofNat length) info terms.tip store = fee) :
    (∀ check ∈ Check.all, rules.Approves terms who info length store check) ↔
      (∀ check ∈ opening, rules.Approves terms who info length store check) ∧
        (rules.accountInfo who store).isProvided = true ∧
        Word.toNat (rules.accountInfo who store).nonce ≤ Word.toNat terms.nonce ∧
        (∃ room, rules.lengthWith info (UInt32.ofNat length) store = .ok room) ∧
        rules.checkExtrinsicWeight info = .ok () ∧ rules.canPay who fee store = true := by
  have split : Check.all = opening ++ [.nonce, .weight, .payment] := rfl
  rw [split, List.forall_mem_append]
  refine and_congr_right fun _ => ?_
  rw [List.forall_mem_cons, List.forall_mem_cons, List.forall_mem_singleton, approves_nonce_iff,
    approves_weight_iff, approves_payment_iff, isFee]
  simp only [and_assoc]

omit [DecidableEq Account] [Word Number] in
theorem roomWith_iff {length : UInt32} {store : Store} :
    (∃ room weight, rules.roomWith info length store = .ok (room, weight)) ↔
      (∃ room, rules.lengthWith info length store = .ok room) ∧
        rules.checkExtrinsicWeight info = .ok () ∧
        ∃ weight, rules.weights.consumedWith (Item.blockWeight.get store) info = .ok weight := by
  constructor
  · rintro ⟨room, weight, found⟩
    obtain ⟨lengths, weights, single⟩ := roomWith_eq_ok found
    exact ⟨⟨room, lengths⟩, single, weight, weights⟩
  · rintro ⟨⟨room, lengths⟩, single, weight, weights⟩
    refine ⟨room, weight, ?_⟩
    unfold roomWith
    rw [lengths, weights, single]
    rfl

/-! ### What is left of it -/

/-- The keys at which a transaction is noted before its call is run. -/
def AdmissionKey (rules : Rules Account Number) (who : Account) (key : Bytes) : Prop :=
  key = (rules.accountSlot who).key ∨ Item.Under [.totalIssuance, .blockWeight, .extrinsicsLength,
    .events, .eventCount] key

theorem charged_rebooked (fee : Balance) (store : Store) :
    rules.Rebooked who
      { rules.accountInfo who store with
        free := Word.saturatingSub (rules.freeBalance who store) fee }
      (Word.saturatingSub (Item.totalIssuance.get store) fee) store
      (rules.charged who fee store) := by
  unfold charged
  by_cases nothing : fee = 0
  · rw [if_pos nothing, nothing, Balance.saturatingSub_zero, Balance.saturatingSub_zero]
    exact rebooked_of_same (SameBooks.refl _)
  · rw [if_neg nothing]
    have lightens : rules.Rebooked who
        { rules.accountInfo who store with
          free := Word.saturatingSub (rules.freeBalance who store) fee }
        (Item.totalIssuance.get store) store (rules.lightened who fee store) := put_rebooked _ _
    have destroys : rules.Rebooked who
        (rules.accountInfo who (rules.lightened who fee store))
        (Word.saturatingSub (Item.totalIssuance.get (rules.lightened who fee store)) fee)
        (rules.lightened who fee store) (destroyed fee (rules.lightened who fee store)) :=
      issue_rebooked _ _
    rw [lightens.record, lightens.issuance] at destroys
    refine (lightens.trans destroys).aside ?_
    exact SameBooks.of_spares (by decide) ((recorded_local _).spares _)

omit [DecidableEq Account] in
theorem lightened_destroyed_spares (fee : Balance) (store : Store) {key : Bytes}
    (apart : key ≠ (rules.accountSlot who).key) (foreign : ¬Item.Under [.totalIssuance] key) :
    (destroyed fee (rules.lightened who fee store)).get? key = store.get? key := by
  have different : key ≠ Item.totalIssuance.key := by
    rintro rfl
    exact foreign (Item.under_head .totalIssuance (by decide))
  have destroys : (destroyed fee (rules.lightened who fee store)).get? key =
      (rules.lightened who fee store).get? key :=
    (Store.get?_put _ _ _ _).trans (if_neg different)
  have lightens : (rules.lightened who fee store).get? key = store.get? key :=
    (Store.get?_put _ _ _ _).trans (if_neg apart)
  exact destroys.trans lightens

private theorem charged_spares (fee : Balance) (store : Store) {key : Bytes}
    (apart : key ≠ (rules.accountSlot who).key)
    (foreign : ¬Item.Under [.totalIssuance, .events, .eventCount] key) :
    (rules.charged who fee store).get? key = store.get? key := by
  unfold charged
  split
  · rfl
  · have logged : (rules.recordEvent [] (.balances (.withdraw who fee))
        (destroyed fee (rules.lightened who fee store))).get? key =
        (destroyed fee (rules.lightened who fee store)).get? key :=
      (recorded_local _).spares _ _ fun under => foreign (under.mono (by decide))
    rw [logged]
    exact lightened_destroyed_spares fee store apart fun under => foreign (under.mono (by decide))

private theorem charged_silent {fee : Balance} {store : Store}
    (silent : fee = 0 ∨ Word.isZero ((Item.number : Slot Number Number).get store) = true)
    {key : Bytes} (apart : key ≠ (rules.accountSlot who).key)
    (foreign : ¬Item.Under [.totalIssuance] key) :
    (rules.charged who fee store).get? key = store.get? key := by
  unfold charged
  split
  · rfl
  · rename_i some
    have first := silent.resolve_left some
    have spares : ∀ {other : Bytes}, other ≠ (rules.accountSlot who).key →
        ¬Item.Under [.totalIssuance] other →
        (destroyed fee (rules.lightened who fee store)).get? other = store.get? other :=
      lightened_destroyed_spares fee store
    have number := Slot.get_congr (Item.number : Slot Number Number)
      (spares (head_ne_row (by decide : Item.Name.number ∉ [Item.Name.account]))
        (Item.not_under_head .number (by decide)))
    unfold recordEvent
    rw [number, if_pos first]
    exact spares apart foreign

end Rules

section

variable {Account : Type} [DecidableEq Account] {rules : Rules Account UInt32} {who : Account}
variable {fee : Balance} {store : Store}

def withdrawal (who : Account) (fee : Balance) (store : Store) : EventRecord Account :=
  Rules.recordOf (.balances (.withdraw who fee)) store

private theorem Rules.charged_logged (some : fee ≠ 0)
    (later : (Item.number : Slot UInt32 UInt32).get store ≠ 0)
    (room : (Item.eventCount.get store).toNat + 1 < 4294967296) :
    Item.eventCount.get (rules.charged who fee store) = Item.eventCount.get store + 1 ∧
      (rules.charged who fee store).get? Item.eventsKey =
        (rules.eventSlot.append rules.eventCodec (withdrawal who fee store) store).get?
          Item.eventsKey := by
  have spares : ∀ name : Item.Name, name ∉ [Item.Name.account] → name ∉ [Item.Name.totalIssuance] →
      (destroyed fee (rules.lightened who fee store)).get? name.head = store.get? name.head :=
    fun name notAccount notIssuance => lightened_destroyed_spares fee store
      (head_ne_row notAccount) (Item.not_under_head name notIssuance)
  have number := Slot.get_congr (Item.number : Slot UInt32 UInt32)
    (spares .number (by decide) (by decide))
  have count := Slot.get_congr Item.eventCount (spares .eventCount (by decide) (by decide))
  have phase := Slot.get_congr Item.phase (spares .phase (by decide) (by decide))
  have isLater : Word.isZero ((Item.number : Slot UInt32 UInt32).get
      (destroyed fee (rules.lightened who fee store))) = false := by
    rw [number]
    apply beq_eq_false_iff_ne.mpr
    intro zero
    exact later (UInt32.toNat_inj.mp zero)
  have record : recordOf (.balances (.withdraw who fee))
      (destroyed fee (rules.lightened who fee store)) = withdrawal who fee store := by
    unfold withdrawal recordOf
    rw [phase]
  unfold charged
  rw [if_neg some, recordEvent_eq isLater (by rw [count]; exact room), count, record]
  constructor
  · have appends : Store.Local (Item.Under [.events])
        (rules.eventSlot.append rules.eventCodec (withdrawal who fee store)) :=
      Slot.append_local (Item.under_head .events (by decide)) _ _
    exact Slot.get_after_put Item.eventCount appends (Item.not_under_head .eventCount (by decide))
      (Codec.word_faithful.decodeFront?_encode _ trivial) _
  · have counting : Store.Local (Item.Under [.eventCount])
        (Item.eventCount.put (Item.eventCount.get store + 1)) :=
      Slot.put_local (Item.under_head .eventCount (by decide)) _
    have counted := counting.spares (destroyed fee (rules.lightened who fee store)) Item.eventsKey
      (Item.not_under_head .events (by decide))
    exact Slot.append_congr (counted.trans (spares .events (by decide) (by decide)))

/-- A transaction that has passed its checks in a block is noted there, and nothing else is
changed. -/
structure Rules.Admitted (rules : Rules Account UInt32) (who : Account) (fee : Balance)
    (info : DispatchInfo) (length : UInt32) (before after : Store) : Prop where
  covered : fee ≤ rules.freeBalance who before
  record : rules.accountInfo who after =
    { rules.accountInfo who before with
      nonce := (rules.accountInfo who before).nonce + 1
      free := (rules.accountInfo who before).free - fee }
  issuance : Item.totalIssuance.get after = Word.saturatingSub (Item.totalIssuance.get before) fee
  weight : rules.weights.consumedWith (Item.blockWeight.get before) info =
    .ok (Item.blockWeight.get after)
  length : Environment.extrinsicsLength after =
    Word.saturatingAdd (Environment.extrinsicsLength before) length
  silent : fee = 0 ∨ (Item.number : Slot UInt32 UInt32).get before = 0 →
    ∀ key, Item.Under [.events, .eventCount] key → after.get? key = before.get? key
  logged : fee ≠ 0 → (Item.number : Slot UInt32 UInt32).get before ≠ 0 →
    Item.eventCount.get after = Item.eventCount.get before + 1 ∧
      after.get? Item.eventsKey =
        (rules.eventSlot.append rules.eventCodec (withdrawal who fee before) before).get?
          Item.eventsKey ∧
      ∀ log, rules.eventSlot.Lists rules.eventCodec log before →
        log.length + 1 < Codec.lengthBound →
        rules.eventSlot.Lists rules.eventCodec (log ++ [withdrawal who fee before]) after
  others : ∀ key, ¬rules.AdmissionKey who key → after.get? key = before.get? key

private theorem Balance.saturatingSub_eq {free amount : Balance} (covered : amount ≤ free) :
    Word.saturatingSub free amount = free - amount := by
  apply UInt64.toNat_inj.mp
  rw [UInt64.toNat_sub_of_le _ _ covered]
  exact Balance.toNat_saturatingSub free amount

omit [DecidableEq Account] in
private theorem Rules.covered_of_canPay (pays : rules.canPay who fee store = true) :
    fee ≤ rules.freeBalance who store := by
  apply UInt64.le_iff_toNat_le.mpr
  by_cases nothing : fee = 0
  · rw [nothing]
    exact Nat.zero_le _
  · exact (checkedSub?_iff.mp ((canPay_iff nothing).mp pays).1).1

/-- The store in which a transaction has its nonce and its room, but has not paid yet. -/
def Rules.readied (rules : Rules Account UInt32) (who : Account) (room : UInt32)
    (weight : ConsumedWeight) (store : Store) : Store :=
  roomed room weight (rules.counted who ((rules.accountInfo who store).nonce + 1) store)

namespace Rules

variable {info : DispatchInfo} {bytes room : UInt32} {weight : ConsumedWeight}

section

omit [DecidableEq Account]

private theorem get?_readied_head (name : Item.Name) (notAccount : name ∉ [Item.Name.account])
    (notRoom : name ∉ [Item.Name.blockWeight, .extrinsicsLength]) :
    (rules.readied who room weight store).get? name.head = store.get? name.head :=
  readied_spares _ room weight store (head_ne_row notAccount) (Item.not_under_head name notRoom)

private theorem number_readied : (Item.number : Slot UInt32 UInt32).get
    (rules.readied who room weight store) = (Item.number : Slot UInt32 UInt32).get store :=
  Slot.get_congr _ (get?_readied_head .number (by decide) (by decide))

private theorem eventCount_readied : Item.eventCount.get (rules.readied who room weight store) =
    Item.eventCount.get store :=
  Slot.get_congr _ (get?_readied_head .eventCount (by decide) (by decide))

private theorem withdrawal_readied :
    withdrawal who fee (rules.readied who room weight store) = withdrawal who fee store := by
  unfold withdrawal recordOf
  rw [Slot.get_congr Item.phase (get?_readied_head .phase (by decide) (by decide))]

end

private theorem charged_readied_record (covered : fee ≤ rules.freeBalance who store) :
    rules.accountInfo who (rules.charged who fee (rules.readied who room weight store)) =
        { rules.accountInfo who store with
          nonce := (rules.accountInfo who store).nonce + 1
          free := (rules.accountInfo who store).free - fee } ∧
      Item.totalIssuance.get (rules.charged who fee (rules.readied who room weight store)) =
        Word.saturatingSub (Item.totalIssuance.get store) fee := by
  have readied : rules.accountInfo who (rules.readied who room weight store) =
      { rules.accountInfo who store with nonce := (rules.accountInfo who store).nonce + 1 } :=
    accountInfo_roomed _ _ _ _
  have unissued : Item.totalIssuance.get (rules.readied who room weight store) =
      Item.totalIssuance.get store :=
    Slot.get_congr _ (get?_readied_head .totalIssuance (by decide) (by decide))
  have booked : rules.Rebooked who _ _ (rules.readied who room weight store) _ :=
    charged_rebooked fee _
  obtain ⟨record, issuance, _⟩ := booked
  unfold freeBalance at record covered
  rw [readied, Balance.saturatingSub_eq covered] at record
  rw [unissued] at issuance
  exact ⟨record, issuance⟩

private theorem charged_readied_room :
    Item.blockWeight.get (rules.charged who fee (rules.readied who room weight store)) = weight ∧
      Environment.extrinsicsLength
        (rules.charged who fee (rules.readied who room weight store)) = room := by
  have atHead : ∀ name : Item.Name, name ∉ [Item.Name.account] →
      name ∉ [Item.Name.totalIssuance, .events, .eventCount] →
      (rules.charged who fee (rules.readied who room weight store)).get? name.head =
        (rules.readied who room weight store).get? name.head :=
    fun name notAccount foreign =>
      charged_spares fee _ (head_ne_row notAccount) (Item.not_under_head name foreign)
  rw [Slot.get_congr Item.blockWeight (atHead .blockWeight (by decide) (by decide)),
    Environment.extrinsicsLength_congr (atHead .extrinsicsLength (by decide) (by decide))]
  have weighing : Store.Local (Item.Under [.blockWeight]) (Item.blockWeight.put weight) :=
    Slot.put_local (Item.under_head .blockWeight (by decide)) weight
  refine ⟨Item.blockWeight_put _ _, ?_⟩
  exact (Environment.extrinsicsLength_congr (weighing.spares _ _ Item.length_not_weight)).trans
    (Item.extrinsicsLength_put _ _)

private theorem charged_readied_silent
    (silent : fee = 0 ∨ (Item.number : Slot UInt32 UInt32).get store = 0) {key : Bytes}
    (under : Item.Under [.events, .eventCount] key) :
    (rules.charged who fee (rules.readied who room weight store)).get? key = store.get? key := by
  have apart : key ≠ (rules.accountSlot who).key := ne_row (under.apart (by decide))
  have quiet : fee = 0 ∨ Word.isZero ((Item.number : Slot UInt32 UInt32).get
      (rules.readied who room weight store)) = true := by
    refine silent.imp_right fun first => ?_
    rw [number_readied, first]
    rfl
  exact (charged_silent quiet apart (under.apart (by decide))).trans
    (readied_spares _ room weight store apart (under.apart (by decide)))

private theorem charged_readied_logged (some : fee ≠ 0)
    (later : (Item.number : Slot UInt32 UInt32).get store ≠ 0)
    (recorded : (Item.eventCount.get store).toNat + 1 < 4294967296) :
    Item.eventCount.get (rules.charged who fee (rules.readied who room weight store)) =
        Item.eventCount.get store + 1 ∧
      (rules.charged who fee (rules.readied who room weight store)).get? Item.eventsKey =
        (rules.eventSlot.append rules.eventCodec (withdrawal who fee store) store).get?
          Item.eventsKey := by
  obtain ⟨counted, logs⟩ : Item.eventCount.get
      (rules.charged who fee (rules.readied who room weight store)) = _ ∧ _ :=
    charged_logged some (by rw [number_readied]; exact later)
      (by rw [eventCount_readied]; exact recorded)
  rw [eventCount_readied] at counted
  rw [withdrawal_readied] at logs
  exact ⟨counted, logs.trans
    (Slot.append_congr (get?_readied_head .events (by decide) (by decide)))⟩

private theorem charged_readied_others {key : Bytes} (outside : ¬rules.AdmissionKey who key) :
    (rules.charged who fee (rules.readied who room weight store)).get? key = store.get? key := by
  have apart : key ≠ (rules.accountSlot who).key := fun same => outside (Or.inl same)
  have foreign : ∀ names : List Item.Name, (∀ name ∈ names, name ∈ _) → ¬Item.Under names key :=
    fun names within under => outside (Or.inr (under.mono within))
  exact (charged_spares fee _ apart (foreign _ (by decide))).trans
    (readied_spares _ room weight store apart (foreign _ (by decide)))

private theorem admitted_of_room (recorded : (Item.eventCount.get store).toNat + 1 < 4294967296)
    (found : rules.roomWith info bytes store = .ok (room, weight))
    (pays : rules.canPay who fee store = true) :
    rules.Admitted who fee info bytes store
      (rules.charged who fee (rules.readied who room weight store)) := by
  obtain ⟨lengths, weights, _⟩ := roomWith_eq_ok found
  have covered := covered_of_canPay pays
  obtain ⟨record, issuance⟩ : rules.accountInfo who
      (rules.charged who fee (rules.readied who room weight store)) = _ ∧ _ :=
    charged_readied_record covered
  obtain ⟨weighed, measured⟩ : Item.blockWeight.get
      (rules.charged who fee (rules.readied who room weight store)) = _ ∧ _ := charged_readied_room
  refine ⟨covered, record, issuance, ?_, ?_, fun silent _ => charged_readied_silent silent, ?_,
    fun _ => charged_readied_others⟩
  · rw [weighed]
    exact weights
  · rw [measured]
    exact (lengthWith_eq_ok lengths).1
  · intro some later
    obtain ⟨counted, appended⟩ : Item.eventCount.get
        (rules.charged who fee (rules.readied who room weight store)) = _ ∧ _ :=
      charged_readied_logged some later recorded
    refine ⟨counted, appended, ?_⟩
    intro log lists fits
    have lengthened : rules.eventSlot.Lists rules.eventCodec (log ++ [withdrawal who fee store])
        (rules.eventSlot.append rules.eventCodec (withdrawal who fee store) store) :=
      Slot.append_lists lists fits
    exact (congrArg (Option.getD · _) appended).trans lengthened

end Rules

/-- A transaction passes its checks in a block if and only if the pool finds it valid, its nonce is
the next one of its signer, and the block has the weight for it. Nothing is left of the checks but
the nonce, the fee and the room. -/
theorem Rules.prepareSigned_iff_valid (rules : Rules Account UInt32)
    (positive : 0 < rules.existentialDeposit) (terms : Terms UInt32) (who : Account)
    (info : DispatchInfo) (length : Nat) (world : World)
    (counts : (rules.accountInfo who world.store).nonce.toNat < 4294967295)
    (recorded : (Item.eventCount.get world.store).toNat < 4294967295) :
    ((∃ payment after, (rules.prepareSigned terms who info length Check.all).run world =
        .ok (.ok payment) after) ↔
      (∃ valid, rules.validateSigned terms who info length .neutral Check.all world.store =
          .ok (.ok valid)) ∧
        terms.nonce = (rules.accountInfo who world.store).nonce ∧
        ∃ weight, rules.weights.consumedWith (Item.blockWeight.get world.store) info =
          .ok weight) ∧
    ∀ payment after, (rules.prepareSigned terms who info length Check.all).run world =
        .ok (.ok payment) after →
      rules.Admitted who (rules.fee (UInt32.ofNat length) info terms.tip world.store) info
        (UInt32.ofNat length) world.store after.store := by
  have adds : Word.checkedAdd? (rules.accountInfo who world.store).nonce Word.one =
      some ((rules.accountInfo who world.store).nonce + 1) :=
    Word.checkedAdd?_one (Nat.succ_lt_succ counts)
  rw [validateSigned_iff, approves_all_iff rfl]
  constructor
  · constructor
    · rintro ⟨payment, after, run⟩
      obtain ⟨opens, provided, same, next, room, weight, _, found, pays, _, _⟩ :=
        (prepareSigned_all_iff positive rfl).mp run
      obtain ⟨lengths, single, weights⟩ := roomWith_iff.mp ⟨room, weight, found⟩
      have current := Nat.le_of_eq (congrArg Word.toNat same.symm)
      exact ⟨⟨opens, provided, current, lengths, single, pays⟩, same, weights⟩
    · rintro ⟨⟨opens, provided, _, lengths, single, pays⟩, same, weights⟩
      obtain ⟨room, weight, found⟩ := roomWith_iff.mpr ⟨lengths, single, weights⟩
      rw [← same] at adds
      exact ⟨_, _, (prepareSigned_all_iff positive rfl).mpr
        ⟨opens, provided, same, _, room, weight, adds, found, pays, rfl, rfl⟩⟩
  · intro payment after run
    obtain ⟨_, _, same, next, room, weight, added, found, pays, _, rfl⟩ :=
      (prepareSigned_all_iff positive rfl).mp run
    rw [same, adds] at added
    cases added
    exact admitted_of_room (Nat.succ_lt_succ recorded) found pays

/-- The third transaction of an account of the test network that can pay for it. -/
theorem Rules.prepareSigned_iff_valid_third :
    ∃ (who : AccountId) (terms : Terms UInt32) (world after : World)
        (payment : Option (Payment AccountId)),
      (∃ valid, Testnet.rules.validateSigned terms who .none 100 .neutral Check.all world.store =
        .ok (.ok valid)) ∧
      (Testnet.rules.prepareSigned terms who .none 100 Check.all).run world =
        .ok (.ok payment) after ∧
      Testnet.rules.Admitted who 107074105 .none 100 world.store after.store := by
  let who : AccountId := .filled 32 7
  let terms : Terms UInt32 := ⟨.immortal, 2, 5⟩
  let world : World := ⟨(Testnet.rules.accountSlot who).put ⟨2, 0, 1, 0, 10000000000⟩
    (Item.number.put (1 : UInt32) .empty), []⟩
  have answered : Action.answer (Testnet.rules.prepareSigned terms who .none 100 Check.all).run
      world = .ok (.ok (some ⟨who, 5, some 107074105⟩)) := by decide +kernel
  have run := Action.run_of_answer_ok answered
  have agrees := Rules.prepareSigned_iff_valid Testnet.rules (by decide) terms who .none 100 world
    (by decide +kernel) (by decide +kernel)
  have admitted := agrees.2 _ _ run
  have isFee : Testnet.rules.fee (UInt32.ofNat 100) .none terms.tip world.store = 107074105 := by
    decide +kernel
  rw [isFee] at admitted
  exact ⟨who, terms, world, _, _, (agrees.1.mp ⟨_, _, run⟩).1, run, admitted⟩

end

end StateTransition
