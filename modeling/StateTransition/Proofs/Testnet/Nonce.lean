import StateTransition.Proofs.Account.Ledger
import StateTransition.Proofs.Testnet.Included
import StateTransition.Proofs.Transaction.Nonce
import StateTransition.Testnet.Genesis

set_option autoImplicit false

/-! Nonces on the test network. An extrinsic that is included uses up the next nonce of its signer,
unless its own call is the end of its signer's record; nothing else that is done in a block or for
the pool touches a nonce. -/

namespace StateTransition.Testnet

open Item (Under under_head under_row)

def Recorded (who : AccountId) (store : Store) : Prop :=
  (rules.accountSlot who).exists? store = true

/-- An extrinsic gives away what its signer has, and the record of its signer goes with that. -/
structure Reaps (extrinsic : Extrinsic) (who : AccountId) (before after : Store) : Prop where
  signed : signer? extrinsic = some who
  call : ∃ target amount, extrinsic.call = .balances (.transferAllowDeath target amount)
  recorded : Recorded who before
  gone : ¬Recorded who after

/-- An extrinsic has the next nonce of its signer and uses it up, or reaps its signer. -/
structure Spends (extrinsic : Extrinsic) (who : AccountId) (before after : Store) : Prop where
  next : ∃ signature, extrinsic.signature = some signature ∧
    signature.terms.nonce = rules.nonce who before
  used : (rules.nonce who after).toNat = (rules.nonce who before).toNat + 1 ∨
    Reaps extrinsic who before after

/-! ### Single extrinsics -/

private theorem sameBooks_beside_level {before after : Store}
    (same : ∀ key, key ≠ Layer.levelKey → after.get? key = before.get? key) :
    SameBooks before after := by
  have apart : ∀ name ∈ [Item.Name.account, .totalIssuance], name ∉ [Item.Name.level] := by decide
  apply SameBooks.of_spares apart
  intro key outside
  apply same
  rintro rfl
  exact outside (under_head .level (by decide))

/-- A call leaves the books alone, or it is a call on balances that succeeds. -/
theorem dispatch_books {call : Call} {signer : Option AccountId} {world after : World}
    {outcome : DispatchOutcome} (run : dispatch call (.ofSigner signer) world = .ok outcome after) :
    SameBooks world.store after.store ∧
        (∀ inner, call = .balances inner → ∃ error, outcome = .error (.ofError error)) ∨
      ∃ (inner : BalanceCall Place) (post : PostInfo) (entered ended : World),
        call = .balances inner ∧ outcome = .ok post ∧ SameBooks world.store entered.store ∧
        (rules.runBalanceCall (.ofSigner signer) inner).run entered = .ok (.ok post) ended ∧
        SameBooks ended.store after.store := by
  have spares := (dispatch_names call signer).spares world
  rw [Action.ending_of_run run] at spares
  cases call with
  | system call =>
      have apart : ∀ name ∈ [Item.Name.account, .totalIssuance], name ∉ systemNames := by decide
      exact Or.inl ⟨SameBooks.of_spares apart spares, fun _ impossible => by cases impossible⟩
  | timestamp call =>
      have apart : ∀ name ∈ [Item.Name.account, .totalIssuance], name ∉ timestampNames := by decide
      exact Or.inl ⟨SameBooks.of_spares apart spares, fun _ impossible => by cases impossible⟩
  | balances call =>
      rcases Call.layered_cases (runBalanceCall_names signer call) run with
        ⟨fails, reverted⟩ | ⟨post, ended, succeeds, ran, leaves⟩
      · exact Or.inl ⟨sameBooks_beside_level reverted, fun _ _ => fails⟩
      · have entering : SameBooks world.store (Layer.enteredWorld world).store :=
          sameBooks_beside_level fun _ different => Layer.entered_get? world different
        exact Or.inr ⟨call, post, _, ended, rfl, succeeds, entering, ran,
          sameBooks_beside_level leaves⟩

theorem dispatch_nonces {call : Call} {signer : Option AccountId} {world after : World}
    {outcome : DispatchOutcome} (orderly : rules.Orderly world.store)
    (run : dispatch call (.ofSigner signer) world = .ok outcome after) :
    rules.Orderly after.store ∧
      ∀ who, rules.nonce who after.store = rules.nonce who world.store ∨
        signer = some who ∧
          (∃ target amount, call = .balances (.transferAllowDeath target amount)) ∧
          rules.accountInfo who after.store = .blank := by
  rcases dispatch_books run with
    ⟨same, _⟩ | ⟨call, post, entered, ended, rfl, _, entering, ran, leaving⟩
  · exact ⟨orderly.same same, fun who => Or.inl (Rules.nonce_same same who)⟩
  obtain ⟨tidy, nonces⟩ := Rules.runBalanceCall_nonces faithful quiet positive
    (orderly.same entering) ran
  refine ⟨tidy.same leaving, fun who => ?_⟩
  rw [Rules.nonce_same leaving, ← Rules.nonce_same entering, leaving.accountInfo rules who]
  refine (nonces who).imp id ?_
  rintro ⟨signed, ⟨target, amount, rfl⟩, blank⟩
  exact ⟨signed, ⟨target, amount, rfl⟩, blank⟩

namespace Included

variable {extrinsic : Extrinsic} {outcome : DispatchOutcome} {before after : World}

theorem readied_cases (included : Included extrinsic outcome before after) :
    signer? extrinsic = none ∧ included.stages.payment = none ∧
        SameBooks before.store included.stages.ready.store ∨
      ∃ signature who, extrinsic.signature = some signature ∧ signer? extrinsic = some who ∧
        (rules.prepareSigned signature.terms who (form.info extrinsic)
          (form.codec.encode extrinsic).length Check.all).run
            (noted (form.codec.encode extrinsic) before) =
          .ok (.ok included.stages.payment) included.stages.ready := by
  have signed := included.signed
  rcases prepare_charges included.stages.prepares with
    ⟨unsigned, free, _⟩ | ⟨who, terms, signs, checks⟩
  · have apart : ∀ name ∈ [Item.Name.account, .totalIssuance], name ∉ Bookkeeping.noted := by
      decide
    have preparing : SameBooks (noted (form.codec.encode extrinsic) before).store
        included.stages.ready.store := by
      refine SameBooks.of_spares apart fun key outside => ?_
      have foreign : ¬Bookkeeping 0 (included.checked.signer.map (·.1)) key := by
        rw [unsigned]
        exact fun kept => outside kept.under_unsigned
      exact prepare_spares included.stages.prepares foreign
    rw [unsigned] at signed
    exact Or.inl ⟨signed.symm, free, (noted_same _ before).trans preparing⟩
  · rw [signs] at signed
    obtain ⟨_, ⟨_, unsigned⟩ | ⟨signature, other, bears, _, signer⟩⟩ :=
      ExtrinsicForm.verified_passes included.passes
    · rw [unsigned] at signs
      cases signs
    · rw [signer] at signs
      cases signs
      exact Or.inr ⟨signature, who, bears, signed.symm, checks⟩

private theorem readied_nonces (included : Included extrinsic outcome before after)
    (orderly : rules.Orderly before.store) :
    rules.Orderly included.stages.ready.store ∧
      (signer? extrinsic = none ∧ SameBooks before.store included.stages.ready.store ∨
        ∃ signature who, extrinsic.signature = some signature ∧ signer? extrinsic = some who ∧
          signature.terms.nonce = rules.nonce who before.store ∧
          rules.Spent who before.store included.stages.ready.store) := by
  have noting := noted_same (form.codec.encode extrinsic) before
  rcases included.readied_cases with
    ⟨unsigned, _, same⟩ | ⟨signature, who, bears, signed, checks⟩
  · exact ⟨orderly.same same, Or.inl ⟨unsigned, same⟩⟩
  · obtain ⟨same, spent, tidy⟩ :=
      Rules.prepareSigned_spends faithful positive (orderly.same noting) checks
    refine ⟨tidy, Or.inr ⟨signature, who, bears, signed, ?_, ?_, ?_, ?_⟩⟩
    · rw [same, Rules.nonce_same noting]
    · rw [← noting.accountInfo rules who]
      exact spent.provided
    · rw [← Rules.nonce_same noting]
      exact spent.next
    · intro other different
      rw [spent.others other different, Rules.nonce_same noting]

private theorem closed_nonces (included : Included extrinsic outcome before after)
    (orderly : rules.Orderly included.stages.dispatched.store) :
    rules.Orderly after.store ∧
      ∀ who, rules.nonce who after.store =
          rules.nonce who included.stages.dispatched.store ∧
        (rules.accountInfo who included.stages.dispatched.store = .blank →
          rules.accountInfo who after.store = .blank) := by
  obtain ⟨tidy, nonces⟩ := Rules.settle_nonces faithful quiet positive feesTaken_same orderly
    included.stages.settles
  have noting := noteApplied_same included.notes
  refine ⟨tidy.same noting, fun who => ?_⟩
  obtain ⟨same, blank⟩ := nonces who
  rw [Rules.nonce_same noting, noting.accountInfo rules who]
  exact ⟨same, blank⟩

theorem nonces (included : Included extrinsic outcome before after)
    (orderly : rules.Orderly before.store) :
    rules.Orderly after.store ∧
      ∀ who, (signer? extrinsic = some who → Spends extrinsic who before.store after.store) ∧
        (signer? extrinsic ≠ some who →
          rules.nonce who after.store = rules.nonce who before.store) := by
  obtain ⟨readied, spent⟩ := included.readied_nonces orderly
  obtain ⟨called, kept⟩ := dispatch_nonces readied included.dispatched
  obtain ⟨tidy, closed⟩ := included.closed_nonces called
  have others : ∀ who, signer? extrinsic ≠ some who →
      rules.nonce who after.store = rules.nonce who included.stages.ready.store := by
    intro who different
    rcases kept who with same | ⟨signed, _⟩
    · exact (closed who).1.trans same
    · exact absurd signed different
  refine ⟨tidy, fun who => ⟨fun signed => ?_, fun different => ?_⟩⟩
  · rcases spent with ⟨unsigned, _⟩ | ⟨signature, signer, bears, known, next, spent⟩
    · rw [unsigned] at signed
      cases signed
    rw [known] at signed
    cases signed
    refine ⟨⟨signature, bears, next⟩, ?_⟩
    rcases kept who with same | ⟨_, call, blank⟩
    · left
      rw [(closed who).1, same]
      exact spent.next
    · right
      have absent := tidy.absent ((closed who).2 blank)
      refine ⟨known, call, Rules.exists_of_isProvided spent.provided, ?_⟩
      rw [Recorded, absent]
      exact Bool.false_ne_true
  · rw [others who different]
    rcases spent with ⟨_, same⟩ | ⟨_, signer, _, known, _, spent⟩
    · exact Rules.nonce_same same who
    · apply spent.others
      rintro rfl
      exact different known

end Included

/-! ### Blocks -/

theorem begin_same {header : Header Number} {before begun : World}
    (run : chain.begin header before = .ok () begun) : SameBooks before.store begun.store :=
  SameBooks.of_spares (by decide) fun _ foreign => begin_spares foreign run

theorem sealing_same {number : Number} {header : Header Number} {before after : World}
    (run : chain.sealing number before = .ok header after) :
    SameBooks before.store after.store :=
  SameBooks.of_spares (by decide) fun _ outside => (sealing_local number).spared run outside

theorem finish_same {header : Header Number} {before after : World}
    (run : chain.finish before = .ok header after) : SameBooks before.store after.store :=
  SameBooks.of_spares (by decide) fun _ outside => finish_local.spared run outside

theorem validateTransaction_same {source : TransactionSource} {extrinsic : Extrinsic}
    {current : Hash} {verdict : Validity} {before after : World}
    (run : chain.validateTransaction form source extrinsic current before = .ok verdict after) :
    SameBooks before.store after.store :=
  sameBooks_beside_level fun _ different => validateTransaction_spares different run

/-! ### The beginning of the chain -/

theorem writeGenesis_local : Store.Local
    (Under [.blockHash, .parentHash, .lastUpgrade, .extrinsicCount]) rules.writeGenesis :=
  (((Slot.put_local (under_row .blockHash (by decide) rfl _) _).comp
    (Slot.put_local (under_head .parentHash (by decide)) _)).comp
    (Slot.put_local (under_head .lastUpgrade (by decide)) _)).comp
    (Slot.erase_local (under_head .extrinsicCount (by decide)))

theorem same_of_visible {before after : Store} (same : after.visible = before.visible) :
    SameBooks before after :=
  fun key _ => Store.seen_get? key _ _ same

theorem Genesis.state_stages {genesis : Genesis} {start : Store}
    (begun : genesis.state = .ok start) :
    ∃ funded : World,
      rules.endow genesis.balances ⟨rules.writeGenesis .empty, []⟩ = .ok (.ok ()) funded ∧
      start.visible = (Item.nextMultiplier.put genesis.multiplier funded.store).visible := by
  unfold Genesis.state at begun
  cases run : rules.begin genesis ⟨.empty, []⟩ with
  | error trap ended =>
      rw [run] at begun
      cases begun
  | ok outcome ended =>
      rw [run] at begun
      obtain ⟨_, written, writes, later⟩ := Action.bind_eq_ok run
      rw [Action.change_run] at writes
      cases writes
      obtain ⟨endowed, funded, endows, finishes⟩ := Action.bind_eq_ok later
      cases endowed with
      | error fault =>
          cases finishes
          cases begun
      | ok _ =>
          obtain ⟨_, changed, changes, ends⟩ := Action.bind_eq_ok finishes
          rw [Action.change_run] at changes
          cases changes
          cases ends
          cases begun
          exact ⟨funded, endows, rfl⟩

theorem Genesis.state_of_answer {genesis : Genesis}
    (answered : Action.answer (rules.begin genesis) ⟨.empty, []⟩ = .ok (.ok ())) :
    genesis.state = .ok (Action.ending (rules.begin genesis) ⟨.empty, []⟩).store.flatten := by
  unfold Genesis.state
  rw [Action.run_of_answer_ok answered]

theorem multiplier_local (multiplier : Fixed) :
    Store.Local (Under [.nextMultiplier]) (Item.nextMultiplier.put multiplier) :=
  Slot.put_local (under_head .nextMultiplier (by decide)) _

theorem Genesis.state_books {genesis : Genesis} {start : Store}
    (begun : genesis.state = .ok start) :
    rules.Orderly start ∧ rules.Unreferenced start ∧
      rules.totalFree start = Rules.sumOf genesis.balances ∧
      Item.totalIssuance.get start =
        genesis.balances.foldl (fun sum endowment => Word.saturatingAdd sum endowment.2) 0 := by
  obtain ⟨funded, endows, looks⟩ := Genesis.state_stages begun
  have empty : rules.accounts.entries (rules.writeGenesis .empty) = [] := by
    decide +kernel
  obtain ⟨sound, total, issuance, lone, supported⟩ :=
    Rules.endow_sound faithful quiet positive empty endows
  have nobody : ∀ who, rules.Supported who (rules.writeGenesis .empty) := by
    intro who present
    have absent : (rules.writeGenesis .empty).get? (rules.accountSlot who).key = none :=
      writeGenesis_local.spares .empty _ (Item.not_under_row .account (by decide) rfl who)
    rw [Slot.exists?_of_none _ absent] at present
    cases present
  have orderly : rules.Orderly funded.store := ⟨sound, fun who => supported who (nobody who)⟩
  have multiplied : SameBooks funded.store
      (Item.nextMultiplier.put genesis.multiplier funded.store) :=
    SameBooks.of_spares (by decide) ((multiplier_local genesis.multiplier).spares funded.store)
  have same := multiplied.trans (same_of_visible looks)
  refine ⟨orderly.same same, lone.same same, ?_, ?_⟩
  · rw [Rules.totalFree_same same]
    exact total
  · rw [same.issuance]
    exact issuance

theorem Genesis.state_orderly {genesis : Genesis} {start : Store}
    (begun : genesis.state = .ok start) : rules.Orderly start := (Genesis.state_books begun).1

end StateTransition.Testnet
