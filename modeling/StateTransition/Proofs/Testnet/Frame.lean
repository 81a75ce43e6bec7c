import StateTransition.Proofs.Account.Books
import StateTransition.Proofs.Account.Total
import StateTransition.Proofs.Call
import StateTransition.Proofs.Chain.Beginning
import StateTransition.Proofs.Store.Nesting
import StateTransition.Testnet.Entry

set_option autoImplicit false

/-! What the extrinsics of the test network may change, by the names of the items. The number of
the block, what it follows on and the hashes of earlier blocks are not among them. -/

namespace StateTransition.Testnet

open Item (Under under_head under_row)

def writtenNames : List Item.Name :=
  [.code, .extrinsicIndex, .level, .account, .extrinsicData, .blockWeight, .extrinsicsLength,
    .digest, .events, .eventCount, .phase, .authorizedUpgrade, .totalIssuance, .now, .isSet]

section

variable {names : List Item.Name}

theorem holdsLog (within : ∀ name ∈ [Item.Name.events, .eventCount], name ∈ names) :
    HoldsLog (Under names) where
  events := under_head .events (within _ (by decide))
  count := under_head .eventCount (within _ (by decide))

theorem holdsRoom (within : ∀ name ∈ [Item.Name.blockWeight, .extrinsicsLength], name ∈ names) :
    HoldsRoom (Under names) where
  weight := under_head .blockWeight (within _ (by decide))
  length := under_head .extrinsicsLength (within _ (by decide))

private theorem holdsExtrinsic
    (within : ∀ name ∈ [Item.Name.extrinsicData, .extrinsicIndex, .phase], name ∈ names) :
    HoldsExtrinsic (Under names) where
  data index := under_row .extrinsicData (within _ (by decide)) rfl index
  index := under_head .extrinsicIndex (within _ (by decide))
  phase := under_head .phase (within _ (by decide))

def closingNames : List Item.Name :=
  [.extrinsicData, .extrinsicIndex, .phase, .extrinsicsLength, .extrinsicCount, .blockHash]

theorem holdsBlock (within : ∀ name ∈ closingNames, name ∈ names) :
    HoldsBlock Number (Under names) :=
  .under within

theorem holdsUpgrade
    (within : ∀ name ∈ [Item.Name.code, .digest, .authorizedUpgrade], name ∈ names) :
    HoldsUpgrade (Under names) where
  code := under_head .code (within _ (by decide))
  digest := under_head .digest (within _ (by decide))
  authorized := under_head .authorizedUpgrade (within _ (by decide))

theorem holdsTime (within : ∀ name ∈ [Item.Name.now, .isSet], name ∈ names) :
    HoldsTime (Under names) where
  now := under_head .now (within _ (by decide))
  isSet := under_head .isSet (within _ (by decide))

theorem holdsBooks
    (within : ∀ name ∈ [Item.Name.account, .totalIssuance, .events, .eventCount], name ∈ names)
    (who : AccountId) : rules.HoldsBooks who (Under names) where
  record := under_row .account (within _ (by decide)) rfl who
  issuance := under_head .totalIssuance (within _ (by decide))
  log := holdsLog fun _ member => within _ (List.mem_cons_of_mem _ (List.mem_cons_of_mem _ member))
  created := Action.Local.pure ()
  killed := Action.Local.pure ()

end

theorem faithful : rules.account.Faithful fun _ => True := Codec.octets_faithful 32

theorem positive : 0 < rules.existentialDeposit := by decide

theorem quiet : rules.Quiet where
  created who world after run := by
    cases run
    exact SameBooks.refl _
  killed who world after run := by
    cases run
    exact SameBooks.refl _

theorem safeLives : rules.SafeLives where
  created _ := Action.Total.pure ()
  killed _ := Action.Total.pure ()

theorem feesTaken_same (amount : Balance) (world after : World)
    (run : rules.feesTaken amount world = .ok () after) : SameBooks world.store after.store := by
  cases run
  exact SameBooks.refl _

def systemNames : List Item.Name :=
  [.level, .code, .digest, .authorizedUpgrade, .events, .eventCount]

def timestampNames : List Item.Name := [.level, .now, .isSet]

def balanceNames : List Item.Name := [.level, .account, .totalIssuance, .events, .eventCount]

/-- What a call may write that does not come from the chain itself. -/
def Call.names : Call → List Item.Name
  | .system _ => systemNames
  | .timestamp _ => timestampNames
  | .balances _ => balanceNames

/-- What some call may write that does not come from the chain itself. -/
def calledNames : List Item.Name :=
  [.level, .code, .digest, .authorizedUpgrade, .now, .isSet, .account, .totalIssuance, .events,
    .eventCount]

theorem Call.names_within (call : Call) : ∀ name ∈ call.names, name ∈ calledNames := by
  have system : ∀ name ∈ systemNames, name ∈ calledNames := by decide
  have timestamp : ∀ name ∈ timestampNames, name ∈ calledNames := by decide
  have balances : ∀ name ∈ balanceNames, name ∈ calledNames := by decide
  cases call <;> assumption

theorem Call.not_names {name : Item.Name} (foreign : name ∉ calledNames) (call : Call) :
    name ∉ call.names := fun member => foreign (call.names_within name member)

theorem runSystemCall_names (signer : Option AccountId) (call : SystemCall) :
    Attempt.Local (Under systemNames) (rules.runSystemCall (.ofSigner signer) call) :=
  Rules.runSystemCall_local (holdsUpgrade (by decide)) (holdsLog (by decide)) signer call

theorem runTimestamp_names (origin : Origin AccountId) (call : TimestampCall) :
    Attempt.Local (Under timestampNames) (Timestamp.run origin call) :=
  Timestamp.run_local (holdsTime (by decide)) origin call

theorem runBalanceCall_names (signer : Option AccountId) (call : BalanceCall Place) :
    Attempt.Local (Under balanceNames) (rules.runBalanceCall (.ofSigner signer) call) :=
  Rules.runBalanceCall_local (holdsBooks (by decide)) signer call

theorem dispatch_names (call : Call) (signer : Option AccountId) :
    Action.Local (Under call.names) (dispatch call (.ofSigner signer)) := by
  cases call with
  | system call =>
      have level : Under systemNames Layer.levelKey := under_head .level (by decide)
      exact Call.layered_local level (runSystemCall_names signer call)
  | timestamp call =>
      have level : Under timestampNames Layer.levelKey := under_head .level (by decide)
      exact Call.layered_local level (runTimestamp_names _ call)
  | balances call =>
      have level : Under balanceNames Layer.levelKey := under_head .level (by decide)
      exact Call.layered_local level (runBalanceCall_names signer call)

theorem dispatch_local (call : Call) (signer : Option AccountId) :
    Action.Local (Under writtenNames) (dispatch call (.ofSigner signer)) := by
  have written : ∀ name ∈ calledNames, name ∈ writtenNames := by decide
  exact (dispatch_names call signer).mono fun _ under =>
    under.mono fun name member => written name (call.names_within name member)

/-- Of the calls without a signer only an upgrade looks into the store. -/
theorem seen_systemUnsigned (call : SystemCall) :
    Store.Seen (rules.admitSystemUnsigned call) ∧ Store.Seen (rules.validateSystemUnsigned call) := by
  cases call with
  | applyUpgrade code =>
      have authorized : Store.Seen (rules.authorizedHash code) := Rules.seen_authorizedHash code
      constructor
      · intro left right same
        simp only [Rules.admitSystemUnsigned, authorized left right same]
      · intro left right same
        simp only [Rules.validateSystemUnsigned, authorized left right same]
  | remark text => exact ⟨Store.seen_const _, Store.seen_const _⟩
  | setCode code => exact ⟨Store.seen_const _, Store.seen_const _⟩
  | setStorage items => exact ⟨Store.seen_const _, Store.seen_const _⟩
  | killStorage keys => exact ⟨Store.seen_const _, Store.seen_const _⟩
  | killUnder head subkeys => exact ⟨Store.seen_const _, Store.seen_const _⟩
  | remarkWithEvent text => exact ⟨Store.seen_const _, Store.seen_const _⟩
  | authorizeUpgrade hash => exact ⟨Store.seen_const _, Store.seen_const _⟩

theorem seen_admitUnsigned (call : Call) : Store.Seen (admitUnsigned call) := by
  cases call with
  | timestamp call => exact Store.seen_const _
  | balances call => exact Store.seen_const _
  | system call => exact (seen_systemUnsigned call).1

private theorem seen_validateUnsigned (call : Call) : Store.Seen (validateUnsigned call) := by
  cases call with
  | timestamp call => exact Store.seen_const _
  | balances call => exact Store.seen_const _
  | system call => exact (seen_systemUnsigned call).2

theorem extrinsicsLocal : chain.ExtrinsicsLocal form (Under writtenNames) where
  check := ExtrinsicForm.seen_verified _ _ _
  admission := seen_admitUnsigned
  dispatch := dispatch_local
  fees _ := Action.Local.pure ()
  books := holdsBooks (by decide)
  room := holdsRoom (by decide)
  log := holdsLog (by decide)
  held := holdsExtrinsic (by decide)

/-! ### Blocks -/

/-- What blocks of the network write beside their own place in the chain. -/
def blockNames : List Item.Name := .extrinsicCount :: .nextMultiplier :: writtenNames

theorem written_among_block {key : Bytes} (written : Under writtenNames key) :
    Under blockNames key :=
  written.mono fun _ member => List.mem_cons_of_mem _ (List.mem_cons_of_mem _ member)

section

variable {keys : Bytes → Prop}

private theorem timestampFinish_local (isSet : keys Timestamp.isSet.key) :
    Action.Local keys Timestamp.finish := by
  refine (Action.Local.update (Slot.seen_take) (Slot.take_local isSet)).bind fun found => ?_
  exact (Action.Local.trap _).ite (Action.Local.pure ())

theorem endsLocal (weight : keys Item.blockWeight.key) (multiplier : keys Item.nextMultiplier.key)
    (isSet : keys Timestamp.isSet.key) : chain.EndsLocal keys where
  idle := List.forall_mem_nil _
  finish := List.forall_mem_cons.mpr ⟨fun _ => timestampFinish_local isSet,
    List.forall_mem_singleton.mpr fun _ => Rules.updateMultiplier_local multiplier⟩
  weight := weight

end

theorem blocksLocal : chain.BlocksLocal form (Under blockNames) where
  extrinsics := extrinsicsLocal.mono fun _ => written_among_block
  begin := List.forall_mem_singleton.mpr fun _ => Action.Local.pure _
  idle := List.forall_mem_nil _
  finish := (endsLocal (under_head .blockWeight (by decide))
    (under_head .nextMultiplier (by decide)) (under_head .isSet (by decide))).finish
  count := under_head .extrinsicCount (by decide)
  number := Item.not_under_head .number (by decide)
  parent := Item.not_under_head .parentHash (by decide)
  hashes := Item.not_under_row .blockHash (by decide) rfl

/-- What is written after the last extrinsic of a block. The books and the time are not among
it. -/
def sealingNames : List Item.Name :=
  [.extrinsicIndex, .extrinsicData, .extrinsicCount, .extrinsicsLength, .phase, .blockWeight,
    .blockHash, .nextMultiplier, .isSet]

theorem sealingEnds : chain.EndsLocal (Under sealingNames) :=
  endsLocal (under_head .blockWeight (by decide)) (under_head .nextMultiplier (by decide))
    (under_head .isSet (by decide))

theorem sealing_local (number : Number) :
    Action.Local (Under sealingNames) (chain.sealing number) :=
  Chain.sealing_local sealingEnds (holdsBlock (by decide)) number

theorem finish_local : Action.Local (Under sealingNames) chain.finish :=
  Chain.finish_local sealingEnds (holdsBlock (by decide))

/-! ### The beginning of a block -/

theorem beginsLocal : chain.BeginsLocal fun _ => False where
  upgrade := List.forall_mem_nil _
  begin := List.forall_mem_singleton.mpr fun _ => Action.Local.pure _

theorem begin_spares {header : Header Number} {before begun : World} {key : Bytes}
    (foreign : ¬Under Chain.beginningNames key) (run : chain.begin header before = .ok () begun) :
    begun.store.get? key = before.store.get? key :=
  Chain.begin_spares beginsLocal not_false foreign run

private theorem validateNext_names (source : TransactionSource) (extrinsic : Extrinsic)
    (current : Hash) :
    Attempt.Local (Under Chain.beginningNames)
      (chain.validateNext form source extrinsic current) :=
  Chain.validateNext_local extrinsicsLocal.check (fun _ => seen_validateUnsigned) source extrinsic
    current

theorem validateTransaction_spares {source : TransactionSource} {extrinsic : Extrinsic}
    {current : Hash} {verdict : Validity} {before after : World} {key : Bytes}
    (different : key ≠ Layer.levelKey)
    (run : chain.validateTransaction form source extrinsic current before = .ok verdict after) :
    after.store.get? key = before.store.get? key :=
  Layer.hypothetically_spares (validateNext_names source extrinsic current) run different

/-- What the pool asks about a transaction cannot be seen, however it ends. -/
theorem validateTransaction_untouched (source : TransactionSource) (extrinsic : Extrinsic)
    (current : Hash) {before : World} (leveled : Layer.Leveled before.store) :
    Layer.Untouched before.store
      (Action.ending (chain.validateTransaction form source extrinsic current) before).store :=
  Layer.hypothetically_untouched leveled (validateNext_names source extrinsic current)
    (Item.not_under_head .level (by decide))

/-! ### Entry points -/

namespace Entry

section

variable {α β : Type} {arguments : Codec α} {answer : Codec β}

theorem taking_of_error (run : α → Action β) {input : Bytes} {cause : CodecError}
    (unreadable : arguments.decodeAll input = .error cause) (world : World) :
    taking arguments answer run input world = .ok (.error cause) world := by
  unfold taking
  rw [unreadable]
  rfl

theorem taking_of_ok (run : α → Action β) {input : Bytes} {given : α}
    (read : arguments.decodeAll input = .ok given) :
    taking arguments answer run input = (fun value => .ok (answer.encode value)) <$> run given := by
  unfold taking
  rw [read]
  rfl

end

theorem call_run (name : String) (input : Bytes) :
    methods.lookup name = none ∧ call name input = pure (.error (.unknownMethod name)) ∨
      ∃ method, (name, method) ∈ methods ∧
        call name input = Except.mapError EntryError.badInput <$> method input := by
  unfold call
  cases known : methods.lookup name with
  | none => exact Or.inl ⟨rfl, rfl⟩
  | some method =>
      obtain ⟨_, _, split, _⟩ := List.lookup_eq_some_iff.mp known
      have member : (name, method) ∈ methods := by
        rw [split]
        exact List.mem_append_right _ List.mem_cons_self
      refine Or.inr ⟨method, member, ?_⟩
      rw [← bind_pure_comp]
      apply bind_congr
      intro found
      cases found <;> rfl

end Entry

end StateTransition.Testnet
