import StateTransition.Proofs.Chain.Beginning
import StateTransition.Proofs.Codec.Compact
import StateTransition.Proofs.Limits.Room
import StateTransition.Trial.Chain

set_option autoImplicit false

/-! The ledger of a block: the weight of each class and the length of the extrinsics. Room is asked
for before a call is run; afterwards the call reports, and what it declared and did not use is given
back. The limits hold after every step of a block, in whatever order extrinsics come. -/

namespace StateTransition

variable {Account Number Call : Type}

/-! ### What the ledger shows -/

theorem Item.blockWeight_put (next : ConsumedWeight) (store : Store) :
    Item.blockWeight.get (Item.blockWeight.put next store) = next := by
  rw [Slot.get, Slot.stored?_put Item.blockWeight
    ((PerClass.codec_faithful Weight.codec_faithful).decodeFront?_encode next (by simp))]
  rfl

theorem Item.extrinsicsLength_put (length : UInt32) (store : Store) :
    Environment.extrinsicsLength (Item.extrinsicsLength.put length store) = length := by
  rw [Environment.extrinsicsLength, Slot.get, Slot.stored?_put Item.extrinsicsLength
    (Codec.word_faithful.decodeFront?_encode length trivial)]
  rfl

theorem Environment.extrinsicsLength_congr {left right : Store}
    (same : left.get? Item.extrinsicsLength.key = right.get? Item.extrinsicsLength.key) :
    extrinsicsLength left = extrinsicsLength right := by
  rw [extrinsicsLength, extrinsicsLength, Slot.get_congr _ same]

theorem Environment.extrinsicsLength_of_none {store : Store}
    (none : store.get? Item.extrinsicsLength.key = none) : extrinsicsLength store = 0 := by
  rw [extrinsicsLength, Slot.get_of_none _ none]
  rfl

theorem Item.length_not_weight : ¬Item.Under [.blockWeight] Item.extrinsicsLength.key :=
  Item.not_under_head .extrinsicsLength (by decide)

/-! ### Taking room -/

namespace Rules

variable {rules : Rules Account Number} {info : DispatchInfo} {length nextLength : UInt32}
variable {next : ConsumedWeight} {store : Store}

theorem roomWith_eq_ok (found : rules.roomWith info length store = .ok (nextLength, next)) :
    rules.lengthWith info length store = .ok nextLength ∧
      rules.weights.consumedWith (Item.blockWeight.get store) info = .ok next ∧
      rules.checkExtrinsicWeight info = .ok () := by
  unfold roomWith at found
  cases lengths : rules.lengthWith info length store with
  | error cause =>
      rw [lengths] at found
      cases found
  | ok foundLength =>
      cases weights : rules.weights.consumedWith (Item.blockWeight.get store) info with
      | error cause =>
          rw [lengths, weights] at found
          cases found
      | ok foundNext =>
          cases single : rules.checkExtrinsicWeight info with
          | error cause =>
              rw [lengths, weights, single] at found
              cases found
          | ok _ =>
              rw [lengths, weights, single] at found
              cases found
              exact ⟨rfl, rfl, rfl⟩

theorem lengthWith_eq_ok (found : rules.lengthWith info length store = .ok nextLength) :
    nextLength = Word.saturatingAdd (Environment.extrinsicsLength store) length ∧
      nextLength ≤ rules.lengths.max.get info.kind := by
  unfold lengthWith at found
  dsimp only at found
  by_cases above : rules.lengths.max.get info.kind <
      Word.saturatingAdd (Environment.extrinsicsLength store) length
  · rw [if_pos above] at found
    cases found
  · rw [if_neg above] at found
    cases found
    exact ⟨rfl, UInt32.not_lt.mp above⟩

/-- Where no limit is at the end of the numbers, an admitted length is counted in full. -/
theorem lengthWith_counts (short : (rules.lengths.max.get info.kind).toNat < 4294967295)
    (found : rules.lengthWith info length store = .ok nextLength) :
    nextLength.toNat = (Environment.extrinsicsLength store).toNat + length.toNat ∧
      nextLength.toNat ≤ (rules.lengths.max.get info.kind).toNat := by
  obtain ⟨same, below⟩ := lengthWith_eq_ok found
  have within := UInt32.le_iff_toNat_le.mp below
  have sum : (Word.saturatingAdd (Environment.extrinsicsLength store) length).toNat =
      min ((Environment.extrinsicsLength store).toNat + length.toNat) 4294967295 :=
    @Word.toNat_clamp UInt32 _ _
  rw [← same] at sum
  omega

theorem takeRoom_ok {after : Store} (taken : rules.takeRoom info length store = (.ok (), after)) :
    rules.weights.Admits info (Item.blockWeight.get store) (Item.blockWeight.get after) ∧
      rules.lengthWith info length store = .ok (Environment.extrinsicsLength after) := by
  unfold takeRoom at taken
  cases found : rules.roomWith info length store with
  | error cause =>
      rw [found] at taken
      cases taken
  | ok room =>
      obtain ⟨nextLength, next⟩ := room
      rw [found] at taken
      cases taken
      obtain ⟨lengths, weights, _⟩ := roomWith_eq_ok found
      have weighing : Store.Local (Item.Under [.blockWeight]) (Item.blockWeight.put next) :=
        Slot.put_local (Item.under_head .blockWeight (by decide)) next
      have spared := weighing.spares (Item.extrinsicsLength.put nextLength store) _
        Item.length_not_weight
      rw [Item.blockWeight_put, Environment.extrinsicsLength_congr spared,
        Item.extrinsicsLength_put]
      exact ⟨BlockWeights.consumedWith_admits weights, lengths⟩

private theorem takeRoom_error {cause : Rejection} {after : Store}
    (refused : rules.takeRoom info length store = (.error cause, after)) : after = store := by
  unfold takeRoom at refused
  cases found : rules.roomWith info length store with
  | error _ =>
      rw [found] at refused
      cases refused
      rfl
  | ok room =>
      rw [found] at refused
      cases refused

end Rules

/-! ### Giving room back -/

section

variable {info : DispatchInfo} {post : PostInfo} {store : Store}

private theorem returnRoom_length :
    Environment.extrinsicsLength (returnRoom info post store) =
      Environment.extrinsicsLength store := by
  have isLocal : Store.Local (Item.Under [.blockWeight]) (returnRoom info post) :=
    (Slot.modify_local (Item.under_head .blockWeight (by decide)) _).ite Store.Local.id
  exact Environment.extrinsicsLength_congr (isLocal.spares store _ Item.length_not_weight)

theorem returnRoom_other {other : DispatchClass} (different : other ≠ info.kind) :
    (Item.blockWeight.get (returnRoom info post store)).get other =
      (Item.blockWeight.get store).get other := by
  unfold returnRoom
  dsimp only
  split
  · change (Item.blockWeight.get (Item.blockWeight.put _ store)).get other = _
    rw [Item.blockWeight_put]
    exact PerClass.get_modify_other _ different _
  · rfl

theorem returnRoom_same (dimension : Dimension) :
    ((Item.blockWeight.get (returnRoom info post store)).get info.kind).along dimension =
      ((Item.blockWeight.get store).get info.kind).along dimension -
        (post.unspent info).along dimension := by
  unfold returnRoom
  dsimp only
  split
  · change ((Item.blockWeight.get (Item.blockWeight.put _ store)).get info.kind).along _ = _
    rw [Item.blockWeight_put, ConsumedWeight.reduce, PerClass.get_modify_same,
      Weight.along_saturatingSub]
  · rename_i nothing
    have none : (post.unspent info).along dimension ≤ Weight.zero.along dimension :=
      Weight.within_of_not_anyGreater nothing dimension
    rw [Weight.along_zero] at none
    omega

theorem returnRoom_within (kind : DispatchClass) :
    ((Item.blockWeight.get (returnRoom info post store)).get kind).Within
      ((Item.blockWeight.get store).get kind) := by
  intro dimension
  by_cases same : kind = info.kind
  · subst same
    rw [returnRoom_same]
    exact Nat.sub_le _ _
  · exact Nat.le_of_eq (congrArg (Weight.along · dimension) (returnRoom_other same))

end

/-! ### One extrinsic -/

/-- An extrinsic as the ledger sees it: what is declared of it and how long it is, and what its call
reports in the end. -/
structure Load (Account Number : Type) where
  signer : Option (Account × Terms Number)
  info : DispatchInfo
  length : UInt32
  post : PostInfo
  failed : Bool

variable [DecidableEq Account]

variable [Word Number]

namespace Rules

variable {rules : Rules Account Number} {load : Load Account Number} {world : World}

def askRoom (rules : Rules Account Number) (load : Load Account Number) :
    Attempt Rejection Unit :=
  match load.signer with
  | some (who, terms) => do
      let _ ← rules.prepareCheck terms who load.info load.length.toNat .weight
      return ()
  | none => rules.prepareBareCheck load.info load.length.toNat .weight

def discharge (rules : Rules Account Number) (load : Load Account Number) :
    Attempt Rejection Unit :=
  rules.settleCheck none load.info load.post load.length.toNat load.failed .weight

private theorem askRoom_run :
    (rules.askRoom load).run world =
      .ok (rules.takeRoom load.info load.length world.store).1
        { world with store := (rules.takeRoom load.info load.length world.store).2 } := by
  obtain ⟨signer, info, length, post, failed⟩ := load
  have whole : UInt32.ofNat length.toNat = length := UInt32.ofNat_toNat
  cases signer with
  | none =>
      unfold askRoom prepareBareCheck
      dsimp only
      rw [whole]
      rfl
  | some signer =>
      unfold askRoom prepareCheck
      dsimp only
      rw [whole]
      have taken : (Attempt.update (rules.takeRoom info length)).run world =
          .ok (rules.takeRoom info length world.store).1
            { world with store := (rules.takeRoom info length world.store).2 } := rfl
      rw [Attempt.bind_run, Action.bind_run, Attempt.bind_run, Action.bind_run, taken]
      dsimp only
      cases (rules.takeRoom info length world.store).1 with
      | error cause => rfl
      | ok _ => rfl

private theorem askRoom_ok {admitted : World}
    (run : (rules.askRoom load).run world = .ok (.ok ()) admitted) :
    rules.takeRoom load.info load.length world.store = (.ok (), admitted.store) := by
  rw [askRoom_run] at run
  injection run with answer after
  rw [← after, ← answer]

private theorem askRoom_error {cause : Rejection} {refused : World}
    (run : (rules.askRoom load).run world = .ok (.error cause) refused) : refused = world := by
  rw [askRoom_run] at run
  injection run with answer after
  have same : (rules.takeRoom load.info load.length world.store).2 = world.store :=
    takeRoom_error (Prod.ext answer rfl)
  rw [← after]
  exact congrArg (fun store => { world with store }) same

private theorem discharge_run :
    (rules.discharge load).run world =
      if load.info.kind = .mandatory ∧ load.failed = true then
        .ok (.error (.invalid .badMandatory)) world
      else .ok (.ok ()) { world with store := returnRoom load.info load.post world.store } := by
  unfold discharge settleCheck
  dsimp only
  split
  · rfl
  · rfl

private theorem discharge_cases {outcome : Except Rejection Unit} {settled : World}
    (run : (rules.discharge load).run world = .ok outcome settled) :
    (load.info.kind = .mandatory ∧ load.failed = true) ∧
        (outcome = .error (.invalid .badMandatory) ∧ settled = world) ∨
      ¬(load.info.kind = .mandatory ∧ load.failed = true) ∧
        (outcome = .ok () ∧ settled.store = returnRoom load.info load.post world.store) := by
  rw [discharge_run] at run
  by_cases bad : load.info.kind = .mandatory ∧ load.failed = true
  · rw [if_pos bad] at run
    cases run
    exact Or.inl ⟨bad, rfl, rfl⟩
  · rw [if_neg bad] at run
    cases run
    exact Or.inr ⟨bad, rfl, rfl⟩

theorem discharge_within {outcome : Except Rejection Unit} {settled : World}
    (run : (rules.discharge load).run world = .ok outcome settled) (kind : DispatchClass) :
    ((Item.blockWeight.get settled.store).get kind).Within
      ((Item.blockWeight.get world.store).get kind) := by
  rcases discharge_cases run with ⟨_, _, same⟩ | ⟨_, _, same⟩
  · rw [same]
    exact Weight.Within.refl _
  · rw [same]
    exact returnRoom_within kind

private theorem discharge_length {outcome : Except Rejection Unit} {settled : World}
    (run : (rules.discharge load).run world = .ok outcome settled) :
    Environment.extrinsicsLength settled.store = Environment.extrinsicsLength world.store := by
  rcases discharge_cases run with ⟨_, _, same⟩ | ⟨_, _, same⟩
  · rw [same]
  · rw [same]
    exact returnRoom_length

end Rules

/-- What an admitted extrinsic makes of the ledger in the end. -/
structure Load.Weighs (load : Load Account Number) (weights : BlockWeights)
    (before admitted settled : ConsumedWeight) (outcome : Except Rejection Unit) : Prop where
  others : ∀ kind, kind ≠ load.info.kind → settled.get kind = before.get kind
  exactly : outcome = .ok () → (weights.get load.info.kind).Limited →
    (∀ dimension, load.info.weight.along dimension +
      (weights.get load.info.kind).baseExtrinsic.along dimension < 18446744073709551616) →
    ∀ dimension, (settled.get load.info.kind).along dimension =
      (before.get load.info.kind).along dimension +
        (weights.get load.info.kind).baseExtrinsic.along dimension +
        min ((load.post.actual.getD load.info.weight).along dimension)
          (load.info.weight.along dimension)
  lowers : ∀ kind, (settled.get kind).Within (admitted.get kind)
  refused : (∃ cause, outcome = .error cause) ↔ load.info.kind = .mandatory ∧ load.failed = true

namespace Rules

variable {rules : Rules Account Number} {load : Load Account Number}
variable {world settled : World} {outcome : Except Rejection Unit}

private theorem weighs_of_run {admitted : World}
    (asks : (rules.askRoom load).run world = .ok (.ok ()) admitted)
    (discharges : (rules.discharge load).run admitted = .ok outcome settled) :
    load.Weighs rules.weights (Item.blockWeight.get world.store)
      (Item.blockWeight.get admitted.store) (Item.blockWeight.get settled.store) outcome := by
  obtain ⟨admits, _⟩ := takeRoom_ok (askRoom_ok asks)
  have cases := discharge_cases discharges
  constructor
  · intro kind different
    rw [← admits.others kind different]
    rcases cases with ⟨_, _, same⟩ | ⟨_, _, same⟩
    · rw [same]
    · rw [same]
      exact returnRoom_other different
  · intro succeeded limited fits dimension
    rcases cases with ⟨_, failed, _⟩ | ⟨_, _, same⟩
    · rw [succeeded] at failed
      cases failed
    have charged := admits.charged limited dimension
    have room := fits dimension
    obtain ⟨_, split⟩ := load.post.along_unspent load.info dimension
    rw [Weight.along_saturatingAdd] at charged
    rw [PostInfo.along_actualWeight] at split
    rw [same, returnRoom_same]
    omega
  · exact discharge_within discharges
  · rcases cases with ⟨bad, failed, _⟩ | ⟨good, succeeded, _⟩
    · exact ⟨fun _ => bad, fun _ => ⟨_, failed⟩⟩
    · constructor
      · rintro ⟨cause, impossible⟩
        rw [succeeded] at impossible
        cases impossible
      · intro bad
        exact absurd bad good

/-! ### Runs of a block -/

/-- The ledger of a block that has begun, after any number of extrinsics. One that is admitted is
discharged before the next one comes; those that were admitted are listed in their order. -/
inductive Metered (rules : Rules Account Number) (begun : World) :
    Option (Load Account Number) → List (Load Account Number) → World → Prop
  | begun : Metered rules begun none [] begun
  | refused {accepted : List (Load Account Number)} {world refused : World}
      {load : Load Account Number} {cause : Rejection} :
      Metered rules begun none accepted world →
      (rules.askRoom load).run world = .ok (.error cause) refused →
      Metered rules begun none accepted refused
  | admitted {accepted : List (Load Account Number)} {world admitted : World}
      {load : Load Account Number} :
      Metered rules begun none accepted world →
      (rules.askRoom load).run world = .ok (.ok ()) admitted →
      Metered rules begun (some load) (accepted ++ [load]) admitted
  | discharged {accepted : List (Load Account Number)} {world settled : World}
      {load : Load Account Number} {outcome : Except Rejection Unit} :
      Metered rules begun (some load) accepted world →
      (rules.discharge load).run world = .ok outcome settled →
      Metered rules begun none accepted settled

/-- The ledger is within the limits and has counted every byte that was admitted. -/
structure Kept (rules : Rules Account Number) (accepted : List (Load Account Number))
    (store : Store) : Prop where
  respects : rules.weights.Respects (Item.blockWeight.get store)
  length : (Environment.extrinsicsLength store).toNat =
    (accepted.map fun load => load.length.toNat).sum
  short : ∀ last ∈ accepted.getLast?, (Environment.extrinsicsLength store).toNat ≤
    (rules.lengths.max.get last.info.kind).toNat

theorem Kept.admitted {taken : World} (short : ∀ kind, (rules.lengths.max.get kind).toNat < 4294967295)
    {accepted : List (Load Account Number)} (kept : rules.Kept accepted world.store)
    (run : (rules.askRoom load).run world = .ok (.ok ()) taken) :
    rules.Kept (accepted ++ [load]) taken.store := by
  obtain ⟨admits, lengths⟩ := takeRoom_ok (askRoom_ok run)
  obtain ⟨sum, within⟩ := lengthWith_counts (short load.info.kind) lengths
  constructor
  · exact admits.respects kept.respects
  · rw [sum, kept.length]
    simp
  · intro last member
    rw [List.getLast?_concat, Option.mem_some] at member
    subst member
    exact within

private theorem Kept.discharged {accepted : List (Load Account Number)}
    (kept : rules.Kept accepted world.store)
    (run : (rules.discharge load).run world = .ok outcome settled) :
    rules.Kept accepted settled.store := by
  constructor
  · exact kept.respects.lessened fun kind _ => discharge_within run kind
  · rw [discharge_length run]
    exact kept.length
  · rw [discharge_length run]
    exact kept.short

theorem Metered.kept (short : ∀ kind, (rules.lengths.max.get kind).toNat < 4294967295)
    {begun after : World} (start : rules.Kept [] begun.store)
    {pending : Option (Load Account Number)} {accepted : List (Load Account Number)}
    (run : rules.Metered begun pending accepted after) : rules.Kept accepted after.store := by
  induction run with
  | begun => exact start
  | refused _ refuses ih =>
      rw [askRoom_error refuses]
      exact ih
  | admitted _ admits ih => exact ih.admitted short admits
  | discharged _ discharges ih => exact ih.discharged discharges

end Rules

/-! ### Hooks beside the ledger -/

namespace Trial.Settings

def BesideLedger (key : Bytes) : Prop :=
  key ≠ Item.blockWeight.key ∧ key ≠ Item.extrinsicsLength.key

instance : DecidablePred BesideLedger := fun _ => inferInstanceAs (Decidable (_ ∧ _))

theorem holdsLog : HoldsLog BesideLedger where
  events := by decide +kernel
  count := by decide +kernel

private theorem beginHook_local (name : String) (beside : BesideLedger (markKey ("init_" ++ name)))
    (weight : Weight) (number : Trial.Number) :
    Action.Local BesideLedger (beginHook name weight number) := by
  refine (Action.Local.note _).bind fun _ => ?_
  exact (Action.Local.change (Store.Local.put beside _)).bind fun _ => Action.Local.pure weight

private theorem upgradeHook_local (settings : Settings) (name : String)
    (beside : BesideLedger (markKey ("upgrade_" ++ name))) (weight : Weight) :
    Action.Local BesideLedger (settings.upgradeHook name weight) := by
  refine (Action.Local.note _).bind fun _ => ?_
  refine (Action.Local.change (Store.Local.put beside _)).bind fun _ => ?_
  exact (Rules.deposit_local holdsLog _).bind fun _ => Action.Local.pure weight

theorem beginsLocal (settings : Settings) : settings.chain.BeginsLocal BesideLedger where
  upgrade := List.forall_mem_cons.mpr ⟨settings.upgradeHook_local "c" (by decide +kernel) _,
    List.forall_mem_cons.mpr ⟨settings.upgradeHook_local "a" (by decide +kernel) _,
      List.forall_mem_singleton.mpr (settings.upgradeHook_local "b" (by decide +kernel) _)⟩⟩
  begin := List.forall_mem_cons.mpr ⟨beginHook_local "a" (by decide +kernel) _,
    List.forall_mem_singleton.mpr (beginHook_local "b" (by decide +kernel) _)⟩

end Trial.Settings

/-! ### The beginning of a block -/

namespace Chain

variable {chain : Chain Account Number Call} {keys : Bytes → Prop} {header : Header Number}
variable {before begun after : World}

omit [DecidableEq Account] in
/-- A block begins with the weight of upgrades and hooks and its own, all of it mandatory. -/
theorem begin_weighs (isLocal : chain.BeginsLocal keys) (weight : ¬keys Item.blockWeight.key)
    (begins : chain.begin header before = .ok () begun) :
    ∃ upgradeWeight upgraded hookWeight hooked,
      chain.upgradeIfNew ⟨clearEvents before.store, before.notes⟩ = .ok upgradeWeight upgraded ∧
      totalWeight (chain.beginHooks.map (· header.number))
        ⟨Environment.setUp header.number header.parentHash (Digest.beforehand header.digest)
          upgraded.store, upgraded.notes⟩ = .ok hookWeight hooked ∧
      Item.blockWeight.get begun.store = ConsumedWeight.zero.add
        ((upgradeWeight.saturatingAdd hookWeight).saturatingAdd chain.rules.weights.baseBlock)
          .mandatory := by
  obtain ⟨upgradeWeight, upgraded, hookWeight, hooked, upgrades, hooks, ends⟩ := begin_eq_ok begins
  refine ⟨upgradeWeight, upgraded, hookWeight, hooked, upgrades, hooks, ?_⟩
  have nothing : Item.blockWeight.get hooked.store = .zero := by
    rw [Slot.get_congr _ ((isLocal.beginning header.number).spared hooks weight)]
    exact Environment.blockWeight_setUp _ _ _ _
  have phased := Environment.finishBeginning_local.spares (Environment.addWeight
    ((upgradeWeight.saturatingAdd hookWeight).saturatingAdd chain.rules.weights.baseBlock)
      .mandatory hooked.store) _ (Item.not_under_head .blockWeight (by decide))
  rw [ends, Slot.get_congr Item.blockWeight phased]
  change Item.blockWeight.get (Item.blockWeight.put _ hooked.store) = _
  rw [Item.blockWeight_put, nothing]

omit [DecidableEq Account] in
theorem begin_kept (isLocal : chain.BeginsLocal keys) (weight : ¬keys Item.blockWeight.key)
    (length : ¬keys Item.extrinsicsLength.key)
    (fresh : before.store.get? Item.extrinsicsLength.key = none)
    (begins : chain.begin header before = .ok () begun) : chain.rules.Kept [] begun.store := by
  have noLength : Environment.extrinsicsLength begun.store = 0 := by
    have spared := begin_spares isLocal length
      (Item.not_under_head .extrinsicsLength (by decide)) begins
    exact Environment.extrinsicsLength_of_none (spared.trans fresh)
  have unused : ∀ kind ∈ DispatchClass.nonMandatory,
      (Item.blockWeight.get begun.store).get kind = .zero := by
    intro kind member
    have other : kind ≠ .mandatory := by
      rintro rfl
      revert member
      decide
    obtain ⟨_, _, _, _, _, _, weighs⟩ := begin_weighs isLocal weight begins
    rw [weighs, ConsumedWeight.add, PerClass.get_modify_other _ other]
    cases kind <;> rfl
  constructor
  · exact BlockWeights.respects_of_unused unused
  · rw [noLength]
    rfl
  · intro last member
    cases member

/-- Whatever extrinsics a block is asked to take, none of its classes exceeds its total, two classes
with reserves stay within the block and the larger reserve, and the length is the sum of what was
admitted. The next extrinsic is refused and changes nothing, or weighs what it has used. -/
theorem ledger_of_begun (isLocal : chain.BeginsLocal keys)
    (weight : ¬keys Item.blockWeight.key) (length : ¬keys Item.extrinsicsLength.key)
    (short : ∀ kind, (chain.rules.lengths.max.get kind).toNat < 4294967295)
    (fresh : before.store.get? Item.extrinsicsLength.key = none)
    (begins : chain.begin header before = .ok () begun)
    {pending : Option (Load Account Number)} {accepted : List (Load Account Number)}
    (run : chain.rules.Metered begun pending accepted after) :
    chain.rules.Kept accepted after.store ∧
      ∀ load, (∃ cause, (chain.rules.askRoom load).run after = .ok (.error cause) after) ∨
        ∃ admitted outcome settled, (chain.rules.askRoom load).run after = .ok (.ok ()) admitted ∧
          (chain.rules.discharge load).run admitted = .ok outcome settled ∧
          load.Weighs chain.rules.weights (Item.blockWeight.get after.store)
            (Item.blockWeight.get admitted.store) (Item.blockWeight.get settled.store) outcome := by
  refine ⟨run.kept short (begin_kept isLocal weight length fresh begins), ?_⟩
  intro load
  have asks := @Rules.askRoom_run Account Number _ _ chain.rules load after
  cases taken : (chain.rules.takeRoom load.info load.length after.store).1 with
  | error cause =>
      left
      rw [taken] at asks
      have unchanged := Rules.askRoom_error asks
      rw [unchanged] at asks
      exact ⟨cause, asks⟩
  | ok _ =>
      right
      rw [taken] at asks
      have discharges := @Rules.discharge_run Account Number _ _ chain.rules load
        ⟨(chain.rules.takeRoom load.info load.length after.store).2, after.notes⟩
      by_cases bad : load.info.kind = .mandatory ∧ load.failed = true
      · rw [if_pos bad] at discharges
        exact ⟨_, _, _, asks, discharges, Rules.weighs_of_run asks discharges⟩
      · rw [if_neg bad] at discharges
        exact ⟨_, _, _, asks, discharges, Rules.weighs_of_run asks discharges⟩

/-- A call that declares a weight of a hundred and reports forty is charged for forty, and the base
weight of its class. -/
theorem ledger_of_begun_refund :
    ∃ (load : Load Trial.Account Trial.Number) (begun after : World),
      load.info.weight = ⟨100, 0⟩ ∧ load.post.actual = some ⟨40, 0⟩ ∧
        Trial.Settings.plain.chain.begin (.blank 1) ⟨.empty, []⟩ = .ok () begun ∧
        Trial.Settings.plain.rules.Metered begun none [load] after ∧
        Trial.Settings.plain.rules.Kept [load] after.store ∧
        (Item.blockWeight.get after.store).normal = ⟨45, 0⟩ := by
  let load : Load Trial.Account Trial.Number :=
    ⟨none, ⟨⟨100, 0⟩, .normal, .yes⟩, 200, ⟨some ⟨40, 0⟩, .yes⟩, false⟩
  let body : Attempt Rejection Weight := do
    Trial.Settings.plain.chain.begin (.blank 1)
    Trial.Settings.plain.rules.askRoom load
    Trial.Settings.plain.rules.discharge load
    Attempt.look fun store => (Item.blockWeight.get store).normal
  have answered : Action.answer body.run ⟨.empty, []⟩ = .ok (.ok ⟨45, 0⟩) := by decide +kernel
  obtain ⟨_, begun, begin, asking⟩ := Attempt.bind_eq_ok (Action.run_of_answer_ok answered)
  obtain ⟨_, admitted, asks, discharging⟩ := Attempt.bind_eq_ok asking
  obtain ⟨_, after, discharges, looks⟩ := Attempt.bind_eq_ok discharging
  have begins := Attempt.lift_eq_ok begin
  have run := (Rules.Metered.begun.admitted asks).discharged discharges
  have short : ∀ kind, (Trial.Settings.plain.rules.lengths.max.get kind).toNat < 4294967295 := by
    intro kind
    cases kind <;> decide
  have kept := (ledger_of_begun (Trial.Settings.beginsLocal .plain) (by decide +kernel)
    (by decide +kernel) short (by decide +kernel) begins run).1
  have shown : (Item.blockWeight.get after.store).normal = ⟨45, 0⟩ := by
    have looked : Action.look (fun store => (Item.blockWeight.get store).normal) after = _ :=
      Attempt.lift_eq_ok looks
    rw [Action.look_run] at looked
    injection looked
  exact ⟨load, begun, after, rfl, rfl, begins, run, kept, shown⟩

end Chain

end StateTransition
