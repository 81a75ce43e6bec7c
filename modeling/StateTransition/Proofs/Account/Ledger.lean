import Mathlib.Logic.Function.Basic
import StateTransition.Proofs.Account.Issuance
import StateTransition.Proofs.Testnet.Frame

set_option autoImplicit false

/-! Runs of operations on accounts. They begin with the first balances of a chain and go on with
any operations in any order, some of which fail. What provides for an account beside its balance is
counted along the way, since it may only be given up after it was gained. -/

namespace StateTransition.Rules

variable {Account Number : Type} [DecidableEq Account] [Word Number]
variable {rules : Rules Account Number} {who : Account}
variable {elsewhere others : Account → Nat} {before after : Store} {world ended : World}

section

variable (reads : rules.account.Faithful fun _ => True)

include reads

/-! ### Operations on references -/

private theorem Balanced.referenced {info : AccountInfo Number}
    (balanced : rules.Balanced elsewhere before)
    (booked : rules.Rebooked who info (Item.totalIssuance.get before) before after)
    (free : info.free = rules.freeBalance who before)
    (provided : info.providers.toNat = others who + AccountInfo.providing info.free)
    (same : ∀ other, other ≠ who → others other = elsewhere other) :
    rules.Balanced others after := by
  apply balanced.rebooked reads booked _ provided same
  · rw [free]
  · rw [free]
    exact balanced.sound.floor who

theorem incrementConsumers_balanced {outcome : Except DispatchError Unit}
    (balanced : rules.Balanced elsewhere world.store)
    (run : rules.incrementConsumers who world = .ok outcome ended) :
    rules.Balanced elsewhere ended.store := by
  rcases incrementConsumers_cases run with ⟨info, gains, booked⟩ | untouched
  · unfold AccountInfo.withConsumer at gains
    by_cases provided : 0 < (rules.accountInfo who world.store).providers
    · rw [if_pos provided] at gains
      cases gains
      exact balanced.referenced reads booked rfl (balanced.sound.provided who) fun _ _ => rfl
    · rw [if_neg provided] at gains
      cases gains
  · exact balanced.same reads untouched who

theorem decrementConsumers_balanced (balanced : rules.Balanced elsewhere world.store)
    (run : rules.decrementConsumers who world = .ok () ended) :
    rules.Balanced elsewhere ended.store :=
  balanced.referenced reads (decrementConsumers_rebooked run) rfl (balanced.sound.provided who)
    fun _ _ => rfl

theorem incrementSufficients_balanced (quiet : rules.Quiet) {arrival : Arrival}
    (balanced : rules.Balanced elsewhere world.store)
    (run : rules.incrementSufficients who world = .ok arrival ended) :
    rules.Balanced elsewhere ended.store := by
  have booked := incrementSufficients_rebooked quiet run
  unfold AccountInfo.withSufficient at booked
  by_cases none : (rules.accountInfo who world.store).referenceCount = 0
  · rw [if_pos none] at booked
    exact balanced.referenced reads booked rfl (balanced.sound.provided who) fun _ _ => rfl
  · rw [if_neg none] at booked
    exact balanced.referenced reads booked rfl (balanced.sound.provided who) fun _ _ => rfl

/-- An account that only sufficient references let exist has no balance to lose with them. -/
theorem decrementSufficients_balanced (quiet : rules.Quiet) {departure : Departure}
    (balanced : rules.Balanced elsewhere world.store)
    (run : rules.decrementSufficients who world = .ok departure ended) :
    rules.Balanced elsewhere ended.store := by
  have booked := decrementSufficients_rebooked quiet run
  have counts := balanced.sound.provided who
  unfold AccountInfo.afterSufficient AccountInfo.withoutSufficient at booked
  by_cases last : (rules.accountInfo who world.store).sufficients ≤ 1 ∧
      (rules.accountInfo who world.store).providers = 0
  · rw [if_pos last] at booked
    rw [last.2] at counts
    change 0 = _ at counts
    have none : rules.freeBalance who world.store = 0 := by
      by_contra some
      rw [AccountInfo.providing, if_neg some] at counts
      omega
    rw [none] at counts
    exact balanced.referenced reads booked none.symm counts fun _ _ => rfl
  · rw [if_neg last] at booked
    exact balanced.referenced reads booked rfl counts fun _ _ => rfl

theorem incrementProviders_balanced (quiet : rules.Quiet) {arrival : Arrival}
    (balanced : rules.Balanced elsewhere world.store)
    (run : rules.incrementProviders who world = .ok arrival ended)
    (fits : rules.Fits (Function.update elsewhere who (elsewhere who + 1)) ended.store) :
    rules.Balanced (Function.update elsewhere who (elsewhere who + 1)) ended.store := by
  have booked := incrementProviders_rebooked quiet run
  have free := AccountInfo.withProvider_free (rules.accountInfo who world.store)
  have counts := balanced.sound.provided who
  have room := fits.providers who
  rw [Function.update_self, freeBalance, booked.record, free] at room
  change elsewhere who + 1 + AccountInfo.providing (rules.freeBalance who world.store) < _ at room
  have countable : (rules.accountInfo who world.store).providers.toNat + 1 < 4294967296 := by
    omega
  have more := AccountInfo.withProvider_providers countable
  apply balanced.referenced reads booked free
  · rw [Function.update_self, more, counts, free]
    change _ + AccountInfo.providing (rules.freeBalance who world.store) + 1 = _ + 1 +
      AccountInfo.providing (rules.freeBalance who world.store)
    omega
  · intro other different
    rw [Function.update_of_ne different]

theorem decrementProviders_balanced (quiet : rules.Quiet)
    {outcome : Except DispatchError Departure} (balanced : rules.Balanced elsewhere world.store)
    (owned : 0 < elsewhere who)
    (run : rules.decrementProviders who world = .ok outcome ended) :
    rules.Balanced (if outcome.isOk then Function.update elsewhere who (elsewhere who - 1)
      else elsewhere) ended.store := by
  obtain ⟨answered, booked⟩ := decrementProviders_rebooked quiet run
  have counts := balanced.sound.provided who
  have same : ∀ other, other ≠ who →
      Function.update elsewhere who (elsewhere who - 1) other = elsewhere other :=
    fun other different => Function.update_of_ne different _ _
  unfold AccountInfo.afterProvider at booked
  rcases AccountInfo.withoutProvider_cases (rules.accountInfo who world.store) with
    ⟨stays, _⟩ | ⟨reaped, few, _⟩ | ⟨rest, lives, free, less⟩
  · rw [stays] at booked answered
    subst answered
    exact balanced.referenced reads booked rfl counts fun _ _ => rfl
  · rw [reaped] at booked answered
    subst answered
    have none : rules.freeBalance who world.store = 0 := by
      by_contra some
      rw [AccountInfo.providing, if_neg some] at counts
      omega
    apply balanced.referenced reads booked none.symm _ same
    rw [Function.update_self]
    change 0 = _ + 0
    omega
  · rw [lives] at booked answered
    subst answered
    apply balanced.referenced reads booked free _ same
    rw [Function.update_self]
    change rest.providers.toNat = elsewhere who - 1 + AccountInfo.providing rest.free
    rw [less, counts, free]
    change _ + AccountInfo.providing (rules.freeBalance who world.store) - 1 = _ +
      AccountInfo.providing (rules.freeBalance who world.store)
    omega

/-! ### The first balances -/

omit reads

private theorem nodup_of_allDistinct {accounts : List Account}
    (distinct : allDistinct accounts = true) : accounts.Nodup := by
  induction accounts with
  | nil => exact List.nodup_nil
  | cons first others ih =>
      simp only [allDistinct, Bool.and_eq_true, Bool.not_eq_true', List.contains_eq_mem,
        decide_eq_false_iff_not] at distinct
      exact List.nodup_cons.mpr ⟨distinct.1, ih distinct.2⟩

omit [Word Number] in
private theorem endowmentFault?_eq_none {endowments : List (Account × Balance)}
    (fine : rules.endowmentFault? endowments = none) :
    (∀ endowment ∈ endowments, rules.existentialDeposit ≤ endowment.2) ∧
      (endowments.map (·.1)).Nodup := by
  unfold endowmentFault? at fine
  cases found : endowments.find? fun endowment => endowment.2 < rules.existentialDeposit with
  | some endowment =>
      rw [found] at fine
      cases fine
  | none =>
      rw [found] at fine
      constructor
      · intro endowment member
        have above := List.find?_eq_none.mp found endowment member
        apply UInt64.not_lt.mp
        intro below
        exact above (decide_eq_true below)
      · apply nodup_of_allDistinct
        by_contra repeated
        dsimp only at fine
        rw [if_neg repeated] at fine
        cases fine

def sumOf (endowments : List (Account × Balance)) : Nat :=
  (endowments.map fun endowment => endowment.2.toNat).sum

section

omit [DecidableEq Account]

private theorem toNat_foldl_saturatingAdd (endowments : List (Account × Balance)) (start : Balance)
    (fits : start.toNat + sumOf endowments < 18446744073709551616) :
    (endowments.foldl (fun sum endowment => Word.saturatingAdd sum endowment.2) start).toNat =
      start.toNat + sumOf endowments := by
  induction endowments generalizing start with
  | nil => rfl
  | cons first rest ih =>
      have split : sumOf (first :: rest) = first.2.toNat + sumOf rest := List.sum_cons
      rw [split] at fits
      have added : (Word.saturatingAdd start first.2).toNat = start.toNat + first.2.toNat :=
        Balance.toNat_saturatingAdd (by omega)
      rw [List.foldl_cons, ih _ (by omega), added, split]
      omega

theorem toNat_issued (endowments : List (Account × Balance))
    (fits : sumOf endowments < 18446744073709551616) :
    (endowments.foldl (fun sum endowment => Word.saturatingAdd sum endowment.2)
      (0 : Balance)).toNat = sumOf endowments := by
  have start : (0 : Balance).toNat + sumOf endowments = sumOf endowments := Nat.zero_add _
  rw [toNat_foldl_saturatingAdd endowments 0 (by rwa [start]), start]

private theorem blank_of_no_entries (reads : rules.account.Faithful fun _ => True)
    (empty : rules.accounts.entries before = []) (who : Account) :
    rules.accountInfo who before = .blank := by
  have readsBack := reads.decodeFront?_encode who trivial
  have few := rules.accounts.countedAt_le_total rules.accounts_hash readsBack (fun _ => 1) before
  rw [Table.total, empty] at few
  have absent : (rules.accountSlot who).stored? before = none := by
    cases stored : (rules.accountSlot who).stored? before with
    | none => rfl
    | some info =>
        change ((rules.accountSlot who).stored? before).elim 0 _ ≤ 0 at few
        rw [stored] at few
        exact absurd few (Nat.not_succ_le_zero 0)
  rw [accountInfo, Slot.get, absent]
  rfl

private theorem totalFree_of_no_entries (empty : rules.accounts.entries before = []) :
    rules.totalFree before = 0 := by
  simp only [totalFree, Table.total, empty, List.map_nil, List.sum_nil]

private theorem sound_of_blank (blank : ∀ who, rules.accountInfo who before = .blank) :
    rules.Sound (fun _ => 0) before := by
  constructor
  · intro who some
    rw [freeBalance, blank who] at some
    exact absurd rfl some
  · intro who
    rw [freeBalance, blank who]
    rfl

end

include reads

theorem endowed_sound {free : Balance} (sound : rules.Sound (fun _ => 0) before)
    (refilled : rules.Refilled who free (Item.totalIssuance.get before) before after)
    (enough : rules.existentialDeposit ≤ free) : rules.Sound (fun _ => 0) after := by
  apply sound.refilled reads refilled fun _ => enough
  have one := AccountInfo.providing_le_one (rules.freeBalance who after)
  omega

theorem endowedAll_sound (quiet : rules.Quiet) (positive : 0 < rules.existentialDeposit)
    (endowments : List (Account × Balance)) (sound : rules.Sound (fun _ => 0) world.store)
    (enough : ∀ endowment ∈ endowments, rules.existentialDeposit ≤ endowment.2)
    (distinct : (endowments.map (·.1)).Nodup)
    (fresh : ∀ endowment ∈ endowments, rules.freeBalance endowment.1 world.store = 0)
    (unreferenced : rules.Unreferenced world.store)
    (run : (forIn endowments PUnit.unit fun (who, free) _ => do
      let _ ← rules.incrementProviders who
      Action.change (rules.putFree who (some free))
      return ForInStep.yield PUnit.unit : Action PUnit) world = .ok PUnit.unit ended) :
    rules.Sound (fun _ => 0) ended.store ∧
      rules.totalFree ended.store = rules.totalFree world.store + sumOf endowments ∧
      Item.totalIssuance.get ended.store = Item.totalIssuance.get world.store ∧
      rules.Unreferenced ended.store ∧
      ∀ who, rules.Supported who world.store → rules.Supported who ended.store := by
  induction endowments generalizing world with
  | nil =>
      cases run
      exact ⟨sound, rfl, rfl, unreferenced, fun _ => id⟩
  | cons first rest ih =>
      obtain ⟨who, free⟩ := first
      rw [List.forIn_cons] at run
      obtain ⟨step, written, writes, later⟩ := Action.bind_eq_ok run
      obtain ⟨arrival, middle, arrives, changes⟩ := Action.bind_eq_ok writes
      obtain ⟨_, changed, puts, yields⟩ := Action.bind_eq_ok changes
      cases yields
      obtain ⟨whoNew, restDistinct⟩ := List.nodup_cons.mp distinct
      have above := enough (who, free) List.mem_cons_self
      have some : free ≠ 0 := ne_zero_of_enough positive above
      have none := fresh (who, free) List.mem_cons_self
      have stored : written.store = rules.putFree who (.some free) middle.store := by
        rw [Action.change_run] at puts
        cases puts
        rfl
      have refilled := gaining_refilled quiet none some arrives
      rw [← stored] at refilled
      have next := endowed_sound reads sound refilled above
      have restFresh : ∀ endowment ∈ rest, rules.freeBalance endowment.1 written.store = 0 := by
        intro endowment member
        have different : endowment.1 ≠ who := by
          intro same
          apply whoNew
          rw [← same]
          exact List.mem_map.mpr ⟨endowment, member, rfl⟩
        rw [freeBalance, refilled.booked.elsewhere reads different]
        exact fresh endowment (List.mem_cons_of_mem _ member)
      obtain ⟨last, total, issuance, lone, supported⟩ := ih next
        (fun endowment member => enough endowment (List.mem_cons_of_mem _ member)) restDistinct
        restFresh (refilled.unreferenced reads unreferenced) later
      refine ⟨last, ?_, issuance.trans refilled.booked.issuance, lone,
        fun other before => supported other (refilled.supports reads before)⟩
      have added := refilled.total reads
      have split : sumOf ((who, free) :: rest) = free.toNat + sumOf rest := List.sum_cons
      rw [none] at added
      change _ + 0 = _ at added
      omega

theorem endow_sound (quiet : rules.Quiet) (positive : 0 < rules.existentialDeposit)
    {endowments : List (Account × Balance)} (empty : rules.accounts.entries world.store = [])
    (run : rules.endow endowments world = .ok (.ok ()) ended) :
    rules.Sound (fun _ => 0) ended.store ∧
      rules.totalFree ended.store = sumOf endowments ∧
      Item.totalIssuance.get ended.store =
        endowments.foldl (fun sum endowment => Word.saturatingAdd sum endowment.2) 0 ∧
      rules.Unreferenced ended.store ∧
      ∀ who, rules.Supported who world.store → rules.Supported who ended.store := by
  have blank := blank_of_no_entries reads empty
  unfold endow at run
  cases fault : rules.endowmentFault? endowments with
  | some text =>
      rw [fault] at run
      cases run
  | none =>
      rw [fault] at run
      obtain ⟨enough, distinct⟩ := endowmentFault?_eq_none fault
      obtain ⟨_, issued, issues, later⟩ := Action.bind_eq_ok run
      obtain ⟨_, endowed, endows, finishes⟩ := Action.bind_eq_ok later
      cases finishes
      rw [Action.change_run] at issues
      cases issues
      generalize endowments.foldl
        (fun sum endowment => Word.saturatingAdd sum endowment.2) (0 : Balance) = issuance at endows ⊢
      have booked : ∀ who, rules.Rebooked who _ issuance world.store _ := fun who =>
        issue_rebooked issuance world.store
      have stillBlank : ∀ who,
          rules.accountInfo who (Item.totalIssuance.put issuance world.store) = .blank :=
        fun who => (booked who).record.trans (blank who)
      have issued := sound_of_blank stillBlank
      have fresh : ∀ who,
          rules.freeBalance who (Item.totalIssuance.put issuance world.store) = 0 := by
        intro who
        rw [freeBalance, stillBlank who]
        rfl
      have unreferenced : rules.Unreferenced (Item.totalIssuance.put issuance world.store) := by
        intro who
        rw [stillBlank who]
        exact AccountInfo.blank_unreferenced
      obtain ⟨last, total, kept, lone, supported⟩ := endowedAll_sound reads quiet positive
        endowments issued enough distinct (fun endowment _ => fresh endowment.1) unreferenced endows
      have before : rules.totalFree (Item.totalIssuance.put issuance world.store) = 0 := by
        rw [← totalFree_of_no_entries empty]
        exact rules.accounts.total_congr _ fun _ begins =>
          get?_put_issuance issuance world.store begins
      rw [before, Nat.zero_add] at total
      refine ⟨last, total, kept.trans (issuance_put issuance world.store), lone, ?_⟩
      intro who had
      exact supported who
        (had.congr (get?_put_issuance issuance world.store (Item.row_begins _ who)))

theorem endow_balanced (quiet : rules.Quiet) (positive : 0 < rules.existentialDeposit)
    {endowments : List (Account × Balance)} (empty : rules.accounts.entries world.store = [])
    (run : rules.endow endowments world = .ok (.ok ()) ended)
    (fits : rules.Fits (fun _ => 0) ended.store) :
    rules.Balanced (fun _ => 0) ended.store := by
  obtain ⟨sound, total, issuance, _⟩ := endow_sound reads quiet positive empty run
  have room := fits.total
  rw [total] at room
  refine ⟨sound, ?_⟩
  rw [issuance, total, toNat_issued endowments room]

end

/-! ### Runs -/

inductive Operation (Account : Type) where
  | transfer (source target : Account) (amount : Balance) (existence : Existence)
  | withdraw (who : Account) (amount : Balance) (existence : Existence)
  | create (who : Account) (amount : Balance)
  | createInExisting (who : Account) (amount : Balance)
  | forceBalance (who : Account) (free : Balance)
  | incrementConsumers (who : Account)
  | decrementConsumers (who : Account)
  | incrementSufficients (who : Account)
  | decrementSufficients (who : Account)
  | incrementProviders (who : Account)
  | decrementProviders (who : Account)

namespace Operation

def perform (rules : Rules Account Number) : Operation Account → Action Bool
  | transfer source target amount existence =>
      Except.isOk <$> (rules.transfer source target amount existence).run
  | withdraw who amount existence => Except.isOk <$> (rules.withdraw who amount existence).run
  | create who amount => (fun _ => true) <$> rules.create who amount
  | createInExisting who amount => Except.isOk <$> (rules.createInExisting who amount).run
  | forceBalance who free => Except.isOk <$> (rules.forceBalance who free).run
  | incrementConsumers who => Except.isOk <$> rules.incrementConsumers who
  | decrementConsumers who => (fun _ => true) <$> rules.decrementConsumers who
  | incrementSufficients who => (fun _ => true) <$> rules.incrementSufficients who
  | decrementSufficients who => (fun _ => true) <$> rules.decrementSufficients who
  | incrementProviders who => (fun _ => true) <$> rules.incrementProviders who
  | decrementProviders who => Except.isOk <$> rules.decrementProviders who

/-- The providers of all accounts beside their balances, after the operation. -/
def providers (elsewhere : Account → Nat) (succeeded : Bool) : Operation Account → Account → Nat
  | incrementProviders who => Function.update elsewhere who (elsewhere who + 1)
  | decrementProviders who =>
      if succeeded then Function.update elsewhere who (elsewhere who - 1) else elsewhere
  | _ => elsewhere

def Owned (elsewhere : Account → Nat) : Operation Account → Prop
  | decrementProviders who => 0 < elsewhere who
  | _ => True

end Operation

/-- The worlds that operations lead to from the first balances of a chain, with the providers
that accounts have beside their balances. -/
inductive Reached (rules : Rules Account Number) : (Account → Nat) → World → Prop
  | endowed {endowments : List (Account × Balance)} {world ended : World}
      (empty : rules.accounts.entries world.store = [])
      (run : rules.endow endowments world = .ok (.ok ()) ended)
      (fits : rules.Fits (fun _ => 0) ended.store) : Reached rules (fun _ => 0) ended
  | performed {elsewhere : Account → Nat} {world ended : World} {succeeded : Bool}
      (operation : Operation Account) (reached : Reached rules elsewhere world)
      (owned : operation.Owned elsewhere)
      (run : operation.perform rules world = .ok succeeded ended)
      (fits : rules.Fits (operation.providers elsewhere succeeded) ended.store) :
      Reached rules (operation.providers elsewhere succeeded) ended

theorem Balanced.performed (reads : rules.account.Faithful fun _ => True) (quiet : rules.Quiet)
    (positive : 0 < rules.existentialDeposit) {operation : Operation Account} {succeeded : Bool}
    (balanced : rules.Balanced elsewhere world.store) (owned : operation.Owned elsewhere)
    (run : operation.perform rules world = .ok succeeded ended)
    (fits : rules.Fits (operation.providers elsewhere succeeded) ended.store) :
    rules.Balanced (operation.providers elsewhere succeeded) ended.store := by
  cases operation with
  | transfer source target amount existence =>
      obtain ⟨_, ran, _⟩ := Action.map_eq_ok run
      exact transfer_balanced reads quiet positive balanced ran fits
  | withdraw who amount existence =>
      obtain ⟨_, ran, _⟩ := Action.map_eq_ok run
      exact withdraw_balanced reads quiet balanced ran fits
  | create who amount =>
      obtain ⟨_, ran, _⟩ := Action.map_eq_ok run
      exact create_balanced reads quiet balanced ran fits
  | createInExisting who amount =>
      obtain ⟨_, ran, _⟩ := Action.map_eq_ok run
      exact createInExisting_balanced reads quiet balanced ran fits
  | forceBalance who free =>
      obtain ⟨_, ran, _⟩ := Action.map_eq_ok run
      exact forceBalance_balanced reads quiet balanced ran fits
  | incrementConsumers who =>
      obtain ⟨_, ran, _⟩ := Action.map_eq_ok run
      exact incrementConsumers_balanced reads balanced ran
  | decrementConsumers who =>
      obtain ⟨_, ran, _⟩ := Action.map_eq_ok run
      exact decrementConsumers_balanced reads balanced ran
  | incrementSufficients who =>
      obtain ⟨_, ran, _⟩ := Action.map_eq_ok run
      exact incrementSufficients_balanced reads quiet balanced ran
  | decrementSufficients who =>
      obtain ⟨_, ran, _⟩ := Action.map_eq_ok run
      exact decrementSufficients_balanced reads quiet balanced ran
  | incrementProviders who =>
      obtain ⟨_, ran, _⟩ := Action.map_eq_ok run
      exact incrementProviders_balanced reads quiet balanced ran fits
  | decrementProviders who =>
      obtain ⟨outcome, ran, rfl⟩ := Action.map_eq_ok run
      exact decrementProviders_balanced reads quiet balanced owned ran

theorem Reached.balanced (reads : rules.account.Faithful fun _ => True) (quiet : rules.Quiet)
    (positive : 0 < rules.existentialDeposit) (reached : rules.Reached elsewhere world) :
    rules.Balanced elsewhere world.store := by
  induction reached with
  | endowed empty run fits => exact endow_balanced reads quiet positive empty run fits
  | performed operation reached owned run fits ih =>
      exact ih.performed reads quiet positive owned run fits

/-- After any operations the issuance is the sum of the balances in all records; no balance is
below the existential deposit or without a provider, and none is without a record. -/
theorem issuance_of_reached (rules : Rules Account Number) (elsewhere : Account → Nat)
    (world : World) (reads : rules.account.Faithful fun _ => True) (quiet : rules.Quiet)
    (positive : 0 < rules.existentialDeposit) (reached : rules.Reached elsewhere world) :
    (Item.totalIssuance.get world.store).toNat =
        ((rules.accounts.entries world.store).map fun row => row.2.free.toNat).sum ∧
      (∀ who, rules.freeBalance who world.store ≠ 0 →
        rules.existentialDeposit ≤ rules.freeBalance who world.store ∧
          (rules.accountInfo who world.store).providers ≠ 0) ∧
      ∀ who, (rules.accountSlot who).stored? world.store = none →
        rules.freeBalance who world.store = 0 := by
  have balanced := reached.balanced reads quiet positive
  refine ⟨balanced.issuance, ?_, ?_⟩
  · intro who some
    refine ⟨balanced.sound.floor who some, ?_⟩
    intro none
    have counts := balanced.sound.provided who
    rw [none, AccountInfo.providing, if_neg some] at counts
    change 0 = _ at counts
    omega
  · intro who absent
    rw [freeBalance, accountInfo, Slot.get, absent]
    rfl

omit [DecidableEq Account] in
private theorem fits_of_total (small : rules.totalFree before < 18446744073709551616) :
    rules.Fits (fun _ => 0) before where
  total := small
  providers who := by
    have one := AccountInfo.providing_le_one (rules.freeBalance who before)
    omega

/-- Half of the only balance of a network is sent to an account that comes into being with it. -/
theorem issuance_of_reached_transfer :
    ∃ ended, Testnet.rules.Reached (fun _ => 0) ended ∧
      (Item.totalIssuance.get ended.store).toNat =
        ((Testnet.rules.accounts.entries ended.store).map fun row => row.2.free.toNat).sum := by
  let world : World := ⟨.empty, []⟩
  let endow := Testnet.rules.endow [(.filled 32 1, 1000)]
  let transfer : Operation AccountId := .transfer (.filled 32 1) (.filled 32 2) 500 .keepAlive
  let send := transfer.perform Testnet.rules
  have endows : endow world = .ok (.ok ()) (Action.ending endow world) :=
    Action.run_of_answer_ok (by decide +kernel)
  have sends : send (Action.ending endow world) =
      .ok true (Action.ending send (Action.ending endow world)) :=
    Action.run_of_answer_ok (by decide +kernel)
  have begun : Testnet.rules.Reached (fun _ => 0) (Action.ending endow world) :=
    Reached.endowed (by decide +kernel) endows (fits_of_total (by decide +kernel))
  have sent : Testnet.rules.Reached (fun _ => 0) (Action.ending send (Action.ending endow world)) :=
    Reached.performed transfer begun trivial sends (fits_of_total (by decide +kernel))
  have reads : Testnet.rules.account.Faithful fun _ => True := Codec.octets_faithful 32
  exact ⟨_, sent, (issuance_of_reached Testnet.rules _ _ reads Testnet.quiet (by decide) sent).1⟩

end StateTransition.Rules
