import StateTransition.Proofs.Account.Books
import StateTransition.Proofs.Store.Rows
import StateTransition.Proofs.Store.Under

set_option autoImplicit false

/-! The total issuance is the sum of all balances. Issuance and balances are changed in different
places, so the sum is followed through every operation, together with what makes the operations
exact: no balance is below the existential deposit, and every balance is one provider of its
account beside those from elsewhere. -/

namespace StateTransition.Rules

variable {Account Number : Type} [Word Number]
variable {rules : Rules Account Number} {who : Account}

/-! ### The sum of all balances -/

abbrev accounts (rules : Rules Account Number) :
    Table Account (AccountInfo Number) (AccountInfo Number) :=
  Item.account rules.account

def totalFree (rules : Rules Account Number) (store : Store) : Nat :=
  rules.accounts.total (fun info => info.free.toNat) store

theorem accounts_hash (rules : Rules Account Number) : rules.accounts.hash = .keeping .blake128 :=
  rfl

private theorem countedAt_free (store : Store) :
    rules.accounts.countedAt (fun info => info.free.toNat) who store =
      (rules.freeBalance who store).toNat := by
  unfold Table.countedAt freeBalance accountInfo Slot.get
  change _ = (((rules.accountSlot who).stored? store).getD .blank).free.toNat
  change ((rules.accountSlot who).stored? store).elim 0 _ = _
  cases (rules.accountSlot who).stored? store <;> rfl

theorem totalFree_same {before after : Store} (same : SameBooks before after) :
    rules.totalFree after = rules.totalFree before := by
  apply rules.accounts.total_congr
  intro key begins
  have listed : Item.Name.account ∈ [Item.Name.account, .totalIssuance] := by decide
  exact same key (Item.under_of_mem listed begins)

/-- Nothing depends on any account, and nothing lets it exist for purposes of its own. -/
def Unreferenced (rules : Rules Account Number) (store : Store) : Prop :=
  ∀ who, (rules.accountInfo who store).Unreferenced

variable [DecidableEq Account]

omit [DecidableEq Account] in
theorem Unreferenced.same {before after : Store} (unreferenced : rules.Unreferenced before)
    (same : SameBooks before after) : rules.Unreferenced after := by
  intro who
  rw [same.accountInfo rules who]
  exact unreferenced who

variable (reads : rules.account.Faithful fun _ => True)

include reads

section

omit [DecidableEq Account]

theorem row_injective {left right : Account}
    (same : (rules.accountSlot left).key = (rules.accountSlot right).key) : left = right :=
  Table.row_injective (rfl : (rules.accounts).hash = .keeping .blake128) reads.readsBack same

theorem Rebooked.elsewhere {before after : Store} {info : AccountInfo Number} {issuance : Balance}
    (booked : rules.Rebooked who info issuance before after) {other : Account}
    (different : other ≠ who) : rules.accountInfo other after = rules.accountInfo other before := by
  apply Slot.get_congr
  apply booked.others _ (Item.row_begins _ other)
  intro same
  exact different (row_injective reads same)

theorem Rebooked.supported {before after : Store} {info : AccountInfo Number} {issuance : Balance}
    (booked : rules.Rebooked who info issuance before after) {other : Account}
    (different : other ≠ who) (supported : rules.Supported other before) :
    rules.Supported other after := by
  apply supported.congr
  apply booked.others _ (Item.row_begins _ other)
  intro same
  exact different (row_injective reads same)

end

theorem Refilled.supports {before after : Store} {kept issuance : Balance}
    (refilled : rules.Refilled who kept issuance before after) {other : Account}
    (supported : rules.Supported other before) : rules.Supported other after := by
  by_cases it : other = who
  · subst it
    exact refilled.supported supported
  · exact refilled.booked.supported reads it supported

theorem Rebooked.unreferenced {before after : Store} {info : AccountInfo Number} {issuance : Balance}
    (booked : rules.Rebooked who info issuance before after)
    (unreferenced : rules.Unreferenced before) (written : info.Unreferenced) :
    rules.Unreferenced after := by
  intro other
  by_cases it : other = who
  · subst it
    rw [booked.record]
    exact written
  · rw [booked.elsewhere reads it]
    exact unreferenced other

theorem Refilled.unreferenced {before after : Store} {kept issuance : Balance}
    (refilled : rules.Refilled who kept issuance before after)
    (unreferenced : rules.Unreferenced before) : rules.Unreferenced after :=
  refilled.booked.unreferenced reads unreferenced
    (AccountInfo.withFree_unreferenced (unreferenced who) kept)

omit [DecidableEq Account] in
theorem Rebooked.total {before after : Store} {info : AccountInfo Number} {issuance : Balance}
    (booked : rules.Rebooked who info issuance before after) :
    rules.totalFree after + (rules.freeBalance who before).toNat =
      rules.totalFree before + info.free.toNat := by
  have readsBack := reads.decodeFront?_encode who trivial
  have followed := rules.accounts.total_change rules.accounts_hash readsBack
    (fun info => info.free.toNat) booked.others
  rw [countedAt_free, countedAt_free, freeBalance, freeBalance, booked.record]
    at followed
  exact followed

omit [DecidableEq Account] in
theorem free_le_total (who : Account) (store : Store) :
    (rules.freeBalance who store).toNat ≤ rules.totalFree store := by
  have readsBack := reads.decodeFront?_encode who trivial
  rw [← countedAt_free]
  exact rules.accounts.countedAt_le_total rules.accounts_hash readsBack _ store

/-! ### Sound books -/

omit reads

/-- No balance is below the existential deposit, and the providers of an account are its balance
and those from elsewhere. -/
structure Sound (rules : Rules Account Number) (elsewhere : Account → Nat) (store : Store) :
    Prop where
  floor : ∀ who, rules.freeBalance who store ≠ 0 →
    rules.existentialDeposit ≤ rules.freeBalance who store
  provided : ∀ who, (rules.accountInfo who store).providers.toNat =
    elsewhere who + AccountInfo.providing (rules.freeBalance who store)

/-- Sound books in which the issuance is the sum of all balances. -/
structure Balanced (rules : Rules Account Number) (elsewhere : Account → Nat) (store : Store) :
    Prop where
  sound : rules.Sound elsewhere store
  issuance : (Item.totalIssuance.get store).toNat = rules.totalFree store

/-- The sum of all balances is a balance, and no account has more providers than can be counted. -/
structure Fits (rules : Rules Account Number) (elsewhere : Account → Nat) (store : Store) :
    Prop where
  total : rules.totalFree store < 18446744073709551616
  providers : ∀ who,
    elsewhere who + AccountInfo.providing (rules.freeBalance who store) < 4294967296

variable {elsewhere others : Account → Nat} {before after : Store} {info : AccountInfo Number}
variable {issuance : Balance}

omit [DecidableEq Account] in
theorem Sound.isProvided (sound : rules.Sound elsewhere before) (who : Account)
    (some : rules.freeBalance who before ≠ 0) :
    (rules.accountInfo who before).isProvided = true := by
  have counts := sound.provided who
  rw [AccountInfo.providing, if_neg some] at counts
  apply AccountInfo.isProvided_of_providers
  intro none
  rw [none] at counts
  change 0 = _ at counts
  omega

omit [DecidableEq Account] in
theorem Sound.same (sound : rules.Sound elsewhere before) (same : SameBooks before after) :
    rules.Sound elsewhere after := by
  constructor
  · intro who
    rw [same.freeBalance rules who]
    exact sound.floor who
  · intro who
    rw [same.freeBalance rules who, same.accountInfo rules who]
    exact sound.provided who

include reads

theorem Sound.rebooked (sound : rules.Sound elsewhere before)
    (booked : rules.Rebooked who info issuance before after)
    (floor : info.free ≠ 0 → rules.existentialDeposit ≤ info.free)
    (provided : info.providers.toNat = others who + AccountInfo.providing info.free)
    (same : ∀ other, other ≠ who → others other = elsewhere other) : rules.Sound others after := by
  constructor
  · intro other
    by_cases it : other = who
    · subst other
      rw [freeBalance, booked.record]
      exact floor
    · rw [freeBalance, booked.elsewhere reads it]
      exact sound.floor other
  · intro other
    by_cases it : other = who
    · subst other
      rw [freeBalance, booked.record]
      exact provided
    · rw [freeBalance, booked.elsewhere reads it, same other it]
      exact sound.provided other

theorem Balanced.rebooked (balanced : rules.Balanced elsewhere before)
    (booked : rules.Rebooked who info issuance before after)
    (floor : info.free ≠ 0 → rules.existentialDeposit ≤ info.free)
    (provided : info.providers.toNat = others who + AccountInfo.providing info.free)
    (same : ∀ other, other ≠ who → others other = elsewhere other)
    (follows : issuance.toNat + (rules.freeBalance who before).toNat =
      (Item.totalIssuance.get before).toNat + info.free.toNat) : rules.Balanced others after where
  sound := balanced.sound.rebooked reads booked floor provided same
  issuance := by
    have total := booked.total reads
    have equal := balanced.issuance
    rw [booked.issuance]
    omega

theorem Balanced.same (balanced : rules.Balanced elsewhere before)
    (same : SameBooks before after) (who : Account) : rules.Balanced elsewhere after := by
  have booked : rules.Rebooked who _ _ before after := rebooked_of_same same
  exact balanced.rebooked reads booked (balanced.sound.floor who) (balanced.sound.provided who)
    (fun _ _ => rfl) rfl

/-! ### Changes of one balance -/

omit [DecidableEq Account] in
theorem Refilled.total {kept : Balance}
    (refilled : rules.Refilled who kept issuance before after) :
    rules.totalFree after + (rules.freeBalance who before).toNat =
      rules.totalFree before + kept.toNat := by
  have total := refilled.booked.total reads
  rw [AccountInfo.withFree_free] at total
  exact total

theorem Sound.refilled {kept : Balance} (sound : rules.Sound elsewhere before)
    (refilled : rules.Refilled who kept issuance before after)
    (floor : kept ≠ 0 → rules.existentialDeposit ≤ kept)
    (fits : elsewhere who + AccountInfo.providing (rules.freeBalance who after) < 4294967296) :
    rules.Sound elsewhere after := by
  have held : ((rules.accountInfo who before).withFree kept).free = kept :=
    AccountInfo.withFree_free _ _
  apply sound.rebooked reads refilled.booked
  · rw [held]
    exact floor
  · rw [freeBalance, refilled.booked.record, held] at fits
    rw [held]
    exact AccountInfo.withFree_providers (sound.provided who) refilled.loses fits
  · intro other _
    rfl

theorem Balanced.refilled {kept : Balance} (balanced : rules.Balanced elsewhere before)
    (refilled : rules.Refilled who kept issuance before after)
    (floor : kept ≠ 0 → rules.existentialDeposit ≤ kept)
    (fits : rules.Fits elsewhere after)
    (follows : issuance.toNat + (rules.freeBalance who before).toNat =
      rules.totalFree before + kept.toNat) : rules.Balanced elsewhere after where
  sound := balanced.sound.refilled reads refilled floor (fits.providers who)
  issuance := by
    have total := refilled.total reads
    rw [refilled.booked.issuance]
    omega

theorem Balanced.increased {amount sum : Balance} (balanced : rules.Balanced elsewhere before)
    (adds : sum.toNat = (rules.freeBalance who before).toNat + amount.toNat)
    (enough : rules.freeBalance who before = 0 → rules.existentialDeposit ≤ amount)
    (refilled : rules.Refilled who (rules.withoutDust sum).1
      (Word.saturatingAdd (Word.saturatingSub (Item.totalIssuance.get before)
        ((rules.withoutDust sum).2.getD 0)) amount) before after)
    (fits : rules.Fits elsewhere after) : rules.Balanced elsewhere after := by
  have above : rules.existentialDeposit ≤ sum := by
    rw [UInt64.le_iff_toNat_le, adds]
    by_cases none : rules.freeBalance who before = 0
    · have least := UInt64.le_iff_toNat_le.mp (enough none)
      omega
    · have least := UInt64.le_iff_toNat_le.mp (balanced.sound.floor who none)
      omega
  rw [withoutDust_whole fun _ => above] at refilled
  dsimp only at refilled
  have total := refilled.total reads
  have room : (Item.totalIssuance.get before).toNat + amount.toNat < 18446744073709551616 := by
    have equal := balanced.issuance
    have bound := fits.total
    omega
  apply balanced.refilled reads refilled (fun _ => above) fits
  rw [Option.getD_none, Balance.saturatingSub_zero, Balance.toNat_saturatingAdd room,
    balanced.issuance]
  omega

/-! ### Operations on balances -/

variable {world ended : World} {amount : Balance} {existence : Existence}

theorem create_balanced (quiet : rules.Quiet) {created : Balance}
    (balanced : rules.Balanced elsewhere world.store)
    (run : rules.create who amount world = .ok created ended)
    (fits : rules.Fits elsewhere ended.store) : rules.Balanced elsewhere ended.store := by
  rcases create_cases quiet (balanced.sound.isProvided who) run with
    ⟨sum, adds, enough, refilled⟩ | untouched
  · exact balanced.increased reads adds enough refilled fits
  · exact balanced.same reads untouched who

theorem createInExisting_balanced (quiet : rules.Quiet) {outcome : Except DispatchError Balance}
    (balanced : rules.Balanced elsewhere world.store)
    (run : (rules.createInExisting who amount).run world = .ok outcome ended)
    (fits : rules.Fits elsewhere ended.store) : rules.Balanced elsewhere ended.store := by
  rcases createInExisting_cases quiet (balanced.sound.isProvided who) run with
    ⟨sum, adds, some, refilled⟩ | ⟨untouched, _⟩
  · exact balanced.increased reads adds (fun none => absurd none some) refilled fits
  · exact balanced.same reads untouched who

theorem withdraw_balanced (quiet : rules.Quiet) {outcome : Except DispatchError Balance}
    (balanced : rules.Balanced elsewhere world.store)
    (run : (rules.withdraw who amount existence).run world = .ok outcome ended)
    (fits : rules.Fits elsewhere ended.store) : rules.Balanced elsewhere ended.store := by
  rcases withdraw_cases quiet (balanced.sound.isProvided who) run with
    ⟨rest, takes, _, _, _, refilled⟩ | untouched
  · obtain ⟨split, floor⟩ := withoutDust_split rules rest
    apply balanced.refilled reads refilled floor fits
    have covered := free_le_total reads who world.store
    rw [Balance.toNat_saturatingSub, Balance.toNat_saturatingSub, balanced.issuance]
    omega
  · exact balanced.same reads untouched.2 who

theorem forceBalance_balanced (quiet : rules.Quiet) {free : Balance}
    {outcome : Except DispatchError Unit} (balanced : rules.Balanced elsewhere world.store)
    (run : (rules.forceBalance who free).run world = .ok outcome ended)
    (fits : rules.Fits elsewhere ended.store) : rules.Balanced elsewhere ended.store := by
  rcases forceBalance_cases quiet (balanced.sound.isProvided who) run with
    ⟨wanted, enough, refilled⟩ | untouched
  · apply balanced.refilled reads refilled enough fits
    have equal := balanced.issuance
    have covered := free_le_total reads who world.store
    have total := refilled.total reads
    have bound := fits.total
    rw [toNat_issuanceAfter (by omega) (by omega), equal]
  · exact balanced.same reads untouched who

/-- What a transfer makes of the books: nothing, or first its source is settled and then its
target. It succeeds only with both, or if there is nothing to send. -/
theorem transfer_cases (quiet : rules.Quiet) (positive : 0 < rules.existentialDeposit)
    {source target : Account} {outcome : Except DispatchError Unit}
    (provided : ∀ who, rules.freeBalance who world.store ≠ 0 →
      (rules.accountInfo who world.store).isProvided = true)
    (run : (rules.transfer source target amount existence).run world = .ok outcome ended) :
    SameBooks world.store ended.store ∧ (outcome = .ok () → amount = 0 ∨ source = target) ∨
      ∃ (sourceFree targetFree : Balance) (halfway : Store), source ≠ target ∧ amount ≠ 0 ∧
        sourceFree.toNat + amount.toNat = (rules.freeBalance source world.store).toNat ∧
        targetFree.toNat = (rules.freeBalance target world.store).toNat + amount.toNat ∧
        rules.existentialDeposit ≤ targetFree ∧
        (existence = .keepAlive → rules.existentialDeposit ≤ sourceFree) ∧
        rules.Refilled source (rules.withoutDust sourceFree).1
          (Word.saturatingSub (Item.totalIssuance.get world.store)
            ((rules.withoutDust sourceFree).2.getD 0)) world.store halfway ∧
        rules.Refilled target targetFree (Item.totalIssuance.get halfway) halfway ended.store := by
  by_cases idle : amount = 0 ∨ source = target
  · unfold transfer at run
    rw [if_pos idle] at run
    cases run
    exact Or.inl ⟨SameBooks.refl _, fun _ => idle⟩
  obtain ⟨some, different⟩ := not_or.mp idle
  rcases transfer_decided some different run with
    ⟨_, rfl, cause, fails⟩ | ⟨asked, sourceFree, targetFree, takes, adds, moves⟩
  · refine Or.inl ⟨SameBooks.refl _, fun succeeds => ?_⟩
    rw [fails] at succeeds
    cases succeeds
  have enough : rules.existentialDeposit ≤ targetFree := by
    rw [UInt64.le_iff_toNat_le, adds]
    exact asked.enough
  have alive : existence = .keepAlive → rules.existentialDeposit ≤ sourceFree := by
    rintro rfl
    rcases asked.lives with above | ⟨impossible, _⟩
    · rw [UInt64.le_iff_toNat_le]
      omega
    · cases impossible
  rcases Attempt.bind_cases moves with ⟨_, fails, refused⟩ | ⟨_, halfway, leaves, arrives⟩
  · rcases setFree_cases quiet (provided source) refused with ⟨impossible, _⟩ | untouched
    · cases impossible
    · refine Or.inl ⟨untouched.2.1, fun succeeds => ?_⟩
      rw [fails] at succeeds
      cases succeeds
  rcases setFree_cases quiet (provided source) leaves with ⟨_, taken⟩ | ⟨⟨_, impossible⟩, _⟩
  · have apart : target ≠ source := fun same => different same.symm
    have there : rules.freeBalance target halfway.store ≠ 0 →
        (rules.accountInfo target halfway.store).isProvided = true := by
      rw [freeBalance, taken.booked.elsewhere reads apart]
      exact provided target
    have whole := withoutDust_whole fun _ => enough
    rcases Attempt.bind_cases arrives with ⟨_, _, refused⟩ | ⟨_, arrived, enters, logs⟩
    · rcases setFree_cases quiet there refused with ⟨impossible, _⟩ | ⟨_, _, none⟩
      · cases impossible
      · rw [whole] at none
        exact absurd none (ne_zero_of_enough positive enough)
    rcases setFree_cases quiet there enters with ⟨_, entered⟩ | ⟨⟨_, impossible⟩, _⟩
    · obtain ⟨_, _, deposits⟩ := Attempt.lift_cases logs
      have given := entered.aside (deposit_same deposits)
      rw [whole, Option.getD_none, Balance.saturatingSub_zero] at given
      exact Or.inr ⟨sourceFree, targetFree, halfway.store, different, some, takes, adds, enough,
        alive, taken, given⟩
    · cases impossible
  · cases impossible

/-- Between the two halves of a transfer its amount belongs to nobody. -/
theorem transfer_balanced (quiet : rules.Quiet) (positive : 0 < rules.existentialDeposit)
    {source target : Account} {outcome : Except DispatchError Unit}
    (balanced : rules.Balanced elsewhere world.store)
    (run : (rules.transfer source target amount existence).run world = .ok outcome ended)
    (fits : rules.Fits elsewhere ended.store) : rules.Balanced elsewhere ended.store := by
  rcases transfer_cases reads quiet positive balanced.sound.isProvided run with
    ⟨untouched, _⟩ |
    ⟨sourceFree, targetFree, halfway, different, _, takes, adds, enough, _, taken, given⟩
  · exact balanced.same reads untouched source
  have apart : target ≠ source := fun same => different same.symm
  have there : rules.freeBalance target halfway = rules.freeBalance target world.store :=
    congrArg AccountInfo.free (taken.booked.elsewhere reads apart)
  have sourceSame : rules.freeBalance source ended.store = rules.freeBalance source halfway :=
    congrArg AccountInfo.free (given.booked.elsewhere reads different)
  have sourceFits := fits.providers source
  rw [sourceSame] at sourceFits
  obtain ⟨split, floor⟩ := withoutDust_split rules sourceFree
  have midway := balanced.sound.refilled reads taken floor sourceFits
  have sourceTotal := taken.total reads
  have targetTotal := given.total reads
  have covered := free_le_total reads source world.store
  rw [there] at targetTotal
  constructor
  · exact midway.refilled reads given (fun _ => enough) (fits.providers target)
  · have equal := balanced.issuance
    rw [given.booked.issuance, taken.booked.issuance, Balance.toNat_saturatingSub]
    omega

end StateTransition.Rules
