import StateTransition.Proofs.Account.Frame
import StateTransition.Proofs.Account.Reference
import StateTransition.Proofs.Codec
import StateTransition.Proofs.Store.Name

set_option autoImplicit false

/-! The books: the records of all accounts and the total issuance. An operation on an account
rewrites its record and may change the issuance; the records of all others stay. What each of them
makes of the books is stated here once, and everything on balances is read off from it. -/

namespace StateTransition

variable {Account Number ρ : Type} [Word Number]

namespace Balance

theorem toNat_saturatingSub (left right : Balance) :
    (Word.saturatingSub left right).toNat = left.toNat - right.toNat :=
  @Word.toNat_saturatingSub Balance _ left right

theorem toNat_saturatingAdd {left right : Balance}
    (fits : left.toNat + right.toNat < 18446744073709551616) :
    (Word.saturatingAdd left right).toNat = left.toNat + right.toNat :=
  @Word.toNat_saturatingAdd Balance _ left right fits

theorem saturatingSub_zero (free : Balance) : Word.saturatingSub free 0 = free :=
  Word.clamp_toNat free

end Balance

def SameBooks (before after : Store) : Prop :=
  ∀ key, Item.Under [.account, .totalIssuance] key → after.get? key = before.get? key

namespace SameBooks

variable {first second third : Store}

theorem refl (store : Store) : SameBooks store store := fun _ _ => rfl

theorem trans (earlier : SameBooks first second) (later : SameBooks second third) :
    SameBooks first third :=
  fun key under => (later key under).trans (earlier key under)

theorem of_spares {names : List Item.Name}
    (apart : ∀ name ∈ [Item.Name.account, .totalIssuance], name ∉ names)
    (spares : ∀ key, ¬Item.Under names key → second.get? key = first.get? key) :
    SameBooks first second :=
  fun key under => spares key (under.apart apart)

theorem accountInfo (same : SameBooks first second) (rules : Rules Account Number)
    (who : Account) : rules.accountInfo who second = rules.accountInfo who first :=
  Slot.get_congr _ (same _ (Item.under_row .account (by decide) rfl who))

theorem freeBalance (same : SameBooks first second) (rules : Rules Account Number)
    (who : Account) : rules.freeBalance who second = rules.freeBalance who first :=
  congrArg AccountInfo.free (same.accountInfo rules who)

theorem issuance (same : SameBooks first second) :
    Item.totalIssuance.get second = Item.totalIssuance.get first :=
  Slot.get_congr _ (same _ (Item.under_head .totalIssuance (by decide)))

end SameBooks

variable [DecidableEq Account]

namespace Rules

variable {rules : Rules Account Number} {who : Account}

/-- The record of one account is `info`, the issuance is `issuance`, and the records of all other
accounts are as before. -/
structure Rebooked (rules : Rules Account Number) (who : Account) (info : AccountInfo Number)
    (issuance : Balance) (before after : Store) : Prop where
  record : rules.accountInfo who after = info
  issuance : Item.totalIssuance.get after = issuance
  others : ∀ key, key.startsWith Item.Name.account.head = true →
    key ≠ (rules.accountSlot who).key → after.get? key = before.get? key

/-- What follows from the creation and the death of an account leaves the books alone. -/
structure Quiet (rules : Rules Account Number) : Prop where
  created : ∀ who world after, rules.accountCreated who world = .ok () after →
    SameBooks world.store after.store
  killed : ∀ who world after, rules.accountKilled who world = .ok () after →
    SameBooks world.store after.store

section

omit [DecidableEq Account]

theorem Rebooked.trans {first second third : Store} {info next : AccountInfo Number}
    {issuance nextIssuance : Balance} (earlier : rules.Rebooked who info issuance first second)
    (later : rules.Rebooked who next nextIssuance second third) :
    rules.Rebooked who next nextIssuance first third where
  record := later.record
  issuance := later.issuance
  others key begins different :=
    (later.others key begins different).trans (earlier.others key begins different)

theorem rebooked_of_same {before after : Store} (same : SameBooks before after) :
    rules.Rebooked who (rules.accountInfo who before) (Item.totalIssuance.get before) before
      after where
  record := same.accountInfo rules who
  issuance := same.issuance
  others key begins _ := same key (Item.under_of_mem (by decide) begins)

theorem Rebooked.aside {first second third : Store} {info : AccountInfo Number}
    {issuance : Balance} (booked : rules.Rebooked who info issuance first second)
    (same : SameBooks second third) : rules.Rebooked who info issuance first third where
  record := (same.accountInfo rules who).trans booked.record
  issuance := same.issuance.trans booked.issuance
  others key begins different :=
    (same key (Item.under_of_mem (by decide) begins)).trans
      (booked.others key begins different)

end

/-! ### Supported records -/

/-- There is no record of an account that nothing provides for. -/
def Supported (rules : Rules Account Number) (who : Account) (store : Store) : Prop :=
  (rules.accountSlot who).exists? store = true → (rules.accountInfo who store).isProvided = true

section

omit [DecidableEq Account]

theorem Supported.congr {before after : Store} (supported : rules.Supported who before)
    (same : after.get? (rules.accountSlot who).key = before.get? (rules.accountSlot who).key) :
    rules.Supported who after := by
  intro present
  rw [Slot.exists?_congr _ same] at present
  rw [accountInfo, Slot.get_congr _ same]
  exact supported present

theorem Supported.same {before after : Store} (supported : rules.Supported who before)
    (same : SameBooks before after) : rules.Supported who after :=
  supported.congr (same _ (Item.under_row .account (by decide) rfl who))

private theorem supported_erase (store : Store) :
    rules.Supported who ((rules.accountSlot who).erase store) := by
  intro present
  rw [Slot.exists?_erase] at present
  cases present

end

/-! ### Single entries -/

private theorem issuance_not_account : ¬Item.Under [.account] Item.totalIssuance.key :=
  Item.not_under_head .totalIssuance (by decide)

section

omit [DecidableEq Account]

private theorem issuance_ne_row (who : Account) :
    Item.totalIssuance.key ≠ (rules.accountSlot who).key := by
  intro same
  apply issuance_not_account
  rw [same]
  exact Item.under_row .account (by decide) rfl who

private theorem rebooked_of_local {step : Store → Store}
    (isLocal : Store.Local (· = (rules.accountSlot who).key) step) (store : Store) :
    rules.Rebooked who (rules.accountInfo who (step store)) (Item.totalIssuance.get store) store
      (step store) where
  record := rfl
  issuance := Slot.get_congr _ (isLocal.spares store _ (issuance_ne_row who))
  others key _ different := isLocal.spares store key different

theorem put_rebooked (info : AccountInfo Number) (store : Store) :
    rules.Rebooked who info (Item.totalIssuance.get store) store
      ((rules.accountSlot who).put info store) := by
  have isLocal : Store.Local (· = (rules.accountSlot who).key)
      ((rules.accountSlot who).put info) := by
    apply Slot.put_local
    rfl
  have readsBack := AccountInfo.codec_faithful.decodeFront?_encode info trivial
  have written : rules.accountInfo who ((rules.accountSlot who).put info store) = info := by
    rw [accountInfo, Slot.get, Slot.stored?_put _ readsBack]
    rfl
  have booked := rebooked_of_local isLocal store
  rwa [written] at booked

theorem erase_rebooked (store : Store) :
    rules.Rebooked who .blank (Item.totalIssuance.get store) store
      ((rules.accountSlot who).erase store) := by
  have isLocal : Store.Local (· = (rules.accountSlot who).key) (rules.accountSlot who).erase := by
    apply Slot.erase_local
    rfl
  have erased : rules.accountInfo who ((rules.accountSlot who).erase store) = .blank := by
    rw [accountInfo, Slot.get, Slot.stored?_erase]
    rfl
  have booked := rebooked_of_local isLocal store
  rwa [erased] at booked

end

theorem issuance_put (issuance : Balance) (store : Store) :
    Item.totalIssuance.get (Item.totalIssuance.put issuance store) = issuance := by
  have readsBack := Codec.word_faithful.decodeFront?_encode issuance trivial
  rw [Slot.get]
  exact congrArg (Option.getD · 0) (Slot.stored?_put _ readsBack store)

theorem get?_put_issuance (issuance : Balance) (store : Store) {key : Bytes}
    (begins : key.startsWith Item.Name.account.head = true) :
    (Item.totalIssuance.put issuance store).get? key = store.get? key := by
  have different : key ≠ Item.totalIssuance.key := by
    rintro rfl
    exact issuance_not_account (Item.under_of_mem List.mem_cons_self begins)
  exact (Store.get?_put _ _ _ _).trans (if_neg different)

section

omit [DecidableEq Account]

theorem issue_rebooked (issuance : Balance) (store : Store) :
    rules.Rebooked who (rules.accountInfo who store) issuance store
      (Item.totalIssuance.put issuance store) where
  record := Slot.get_congr _ (get?_put_issuance issuance store (Item.row_begins _ who))
  issuance := issuance_put issuance store
  others _ begins _ := get?_put_issuance issuance store begins

private theorem changeIssuance_rebooked {change : Balance → Balance} {world after : World}
    (run : changeIssuance change world = .ok () after) :
    rules.Rebooked who (rules.accountInfo who world.store)
      (change (Item.totalIssuance.get world.store)) world.store after.store := by
  cases run
  exact issue_rebooked _ _

theorem Rebooked.issued {info : AccountInfo Number} {issuance : Balance}
    {change : Balance → Balance} {before : Store} {world after : World}
    (booked : rules.Rebooked who info issuance before world.store)
    (run : changeIssuance change world = .ok () after) :
    rules.Rebooked who info (change issuance) before after.store := by
  have changed : rules.Rebooked who _ _ world.store after.store := changeIssuance_rebooked run
  rw [booked.record, booked.issuance] at changed
  exact booked.trans changed

end

theorem deposit_same {event : Event Account} {world after : World}
    (run : rules.deposit event world = .ok () after) : SameBooks world.store after.store := by
  have log : HoldsLog (Item.Under [.events, .eventCount]) :=
    ⟨Item.under_head .events (by decide), Item.under_head .eventCount (by decide)⟩
  cases run
  exact SameBooks.of_spares (by decide) ((recordEvent_local log [] event).spares world.store)

/-! ### References -/

section

variable {world after : World}

theorem turned_same (quiet : rules.Quiet) {turn : Option Turn}
    (run : rules.turned who turn world = .ok () after) : SameBooks world.store after.store := by
  rcases turn with _ | _ | _
  · cases run
    exact SameBooks.refl _
  · obtain ⟨_, hooked, hooks, deposits⟩ := Action.bind_eq_ok run
    exact (quiet.created who world hooked hooks).trans (deposit_same deposits)
  · obtain ⟨_, hooked, hooks, deposits⟩ := Action.bind_eq_ok run
    exact (quiet.killed who world hooked hooks).trans (deposit_same deposits)

theorem incrementProviders_rebooked (quiet : rules.Quiet) {arrival : Arrival}
    (run : rules.incrementProviders who world = .ok arrival after) :
    rules.Rebooked who (rules.accountInfo who world.store).withProvider.2
      (Item.totalIssuance.get world.store) world.store after.store :=
  (put_rebooked _ _).aside (turned_same quiet (incrementProviders_stages run).2)

theorem incrementSufficients_rebooked (quiet : rules.Quiet) {arrival : Arrival}
    (run : rules.incrementSufficients who world = .ok arrival after) :
    rules.Rebooked who (rules.accountInfo who world.store).withSufficient.2
      (Item.totalIssuance.get world.store) world.store after.store :=
  (put_rebooked _ _).aside (turned_same quiet (incrementSufficients_stages run).2)

omit [DecidableEq Account] in
theorem decrementConsumers_rebooked
    (run : rules.decrementConsumers who world = .ok () after) :
    rules.Rebooked who (rules.accountInfo who world.store).withoutConsumer
      (Item.totalIssuance.get world.store) world.store after.store := by
  cases run
  exact put_rebooked _ _

omit [DecidableEq Account] in
theorem incrementConsumers_cases {outcome : Except DispatchError Unit}
    (run : rules.incrementConsumers who world = .ok outcome after) :
    (∃ info, (rules.accountInfo who world.store).withConsumer = .ok info ∧
      rules.Rebooked who info (Item.totalIssuance.get world.store) world.store after.store) ∨
      SameBooks world.store after.store := by
  rcases incrementConsumers_stages run with ⟨info, given, _, rfl⟩ | ⟨_, _, _, rfl⟩
  · exact Or.inl ⟨info, given, put_rebooked info _⟩
  · exact Or.inr (SameBooks.refl _)

private theorem decrementProviders_same (quiet : rules.Quiet)
    {outcome : Except DispatchError Departure}
    (run : rules.decrementProviders who world = .ok outcome after) :
    outcome = (rules.accountInfo who world.store).withoutProvider.map (·.1) ∧
      SameBooks (rules.unprovided who world.store) after.store := by
  obtain ⟨answered, turns⟩ := decrementProviders_stages run
  exact ⟨answered, turned_same quiet turns⟩

omit [DecidableEq Account] in
private theorem unprovided_rebooked (store : Store) :
    rules.Rebooked who (rules.accountInfo who store).afterProvider
      (Item.totalIssuance.get store) store (rules.unprovided who store) := by
  unfold unprovided AccountInfo.afterProvider
  rcases AccountInfo.withoutProvider_cases (rules.accountInfo who store) with
    ⟨stays, _⟩ | ⟨reaped, _⟩ | ⟨rest, lives, _⟩
  · rw [stays]
    exact rebooked_of_same (SameBooks.refl _)
  · rw [reaped]
    exact erase_rebooked store
  · rw [lives]
    exact put_rebooked rest store

omit [DecidableEq Account] in
private theorem unprovided_supported {store : Store} (supported : rules.Supported who store) :
    rules.Supported who (rules.unprovided who store) := by
  unfold unprovided
  rcases AccountInfo.withoutProvider_cases (rules.accountInfo who store) with
    ⟨stays, _⟩ | ⟨reaped, _⟩ | ⟨rest, lives, _⟩
  · rw [stays]
    exact supported
  · rw [reaped]
    exact supported_erase store
  · have written : rules.Rebooked who rest _ store ((rules.accountSlot who).put rest store) :=
      put_rebooked rest store
    rw [lives]
    intro _
    change (rules.accountInfo who ((rules.accountSlot who).put rest store)).isProvided = true
    rw [written.record]
    exact (AccountInfo.withoutProvider_exists lives).2

theorem decrementProviders_rebooked (quiet : rules.Quiet) {outcome : Except DispatchError Departure}
    (run : rules.decrementProviders who world = .ok outcome after) :
    outcome = (rules.accountInfo who world.store).withoutProvider.map (·.1) ∧
      rules.Rebooked who (rules.accountInfo who world.store).afterProvider
        (Item.totalIssuance.get world.store) world.store after.store := by
  obtain ⟨answered, same⟩ := decrementProviders_same quiet run
  exact ⟨answered, (unprovided_rebooked world.store).aside same⟩

theorem decrementSufficients_rebooked (quiet : rules.Quiet) {outcome : Departure}
    (run : rules.decrementSufficients who world = .ok outcome after) :
    rules.Rebooked who (rules.accountInfo who world.store).afterSufficient
      (Item.totalIssuance.get world.store) world.store after.store := by
  obtain ⟨_, turns⟩ := decrementSufficients_stages run
  refine Rebooked.aside ?_ (turned_same quiet turns)
  unfold AccountInfo.afterSufficient
  cases (rules.accountInfo who world.store).withoutSufficient.2 with
  | none => exact erase_rebooked world.store
  | some rest => exact put_rebooked rest world.store

/-! ### Balances -/

/-- The balance of one account is `kept`, with a provider that follows it, and the issuance is
`issuance`. A balance was only given up if its provider could leave; then no record was left that
nothing provides for. -/
structure Refilled (rules : Rules Account Number) (who : Account) (kept issuance : Balance)
    (before after : Store) : Prop where
  booked : rules.Rebooked who ((rules.accountInfo who before).withFree kept) issuance before after
  loses : rules.freeBalance who before ≠ 0 → kept = 0 →
    (rules.accountInfo who before).canLoseProvider = true
  supported : rules.Supported who before → rules.Supported who after

section

omit [DecidableEq Account]

theorem Refilled.aside {first second third : Store} {kept issuance : Balance}
    (refilled : rules.Refilled who kept issuance first second) (same : SameBooks second third) :
    rules.Refilled who kept issuance first third :=
  ⟨refilled.booked.aside same, refilled.loses,
    fun supported => (refilled.supported supported).same same⟩

theorem Refilled.issued {kept issuance : Balance} {change : Balance → Balance} {before : Store}
    (refilled : rules.Refilled who kept issuance before world.store)
    (run : changeIssuance change world = .ok () after) :
    rules.Refilled who kept (change issuance) before after.store := by
  refine ⟨refilled.booked.issued run, refilled.loses, fun supported => ?_⟩
  cases run
  exact (refilled.supported supported).congr
    (get?_put_issuance _ _ (Item.row_begins _ who))

/-- A balance is replaced in the record of an account; a record that nothing provides for is
removed. -/
theorem putFree_eq (free : Option Balance) (store : Store) :
    rules.putFree who free store =
      if (rules.accountInfo who store).isProvided = true then
        (rules.accountSlot who).put { rules.accountInfo who store with free := free.getD 0 } store
      else (rules.accountSlot who).erase store := by
  unfold putFree tryModifyFree
  change (if (rules.accountInfo who store).isProvided = true then _ else _ :
    Except Empty Unit × Store).2 = _
  by_cases provided : (rules.accountInfo who store).isProvided = true
  · rw [if_pos provided, if_pos provided]
    rfl
  · rw [if_neg provided, if_neg provided]

theorem putFree_rebooked {store : Store} (free : Option Balance)
    (provided : (rules.accountInfo who store).isProvided = true) :
    rules.Rebooked who { rules.accountInfo who store with free := free.getD 0 }
      (Item.totalIssuance.get store) store (rules.putFree who free store) := by
  rw [putFree_eq, if_pos provided]
  exact put_rebooked _ _

end

theorem gaining_refilled (quiet : rules.Quiet) {kept : Balance} {arrival : Arrival}
    (isNew : (rules.accountInfo who world.store).free = 0) (filled : kept ≠ 0)
    (gains : rules.incrementProviders who world = .ok arrival after) :
    rules.Refilled who kept (Item.totalIssuance.get world.store) world.store
      (rules.putFree who (some kept) after.store) := by
  have gained := incrementProviders_rebooked quiet gains
  have carried : (rules.accountInfo who after.store).isProvided = true := by
    rw [gained.record]
    exact AccountInfo.withProvider_isProvided _
  have booked := putFree_rebooked (some kept) carried
  rw [gained.record, gained.issuance] at booked
  refine ⟨?_, fun old => absurd isNew old, fun _ _ => ?_⟩
  · rw [AccountInfo.withFree, if_pos isNew, if_neg filled]
    exact gained.trans booked
  · rw [booked.record]
    exact AccountInfo.withProvider_isProvided _

private theorem settleFree_gaining (quiet : rules.Quiet) {kept : Balance}
    {outcome : Except DispatchError Unit}
    (isNew : (rules.accountInfo who world.store).free = 0) (filled : kept ≠ 0)
    (run : (rules.settleFree who true kept).run world = .ok outcome after) :
    outcome = .ok () ∧
      rules.Refilled who kept (Item.totalIssuance.get world.store) world.store after.store := by
  have some : (kept == 0) = false := beq_eq_false_iff_ne.mpr filled
  unfold settleFree at run
  rw [some] at run
  obtain ⟨arrival, provided, gains, later⟩ := Attempt.lift_bind run
  obtain ⟨_, written, writes, logs⟩ := Attempt.lift_bind later
  obtain ⟨_, answered, deposits⟩ := Attempt.lift_cases logs
  rw [Action.change_run] at writes
  cases writes
  exact ⟨answered, (gaining_refilled quiet isNew filled gains).aside (deposit_same deposits)⟩

/-- A balance is given up only if its provider can leave; then it leaves. -/
theorem settleFree_losing (quiet : rules.Quiet) {outcome : Except DispatchError Unit}
    (provided : (rules.accountInfo who world.store).isProvided = true)
    (run : (rules.settleFree who false 0).run world = .ok outcome after) :
    outcome = .ok () ∧ (rules.accountInfo who world.store).canLoseProvider = true ∧
        rules.Rebooked who
          (AccountInfo.afterProvider { rules.accountInfo who world.store with free := 0 })
          (Item.totalIssuance.get world.store) world.store after.store ∧
        rules.Supported who after.store ∨
      (∃ cause, outcome = .error cause) ∧ SameBooks world.store after.store := by
  have later := Attempt.look_bind run
  rcases Attempt.bind_cases later with ⟨cause, answered, refused⟩ | ⟨_, allowed, demands, last⟩
  · obtain ⟨rfl, _⟩ := Attempt.demand_cases refused
    exact Or.inr ⟨⟨cause, answered⟩, SameBooks.refl _⟩
  left
  obtain ⟨rfl, ⟨loses, _⟩ | ⟨_, impossible⟩⟩ := Attempt.demand_cases demands
  · obtain ⟨_, written, writes, ends⟩ := Attempt.lift_bind last
    rw [Action.change_run] at writes
    cases writes
    have emptied : rules.Rebooked who { rules.accountInfo who allowed.store with free := 0 }
        (Item.totalIssuance.get allowed.store) allowed.store
        (rules.putFree who none allowed.store) := putFree_rebooked none provided
    have free : AccountInfo.canLoseProvider
        { rules.accountInfo who allowed.store with free := 0 } = true := loses
    obtain ⟨departed, leaves⟩ := AccountInfo.withoutProvider_of_canLose free
    rcases Attempt.bind_cases ends with ⟨_, _, refused⟩ | ⟨departure, left, parts, finishes⟩
    · obtain ⟨impossible, _⟩ := decrementProviders_rebooked quiet refused
      rw [emptied.record, leaves] at impossible
      cases impossible
    · obtain ⟨_, same⟩ := decrementProviders_same quiet parts
      have booked := (unprovided_rebooked _).aside same
      rw [emptied.record, emptied.issuance] at booked
      have carried : rules.Supported who (rules.putFree who none allowed.store) := by
        intro _
        rw [emptied.record]
        exact provided
      cases finishes
      exact ⟨rfl, loses, emptied.trans booked, (unprovided_supported carried).same same⟩
  · cases impossible

private theorem settleFree_cases (quiet : rules.Quiet) {kept : Balance}
    {outcome : Except DispatchError Unit}
    (provided : (rules.accountInfo who world.store).free ≠ 0 →
      (rules.accountInfo who world.store).isProvided = true)
    (run : (rules.settleFree who ((rules.accountInfo who world.store).free == 0) kept).run world =
      .ok outcome after) :
    outcome = .ok () ∧
        rules.Refilled who kept (Item.totalIssuance.get world.store) world.store after.store ∨
      (∃ cause, outcome = .error cause) ∧ SameBooks world.store after.store ∧
        (rules.accountInfo who world.store).free ≠ 0 ∧ kept = 0 := by
  by_cases isNew : (rules.accountInfo who world.store).free = 0
  · left
    have asNew : ((rules.accountInfo who world.store).free == 0) = true := beq_iff_eq.mpr isNew
    rw [asNew] at run
    by_cases none : kept = 0
    · subst none
      cases run
      refine ⟨rfl, ?_, fun some => absurd isNew some, id⟩
      rw [AccountInfo.withFree, if_pos isNew, if_pos rfl]
      exact rebooked_of_same (SameBooks.refl _)
    · exact settleFree_gaining quiet isNew none run
  · have asOld : ((rules.accountInfo who world.store).free == 0) = false :=
      beq_eq_false_iff_ne.mpr isNew
    rw [asOld] at run
    by_cases none : kept = 0
    · subst none
      rcases settleFree_losing quiet (provided isNew) run with
        ⟨answered, loses, booked, supported⟩ | refused
      · refine Or.inl ⟨answered, ?_, fun _ _ => loses, fun _ => supported⟩
        rw [AccountInfo.withFree, if_neg isNew, if_pos rfl]
        exact booked
      · exact Or.inr ⟨refused.1, refused.2, isNew, rfl⟩
    · left
      have filled : (kept == 0) = false := beq_eq_false_iff_ne.mpr none
      unfold settleFree at run
      rw [filled] at run
      obtain ⟨_, answered, writes⟩ := Attempt.lift_cases run
      rw [Action.change_run] at writes
      cases writes
      have booked := putFree_rebooked (.some kept) (provided isNew)
      refine ⟨answered, ?_, fun _ gone => absurd gone none, fun _ _ => ?_⟩
      · rw [AccountInfo.withFree, if_neg isNew, if_neg none]
        exact booked
      · rw [booked.record]
        exact provided isNew

section

omit [DecidableEq Account] [Word Number]

theorem withoutDust_split (rules : Rules Account Number) (free : Balance) :
    (rules.withoutDust free).1.toNat + ((rules.withoutDust free).2.getD 0).toNat = free.toNat ∧
      ((rules.withoutDust free).1 ≠ 0 →
        rules.existentialDeposit ≤ (rules.withoutDust free).1) := by
  unfold withoutDust
  by_cases dust : free < rules.existentialDeposit ∧ free ≠ 0
  · rw [if_pos dust]
    refine ⟨Nat.zero_add _, ?_⟩
    intro some
    exact absurd rfl some
  · rw [if_neg dust]
    refine ⟨rfl, ?_⟩
    intro some
    have enough : ¬free < rules.existentialDeposit := fun below => dust ⟨below, some⟩
    exact UInt64.not_lt.mp enough

theorem withoutDust_whole {free : Balance} (enough : free ≠ 0 → rules.existentialDeposit ≤ free) :
    rules.withoutDust free = (free, none) := by
  unfold withoutDust
  rw [if_neg]
  rintro ⟨below, some⟩
  exact UInt64.not_lt.mpr (enough some) below

theorem ne_zero_of_enough (positive : 0 < rules.existentialDeposit) {free : Balance}
    (enough : rules.existentialDeposit ≤ free) : free ≠ 0 := by
  rintro rfl
  exact UInt64.not_lt.mpr enough positive

end

private theorem tryChangeFree_cases (quiet : rules.Quiet)
    {change : Balance → Bool → Except DispatchError (ρ × Balance)}
    {outcome : Except DispatchError (ρ × Option Balance)}
    (provided : (rules.accountInfo who world.store).free ≠ 0 →
      (rules.accountInfo who world.store).isProvided = true)
    (run : (rules.tryChangeFree who change).run world = .ok outcome after) :
    (∃ answer wanted,
      change (rules.freeBalance who world.store) (rules.freeBalance who world.store == 0) =
        .ok (answer, wanted) ∧
      outcome = .ok (answer, (rules.withoutDust wanted).2) ∧
      rules.Refilled who (rules.withoutDust wanted).1
        (Word.saturatingSub (Item.totalIssuance.get world.store)
          ((rules.withoutDust wanted).2.getD 0)) world.store after.store) ∨
      (∃ cause, outcome = .error cause) ∧ SameBooks world.store after.store ∧
        ∀ answer wanted,
          change (rules.freeBalance who world.store) (rules.freeBalance who world.store == 0) =
            .ok (answer, wanted) → (rules.withoutDust wanted).1 = 0 := by
  have later := Attempt.look_bind run
  rcases Attempt.bind_cases later with
    ⟨cause, answered, refused⟩ | ⟨⟨answer, wanted⟩, same, changes, later⟩
  · obtain ⟨refuses, rfl⟩ := Attempt.liftExcept_cases refused
    refine Or.inr ⟨⟨cause, answered⟩, SameBooks.refl _, ?_⟩
    intro answer wanted changes
    rw [changes] at refuses
    cases refuses
  obtain ⟨changed, rfl⟩ := Attempt.liftExcept_eq_ok changes
  dsimp only at later changed
  rcases Attempt.bind_cases later with ⟨cause, answered, refused⟩ | ⟨_, settled, settles, later⟩
  · rcases settleFree_cases quiet provided refused with ⟨impossible, _⟩ | ⟨_, untouched, _, none⟩
    · cases impossible
    · refine Or.inr ⟨⟨cause, answered⟩, untouched, ?_⟩
      intro other otherWanted otherwise
      rw [changed] at otherwise
      cases otherwise
      exact none
  rcases settleFree_cases quiet provided settles with ⟨_, refilled⟩ | ⟨⟨_, impossible⟩, _⟩
  · refine Or.inl ⟨answer, wanted, changed, ?_⟩
    cases dust : (rules.withoutDust wanted).2 with
    | none =>
        rw [dust] at later
        cases later
        refine ⟨rfl, ?_⟩
        rw [Option.getD_none, Balance.saturatingSub_zero]
        exact refilled
    | some lost =>
        rw [dust] at later
        obtain ⟨_, burnt, burns, later⟩ := Attempt.lift_bind later
        obtain ⟨_, logged, logs, ends⟩ := Attempt.lift_bind later
        cases ends
        exact ⟨rfl, (refilled.issued burns).aside (deposit_same logs)⟩
  · cases impossible

/-! ### Creating and destroying -/

omit [DecidableEq Account] [Word Number] in
private theorem lessened_eq_ok {free amount rest : Balance}
    (taken : rules.lessened free amount = .ok rest) :
    rest.toNat + amount.toNat = free.toNat := by
  unfold lessened at taken
  cases found : Word.checkedSub? free amount with
  | none =>
      rw [found] at taken
      cases taken
  | some left =>
      rw [found] at taken
      cases taken
      exact Word.checkedSub?_eq_some found

omit [DecidableEq Account] [Word Number] in
private theorem lessened_error {free amount : Balance} {cause : DispatchError}
    (refused : rules.lessened free amount = .error cause) : ¬amount.toNat ≤ free.toNat := by
  intro covered
  have taken : Word.checkedSub? free amount = some _ := if_pos covered
  unfold lessened at refused
  rw [taken] at refused
  cases refused

private theorem increased_eq_ok {free amount sum : Balance}
    (added : increased free amount = .ok sum) : sum.toNat = free.toNat + amount.toNat := by
  unfold increased at added
  cases found : Word.checkedAdd? free amount with
  | none =>
      rw [found] at added
      cases added
  | some total =>
      rw [found] at added
      cases added
      exact Word.checkedAdd?_eq_some found

private theorem increased_error {free amount : Balance} {cause : DispatchError}
    (refused : increased free amount = .error cause) :
    ¬free.toNat + amount.toNat < 18446744073709551616 := by
  intro fits
  unfold increased at refused
  rw [Word.checkedAdd?_of_fits fits] at refused
  cases refused

private theorem increasing_eq_ok {free amount sum : Balance} {answer : Unit}
    (accepted : (do return ((), ← increased free amount)) = Except.ok (answer, sum)) :
    sum.toNat = free.toNat + amount.toNat := by
  cases added : increased free amount with
  | error cause =>
      rw [added] at accepted
      cases accepted
  | ok total =>
      rw [added] at accepted
      cases accepted
      exact increased_eq_ok added

theorem Refilled.created {kept issuance amount : Balance} {before : Store}
    (refilled : rules.Refilled who kept issuance before world.store)
    (run : rules.noteCreated who amount world = .ok () after) :
    rules.Refilled who kept (Word.saturatingAdd issuance amount) before after.store := by
  obtain ⟨_, changed, changes, deposits⟩ := Action.bind_eq_ok run
  exact (refilled.issued changes).aside (deposit_same deposits)

theorem create_cases (quiet : rules.Quiet) {amount created : Balance}
    (provided : rules.freeBalance who world.store ≠ 0 →
      (rules.accountInfo who world.store).isProvided = true)
    (run : rules.create who amount world = .ok created after) :
    (∃ sum : Balance, sum.toNat = (rules.freeBalance who world.store).toNat + amount.toNat ∧
      (rules.freeBalance who world.store = 0 → rules.existentialDeposit ≤ amount) ∧
      rules.Refilled who (rules.withoutDust sum).1
        (Word.saturatingAdd (Word.saturatingSub (Item.totalIssuance.get world.store)
          ((rules.withoutDust sum).2.getD 0)) amount) world.store after.store) ∨
      SameBooks world.store after.store := by
  unfold create at run
  by_cases nothing : amount = 0
  · rw [if_pos nothing] at run
    cases run
    exact Or.inr (SameBooks.refl _)
  · rw [if_neg nothing] at run
    obtain ⟨outcome, changed, changes, later⟩ := Action.bind_eq_ok run
    rcases tryChangeFree_cases quiet provided changes with
      ⟨_, sum, accepted, answered, refilled⟩ | ⟨⟨cause, refused⟩, untouched, _⟩
    · left
      subst answered
      obtain ⟨_, noted, notes, finishes⟩ := Action.bind_eq_ok later
      cases finishes
      by_cases few : (rules.freeBalance who world.store == 0) = true ∧
          amount < rules.existentialDeposit
      · rw [if_pos few] at accepted
        cases accepted
      · rw [if_neg few] at accepted
        refine ⟨sum, increasing_eq_ok accepted, ?_, refilled.created notes⟩
        intro none
        apply UInt64.not_lt.mp
        intro below
        exact few ⟨beq_iff_eq.mpr none, below⟩
    · subst refused
      cases later
      exact Or.inr untouched

theorem increasing_of_sum {free amount sum : Balance}
    (adds : sum.toNat = free.toNat + amount.toNat) :
    (do return ((), ← increased free amount)) = Except.ok ((), sum) := by
  have room : Word.toNat free + Word.toNat amount < Bytes.span (Word.width Balance) := by
    change free.toNat + amount.toNat < _
    rw [← adds]
    exact Word.toNat_lt sum
  have same : Word.saturatingAdd free amount = sum := by
    apply UInt64.toNat_inj.mp
    rw [adds]
    exact Word.toNat_saturatingAdd room
  unfold increased
  rw [Word.checkedAdd?_of_fits room, same]
  rfl

theorem createInExisting_cases (quiet : rules.Quiet) {amount : Balance}
    {outcome : Except DispatchError Balance}
    (provided : rules.freeBalance who world.store ≠ 0 →
      (rules.accountInfo who world.store).isProvided = true)
    (run : (rules.createInExisting who amount).run world = .ok outcome after) :
    (∃ sum : Balance, sum.toNat = (rules.freeBalance who world.store).toNat + amount.toNat ∧
      rules.freeBalance who world.store ≠ 0 ∧
      rules.Refilled who (rules.withoutDust sum).1
        (Word.saturatingAdd (Word.saturatingSub (Item.totalIssuance.get world.store)
          ((rules.withoutDust sum).2.getD 0)) amount) world.store after.store) ∨
      SameBooks world.store after.store ∧
        (rules.freeBalance who world.store ≠ 0 → amount ≠ 0 → ∀ sum : Balance,
          sum.toNat = (rules.freeBalance who world.store).toNat + amount.toNat →
            (rules.withoutDust sum).1 = 0) := by
  unfold createInExisting at run
  by_cases nothing : amount = 0
  · rw [if_pos nothing] at run
    cases run
    exact Or.inr ⟨SameBooks.refl _, fun _ some => absurd nothing some⟩
  · rw [if_neg nothing] at run
    rcases Attempt.bind_cases run with ⟨cause, _, refused⟩ | ⟨_, changed, changes, later⟩
    · rcases tryChangeFree_cases quiet provided refused with
        ⟨_, _, _, impossible, _⟩ | ⟨_, untouched, lost⟩
      · cases impossible
      · refine Or.inr ⟨untouched, fun had _ sum adds => lost () sum ?_⟩
        have isOld : ¬(rules.freeBalance who world.store == 0) = true := fun none =>
          had (beq_iff_eq.mp none)
        rw [if_neg isOld]
        exact increasing_of_sum adds
    rcases tryChangeFree_cases quiet provided changes with
      ⟨_, sum, accepted, _, refilled⟩ | ⟨⟨_, impossible⟩, _⟩
    · left
      obtain ⟨_, noted, notes, finishes⟩ := Attempt.lift_bind later
      cases finishes
      by_cases none : (rules.freeBalance who world.store == 0) = true
      · rw [if_pos none] at accepted
        cases accepted
      · rw [if_neg none] at accepted
        refine ⟨sum, increasing_eq_ok accepted, ?_, refilled.created notes⟩
        intro dead
        exact none (beq_iff_eq.mpr dead)
    · cases impossible

theorem withdraw_cases (quiet : rules.Quiet) {amount : Balance} {existence : Existence}
    {outcome : Except DispatchError Balance}
    (provided : rules.freeBalance who world.store ≠ 0 →
      (rules.accountInfo who world.store).isProvided = true)
    (run : (rules.withdraw who amount existence).run world = .ok outcome after) :
    (∃ rest : Balance, rest.toNat + amount.toNat = (rules.freeBalance who world.store).toNat ∧
      outcome = .ok amount ∧ amount ≠ 0 ∧
      (existence = .keepAlive → rules.existentialDeposit ≤ rest) ∧
      rules.Refilled who (rules.withoutDust rest).1
        (Word.saturatingSub (Word.saturatingSub (Item.totalIssuance.get world.store)
          ((rules.withoutDust rest).2.getD 0)) amount) world.store after.store) ∨
      (outcome = .ok 0 ∧ amount = 0 ∨ ∃ cause, outcome = .error cause) ∧
        SameBooks world.store after.store := by
  unfold withdraw at run
  by_cases nothing : amount = 0
  · rw [if_pos nothing] at run
    cases run
    exact Or.inr ⟨Or.inl ⟨rfl, nothing⟩, SameBooks.refl _⟩
  · rw [if_neg nothing] at run
    have looked := Attempt.look_bind run
    rcases Attempt.bind_cases looked with ⟨cause, answered, refused⟩ | ⟨rest, same, takes, checked⟩
    · obtain ⟨_, rfl⟩ := Attempt.liftExcept_cases refused
      exact Or.inr ⟨Or.inr ⟨cause, answered⟩, SameBooks.refl _⟩
    obtain ⟨taken, rfl⟩ := Attempt.liftExcept_eq_ok takes
    rcases Attempt.bind_cases checked with ⟨cause, answered, refused⟩ | ⟨_, changed, changes, later⟩
    · rcases tryChangeFree_cases quiet provided refused with ⟨_, _, _, impossible, _⟩ | untouched
      · cases impossible
      · exact Or.inr ⟨Or.inr ⟨cause, answered⟩, untouched.2.1⟩
    rcases tryChangeFree_cases quiet provided changes with
      ⟨_, kept, accepted, _, refilled⟩ | ⟨⟨_, impossible⟩, _⟩
    · left
      obtain ⟨_, burnt, burns, later⟩ := Attempt.lift_bind later
      obtain ⟨_, logged, logs, finishes⟩ := Attempt.lift_bind later
      cases finishes
      by_cases dies : existence = .keepAlive ∧ rest < rules.existentialDeposit
      · rw [if_pos dies] at accepted
        cases accepted
      · rw [if_neg dies] at accepted
        cases accepted
        refine ⟨rest, lessened_eq_ok taken, rfl, nothing, ?_,
          (refilled.issued burns).aside (deposit_same logs)⟩
        intro lives
        apply UInt64.not_lt.mp
        intro below
        exact dies ⟨lives, below⟩
    · cases impossible

def issuanceAfter (issuance before free : Balance) : Balance :=
  if before < free then Word.saturatingAdd issuance (free - before)
  else if free < before then Word.saturatingSub issuance (before - free)
  else issuance

theorem toNat_issuanceAfter {issuance before free : Balance}
    (covers : before.toNat ≤ issuance.toNat)
    (fits : issuance.toNat + free.toNat < 18446744073709551616 + before.toNat) :
    (issuanceAfter issuance before free).toNat + before.toNat =
      issuance.toNat + free.toNat := by
  unfold issuanceAfter
  by_cases more : before < free
  · rw [if_pos more]
    have value : (free - before).toNat = free.toNat - before.toNat :=
      UInt64.toNat_sub_of_le _ _ (UInt64.le_of_lt more)
    have order := UInt64.lt_iff_toNat_lt.mp more
    have room : issuance.toNat + (free - before).toNat < 18446744073709551616 := by omega
    have added := Balance.toNat_saturatingAdd room
    omega
  · rw [if_neg more]
    have order : free.toNat ≤ before.toNat := UInt64.le_iff_toNat_le.mp (UInt64.not_lt.mp more)
    by_cases less : free < before
    · rw [if_pos less]
      have value : (before - free).toNat = before.toNat - free.toNat :=
        UInt64.toNat_sub_of_le _ _ (UInt64.le_of_lt less)
      have taken := Balance.toNat_saturatingSub issuance (before - free)
      omega
    · rw [if_neg less]
      have other : before.toNat ≤ free.toNat := UInt64.le_iff_toNat_le.mp (UInt64.not_lt.mp less)
      omega

theorem Refilled.followed {kept issuance : Balance} {before : Store} {change : Balance → Balance}
    {event : Event Account} {outcome : Except DispatchError Unit}
    (refilled : rules.Refilled who kept issuance before world.store)
    (run : (do
      liftM (changeIssuance change)
      liftM (rules.deposit event) : Attempt DispatchError Unit).run world = .ok outcome after) :
    rules.Refilled who kept (change issuance) before after.store := by
  obtain ⟨_, changed, changes, logs⟩ := Attempt.lift_bind run
  obtain ⟨_, _, deposits⟩ := Attempt.lift_cases logs
  exact (refilled.issued changes).aside (deposit_same deposits)

theorem forceBalance_cases (quiet : rules.Quiet) {free : Balance}
    {outcome : Except DispatchError Unit}
    (provided : rules.freeBalance who world.store ≠ 0 →
      (rules.accountInfo who world.store).isProvided = true)
    (run : (rules.forceBalance who free).run world = .ok outcome after) :
    (∃ wanted : Balance, (wanted ≠ 0 → rules.existentialDeposit ≤ wanted) ∧
      rules.Refilled who wanted
        (issuanceAfter (Item.totalIssuance.get world.store) (rules.freeBalance who world.store)
          wanted) world.store after.store) ∨
      SameBooks world.store after.store := by
  unfold forceBalance at run
  generalize effective : (if free < rules.existentialDeposit then 0 else free) = wanted at run
  have enough : wanted ≠ 0 → rules.existentialDeposit ≤ wanted := by
    rw [← effective]
    by_cases below : free < rules.existentialDeposit
    · rw [if_pos below]
      intro some
      exact absurd rfl some
    · rw [if_neg below]
      intro _
      exact UInt64.not_lt.mp below
  dsimp only at run
  rcases Attempt.bind_cases run with ⟨cause, _, refused⟩ | ⟨⟨before, dust⟩, changed, changes, later⟩
  · rcases tryChangeFree_cases quiet provided refused with ⟨_, _, _, impossible, _⟩ | untouched
    · cases impossible
    · exact Or.inr untouched.2.1
  rcases tryChangeFree_cases quiet provided changes with
    ⟨_, _, accepted, answered, refilled⟩ | ⟨⟨_, impossible⟩, _⟩
  · left
    cases accepted
    cases answered
    rw [withoutDust_whole enough, Option.getD_none, Balance.saturatingSub_zero] at refilled
    refine ⟨wanted, enough, ?_⟩
    unfold issuanceAfter
    dsimp only at later
    by_cases more : rules.freeBalance who world.store < wanted
    · rw [if_pos more] at later ⊢
      exact refilled.followed later
    · rw [if_neg more] at later ⊢
      by_cases less : wanted < rules.freeBalance who world.store
      · rw [if_pos less] at later ⊢
        exact refilled.followed later
      · rw [if_neg less] at later ⊢
        obtain ⟨_, _, deposits⟩ := Attempt.lift_cases later
        exact refilled.aside (deposit_same deposits)
  · cases impossible

theorem setFree_cases (quiet : rules.Quiet) {wanted : Balance}
    {outcome : Except DispatchError Unit}
    (provided : rules.freeBalance who world.store ≠ 0 →
      (rules.accountInfo who world.store).isProvided = true)
    (run : (rules.setFree who wanted).run world = .ok outcome after) :
    outcome = .ok () ∧
        rules.Refilled who (rules.withoutDust wanted).1
          (Word.saturatingSub (Item.totalIssuance.get world.store)
            ((rules.withoutDust wanted).2.getD 0)) world.store after.store ∨
      (∃ cause, outcome = .error cause) ∧ SameBooks world.store after.store ∧
        (rules.withoutDust wanted).1 = 0 := by
  rcases Attempt.bind_cases run with ⟨cause, answered, refused⟩ | ⟨_, changed, changes, finishes⟩
  · rcases tryChangeFree_cases quiet provided refused with
      ⟨_, _, _, impossible, _⟩ | ⟨_, untouched, none⟩
    · cases impossible
    · exact Or.inr ⟨⟨cause, answered⟩, untouched, none () wanted rfl⟩
  · rcases tryChangeFree_cases quiet provided changes with
      ⟨_, _, accepted, _, refilled⟩ | ⟨⟨_, impossible⟩, _⟩
    · cases accepted
      cases finishes
      exact Or.inl ⟨rfl, refilled⟩
    · cases impossible

/-- What is asked of an amount and two accounts before the one sends it to the other. -/
structure Sendable (rules : Rules Account Number) (source target : Account) (amount : Balance)
    (existence : Existence) (store : Store) : Prop where
  covered : amount.toNat ≤ (rules.freeBalance source store).toNat
  fits : (rules.freeBalance target store).toNat + amount.toNat < 18446744073709551616
  enough : rules.existentialDeposit.toNat ≤
    (rules.freeBalance target store).toNat + amount.toNat
  lives : rules.existentialDeposit.toNat ≤ (rules.freeBalance source store).toNat - amount.toNat ∨
    existence = .allowDeath ∧ (rules.accountInfo source store).canLoseProvider = true

def moving (rules : Rules Account Number) (source target : Account)
    (amount sourceFree targetFree : Balance) : Attempt DispatchError Unit := do
  rules.setFree source sourceFree
  rules.setFree target targetFree
  rules.deposit (.balances (.transfer source target amount))

/-- A transfer is decided by what is asked of it, before anything is written. -/
theorem transfer_decided {source target : Account} {amount : Balance} {existence : Existence}
    {outcome : Except DispatchError Unit} (some : amount ≠ 0) (different : source ≠ target)
    (run : (rules.transfer source target amount existence).run world = .ok outcome after) :
    (¬rules.Sendable source target amount existence world.store ∧ after = world ∧
        ∃ cause, outcome = .error cause) ∨
      rules.Sendable source target amount existence world.store ∧
        ∃ sourceFree targetFree : Balance,
          sourceFree.toNat + amount.toNat = (rules.freeBalance source world.store).toNat ∧
          targetFree.toNat = (rules.freeBalance target world.store).toNat + amount.toNat ∧
          (rules.moving source target amount sourceFree targetFree).run world =
            .ok outcome after := by
  unfold transfer at run
  rw [if_neg (not_or.mpr ⟨some, different⟩)] at run
  have atSource := Attempt.look_bind run
  rcases Attempt.bind_cases atSource with ⟨cause, fails, refused⟩ | ⟨sourceFree, _, takes, lessens⟩
  · obtain ⟨refuses, same⟩ := Attempt.liftExcept_cases refused
    exact Or.inl ⟨fun asked => lessened_error refuses.symm asked.covered, same, cause, fails⟩
  obtain ⟨taken, unmoved⟩ := Attempt.liftExcept_eq_ok takes
  rw [unmoved] at lessens
  have left := lessened_eq_ok taken
  have atTarget := Attempt.look_bind lessens
  rcases Attempt.bind_cases atTarget with ⟨cause, fails, refused⟩ | ⟨targetFree, _, adds, increases⟩
  · obtain ⟨refuses, same⟩ := Attempt.liftExcept_cases refused
    exact Or.inl ⟨fun asked => increased_error refuses.symm asked.fits, same, cause, fails⟩
  obtain ⟨added, unmoved⟩ := Attempt.liftExcept_eq_ok adds
  rw [unmoved] at increases
  have reached := increased_eq_ok added
  have room := UInt64.toNat_lt targetFree
  rcases Attempt.bind_cases increases with ⟨cause, fails, refused⟩ | ⟨_, _, arrives, arrived⟩
  · obtain ⟨same, ⟨_, impossible⟩ | ⟨few, _⟩⟩ := Attempt.demand_cases refused
    · cases impossible
    · refine Or.inl ⟨fun asked => of_decide_eq_false few ?_, same, cause, fails⟩
      rw [UInt64.le_iff_toNat_le, reached]
      exact asked.enough
  obtain ⟨unmoved, ⟨arriving, _⟩ | ⟨_, impossible⟩⟩ := Attempt.demand_cases arrives
  · rw [unmoved] at arrived
    have enough := UInt64.le_iff_toNat_le.mp (of_decide_eq_true arriving)
    have rest : sourceFree.toNat =
        (rules.freeBalance source world.store).toNat - amount.toNat := by omega
    have least : decide (rules.existentialDeposit ≤ sourceFree) = true ↔
        rules.existentialDeposit.toNat ≤
          (rules.freeBalance source world.store).toNat - amount.toNat := by
      rw [decide_eq_true_iff, UInt64.le_iff_toNat_le, rest]
    rcases Attempt.bind_cases arrived with ⟨cause, fails, refused⟩ | ⟨_, _, survives, survived⟩
    · obtain ⟨same, ⟨_, impossible⟩ | ⟨dies, _⟩⟩ := Attempt.demand_cases refused
      · cases impossible
      · obtain ⟨below, kept⟩ := Bool.or_eq_false_iff.mp dies
        refine Or.inl ⟨fun asked => ?_, same, cause, fails⟩
        rcases asked.lives with above | ⟨rfl, _⟩
        · rw [least.mpr above] at below
          cases below
        · cases kept
    obtain ⟨unmoved, ⟨alive, _⟩ | ⟨_, impossible⟩⟩ := Attempt.demand_cases survives
    · rw [unmoved] at survived
      have leaving := Attempt.look_bind survived
      rcases Attempt.bind_cases leaving with ⟨cause, fails, refused⟩ | ⟨_, _, leaves, moves⟩
      · obtain ⟨same, ⟨_, impossible⟩ | ⟨stays, _⟩⟩ := Attempt.demand_cases refused
        · cases impossible
        · obtain ⟨below, held⟩ := Bool.or_eq_false_iff.mp stays
          refine Or.inl ⟨fun asked => ?_, same, cause, fails⟩
          rcases asked.lives with above | ⟨_, free⟩
          · rw [least.mpr above] at below
            cases below
          · rw [free] at held
            cases held
      obtain ⟨unmoved, ⟨loses, _⟩ | ⟨_, impossible⟩⟩ := Attempt.demand_cases leaves
      · rw [unmoved] at moves
        refine Or.inr ⟨⟨by omega, by omega, by omega, ?_⟩, sourceFree, targetFree, left, reached,
          moves⟩
        rcases Bool.or_eq_true_iff.mp alive with above | dies
        · exact Or.inl (least.mp above)
        rcases Bool.or_eq_true_iff.mp loses with above | free
        · exact Or.inl (least.mp above)
        · exact Or.inr ⟨beq_iff_eq.mp dies, free⟩
      · cases impossible
    · cases impossible
  · cases impossible

end

end Rules

end StateTransition
