import StateTransition.Proofs.Account.Nonce
import StateTransition.Proofs.Account.Total

set_option autoImplicit false

/-! Operations on the record of an account. Providers, sufficient references and consumers are counted
in it. What an operation makes of the counts, what it answers and what it writes is stated apart, and
the answer tells what has become of the record. -/

namespace StateTransition

/-! ### Operations -/

/-- What can be done about the record of an account. A balance is inserted in it, or removed, without
a reference. -/
inductive ReferenceOperation where
  | incrementProviders
  | decrementProviders
  | incrementConsumers
  | decrementConsumers
  | incrementSufficients
  | decrementSufficients
  | replace (free : Option Balance)

inductive ReferenceReply where
  | arrival (arrival : Arrival)
  | departure (departure : Departure)
  | refused (cause : DispatchError)
  | done
deriving DecidableEq

/-- What a reply tells of the record of an account that was there or not. -/
def ReferenceReply.turn? (recorded : Bool) : ReferenceReply → Option Turn
  | .arrival arrived => arrived.turn?
  | .departure departed => departed.turn? recorded
  | .refused _ => none
  | .done => none

namespace Turn

/-- What has become of a record that was there or not, and is there now or not. -/
def between? : Bool → Bool → Option Turn
  | false, true => some .appears
  | true, false => some .vanishes
  | true, true => none
  | false, false => none

theorem between?_self (recorded : Bool) : between? recorded recorded = none := by
  cases recorded <;> rfl

private theorem between?_arrival (recorded : Bool) :
    between? recorded true =
      (if recorded = true then Arrival.existed else Arrival.created).turn? := by
  cases recorded <;> rfl

private theorem between?_reaped (recorded : Bool) :
    between? recorded false = Departure.reaped.turn? recorded := by
  cases recorded <;> rfl

def event {Account : Type} (who : Account) : Turn → Event Account
  | .appears => .system (.newAccount who)
  | .vanishes => .system (.killedAccount who)

end Turn

/-! ### Counts -/

structure Counts where
  providers : Nat
  consumers : Nat
  sufficients : Nat

def AccountInfo.counts {Number : Type} (info : AccountInfo Number) : Counts where
  providers := info.providers.toNat
  consumers := info.consumers.toNat
  sufficients := info.sufficients.toNat

namespace ReferenceOperation

/-- A consumer is only given up where there is one, and a sufficient reference is only gained where
what provides for the account can be added up. -/
def Allowed (counts : Counts) : ReferenceOperation → Prop
  | decrementConsumers => 0 < counts.consumers
  | incrementSufficients => counts.providers + counts.sufficients < 4294967296
  | _ => True

/-- The last provider of what something depends on has to stay, and nothing can depend on what has no
provider. -/
def refusal? (counts : Counts) : ReferenceOperation → Option DispatchError
  | decrementProviders =>
      if counts.providers = 1 ∧ 0 < counts.consumers then some .consumerRemaining else none
  | incrementConsumers => if counts.providers = 0 then some .noProviders else none
  | _ => none

/-- What is counted after an operation that was not refused. A count at its end stays there. -/
def counting (counts : Counts) : ReferenceOperation → Counts
  | incrementProviders =>
      { counts with providers := min (counts.providers + 1) 4294967295 }
  | decrementProviders => { counts with providers := counts.providers - 1 }
  | incrementConsumers =>
      { counts with consumers := min (counts.consumers + 1) 4294967295 }
  | decrementConsumers => { counts with consumers := counts.consumers - 1 }
  | incrementSufficients =>
      { counts with sufficients := min (counts.sufficients + 1) 4294967295 }
  | decrementSufficients => { counts with sufficients := counts.sufficients - 1 }
  | replace _ => counts

variable {counts : Counts} {operation : ReferenceOperation}

/-- What something depends on keeps a provider. -/
theorem counting_carried (carried : 0 < counts.consumers → 0 < counts.providers)
    (accepted : operation.refusal? counts = none) :
    0 < (operation.counting counts).consumers → 0 < (operation.counting counts).providers := by
  cases operation with
  | incrementProviders =>
      dsimp only [counting]
      omega
  | decrementProviders =>
      have many : ¬(counts.providers = 1 ∧ 0 < counts.consumers) := fun last => by
        rw [refusal?, if_pos last] at accepted
        cases accepted
      dsimp only [counting]
      omega
  | incrementConsumers =>
      have some : counts.providers ≠ 0 := fun none => by
        rw [refusal?, if_pos none] at accepted
        cases accepted
      exact fun _ => Nat.pos_of_ne_zero some
  | decrementConsumers =>
      dsimp only [counting]
      omega
  | incrementSufficients => exact carried
  | decrementSufficients => exact carried
  | replace free => exact carried

/-! ### The record -/

variable {Number : Type} [Word Number] {info : AccountInfo Number}

/-- The record after an operation, which is blank if there is none. -/
def next (info : AccountInfo Number) : ReferenceOperation → AccountInfo Number
  | incrementProviders => info.withProvider.2
  | decrementProviders => info.afterProvider
  | incrementConsumers => info.withConsumer.toOption.getD info
  | decrementConsumers => info.withoutConsumer
  | incrementSufficients => info.withSufficient.2
  | decrementSufficients => info.afterSufficient
  | replace free =>
      if info.isProvided = true then { info with free := free.getD 0 } else .blank

def reply (info : AccountInfo Number) : ReferenceOperation → ReferenceReply
  | incrementProviders => .arrival info.withProvider.1
  | decrementProviders =>
      match info.withoutProvider with
      | .ok (departure, _) => .departure departure
      | .error cause => .refused cause
  | incrementConsumers =>
      match info.withConsumer with
      | .ok _ => .done
      | .error cause => .refused cause
  | decrementConsumers => .done
  | incrementSufficients => .arrival info.withSufficient.1
  | decrementSufficients => .departure info.withoutSufficient.1
  | replace _ => .done

omit [Word Number] in
theorem reply_refused_iff (carried : info.Carried) (cause : DispatchError) :
    operation.reply info = .refused cause ↔ operation.refusal? info.counts = some cause := by
  cases operation with
  | decrementProviders =>
      have stays : info.canLoseProvider = false ↔
          info.counts.providers = 1 ∧ 0 < info.counts.consumers := carried.stays
      unfold reply refusal?
      dsimp only
      cases loses : info.canLoseProvider with
      | false =>
          rw [AccountInfo.withoutProvider_refused loses, if_pos (stays.mp loses)]
          exact ⟨congrArg some ∘ ReferenceReply.refused.inj,
            congrArg ReferenceReply.refused ∘ Option.some.inj⟩
      | true =>
          obtain ⟨departed, left⟩ := AccountInfo.withoutProvider_of_canLose loses
          rw [loses] at stays
          rw [left, if_neg fun last => Bool.noConfusion (stays.mpr last)]
          exact ⟨nofun, nofun⟩
  | incrementConsumers =>
      unfold reply refusal?
      dsimp only
      rcases info.withConsumer_cases with ⟨positive, given⟩ | ⟨none, refused⟩
      · have some : info.counts.providers ≠ 0 :=
          Nat.ne_of_gt (UInt32.lt_iff_toNat_lt.mp positive)
        rw [given, if_neg some]
        exact ⟨nofun, nofun⟩
      · have nobody : info.counts.providers = 0 := congrArg UInt32.toNat none
        rw [refused, if_pos nobody]
        exact ⟨congrArg some ∘ ReferenceReply.refused.inj,
          congrArg ReferenceReply.refused ∘ Option.some.inj⟩
  | incrementProviders => exact ⟨nofun, nofun⟩
  | decrementConsumers => exact ⟨nofun, nofun⟩
  | incrementSufficients => exact ⟨nofun, nofun⟩
  | decrementSufficients => exact ⟨nofun, nofun⟩
  | replace free => exact ⟨nofun, nofun⟩

omit [Word Number] in
private theorem refused_cases {cause : DispatchError}
    (refused : operation.reply info = .refused cause) :
    operation = decrementProviders ∧ info.withoutProvider = .error cause ∨
      operation = incrementConsumers ∧ info.withConsumer = .error cause := by
  cases operation with
  | decrementProviders =>
      unfold reply at refused
      dsimp only at refused
      cases left : info.withoutProvider with
      | error refusal =>
          rw [left] at refused
          cases refused
          exact Or.inl ⟨rfl, rfl⟩
      | ok departed =>
          rw [left] at refused
          cases refused
  | incrementConsumers =>
      unfold reply at refused
      dsimp only at refused
      cases given : info.withConsumer with
      | error refusal =>
          rw [given] at refused
          cases refused
          exact Or.inr ⟨rfl, rfl⟩
      | ok rest =>
          rw [given] at refused
          cases refused
  | incrementProviders => cases refused
  | decrementConsumers => cases refused
  | incrementSufficients => cases refused
  | decrementSufficients => cases refused
  | replace free => cases refused

private theorem next_refused {cause : DispatchError}
    (refused : operation.reply info = .refused cause) : operation.next info = info := by
  rcases refused_cases refused with ⟨rfl, stays⟩ | ⟨rfl, stays⟩
  · rw [next, AccountInfo.afterProvider, stays]
  · rw [next, stays]
    rfl

private theorem counts_of_absent (carried : info.Carried) (provided : info.isProvided = false) :
    info.counts = (AccountInfo.blank : AccountInfo Number).counts := by
  obtain ⟨providers, sufficients⟩ := AccountInfo.isProvided_eq_false provided
  rw [AccountInfo.counts, providers, sufficients, carried.none_depends providers]
  rfl

theorem next_counts (carried : info.Carried) (allowed : operation.Allowed info.counts)
    (accepted : operation.refusal? info.counts = none) :
    (operation.next info).counts = operation.counting info.counts := by
  cases operation with
  | incrementProviders =>
      change info.withProvider.2.counts = Counts.mk (min (info.providers.toNat + 1) 4294967295) _ _
      unfold AccountInfo.withProvider
      cases provided : info.isProvided with
      | true =>
          exact congrArg (Counts.mk · _ _) (AccountInfo.toNat_saturatingAdd_one_eq info.providers)
      | false =>
          rw [(AccountInfo.isProvided_eq_false provided).1]
          rfl
  | incrementSufficients =>
      change info.withSufficient.2.counts =
        Counts.mk _ _ (min (info.sufficients.toNat + 1) 4294967295)
      rw [AccountInfo.withSufficient_of_provided allowed]
      cases provided : info.isProvided with
      | true =>
          exact congrArg (Counts.mk _ _) (AccountInfo.toNat_saturatingAdd_one_eq info.sufficients)
      | false =>
          rw [(AccountInfo.isProvided_eq_false provided).2]
          rfl
  | decrementProviders =>
      change info.afterProvider.counts = Counts.mk (info.providers.toNat - 1)
        info.consumers.toNat info.sufficients.toNat
      have leaves : ¬info.canLoseProvider = false := fun stays => by
        have last : info.counts.providers = 1 ∧ 0 < info.counts.consumers :=
          carried.stays.mp stays
        rw [refusal?, if_pos last] at accepted
        cases accepted
      unfold AccountInfo.afterProvider
      rcases info.withoutProvider_cases with
        ⟨_, stays⟩ | ⟨left, few, sufficients⟩ | ⟨rest, left, _, less⟩
      · exact absurd stays leaves
      · have nobody : info.consumers.toNat = 0 := by
          apply Nat.eq_zero_of_not_pos
          intro depends
          have some : 0 < info.providers.toNat := carried depends
          exact leaves (carried.stays.mpr ⟨by omega, depends⟩)
        rw [left, nobody, sufficients, Nat.sub_eq_zero_of_le few]
        rfl
      · rw [left, ← less, (AccountInfo.withoutProvider_exists left).1]
        rfl
  | decrementSufficients =>
      change info.afterSufficient.counts = Counts.mk info.providers.toNat info.consumers.toNat
        (info.sufficients.toNat - 1)
      unfold AccountInfo.afterSufficient
      rcases info.withoutSufficient_cases with ⟨left, few, providers⟩ | ⟨rest, left, _, _, rfl⟩
      · rw [left, providers, carried.none_depends providers, Nat.sub_eq_zero_of_le few]
        rfl
      · rw [left]
        exact congrArg (Counts.mk _ _) (AccountInfo.toNat_saturatingSub_one info.sufficients)
  | incrementConsumers =>
      rcases info.withConsumer_cases with ⟨_, given⟩ | ⟨none, _⟩
      · change (info.withConsumer.toOption.getD info).counts = _
        rw [given]
        exact congrArg (Counts.mk _ · _) (AccountInfo.toNat_saturatingAdd_one_eq info.consumers)
      · have nobody : info.counts.providers = 0 := congrArg UInt32.toNat none
        rw [refusal?, if_pos nobody] at accepted
        cases accepted
  | decrementConsumers =>
      exact congrArg (Counts.mk _ · _) (AccountInfo.toNat_saturatingSub_one info.consumers)
  | replace free =>
      change (if info.isProvided = true then _ else _ : AccountInfo Number).counts = info.counts
      cases provided : info.isProvided with
      | true => rfl
      | false => exact (counts_of_absent carried provided).symm

theorem next_carried (carried : info.Carried) (allowed : operation.Allowed info.counts) :
    (operation.next info).Carried := by
  have counted : 0 < info.counts.consumers → 0 < info.counts.providers := carried
  cases refusal : operation.refusal? info.counts with
  | some cause =>
      rw [next_refused ((reply_refused_iff carried cause).mpr refusal)]
      exact carried
  | none =>
      have kept := counting_carried counted refusal
      rw [← next_counts carried allowed refusal] at kept
      exact kept

/-- A reply tells exactly what has become of the record. -/
theorem reply_turn (carried : info.Carried) (allowed : operation.Allowed info.counts) :
    (operation.reply info).turn? info.isProvided =
      Turn.between? info.isProvided (operation.next info).isProvided := by
  cases operation with
  | incrementProviders =>
      change info.withProvider.1.turn? = Turn.between? _ info.withProvider.2.isProvided
      rw [AccountInfo.withProvider_isProvided, Turn.between?_arrival, AccountInfo.withProvider_arrival]
  | incrementSufficients =>
      change info.withSufficient.1.turn? = Turn.between? _ info.withSufficient.2.isProvided
      rw [AccountInfo.withSufficient_isProvided, Turn.between?_arrival,
        AccountInfo.withSufficient_arrival allowed]
  | decrementProviders =>
      unfold reply next AccountInfo.afterProvider
      dsimp only
      rcases info.withoutProvider_cases with ⟨left, _⟩ | ⟨left, _⟩ | ⟨rest, left, _⟩
      · rw [left]
        exact (Turn.between?_self _).symm
      · rw [left]
        exact (Turn.between?_reaped _).symm
      · have lives : rest.isProvided = true := (AccountInfo.withoutProvider_exists left).2
        have provided : info.isProvided = true := by
          apply Decidable.byContradiction
          intro absent
          rw [carried.withoutProvider (Bool.eq_false_iff.mpr absent)] at left
          cases left
        rw [left, provided]
        change none = Turn.between? true rest.isProvided
        rw [lives, Turn.between?_self]
  | decrementSufficients =>
      unfold reply next AccountInfo.afterSufficient
      dsimp only
      rcases info.withoutSufficient_cases with ⟨left, _⟩ | ⟨rest, left, provided, lives, _⟩
      · rw [left]
        exact (Turn.between?_reaped _).symm
      · rw [left, provided]
        change none = Turn.between? true rest.isProvided
        rw [lives, Turn.between?_self]
  | incrementConsumers =>
      unfold reply next
      dsimp only
      rcases info.withConsumer_cases with ⟨_, given⟩ | ⟨_, refused⟩
      · rw [given]
        exact (Turn.between?_self _).symm
      · rw [refused]
        exact (Turn.between?_self _).symm
  | decrementConsumers => exact (Turn.between?_self info.isProvided).symm
  | replace free =>
      change none = Turn.between? info.isProvided
        (if info.isProvided = true then { info with free := free.getD 0 } else .blank).isProvided
      cases provided : info.isProvided with
      | true => exact (Turn.between?_self _).symm.trans (congrArg _ provided.symm)
      | false => rfl

/-! ### Running an operation -/

variable {Account : Type} [DecidableEq Account]

def perform (rules : Rules Account Number) (who : Account) :
    ReferenceOperation → Action ReferenceReply
  | incrementProviders => ReferenceReply.arrival <$> rules.incrementProviders who
  | decrementProviders => answered .departure <$> rules.decrementProviders who
  | incrementConsumers => answered (fun _ => .done) <$> rules.incrementConsumers who
  | decrementConsumers => (fun _ => .done) <$> rules.decrementConsumers who
  | incrementSufficients => ReferenceReply.arrival <$> rules.incrementSufficients who
  | decrementSufficients => ReferenceReply.departure <$> rules.decrementSufficients who
  | replace free => (fun _ => .done) <$> Action.change (rules.putFree who free)
where
  answered {α : Type} (reply : α → ReferenceReply) : Except DispatchError α → ReferenceReply
    | .ok value => reply value
    | .error cause => .refused cause

def write (rules : Rules Account Number) (who : Account) (store : Store) :
    ReferenceOperation → Store
  | incrementProviders =>
      (rules.accountSlot who).put (rules.accountInfo who store).withProvider.2 store
  | decrementProviders => rules.unprovided who store
  | incrementConsumers =>
      match (rules.accountInfo who store).withConsumer with
      | .ok info => (rules.accountSlot who).put info store
      | .error _ => store
  | decrementConsumers =>
      (rules.accountSlot who).put (rules.accountInfo who store).withoutConsumer store
  | incrementSufficients =>
      (rules.accountSlot who).put (rules.accountInfo who store).withSufficient.2 store
  | decrementSufficients => store.writeOption (rules.accountSlot who).codec
      (rules.accountSlot who).key (rules.accountInfo who store).withoutSufficient.2
  | replace free => rules.putFree who free store

variable {rules : Rules Account Number} {who : Account} {world ended : World}
variable {answer : ReferenceReply}

theorem perform_total (lives : rules.SafeLives) (operation : ReferenceOperation) :
    Action.Total (operation.perform rules who) := by
  cases operation with
  | incrementProviders => exact (Rules.incrementProviders_total lives).map _
  | decrementProviders => exact (Rules.decrementProviders_total lives).map _
  | incrementConsumers => exact (Action.Total.update _).map _
  | decrementConsumers => exact (Action.Total.update _).map _
  | incrementSufficients => exact (Rules.incrementSufficients_total lives).map _
  | decrementSufficients => exact (Rules.decrementSufficients_total lives).map _
  | replace free => exact (Action.Total.change _).map _

theorem perform_stages (run : operation.perform rules who world = .ok answer ended) :
    answer = operation.reply (rules.accountInfo who world.store) ∧
      rules.turned who (answer.turn? (rules.recorded who world.store))
        ⟨operation.write rules who world.store, world.notes⟩ = .ok () ended := by
  cases operation with
  | incrementProviders =>
      obtain ⟨arrival, ran, rfl⟩ := Action.map_eq_ok run
      obtain ⟨rfl, turns⟩ := Rules.incrementProviders_stages ran
      exact ⟨rfl, turns⟩
  | incrementSufficients =>
      obtain ⟨arrival, ran, rfl⟩ := Action.map_eq_ok run
      obtain ⟨rfl, turns⟩ := Rules.incrementSufficients_stages ran
      exact ⟨rfl, turns⟩
  | decrementProviders =>
      obtain ⟨outcome, ran, rfl⟩ := Action.map_eq_ok run
      obtain ⟨rfl, turns⟩ := Rules.decrementProviders_stages ran
      unfold reply write
      dsimp only
      cases left : (rules.accountInfo who world.store).withoutProvider with
      | ok departed =>
          rw [left] at turns
          exact ⟨rfl, turns⟩
      | error cause =>
          rw [left] at turns
          exact ⟨rfl, turns⟩
  | decrementSufficients =>
      obtain ⟨departure, ran, rfl⟩ := Action.map_eq_ok run
      obtain ⟨rfl, turns⟩ := Rules.decrementSufficients_stages ran
      exact ⟨rfl, turns⟩
  | incrementConsumers =>
      obtain ⟨outcome, ran, rfl⟩ := Action.map_eq_ok run
      unfold reply write
      dsimp only
      rcases Rules.incrementConsumers_stages ran with
        ⟨info, given, rfl, rfl⟩ | ⟨cause, given, rfl, rfl⟩
      · rw [given]
        exact ⟨rfl, rfl⟩
      · rw [given]
        exact ⟨rfl, rfl⟩
  | decrementConsumers =>
      obtain ⟨_, ran, rfl⟩ := Action.map_eq_ok run
      cases ran
      exact ⟨rfl, rfl⟩
  | replace free =>
      obtain ⟨_, ran, rfl⟩ := Action.map_eq_ok run
      cases ran
      exact ⟨rfl, rfl⟩

omit [DecidableEq Account] in
theorem write_refused {store : Store} {cause : DispatchError}
    (refused : operation.reply (rules.accountInfo who store) = .refused cause) :
    operation.write rules who store = store := by
  rcases refused_cases refused with ⟨rfl, stays⟩ | ⟨rfl, stays⟩
  · rw [write, Rules.unprovided, stays]
  · rw [write, stays]

end ReferenceOperation

end StateTransition
