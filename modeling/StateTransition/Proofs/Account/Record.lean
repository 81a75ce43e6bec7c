import StateTransition.Account.Balance
import StateTransition.Proofs.Word

set_option autoImplicit false

/-! What references and balances do to the record of an account, apart from where it is kept. A
record that nothing provides for has no balance, and every change keeps it so. -/

namespace StateTransition.AccountInfo

variable {Number : Type} {info : AccountInfo Number}

theorem toNat_saturatingAdd_one_eq (count : RefCount) :
    (Word.saturatingAdd count 1).toNat = min (count.toNat + 1) 4294967295 :=
  @Word.toNat_clamp RefCount _ _

private theorem toNat_saturatingAdd_one (count : RefCount) (fits : count.toNat + 1 < 4294967296) :
    (Word.saturatingAdd count 1).toNat = count.toNat + 1 := by
  rw [toNat_saturatingAdd_one_eq]
  omega

theorem toNat_saturatingSub_one (count : RefCount) :
    (Word.saturatingSub count 1).toNat = count.toNat - 1 :=
  @Word.toNat_saturatingSub RefCount _ count 1

private theorem saturatingAdd_one_ne_zero (count : RefCount) : Word.saturatingAdd count 1 ≠ 0 := by
  intro zero
  have value := toNat_saturatingAdd_one_eq count
  rw [zero] at value
  change 0 = _ at value
  omega

/-! ### What provides for an account -/

theorem isProvided_of_providers (some : info.providers ≠ 0) : info.isProvided = true := by
  simp [isProvided, some]

theorem isProvided_iff (info : AccountInfo Number) :
    info.isProvided = true ↔ 0 < info.providers.toNat + info.sufficients.toNat := by
  have value : ∀ count : RefCount, count = 0 ↔ count.toNat = 0 := fun _ => UInt32.toNat_inj.symm
  rw [isProvided, Bool.or_eq_true_iff, bne_iff_ne, bne_iff_ne, ne_eq, ne_eq, value, value]
  omega

theorem isProvided_eq_false (provided : info.isProvided = false) :
    info.providers = 0 ∧ info.sufficients = 0 := by
  rwa [isProvided, Bool.or_eq_false_iff, bne_eq_false_iff_eq, bne_eq_false_iff_eq] at provided

/-- The sum of what provides for an account is zero only if there is nothing, unless it wraps. -/
theorem referenceCount_eq_zero_iff
    (fits : info.providers.toNat + info.sufficients.toNat < 4294967296) :
    info.referenceCount = 0 ↔ info.isProvided = false := by
  have sum : info.referenceCount.toNat = info.providers.toNat + info.sufficients.toNat :=
    (UInt32.toNat_add _ _).trans (Nat.mod_eq_of_lt fits)
  have provided := info.isProvided_iff
  rw [← UInt32.toNat_inj, sum, ← Bool.not_eq_true, provided]
  change _ = 0 ↔ _
  omega

/-! ### References -/

theorem withProvider_free (info : AccountInfo Number) : info.withProvider.2.free = info.free := by
  unfold withProvider
  cases info.isProvided <;> rfl

private theorem withProvider_nonce (info : AccountInfo Number) :
    info.withProvider.2.nonce = info.nonce := by
  unfold withProvider
  cases info.isProvided <;> rfl

private theorem withProvider_providers_ne_zero (info : AccountInfo Number) :
    info.withProvider.2.providers ≠ 0 := by
  unfold withProvider
  cases info.isProvided with
  | true => exact saturatingAdd_one_ne_zero info.providers
  | false =>
      have one : (1 : RefCount) ≠ 0 := by decide
      exact one

theorem withProvider_isProvided (info : AccountInfo Number) :
    info.withProvider.2.isProvided = true :=
  isProvided_of_providers (withProvider_providers_ne_zero info)

theorem withProvider_arrival (info : AccountInfo Number) :
    info.withProvider.1 = if info.isProvided = true then .existed else .created := by
  unfold withProvider
  cases info.isProvided <;> rfl

theorem withSufficient_of_provided
    (fits : info.providers.toNat + info.sufficients.toNat < 4294967296) :
    info.withSufficient = if info.isProvided = true then
      (.existed, { info with sufficients := Word.saturatingAdd info.sufficients 1 })
    else (.created, { info with sufficients := 1 }) := by
  unfold withSufficient
  cases provided : info.isProvided with
  | true =>
      rw [if_pos rfl, if_neg fun none => ?_]
      rw [(referenceCount_eq_zero_iff fits).mp none] at provided
      cases provided
  | false =>
      rw [if_pos ((referenceCount_eq_zero_iff fits).mpr provided)]
      rfl

theorem withSufficient_arrival
    (fits : info.providers.toNat + info.sufficients.toNat < 4294967296) :
    info.withSufficient.1 = if info.isProvided = true then .existed else .created := by
  rw [withSufficient_of_provided fits]
  cases info.isProvided <;> rfl

theorem withSufficient_isProvided (info : AccountInfo Number) :
    info.withSufficient.2.isProvided = true := by
  unfold withSufficient
  by_cases none : info.referenceCount = 0
  · rw [if_pos none]
    simp [isProvided]
  · have sufficient := saturatingAdd_one_ne_zero info.sufficients
    rw [if_neg none]
    simp [isProvided, sufficient]

theorem withProvider_providers (fits : info.providers.toNat + 1 < 4294967296) :
    info.withProvider.2.providers.toNat = info.providers.toNat + 1 := by
  unfold withProvider
  cases provided : info.isProvided with
  | true => exact toNat_saturatingAdd_one _ fits
  | false =>
      rw [(isProvided_eq_false provided).1]
      rfl

theorem withoutProvider_cases (info : AccountInfo Number) :
    info.withoutProvider = .error .consumerRemaining ∧ info.canLoseProvider = false ∨
      info.withoutProvider = .ok (.reaped, none) ∧ info.providers.toNat ≤ 1 ∧
        info.sufficients = 0 ∨
      ∃ rest, info.withoutProvider = .ok (.exists, some rest) ∧ rest.free = info.free ∧
        rest.providers.toNat = info.providers.toNat - 1 := by
  unfold withoutProvider
  dsimp only
  generalize counted : (if info.providers = 0 then (1 : RefCount) else info.providers) = count
  have value : count.toNat - 1 = info.providers.toNat - 1 ∧
      (count = 1 → info.providers.toNat ≤ 1) := by
    by_cases none : info.providers = 0
    · rw [if_pos none] at counted
      rw [← counted, none]
      decide
    · rw [if_neg none] at counted
      rw [counted]
      refine ⟨rfl, fun one => ?_⟩
      rw [one]
      decide
  by_cases needed : count = 1 ∧ 0 < info.consumers
  · left
    refine ⟨if_pos needed, ?_⟩
    have few := value.2 needed.1
    have some : info.consumers ≠ 0 := by
      have positive := UInt32.lt_iff_toNat_lt.mp needed.2
      intro zero
      rw [zero] at positive
      exact absurd positive (Nat.lt_irrefl _)
    have one : ¬(1 : RefCount) < info.providers := by
      rw [UInt32.lt_iff_toNat_lt]
      exact Nat.not_lt.mpr few
    simp [canLoseProvider, some, one]
  · right
    rw [if_neg needed]
    by_cases last : count = 1 ∧ info.sufficients = 0
    · left
      exact ⟨if_pos last, value.2 last.1, last.2⟩
    · right
      refine ⟨_, if_neg last, rfl, ?_⟩
      exact (toNat_saturatingSub_one count).trans value.1

/-- An account that goes on without a provider is still provided for, and all else in its record
stays. -/
theorem withoutProvider_exists {rest : AccountInfo Number}
    (lives : info.withoutProvider = .ok (.exists, some rest)) :
    rest = { info with providers := rest.providers } ∧ rest.isProvided = true := by
  unfold withoutProvider at lives
  dsimp only at lives
  generalize counted : (if info.providers = 0 then (1 : RefCount) else info.providers) = count
    at lives
  have some : count ≠ 0 := by
    rw [← counted]
    by_cases none : info.providers = 0
    · rw [if_pos none]
      decide
    · rwa [if_neg none]
  by_cases needed : count = 1 ∧ 0 < info.consumers
  · rw [if_pos needed] at lives
    cases lives
  rw [if_neg needed] at lives
  by_cases last : count = 1 ∧ info.sufficients = 0
  · rw [if_pos last] at lives
    cases lives
  rw [if_neg last] at lives
  cases lives
  refine ⟨rfl, ?_⟩
  by_cases one : count = 1
  · have sufficient : info.sufficients ≠ 0 := fun none => last ⟨one, none⟩
    simp [isProvided, sufficient]
  · have left : Word.saturatingSub count (1 : RefCount) ≠ 0 := by
      intro none
      have less := toNat_saturatingSub_one count
      rw [none] at less
      change 0 = _ at less
      have positive : count.toNat ≠ 0 := fun zero => some (UInt32.toNat_inj.mp zero)
      apply one
      apply UInt32.toNat_inj.mp
      change count.toNat = 1
      omega
    exact isProvided_of_providers left

variable [Word Number]

/-- The record after a provider has left it, or has been kept by what depends on the account. -/
def afterProvider (info : AccountInfo Number) : AccountInfo Number :=
  match info.withoutProvider with
  | .ok (_, rest) => rest.getD blank
  | .error _ => info

def afterSufficient (info : AccountInfo Number) : AccountInfo Number :=
  info.withoutSufficient.2.getD blank

private theorem afterProvider_free (none : info.free = 0) : (afterProvider info).free = 0 := by
  unfold afterProvider
  rcases withoutProvider_cases info with ⟨left, _⟩ | ⟨left, _⟩ | ⟨rest, left, free, _⟩
  · rw [left]
    exact none
  · rw [left]
    rfl
  · rw [left]
    exact free.trans none

private theorem afterProvider_nonce (info : AccountInfo Number) :
    (afterProvider info).nonce = info.nonce ∨ afterProvider info = blank := by
  unfold afterProvider
  rcases withoutProvider_cases info with ⟨left, _⟩ | ⟨left, _⟩ | ⟨rest, left, _⟩
  · rw [left]
    exact Or.inl rfl
  · rw [left]
    exact Or.inr rfl
  · have kept : rest.nonce = _ := congrArg AccountInfo.nonce (withoutProvider_exists left).1
    rw [left]
    exact Or.inl kept

omit [Word Number] in
theorem withoutProvider_of_canLose (loses : info.canLoseProvider = true) :
    ∃ outcome, info.withoutProvider = .ok outcome := by
  rcases withoutProvider_cases info with ⟨_, stays⟩ | ⟨left, _⟩ | ⟨rest, left, _⟩
  · rw [stays] at loses
    cases loses
  · exact ⟨_, left⟩
  · exact ⟨_, left⟩

omit [Word Number] in
theorem withoutProvider_refused (stays : info.canLoseProvider = false) :
    info.withoutProvider = .error .consumerRemaining := by
  rw [canLoseProvider, Bool.or_eq_false_iff, beq_eq_false_iff_ne, decide_eq_false_iff_not,
    UInt32.lt_iff_toNat_lt] at stays
  obtain ⟨depends, few⟩ := stays
  change ¬1 < info.providers.toNat at few
  have positive : 0 < info.consumers := by
    rw [UInt32.lt_iff_toNat_lt]
    exact Nat.pos_of_ne_zero fun none => depends (UInt32.toNat_inj.mp none)
  have one : (if info.providers = 0 then (1 : RefCount) else info.providers) = 1 := by
    by_cases none : info.providers = 0
    · exact if_pos none
    · rw [if_neg none]
      apply UInt32.toNat_inj.mp
      have some : info.providers.toNat ≠ 0 := fun zero => none (UInt32.toNat_inj.mp zero)
      change info.providers.toNat = 1
      omega
  unfold withoutProvider
  dsimp only
  rw [one, if_pos ⟨rfl, positive⟩]

private theorem afterProvider_providers {outcome : Departure × Option (AccountInfo Number)}
    (left : info.withoutProvider = .ok outcome) :
    (afterProvider info).providers.toNat = info.providers.toNat - 1 := by
  unfold afterProvider
  rcases withoutProvider_cases info with ⟨stays, _⟩ | ⟨reaped, few, _⟩ | ⟨rest, lives, _, less⟩
  · rw [stays] at left
    cases left
  · rw [reaped]
    change 0 = _
    omega
  · rw [lives]
    exact less

/-! ### Balances -/

/-- The record with another balance, which provides for the account unless it is zero. -/
def withFree (info : AccountInfo Number) (kept : Balance) : AccountInfo Number :=
  if info.free = 0 then
    if kept = 0 then info else { info.withProvider.2 with free := kept }
  else if kept = 0 then afterProvider { info with free := 0 }
  else { info with free := kept }

theorem withFree_free (info : AccountInfo Number) (kept : Balance) :
    (info.withFree kept).free = kept := by
  unfold withFree
  by_cases isNew : info.free = 0
  · rw [if_pos isNew]
    by_cases none : kept = 0
    · rw [if_pos none, isNew, none]
    · rw [if_neg none]
  · rw [if_neg isNew]
    by_cases none : kept = 0
    · rw [if_pos none, none]
      exact afterProvider_free rfl
    · rw [if_neg none]

/-- A balance that is given up may take the nonce with it; no other change of a balance does. -/
theorem withFree_nonce (info : AccountInfo Number) (kept : Balance) :
    (info.withFree kept).nonce = info.nonce ∨ info.withFree kept = blank ∧ kept = 0 := by
  unfold withFree
  by_cases isNew : info.free = 0
  · rw [if_pos isNew]
    left
    by_cases none : kept = 0
    · rw [if_pos none]
    · rw [if_neg none]
      exact withProvider_nonce info
  · rw [if_neg isNew]
    by_cases none : kept = 0
    · rw [if_pos none]
      exact (afterProvider_nonce _).imp id fun gone => ⟨gone, none⟩
    · rw [if_neg none]
      exact Or.inl rfl

/-- Nothing depends on an account, and nothing lets it exist for purposes of its own. -/
structure Unreferenced (info : AccountInfo Number) : Prop where
  consumers : info.consumers = 0
  sufficients : info.sufficients = 0

theorem blank_unreferenced : (blank : AccountInfo Number).Unreferenced := ⟨rfl, rfl⟩

omit [Word Number] in
private theorem withProvider_unreferenced (unreferenced : info.Unreferenced) :
    info.withProvider.2.Unreferenced := by
  unfold withProvider
  cases info.isProvided with
  | true => exact ⟨unreferenced.consumers, unreferenced.sufficients⟩
  | false => exact ⟨unreferenced.consumers, unreferenced.sufficients⟩

private theorem afterProvider_unreferenced (unreferenced : info.Unreferenced) :
    (afterProvider info).Unreferenced := by
  unfold afterProvider
  rcases withoutProvider_cases info with ⟨left, _⟩ | ⟨left, _⟩ | ⟨rest, left, _⟩
  · rw [left]
    exact unreferenced
  · rw [left]
    exact blank_unreferenced
  · have same := (withoutProvider_exists left).1
    have consumers : rest.consumers = _ := congrArg AccountInfo.consumers same
    have sufficients : rest.sufficients = _ := congrArg AccountInfo.sufficients same
    rw [left]
    exact ⟨consumers.trans unreferenced.consumers, sufficients.trans unreferenced.sufficients⟩

/-- A balance does not refer to its account in any other way than as a provider. -/
theorem withFree_unreferenced (unreferenced : info.Unreferenced) (kept : Balance) :
    (info.withFree kept).Unreferenced := by
  have emptied : ({ info with free := kept } : AccountInfo Number).Unreferenced :=
    ⟨unreferenced.consumers, unreferenced.sufficients⟩
  unfold withFree
  by_cases isNew : info.free = 0
  · rw [if_pos isNew]
    by_cases none : kept = 0
    · rw [if_pos none]
      exact unreferenced
    · rw [if_neg none]
      have gained := withProvider_unreferenced unreferenced
      exact ⟨gained.consumers, gained.sufficients⟩
  · rw [if_neg isNew]
    by_cases none : kept = 0
    · rw [if_pos none, ← none]
      exact afterProvider_unreferenced emptied
    · rw [if_neg none]
      exact emptied

def providing (free : Balance) : Nat := if free = 0 then 0 else 1

theorem providing_le_one (free : Balance) : providing free ≤ 1 := by
  unfold providing
  split
  · exact Nat.zero_le 1
  · exact Nat.le_refl 1

theorem withFree_providers {kept : Balance} {others : Nat}
    (counts : info.providers.toNat = others + providing info.free)
    (loses : info.free ≠ 0 → kept = 0 → info.canLoseProvider = true)
    (fits : others + providing kept < 4294967296) :
    (info.withFree kept).providers.toNat = others + providing kept := by
  unfold withFree
  by_cases isNew : info.free = 0
  · rw [if_pos isNew]
    by_cases none : kept = 0
    · rw [if_pos none, none, counts, isNew]
    · rw [if_neg none]
      have few : info.providers.toNat = others := by
        rw [counts, providing, if_pos isNew, Nat.add_zero]
      rw [providing, if_neg none] at fits ⊢
      have room : info.providers.toNat + 1 < 4294967296 := by omega
      have more := withProvider_providers room
      change info.withProvider.2.providers.toNat = _
      omega
  · rw [if_neg isNew]
    by_cases none : kept = 0
    · rw [if_pos none]
      obtain ⟨outcome, leaves⟩ : ∃ outcome,
          ({ info with free := 0 } : AccountInfo Number).withoutProvider = .ok outcome :=
        withoutProvider_of_canLose (loses isNew none)
      have less := afterProvider_providers leaves
      rw [providing, if_neg isNew] at counts
      rw [less, providing, if_pos none]
      change info.providers.toNat - 1 = _
      omega
    · rw [if_neg none]
      change info.providers.toNat = _
      rw [counts, providing, providing, if_neg none, if_neg isNew]

/-! ### What depends on an account -/

/-- What something depends on has a provider. -/
def Carried (info : AccountInfo Number) : Prop := 0 < info.consumers → 0 < info.providers

section

omit [Word Number]

theorem Carried.isProvided (carried : info.Carried) (depends : 0 < info.consumers) :
    info.isProvided = true :=
  isProvided_of_providers (UInt32.pos_iff_ne_zero.mp (carried depends))

theorem Carried.none_depends (carried : info.Carried) (providers : info.providers = 0) :
    info.consumers = 0 := by
  apply Decidable.byContradiction
  intro depends
  exact UInt32.pos_iff_ne_zero.mp (carried (UInt32.pos_iff_ne_zero.mpr depends)) providers

theorem Carried.withoutProvider (carried : info.Carried) (provided : info.isProvided = false) :
    info.withoutProvider = .ok (.reaped, none) := by
  obtain ⟨providers, sufficients⟩ := isProvided_eq_false provided
  unfold AccountInfo.withoutProvider
  rw [providers, sufficients, carried.none_depends providers]
  rfl

theorem Carried.stays (carried : info.Carried) :
    info.canLoseProvider = false ↔ info.providers.toNat = 1 ∧ 0 < info.consumers.toNat := by
  have few : info.providers ≤ 1 ↔ info.providers.toNat ≤ 1 := UInt32.le_iff_toNat_le
  have depends : info.consumers ≠ 0 ↔ 0 < info.consumers.toNat :=
    UInt32.pos_iff_ne_zero.symm.trans UInt32.lt_iff_toNat_lt
  have least : 0 < info.consumers.toNat → 0 < info.providers.toNat := carried
  rw [canLoseProvider, Bool.or_eq_false_iff, beq_eq_false_iff_ne, decide_eq_false_iff_not,
    UInt32.not_lt, few, depends]
  omega

theorem withConsumer_cases (info : AccountInfo Number) :
    0 < info.providers ∧ info.withConsumer =
        .ok { info with consumers := Word.saturatingAdd info.consumers 1 } ∨
      info.providers = 0 ∧ info.withConsumer = .error .noProviders := by
  unfold withConsumer
  by_cases positive : 0 < info.providers
  · exact Or.inl ⟨positive, if_pos positive⟩
  · refine Or.inr ⟨?_, if_neg positive⟩
    rwa [UInt32.pos_iff_ne_zero, Decidable.not_not] at positive

theorem withoutSufficient_cases (info : AccountInfo Number) :
    info.withoutSufficient = (.reaped, none) ∧ info.sufficients.toNat ≤ 1 ∧ info.providers = 0 ∨
      ∃ rest, info.withoutSufficient = (.exists, some rest) ∧ info.isProvided = true ∧
        rest.isProvided = true ∧
        rest = { info with sufficients := Word.saturatingSub info.sufficients 1 } := by
  unfold withoutSufficient
  by_cases last : info.sufficients ≤ 1 ∧ info.providers = 0
  · exact Or.inl ⟨if_pos last, UInt32.le_iff_toNat_le.mp last.1, last.2⟩
  · refine Or.inr ⟨_, if_neg last, ?_, ?_, rfl⟩
    · cases provided : info.isProvided with
      | true => rfl
      | false =>
          obtain ⟨providers, sufficients⟩ := isProvided_eq_false provided
          rw [sufficients, providers] at last
          exact absurd last (by decide)
    · by_cases none : info.providers = 0
      · have many : ¬info.sufficients ≤ 1 := fun few => last ⟨few, none⟩
        rw [UInt32.not_le, UInt32.lt_iff_toNat_lt] at many
        change 1 < info.sufficients.toNat at many
        rw [isProvided_iff]
        dsimp only
        rw [toNat_saturatingSub_one]
        omega
      · exact isProvided_of_providers none

end

end StateTransition.AccountInfo
