import StateTransition.Proofs.Chain.Window
import StateTransition.Proofs.Codec.Compact
import StateTransition.Proofs.Era

set_option autoImplicit false

/-! The life of mortal transactions. A transaction is signed for the hash of the block in which its era
begins. A chain that remembers the hashes of a whole period knows that hash for as long as the era
goes on, and in no block before or after. -/

namespace StateTransition.Rules

variable {Account Number : Type} [Word Number]
variable {rules : Rules Account Number} {parents : Nat → Hash} {height : Nat}
variable {before during : Store}

private theorem toNat_converted (narrow : Word.width Number ≤ 8) (number : Number) :
    (Word.convert number : UInt64).toNat = Word.toNat number := by
  have fits : Word.toNat number < Bytes.span (Word.width UInt64) :=
    Nat.lt_of_lt_of_le (Word.toNat_lt number) (Bytes.span_le_span narrow)
  have value : Word.toNat (Word.convert number : UInt64) = Word.toNat number :=
    Word.toNat_clamp_of_lt fits
  exact value

private theorem birthHash_recorded (rules : Rules Account Number) {kept : Nat → Prop} {era : Era}
    {birth : UInt64} (records : Records Number kept parents during)
    (born : era.birth? (Word.convert (Environment.number during : Number)) = some birth)
    (fits : birth.toNat < Bytes.span (Word.width Number)) :
    (kept birth.toNat → rules.birthHash era during = .ok (.ok (parents birth.toNat))) ∧
      (¬kept birth.toNat →
        rules.birthHash era during = .ok (.error (.invalid .ancientBirthBlock))) := by
  have value : Word.toNat (Word.convert birth : Number) = birth.toNat := Word.toNat_clamp_of_lt fits
  have present := records.exists?_iff (Word.convert birth : Number)
  rw [value] at present
  unfold birthHash
  rw [born]
  dsimp only
  constructor
  · intro held
    have stored := records.stored? (value ▸ held : kept (Word.toNat (Word.convert birth : Number)))
    rw [if_pos (present.mpr held), Slot.get, stored, value]
    rfl
  · intro missing
    rw [if_neg fun found => missing (present.mp found)]

/-- A store in which the block of a height is being built on the blocks before it. -/
inductive Building (rules : Rules Account Number) (parents : Nat → Hash) : Nat → Store → Prop where
  | block {height : Nat} {before during : Store} (grown : rules.Grown parents height before)
      (room : height + 1 < Bytes.span (Word.width Number))
      (underway : rules.Underway (height + 1) (parents height) before during) :
      Building rules parents (height + 1) during

namespace Building

variable (building : rules.Building parents height during)
variable (narrow : Word.width Number ≤ 8)

include building

theorem records : Records Number (fun number => number + 1 = height ∨ rules.Keeps (height - 1) number)
    parents during := by
  cases building with
  | block grown room underway =>
      exact (underway.records room grown.records).retold (fun _ => by simp) fun _ _ => rfl

include narrow

theorem current : 0 < height ∧
    (Word.convert (Environment.number during : Number) : UInt64).toNat = height := by
  cases building with
  | block grown room underway =>
      refine ⟨Nat.succ_pos _, ?_⟩
      rw [toNat_converted narrow, underway.number, Word.toNat_clamp_of_lt room]

variable {rough first period phase : UInt64}

/-- Among numbers of 32 bits the end of an era can always be counted in 64. -/
theorem ends_early (fine : period.toNat ≤ 4096) (begun : first.toNat ≤ height)
    (early : Word.width Number ≤ 4 ∨ first.toNat + period.toNat < 18446744073709551616) :
    first.toNat + period.toNat < 18446744073709551616 := by
  rcases early with small | early
  · have current := (building.current narrow).2
    rw [toNat_converted narrow] at current
    have number : Word.toNat (Environment.number during : Number) < Bytes.span 4 :=
      Nat.lt_of_lt_of_le (Word.toNat_lt _) (Bytes.span_le_span small)
    have span : Bytes.span 4 = 4294967296 := by decide
    omega
  · exact early

variable (made : Era.around rough first = .mortal period phase) (fine : period.toNat ≤ 4096)

include made fine

theorem born : ∃ birth, (Era.mortal period phase).birth?
      (Word.convert (Environment.number during : Number)) = some birth ∧
    birth.toNat = Era.firstOf period.toNat (first.toNat % period.toNat) height := by
  obtain ⟨positive, phased⟩ := Era.around_fine made fine
  obtain ⟨birth, born, value⟩ := Era.birth?_mortal positive phase
    (Word.convert (Environment.number during : Number))
  rw [phased, (building.current narrow).2] at value
  exact ⟨birth, born, value⟩

theorem longevity (begun : first.toNat ≤ height) (living : height < first.toNat + period.toNat)
    (early : Word.width Number ≤ 4 ∨ first.toNat + period.toNat < 18446744073709551616)
    (terms : Terms Number) (aged : terms.era = .mortal period phase) (who : Account)
    (info : DispatchInfo) (length : Nat) :
    rules.validateCheck terms who info length .mortality during =
      .ok (.ok { ValidTransaction.neutral with
        longevity := UInt64.ofNat (first.toNat + period.toNat - height) }) := by
  obtain ⟨birth, born, value⟩ := building.born narrow made fine
  obtain ⟨_, current⟩ := building.current narrow
  rw [Era.firstOf_within begun living] at value
  have death : (birth + period).toNat = first.toNat + period.toNat := by
    rw [UInt64.toNat_add, value]
    exact Nat.mod_eq_of_lt (building.ends_early narrow fine begun early)
  have left : Word.saturatingSub (birth + period)
      (Word.convert (Environment.number during : Number) : UInt64) =
        UInt64.ofNat (first.toNat + period.toNat - height) := by
    apply UInt64.toNat_inj.mp
    have rest := Word.toNat_saturatingSub (birth + period)
      (Word.convert (Environment.number during : Number) : UInt64)
    change (Word.saturatingSub _ _ : UInt64).toNat = UInt64.toNat _ - UInt64.toNat _ at rest
    rw [rest, death, current, UInt64.toNat_ofNat', Nat.mod_eq_of_lt (by omega)]
  unfold validateCheck
  dsimp only
  rw [aged, Era.death?, born]
  dsimp only [Option.map_some]
  rw [left]

variable (remembered : period.toNat ≤ Word.toNat rules.hashCount)

include remembered

theorem resolves : ∃ birth, (Era.mortal period phase).birth?
      (Word.convert (Environment.number during : Number)) = some birth ∧
    Word.toNat (Word.convert birth : Number) = birth.toNat ∧
    birth.toNat = Era.firstOf period.toNat (first.toNat % period.toNat) height ∧
    (birth.toNat + 1 = height ∨ rules.Keeps (height - 1) birth.toNat →
      rules.birthHash (.mortal period phase) during = .ok (.ok (parents birth.toNat))) ∧
    (¬(birth.toNat + 1 = height ∨ rules.Keeps (height - 1) birth.toNat) →
      rules.birthHash (.mortal period phase) during =
        .ok (.error (.invalid .ancientBirthBlock))) := by
  obtain ⟨birth, born, value⟩ := building.born narrow made fine
  obtain ⟨positive, _⟩ := Era.around_fine made fine
  have near := Era.firstOf_le period.toNat (first.toNat % period.toNat) height
  have below := Nat.mod_lt first.toNat positive
  have count := Word.toNat_lt rules.hashCount
  have number := Word.toNat_lt (Environment.number during : Number)
  have current := (building.current narrow).2
  rw [toNat_converted narrow] at current
  -- The phase is less than the period, and the period is itself a count of blocks.
  have fits : birth.toNat < Bytes.span (Word.width Number) := by omega
  have read := birthHash_recorded rules building.records born fits
  exact ⟨birth, born, Word.toNat_clamp_of_lt fits, value, read⟩

/-- An era around a block, of a period that the chain remembers and that needs no rounding, begins
with that block. For as long as it goes on the hash of the block is found, and how long it still
goes on is told to the pool, if its end can be counted. At the block itself, and in all blocks
outside of the era, its hash is not what is found. -/
theorem mortality :
    (first.toNat < height → height < first.toNat + period.toNat →
      rules.birthHash (.mortal period phase) during = .ok (.ok (parents first.toNat))) ∧
    (height = first.toNat →
      rules.birthHash (.mortal period phase) during = .ok (.error (.invalid .ancientBirthBlock))) ∧
    (height < first.toNat ∨ first.toNat + period.toNat ≤ height →
      (∃ birth, (Era.mortal period phase).birth?
          (Word.convert (Environment.number during : Number)) = some birth ∧
        Word.toNat (Word.convert birth : Number) ≠ first.toNat) ∨
      rules.birthHash (.mortal period phase) during = .ok (.error (.invalid .ancientBirthBlock))) ∧
    (first.toNat ≤ height → height < first.toNat + period.toNat →
      (Word.width Number ≤ 4 ∨ first.toNat + period.toNat < 18446744073709551616) →
      ∀ terms : Terms Number, terms.era = .mortal period phase →
      ∀ (who : Account) (info : DispatchInfo) (length : Nat),
        rules.validateCheck terms who info length .mortality during =
          .ok (.ok { ValidTransaction.neutral with
            longevity := UInt64.ofNat (first.toNat + period.toNat - height) })) := by
  obtain ⟨birth, born, exactly, value, found, missing⟩ :=
    building.resolves narrow made fine remembered
  obtain ⟨positive, _⟩ := Era.around_fine made fine
  obtain ⟨later, _⟩ := building.current narrow
  refine ⟨fun begun living => ?_, fun same => ?_, fun outside => ?_,
    fun begun living early terms aged => building.longevity narrow made fine begun living early terms aged⟩
  · rw [Era.firstOf_within (Nat.le_of_lt begun) living] at value
    rw [← value]
    apply found
    unfold Keeps
    omega
  · rw [Era.firstOf_within (Nat.le_of_eq same.symm) (by omega)] at value
    apply missing
    unfold Keeps
    omega
  · by_cases same : birth.toNat = first.toNat
    · right
      apply missing
      rcases outside with early | late
      · unfold Keeps
        omega
      · have beyond := Era.firstOf_beyond positive late
        omega
    · exact Or.inl ⟨birth, born, exactly ▸ same⟩

end Building

/-- A memory of four blocks knows the second block while the fourth is built, in an era of four
blocks. -/
theorem Building.mortality_fourth :
    let rules : Rules AccountId Testnet.Number := { Testnet.rules with hashCount := 4 }
    let parents := fun height => Octets.filled 32 (UInt8.ofNat height)
    let during := Environment.setUp (3 : Testnet.Number) (parents 2) [] (rules.emptyBlocks parents 2)
    (rules.Building parents 3 during ∧ Word.width Testnet.Number ≤ 8 ∧
      Era.around 3 1 = .mortal 4 1 ∧ (4 : UInt64).toNat ≤ 4096 ∧
      (4 : UInt64).toNat ≤ Word.toNat rules.hashCount) ∧
      rules.birthHash (.mortal 4 1) during = .ok (.ok (parents 1)) ∧
      rules.birthHash (.mortal 4 3) during = .ok (.error (.invalid .ancientBirthBlock)) ∧
      rules.validateCheck ⟨.mortal 4 1, 0, 0⟩ (Octets.filled 32 7) ⟨.zero, .normal, .yes⟩ 0 .mortality
        during = .ok (.ok { ValidTransaction.neutral with longevity := 2 }) := by
  intro rules parents during
  have building : rules.Building parents 3 during :=
    .block (emptyBlocks_grown parents (by decide)) (by decide) ⟨[], fun _ _ => rfl⟩
  have atSecond : Era.around 3 1 = .mortal 4 1 := by decide
  have atFourth : Era.around 3 3 = .mortal 4 3 := by decide
  have second := building.mortality (by decide) atSecond (by decide) (by decide)
  have fourth := building.mortality (by decide) atFourth (by decide) (by decide)
  refine ⟨⟨building, by decide, atSecond, by decide, by decide⟩,
    second.1 (by decide) (by decide), fourth.2.1 (by decide), ?_⟩
  exact second.2.2.2 (by decide) (by decide) (Or.inl (by decide)) _ rfl _ _ _

end StateTransition.Rules
