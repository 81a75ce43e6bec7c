import StateTransition.Proofs.Era

set_option autoImplicit false

/-! The windows of an era. The numbers from its phase on are cut into windows as long as its period;
every number is in the window that begins at its birth, and in no other. -/

namespace StateTransition.Era

structure Regular (period phase : UInt64) : Prop where
  power : ∃ exponent, period.toNat = 2 ^ exponent
  least : 4 ≤ period.toNat
  most : period.toNat ≤ 65536
  within : phase < period
  stepped : max (period.toNat / 4096) 1 ∣ phase.toNat

/-- From `birth` up to `death` it is the era of `block`, and nowhere else. -/
structure Spans (period phase block birth death : UInt64) : Prop where
  begins : (Era.mortal period phase).birth? block = some birth
  ends : (Era.mortal period phase).death? block = some death
  phased : birth.toNat % period.toNat = phase.toNat
  begun : birth ≤ block
  living : block < death
  whole : ∀ other, phase ≤ other →
    ((birth ≤ other ∧ other < death) ↔ (Era.mortal period phase).birth? other = some birth)

variable {period phase block other step : Nat}

/-! ### Windows of numbers -/

private theorem firstOf_of_reached (reached : phase ≤ block) :
    firstOf period phase block = (block - phase) / period * period + phase := by
  rw [firstOf, Nat.max_eq_left reached]

private theorem firstOf_begun (reached : phase ≤ block) : firstOf period phase block ≤ block := by
  have bound := firstOf_le period phase block
  rwa [Nat.max_eq_left reached] at bound

private theorem firstOf_living (positive : 0 < period) (reached : phase ≤ block) :
    block < firstOf period phase block + period := by
  have behind := Nat.lt_mul_div_succ (block - phase) positive
  rw [Nat.mul_add, Nat.mul_one, Nat.mul_comm] at behind
  rw [firstOf_of_reached reached]
  omega

private theorem firstOf_mod (within : phase < period) :
    firstOf period phase block % period = phase := by
  rw [firstOf, Nat.mul_add_mod_self_right, Nat.mod_eq_of_lt within]

private theorem firstOf_eq_iff (within : phase < period) (reached : phase ≤ other) :
    firstOf period phase block ≤ other ∧ other < firstOf period phase block + period ↔
      firstOf period phase other = firstOf period phase block := by
  constructor
  · rintro ⟨begun, living⟩
    have same := firstOf_within begun living
    rwa [firstOf_mod within] at same
  · intro same
    rw [← same]
    exact ⟨firstOf_begun reached, firstOf_living (Nat.zero_lt_of_lt within) reached⟩

private theorem firstOf_near (positive : 0 < period) (stepPositive : 0 < step) :
    block - firstOf period (block % period / step * step) block < step := by
  have parts := Nat.div_add_mod block period
  have steps := Nat.div_add_mod (block % period) step
  have rest := Nat.mod_lt (block % period) stepPositive
  have inside := Nat.mod_lt block positive
  have phased : block % period / step * step = block % period - block % period % step := by
    rw [Nat.mul_comm]
    omega
  have lessened := Nat.mod_le (block % period) step
  have whole : (block - block % period / step * step) / period = block / period := by
    have split : block - block % period / step * step =
        block % period % step + period * (block / period) := by omega
    rw [split, Nat.add_mul_div_left _ _ positive, Nat.div_eq_of_lt (by omega), Nat.zero_add]
  rw [firstOf_of_reached (by omega), whole, Nat.mul_comm]
  omega

/-! ### Eras that can be written -/

private theorem Fits.regular {exponent steps : Nat} (fits : Fits exponent steps) :
    Regular (UInt64.ofNat (periodOf exponent))
      (UInt64.ofNat (steps * phaseStep (periodOf exponent))) := by
  obtain ⟨least, most, _⟩ := periodOf_spec exponent fits.bounded fits.positive
  have periodValue := fits.toNat_period
  have phaseValue := fits.toNat_phase
  constructor
  · rw [periodValue, periodOf, Nat.one_shiftLeft]
    exact ⟨_, rfl⟩
  · rw [periodValue]
    exact least
  · rw [periodValue]
    exact most
  · rw [UInt64.lt_iff_toNat_lt, periodValue, phaseValue]
    exact fits.within
  · rw [periodValue, phaseValue]
    exact Nat.dvd_mul_left _ _

/-- Whatever is asked for, the era around a block can be written, and its phase is the place of the
block in the period, rounded down to a step. -/
theorem around_regular (rough current : UInt64) : ∃ period phase,
    around rough current = .mortal period phase ∧ Regular period phase ∧
      phase.toNat = current.toNat % period.toNat / max (period.toNat / 4096) 1 *
        max (period.toNat / 4096) 1 := by
  obtain ⟨exponent, positive, bounded, rounded⟩ := rounded_eq rough.toNat
  obtain ⟨least, most, _⟩ := periodOf_spec exponent bounded positive
  have wide : 0 < periodOf exponent := Nat.lt_of_lt_of_le (by decide) least
  have fits : Fits exponent
      (current.toNat % periodOf exponent / phaseStep (periodOf exponent)) :=
    { positive, bounded
      within := Nat.lt_of_le_of_lt (Nat.div_mul_le_self _ _) (Nat.mod_lt _ wide) }
  refine ⟨_, _, ?_, fits.regular, ?_⟩
  · unfold around
    rw [rounded]
  · rw [fits.toNat_period, fits.toNat_phase]
    rfl

theorem around_birth {rough current period phase : UInt64} (regular : Regular period phase)
    (made : around rough current = .mortal period phase)
    (phased : phase.toNat = current.toNat % period.toNat / max (period.toNat / 4096) 1 *
      max (period.toNat / 4096) 1) :
    ∃ birth, (around rough current).birth? current = some birth ∧ birth ≤ current ∧
      current.toNat < birth.toNat + period.toNat ∧
      current.toNat - birth.toNat < max (period.toNat / 4096) 1 := by
  have positive : 0 < period.toNat := Nat.lt_of_lt_of_le (by decide) regular.least
  obtain ⟨birth, born, value⟩ := birth?_mortal positive phase current
  have reached : phase.toNat ≤ current.toNat := by
    rw [phased]
    exact Nat.le_trans (Nat.div_mul_le_self _ _) (Nat.mod_le _ _)
  refine ⟨birth, by rw [made, born], ?_, ?_, ?_⟩
  · rw [UInt64.le_iff_toNat_le, value]
    exact firstOf_begun reached
  · rw [value]
    exact firstOf_living positive reached
  · rw [value, phased]
    exact firstOf_near positive (by omega)

theorem Regular.spans {period phase block : UInt64} (regular : Regular period phase)
    (reached : phase ≤ block) : ∃ birth, (Era.mortal period phase).birth? block = some birth ∧
      (birth.toNat + period.toNat < 18446744073709551616 →
        ∃ death, Spans period phase block birth death) := by
  have positive : 0 < period.toNat := Nat.lt_of_lt_of_le (by decide) regular.least
  have within := UInt64.lt_iff_toNat_lt.mp regular.within
  have reachedValue := UInt64.le_iff_toNat_le.mp reached
  obtain ⟨birth, born, value⟩ := birth?_mortal positive phase block
  refine ⟨birth, born, fun room => ⟨birth + period, ?_⟩⟩
  have death : (birth + period).toNat = birth.toNat + period.toNat := by
    rw [UInt64.toNat_add]
    exact Nat.mod_eq_of_lt room
  constructor
  · exact born
  · change ((Era.mortal period phase).birth? block).map (· + period) = _
    rw [born]
    rfl
  · rw [value]
    exact firstOf_mod within
  · rw [UInt64.le_iff_toNat_le, value]
    exact firstOf_begun reachedValue
  · rw [UInt64.lt_iff_toNat_lt, death, value]
    exact firstOf_living positive reachedValue
  · intro other otherReached
    obtain ⟨otherBirth, otherBorn, otherValue⟩ := birth?_mortal positive phase other
    have same : firstOf period.toNat phase.toNat block.toNat ≤ other.toNat ∧
          other.toNat < firstOf period.toNat phase.toNat block.toNat + period.toNat ↔ _ :=
      firstOf_eq_iff within (UInt64.le_iff_toNat_le.mp otherReached)
    rw [← value, ← otherValue] at same
    rw [UInt64.le_iff_toNat_le, UInt64.lt_iff_toNat_lt, death, same, otherBorn, Option.some.injEq,
      UInt64.toNat_inj]

theorem regular_of_made {era : Era} (made : era.Made) :
    era = .immortal ∨ ∃ period phase, Regular period phase ∧ era = .mortal period phase := by
  rcases (made_iff era).mp made with immortal | ⟨exponent, steps, fits, stepped⟩
  · exact Or.inl immortal
  · exact Or.inr ⟨_, _, fits.regular, stepped⟩

/-- The era around a block can be written, is read back and was born shortly before; its windows cut
the numbers from its phase on into parts; and nothing is read but what is written. -/
theorem windows_partition :
    (∀ rough current : UInt64, ∃ period phase birth : UInt64,
      around rough current = .mortal period phase ∧ Regular period phase ∧
        (∀ rest, codec.decode (codec.encode (around rough current) ++ rest) =
          .ok (around rough current, rest)) ∧
        (around rough current).birth? current = some birth ∧ birth ≤ current ∧
        current.toNat < birth.toNat + period.toNat ∧
        current.toNat - birth.toNat < max (period.toNat / 4096) 1) ∧
    (∀ period phase block : UInt64, Regular period phase → phase ≤ block →
      ∃ birth, (Era.mortal period phase).birth? block = some birth ∧
        (birth.toNat + period.toNat < 18446744073709551616 →
          ∃ death, Spans period phase block birth death)) ∧
    ∀ bytes era rest, codec.decode bytes = .ok (era, rest) →
      bytes = codec.encode era ++ rest ∧
        (era = .immortal ∨ ∃ period phase, Regular period phase ∧ era = .mortal period phase) := by
  refine ⟨?_, fun period phase block regular reached => regular.spans reached, ?_⟩
  · intro rough current
    obtain ⟨period, phase, made, regular, phased⟩ := around_regular rough current
    obtain ⟨birth, born, begun, living, near⟩ := around_birth regular made phased
    have written : (around rough current).Made := Or.inr ⟨rough, current, rfl⟩
    exact ⟨period, phase, birth, made, regular,
      fun rest => codec_faithful.decode_encode _ rest written, born, begun, living, near⟩
  · intro bytes era rest decoded
    obtain ⟨made, written⟩ := codec_faithful.encode_of_decode bytes era rest decoded
    exact ⟨written, regular_of_made made⟩

/-- A long period has a coarse phase, so that the era begins one block before the one it was made
around. -/
theorem windows_partition_long :
    around 1000000 1000001 = .mortal 65536 16960 ∧ Regular 65536 16960 ∧
      Spans 65536 16960 1000001 1000000 1065536 ∧
      codec.decode [79, 66, 7] = .ok (.mortal 65536 16960, [7]) ∧
      ([79, 66, 7] : Bytes) = codec.encode (.mortal 65536 16960) ++ [7] := by
  obtain ⟨makes, spans, reads⟩ := windows_partition
  have made : around 1000000 1000001 = .mortal 65536 16960 := rfl
  have decoded : codec.decode [79, 66, 7] = .ok (.mortal 65536 16960, [7]) := rfl
  obtain ⟨period, phase, _, around_eq, regular, _⟩ := makes 1000000 1000001
  cases made.symm.trans around_eq
  obtain ⟨birth, born, spanned⟩ := spans 65536 16960 1000001 regular (by decide)
  have first : (Era.mortal 65536 16960).birth? 1000001 = some 1000000 := rfl
  cases first.symm.trans born
  obtain ⟨death, window⟩ := spanned (by decide)
  have last : (Era.mortal 65536 16960).death? 1000001 = some 1065536 := rfl
  cases last.symm.trans window.ends
  exact ⟨made, regular, window, decoded, (reads _ _ _ decoded).1⟩

end StateTransition.Era
