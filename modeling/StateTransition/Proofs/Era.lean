import Mathlib.Algebra.GroupWithZero.Nat
import StateTransition.Era
import StateTransition.Proofs.Codec

set_option autoImplicit false

/-! The eras that can be written are the immortal one and those around some block; they are read back,
and nothing else is read. -/

namespace StateTransition.Era

/-- An era as it is made: without an end, or around a block. -/
def Made (era : Era) : Prop :=
  era = .immortal ∨ ∃ period current : UInt64, era = around period current

/-! ### Periods and phases -/

def periodOf (exponent : Nat) : Nat := 1 <<< (exponent + 1)

/-- The mortal era of that exponent whose phase is so many steps. -/
def stepped (exponent steps : Nat) : Era :=
  .mortal (UInt64.ofNat (periodOf exponent))
    (UInt64.ofNat (steps * phaseStep (periodOf exponent)))

structure Fits (exponent steps : Nat) : Prop where
  positive : 1 ≤ exponent
  bounded : exponent ≤ 15
  within : steps * phaseStep (periodOf exponent) < periodOf exponent

theorem periodOf_spec : ∀ exponent ≤ 15, 1 ≤ exponent →
    leastPeriod ≤ periodOf exponent ∧ periodOf exponent ≤ mostPeriod ∧
      powerAtLeast (periodOf exponent) = periodOf exponent ∧
      twos 64 (periodOf exponent) = exponent + 1 ∧
      periodOf exponent ≤ 4096 * phaseStep (periodOf exponent) := by
  decide

theorem phaseStep_pos (period : Nat) : 0 < phaseStep period := by
  unfold phaseStep
  omega

variable {exponent steps : Nat}

theorem Fits.steps_lt (fits : Fits exponent steps) : steps < 4096 := by
  obtain ⟨_, _, _, _, coarse⟩ := periodOf_spec exponent fits.bounded fits.positive
  exact Nat.lt_of_mul_lt_mul_right (Nat.lt_of_lt_of_le fits.within coarse)

theorem toNat_ofNat_of_le {value : Nat} (small : value ≤ mostPeriod) :
    (UInt64.ofNat value).toNat = value := by
  rw [UInt64.toNat_ofNat']
  exact Nat.mod_eq_of_lt (Nat.lt_of_le_of_lt small (by decide))

theorem Fits.toNat_period (fits : Fits exponent steps) :
    (UInt64.ofNat (periodOf exponent)).toNat = periodOf exponent := by
  obtain ⟨_, most, _⟩ := periodOf_spec exponent fits.bounded fits.positive
  exact toNat_ofNat_of_le most

theorem Fits.toNat_phase (fits : Fits exponent steps) :
    (UInt64.ofNat (steps * phaseStep (periodOf exponent))).toNat =
      steps * phaseStep (periodOf exponent) := by
  obtain ⟨_, most, _⟩ := periodOf_spec exponent fits.bounded fits.positive
  exact toNat_ofNat_of_le (Nat.le_trans (Nat.le_of_lt fits.within) most)

theorem powerAtLeast_eq (value : Nat) : ∃ exponent, powerAtLeast value = 2 ^ exponent := by
  unfold powerAtLeast
  by_cases small : value ≤ 1
  · exact ⟨0, if_pos small⟩
  · rw [if_neg small, Nat.one_shiftLeft]
    exact ⟨_, rfl⟩

theorem rounded_eq (value : Nat) : ∃ exponent, 1 ≤ exponent ∧ exponent ≤ 15 ∧
    min (max (powerAtLeast value) leastPeriod) mostPeriod = periodOf exponent := by
  obtain ⟨power, same⟩ := powerAtLeast_eq value
  rw [same]
  unfold periodOf leastPeriod mostPeriod
  rcases Nat.lt_or_ge power 2 with low | enough
  · have below : 2 ^ power ≤ 2 ^ 2 := Nat.pow_le_pow_right (by decide) (by omega)
    refine ⟨1, by decide, by decide, ?_⟩
    rw [Nat.one_shiftLeft]
    omega
  rcases Nat.lt_or_ge 16 power with high | few
  · have above : 2 ^ 16 ≤ 2 ^ power := Nat.pow_le_pow_right (by decide) (by omega)
    refine ⟨15, by decide, by decide, ?_⟩
    rw [Nat.one_shiftLeft]
    omega
  · have above : 2 ^ 2 ≤ 2 ^ power := Nat.pow_le_pow_right (by decide) enough
    have below : 2 ^ power ≤ 2 ^ 16 := Nat.pow_le_pow_right (by decide) few
    refine ⟨power - 1, by omega, by omega, ?_⟩
    rw [Nat.one_shiftLeft, Nat.sub_add_cancel (by omega)]
    omega

/-! ### Eras around a block -/

theorem around_eq_stepped (period current : UInt64) :
    ∃ exponent steps, Fits exponent steps ∧ around period current = stepped exponent steps := by
  obtain ⟨exponent, positive, bounded, rounded⟩ := rounded_eq period.toNat
  have wide : 0 < periodOf exponent := by
    rw [periodOf, Nat.one_shiftLeft]
    exact Nat.two_pow_pos _
  refine ⟨exponent, current.toNat % periodOf exponent / phaseStep (periodOf exponent),
    ⟨positive, bounded, ?_⟩, ?_⟩
  · exact Nat.lt_of_le_of_lt (Nat.div_mul_le_self _ _) (Nat.mod_lt _ wide)
  · unfold around
    rw [rounded]
    rfl

theorem Fits.stepped_eq_around (fits : Fits exponent steps) :
    stepped exponent steps = around (UInt64.ofNat (periodOf exponent))
      (UInt64.ofNat (steps * phaseStep (periodOf exponent))) := by
  obtain ⟨least, most, power, _, _⟩ := periodOf_spec exponent fits.bounded fits.positive
  have rounded : min (max (powerAtLeast (periodOf exponent)) leastPeriod) mostPeriod =
      periodOf exponent := by omega
  unfold around
  rw [fits.toNat_period, fits.toNat_phase, rounded]
  dsimp only
  rw [Nat.mod_eq_of_lt fits.within, Nat.mul_div_cancel _ (phaseStep_pos _)]
  rfl

theorem made_iff (era : Era) :
    era.Made ↔ era = .immortal ∨ ∃ exponent steps, Fits exponent steps ∧
      era = stepped exponent steps := by
  apply or_congr_right
  constructor
  · rintro ⟨period, current, rfl⟩
    exact around_eq_stepped period current
  · rintro ⟨exponent, steps, fits, rfl⟩
    exact ⟨_, _, fits.stepped_eq_around⟩

/-! ### Their sixteen bits -/

theorem Fits.bits_eq (fits : Fits exponent steps) :
    bits (UInt64.ofNat (periodOf exponent))
      (UInt64.ofNat (steps * phaseStep (periodOf exponent))) = exponent + 16 * steps := by
  obtain ⟨_, _, _, divisible, _⟩ := periodOf_spec exponent fits.bounded fits.positive
  have few := fits.steps_lt
  have positive := fits.positive
  have bounded := fits.bounded
  unfold bits
  rw [fits.toNat_period, fits.toNat_phase, divisible, Nat.mul_div_cancel _ (phaseStep_pos _)]
  dsimp only
  omega

theorem Fits.ofBits_eq (fits : Fits exponent steps) :
    ofBits (exponent + 16 * steps) = .ok (stepped exponent steps) := by
  obtain ⟨least, _⟩ := periodOf_spec exponent fits.bounded fits.positive
  have bounded := fits.bounded
  have low : (exponent + 16 * steps) % 16 = exponent := by omega
  have high : (exponent + 16 * steps) / 16 = steps := by omega
  unfold ofBits
  rw [low, high]
  exact if_pos ⟨least, fits.within⟩

theorem ofBits_eq_ok {bits : Nat} {era : Era} (read : ofBits bits = .ok era) :
    Fits (bits % 16) (bits / 16) ∧ era = stepped (bits % 16) (bits / 16) := by
  unfold ofBits at read
  dsimp only at read
  split at read
  · rename_i within
    obtain ⟨least, inside⟩ := within
    have positive : 1 ≤ bits % 16 := by
      apply Nat.pos_of_ne_zero
      intro zero
      rw [zero] at least
      revert least
      decide
    cases read
    exact ⟨⟨positive, by omega, inside⟩, rfl⟩
  · cases read

theorem decode_mortal {low : UInt8} (nonzero : low ≠ 0) (high : UInt8) (rest : Bytes) :
    codec.decode (low :: high :: rest) =
      match ofBits (low.toNat + 256 * high.toNat) with
      | .ok era => .ok (era, rest)
      | .error cause => .error cause := by
  cases read : ofBits (low.toNat + 256 * high.toNat) with
  | error cause => simp only [codec, read]
  | ok era => simp only [codec, read]

theorem codec_faithful : codec.Faithful Made where
  decode_encode era rest made := by
    rcases (made_iff era).mp made with rfl | ⟨exponent, steps, fits, rfl⟩
    · rfl
    · have few := fits.steps_lt
      have positive := fits.positive
      have bounded := fits.bounded
      have low : (UInt8.ofNat (exponent + 16 * steps)).toNat = (exponent + 16 * steps) % 256 :=
        UInt8.toNat_ofNat'
      have high : (UInt8.ofNat ((exponent + 16 * steps) / 256)).toNat =
          (exponent + 16 * steps) / 256 % 256 := UInt8.toNat_ofNat'
      -- A first byte of zero is left to the immortal era, as exponents begin at one.
      have nonzero : UInt8.ofNat (exponent + 16 * steps) ≠ 0 := by
        intro zero
        rw [zero] at low
        change 0 = _ at low
        omega
      have whole : (exponent + 16 * steps) % 256 + 256 * ((exponent + 16 * steps) / 256 % 256) =
          exponent + 16 * steps := by omega
      change codec.decode (Bytes.littleEndian 2 (bits _ _) ++ rest) = _
      rw [fits.bits_eq]
      change codec.decode (UInt8.ofNat _ :: UInt8.ofNat _ :: rest) = _
      rw [decode_mortal nonzero, low, high, whole, fits.ofBits_eq]
  encode_of_decode bytes era rest decoded := by
    cases bytes with
    | nil => cases decoded
    | cons low after =>
        by_cases zero : low = 0
        · subst zero
          cases decoded
          exact ⟨Or.inl rfl, rfl⟩
        cases after with
        | nil => simp [codec] at decoded
        | cons high after =>
            rw [decode_mortal zero] at decoded
            cases read : ofBits (low.toNat + 256 * high.toNat) with
            | error cause =>
                rw [read] at decoded
                cases decoded
            | ok found =>
                rw [read] at decoded
                cases decoded
                obtain ⟨fits, rfl⟩ := ofBits_eq_ok read
                refine ⟨(made_iff _).mpr (Or.inr ⟨_, _, fits, rfl⟩), ?_⟩
                have whole : (low.toNat + 256 * high.toNat) % 16 +
                    16 * ((low.toNat + 256 * high.toNat) / 16) =
                      Bytes.number [low, high] := by
                  simp only [Bytes.number]
                  omega
                have written : Bytes.littleEndian 2 (Bytes.number [low, high]) = [low, high] :=
                  Bytes.littleEndian_of_length rfl
                change _ = Bytes.littleEndian 2 (bits _ _) ++ rest
                rw [fits.bits_eq, whole, written]
                rfl

/-! ### First blocks -/

/-- The first block of the era that a block belongs to, as a value. -/
def firstOf (period phase block : Nat) : Nat := (max block phase - phase) / period * period + phase

theorem firstOf_le (period phase block : Nat) : firstOf period phase block ≤ max block phase := by
  have rounded := Nat.div_mul_le_self (max block phase - phase) period
  unfold firstOf
  omega

theorem birth?_mortal {period : UInt64} (positive : 0 < period.toNat) (phase current : UInt64) :
    ∃ birth, (Era.mortal period phase).birth? current = some birth ∧
      birth.toNat = firstOf period.toNat phase.toNat current.toNat := by
  have nonzero : period ≠ 0 := by
    rintro rfl
    exact Nat.lt_irrefl 0 positive
  let start := if current < phase then phase else current
  have value : start.toNat = max current.toNat phase.toNat := by
    by_cases before : current < phase
    · rw [show start = phase from if_pos before]
      have less := UInt64.lt_iff_toNat_lt.mp before
      omega
    · rw [show start = current from if_neg before]
      have less := mt UInt64.lt_iff_toNat_lt.mpr before
      omega
  have reached : phase.toNat ≤ start.toNat := by omega
  have bound := start.toNat_lt
  have rounded := Nat.div_mul_le_self (start.toNat - phase.toNat) period.toNat
  refine ⟨(start - phase) / period * period + phase, if_neg nonzero, ?_⟩
  rw [UInt64.toNat_add, UInt64.toNat_mul, UInt64.toNat_div,
    UInt64.toNat_sub_of_le _ _ (UInt64.le_iff_toNat_le.mpr reached),
    Nat.mod_eq_of_lt (by omega), Nat.mod_eq_of_lt (by omega), value]
  rfl

variable {period first block : Nat}

theorem firstOf_within (begun : first ≤ block) (living : block < first + period) :
    firstOf period (first % period) block = first := by
  have split := Nat.div_add_mod first period
  have phased := Nat.mod_le first period
  have whole : (block - first % period) / period = first / period := by
    have shifted : block - first % period = (block - first) + period * (first / period) := by omega
    rw [shifted, Nat.add_mul_div_left _ _ (by omega), Nat.div_eq_of_lt (by omega), Nat.zero_add]
  rw [firstOf, Nat.max_eq_left (by omega), whole, Nat.mul_comm, split]

theorem firstOf_beyond (positive : 0 < period) (late : first + period ≤ block) :
    first < firstOf period (first % period) block := by
  have split := Nat.div_add_mod first period
  have phased := Nat.mod_le first period
  have whole : first / period + 1 ≤ (block - first % period) / period := by
    rw [Nat.le_div_iff_mul_le positive, Nat.add_mul, Nat.mul_comm]
    omega
  have scaled := Nat.mul_le_mul_right period whole
  rw [Nat.add_mul, Nat.mul_comm (first / period)] at scaled
  rw [firstOf, Nat.max_eq_left (by omega)]
  omega

/-- Up to a period of 4096 an era around a block begins at that very block. -/
theorem around_fine {rough current period phase : UInt64}
    (made : around rough current = .mortal period phase) (fine : period.toNat ≤ 4096) :
    0 < period.toNat ∧ phase.toNat = current.toNat % period.toNat := by
  obtain ⟨exponent, positive, bounded, rounded⟩ := rounded_eq rough.toNat
  obtain ⟨least, most, _⟩ := periodOf_spec exponent bounded positive
  unfold around at made
  rw [rounded] at made
  injection made with periods phases
  have periodValue : period.toNat = periodOf exponent := by
    rw [← periods]
    exact toNat_ofNat_of_le most
  have wide : 0 < periodOf exponent := Nat.lt_of_lt_of_le (by decide) least
  have single : phaseStep (periodOf exponent) = 1 := by
    unfold phaseStep
    omega
  refine ⟨by omega, ?_⟩
  have below := Nat.mod_lt current.toNat wide
  rw [← phases, single, Nat.div_one, Nat.mul_one, toNat_ofNat_of_le (by omega), periodValue]

end StateTransition.Era
