import Mathlib.Algebra.GroupWithZero.Nat
import StateTransition.Dispatch.Class
import StateTransition.Proofs.Codec
import StateTransition.Proofs.Word

set_option autoImplicit false

/-! Compact numbers are read back, and only their shortest form is read; what is composed of them
reads back as well. -/

namespace StateTransition

namespace Bytes

theorem span_add (first second : Nat) : span (first + second) = span first * span second := by
  induction first with
  | zero => simp [span]
  | succ first ih =>
      rw [Nat.succ_add]
      simp only [span, ih, Nat.mul_assoc]

theorem span_pos (width : Nat) : 0 < span width := by
  induction width with
  | zero => decide
  | succ width ih =>
      simp only [span]
      omega

theorem span_le_span {narrow wide : Nat} (le : narrow ≤ wide) : span narrow ≤ span wide := by
  obtain ⟨more, rfl⟩ := Nat.exists_eq_add_of_le le
  rw [span_add]
  exact Nat.le_mul_of_pos_right _ (span_pos more)

theorem span_eq_two_pow (width : Nat) : span width = 2 ^ (8 * width) := by
  induction width with
  | zero => rfl
  | succ width ih =>
      rw [span, ih, Nat.mul_succ, Nat.pow_add]
      omega

end Bytes

namespace Codec

def compactBound : Nat := Bytes.span 67

theorem digitCount_spec {value : Nat} (positive : value ≠ 0) :
    Bytes.span (digitCount value - 1) ≤ value ∧ value < Bytes.span (digitCount value) := by
  have lower := Nat.log2_self_le positive
  have upper := Nat.lt_log2_self (n := value)
  unfold digitCount
  rw [Nat.add_sub_cancel, Bytes.span_eq_two_pow, Bytes.span_eq_two_pow]
  have below : 8 * (value.log2 / 8) ≤ value.log2 := Nat.mul_div_le _ 8
  have above : value.log2 + 1 ≤ 8 * (value.log2 / 8 + 1) := by omega
  constructor
  · exact Nat.le_trans (Nat.pow_le_pow_right (by decide) below) lower
  · exact Nat.lt_of_lt_of_le upper (Nat.pow_le_pow_right (by decide) above)

theorem digitCount_eq {value count : Nat} (positive : value ≠ 0)
    (least : Bytes.span (count - 1) ≤ value) (below : value < Bytes.span count) :
    digitCount value = count := by
  obtain ⟨lower, upper⟩ := digitCount_spec positive
  rcases Nat.lt_trichotomy (digitCount value) count with fewer | same | more
  · have wide := Bytes.span_le_span (show digitCount value ≤ count - 1 by omega)
    omega
  · exact same
  · have wide := Bytes.span_le_span (show count ≤ digitCount value - 1 by omega)
    omega

theorem decodeAtLeast_append {count : Nat} {front : Bytes} (least scale : Nat) (rest : Bytes)
    (sized : front.length = count) (enough : least ≤ Bytes.number front / scale) :
    decodeAtLeast count least (front ++ rest) scale = .ok (Bytes.number front / scale, rest) := by
  unfold decodeAtLeast
  rw [takeBytes_append front rest sized]
  exact if_pos enough

theorem decodeAtLeast_eq_ok {count least scale value : Nat} {bytes rest : Bytes}
    (decoded : decodeAtLeast count least bytes scale = .ok (value, rest)) :
    ∃ front, front.length = count ∧ bytes = front ++ rest ∧
      value = Bytes.number front / scale ∧ least ≤ value := by
  unfold decodeAtLeast at decoded
  cases taken : takeBytes count bytes with
  | error cause =>
      rw [taken] at decoded
      cases decoded
  | ok parts =>
      obtain ⟨front, after⟩ := parts
      rw [taken] at decoded
      dsimp only at decoded
      split at decoded
      · rename_i enough
        cases decoded
        obtain ⟨sized, split⟩ := takeBytes_eq_ok taken
        exact ⟨front, sized, split, rfl, enough⟩
      · cases decoded

theorem littleEndian_cons (width value : Nat) :
    Bytes.littleEndian (width + 1) value =
      UInt8.ofNat value :: Bytes.littleEndian width (value / 256) := rfl

theorem decodeCompact_short {width least value tag : Nat} (rest : Bytes)
    (reads : ∀ first after, first.toNat % 4 = tag →
      decodeCompact (first :: after) = decodeAtLeast (width + 1) least (first :: after) 4)
    (small : tag < 4) (fits : 4 * value + tag < Bytes.span (width + 1)) (enough : least ≤ value) :
    decodeCompact (Bytes.littleEndian (width + 1) (4 * value + tag) ++ rest) =
      .ok (value, rest) := by
  have tagged : (UInt8.ofNat (4 * value + tag)).toNat % 4 = tag := by
    rw [UInt8.toNat_ofNat']
    omega
  have whole : Bytes.number (Bytes.littleEndian (width + 1) (4 * value + tag)) / 4 = value := by
    rw [Bytes.number_littleEndian, Nat.mod_eq_of_lt fits]
    omega
  have read := decodeAtLeast_append least 4 rest
    (Bytes.littleEndian_length (width + 1) (4 * value + tag)) (by rw [whole]; exact enough)
  rw [whole] at read
  rw [littleEndian_cons, List.cons_append, reads _ _ tagged]
  exact read

theorem decodeCompact_one (first : UInt8) (after : Bytes) (tagged : first.toNat % 4 = 1) :
    decodeCompact (first :: after) = decodeAtLeast 2 64 (first :: after) 4 := by
  simp only [decodeCompact, tagged]

theorem decodeCompact_two (first : UInt8) (after : Bytes) (tagged : first.toNat % 4 = 2) :
    decodeCompact (first :: after) = decodeAtLeast 4 16384 (first :: after) 4 := by
  simp only [decodeCompact, tagged]

theorem decodeCompact_three (first : UInt8) (after : Bytes) (tagged : first.toNat % 4 = 3) :
    decodeCompact (first :: after) =
      decodeAtLeast (first.toNat / 4 + 4)
        (max 1073741824 (Bytes.span (first.toNat / 4 + 4 - 1))) after 1 := by
  simp only [decodeCompact, tagged]

theorem decodeCompact_encodeCompact {value : Nat} (fits : value < compactBound) (rest : Bytes) :
    decodeCompact (encodeCompact value ++ rest) = .ok (value, rest) := by
  unfold encodeCompact
  split
  · rename_i single
    have small : (UInt8.ofNat (4 * value)).toNat = 4 * value := by
      rw [UInt8.toNat_ofNat']
      omega
    have tagged : 4 * value % 4 = 0 := Nat.mul_mod_right 4 value
    have quarter : 4 * value / 4 = value := by omega
    simp only [Bytes.littleEndian, List.cons_append, List.nil_append, decodeCompact, small, tagged,
      quarter]
  split
  · rename_i several double
    have span : Bytes.span (1 + 1) = 65536 := by decide
    exact decodeCompact_short rest decodeCompact_one (by decide) (by omega) (by omega)
  split
  · rename_i several more fourfold
    have span : Bytes.span (3 + 1) = 4294967296 := by decide
    exact decodeCompact_short rest decodeCompact_two (by decide) (by omega) (by omega)
  · rename_i large
    have positive : value ≠ 0 := by omega
    obtain ⟨lower, upper⟩ := digitCount_spec positive
    have atLeast : 4 ≤ digitCount value := by
      apply Nat.not_lt.mp
      intro few
      have narrow := Bytes.span_le_span (show digitCount value ≤ 3 by omega)
      have span : Bytes.span 3 = 16777216 := by decide
      omega
    have atMost : digitCount value ≤ 67 := by
      apply Nat.not_lt.mp
      intro many
      have wide := Bytes.span_le_span (show 67 ≤ digitCount value - 1 by omega)
      unfold compactBound at fits
      omega
    have first : (UInt8.ofNat (4 * (digitCount value - 4) + 3)).toNat =
        4 * (digitCount value - 4) + 3 := by
      rw [UInt8.toNat_ofNat']
      omega
    have tagged : (4 * (digitCount value - 4) + 3) % 4 = 3 := by omega
    have counted : (4 * (digitCount value - 4) + 3) / 4 + 4 = digitCount value := by omega
    have whole : Bytes.number (Bytes.littleEndian (digitCount value) value) / 1 = value := by
      rw [Bytes.number_littleEndian, Nat.mod_eq_of_lt upper, Nat.div_one]
    have read := decodeAtLeast_append
      (max 1073741824 (Bytes.span (digitCount value - 1))) 1 rest
      (Bytes.littleEndian_length (digitCount value) value) (by omega)
    rw [whole] at read
    dsimp only
    rw [List.cons_append, decodeCompact_three _ _ (by rw [first]; exact tagged), first, counted]
    exact read

theorem littleEndian_of_number {front : Bytes} {width value tag : Nat}
    (sized : front.length = width) (valued : Bytes.number front = 4 * value + tag) :
    Bytes.littleEndian width (4 * value + tag) = front := by
  rw [← valued]
  exact Bytes.littleEndian_of_length sized

theorem encodeCompact_of_decodeCompact {bytes rest : Bytes} {value : Nat}
    (decoded : decodeCompact bytes = .ok (value, rest)) :
    value < compactBound ∧ bytes = encodeCompact value ++ rest := by
  cases bytes with
  | nil => cases decoded
  | cons first after =>
      have bounded := first.toNat_lt
      have wide : (18446744073709551616 : Nat) ≤ compactBound := by decide
      have cases : first.toNat % 4 = 0 ∨ first.toNat % 4 = 1 ∨ first.toNat % 4 = 2 ∨
          first.toNat % 4 = 3 := by omega
      rcases cases with zero | one | two | three
      · simp only [decodeCompact, zero] at decoded
        cases decoded
        refine ⟨by omega, ?_⟩
        have whole : 4 * (first.toNat / 4) = first.toNat := by omega
        rw [encodeCompact, if_pos (by omega)]
        simp only [Bytes.littleEndian, whole, UInt8.ofNat_toNat, List.cons_append, List.nil_append]
      · rw [decodeCompact_one first after one] at decoded
        obtain ⟨front, sized, split, rfl, least⟩ := decodeAtLeast_eq_ok decoded
        have below := Bytes.number_lt front
        have span : Bytes.span front.length = 65536 := by rw [sized]; decide
        have tagged : Bytes.number front = 4 * (Bytes.number front / 4) + 1 := by
          have head := congrArg List.head? split
          cases front with
          | nil => cases sized
          | cons byte others =>
              cases head
              simp only [Bytes.number]
              omega
        refine ⟨by omega, ?_⟩
        rw [encodeCompact, if_neg (by omega), if_pos (by omega), littleEndian_of_number sized tagged]
        exact split
      · rw [decodeCompact_two first after two] at decoded
        obtain ⟨front, sized, split, rfl, least⟩ := decodeAtLeast_eq_ok decoded
        have below := Bytes.number_lt front
        have span : Bytes.span front.length = 4294967296 := by rw [sized]; decide
        have tagged : Bytes.number front = 4 * (Bytes.number front / 4) + 2 := by
          have head := congrArg List.head? split
          cases front with
          | nil => cases sized
          | cons byte others =>
              cases head
              simp only [Bytes.number]
              omega
        refine ⟨by omega, ?_⟩
        rw [encodeCompact, if_neg (by omega), if_neg (by omega), if_pos (by omega),
          littleEndian_of_number sized tagged]
        exact split
      · rw [decodeCompact_three first after three] at decoded
        obtain ⟨front, sized, split, same, least⟩ := decodeAtLeast_eq_ok decoded
        rw [Nat.div_one] at same
        subst same
        have below := Bytes.number_lt front
        rw [sized] at below
        have counted : digitCount (Bytes.number front) = first.toNat / 4 + 4 :=
          digitCount_eq (by omega) (by omega) below
        have narrow := Bytes.span_le_span (show first.toNat / 4 + 4 ≤ 67 by omega)
        have tag : 4 * (first.toNat / 4 + 4 - 4) + 3 = first.toNat := by omega
        refine ⟨by unfold compactBound; omega, ?_⟩
        rw [encodeCompact, if_neg (by omega), if_neg (by omega), if_neg (by omega)]
        simp only [counted, tag, UInt8.ofNat_toNat, Bytes.littleEndian_of_length sized,
          List.cons_append]
        rw [split]

/-! ### Codecs made of compact numbers -/

theorem compact_faithful {α : Type} [Word α] (narrow : Word.width α ≤ 67) :
    (compact : Codec α).Faithful fun _ => True where
  decode_encode value rest _ := by
    have bound := Word.toNat_lt value
    have fits : Word.toNat value < compactBound :=
      Nat.lt_of_lt_of_le bound (Bytes.span_le_span narrow)
    simp only [compact, decodeCompact_encodeCompact fits, Word.ofNat?, if_pos bound,
      Word.clamp_toNat]
  encode_of_decode bytes value rest decoded := by
    simp only [compact] at decoded ⊢
    split at decoded
    · cases decoded
    · rename_i number after read
      obtain ⟨_, split⟩ := encodeCompact_of_decodeCompact read
      cases made : (Word.ofNat? number : Option α) with
      | none =>
          rw [made] at decoded
          cases decoded
      | some word =>
          rw [made] at decoded
          cases decoded
          rw [Word.ofNat?_eq_some made]
          exact ⟨trivial, split⟩

theorem decodeLength_encodeCompact {count : Nat} (fits : count < lengthBound) (rest : Bytes) :
    decodeLength (encodeCompact count ++ rest) = .ok (count, rest) := by
  have wide : lengthBound ≤ compactBound := by decide
  unfold decodeLength
  rw [decodeCompact_encodeCompact (Nat.lt_of_lt_of_le fits wide)]
  exact if_pos fits

end Codec

theorem Weight.codec_faithful : Weight.codec.Faithful fun _ => True := by
  have word : (Codec.compact : Codec UInt64).Faithful fun _ => True :=
    Codec.compact_faithful (by decide)
  refine Codec.Faithful.weaken (Codec.Faithful.via (word.pair word) (fun _ => rfl)
    fun _ _ => rfl) ?_
  intro weight
  simp

theorem PerClass.codec_faithful {α : Type} {value : Codec α}
    (faithful : value.Faithful fun _ => True) :
    (PerClass.codec value).Faithful fun _ => True := by
  refine Codec.Faithful.weaken (Codec.Faithful.via (faithful.pair (faithful.pair faithful))
    (fun _ => rfl) fun _ _ => rfl) ?_
  intro values
  simp

end StateTransition
