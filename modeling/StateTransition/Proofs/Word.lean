import StateTransition.Word

set_option autoImplicit false

/-! Arithmetic of words through their values. -/

namespace StateTransition.Word

variable {α : Type} [Word α]

theorem toNat_clamp_mono {lower upper : Nat} (order : lower ≤ upper) :
    toNat (clamp lower : α) ≤ toNat (clamp upper : α) := by
  rw [toNat_clamp, toNat_clamp]
  omega

theorem saturatingAdd_mono {lower upper least most : α} (order : toNat lower ≤ toNat upper)
    (others : toNat least ≤ toNat most) :
    toNat (saturatingAdd lower least) ≤ toNat (saturatingAdd upper most) :=
  toNat_clamp_mono (Nat.add_le_add order others)

theorem saturatingMul_mono {lower upper least most : α} (order : toNat lower ≤ toNat upper)
    (others : toNat least ≤ toNat most) :
    toNat (saturatingMul lower least) ≤ toNat (saturatingMul upper most) :=
  toNat_clamp_mono (Nat.mul_le_mul order others)

theorem le_saturatingAdd (left right : α) : toNat left ≤ toNat (saturatingAdd left right) := by
  have bound := toNat_lt left
  rw [saturatingAdd, toNat_clamp]
  omega

theorem toNat_saturatingSub (left right : α) :
    toNat (saturatingSub left right) = toNat left - toNat right := by
  have bound := toNat_lt left
  exact toNat_clamp_of_lt (by omega)

theorem toNat_saturatingAdd {left right : α}
    (fits : toNat left + toNat right < Bytes.span (width α)) :
    toNat (saturatingAdd left right) = toNat left + toNat right :=
  toNat_clamp_of_lt fits

theorem ofNat?_eq_some {value : Nat} {word : α} (made : ofNat? value = some word) :
    toNat word = value := by
  unfold ofNat? at made
  by_cases fits : value < Bytes.span (width α)
  · rw [if_pos fits] at made
    cases made
    exact toNat_clamp_of_lt fits
  · rw [if_neg fits] at made
    cases made

theorem checkedAdd?_eq_some {left right sum : α} (added : checkedAdd? left right = some sum) :
    toNat sum = toNat left + toNat right :=
  ofNat?_eq_some added

theorem checkedAdd?_of_fits {left right : α}
    (fits : toNat left + toNat right < Bytes.span (width α)) :
    checkedAdd? left right = some (saturatingAdd left right) := by
  unfold checkedAdd? ofNat?
  rw [if_pos fits]
  rfl

theorem checkedAdd?_one {count : UInt32} (room : count.toNat + 1 < 4294967296) :
    checkedAdd? count 1 = some (count + 1) := by
  rw [checkedAdd?_of_fits room]
  congr 1
  apply UInt32.toNat_inj.mp
  have sum : toNat (saturatingAdd count 1) = count.toNat + 1 := toNat_saturatingAdd room
  change toNat (saturatingAdd count 1) = _
  rw [sum, UInt32.toNat_add]
  exact (Nat.mod_eq_of_lt room).symm

theorem checkedSub?_eq_some {left right rest : α} (taken : checkedSub? left right = some rest) :
    toNat rest + toNat right = toNat left := by
  unfold checkedSub? at taken
  by_cases enough : toNat right ≤ toNat left
  · rw [if_pos enough] at taken
    cases taken
    have bound := toNat_lt left
    rw [toNat_clamp_of_lt (by omega)]
    omega
  · rw [if_neg enough] at taken
    cases taken

end StateTransition.Word
