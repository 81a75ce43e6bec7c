import StateTransition.Account.Info

set_option autoImplicit false

/-! Laws of codecs: numbers in all their bytes and strings of a fixed length are read back, and
so is what is composed of codecs that read back. -/

namespace StateTransition

theorem Bytes.littleEndian_of_length {bytes : Bytes} {width : Nat} (sized : bytes.length = width) :
    littleEndian width (number bytes) = bytes := by
  subst sized
  exact littleEndian_number bytes

namespace Codec

variable {α β : Type}

theorem Faithful.decodeFront?_encode {codec : Codec α} {valid : α → Prop}
    (faithful : codec.Faithful valid) (value : α) (isValid : valid value) :
    codec.decodeFront? (codec.encode value) = some value := by
  have decoded := faithful.decode_encode value [] isValid
  rw [List.append_nil] at decoded
  rw [decodeFront?, decoded]

theorem Faithful.decodeAll_encode {codec : Codec α} {valid : α → Prop}
    (faithful : codec.Faithful valid) (value : α) (isValid : valid value) :
    codec.decodeAll (codec.encode value) = .ok value := by
  have decoded := faithful.decode_encode value [] isValid
  rw [List.append_nil] at decoded
  rw [decodeAll, decoded]

theorem Faithful.valid_of_decodeAll {codec : Codec α} {valid : α → Prop}
    (faithful : codec.Faithful valid) {bytes : Bytes} {value : α}
    (decoded : codec.decodeAll bytes = .ok value) : valid value := by
  unfold decodeAll at decoded
  cases found : codec.decode bytes with
  | error cause =>
      rw [found] at decoded
      cases decoded
  | ok parts =>
      obtain ⟨read, rest⟩ := parts
      rw [found] at decoded
      cases rest with
      | cons byte others => cases decoded
      | nil =>
          cases decoded
          exact (faithful.encode_of_decode bytes _ [] found).1

theorem eq_of_encode_eq {codec : Codec α} {left right : α}
    (leftRead : codec.decodeFront? (codec.encode left) = some left)
    (rightRead : codec.decodeFront? (codec.encode right) = some right)
    (same : codec.encode left = codec.encode right) : left = right := by
  rw [same, rightRead] at leftRead
  exact (Option.some.inj leftRead).symm

theorem Faithful.encode_injective {codec : Codec α} {valid : α → Prop}
    (faithful : codec.Faithful valid) {left right : α} (leftValid : valid left)
    (rightValid : valid right) (same : codec.encode left = codec.encode right) : left = right :=
  eq_of_encode_eq (faithful.decodeFront?_encode left leftValid)
    (faithful.decodeFront?_encode right rightValid) same

def ReadsBack (codec : Codec α) : Prop :=
  ∀ value, codec.decodeFront? (codec.encode value) = some value

theorem Faithful.readsBack {codec : Codec α} (faithful : codec.Faithful fun _ => True) :
    codec.ReadsBack := fun value => faithful.decodeFront?_encode value trivial

theorem ReadsBack.encode_injective {codec : Codec α} (reads : codec.ReadsBack) {left right : α}
    (same : codec.encode left = codec.encode right) : left = right :=
  eq_of_encode_eq (reads left) (reads right) same

def ReadsOff (codec : Codec α) (valid : α → Prop) : Prop :=
  ∀ value rest, valid value → codec.decode (codec.encode value ++ rest) = .ok (value, rest)

theorem Faithful.weaken {codec : Codec α} {valid weaker : α → Prop}
    (faithful : codec.Faithful valid) (same : ∀ value, valid value ↔ weaker value) :
    codec.Faithful weaker where
  decode_encode value rest isValid :=
    faithful.decode_encode value rest ((same value).mpr isValid)
  encode_of_decode bytes value rest decoded := by
    obtain ⟨isValid, split⟩ := faithful.encode_of_decode bytes value rest decoded
    exact ⟨(same value).mp isValid, split⟩

theorem takeBytes_append {count : Nat} (front rest : Bytes) (sized : front.length = count) :
    takeBytes count (front ++ rest) = .ok (front, rest) := by
  subst sized
  have enough : front.length ≤ (front ++ rest).length := by simp
  rw [takeBytes, if_pos enough, List.take_left, List.drop_left]

theorem takeBytes_eq_ok {count : Nat} {bytes front rest : Bytes}
    (taken : takeBytes count bytes = .ok (front, rest)) :
    front.length = count ∧ bytes = front ++ rest := by
  unfold takeBytes at taken
  split at taken
  · rename_i enough
    injection taken with parts
    obtain ⟨rfl, rfl⟩ := Prod.mk.inj parts
    exact ⟨List.length_take_of_le enough, (List.take_append_drop count bytes).symm⟩
  · cases taken

theorem word_faithful [Word α] : (word : Codec α).Faithful fun _ => True where
  decode_encode value rest _ := by
    have taken := takeBytes_append (Bytes.littleEndian (Word.width α) (Word.toNat value)) rest
      (Bytes.littleEndian_length _ _)
    have bound := Word.toNat_lt value
    simp only [word, taken, Bytes.number_littleEndian, Nat.mod_eq_of_lt bound, Word.clamp_toNat]
  encode_of_decode bytes value rest decoded := by
    simp only [word] at decoded ⊢
    split at decoded
    · rename_i front after taken
      injection decoded with parts
      obtain ⟨rfl, rfl⟩ := Prod.mk.inj parts
      obtain ⟨sized, split⟩ := takeBytes_eq_ok taken
      have bound : Bytes.number front < Bytes.span (Word.width α) := sized ▸ Bytes.number_lt front
      rw [Word.toNat_clamp_of_lt bound, Bytes.littleEndian_of_length sized]
      exact ⟨trivial, split⟩
    · cases decoded

theorem octets_faithful (length : Nat) : (octets length).Faithful fun _ => True where
  decode_encode value rest _ := by
    obtain ⟨bytes, sized⟩ := value
    have taken := takeBytes_append bytes rest sized
    have fitted : Octets.fit length bytes = ⟨bytes, sized⟩ := by
      have same := Octets.fit_of_length bytes sized
      cases made : Octets.fit length bytes
      rw [made] at same
      simp only at same
      subst same
      rfl
    simp only [octets, taken, fitted]
  encode_of_decode bytes value rest decoded := by
    simp only [octets] at decoded ⊢
    split at decoded
    · rename_i front after taken
      injection decoded with parts
      obtain ⟨rfl, rfl⟩ := Prod.mk.inj parts
      obtain ⟨sized, split⟩ := takeBytes_eq_ok taken
      rw [Octets.fit_of_length front sized]
      exact ⟨trivial, split⟩
    · cases decoded

theorem Faithful.pair {left : Codec α} {right : Codec β} {leftValid : α → Prop}
    {rightValid : β → Prop} (leftFaithful : left.Faithful leftValid)
    (rightFaithful : right.Faithful rightValid) :
    (left.pair right).Faithful fun value => leftValid value.1 ∧ rightValid value.2 where
  decode_encode value rest isValid := by
    have first := leftFaithful.decode_encode value.1 (right.encode value.2 ++ rest) isValid.1
    have second := rightFaithful.decode_encode value.2 rest isValid.2
    simp only [Codec.pair, List.append_assoc, first, second]
  encode_of_decode bytes value rest decoded := by
    simp only [Codec.pair] at decoded ⊢
    split at decoded
    · cases decoded
    · rename_i first afterFirst firstRead
      split at decoded
      · cases decoded
      · rename_i second after secondRead
        injection decoded with parts
        obtain ⟨rfl, rfl⟩ := Prod.mk.inj parts
        obtain ⟨firstValid, firstSplit⟩ := leftFaithful.encode_of_decode _ _ _ firstRead
        obtain ⟨secondValid, secondSplit⟩ := rightFaithful.encode_of_decode _ _ _ secondRead
        refine ⟨⟨firstValid, secondValid⟩, ?_⟩
        rw [firstSplit, secondSplit, List.append_assoc]

theorem Faithful.via {codec : Codec α} {valid : α → Prop} (faithful : codec.Faithful valid)
    {make : α → β} {parts : β → α} (make_parts : ∀ value, make (parts value) = value)
    (parts_make : ∀ value, valid value → parts (make value) = value) :
    (codec.via make parts).Faithful fun value => valid (parts value) where
  decode_encode value rest isValid := by
    have decoded := faithful.decode_encode (parts value) rest isValid
    simp only [Codec.via, decoded, make_parts]
  encode_of_decode bytes value rest decoded := by
    simp only [Codec.via] at decoded ⊢
    split at decoded
    · rename_i inner after innerRead
      injection decoded with same
      obtain ⟨rfl, rfl⟩ := Prod.mk.inj same
      obtain ⟨isValid, split⟩ := faithful.encode_of_decode _ _ _ innerRead
      rw [parts_make inner isValid]
      exact ⟨isValid, split⟩
    · cases decoded

end Codec

theorem AccountInfo.codec_faithful {Number : Type} [Word Number] :
    (AccountInfo.codec : Codec (AccountInfo Number)).Faithful fun _ => True := by
  have words := Codec.Faithful.pair (@Codec.word_faithful Number _)
    (Codec.Faithful.pair (@Codec.word_faithful RefCount _)
      (Codec.Faithful.pair (@Codec.word_faithful RefCount _)
        (Codec.Faithful.pair (@Codec.word_faithful RefCount _)
          (@Codec.word_faithful Balance _))))
  refine Codec.Faithful.weaken (Codec.Faithful.via words (fun _ => rfl) fun _ _ => rfl) ?_
  intro value
  simp

end StateTransition
