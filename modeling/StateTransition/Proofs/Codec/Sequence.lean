import StateTransition.Proofs.Codec.Compact

set_option autoImplicit false

/-! Sequences behind their length and unions behind a tag are read back, and nothing else is read,
if that holds of their items and of what the alternatives carry. -/

namespace StateTransition.Codec

variable {α : Type}

/-! ### Sequences -/

theorem decodeLength_eq_ok {bytes rest : Bytes} {count : Nat}
    (decoded : decodeLength bytes = .ok (count, rest)) :
    count < lengthBound ∧ bytes = encodeCompact count ++ rest := by
  unfold decodeLength at decoded
  cases read : decodeCompact bytes with
  | error cause =>
      rw [read] at decoded
      cases decoded
  | ok parts =>
      obtain ⟨number, after⟩ := parts
      rw [read] at decoded
      dsimp only at decoded
      split at decoded
      · rename_i fits
        cases decoded
        exact ⟨fits, (encodeCompact_of_decodeCompact read).2⟩
      · cases decoded

theorem bytes_faithful : bytes.Faithful fun value => value.length < lengthBound where
  decode_encode value rest fits := by
    simp only [bytes, List.append_assoc, decodeLength_encodeCompact fits]
    exact takeBytes_append value rest rfl
  encode_of_decode input value rest decoded := by
    unfold bytes at decoded
    dsimp only at decoded
    cases read : decodeLength input with
    | error cause =>
        rw [read] at decoded
        cases decoded
    | ok parts =>
        obtain ⟨count, after⟩ := parts
        rw [read] at decoded
        obtain ⟨fits, announced⟩ := decodeLength_eq_ok read
        obtain ⟨sized, split⟩ := takeBytes_eq_ok decoded
        refine ⟨sized ▸ fits, ?_⟩
        change input = (encodeCompact value.length ++ value) ++ rest
        rw [announced, split, sized, List.append_assoc]

theorem decodeMany_encodeMany {item : Codec α} {valid : α → Prop} (reads : item.ReadsOff valid)
    (values : List α) (rest : Bytes) (areValid : ∀ value ∈ values, valid value) :
    decodeMany item values.length (encodeMany item values ++ rest) = .ok (values, rest) := by
  induction values with
  | nil => rfl
  | cons first others ih =>
      have readFirst := reads first (encodeMany item others ++ rest)
        (areValid first List.mem_cons_self)
      have readOthers := ih fun value member => areValid value (List.mem_cons_of_mem _ member)
      simp only [List.length_cons, encodeMany, decodeMany, List.append_assoc, readFirst, readOthers]

theorem decodeMany_eq_ok {item : Codec α} {valid : α → Prop} (faithful : item.Faithful valid)
    {count : Nat} {bytes rest : Bytes} {values : List α}
    (decoded : decodeMany item count bytes = .ok (values, rest)) :
    values.length = count ∧ (∀ value ∈ values, valid value) ∧
      bytes = encodeMany item values ++ rest := by
  induction count generalizing bytes values with
  | zero =>
      cases decoded
      exact ⟨rfl, nofun, rfl⟩
  | succ count ih =>
      rw [decodeMany] at decoded
      cases readFirst : item.decode bytes with
      | error cause =>
          rw [readFirst] at decoded
          cases decoded
      | ok parts =>
          obtain ⟨first, after⟩ := parts
          rw [readFirst] at decoded
          dsimp only at decoded
          cases readOthers : decodeMany item count after with
          | error cause =>
              rw [readOthers] at decoded
              cases decoded
          | ok parts =>
              obtain ⟨others, last⟩ := parts
              rw [readOthers] at decoded
              cases decoded
              obtain ⟨firstValid, firstSplit⟩ := faithful.encode_of_decode _ _ _ readFirst
              obtain ⟨counted, othersValid, othersSplit⟩ := ih readOthers
              refine ⟨congrArg Nat.succ counted, List.forall_mem_cons.mpr ⟨firstValid, othersValid⟩, ?_⟩
              rw [firstSplit, othersSplit, encodeMany, List.append_assoc]

theorem list_readsOff {item : Codec α} {valid : α → Prop} (reads : item.ReadsOff valid) :
    (list item).ReadsOff fun values =>
      values.length < lengthBound ∧ ∀ value ∈ values, valid value := by
  intro values rest areValid
  simp only [list, List.append_assoc, decodeLength_encodeCompact areValid.1]
  exact decodeMany_encodeMany reads values rest areValid.2

theorem list_faithful {item : Codec α} {valid : α → Prop} (faithful : item.Faithful valid) :
    (list item).Faithful fun values =>
      values.length < lengthBound ∧ ∀ value ∈ values, valid value where
  decode_encode := list_readsOff faithful.decode_encode
  encode_of_decode bytes values rest decoded := by
    unfold list at decoded
    dsimp only at decoded
    cases read : decodeLength bytes with
    | error cause =>
        rw [read] at decoded
        cases decoded
    | ok parts =>
        obtain ⟨count, after⟩ := parts
        rw [read] at decoded
        obtain ⟨fits, announced⟩ := decodeLength_eq_ok read
        obtain ⟨counted, areValid, split⟩ := decodeMany_eq_ok faithful decoded
        refine ⟨⟨counted ▸ fits, areValid⟩, ?_⟩
        change bytes = (encodeCompact values.length ++ encodeMany item values) ++ rest
        rw [announced, split, counted, List.append_assoc]

theorem encodeMany_append (item : Codec α) (first second : List α) :
    encodeMany item (first ++ second) = encodeMany item first ++ encodeMany item second := by
  induction first with
  | nil => rfl
  | cons value others ih =>
      rw [List.cons_append, encodeMany, encodeMany, ih, List.append_assoc]

theorem encode_list_concat (item : Codec α) (values : List α) (value : α) :
    (list item).encode (values ++ [value]) =
      encodeCompact (values.length + 1) ++ encodeMany item values ++ item.encode value := by
  change encodeCompact (values ++ [value]).length ++ encodeMany item (values ++ [value]) = _
  rw [encodeMany_append, List.length_append, List.append_assoc]
  have last : encodeMany item [value] = item.encode value := List.append_nil _
  rw [last]
  rfl

theorem unit_faithful : unit.Faithful fun _ => True where
  decode_encode _ _ _ := rfl
  encode_of_decode _ _ _ decoded := by
    cases decoded
    exact ⟨trivial, rfl⟩

/-! ### Unions -/

/-- What an alternative carries is read back, and it takes out of a value what it has put in. -/
structure Alternative.Lawful (alternative : Alternative α) (valid : α → Prop) : Prop where
  faithful : alternative.payload.Faithful fun payload => valid (alternative.inject payload)
  project_iff : ∀ value payload,
    alternative.project value = some payload ↔ value = alternative.inject payload

/-- No two alternatives have a tag or a value in common. -/
def Apart (alternatives : List (Alternative α)) : Prop :=
  alternatives.Pairwise fun first second =>
    first.tag ≠ second.tag ∧ ∀ payload, first.project (second.inject payload) = none

theorem Alternative.plain_lawful [DecidableEq α] {valid : α → Prop} (tag : UInt8) {value : α}
    (isValid : valid value) : (Alternative.plain tag value).Lawful valid where
  faithful := unit_faithful.weaken fun _ => iff_of_true trivial isValid
  project_iff other payload := by
    change (if other = value then some () else none) = some payload ↔ other = value
    by_cases same : other = value
    · exact iff_of_true (if_pos same) same
    · simp [same]

theorem Alternative.carrying_lawful {π : Type} {payload : Codec π} {payloadValid : π → Prop}
    {valid : α → Prop} (tag : UInt8) {inject : π → α} {project : α → Option π}
    (faithful : payload.Faithful payloadValid) (same : ∀ given, payloadValid given ↔ valid (inject given))
    (project_iff : ∀ value given, project value = some given ↔ value = inject given) :
    (Alternative.carrying tag payload inject project).Lawful valid where
  faithful := faithful.weaken same
  project_iff := project_iff

theorem decodeAlternatives_of_mem {alternatives : List (Alternative α)} (apart : Apart alternatives)
    {alternative : Alternative α} (member : alternative ∈ alternatives)
    {bytes rest : Bytes} {payload : alternative.Payload}
    (decoded : alternative.payload.decode bytes = .ok (payload, rest)) :
    decodeAlternatives alternative.tag bytes alternatives =
      .ok (alternative.inject payload, rest) := by
  induction alternatives with
  | nil => cases member
  | cons first others ih =>
      obtain ⟨separate, apartOthers⟩ := List.pairwise_cons.mp apart
      rw [decodeAlternatives]
      rcases List.mem_cons.mp member with rfl | later
      · rw [if_pos rfl, decoded]
      · rw [if_neg (separate alternative later).1]
        exact ih apartOthers later

theorem encodeAlternatives_of_mem {valid : α → Prop} {alternatives : List (Alternative α)}
    (apart : Apart alternatives) {alternative : Alternative α} (member : alternative ∈ alternatives)
    (lawful : alternative.Lawful valid) (payload : alternative.Payload) :
    encodeAlternatives (alternative.inject payload) alternatives =
      alternative.tag :: alternative.payload.encode payload := by
  induction alternatives with
  | nil => cases member
  | cons first others ih =>
      obtain ⟨separate, apartOthers⟩ := List.pairwise_cons.mp apart
      rw [encodeAlternatives]
      rcases List.mem_cons.mp member with rfl | later
      · rw [(lawful.project_iff _ payload).mpr rfl]
      · rw [(separate alternative later).2 payload]
        exact ih apartOthers later

theorem decodeAlternatives_eq_ok {alternatives : List (Alternative α)} {tag : UInt8}
    {bytes rest : Bytes} {value : α}
    (decoded : decodeAlternatives tag bytes alternatives = .ok (value, rest)) :
    ∃ alternative ∈ alternatives, alternative.tag = tag ∧ ∃ payload,
      alternative.payload.decode bytes = .ok (payload, rest) ∧
        value = alternative.inject payload := by
  induction alternatives with
  | nil => cases decoded
  | cons first others ih =>
      rw [decodeAlternatives] at decoded
      by_cases same : first.tag = tag
      · rw [if_pos same] at decoded
        cases read : first.payload.decode bytes with
        | error cause =>
            rw [read] at decoded
            cases decoded
        | ok parts =>
            obtain ⟨payload, after⟩ := parts
            rw [read] at decoded
            cases decoded
            exact ⟨first, List.mem_cons_self, same, payload, read, rfl⟩
      · rw [if_neg same] at decoded
        obtain ⟨alternative, member, found⟩ := ih decoded
        exact ⟨alternative, List.mem_cons_of_mem _ member, found⟩

theorem tagged_faithful {valid : α → Prop} {alternatives : List (Alternative α)}
    (apart : Apart alternatives)
    (lawful : ∀ alternative ∈ alternatives, alternative.Lawful valid)
    (covers : ∀ value, alternatives.any (fun alternative => (alternative.project value).isSome) = true) :
    (tagged alternatives).Faithful valid where
  decode_encode value rest isValid := by
    obtain ⟨alternative, member, holds⟩ := List.any_eq_true.mp (covers value)
    obtain ⟨payload, taken⟩ := Option.isSome_iff_exists.mp holds
    obtain rfl := ((lawful alternative member).project_iff value payload).mp taken
    have read := (lawful alternative member).faithful.decode_encode payload rest isValid
    change (tagged alternatives).decode (encodeAlternatives _ alternatives ++ rest) = _
    -- No other alternative has its tag, so decoding comes back to the one that has encoded.
    rw [encodeAlternatives_of_mem apart member (lawful alternative member)]
    exact decodeAlternatives_of_mem apart member read
  encode_of_decode bytes value rest decoded := by
    cases bytes with
    | nil => cases decoded
    | cons tag after =>
        obtain ⟨alternative, member, rfl, payload, read, rfl⟩ := decodeAlternatives_eq_ok decoded
        obtain ⟨isValid, split⟩ :=
          (lawful alternative member).faithful.encode_of_decode _ _ _ read
        refine ⟨isValid, ?_⟩
        change _ = encodeAlternatives _ alternatives ++ rest
        rw [encodeAlternatives_of_mem apart member (lawful alternative member), split]
        rfl

end StateTransition.Codec
