import StateTransition.Proofs.Chain.Extrinsic
import StateTransition.Proofs.Transaction.Format

set_option autoImplicit false

/-! What is signed for an extrinsic. The bytes that are signed tell the call, the terms and the context
apart, and long ones are hashed to fewer bytes than any that are not; and an extrinsic passes exactly
with a signature of what its receiver puts together for itself. -/

namespace StateTransition

/-! ### The context -/

namespace SignedContext

def codec : Codec SignedContext :=
  (Codec.word.pair (Codec.word.pair ((Codec.octets 32).pair (Codec.octets 32)))).via
    (fun parts => ⟨parts.1, parts.2.1, parts.2.2.1, parts.2.2.2⟩)
    (fun context => (context.spec, context.transaction, context.genesis, context.birth))

private theorem codec_encode (context : SignedContext) : codec.encode context = context.encode := by
  unfold encode
  rw [List.append_assoc, List.append_assoc]
  rfl

theorem codec_faithful : codec.Faithful fun _ => True := by
  have parts := Codec.Faithful.pair (@Codec.word_faithful UInt32 _)
    (Codec.Faithful.pair (@Codec.word_faithful UInt32 _)
      ((Codec.octets_faithful 32).pair (Codec.octets_faithful 32)))
  refine Codec.Faithful.weaken (Codec.Faithful.via parts (fun _ => rfl) fun _ _ => rfl) ?_
  intro context
  simp

private theorem encode_length (context : SignedContext) : context.encode.length = 72 := by
  have word : ∀ value : UInt32, (Codec.word.encode value).length = 4 := fun value =>
    Bytes.littleEndian_length _ _
  unfold encode
  rw [List.length_append, List.length_append, List.length_append, word, word,
    context.genesis.length_eq, context.birth.length_eq]

end SignedContext

/-! ### Statements -/

structure Statement (Number Call : Type) where
  call : Call
  terms : Terms Number
  context : SignedContext
deriving DecidableEq

namespace Statement

variable {Number Call : Type} [Word Number] {callCodec : Codec Call}
variable {left right : Statement Number Call}

def encode (callCodec : Codec Call) (statement : Statement Number Call) : Bytes :=
  callCodec.encode statement.call ++ Terms.codec.encode statement.terms ++ statement.context.encode

def presented (callCodec : Codec Call) (statement : Statement Number Call) : Bytes :=
  signedPayload (callCodec.encode statement.call) statement.terms statement.context.encode

private theorem presented_eq (statement : Statement Number Call) :
    statement.presented callCodec =
      if 256 < (statement.encode callCodec).length then (blake256 (statement.encode callCodec)).bytes
        else statement.encode callCodec := rfl

/-- No statement is as short as a hash. -/
private theorem encode_length (statement : Statement Number Call) :
    72 ≤ (statement.encode callCodec).length := by
  unfold encode
  rw [List.length_append, statement.context.encode_length]
  exact Nat.le_add_left _ _

theorem encode_injective {valid : Call → Prop} (faithful : callCodec.Faithful valid)
    (narrow : Word.width Number ≤ 67) (leftValid : valid left.call ∧ left.terms.era.Made)
    (rightValid : valid right.call ∧ right.terms.era.Made)
    (same : left.encode callCodec = right.encode callCodec) : left = right := by
  have parts := faithful.pair ((Terms.codec_faithful narrow).pair SignedContext.codec_faithful)
  have written : ∀ statement : Statement Number Call,
      (callCodec.pair (Terms.codec.pair SignedContext.codec)).encode
        (statement.call, statement.terms, statement.context) = statement.encode callCodec := by
    intro statement
    unfold encode
    rw [← SignedContext.codec_encode, List.append_assoc]
    rfl
  rw [← written left, ← written right] at same
  have equal := parts.encode_injective ⟨leftValid.1, leftValid.2, trivial⟩
    ⟨rightValid.1, rightValid.2, trivial⟩ same
  obtain ⟨call, terms, context⟩ := left
  obtain ⟨otherCall, otherTerms, otherContext⟩ := right
  cases equal
  rfl

/-- Bytes that are signed alike were alike before they were hashed, unless the hash collides. -/
theorem encode_of_presented
    (apart : blake256 (left.encode callCodec) = blake256 (right.encode callCodec) →
      left.encode callCodec = right.encode callCodec)
    (same : left.presented callCodec = right.presented callCodec) :
    left.encode callCodec = right.encode callCodec := by
  have leftLong : 72 ≤ (left.encode callCodec).length := left.encode_length
  have rightLong : 72 ≤ (right.encode callCodec).length := right.encode_length
  rw [presented_eq, presented_eq] at same
  by_cases first : 256 < (left.encode callCodec).length
  · by_cases second : 256 < (right.encode callCodec).length
    · rw [if_pos first, if_pos second] at same
      apply apart
      generalize blake256 (left.encode callCodec) = one at same ⊢
      generalize blake256 (right.encode callCodec) = two at same ⊢
      cases one
      cases two
      cases same
      rfl
    · rw [if_pos first, if_neg second] at same
      have lengths := congrArg List.length same
      rw [(blake256 _).length_eq] at lengths
      omega
  · by_cases second : 256 < (right.encode callCodec).length
    · rw [if_neg first, if_pos second] at same
      have lengths := congrArg List.length same
      rw [(blake256 _).length_eq] at lengths
      omega
    · rwa [if_neg first, if_neg second] at same

end Statement

/-! ### The context of a state -/

namespace Rules

variable {Account Number : Type} [Word Number]
variable (rules : Rules Account Number)

/-- What is signed beside the call and the terms in this state, for an era that begins at a block of
this hash. -/
def signedContext (store : Store) (birth : Hash) : SignedContext where
  spec := rules.version.spec
  transaction := rules.version.transaction
  genesis := Environment.blockHash (Word.zero : Number) store
  birth := birth

theorem birthHash_iff (era : Era) (store : Store) (hash : Hash) :
    rules.birthHash era store = .ok (.ok hash) ↔
      ∃ birth, era.birth? (Word.convert (Environment.number store : Number)) = some birth ∧
        (Item.blockHash.row (Word.convert birth : Number)).exists? store = true ∧
        Environment.blockHash (Word.convert birth : Number) store = hash := by
  unfold birthHash Environment.blockHash
  cases era.birth? (Word.convert (Environment.number store : Number)) with
  | none => simp
  | some birth =>
      cases known : (Item.blockHash.row (Word.convert birth : Number)).exists? store <;>
        simp [known]

private theorem signedParts_cons (terms : Terms Number) (check : Check) (others : List Check)
    (store : Store) :
    rules.signedParts terms (check :: others) store =
      match rules.signedPart terms check store with
      | .error trap => .error trap
      | .ok (.error cause) => .ok (.error cause)
      | .ok (.ok part) =>
          (rules.signedParts terms others store).map fun found => found.map (part ++ ·) := by
  change Except.bind (rules.signedPart terms check store) _ = _
  cases rules.signedPart terms check store with
  | error trap => rfl
  | ok found =>
      cases found with
      | error cause => rfl
      | ok part =>
          change Except.bind (rules.signedParts terms others store) _ = _
          cases rules.signedParts terms others store <;> rfl

private theorem signedParts_all (terms : Terms Number) (store : Store) :
    rules.signedParts terms Check.all store =
      (rules.birthHash terms.era store).map fun found =>
        found.map fun birth => (rules.signedContext store birth).encode := by
  have births : rules.signedPart terms .mortality store =
      (rules.birthHash terms.era store).map fun found => found.map Octets.bytes := by
    change Except.bind (rules.birthHash terms.era store) _ = _
    cases rules.birthHash terms.era store <;> rfl
  have nothing : rules.signedParts terms [] store = .ok (.ok []) := rfl
  rw [Check.all]
  simp only [signedParts_cons, births, nothing]
  cases rules.birthHash terms.era store with
  | error trap => rfl
  | ok found =>
      cases found with
      | error cause => rfl
      | ok birth =>
          change Except.ok (Except.ok ([] ++ (_ ++ (_ ++ (_ ++ (birth.bytes ++ []))))))  = _
          simp only [List.nil_append, List.append_nil]
          change _ = Except.ok (Except.ok (((_ ++ _) ++ _) ++ _))
          rw [List.append_assoc, List.append_assoc]
          rfl

theorem signedParts_all_iff {terms : Terms Number} {store : Store} {bytes : Bytes} :
    rules.signedParts terms Check.all store = .ok (.ok bytes) ↔
      ∃ birth, rules.birthHash terms.era store = .ok (.ok birth) ∧
        bytes = (rules.signedContext store birth).encode := by
  rw [signedParts_all]
  constructor
  · intro signs
    cases births : rules.birthHash terms.era store with
    | error trap =>
        rw [births] at signs
        cases signs
    | ok found =>
        rw [births] at signs
        cases found with
        | error cause => cases signs
        | ok birth =>
            cases signs
            exact ⟨birth, rfl, rfl⟩
  · rintro ⟨birth, births, rfl⟩
    rw [births]
    rfl

end Rules

/-! ### Checking -/

namespace ExtrinsicForm

variable {Account Number Call Index Proof : Type} [Word Number]
variable {chain : Chain Account Number Call}

/-- An extrinsic with a signature passes exactly if its address is that of an account, the block at
which its era begins is known, and the account has signed the statement that its receiver makes of
it. -/
theorem verified_signed_iff {index : Codec Index} {proof : Codec Proof}
    {verify : Proof → Bytes → Account → Bool}
    (signature : Signature (Address Account Index) Proof Number) (call : Call) (store : Store)
    (checked : CheckedExtrinsic Account Number Call) :
    (verified chain index proof verify).check ⟨some signature, call⟩ store = .ok (.ok checked) ↔
      ∃ who birth, signature.place.resolve? = some who ∧
        chain.rules.birthHash signature.terms.era store = .ok (.ok birth) ∧
        verify signature.proof (Statement.presented chain.callCodec
          ⟨call, signature.terms, chain.rules.signedContext store birth⟩) who = true ∧
        checked = ⟨some (who, signature.terms), call⟩ := by
  constructor
  · intro passes
    unfold verified at passes
    dsimp only at passes
    cases resolved : signature.place.resolve? with
    | none =>
        rw [resolved] at passes
        cases passes
    | some who =>
        rw [resolved] at passes
        obtain ⟨found, signs, verifies⟩ := Query.bind_eq_ok passes
        cases found with
        | error cause => cases verifies
        | ok context =>
            obtain ⟨birth, births, rfl⟩ := (chain.rules.signedParts_all_iff).mp signs
            dsimp only at verifies
            split at verifies
            · rename_i valid
              cases verifies
              exact ⟨who, birth, rfl, births, valid, rfl⟩
            · cases verifies
  · rintro ⟨who, birth, resolved, births, valid, rfl⟩
    have signs := (chain.rules.signedParts_all_iff).mpr ⟨birth, births, rfl⟩
    unfold verified
    dsimp only
    rw [resolved]
    change Except.bind (chain.rules.signedParts signature.terms Check.all store) _ = _
    rw [signs]
    unfold Statement.presented at valid
    dsimp only [Except.bind] at valid ⊢
    rw [if_pos valid]
    rfl

end ExtrinsicForm

end StateTransition
