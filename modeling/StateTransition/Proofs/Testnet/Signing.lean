import StateTransition.Proofs.Testnet.Authoring
import StateTransition.Proofs.Testnet.Format
import StateTransition.Proofs.Testnet.Nonce
import StateTransition.Proofs.Transaction.Signing

set_option autoImplicit false

/-! Signatures of the test network. They stand for one call with its terms in one context, a receiver
accepts no others, and what persons sign is accepted wherever the context is the same. -/

namespace StateTransition.Testnet

/-- The length of each sequence in the call can be written, without which it has no form, and the era
is one that is made. -/
def StatementFits (statement : Statement Number Call) : Prop :=
  statement.call.Short ∧ statement.terms.era.Made

private theorem Person.sign_iff {person : Person} {call : Call} {terms : Terms Number}
    {store : Store} {extrinsic : Extrinsic} :
    person.sign call terms store = .ok (.ok extrinsic) ↔
      ∃ birth, rules.birthHash terms.era store = .ok (.ok birth) ∧
        extrinsic = ⟨some ⟨.id person.account, Ed25519.sign person.seed
          (Statement.presented Call.codec ⟨call, terms, rules.signedContext store birth⟩), terms⟩,
          call⟩ := by
  constructor
  · intro signs
    obtain ⟨found, parts, ends⟩ := Query.bind_eq_ok signs
    cases found with
    | error cause => cases ends
    | ok context =>
        obtain ⟨birth, births, rfl⟩ := rules.signedParts_all_iff.mp parts
        cases ends
        exact ⟨birth, births, rfl⟩
  · rintro ⟨birth, births, rfl⟩
    have parts := rules.signedParts_all_iff.mpr ⟨birth, births, rfl⟩
    change Except.bind (rules.signedParts terms Check.all store) _ = _
    rw [parts]
    rfl

/-- Statements that fit are signed by the same bytes only if they are the same, unless the hash collides
on the two. An extrinsic with a signature passes exactly if its address is that of an account, the
block at which its era begins is known, and the account has signed the statement of this call and
these terms in the context of the state. What a person signs passes in every state of the same
context, if the signature is one that is verified. -/
theorem signatures_cover_statements :
    (∀ left right : Statement Number Call, StatementFits left → StatementFits right →
      (blake256 (left.encode Call.codec) = blake256 (right.encode Call.codec) →
        left.encode Call.codec = right.encode Call.codec) →
      (left.presented Call.codec = right.presented Call.codec ↔ left = right)) ∧
    (∀ (signature : Signature Place Ed25519.Signature Number) (call : Call) (store : Store)
        (checked : CheckedExtrinsic AccountId Number Call),
      form.check ⟨some signature, call⟩ store = .ok (.ok checked) ↔
        ∃ who birth, signature.place.resolve? = some who ∧
          signature.terms.era.birth? (Word.convert (Environment.number store : Number)) =
            some birth ∧
          (Item.blockHash.row (Word.convert birth : Number)).exists? store = true ∧
          Ed25519.verify signature.proof (Statement.presented Call.codec
            ⟨call, signature.terms, ⟨version.spec, version.transaction,
              Environment.blockHash (0 : Number) store,
              Environment.blockHash (Word.convert birth : Number) store⟩⟩) who = true ∧
          checked = ⟨some (who, signature.terms), call⟩) ∧
    ∀ (person : Person) (call : Call) (terms : Terms Number) (before : Store)
        (extrinsic : Extrinsic), person.sign call terms before = .ok (.ok extrinsic) →
      ∃ birth, rules.birthHash terms.era before = .ok (.ok birth) ∧
        let payload :=
          Statement.presented Call.codec ⟨call, terms, rules.signedContext before birth⟩
        Ed25519.verify (Ed25519.sign person.seed payload) payload person.account = true →
          ∀ after later, rules.birthHash terms.era after = .ok (.ok later) →
            rules.signedContext after later = rules.signedContext before birth →
            form.check extrinsic after = .ok (.ok ⟨some (person.account, terms), call⟩) := by
  refine ⟨?_, ?_, ?_⟩
  · intro left right leftFits rightFits apart
    constructor
    · intro same
      exact Statement.encode_injective Call.codec_faithful (by decide) leftFits rightFits
        (Statement.encode_of_presented apart same)
    · rintro rfl
      rfl
  · intro signature call store checked
    refine (ExtrinsicForm.verified_signed_iff signature call store checked).trans ?_
    constructor
    · rintro ⟨who, hash, resolved, births, valid, same⟩
      obtain ⟨birth, begins, known, rfl⟩ := (rules.birthHash_iff _ _ _).mp births
      exact ⟨who, birth, resolved, begins, known, valid, same⟩
    · rintro ⟨who, birth, resolved, begins, known, valid, same⟩
      exact ⟨who, _, resolved, (rules.birthHash_iff _ _ _).mpr ⟨birth, begins, known, rfl⟩, valid,
        same⟩
  · intro person call terms before extrinsic signs
    obtain ⟨birth, births, rfl⟩ := Person.sign_iff.mp signs
    refine ⟨birth, births, ?_⟩
    intro payload valid after later known agrees
    change Ed25519.verify _ (Statement.presented Call.codec
      ⟨call, terms, rules.signedContext before birth⟩) _ = true at valid
    rw [← agrees] at valid
    exact (ExtrinsicForm.verified_signed_iff _ call after _).mpr
      ⟨person.account, later, rfl, known, valid, rfl⟩

/-- Alice signs a remark in the state of the genesis, and it passes in the first block. Two longer
remarks are signed by different bytes. -/
theorem signatures_cover_statements_alice :
    ∃ (start : Store) (begun : World) (extrinsic : Extrinsic) (call : Call) (terms : Terms Number)
      (left right : Statement Number Call),
      Genesis.state ⟨[], .one⟩ = .ok start ∧
      chain.begin { Header.blank 1 with parentHash := Rules.genesisHash } ⟨start, []⟩ =
        .ok () begun ∧
      Person.alice.sign call terms start = .ok (.ok extrinsic) ∧
      form.check extrinsic begun.store = .ok (.ok ⟨some (Person.alice.account, terms), call⟩) ∧
      (∃ birth, Ed25519.verify (Ed25519.sign Person.alice.seed
        (Statement.presented Call.codec ⟨call, terms, rules.signedContext start Rules.genesisHash⟩))
        (Statement.presented Call.codec ⟨call, terms, ⟨version.spec, version.transaction,
          Environment.blockHash (0 : Number) begun.store, birth⟩⟩) Person.alice.account = true) ∧
      256 < (left.encode Call.codec).length ∧ 256 < (right.encode Call.codec).length ∧
      left.presented Call.codec ≠ right.presented Call.codec := by
  let start : Store := (Action.ending (rules.begin ⟨[], .one⟩) ⟨.empty, []⟩).store.flatten
  have state : Genesis.state ⟨[], .one⟩ = .ok start := Genesis.state_of_answer (by decide +kernel)
  let header : Header Number := { Header.blank 1 with parentHash := Rules.genesisHash }
  let begun := Action.ending (chain.begin header) ⟨start, []⟩
  have begins : chain.begin header ⟨start, []⟩ = .ok () begun :=
    Action.run_of_answer_ok (by decide +kernel)
  let call : Call := .system (.remark [])
  let terms : Terms Number := ⟨.around 64 0, 0, 5⟩
  let context := rules.signedContext start Rules.genesisHash
  let payload := Statement.presented Call.codec ⟨call, terms, context⟩
  let extrinsic : Extrinsic :=
    ⟨some ⟨.id Person.alice.account, Ed25519.sign Person.alice.seed payload, terms⟩, call⟩
  let long (size : Nat) : Statement Number Call :=
    ⟨.system (.remark (List.replicate size 0)), terms, context⟩
  have births : rules.birthHash terms.era start = .ok (.ok Rules.genesisHash) ∧
      rules.birthHash terms.era begun.store = .ok (.ok Rules.genesisHash) ∧
      rules.signedContext begun.store Rules.genesisHash = context := by decide +kernel
  have verified : Ed25519.verify (Ed25519.sign Person.alice.seed payload) payload
      Person.alice.account = true := by decide +kernel
  have signs : Person.alice.sign call terms start = .ok (.ok extrinsic) :=
    Person.sign_iff.mpr ⟨_, births.1, rfl⟩
  have hashes : blake256 ((long 300).encode Call.codec) ≠ blake256 ((long 301).encode Call.codec) ∧
      256 < ((long 300).encode Call.codec).length ∧
      256 < ((long 301).encode Call.codec).length := by decide +kernel
  obtain ⟨injective, accepts, passes⟩ := signatures_cover_statements
  obtain ⟨birth, known, passing⟩ := passes .alice call terms start extrinsic signs
  rw [births.1] at known
  cases known
  have checked := passing verified begun.store Rules.genesisHash births.2.1 births.2.2
  obtain ⟨who, later, resolved, _, _, valid, _⟩ := (accepts _ call begun.store _).mp checked
  rw [← Option.some.inj resolved] at valid
  have fits : ∀ size < 302, StatementFits (long size) := by
    intro size small
    refine ⟨?_, Or.inr ⟨64, 0, rfl⟩⟩
    change (List.replicate size 0).length < 4294967296
    rw [List.length_replicate]
    omega
  have apart := (injective (long 300) (long 301) (fits 300 (by decide)) (fits 301 (by decide))
    fun same => absurd same hashes.1).not.mpr (by decide +kernel)
  exact ⟨start, begun, extrinsic, call, terms, long 300, long 301, state, begins, signs, checked,
    ⟨_, valid⟩, hashes.2.1, hashes.2.2, apart⟩

end StateTransition.Testnet
