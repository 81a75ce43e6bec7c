import StateTransition.Proofs.Testnet.Frame

set_option autoImplicit false

/-! Queries of the host. What is asked of the network, or cannot be read, leaves nothing that can be
seen, whatever the answer is. The pool asks for a block that does not exist yet: its beginning is
written and thrown away again. -/

namespace StateTransition.Testnet

namespace Entry

def queries : List String :=
  ["Core_version", "BlockBuilder_inherent_extrinsics", "BlockBuilder_check_inherents",
    "TaggedTransactionQueue_validate_transaction", "TransactionPaymentApi_query_info",
    "TransactionPaymentApi_query_fee_details", "TransactionPaymentCallApi_query_call_info",
    "TransactionPaymentCallApi_query_call_fee_details"]

/-! ### Refusals -/

/-- An entry point that refuses its input does so without a look at the state. -/
def RefusesBlindly (method : Bytes → Action (Except CodecError Bytes)) : Prop :=
  ∀ (input : Bytes) (cause : CodecError) (before after : World),
    method input before = .ok (.error cause) after →
      ∀ world, method input world = .ok (.error cause) world

section

variable {α β : Type} {arguments : Codec α} {answer : Codec β}

private theorem refuses_taking {run : α → Action β} :
    RefusesBlindly (taking arguments answer run) := by
  intro input cause before after refused world
  cases decoded : arguments.decodeAll input with
  | error found =>
      rw [taking_of_error run decoded] at refused ⊢
      cases refused
      rfl
  | ok given =>
      rw [taking_of_ok run decoded] at refused
      obtain ⟨value, _, answers⟩ := Action.map_eq_ok refused
      cases answers

private theorem refuses_ignoring {run : Action β} : RefusesBlindly (ignoring answer run) := by
  intro input cause before after refused
  obtain ⟨value, _, answers⟩ := Action.map_eq_ok refused
  cases answers

end

private theorem methods_refuse : ∀ entry ∈ methods, RefusesBlindly entry.2 := by
  unfold methods
  simp only [List.forall_mem_cons, List.not_mem_nil, false_implies, implies_true, and_true]
  exact ⟨refuses_ignoring, refuses_taking, refuses_taking, refuses_taking, refuses_ignoring,
    refuses_taking, refuses_taking, refuses_taking, refuses_taking, refuses_taking, refuses_taking,
    refuses_taking⟩

/-! ### Questions -/

/-- Nothing can be seen of what an entry point does, however it ends. -/
def Unseen (method : Bytes → Action (Except CodecError Bytes)) : Prop :=
  ∀ (input : Bytes) (before : World), Layer.Leveled before.store →
    Layer.Untouched before.store (Action.ending (method input) before).store

section

variable {α β : Type} {arguments : Codec α} {answer : Codec β}

private theorem unseen_taking {run : α → Action β}
    (body : ∀ given before, Layer.Leveled before.store →
      Layer.Untouched before.store (Action.ending (run given) before).store) :
    Unseen (taking arguments answer run) := by
  intro input before leveled
  cases decoded : arguments.decodeAll input with
  | error cause =>
      rw [Action.ending_of_run (taking_of_error run decoded before)]
      exact Layer.Untouched.refl before.store
  | ok given =>
      rw [taking_of_ok run decoded, Action.map_ending]
      exact body given before leveled

private theorem unseen_ignoring (value : β) : Unseen (ignoring answer (return value)) :=
  fun _ before _ => Layer.Untouched.refl before.store

private theorem unseen_asking {query : α → Query β} :
    Unseen (taking arguments answer fun given => Action.ask (query given)) := by
  apply unseen_taking
  intro given before _
  rw [Action.ask_ending]
  exact Layer.Untouched.refl before.store

private theorem unseen_looking {view : α → Store → β} :
    Unseen (taking arguments answer fun given => Action.look (view given)) :=
  unseen_taking fun _ before _ => Layer.Untouched.refl before.store

end

private theorem queries_unseen : ∀ entry ∈ methods, entry.1 ∈ queries → Unseen entry.2 := by
  unfold methods
  simp only [List.forall_mem_cons, List.not_mem_nil, false_implies, implies_true, and_true]
  refine ⟨fun _ => unseen_ignoring version, ?begins, ?executes, ?applies, ?finishes,
    fun _ => unseen_asking, fun _ => unseen_asking, fun _ => ?validates, fun _ => unseen_looking,
    fun _ => unseen_looking, fun _ => unseen_looking, fun _ => unseen_looking⟩
  case validates =>
    apply unseen_taking
    intro (source, extrinsic, hash) before leveled
    exact validateTransaction_untouched source extrinsic hash leveled
  -- The others are the ones that work on the state.
  all_goals
    intro asks
    exact absurd asks (by decide)

/-! ### Calls -/

private theorem call_refused {name : String} {input : Bytes} {cause : EntryError}
    {before after : World}
    (refused : call name input before = .ok (.error cause) after) (world : World) :
    call name input world = .ok (.error cause) world := by
  rcases call_run name input with ⟨_, unknown⟩ | ⟨method, member, calls⟩
  · rw [unknown] at refused ⊢
    cases refused
    rfl
  · rw [calls] at refused ⊢
    obtain ⟨found, ran, answers⟩ := Action.map_eq_ok refused
    cases found with
    | ok output => cases answers
    | error unreadable =>
        cases answers
        have everywhere : method input world = .ok (.error unreadable) world :=
          methods_refuse _ member input unreadable before after ran world
        rw [Action.map_run, everywhere]
        rfl

private theorem call_unseen {name : String} (asks : name ∈ queries) (input : Bytes) {before : World}
    (leveled : Layer.Leveled before.store) :
    Layer.Untouched before.store (Action.ending (call name input) before).store := by
  rcases call_run name input with ⟨_, unknown⟩ | ⟨method, member, calls⟩
  · rw [unknown]
    exact Layer.Untouched.refl before.store
  · rw [calls, Action.map_ending]
    exact queries_unseen _ member asks input before leveled

/-- A call that is refused changes nothing, and is refused in the same way in every other state; a
query leaves the visible state and the open layers as they were, however it ends. -/
theorem queries_change_nothing (name : String) (input : Bytes) (before : World) :
    (∀ cause after, call name input before = .ok (.error cause) after →
      after = before ∧ ∀ world, call name input world = .ok (.error cause) world) ∧
    (Layer.Leveled before.store → name ∈ queries →
      (∀ answer after, call name input before = .ok answer after →
        after.store.visible = before.store.visible ∧ after.store.depth = before.store.depth) ∧
      ∀ trap after, call name input before = .error trap after →
        after.store.visible = before.store.visible ∧ after.store.depth = before.store.depth) := by
  constructor
  · intro cause after refused
    have everywhere := call_refused refused
    have again := everywhere before
    rw [refused] at again
    cases again
    exact ⟨rfl, everywhere⟩
  · intro leveled asks
    have untouched := call_unseen asks input leveled
    constructor
    · intro answer after run
      rw [Action.ending_of_run run] at untouched
      exact ⟨untouched.visible, untouched.depth⟩
    · intro trap after run
      rw [Action.ending, run] at untouched
      exact ⟨untouched.visible, untouched.depth⟩

/-- Inside of a layer, at the last level at which there is room for one more: a transaction that comes
too early is judged valid, one whose account cannot pay is not, and one with a byte too many cannot
be read. The store stays what it was each time. The signatures are ones by the neutral point of the
curve. -/
theorem queries_change_nothing_inside :
    ∃ (before : World) (early poor : Bytes),
      let asks := call "TaggedTransactionQueue_validate_transaction"
      let stays := fun after : World =>
        after.store.visible = before.store.visible ∧ after.store.depth = before.store.depth
      Layer.level before.store = 254 ∧ before.store.depth = 1 ∧
      (∃ valid after, asks early before = .ok (.ok (Validity.codec.encode (.ok valid))) after ∧
        valid.requires ≠ [] ∧ stays after) ∧
      (∃ after, asks poor before =
        .ok (.ok (Validity.codec.encode (.error (.invalid .payment)))) after ∧ stays after) ∧
      ∃ cause, asks (early ++ [0]) before = .ok (.error cause) before := by
  let who : AccountId := ⟨1 :: List.replicate 31 0, rfl⟩
  let proof : Octets 64 := ⟨1 :: List.replicate 63 0, rfl⟩
  let input (nonce : Number) (tip : Balance) : Bytes :=
    (TransactionSource.codec.pair (form.codec.pair (.octets 32))).encode
      (.external, ⟨some ⟨.id who, proof, ⟨.immortal, nonce, tip⟩⟩, .system (.remark [])⟩,
        .filled 32 9)
  let valid : ValidTransaction := ⟨37095, [rules.nonceTag who 4], [rules.nonceTag who 5],
    18446744073709551613, true⟩
  let before : World := ⟨(rules.accountSlot who).put ⟨3, 0, 1, 0, 1000000000000⟩
    (Item.number.put (1 : Number) ((Item.blockHash.row (0 : Number)).put Rules.genesisHash
      (Store.empty.put Layer.levelKey (Codec.word.encode (254 : UInt32))))).openLayer, []⟩
  let asks := call "TaggedTransactionQueue_validate_transaction"
  have answers :
      Action.answer (asks (input 5 0)) before =
        .ok (.ok (Validity.codec.encode (.ok valid))) ∧
      Action.answer (asks (input 3 1000000000000)) before =
        .ok (.ok (Validity.codec.encode (.error (.invalid .payment)))) ∧
      Action.answer (asks (input 5 0 ++ [0])) before = .ok (.error (.badInput .malformed)) := by
    decide +kernel
  have leveled : Layer.Leveled before.store :=
    Or.inr ⟨254, by decide, by decide, by decide +kernel⟩
  have judges := Action.run_of_answer_ok answers.1
  have rejects := Action.run_of_answer_ok answers.2.1
  have refuses := Action.run_of_answer_ok answers.2.2
  have asking : "TaggedTransactionQueue_validate_transaction" ∈ queries := by decide
  have stays (nonce : Number) (tip : Balance) :=
    ((queries_change_nothing _ (input nonce tip) before).2 leveled asking).1
  refine ⟨before, input 5 0, input 3 1000000000000, by decide +kernel, by decide +kernel,
    ⟨valid, _, judges, List.cons_ne_nil _ _, stays _ _ _ _ judges⟩,
    ⟨_, rejects, stays _ _ _ _ rejects⟩, .badInput .malformed, ?_⟩
  exact ((queries_change_nothing _ _ before).1 _ _ refuses).2 before

end Entry

end StateTransition.Testnet
