import StateTransition.Proofs.Chain.Beginning
import StateTransition.Proofs.Transaction.Pool

set_option autoImplicit false

/-! The block that the pool has in mind. It is not begun with hooks and upgrades, but its number and
what it follows on are set up in a layer that is thrown away. A transaction finds the same there as
in the block that is begun in fact. -/

namespace StateTransition.Chain

variable {Account Number Call Form : Type} [Word Number]
variable {chain : Chain Account Number Call} {form : ExtrinsicForm Account Number Call Form}
variable {keys : Bytes → Prop}

/-- The store in which the pool judges a transaction for the block after the current one. -/
def judging (Number : Type) [Word Number] (current : Hash) (world : World) : Store :=
  Environment.setUp
    (Word.saturatingAdd (Environment.number (Layer.enteredWorld world).store : Number) Word.one)
    current [] (Layer.enteredWorld world).store

private theorem entered_number (world : World) :
    (Environment.number (Layer.enteredWorld world).store : Number) =
      Environment.number world.store :=
  Slot.get_congr _ (Layer.entered_get? world
    (Item.Name.head_ne (by decide : Item.Name.number ≠ .level)))

/-- The pool judges by what is found in the block that comes next. -/
theorem judging_alike (isLocal : chain.BeginsLocal keys)
    (outside : ∀ key, Item.Under judgedNames key → ¬keys key) {header : Header Number}
    {before begun : World}
    (next : header.number = Word.saturatingAdd (Environment.number before.store) Word.one)
    (begins : chain.begin header before = .ok () begun) :
    JudgedAlike (judging Number header.parentHash before) begun.store := by
  intro key judged
  have notLevel : key ≠ Layer.levelKey := by
    rintro rfl
    exact Item.not_under_head .level (by decide) judged
  have notDigest : key ≠ Item.digest.key := by
    rintro rfl
    exact Item.not_under_head .digest (by decide) judged
  have begun := begin_sets_up isLocal (outside key judged) (judged.apart (by decide)) begins []
  unfold judging
  rw [entered_number, ← next, begun]
  exact Environment.get?_setUp_congr (Layer.entered_get? before notLevel) notDigest _ _ _ _

variable {source : TransactionSource} {extrinsic : Form} {current : Hash} {world : World}
variable {valid : ValidTransaction}

theorem validateNext_iff (mild : (form.info extrinsic).kind ≠ .mandatory) {after : World} :
    (chain.validateNext form source extrinsic current).run (Layer.enteredWorld world) =
        .ok (.ok valid) after ↔
      (∃ checked, form.check extrinsic (judging Number current world) = .ok (.ok checked) ∧
        chain.validate source checked (form.info extrinsic)
          (form.codec.encode extrinsic).length (judging Number current world) =
            .ok (.ok valid)) ∧
        after = ⟨judging Number current world, world.notes⟩ := by
  have looks : (Attempt.look fun store =>
      (Word.saturatingAdd (Environment.number store : Number) Word.one : Number) :
        Attempt Rejection Number).run (Layer.enteredWorld world) =
      .ok (.ok (Word.saturatingAdd
        (Environment.number (Layer.enteredWorld world).store : Number) Word.one))
        (Layer.enteredWorld world) := rfl
  have begins : (liftM (Action.change (Environment.setUp (Word.saturatingAdd
      (Environment.number (Layer.enteredWorld world).store : Number) Word.one) current [])) :
        Attempt Rejection Unit).run (Layer.enteredWorld world) =
      .ok (.ok ()) ⟨judging Number current world, world.notes⟩ :=
    Attempt.lift_run_ok (Action.change_run _ _)
  unfold validateNext
  rw [Attempt.bind_run_ok looks, Attempt.bind_run_ok begins]
  constructor
  · intro run
    obtain ⟨checked, _, asks, later⟩ := Attempt.bind_eq_ok run
    obtain ⟨passes, rfl⟩ := Attempt.ask_eq_ok asks
    dsimp only at later
    rw [if_neg mild] at later
    obtain ⟨validated, rfl⟩ := Attempt.ask_eq_ok later
    exact ⟨⟨checked, passes, validated⟩, rfl⟩
  · rintro ⟨⟨checked, passes, validated⟩, rfl⟩
    have asks : (Attempt.ask (form.check extrinsic)).run
        ⟨judging Number current world, world.notes⟩ =
        .ok (.ok checked) ⟨judging Number current world, world.notes⟩ :=
      Action.ask_of_ok passes
    rw [Attempt.bind_run_ok asks]
    dsimp only
    rw [if_neg mild]
    exact Action.ask_of_ok validated

theorem validateTransaction_iff (outside : world.store.get? Layer.levelKey = none)
    (mild : (form.info extrinsic).kind ≠ .mandatory) :
    (∃ after, chain.validateTransaction form source extrinsic current world =
        .ok (.ok valid) after) ↔
      ∃ checked, form.check extrinsic (judging Number current world) = .ok (.ok checked) ∧
        chain.validate source checked (form.info extrinsic)
          (form.codec.encode extrinsic).length (judging Number current world) =
            .ok (.ok valid) := by
  have free : ¬Layer.limit ≤ Layer.level world.store := by
    rw [Layer.level_eq_zero_of_absent outside]
    decide
  unfold validateTransaction
  rw [Layer.hypothetically_run _ free]
  constructor
  · rintro ⟨after, run⟩
    cases ran : (chain.validateNext form source extrinsic current).run
        (Layer.enteredWorld world) with
    | error cause ended =>
        rw [ran] at run
        cases run
    | ok verdict ended =>
        rw [ran] at run
        cases run
        exact ((validateNext_iff mild).mp ran).1
  · intro judged
    rw [(validateNext_iff mild).mpr ⟨judged, rfl⟩]
    exact ⟨_, rfl⟩

end StateTransition.Chain
