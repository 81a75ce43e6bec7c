import StateTransition.Proofs.Chain.Block
import StateTransition.Proofs.Fee.Multiplier
import StateTransition.Testnet.Network
import StateTransition.Trial.Chain

set_option autoImplicit false

/-! The multiplier of weight fees from block to block. Whatever is done in between, it lies between
its bounds whenever a block has ended. -/

namespace StateTransition

/-! ### What a run leaves alone -/

namespace Action

variable {α β : Type} {view : Store → β}

def Keeps (view : Store → β) (body : Action α) : Prop :=
  ∀ world value after, body world = .ok value after → view after.store = view world.store

theorem Keeps.note (text : String) : Keeps view (Action.note text) := by
  intro world _ after run
  cases run
  rfl

theorem Keeps.forM {items : List α} {step : α → Action PUnit}
    (keeps : ∀ item ∈ items, Keeps view (step item)) : Keeps view (items.forM step) := by
  induction items with
  | nil =>
      intro world _ after run
      cases run
      rfl
  | cons first others ih =>
      intro world _ after run
      obtain ⟨_, middle, atFirst, atOthers⟩ := Action.bind_eq_ok run
      have later := ih fun item member => keeps item (List.mem_cons_of_mem _ member)
      exact (later middle _ after atOthers).trans
        (keeps first List.mem_cons_self world _ middle atFirst)

end Action

namespace Chain

variable {Account Number Call Form : Type} [DecidableEq Account] [Word Number]
variable {chain : Chain Account Number Call}
variable {form : ExtrinsicForm Account Number Call Form}

/-- The multiplier is moved at the end of every block, and what is done there after that leaves it
as it is. -/
def UpdatesMultiplier (chain : Chain Account Number Call) : Prop :=
  ∃ earlier later,
    chain.finishHooks = earlier ++ (fun _ => chain.rules.updateMultiplier) :: later ∧
      ∀ hook ∈ later, ∀ number, Action.Keeps Item.nextMultiplier.get (hook number)

/-! ### The end of a block -/

section

omit [DecidableEq Account]

private theorem finishBlock_keeps_multiplier (rules : Rules Account Number) (store : Store) :
    Item.nextMultiplier.get (rules.finishBlock store).2 = Item.nextMultiplier.get store := by
  have acts := rules.finishBlock_acts (.under fun _ member => member)
  exact Slot.get_congr _
    (acts.isLocal.spares store _ (Item.not_under_head .nextMultiplier (by decide)))

private theorem idleAndFinish_moves (updates : chain.UpdatesMultiplier) {number : Number}
    {world after : World} (run : chain.idleAndFinish number world = .ok () after) :
    ∃ previous store,
      chain.rules.multiplierAfter previous store = .ok (Item.nextMultiplier.get after.store) := by
  obtain ⟨earlier, later, hooks, keeps⟩ := updates
  obtain ⟨_, idled, _, finishes⟩ := Action.bind_eq_ok run
  rw [hooks, List.map_append, List.map_cons, List.forM_eq_forM, List.forM_append,
    List.forM_cons] at finishes
  obtain ⟨_, middle, _, fromUpdate⟩ := Action.bind_eq_ok finishes
  obtain ⟨_, updated, update, others⟩ := Action.bind_eq_ok fromUpdate
  have kept : Action.Keeps Item.nextMultiplier.get ((later.map (· number)).forM id) := by
    apply Action.Keeps.forM
    intro hook member
    obtain ⟨finishHook, among, rfl⟩ := List.mem_map.mp member
    exact keeps finishHook among number
  refine ⟨Item.nextMultiplier.get middle.store, middle.store, ?_⟩
  rw [kept _ _ _ others]
  exact Rules.updateMultiplier_eq_ok update

private theorem sealing_moves (updates : chain.UpdatesMultiplier) {number : Number}
    {world after : World} {header : Header Number}
    (run : chain.sealing number world = .ok header after) :
    ∃ previous store,
      chain.rules.multiplierAfter previous store = .ok (Item.nextMultiplier.get after.store) := by
  obtain ⟨finished, finishes, seals⟩ := sealing_eq_ok run
  have kept := finishBlock_keeps_multiplier chain.rules finished.store
  rw [seals] at kept
  rw [kept]
  exact idleAndFinish_moves updates finishes

end

/-! ### Runs of blocks -/

/-- The runs of a chain, with the worlds in which blocks have ended, the last of them first. A block
is ended by its author, or it is imported as a whole. In between anything may be done: blocks begin,
extrinsics are applied, and calls are made on behalf of whom ever. -/
inductive Built (chain : Chain Account Number Call) (form : ExtrinsicForm Account Number Call Form)
    (start : World) : List World → World → Prop where
  | start : Built chain form start [] start
  | between {ended : List World} {world after : World} {α : Type} {body : Action α} {value : α}
      (built : Built chain form start ended world) (run : body world = .ok value after) :
      Built chain form start ended after
  | finished {ended : List World} {world after : World} {header : Header Number}
      (built : Built chain form start ended world)
      (run : chain.finish world = .ok header after) :
      Built chain form start (after :: ended) after
  | imported {ended : List World} {world after : World} {block : Block Number Form}
      (built : Built chain form start ended world)
      (run : chain.execute form block world = .ok () after) :
      Built chain form start (after :: ended) after

theorem Built.moved (updates : chain.UpdatesMultiplier) {start last : World} {ended : List World}
    (built : chain.Built form start ended last) :
    ∀ after ∈ ended, ∃ previous store,
      chain.rules.multiplierAfter previous store = .ok (Item.nextMultiplier.get after.store) := by
  induction built with
  | start => exact List.forall_mem_nil _
  | between _ _ ih => exact ih
  | finished _ run ih =>
      rw [finish_seals] at run
      exact List.forall_mem_cons.mpr ⟨sealing_moves updates run, ih⟩
  | imported _ run ih =>
      obtain ⟨_, _, _, _, _, _, seals, _⟩ := execute_iff.mp run
      exact List.forall_mem_cons.mpr ⟨sealing_moves updates seals, ih⟩

end Chain

/-! ### The chains -/

theorem Testnet.updatesMultiplier : Testnet.chain.UpdatesMultiplier :=
  ⟨[fun _ => Timestamp.finish], [], rfl, List.forall_mem_nil _⟩

theorem Trial.Settings.updatesMultiplier (settings : Trial.Settings) :
    settings.chain.UpdatesMultiplier :=
  ⟨[Trial.Settings.finishHook "a"], [Trial.Settings.finishHook "b"], rfl,
    List.forall_mem_singleton.mpr fun _ => Action.Keeps.note _⟩

namespace Rules

variable {Account Number : Type} [DecidableEq Account] [Word Number]

/-- A targeted multiplier always has a next value, and no division on the way to it fails. It lies
between the bounds. With `start` for the multiplier before, raised to the least one, a block that
is at least as full as it should be does not lower it, another does not raise it, and one that is
exactly as full as it should be leaves it where it is. In every run of a chain with these rules the
multiplier lies between the bounds whenever a block has ended. -/
theorem multiplier_follows_target (rules : Rules Account Number) {target : Perquintill}
    {variability least most : Fixed}
    (targeted : rules.multiplierRule = .targeted target variability least most)
    (ordered : least.toNat ≤ most.toNat) :
    (∀ previous store, ∃ next,
      rules.multiplierAfterOrTrap previous store = .ok next ∧
        rules.multiplierAfter previous store = .ok next ∧
        least.toNat ≤ next.toNat ∧ next.toNat ≤ most.toNat ∧
        let start := max previous.toNat least.toNat
        let used := (rules.limiting store).1.toNat
        let wanted := target.of (rules.limiting store).2.toNat
        (wanted ≤ used → min start most.toNat ≤ next.toNat) ∧
          (used < wanted → next.toNat ≤ start) ∧
          (used = wanted → next.toNat = max least.toNat (min start most.toNat))) ∧
      ∀ (Call Form : Type) (chain : Chain Account Number Call)
        (form : ExtrinsicForm Account Number Call Form),
        chain.rules = rules → chain.UpdatesMultiplier →
        ∀ start ended last, chain.Built form start ended last →
        ∀ after ∈ ended, least.toNat ≤ (Item.nextMultiplier.get after.store).toNat ∧
          (Item.nextMultiplier.get after.store).toNat ≤ most.toNat := by
  have bounded {previous next : Fixed} {store : Store}
      (found : rules.multiplierAfter previous store = .ok next) :
      least.toNat ≤ next.toNat ∧ next.toNat ≤ most.toNat := by
    obtain ⟨clamped, same, value⟩ := multiplierAfter_clamped targeted ordered previous store
    cases same.symm.trans found
    omega
  constructor
  · intro previous store
    obtain ⟨next, found, value⟩ := multiplierAfter_clamped targeted ordered previous store
    have raised := toNat_fixedMax previous least
    refine ⟨next, (multiplierAfterOrTrap_eq previous store).trans found, found,
      (bounded found).1, (bounded found).2, ?_, ?_, ?_⟩
    · intro enough
      have grown := le_moved (previous.max least) variability enough
      omega
    · intro scarce
      have shrunk := moved_le (previous.max least) variability scarce
      omega
    · intro exact
      rw [moved_of_exact (previous.max least) variability exact] at value
      omega
  · rintro Call Form chain form rfl updates start ended last built after member
    obtain ⟨previous, store, found⟩ := built.moved updates after member
    exact bounded found

/-- On the test network a block that is full does not lower the multiplier, and at its end the
multiplier is at least a tenth. -/
theorem multiplier_follows_target_of_full :
    ∃ (header : Header Testnet.Number) (next : Fixed) (world after : World),
      Testnet.rules.multiplierAfter .one world.store = .ok next ∧
        Fixed.one.toNat ≤ next.toNat ∧
        Testnet.chain.finish world = .ok header after ∧
        100000000000000000 ≤ (Item.nextMultiplier.get after.store).toNat := by
  let consumed : ConsumedWeight := ⟨Testnet.rules.normalLimit, .zero, .zero⟩
  let world : World := ⟨Item.blockWeight.put consumed (Timestamp.isSet.put true .empty), []⟩
  obtain ⟨header, finishes⟩ : ∃ header, Testnet.chain.finish world =
      .ok header (Action.ending Testnet.chain.finish world) := by
    cases answered : Action.answer Testnet.chain.finish world with
    | ok header => exact ⟨header, Action.run_of_answer_ok answered⟩
    | error cause =>
        have ends : (Action.answer Testnet.chain.finish world).isOk = true := by decide +kernel
        rw [answered] at ends
        cases ends
  obtain ⟨moves, built⟩ := multiplier_follows_target Testnet.rules rfl (by decide)
  obtain ⟨next, _, found, _, _, rises, _⟩ := moves .one world.store
  have grown := rises (by decide +kernel)
  have within := built _ _ Testnet.chain Testnet.form rfl Testnet.updatesMultiplier world
    [Action.ending Testnet.chain.finish world] _ (.finished .start finishes) _
    (List.mem_singleton.mpr rfl)
  exact ⟨header, next, world, _, found, grown, finishes, within.1⟩

end Rules

end StateTransition
