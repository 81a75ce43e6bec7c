import Mathlib.Data.List.Induction
import StateTransition.Proofs.Chain.Trap
import StateTransition.Proofs.Limits.Ledger

set_option autoImplicit false

/-! What is done with the weight that is left at the end of a block. The hooks take turns, beginning
with another one in every block; each is given what those before it have left, and what they use is
charged to the block. -/

namespace StateTransition

variable {Account Number Call : Type} [Word Number]

namespace Chain

variable {chain : Chain Account Number Call}

/-! ### The order of the turns -/

def idleOrder (chain : Chain Account Number Call) (number : Number) :
    List (Number → Weight → Action Weight) :=
  rotate chain.idleHooks (Word.toNat number)

theorem idleOrder_perm (chain : Chain Account Number Call) (number : Number) :
    (chain.idleOrder number).Perm chain.idleHooks := by
  rw [idleOrder, rotate_eq]
  exact List.rotate_perm _ _

private theorem idleOrder_place (number : Number) {offset : Nat}
    (within : offset < chain.idleHooks.length) :
    (chain.idleOrder number)[offset]? =
      chain.idleHooks[(Word.toNat number + offset) % chain.idleHooks.length]? := by
  rw [idleOrder, rotate_eq, List.getElem?_rotate within, Nat.add_comm]

/-! ### Turns -/

/-- A hook that was served: what it was given, and what it said that it has used. -/
structure Turn (Number : Type) where
  hook : Number → Weight → Action Weight
  given : Weight
  used : Weight

def spent (turns : List (Turn Number)) : Weight :=
  turns.foldl (fun sum turn => sum.saturatingAdd turn.used) .zero

/-- Turns that were taken one after the other, from a world on to another. Each hook is given what
those before it have left. -/
inductive Served (number : Number) (remaining : Weight) (start : World) :
    List (Turn Number) → World → Prop
  | none : Served number remaining start [] start
  | turn {turns : List (Turn Number)} {hook : Number → Weight → Action Weight} {used : Weight}
      {between after : World} :
      Served number remaining start turns between →
      hook number (remaining.saturatingSub (spent turns)) between = .ok used after →
      Served number remaining start
        (turns ++ [⟨hook, remaining.saturatingSub (spent turns), used⟩]) after

/-- What comes of serving hooks in an order. In the end every one has had its turn, and the answer is
what they have used together; or one of them was trapped, after a turn of each before it. -/
def Serves (number : Number) (remaining : Weight)
    (order : List (Number → Weight → Action Weight)) (start : World) :
    EStateM.Result Trap World Weight → Prop
  | .ok used after => ∃ turns, Served number remaining start turns after ∧
      turns.map Turn.hook = order ∧ used = spent turns
  | .error cause after => ∃ turns between hook others,
      Served number remaining start turns between ∧
      order = turns.map Turn.hook ++ hook :: others ∧
      hook number (remaining.saturatingSub (spent turns)) between = .error cause after

section

variable {number : Number} {remaining : Weight} {start after : World}
variable {turns : List (Turn Number)}

omit [Word Number] in
private theorem spent_concat (turns : List (Turn Number)) (turn : Turn Number) :
    spent (turns ++ [turn]) = (spent turns).saturatingAdd turn.used := by
  unfold spent
  rw [List.foldl_append]
  rfl

private theorem useRemaining_concat (remaining : Weight) (hooks : List (Weight → Action Weight))
    (hook : Weight → Action Weight) :
    useRemaining remaining (hooks ++ [hook]) = (do
      let used ← useRemaining remaining hooks
      return used.saturatingAdd (← hook (remaining.saturatingSub used))) := by
  unfold useRemaining
  rw [List.foldlM_append]
  congr 1
  funext used
  rw [List.foldlM_cons]
  exact bind_pure _

omit [Word Number] in
private theorem useRemaining_serves (number : Number) (remaining : Weight)
    (order : List (Number → Weight → Action Weight)) (start : World) :
    Serves number remaining order start
      (useRemaining remaining (order.map (· number)) start) := by
  -- What a hook is given depends on those before it, so the last one is split off.
  induction order using List.reverseRecOn with
  | nil => exact ⟨[], .none, rfl, rfl⟩
  | append_singleton hooks hook ih =>
      rw [List.map_append, List.map_singleton, useRemaining_concat, Action.bind_run]
      cases ran : useRemaining remaining (hooks.map (· number)) start with
      | error cause after =>
          rw [ran] at ih
          obtain ⟨turns, between, trapped, others, served, rfl, trap⟩ := ih
          refine ⟨turns, between, trapped, others ++ [hook], served, ?_, trap⟩
          rw [List.append_assoc, List.cons_append]
      | ok used between =>
          rw [ran] at ih
          obtain ⟨turns, served, rfl, rfl⟩ := ih
          dsimp only
          rw [Action.bind_run]
          cases turn : hook number (remaining.saturatingSub (spent turns)) between with
          | error cause after => exact ⟨turns, between, hook, [], served, rfl, turn⟩
          | ok used after =>
              refine ⟨_, served.turn turn, ?_, (spent_concat turns ⟨hook, _, used⟩).symm⟩
              rw [List.map_append]
              rfl

/-! ### What is used -/

omit [Word Number] in
/-- Hooks that use no more than they are given do not use more together than there was. -/
theorem spent_within {dimension : Dimension} (served : Served number remaining start turns after)
    (frugal : ∀ turn ∈ turns, turn.used.along dimension ≤ turn.given.along dimension) :
    (spent turns).along dimension ≤ remaining.along dimension := by
  induction served with
  | none =>
      rw [spent, List.foldl_nil, Weight.along_zero]
      exact Nat.zero_le _
  | turn served turn ih =>
      have before := ih fun turn member => frugal turn (List.mem_append_left _ member)
      have last := frugal _ (List.mem_append_right _ (List.mem_singleton_self _))
      dsimp only at last
      rw [Weight.along_saturatingSub] at last
      rw [spent_concat, Weight.along_saturatingAdd]
      dsimp only
      omega

/-! ### The charge -/

def blockTotal (world : World) : Weight := (Item.blockWeight.get world.store).total

/-- The world in which the weight that hooks have used is charged to the block. -/
def charged (used : Weight) (world : World) : World :=
  { world with store := Environment.addWeight used .mandatory world.store }

private theorem along_total_add (consumed : ConsumedWeight) (weight : Weight)
    (dimension : Dimension) :
    (consumed.add weight .mandatory).total.along dimension =
      min (consumed.total.along dimension + weight.along dimension) 18446744073709551615 := by
  have before := BlockWeights.along_total consumed dimension
  have after := BlockWeights.along_total (consumed.add weight .mandatory) dimension
  change _ = min (consumed.normal.along dimension + consumed.operational.along dimension +
    (consumed.mandatory.saturatingAdd weight).along dimension) _ at after
  rw [Weight.along_saturatingAdd] at after
  omega

private theorem along_charged (used : Weight) (world : World) (dimension : Dimension) :
    (blockTotal (charged used world)).along dimension =
      min ((blockTotal world).along dimension + used.along dimension) 18446744073709551615 := by
  have weighs : Item.blockWeight.get (charged used world).store =
      (Item.blockWeight.get world.store).add used .mandatory := Item.blockWeight_put _ _
  rw [blockTotal, weighs, along_total_add]
  rfl

def roomLeft (chain : Chain Account Number Call) (world : World) : Weight :=
  chain.rules.weights.maxBlock.saturatingSub (blockTotal world)

theorem idle_run (chain : Chain Account Number Call) (number : Number) (start : World) :
    chain.idle number start =
      if (chain.roomLeft start).allGreater .zero then
        match useRemaining (chain.roomLeft start) ((chain.idleOrder number).map (· number))
          start with
        | .ok used hooked => .ok () (charged used hooked)
        | .error cause hooked => .error cause hooked
      else .ok () start := by
  unfold idle
  rw [Action.bind_run, Action.look_run]
  change (if (chain.roomLeft start).allGreater .zero then
      useRemaining (chain.roomLeft start) ((chain.idleOrder number).map (· number)) >>=
        fun used => Action.change (Environment.addWeight used .mandatory)
    else pure () : Action Unit) start = _
  by_cases left : (chain.roomLeft start).allGreater .zero = true
  · rw [if_pos left, if_pos left, Action.bind_run]
    cases useRemaining (chain.roomLeft start) ((chain.idleOrder number).map (· number)) start <;> rfl
  · rw [if_neg left, if_neg left]
    rfl

private theorem idle_eq_ok (run : chain.idle number start = .ok () after) :
    after = start ∨ ∃ turns hooked,
      Served number (chain.roomLeft start) start turns hooked ∧
      turns.map Turn.hook = chain.idleOrder number ∧ after = charged (spent turns) hooked := by
  rw [idle_run] at run
  by_cases left : (chain.roomLeft start).allGreater .zero = true
  · right
    rw [if_pos left] at run
    have serves := useRemaining_serves number (chain.roomLeft start) (chain.idleOrder number) start
    cases ran : useRemaining (chain.roomLeft start) ((chain.idleOrder number).map (· number))
        start with
    | error cause hooked =>
        rw [ran] at run
        cases run
    | ok used hooked =>
        rw [ran] at run serves
        cases run
        obtain ⟨turns, served, order, rfl⟩ := serves
        exact ⟨turns, hooked, served, order, rfl⟩
  · rw [if_neg left] at run
    cases run
    exact Or.inl rfl

/-! ### Within the block -/

omit [Word Number] in
/-- What hooks return cannot fill the block beyond its limit. Only what they have added to the ledger
themselves comes on top. -/
theorem charged_bound {hooked : World} {dimension : Dimension}
    (served : Served number (chain.roomLeft start) start turns hooked)
    (frugal : ∀ turn ∈ turns, turn.used.along dimension ≤ turn.given.along dimension)
    (room : (blockTotal start).along dimension ≤
      chain.rules.weights.maxBlock.along dimension) :
    (blockTotal (charged (spent turns) hooked)).along dimension ≤
      chain.rules.weights.maxBlock.along dimension +
        ((blockTotal hooked).along dimension - (blockTotal start).along dimension) := by
  have within := spent_within served frugal
  rw [roomLeft, Weight.along_saturatingSub] at within
  rw [along_charged]
  omega

/-- A hook that takes no more than it is given: neither does it say that it has used more, nor does
it add to the ledger itself. -/
structure Frugal (number : Number) (hook : Number → Weight → Action Weight) : Prop where
  returns : ∀ given world used after, hook number given world = .ok used after →
    used.Within given
  leaves : ∀ given world used after, hook number given world = .ok used after →
    (blockTotal after).Within (blockTotal world)

omit [Word Number] in
theorem Served.frugal (served : Served number remaining start turns after)
    (frugal : ∀ turn ∈ turns, Frugal number turn.hook) :
    (∀ turn ∈ turns, turn.used.Within turn.given) ∧
      (blockTotal after).Within (blockTotal start) := by
  induction served with
  | none => exact ⟨nofun, Weight.Within.refl _⟩
  | @turn turns hook used between after served turn ih =>
      obtain ⟨returned, left⟩ := ih fun turn member => frugal turn (List.mem_append_left _ member)
      have last : Frugal number hook :=
        frugal _ (List.mem_append_right _ (List.mem_singleton_self _))
      refine ⟨fun taken member => ?_, (last.leaves _ _ _ _ turn).trans left⟩
      rcases List.mem_append.mp member with earlier | latest
      · exact returned taken earlier
      · cases List.mem_singleton.mp latest
        exact last.returns _ _ _ _ turn

private theorem idle_within (run : chain.idle number start = .ok () after)
    (frugal : ∀ hook ∈ chain.idleHooks, Frugal number hook) {dimension : Dimension}
    (room : (blockTotal start).along dimension ≤
      chain.rules.weights.maxBlock.along dimension) :
    (blockTotal after).along dimension ≤ chain.rules.weights.maxBlock.along dimension := by
  rcases idle_eq_ok run with rfl | ⟨turns, hooked, served, order, rfl⟩
  · exact room
  · obtain ⟨returned, left⟩ := served.frugal fun turn member => by
      have among : turn.hook ∈ chain.idleOrder number := order ▸ List.mem_map_of_mem member
      exact frugal turn.hook (mem_rotate.mp among)
    have bound := charged_bound served (fun turn member => returned turn member dimension) room
    have unmoved := left dimension
    omega

end

/-- Every hook has one turn at the end of a block, unless one of them is trapped. The turns go round
from the place that the number of the block says. Each hook is given what was left at first, less
what those before it have used, and all that was used is charged to the block in the end. Where no
hook uses more than it is given, the block grows beyond its limit by no more than what the hooks have
added to the ledger themselves; where they do not do that either, it stays within its limit. -/
theorem idle_served (chain : Chain Account Number Call) (number : Number) :
    (chain.idleOrder number).Perm chain.idleHooks ∧
    (∀ offset, offset < chain.idleHooks.length → (chain.idleOrder number)[offset]? =
      chain.idleHooks[(Word.toNat number + offset) % chain.idleHooks.length]?) ∧
    (∀ remaining start, Serves number remaining (chain.idleOrder number) start
      (useRemaining remaining ((chain.idleOrder number).map (· number)) start)) ∧
    ∀ start,
      (chain.idle number start =
        if (chain.roomLeft start).allGreater .zero then
          match useRemaining (chain.roomLeft start) ((chain.idleOrder number).map (· number))
            start with
          | .ok used hooked => .ok () (charged used hooked)
          | .error cause hooked => .error cause hooked
        else .ok () start) ∧
      (∀ turns hooked dimension,
        Served number (chain.roomLeft start) start turns hooked →
        (∀ turn ∈ turns, turn.used.along dimension ≤ turn.given.along dimension) →
        (blockTotal start).along dimension ≤ chain.rules.weights.maxBlock.along dimension →
        (blockTotal (charged (spent turns) hooked)).along dimension ≤
          chain.rules.weights.maxBlock.along dimension +
            ((blockTotal hooked).along dimension - (blockTotal start).along dimension)) ∧
      ∀ after, chain.idle number start = .ok () after →
        (∀ hook ∈ chain.idleHooks, Frugal number hook) →
        ∀ dimension,
          (blockTotal start).along dimension ≤ chain.rules.weights.maxBlock.along dimension →
          (blockTotal after).along dimension ≤ chain.rules.weights.maxBlock.along dimension := by
  refine ⟨chain.idleOrder_perm number, fun offset => idleOrder_place number,
    fun remaining start => useRemaining_serves number remaining (chain.idleOrder number) start,
    fun start => ⟨chain.idle_run number start, ?_, ?_⟩⟩
  · intro turns hooked dimension served frugal room
    exact charged_bound served frugal room
  · intro after run frugal dimension room
    exact idle_within run frugal room

/-- A hook that adds to the ledger itself, and returns no more than it is given, takes the block beyond
its limit. -/
theorem idle_beyond_limit :
    let hook : Trial.Number → Weight → Action Weight := fun _ _ => do
      Action.change (Environment.addWeight ⟨2000000000, 0⟩ .mandatory)
      return .zero
    let chain := { Trial.Settings.plain.chain with idleHooks := [hook] }
    let start : World := ⟨.empty, []⟩
    (∀ number given world used after, hook number given world = .ok used after →
        used.Within given) ∧
      (blockTotal start).Within chain.rules.weights.maxBlock ∧
      ∃ after, chain.idle 1 start = .ok () after ∧
        ¬(blockTotal after).Within chain.rules.weights.maxBlock := by
  intro hook chain start
  refine ⟨?_, ?_, Action.ending (chain.idle 1) start, ?_, ?_⟩
  · intro number given world used after run dimension
    cases run
    rw [Weight.along_zero]
    exact Nat.zero_le _
  · have fresh : blockTotal start = .zero := by decide +kernel
    intro dimension
    rw [fresh, Weight.along_zero]
    exact Nat.zero_le _
  · exact Action.run_of_answer_ok (by decide +kernel)
  · intro within
    have total : blockTotal (Action.ending (chain.idle 1) start) = ⟨2000000000, 0⟩ := by
      decide +kernel
    have bound := within .time
    rw [total] at bound
    exact absurd bound (by decide +kernel)

/-- In the seventh block the second of three hooks is the first to be served. It takes all the time
that is left, and the others find none. -/
theorem idle_served_greedy :
    let hook (weight : Weight) : Trial.Number → Weight → Action Weight :=
      fun _ given => pure (weight.lesser given)
    let chain := { Trial.Settings.plain.chain with
      idleHooks := [hook ⟨700, 3⟩, hook ⟨2000000000, 5⟩, hook ⟨900, 9⟩] }
    let start : World := ⟨.empty, []⟩
    ∃ after, chain.idle 7 start = .ok () after ∧ blockTotal after = ⟨1000000000, 17⟩ ∧
      (blockTotal after).Within chain.rules.weights.maxBlock := by
  intro hook chain start
  have frugal : ∀ weight, Frugal (7 : Trial.Number) (hook weight) := by
    intro weight
    constructor
    · intro given world used after run dimension
      cases run
      rw [Weight.along_lesser]
      exact Nat.min_le_right _ _
    · intro given world used after run
      cases run
      exact Weight.Within.refl _
  have each : ∀ holds : (Trial.Number → Weight → Action Weight) → Prop,
      (∀ weight, holds (hook weight)) → ∀ idle ∈ chain.idleHooks, holds idle := by
    intro holds every
    simp only [chain, List.forall_mem_cons, every, List.not_mem_nil, false_imp_iff, implies_true,
      and_self]
  obtain ⟨_, after, run⟩ := chain.idle_total
    (each _ fun weight number remaining => Action.Total.pure _) 7 start
  have total : blockTotal (Action.ending (chain.idle 7) start) = ⟨1000000000, 17⟩ := by
    decide +kernel
  rw [Action.ending_of_run run] at total
  have fresh : blockTotal start = .zero := by decide +kernel
  refine ⟨after, run, total, fun dimension => ?_⟩
  obtain ⟨_, _, _, served⟩ := idle_served chain 7
  apply (served start).2.2 after run (each _ frugal) dimension
  rw [fresh, Weight.along_zero]
  exact Nat.zero_le _

end Chain

end StateTransition
