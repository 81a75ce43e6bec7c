import Mathlib.Logic.Relation
import StateTransition.Proofs.Store.Under

set_option autoImplicit false

/-! The walk over the keys with a common beginning, step by step. Every step leads to a later key, so
the walk comes to an end, and then it has found all of these keys, in their order. -/

namespace StateTransition

namespace Bytes

private theorem before_iff_lt (left right : Bytes) : left.before right = true ↔ left < right := by
  induction left generalizing right with
  | nil =>
      cases right with
      | nil => simp [before]
      | cons byte rest => simp [before]
  | cons first left ih =>
      cases right with
      | nil => simp [before]
      | cons second right =>
          rw [List.cons_lt_cons_iff, ← ih right, before]
          by_cases less : first < second
          · simp [less]
          · by_cases more : second < first
            · have different : first ≠ second := UInt8.ne_of_lt more |>.symm
              simp [less, more, different]
            · have same : first = second := UInt8.le_antisymm (UInt8.not_lt.mp more)
                (UInt8.not_lt.mp less)
              simp [same]

private theorem startsWith_iff_isPrefix (bytes head : Bytes) :
    bytes.startsWith head = true ↔ head <+: bytes := by
  rw [startsWith_iff]
  constructor
  · rintro ⟨rest, split⟩
    exact ⟨rest, split.symm⟩
  · rintro ⟨rest, split⟩
    exact ⟨rest, split.symm⟩

end Bytes

namespace Store

/-! ### Steps -/

/-- How far a walk has come: the keys that it has found, and where it goes on from. -/
structure Progress where
  found : List Bytes
  place : Bytes

/-- Before the first step only the beginning itself may have been found. -/
def departure (store : Store) (head : Bytes) : Progress where
  found := if store.contains head then [head] else []
  place := head

/-- The walk goes on to the next key, unless that begins with something else. -/
inductive Step (store : Store) (head : Bytes) : Progress → Progress → Prop
  | next {found : List Bytes} {place next : Bytes} :
      store.next? place = some next → next.startsWith head = true →
      Step store head ⟨found, place⟩ ⟨found ++ [next], next⟩

/-- There are fewer keys behind every place that a walk comes to. -/
theorem step_wellFounded (store : Store) (head : Bytes) :
    WellFounded fun later earlier => store.Step head earlier later := by
  have fewer : Subrelation (fun later earlier => store.Step head earlier later)
      (InvImage (· < ·) fun progress => (store.keysAfter progress.place).length) := by
    intro later earlier step
    cases step with
    | next leads _ => exact keysAfter_next_lt leads
  exact fewer.wf (InvImage.wf _ Nat.lt_wfRel.wf)

private theorem walk_reached (store : Store) (head place : Bytes) (found : List Bytes) :
    ∃ last, Relation.ReflTransGen (store.Step head) ⟨found, place⟩
        ⟨found ++ store.walk head place, last⟩ ∧
      ∀ later, ¬store.Step head ⟨found ++ store.walk head place, last⟩ later := by
  fun_induction store.walk head place generalizing found with
  | case1 place none =>
      rw [List.append_nil]
      refine ⟨place, .refl, fun later step => ?_⟩
      cases step with
      | next leads _ =>
          rw [none] at leads
          cases leads
  | case2 place next leads _ begins ih =>
      obtain ⟨last, reached, ends⟩ := ih (found ++ [next])
      rw [List.append_assoc] at reached ends
      exact ⟨last, .head (.next leads begins) reached, ends⟩
  | case3 place next leads _ other =>
      rw [List.append_nil]
      refine ⟨place, .refl, fun later step => ?_⟩
      cases step with
      | next again begins =>
          rw [leads] at again
          cases again
          exact other begins

private theorem keysUnder_reached (store : Store) (head : Bytes) :
    ∃ last, Relation.ReflTransGen (store.Step head) (store.departure head)
        ⟨store.keysUnder head, last⟩ ∧
      ∀ later, ¬store.Step head ⟨store.keysUnder head, last⟩ later := by
  have split : store.keysUnder head = (store.departure head).found ++ store.walk head head := by
    unfold keysUnder departure
    by_cases itself : store.contains head = true
    · rw [if_pos itself, if_pos itself]
      rfl
    · rw [if_neg itself, if_neg itself]
      rfl
  rw [split]
  exact store.walk_reached head head (store.departure head).found

/-! ### What is found -/

theorem mem_keysUnder_iff (store : Store) (head key : Bytes) :
    key ∈ store.keysUnder head ↔ head <+: key ∧ store.get? key ≠ none := by
  rw [keysUnder_eq_filter, List.mem_filter, KeyMap.mem_keys_iff, ← get?_eq_find?,
    Bytes.startsWith_iff_isPrefix, Option.isSome_iff_ne_none, and_comm]

theorem keysUnder_ascending (store : Store) (head : Bytes) :
    (store.keysUnder head).Pairwise (· < ·) :=
  (store.keysUnder_ordered head).imp fun earlier => (Bytes.before_iff_lt _ _).mp earlier

/-- The walk over the keys with a common beginning ends on every store, whatever its layers are. It has
then found exactly the keys that begin so and have a value, each of them once and in ascending
order. The beginning may be a key itself, and every key begins with nothing. -/
theorem keysUnder_exact (store : Store) (head : Bytes) :
    (WellFounded fun later earlier => store.Step head earlier later) ∧
    (∃ last, Relation.ReflTransGen (store.Step head) (store.departure head)
        ⟨store.keysUnder head, last⟩ ∧
      ∀ later, ¬store.Step head ⟨store.keysUnder head, last⟩ later) ∧
    (∀ key, key ∈ store.keysUnder head ↔ head <+: key ∧ store.get? key ≠ none) ∧
    (store.keysUnder head).Pairwise (· < ·) ∧ (store.keysUnder head).Nodup :=
  ⟨store.step_wellFounded head, store.keysUnder_reached head, store.mem_keysUnder_iff head,
    store.keysUnder_ascending head, store.keysUnder_nodup head⟩

/-- A key that is erased in a layer is not found, and one that the layer writes is. -/
example :
    let settled := ((Store.empty.put [1] [7]).put [1, 2] [7]).put [2] [7]
    ((settled.openLayer.erase [1]).put [1, 0] [8]).keysUnder [1] = [[1, 0], [1, 2]] := by
  intro settled
  rw [keysUnder_eq_filter]
  decide

end Store

end StateTransition
