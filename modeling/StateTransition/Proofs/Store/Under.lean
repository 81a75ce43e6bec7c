import StateTransition.Proofs.Store.Name
import StateTransition.Proofs.Store.Slot

set_option autoImplicit false

/-! The keys with a common beginning. They stand together in the order of the keys, so the walk
from key to key finds all of them; and what the rows of a table add up to is a sum over the whole
state, in which all other keys count for nothing. -/

namespace StateTransition

namespace Bytes

theorem before_of_startsWith {bytes head : Bytes} (begins : bytes.startsWith head = true)
    (different : head ≠ bytes) : head.before bytes = true := by
  induction head generalizing bytes with
  | nil =>
      cases bytes with
      | nil => exact absurd rfl different
      | cons byte rest => rfl
  | cons first head ih =>
      cases bytes with
      | nil => simp [startsWith] at begins
      | cons byte rest =>
          simp only [startsWith, Bool.and_eq_true, beq_iff_eq] at begins
          obtain ⟨same, restBegins⟩ := begins
          subst byte
          have irreflexive : ¬first < first := by simp
          have restDifferent : head ≠ rest := fun equal => different (by rw [equal])
          simp only [before, if_neg irreflexive]
          exact ih restBegins restDifferent

theorem startsWith_between {head first second : Bytes} (above : head.before first = true)
    (below : first.before second = true) (begins : second.startsWith head = true) :
    first.startsWith head = true := by
  induction head generalizing first second with
  | nil => simp [startsWith]
  | cons byte head ih =>
      cases second with
      | nil => simp [startsWith] at begins
      | cons other second =>
          simp only [startsWith, Bool.and_eq_true, beq_iff_eq] at begins
          obtain ⟨same, restBegins⟩ := begins
          subst other
          cases first with
          | nil => simp [before] at above
          | cons middle first =>
              simp only [before, UInt8.lt_iff_toNat_lt] at above below
              have squeezed : byte = middle := by
                apply UInt8.toNat_inj.mp
                grind
              subst middle
              simp only [Nat.lt_irrefl, if_false] at above below
              simp only [startsWith, beq_self_eq_true, Bool.true_and]
              exact ih above below restBegins

end Bytes

theorem takeWhile_eq_filter {α : Type} {keep : α → Bool} {items : List α}
    (monotone : items.Pairwise fun earlier later => keep later = true → keep earlier = true) :
    items.takeWhile keep = items.filter keep := by
  induction items with
  | nil => rfl
  | cons first rest ih =>
      obtain ⟨fromFirst, restMonotone⟩ := List.pairwise_cons.mp monotone
      cases kept : keep first with
      | true => rw [List.takeWhile_cons_of_pos kept, List.filter_cons_of_pos kept, ih restMonotone]
      | false =>
          have none : ∀ later ∈ rest, ¬keep later = true := fun later member keeps => by
            have keepsFirst := fromFirst later member keeps
            rw [kept] at keepsFirst
            cases keepsFirst
          rw [List.takeWhile_cons_of_neg (by simp [kept]), List.filter_cons_of_neg (by simp [kept]),
            List.filter_eq_nil_iff.mpr none]

namespace KeyMap

variable {α : Type}

theorem keys_ascending (map : KeyMap α) :
    map.keys.Pairwise fun left right => Bytes.before left right = true :=
  List.pairwise_map.mpr map.ascending

end KeyMap

namespace Store

/-! ### The walk -/

theorem filter_after_cons {first : Bytes} {rest : List Bytes} {key : Bytes}
    {keys : List Bytes} (ascending : keys.Pairwise fun left right => Bytes.before left right = true)
    (found : keys.filter key.before = first :: rest) :
    keys.filter first.before = rest := by
  induction keys with
  | nil => simp at found
  | cons least others ih =>
      obtain ⟨leastBefore, othersAscending⟩ := List.pairwise_cons.mp ascending
      cases later : key.before least with
      | true =>
          rw [List.filter_cons_of_pos later] at found
          obtain ⟨rfl, same⟩ := List.cons.inj found
          have all : ∀ other ∈ others, key.before other = true := fun other member =>
            Bytes.before_trans later (leastBefore other member)
          rw [List.filter_eq_self.mpr all] at same
          rw [List.filter_cons_of_neg (by simp), List.filter_eq_self.mpr leastBefore, same]
      | false =>
          rw [List.filter_cons_of_neg (by simp [later])] at found
          have member : first ∈ others := by
            have among : first ∈ others.filter key.before := found ▸ List.mem_cons_self
            exact (List.mem_filter.mp among).1
          have notAfter := Bytes.before_asymm (leastBefore first member)
          rw [List.filter_cons_of_neg (by simp [notAfter]), ih othersAscending found]

theorem walk_eq_takeWhile (store : Store) (head key : Bytes) :
    store.walk head key = (store.keysAfter key).takeWhile (·.startsWith head) := by
  generalize remaining : store.keysAfter key = after
  induction after generalizing key with
  | nil =>
      have none : store.next? key = none := by
        rw [next?, ← List.head?_filter]
        change (store.keysAfter key).head? = none
        rw [remaining]
        rfl
      unfold walk
      split
      · rfl
      · rename_i next found
        rw [none] at found
        cases found
  | cons first rest ih =>
      have found : store.next? key = some first := by
        rw [next?, ← List.head?_filter]
        change (store.keysAfter key).head? = some first
        rw [remaining]
        rfl
      have after := filter_after_cons (KeyMap.keys_ascending store.visible) remaining
      unfold walk
      split
      · rename_i none
        rw [found] at none
        cases none
      · rename_i next other
        rw [found] at other
        cases other
        rw [List.takeWhile_cons, ih first after]

theorem filter_startsWith_of_mem {keys : List Bytes} {head : Bytes}
    (ascending : keys.Pairwise fun left right => Bytes.before left right = true)
    (member : head ∈ keys) :
    keys.filter (·.startsWith head) =
      head :: (keys.filter head.before).filter (·.startsWith head) := by
  induction keys with
  | nil => cases member
  | cons least others ih =>
      obtain ⟨leastBefore, othersAscending⟩ := List.pairwise_cons.mp ascending
      by_cases same : head = least
      · subst same
        have first : (head :: others).filter (·.startsWith head) =
            head :: others.filter (·.startsWith head) :=
          List.filter_cons_of_pos (Bytes.startsWith_self head)
        rw [first, List.filter_cons_of_neg (by simp), List.filter_eq_self.mpr leastBefore]
      · have inOthers : head ∈ others := (List.mem_cons.mp member).resolve_left same
        have notAfter := Bytes.before_asymm (leastBefore head inOthers)
        have notUnder : ¬least.startsWith head = true := fun begins => by
          rw [Bytes.before_of_startsWith begins same] at notAfter
          cases notAfter
        have dropped : (least :: others).filter (·.startsWith head) =
            others.filter (·.startsWith head) := List.filter_cons_of_neg notUnder
        rw [dropped, List.filter_cons_of_neg (by simp [notAfter]), ih othersAscending inOthers]

theorem filter_startsWith_of_not_mem {keys : List Bytes} {head : Bytes} (absent : head ∉ keys) :
    keys.filter (·.startsWith head) = (keys.filter head.before).filter (·.startsWith head) := by
  rw [List.filter_filter]
  apply List.filter_congr
  intro key member
  cases begins : key.startsWith head with
  | false => rfl
  | true =>
      have different : head ≠ key := fun same => absent (same ▸ member)
      rw [Bytes.before_of_startsWith begins different]
      rfl

theorem keysUnder_eq_filter (store : Store) (head : Bytes) :
    store.keysUnder head = store.visible.keys.filter (·.startsWith head) := by
  have ascending := KeyMap.keys_ascending store.visible
  have walked : store.walk head head =
      (store.visible.keys.filter head.before).filter (·.startsWith head) := by
    rw [walk_eq_takeWhile, keysAfter]
    apply takeWhile_eq_filter
    refine List.Pairwise.imp_of_mem ?_ (ascending.filter _)
    intro earlier later earlierMember _ order begins
    exact Bytes.startsWith_between (List.mem_filter.mp earlierMember).2 order begins
  have known : store.contains head = true ↔ head ∈ store.visible.keys := by
    rw [KeyMap.mem_keys_iff, contains, get?_eq_find?]
  unfold keysUnder
  rw [walked]
  by_cases member : head ∈ store.visible.keys
  · rw [if_pos (known.mpr member), filter_startsWith_of_mem ascending member]
  · rw [if_neg (fun contained => member (known.mp contained)),
      filter_startsWith_of_not_mem member]

theorem keysUnder_ordered (store : Store) (head : Bytes) :
    (store.keysUnder head).Pairwise fun left right => Bytes.before left right = true := by
  rw [keysUnder_eq_filter]
  exact (KeyMap.keys_ascending store.visible).filter (·.startsWith head)

theorem keysUnder_nodup (store : Store) (head : Bytes) : (store.keysUnder head).Nodup :=
  (store.keysUnder_ordered head).imp Bytes.before_ne

end Store

/-! ### Sums over tables -/

namespace Table

variable {κ α β : Type} (table : Table κ α β)

/-- The row that is kept at a key with a value. -/
def rowOf? (key value : Bytes) : Option (κ × α) :=
  match (table.hash.reverse? (key.drop table.area.length)).bind table.keyCodec.decodeFront?,
      table.codec.decodeFront? value with
  | some rowKey, some row => some (rowKey, row)
  | _, _ => none

/-- What a key with a value counts for in a sum over the rows. -/
def counted (count : α → Nat) (key value : Bytes) : Nat :=
  if key.startsWith table.area then (table.rowOf? key value).elim 0 fun row => count row.2 else 0

def total (count : α → Nat) (store : Store) : Nat :=
  ((table.entries store).map fun row => count row.2).sum

theorem entryAt?_of_stored {key value : Bytes} {store : Store}
    (stored : store.get? key = some value) :
    table.entryAt? store key = table.rowOf? key value := by
  unfold entryAt? rowOf? Store.read?
  rw [stored, Option.bind_some]
  cases (table.hash.reverse? (key.drop table.area.length)).bind
    table.keyCodec.decodeFront? <;> cases table.codec.decodeFront? value <;> rfl

theorem sum_entriesAt (count : α → Nat) (store : Store) (entries : List (Bytes × Bytes))
    (stored : ∀ entry ∈ entries, store.get? entry.1 = some entry.2) :
    ((((entries.map (·.1)).filter (·.startsWith table.area)).filterMap
      (table.entryAt? store)).map fun row => count row.2).sum =
      (entries.map fun entry => table.counted count entry.1 entry.2).sum := by
  induction entries with
  | nil => rfl
  | cons first rest ih =>
      obtain ⟨key, value⟩ := first
      have others := ih fun entry member => stored entry (List.mem_cons_of_mem _ member)
      have read := table.entryAt?_of_stored (stored (key, value) List.mem_cons_self)
      rw [List.map_cons, List.map_cons, List.sum_cons, ← others]
      dsimp only
      cases begins : key.startsWith table.area with
      | false =>
          have dropped : (key :: rest.map (·.1)).filter (·.startsWith table.area) =
              (rest.map (·.1)).filter (·.startsWith table.area) :=
            List.filter_cons_of_neg (by simp [begins])
          rw [dropped]
          simp [counted, begins]
      | true =>
          have kept : (key :: rest.map (·.1)).filter (·.startsWith table.area) =
              key :: (rest.map (·.1)).filter (·.startsWith table.area) :=
            List.filter_cons_of_pos begins
          rw [kept, List.filterMap_cons, read]
          simp only [counted, begins, if_true]
          cases table.rowOf? key value with
          | none => simp
          | some row => simp

theorem total_eq (count : α → Nat) (store : Store) :
    table.total count store = store.visible.total (table.counted count) := by
  rw [total, entries, Store.keysUnder_eq_filter]
  apply table.sum_entriesAt count store store.visible.entries
  intro entry member
  rw [Store.get?_eq_find?]
  exact (KeyMap.mem_entries_iff _ _ _).mp member

/-- What a row counts for, which is nothing where there is none. -/
def countedAt (count : α → Nat) (key : κ) (store : Store) : Nat :=
  ((table.row key).stored? store).elim 0 count

variable {hash : KeepingHash}

/-- What is behind the area of a row leads back to the key of the row. -/
theorem reverse?_row (keeps : table.hash = .keeping hash) (key : κ) :
    table.hash.reverse? ((table.row key).key.drop table.area.length) =
      some (table.keyCodec.encode key) := by
  change table.hash.reverse? ((table.area ++ table.hash.apply (table.keyCodec.encode key)).drop
    table.area.length) = _
  rw [List.drop_left, keeps]
  exact KeepingHash.reverse?_apply hash _

theorem countAt_row (keeps : table.hash = .keeping hash) {key : κ}
    (readsBack : table.keyCodec.decodeFront? (table.keyCodec.encode key) = some key)
    (count : α → Nat) (store : Store) :
    store.visible.countAt (table.counted count) (table.row key).key =
      table.countedAt count key store := by
  have begins : (table.row key).key.startsWith table.area = true := Bytes.startsWith_append _ _
  rw [KeyMap.countAt, ← Store.get?_eq_find?, countedAt, Slot.stored?, Store.read?]
  change (store.get? (table.row key).key).elim 0 _ =
    ((store.get? (table.row key).key).bind table.codec.decodeFront?).elim 0 count
  cases store.get? (table.row key).key with
  | none => rfl
  | some value =>
      simp only [Option.elim_some, Option.bind_some, counted, begins, if_true, rowOf?,
        table.reverse?_row keeps, readsBack]
      cases table.codec.decodeFront? value <;> rfl

theorem countAt_congr (count : α → Nat) {before after : Store} {key : Bytes}
    (spared : key.startsWith table.area = true → after.get? key = before.get? key) :
    after.visible.countAt (table.counted count) key =
      before.visible.countAt (table.counted count) key := by
  rw [KeyMap.countAt, KeyMap.countAt, ← Store.get?_eq_find?, ← Store.get?_eq_find?]
  cases begins : key.startsWith table.area with
  | true => rw [spared begins]
  | false =>
      have uncounted : ∀ found : Option Bytes, found.elim 0 (table.counted count key) = 0 := by
        intro found
        cases found with
        | none => rfl
        | some value => simp [counted, begins]
      rw [uncounted, uncounted]

theorem total_congr (count : α → Nat) {before after : Store}
    (spared : ∀ key, key.startsWith table.area = true → after.get? key = before.get? key) :
    table.total count after = table.total count before := by
  rw [total_eq, total_eq]
  apply KeyMap.total_congr
  intro key
  exact table.countAt_congr count (spared key)

theorem total_change (keeps : table.hash = .keeping hash) {key : κ}
    (readsBack : table.keyCodec.decodeFront? (table.keyCodec.encode key) = some key)
    (count : α → Nat) {before after : Store}
    (spared : ∀ other, other.startsWith table.area = true → other ≠ (table.row key).key →
      after.get? other = before.get? other) :
    table.total count after + table.countedAt count key before =
      table.total count before + table.countedAt count key after := by
  rw [total_eq, total_eq, ← table.countAt_row keeps readsBack, ← table.countAt_row keeps readsBack]
  apply KeyMap.total_change
  intro other different
  exact (table.countAt_congr count fun begins => spared other begins different).symm

theorem countedAt_le_total (keeps : table.hash = .keeping hash) {key : κ}
    (readsBack : table.keyCodec.decodeFront? (table.keyCodec.encode key) = some key)
    (count : α → Nat) (store : Store) :
    table.countedAt count key store ≤ table.total count store := by
  rw [total_eq, ← table.countAt_row keeps readsBack]
  exact KeyMap.countAt_le_total _ _ _

end Table

end StateTransition
