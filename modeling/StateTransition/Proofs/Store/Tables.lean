import Mathlib.Data.Finmap
import StateTransition.Proofs.Action
import StateTransition.Proofs.Store.Maps
import StateTransition.Proofs.Store.Rows

set_option autoImplicit false

/-! A table whose hash keeps the keys is a finite map. Whatever is done to its rows, and to all of
them at once, has the replies of a finite map and leaves what can be read as one, as long as nothing
but rows is kept in its area. Nothing is asked of the digests: the key stands behind each. -/

namespace StateTransition

/-! ### Finite maps -/

abbrev RowMap (κ α : Type) := Finmap fun _ : κ => α

namespace RowMap

variable {κ α : Type} [DecidableEq κ]

/-- Puts a value in the place of the one at a key, or takes that out. -/
def assign (rows : RowMap κ α) (key : κ) : Option α → RowMap κ α
  | some value => rows.insert key value
  | none => rows.erase key

private theorem lookup_assign (rows : RowMap κ α) (key : κ) (value : Option α) (other : κ) :
    (rows.assign key value).lookup other = if other = key then value else rows.lookup other := by
  cases value with
  | none =>
      by_cases same : other = key
      · rw [if_pos same, same]
        exact Finmap.lookup_erase key rows
      · rw [if_neg same]
        exact Finmap.lookup_erase_ne same
  | some value =>
      by_cases same : other = key
      · rw [if_pos same, same]
        exact Finmap.lookup_insert rows
      · rw [if_neg same]
        exact Finmap.lookup_insert_of_ne rows same

def without (rows : RowMap κ α) (gone : List κ) : RowMap κ α :=
  gone.foldl (fun left key => left.erase key) rows

private theorem lookup_without (rows : RowMap κ α) (gone : List κ) (key : κ) :
    (rows.without gone).lookup key = if key ∈ gone then none else rows.lookup key := by
  induction gone generalizing rows with
  | nil => rfl
  | cons first others ih =>
      change (RowMap.without (rows.erase first) others).lookup key = _
      rw [ih]
      by_cases later : key ∈ others
      · rw [if_pos later, if_pos (List.mem_cons_of_mem first later)]
      · rw [if_neg later]
        by_cases same : key = first
        · rw [if_pos (List.mem_cons.mpr (Or.inl same)), same]
          exact Finmap.lookup_erase first rows
        · have absent : key ∉ first :: others := fun member =>
            (List.mem_cons.mp member).elim same later
          rw [if_neg absent]
          exact Finmap.lookup_erase_ne same

def size (rows : RowMap κ α) : Nat := rows.keys.card

private theorem size_without {rows : RowMap κ α} {gone : List κ} (distinct : gone.Nodup)
    (present : ∀ key ∈ gone, key ∈ rows) : (rows.without gone).size + gone.length = rows.size := by
  induction gone generalizing rows with
  | nil => rfl
  | cons first others ih =>
      obtain ⟨apart, othersDistinct⟩ := List.nodup_cons.mp distinct
      have here : first ∈ rows.keys := Finmap.mem_keys.mpr (present first List.mem_cons_self)
      have left : ∀ key ∈ others, key ∈ rows.erase first := by
        intro key member
        have different : key ≠ first := fun same => apart (same ▸ member)
        exact Finmap.mem_erase.mpr ⟨different, present key (List.mem_cons_of_mem first member)⟩
      have fewer := ih othersDistinct left
      have erased : RowMap.size (rows.erase first) + 1 = rows.size := by
        unfold size
        rw [Finmap.keys_erase]
        exact Finset.card_erase_add_one here
      change (RowMap.without (rows.erase first) others).size + (others.length + 1) = rows.size
      omega

end RowMap

/-! ### Commands -/

inductive RowCommand (α β ε ρ : Type) where
  | put (value : α)
  | erase
  | set (shown : β)
  | modify (change : β → ρ × β)
  | tryModify (change : β → Except ε (ρ × β))
  | modifyStored (change : Option α → ρ × Option α)
  | tryModifyStored (change : Option α → Except ε (ρ × Option α))
  | take

inductive TableCommand (κ α β ε ρ : Type) where
  | onRow (key : κ) (command : RowCommand α β ε ρ)
  | eraseAll (limit : Option Nat)

inductive TableReply (β ε ρ : Type) where
  | done
  | shown (value : β)
  | answered (answer : Except ε ρ)
  | erased (count : Nat)
deriving DecidableEq

variable {κ α β ε ρ : Type}

/-- What a command makes of what is stored in a row: a reply, and what is stored there from then on,
unless the row is left as it is. -/
def RowCommand.effect (ofStored : Option α → β) (toStored : β → Option α) (stored : Option α) :
    RowCommand α β ε ρ → TableReply β ε ρ × Option (Option α)
  | .put value => (.done, some (some value))
  | .erase => (.done, some none)
  | .set shown => (.done, some (toStored shown))
  | .modify change =>
      let (answer, shown) := change (ofStored stored)
      (.answered (.ok answer), some (toStored shown))
  | .tryModify change =>
      match change (ofStored stored) with
      | .ok (answer, shown) => (.answered (.ok answer), some (toStored shown))
      | .error cause => (.answered (.error cause), none)
  | .modifyStored change =>
      let (answer, value) := change stored
      (.answered (.ok answer), some value)
  | .tryModifyStored change =>
      match change stored with
      | .ok (answer, value) => (.answered (.ok answer), some value)
      | .error cause => (.answered (.error cause), none)
  | .take => (.shown (ofStored stored), stored.map fun _ => none)

private theorem RowCommand.effect_refused {ofStored : Option α → β} {toStored : β → Option α}
    {stored : Option α} {command : RowCommand α β ε ρ} {cause : ε}
    (refused : (command.effect ofStored toStored stored).1 = .answered (.error cause)) :
    (command.effect ofStored toStored stored).2 = none := by
  cases command with
  | put value => cases refused
  | erase => cases refused
  | set shown => cases refused
  | modify change => cases refused
  | modifyStored change => cases refused
  | take => cases refused
  | tryModify change =>
      simp only [effect] at refused ⊢
      cases changed : change (ofStored stored) with
      | error cause => rfl
      | ok parts =>
          rw [changed] at refused
          cases refused
  | tryModifyStored change =>
      simp only [effect] at refused ⊢
      cases changed : change stored with
      | error cause => rfl
      | ok parts =>
          rw [changed] at refused
          cases refused

namespace Slot

variable (slot : Slot α β)

def perform (store : Store) : RowCommand α β ε ρ → TableReply β ε ρ × Store
  | .put value => (.done, slot.put value store)
  | .erase => (.done, slot.erase store)
  | .set shown => (.done, slot.set shown store)
  | .modify change =>
      let (answer, after) := slot.modify change store
      (.answered (.ok answer), after)
  | .tryModify change =>
      let (answer, after) := slot.tryModify change store
      (.answered answer, after)
  | .modifyStored change =>
      let (answer, after) := slot.modifyStored change store
      (.answered (.ok answer), after)
  | .tryModifyStored change =>
      let (answer, after) := slot.tryModifyStored change store
      (.answered answer, after)
  | .take =>
      let (value, after) := slot.take store
      (.shown value, after)

def rewrite (store : Store) : Option (Option α) → Store
  | none => store
  | some value => store.writeOption slot.codec slot.key value

private theorem perform_eq (store : Store) (command : RowCommand α β ε ρ) :
    slot.perform store command =
      ((command.effect slot.ofStored slot.toStored (slot.stored? store)).1,
        slot.rewrite store
          (command.effect slot.ofStored slot.toStored (slot.stored? store)).2) := by
  cases command with
  | put value => rfl
  | erase => rfl
  | set shown => rfl
  | modify change => rfl
  | modifyStored change => rfl
  | tryModify change =>
      simp only [perform, RowCommand.effect, tryModify, get]
      cases change (slot.ofStored (slot.stored? store)) <;> rfl
  | tryModifyStored change =>
      simp only [perform, RowCommand.effect, tryModifyStored]
      cases change (slot.stored? store) <;> rfl
  | take =>
      simp only [perform, RowCommand.effect]
      cases found : slot.stored? store with
      | none =>
          rw [slot.take_of_none found]
          rfl
      | some value =>
          rw [slot.take_of_stored found]
          rfl

theorem perform_refused {store : Store} {command : RowCommand α β ε ρ} {cause : ε}
    (refused : (slot.perform store command).1 = .answered (.error cause)) :
    (slot.perform store command).2 = store := by
  rw [perform_eq] at refused ⊢
  rw [RowCommand.effect_refused refused]
  rfl

private theorem perform_local (command : RowCommand α β ε ρ) (store : Store) {place : Bytes}
    (different : place ≠ slot.key) :
    (slot.perform store command).2.get? place = store.get? place := by
  rw [perform_eq]
  cases (command.effect slot.ofStored slot.toStored (slot.stored? store)).2 with
  | none => rfl
  | some value =>
      have writes : Store.Local (· = slot.key) fun store =>
          store.writeOption slot.codec slot.key value := by
        apply slot.writeOption_local
        rfl
      exact writes.spares store place different

end Slot

namespace Table

variable {table : Table κ α β} {hash : KeepingHash} {store : Store}

/-! ### Commands on a store -/

def perform (table : Table κ α β) (store : Store) :
    TableCommand κ α β ε ρ → TableReply β ε ρ × Store
  | .onRow key command => (table.row key).perform store command
  | .eraseAll limit =>
      let (count, after) := table.eraseAll limit store
      (.erased count, after)

theorem perform_refused {command : TableCommand κ α β ε ρ} {cause : ε}
    (refused : (table.perform store command).1 = .answered (.error cause)) :
    (table.perform store command).2 = store := by
  cases command with
  | onRow key command => exact (table.row key).perform_refused refused
  | eraseAll limit => cases refused

private theorem perform_spares (store : Store) (command : TableCommand κ α β ε ρ) {place : Bytes}
    (outside : place.startsWith table.area = false) :
    (table.perform store command).2.get? place = store.get? place := by
  cases command with
  | onRow key command =>
      apply (table.row key).perform_local command store
      rintro rfl
      rw [Item.row_begins table key] at outside
      cases outside
  | eraseAll limit =>
      have spared : place ∉ store.visible.firstUnder table.area limit := by
        intro member
        have found : place ∈ store.visible.keys.filter (·.startsWith table.area) := by
          cases limit with
          | none => exact member
          | some count => exact List.mem_of_mem_take member
        have begins := (List.mem_filter.mp found).2
        rw [outside] at begins
        cases begins
      simp only [perform, Table.eraseAll, Store.eraseUnder_eq]
      rw [Store.get?_foldl_erase, if_neg spared]

def performAll (table : Table κ α β) (store : Store) :
    List (TableCommand κ α β ε ρ) → List (TableReply β ε ρ) × Store
  | [] => ([], store)
  | command :: others =>
      let (reply, next) := table.perform store command
      let (replies, final) := table.performAll next others
      (reply :: replies, final)

private theorem performAll_spares (store : Store) (commands : List (TableCommand κ α β ε ρ))
    {place : Bytes} (outside : place.startsWith table.area = false) :
    (table.performAll store commands).2.get? place = store.get? place := by
  induction commands generalizing store with
  | nil => rfl
  | cons command others ih => exact (ih _).trans (table.perform_spares store command outside)

/-! ### Commands on a finite map -/

variable [DecidableEq κ]

/-- What a command makes of finitely many rows. Which rows are erased under a limit is left open,
but not how many. -/
inductive MapStep (table : Table κ α β) (rows : RowMap κ α) :
    TableCommand κ α β ε ρ → TableReply β ε ρ → RowMap κ α → Prop
  | writes {key : κ} {command : RowCommand α β ε ρ} {reply : TableReply β ε ρ} {value : Option α}
    (effect : command.effect table.ofStored table.toStored (rows.lookup key) =
      (reply, some value)) :
    MapStep table rows (.onRow key command) reply (rows.assign key value)
  | leaves {key : κ} {command : RowCommand α β ε ρ} {reply : TableReply β ε ρ}
    (effect : command.effect table.ofStored table.toStored (rows.lookup key) = (reply, none)) :
    MapStep table rows (.onRow key command) reply rows
  | erases (limit : Option Nat) {gone : List κ} (distinct : gone.Nodup)
    (present : ∀ key ∈ gone, key ∈ rows)
    (counted : gone.length = limit.elim rows.size (min · rows.size)) :
    MapStep table rows (.eraseAll limit) (.erased gone.length) (rows.without gone)

namespace Holds

variable {rows : RowMap κ α} (keeps : table.hash = .keeping hash)
variable (keys : table.keyCodec.ReadsBack) (values : table.codec.ReadsBack)

include keeps keys

private theorem assign (holds : table.Holds (rows.lookup ·) store) (key : κ) (value : Option α) :
    table.Holds ((rows.assign key value).lookup ·)
      (store.writeOption table.codec (table.row key).key value) := by
  have assigned : (fun other => (rows.assign key value).lookup other) =
      Function.update (rows.lookup ·) key value := by
    funext other
    rw [RowMap.lookup_assign, Function.update_apply]
  rw [assigned]
  cases value with
  | none => exact holds.erase keeps keys key
  | some value => exact holds.put keeps keys key value

theorem without (holds : table.Holds (rows.lookup ·) store) (gone : List κ) :
    table.Holds ((rows.without gone).lookup ·)
      ((gone.map fun key => (table.row key).key).foldl Store.erase store) where
  present key := by
    have erased : (table.row key).key ∈ gone.map (fun key => (table.row key).key) ↔ key ∈ gone :=
      List.mem_map_of_injective fun _ _ same => row_injective keeps keys same
    rw [Store.get?_foldl_erase, RowMap.lookup_without]
    by_cases member : key ∈ gone
    · rw [if_pos (erased.mpr member), if_pos member]
      rfl
    · rw [if_neg fun found => member (erased.mp found), if_neg member]
      exact holds.present key
  only place begins found := by
    rw [Store.get?_foldl_erase] at found
    by_cases member : place ∈ gone.map fun key => (table.row key).key
    · exact absurd (if_pos member) found
    · rw [if_neg member] at found
      exact holds.only place begins found

include values

private theorem length_keys (holds : table.Holds (rows.lookup ·) store) :
    (table.keys store).length = rows.size := by
  classical
  have listed : (table.keys store).toFinset = rows.keys := by
    ext key
    rw [List.mem_toFinset, holds.mem_keys_iff keeps keys values, Finmap.lookup_isSome,
      Finmap.mem_keys]
  rw [RowMap.size, ← listed]
  exact (List.toFinset_card_of_nodup (holds.keys_nodup keeps keys values)).symm

private theorem onRow (holds : table.Holds (rows.lookup ·) store) (key : κ)
    (command : RowCommand α β ε ρ) :
    ∃ after, MapStep table rows (.onRow key command)
        (table.perform store (.onRow key command)).1 after ∧
      table.Holds (after.lookup ·) (table.perform store (.onRow key command)).2 := by
  have stored := holds.stored?_eq values key
  have performed := (table.row key).perform_eq store command
  rw [stored] at performed
  cases effect : command.effect table.ofStored table.toStored (rows.lookup key) with
  | mk reply write =>
      have outcome : table.perform store (.onRow key command) =
          (reply, (table.row key).rewrite store write) :=
        performed.trans (congrArg (fun made => (made.1, (table.row key).rewrite store made.2)) effect)
      rw [outcome]
      cases write with
      | none => exact ⟨rows, .leaves effect, holds⟩
      | some value => exact ⟨_, .writes effect, holds.assign keeps keys key value⟩

private theorem firstUnder_eq (holds : table.Holds (rows.lookup ·) store) (limit : Option Nat) :
    store.visible.firstUnder table.area limit =
      (limit.elim (table.keys store) (table.keys store).take).map fun key =>
        (table.row key).key := by
  unfold KeyMap.firstUnder
  rw [← Store.keysUnder_eq_filter, holds.keysUnder_eq keeps keys values]
  cases limit with
  | none => rfl
  | some count => exact List.map_take.symm

private theorem exists_gone (holds : table.Holds (rows.lookup ·) store) (limit : Option Nat) :
    ∃ gone : List κ, gone.Nodup ∧ (∀ key ∈ gone, key ∈ rows) ∧
      gone.length = limit.elim rows.size (min · rows.size) ∧
      (table.eraseAll limit store).1 = gone.length ∧
      table.Holds ((rows.without gone).lookup ·) (table.eraseAll limit store).2 := by
  have listed := holds.keys_nodup keeps keys values
  have length := holds.length_keys keeps keys values
  generalize chosen : limit.elim (table.keys store) (table.keys store).take = gone
  have part : gone.Sublist (table.keys store) := by
    rw [← chosen]
    cases limit with
    | none => exact List.Sublist.refl _
    | some count => exact List.take_sublist count _
  have counted : gone.length = limit.elim rows.size (min · rows.size) := by
    rw [← chosen, ← length]
    cases limit with
    | none => rfl
    | some count => exact List.length_take
  have present : ∀ key ∈ gone, key ∈ rows := by
    intro key member
    have found := (holds.mem_keys_iff keeps keys values key).mp (part.subset member)
    exact Finmap.lookup_isSome.mp found
  have erases : table.eraseAll limit store =
      (gone.length, (gone.map fun key => (table.row key).key).foldl Store.erase store) := by
    rw [Table.eraseAll, Store.eraseUnder_eq, holds.firstUnder_eq keeps keys values, chosen,
      List.length_map]
  rw [erases]
  exact ⟨gone, listed.sublist part, present, counted, rfl, holds.without keeps keys gone⟩

private theorem eraseAll_counts (holds : table.Holds (rows.lookup ·) store) (limit : Nat) :
    (table.eraseAll (some limit) store).1 = min limit rows.size ∧
      (table.entries (table.eraseAll (some limit) store).2).length + min limit rows.size =
        rows.size := by
  obtain ⟨gone, distinct, present, counted, reported, left⟩ :=
    holds.exists_gone keeps keys values (some limit)
  have listed := left.length_keys keeps keys values
  rw [Table.keys, List.length_map] at listed
  have fewer := RowMap.size_without distinct present
  rw [reported, listed]
  change gone.length = min limit rows.size at counted
  omega

theorem eraseAll (holds : table.Holds (rows.lookup ·) store) (limit : Option Nat) :
    ∃ after, table.MapStep rows (.eraseAll limit : TableCommand κ α β ε ρ)
        (table.perform store (.eraseAll limit)).1 after ∧
      table.Holds (after.lookup ·)
        (table.perform store (.eraseAll limit : TableCommand κ α β ε ρ)).2 := by
  obtain ⟨gone, distinct, present, counted, reported, left⟩ :=
    holds.exists_gone keeps keys values limit
  refine ⟨rows.without gone, ?_, left⟩
  change table.MapStep rows _ (.erased (table.eraseAll limit store).1) _
  rw [reported]
  exact .erases limit distinct present counted

theorem step (holds : table.Holds (rows.lookup ·) store) (command : TableCommand κ α β ε ρ) :
    ∃ after, table.MapStep rows command (table.perform store command).1 after ∧
      table.Holds (after.lookup ·) (table.perform store command).2 := by
  cases command with
  | onRow key command => exact holds.onRow keeps keys values key command
  | eraseAll limit => exact holds.eraseAll keeps keys values limit

end Holds

/-! ### All commands -/

/-- What commands make of finitely many rows, one after the other. -/
inductive MapSteps (table : Table κ α β) :
    RowMap κ α → List (TableCommand κ α β ε ρ) → List (TableReply β ε ρ) → RowMap κ α → Prop
  | nil (rows : RowMap κ α) : MapSteps table rows [] [] rows
  | cons {rows next final : RowMap κ α} {command : TableCommand κ α β ε ρ}
    {others : List (TableCommand κ α β ε ρ)} {reply : TableReply β ε ρ}
    {replies : List (TableReply β ε ρ)} (first : MapStep table rows command reply next)
    (rest : MapSteps table next others replies final) :
    MapSteps table rows (command :: others) (reply :: replies) final

/-- All that can be read of a table, told by a finite map. -/
structure ReadsAs (table : Table κ α β) (rows : RowMap κ α) (store : Store) : Prop where
  get : ∀ key, (table.row key).get store = table.ofStored (rows.lookup key)
  stored? : ∀ key, (table.row key).stored? store = rows.lookup key
  exists? : ∀ key, (table.row key).exists? store = (rows.lookup key).isSome
  entries : ∀ key value, (key, value) ∈ table.entries store ↔ rows.lookup key = some value
  once : (table.keys store).Nodup
  size : (table.entries store).length = rows.size

theorem Holds.readsAs {rows : RowMap κ α} (keeps : table.hash = .keeping hash)
    (keys : table.keyCodec.ReadsBack) (values : table.codec.ReadsBack)
    (holds : table.Holds (rows.lookup ·) store) : table.ReadsAs rows store where
  get key := congrArg table.ofStored (holds.stored?_eq values key)
  stored? := holds.stored?_eq values
  exists? key := by
    rw [Slot.exists?, Store.contains, holds.present key, Option.isSome_map]
  entries := holds.mem_entries_iff keeps keys values
  once := holds.keys_nodup keeps keys values
  size := by
    rw [← holds.length_keys keeps keys values, Table.keys, List.length_map]

theorem Holds.performAll {rows : RowMap κ α} (keeps : table.hash = .keeping hash)
    (keys : table.keyCodec.ReadsBack) (values : table.codec.ReadsBack)
    (holds : table.Holds (rows.lookup ·) store) (commands : List (TableCommand κ α β ε ρ)) :
    ∃ final, table.MapSteps rows commands (table.performAll store commands).1 final ∧
      table.Holds (final.lookup ·) (table.performAll store commands).2 := by
  induction commands generalizing store rows with
  | nil => exact ⟨rows, .nil rows, holds⟩
  | cons command others ih =>
      obtain ⟨next, first, held⟩ := holds.step keeps keys values command
      obtain ⟨final, rest, left⟩ := ih held
      exact ⟨final, .cons first rest, left⟩

/-- A table whose hash keeps the keys works as a finite map, if its keys and values are read back and
nothing but rows is kept in its area. After all commands their replies and all that can be read are
those of a finite map, of which as many rows are erased as a limit allows, and the rest of the store
is untouched. In any store a change that is refused changes nothing, and a command on one row leaves
the others. -/
theorem works_as_map {rows : RowMap κ α} (keeps : table.hash = .keeping hash)
    (keys : table.keyCodec.ReadsBack) (values : table.codec.ReadsBack)
    (holds : table.Holds (rows.lookup ·) store) (commands : List (TableCommand κ α β ε ρ)) :
    (∃ final left, (table.performAll store commands).2 = left ∧
      table.MapSteps rows commands (table.performAll store commands).1 final ∧
      table.ReadsAs final left ∧
      (∀ limit, (table.eraseAll (some limit) left).1 = min limit final.size ∧
        (table.entries (table.eraseAll (some limit) left).2).length + min limit final.size =
          final.size) ∧
      ∀ place, place.startsWith table.area = false → left.get? place = store.get? place) ∧
    (∀ (other : Store) (command : TableCommand κ α β ε ρ) (cause : ε),
      (table.perform other command).1 = .answered (.error cause) →
        (table.perform other command).2 = other) ∧
    ∀ (other : Store) (key spared : κ) (command : RowCommand α β ε ρ), spared ≠ key →
      (table.perform other (.onRow key command)).2.get? (table.row spared).key =
        other.get? (table.row spared).key := by
  obtain ⟨final, steps, left⟩ := holds.performAll keeps keys values commands
  refine ⟨⟨final, _, rfl, steps, left.readsAs keeps keys values, ?_, ?_⟩, ?_, ?_⟩
  · exact left.eraseAll_counts keeps keys values
  · intro place outside
    exact table.performAll_spares store commands outside
  · intro other command cause refused
    exact table.perform_refused refused
  · intro other key spared command different
    apply (table.row key).perform_local command other
    intro same
    exact different (row_injective keeps keys same)

/-- A table that shows zero for absence, beside a foreign key: what is spent from the first two rows
is refused once, the third row is taken out, the fourth is written by a change of what is stored, and
one of the three that are left is erased. -/
theorem works_as_map_of_balances :
    let table : Table UInt16 UInt32 UInt32 :=
      .valued (areaOf "Balances" "Free") (.keeping .twox64) .word .word 0
    let store := Store.empty.put [1] [2]
    let spend (amount : UInt32) (free : UInt32) : Except String (UInt32 × UInt32) :=
      if amount ≤ free then .ok (free, free - amount) else .error "low"
    let commands : List (TableCommand UInt16 UInt32 UInt32 String UInt32) :=
      [.onRow 1 (.put 100), .onRow 2 (.set 50), .onRow 3 (.modify fun free => (free, free + 7)),
        .onRow 1 (.tryModify (spend 30)), .onRow 2 (.tryModify (spend 60)), .onRow 3 .take,
        .onRow 4 (.tryModifyStored fun stored => .ok (stored.getD 9, some 40)),
        .onRow 5 .erase, .eraseAll (some 1)]
    (table.performAll store commands).1 =
        [.done, .done, .answered (.ok 0), .answered (.ok 100), .answered (.error "low"), .shown 7,
          .answered (.ok 9), .done, .erased 1] ∧
      (table.performAll store commands).2.get? [1] = some [2] ∧
      ∃ final, table.ReadsAs final (table.performAll store commands).2 ∧ final.size = 2 := by
  intro table store spend commands
  have keys : table.keyCodec.ReadsBack := Codec.word_faithful.readsBack
  have values : table.codec.ReadsBack := Codec.word_faithful.readsBack
  have bare : ∀ place, place.startsWith table.area = true → store.get? place = none :=
    Store.bare_of_keys (by decide +kernel)
  have holds : table.Holds ((∅ : RowMap UInt16 UInt32).lookup ·) store := Holds.empty bare
  obtain ⟨⟨final, _, rfl, _, reads, counts, spares⟩, _⟩ :=
    works_as_map rfl keys values holds commands
  have outside : (table.performAll store commands).2.get? [1] = store.get? [1] :=
    spares [1] (by decide +kernel)
  have two : (table.eraseAll (some 10) (table.performAll store commands).2).1 = 2 := by
    decide +kernel
  have size : final.size = 2 := by
    have counted := (counts 10).1
    omega
  exact ⟨by decide +kernel, outside, final, reads, size⟩

end Table

end StateTransition
