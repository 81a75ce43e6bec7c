import Mathlib.Algebra.GroupWithZero.Nat
import StateTransition.Store.KeyMap

set_option autoImplicit false

/-! Laws of finite maps: what a look-up finds after a change, that a map is determined by what
look-ups find in it, and how a sum over the entries follows a change. -/

namespace StateTransition.KeyMap

variable {α : Type}

/-! ### Look-ups among entries -/

theorem lookUp?_insertEntry (key other : Bytes) (value : α) (entries : List (Bytes × α)) :
    lookUp? other (insertEntry key value entries) =
      if other = key then some value else lookUp? other entries := by
  induction entries with
  | nil =>
      by_cases same : key = other
      · subst other
        simp [insertEntry, lookUp?]
      · simp [insertEntry, lookUp?, same, Ne.symm same]
  | cons first rest ih =>
      obtain ⟨current, old⟩ := first
      simp only [insertEntry]
      split
      · rename_i same
        subst current
        by_cases asked : other = key
        · simp [lookUp?, asked]
        · simp [lookUp?, asked, Ne.symm asked]
      · rename_i different
        split
        · by_cases asked : other = key
          · simp [lookUp?, asked]
          · simp [lookUp?, asked, Ne.symm asked]
        · simp only [lookUp?, ih]
          by_cases asked : other = key
          · subst other
            simp [Ne.symm different]
          · simp [asked]

theorem lookUp?_filter (key other : Bytes) (entries : List (Bytes × α)) :
    lookUp? other (entries.filter fun entry => entry.1 ≠ key) =
      if other = key then none else lookUp? other entries := by
  induction entries with
  | nil => simp [lookUp?]
  | cons first rest ih =>
      obtain ⟨current, old⟩ := first
      by_cases removed : current = key
      · subst current
        rw [List.filter_cons_of_neg (by simp), ih]
        by_cases asked : other = key
        · simp [asked]
        · simp [lookUp?, asked, Ne.symm asked]
      · rw [List.filter_cons_of_pos (by simpa using removed)]
        simp only [lookUp?, ih]
        by_cases asked : other = key
        · subst other
          simp [removed]
        · simp [asked]

theorem lookUp?_eq_none_of_before {key : Bytes} {entries : List (Bytes × α)}
    (earlier : ∀ entry ∈ entries, key.before entry.1 = true) : lookUp? key entries = none := by
  induction entries with
  | nil => rfl
  | cons first rest ih =>
      obtain ⟨current, old⟩ := first
      have different : current ≠ key := fun same => by
        have atFirst := earlier (current, old) List.mem_cons_self
        simp [same] at atFirst
      simp only [lookUp?, if_neg different]
      exact ih fun entry member => earlier entry (List.mem_cons_of_mem _ member)

theorem mem_of_lookUp? {key : Bytes} {value : α} {entries : List (Bytes × α)}
    (found : lookUp? key entries = some value) : (key, value) ∈ entries := by
  induction entries with
  | nil => simp [lookUp?] at found
  | cons first rest ih =>
      obtain ⟨current, old⟩ := first
      by_cases same : current = key
      · simp only [lookUp?, if_pos same, Option.some.injEq] at found
        subst same found
        exact List.mem_cons_self
      · simp only [lookUp?, if_neg same] at found
        exact List.mem_cons_of_mem _ (ih found)

/-! ### Look-ups in maps -/

theorem find?_insert (map : KeyMap α) (key other : Bytes) (value : α) :
    (map.insert key value).find? other = if other = key then some value else map.find? other :=
  lookUp?_insertEntry key other value map.entries

theorem find?_erase (map : KeyMap α) (key other : Bytes) :
    (map.erase key).find? other = if other = key then none else map.find? other :=
  lookUp?_filter key other map.entries

/-- Writes that are made one after the other. They are in ascending order, so no key is written twice
and a later write never hides an earlier one. -/
theorem find?_foldl {β : Type} {step : KeyMap α → Bytes × β → KeyMap α} {written : β → Option α}
    (steps : ∀ map entry key, (step map entry).find? key =
      if key = entry.1 then written entry.2 else map.find? key)
    (map : KeyMap α) (changes : KeyMap β) (key : Bytes) :
    (changes.entries.foldl step map).find? key =
      ((changes.find? key).map written).getD (map.find? key) := by
  obtain ⟨entries, ordered⟩ := changes
  simp only [find?]
  induction entries generalizing map with
  | nil => simp [lookUp?]
  | cons first rest ih =>
      obtain ⟨least, restOrdered⟩ := List.pairwise_cons.mp ordered
      have atFirst := steps map first key
      simp only [find?] at atFirst
      rw [List.foldl_cons, ih _ restOrdered, atFirst]
      by_cases same : first.1 = key
      · have hidden : lookUp? key rest = none :=
          lookUp?_eq_none_of_before fun entry member => same ▸ least entry member
        simp [lookUp?, same, hidden]
      · simp [lookUp?, same, Ne.symm same]

theorem find?_override (map changes : KeyMap α) (key : Bytes) :
    (map.override changes).find? key = (changes.find? key).or (map.find? key) := by
  have folded := find?_foldl (fun map entry key => find?_insert map entry.1 key entry.2) map
    changes key
  refine Eq.trans folded ?_
  cases changes.find? key <;> rfl

def alter (map : KeyMap α) (key : Bytes) : Option α → KeyMap α
  | some value => map.insert key value
  | none => map.erase key

theorem find?_alter (map : KeyMap α) (key other : Bytes) (new : Option α) :
    (map.alter key new).find? other = if other = key then new else map.find? other := by
  cases new with
  | none => exact find?_erase map key other
  | some value => exact find?_insert map key other value

theorem change_eq_foldl (map : KeyMap α) (changes : KeyMap (Option α)) :
    map.change changes =
      changes.entries.foldl (fun map entry => map.alter entry.1 entry.2) map := by
  rfl

theorem find?_change (map : KeyMap α) (changes : KeyMap (Option α)) (key : Bytes) :
    (map.change changes).find? key = (changes.find? key).getD (map.find? key) := by
  have steps : ∀ (map : KeyMap α) (entry : Bytes × Option α) (key : Bytes),
      (map.alter entry.1 entry.2).find? key = if key = entry.1 then id entry.2 else map.find? key :=
    fun map entry key => find?_alter map entry.1 key entry.2
  rw [change_eq_foldl, find?_foldl steps, Option.map_id_apply]

/-! ### Maps as what look-ups find -/

/-- A first key that comes before another first key is found on one side only. -/
theorem not_before_of_lookUp? {key otherKey : Bytes} {value otherValue : α}
    {rest others : List (Bytes × α)}
    (least : ∀ entry ∈ others, otherKey.before entry.1 = true)
    (same : lookUp? key ((key, value) :: rest) = lookUp? key ((otherKey, otherValue) :: others)) :
    key.before otherKey = false := by
  cases order : key.before otherKey with
  | false => rfl
  | true =>
      have hidden : lookUp? key ((otherKey, otherValue) :: others) = none := by
        apply lookUp?_eq_none_of_before
        intro entry member
        rcases List.mem_cons.mp member with rfl | later
        · exact order
        · exact Bytes.before_trans order (least entry later)
      rw [hidden] at same
      simp [lookUp?] at same

theorem entries_eq_of_lookUp? {left right : List (Bytes × α)} (leftOrdered : Ascending left)
    (rightOrdered : Ascending right)
    (same : ∀ key, lookUp? key left = lookUp? key right) : left = right := by
  induction left generalizing right with
  | nil =>
      cases right with
      | nil => rfl
      | cons first rest =>
          have atFirst := same first.1
          simp [lookUp?] at atFirst
  | cons first rest ih =>
      obtain ⟨key, value⟩ := first
      obtain ⟨least, restOrdered⟩ := List.pairwise_cons.mp leftOrdered
      cases right with
      | nil =>
          have atFirst := same key
          simp [lookUp?] at atFirst
      | cons other others =>
          obtain ⟨otherKey, otherValue⟩ := other
          obtain ⟨otherLeast, othersOrdered⟩ := List.pairwise_cons.mp rightOrdered
          have notBefore := not_before_of_lookUp? otherLeast (same key)
          have notAfter := not_before_of_lookUp? least (same otherKey).symm
          have keys : key = otherKey := Bytes.eq_of_not_before notBefore notAfter
          subst otherKey
          have atKey := same key
          simp only [lookUp?, if_true, Option.some.injEq] at atKey
          subst otherValue
          have tails : rest = others := by
            apply ih restOrdered othersOrdered
            intro asked
            by_cases head : key = asked
            · subst asked
              rw [lookUp?_eq_none_of_before least, lookUp?_eq_none_of_before otherLeast]
            · have atAsked := same asked
              simpa [lookUp?, head] using atAsked
          rw [tails]

theorem ext_find? {left right : KeyMap α} (same : ∀ key, left.find? key = right.find? key) :
    left = right := by
  obtain ⟨entries, ordered⟩ := left
  obtain ⟨others, otherOrdered⟩ := right
  have equal := entries_eq_of_lookUp? ordered otherOrdered same
  subst equal
  rfl

theorem mem_entries_iff (map : KeyMap α) (key : Bytes) (value : α) :
    (key, value) ∈ map.entries ↔ map.find? key = some value := by
  refine ⟨fun member => ?_, mem_of_lookUp?⟩
  obtain ⟨entries, ordered⟩ := map
  simp only [find?] at member ⊢
  induction entries with
  | nil => simp at member
  | cons first rest ih =>
      obtain ⟨least, restOrdered⟩ := List.pairwise_cons.mp ordered
      rcases List.mem_cons.mp member with rfl | later
      · simp [lookUp?]
      · have different := Bytes.before_ne (least _ later)
        simp [lookUp?, different, ih restOrdered later]

theorem mem_keys_iff (map : KeyMap α) (key : Bytes) :
    key ∈ map.keys ↔ (map.find? key).isSome = true := by
  rw [keys, List.mem_map, Option.isSome_iff_exists]
  constructor
  · rintro ⟨⟨current, value⟩, member, rfl⟩
    exact ⟨value, (mem_entries_iff map current value).mp member⟩
  · rintro ⟨value, found⟩
    exact ⟨(key, value), (mem_entries_iff map key value).mpr found, rfl⟩

/-! ### Sums over the entries -/

def total (count : Bytes → α → Nat) (map : KeyMap α) : Nat :=
  (map.entries.map fun entry => count entry.1 entry.2).sum

/-- What a key counts for, which is nothing where it has no value. -/
def countAt (count : Bytes → α → Nat) (map : KeyMap α) (key : Bytes) : Nat :=
  (map.find? key).elim 0 (count key)

theorem total_erase (count : Bytes → α → Nat) (map : KeyMap α) (key : Bytes) :
    (map.erase key).total count + map.countAt count key = map.total count := by
  obtain ⟨entries, ordered⟩ := map
  simp only [total, countAt, erase, find?]
  induction entries with
  | nil => simp [lookUp?]
  | cons first rest ih =>
      obtain ⟨current, old⟩ := first
      obtain ⟨least, restOrdered⟩ := List.pairwise_cons.mp ordered
      have after := ih restOrdered
      by_cases same : current = key
      · subst current
        rw [lookUp?_eq_none_of_before least] at after
        rw [List.filter_cons_of_neg (by simp)]
        simp only [lookUp?, if_true, Option.elim_some, Option.elim_none, List.map_cons,
          List.sum_cons] at after ⊢
        omega
      · rw [List.filter_cons_of_pos (by simpa using same)]
        simp only [lookUp?, if_neg same, List.map_cons, List.sum_cons]
        omega

theorem countAt_le_total (count : Bytes → α → Nat) (map : KeyMap α) (key : Bytes) :
    map.countAt count key ≤ map.total count := by
  have without := total_erase count map key
  omega

theorem countAt_erase (count : Bytes → α → Nat) (map : KeyMap α) (key other : Bytes) :
    (map.erase key).countAt count other = if other = key then 0 else map.countAt count other := by
  rw [countAt, countAt, find?_erase]
  by_cases same : other = key
  · rw [if_pos same, if_pos same]
    rfl
  · rw [if_neg same, if_neg same]

theorem total_eq_zero {count : Bytes → α → Nat} {map : KeyMap α}
    (nothing : ∀ key, map.countAt count key = 0) : map.total count = 0 := by
  apply List.sum_eq_zero_iff_forall_eq_nat.mpr
  intro part member
  obtain ⟨⟨key, value⟩, among, rfl⟩ := List.mem_map.mp member
  have counted := nothing key
  rw [countAt, (mem_entries_iff map key value).mp among] at counted
  exact counted

theorem length_erase_lt {map : KeyMap α} {key : Bytes} {value : α}
    (found : map.find? key = some value) :
    (map.erase key).entries.length < map.entries.length := by
  have member := (mem_entries_iff map key value).mpr found
  exact List.length_filter_lt_length_iff_exists.mpr ⟨(key, value), member, by simp⟩

theorem total_congr {count : Bytes → α → Nat} {left right : KeyMap α}
    (same : ∀ key, left.countAt count key = right.countAt count key) :
    left.total count = right.total count := by
  generalize size : left.entries.length = bound
  induction bound using Nat.strongRecOn generalizing left right with
  | _ bound ih =>
      cases found : left.entries with
      | nil =>
          have nothing : ∀ key, left.countAt count key = 0 := by
            intro key
            rw [countAt, find?, found]
            rfl
          rw [total_eq_zero nothing, total_eq_zero fun key => (same key).symm.trans (nothing key)]
      | cons first rest =>
          obtain ⟨key, value⟩ := first
          have present : left.find? key = some value := by
            rw [find?, found]
            simp [lookUp?]
          have rests : (left.erase key).total count = (right.erase key).total count := by
            refine ih _ (size ▸ length_erase_lt present) (fun other => ?_) rfl
            rw [countAt_erase, countAt_erase, same other]
          have ofLeft := total_erase count left key
          have ofRight := total_erase count right key
          have atKey := same key
          omega

theorem total_change {count : Bytes → α → Nat} {left right : KeyMap α} {key : Bytes}
    (same : ∀ other, other ≠ key → left.countAt count other = right.countAt count other) :
    right.total count + left.countAt count key = left.total count + right.countAt count key := by
  have rests : (left.erase key).total count = (right.erase key).total count := by
    apply total_congr
    intro other
    rw [countAt_erase, countAt_erase]
    by_cases changed : other = key
    · rw [if_pos changed, if_pos changed]
    · rw [if_neg changed, if_neg changed, same other changed]
  have ofLeft := total_erase count left key
  have ofRight := total_erase count right key
  omega

end StateTransition.KeyMap
