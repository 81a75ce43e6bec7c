import StateTransition.Proofs.Chain.Beginning
import StateTransition.Proofs.Codec.Sequence
import StateTransition.Proofs.Store.Rows
import StateTransition.Proofs.Word

set_option autoImplicit false

/-! The forms of the extrinsics of a block. Each of them is kept at its place from when it is noted;
when the block is closed they are taken out in their order, and nothing is left of what the block has
kept for itself. -/

namespace StateTransition

open Item (Under under_head under_row not_under_head)
open Codec (lengthBound)

/-! ### Places -/

/-- What stands at each place where forms stand from a first place on. -/
def formsFrom (first : Nat) (forms : List Bytes) (place : UInt32) : Option Bytes :=
  if first ≤ place.toNat then forms[place.toNat - first]? else none

private theorem formsFrom_nil (first : Nat) : formsFrom first [] = fun _ => none := by
  funext place
  unfold formsFrom
  split <;> rfl

private theorem toNat_place {place : Nat} (room : place < 4294967296) :
    (UInt32.ofNat place).toNat = place := UInt32.toNat_ofNat_of_lt' room

private theorem eq_place_iff {place : UInt32} {number : Nat} (room : number < 4294967296) :
    place = UInt32.ofNat number ↔ place.toNat = number := by
  rw [← UInt32.toNat_inj, toNat_place room]

private theorem formsFrom_concat {forms : List Bytes} (room : forms.length < 4294967296)
    (form : Bytes) :
    formsFrom 0 (forms ++ [form]) =
      Function.update (formsFrom 0 forms) (UInt32.ofNat forms.length) (some form) := by
  funext place
  simp only [formsFrom, Nat.zero_le, if_true, Nat.sub_zero, Function.update_apply,
    eq_place_iff room]
  rcases Nat.lt_trichotomy place.toNat forms.length with before | at_end | behind
  · rw [if_neg (Nat.ne_of_lt before), List.getElem?_append_left before]
  · rw [if_pos at_end, at_end, List.getElem?_concat_length]
  · rw [if_neg (Nat.ne_of_gt behind), List.getElem?_eq_none (Nat.le_of_lt behind),
      List.getElem?_eq_none (by simp only [List.length_append, List.length_singleton]; omega)]

private theorem formsFrom_cons {first : Nat} (room : first < 4294967296) (form : Bytes)
    (others : List Bytes) : formsFrom (first + 1) others =
      Function.update (formsFrom first (form :: others)) (UInt32.ofNat first) none := by
  funext place
  simp only [formsFrom, Function.update_apply, eq_place_iff room]
  rcases Nat.lt_trichotomy place.toNat first with before | at_first | behind
  · rw [if_neg (Nat.ne_of_lt before), if_neg (by omega), if_neg (by omega)]
  · rw [if_pos at_first, if_neg (by omega)]
  · obtain ⟨distance, apart⟩ := Nat.exists_eq_add_of_lt behind
    rw [if_neg (Nat.ne_of_gt behind), if_pos (by omega), if_pos (by omega), apart,
      show first + distance + 1 - (first + 1) = distance by omega,
      show first + distance + 1 - first = distance + 1 by omega, List.getElem?_cons_succ]

/-! ### While the block is run -/

namespace Environment

variable {forms : List Bytes} {store before after : Store}

/-- The forms of the extrinsics so far stand at their places, no others do, and the place of the next
is known. -/
structure Gathers (forms : List Bytes) (store : Store) : Prop where
  index : Item.extrinsicIndex.stored? store = some (UInt32.ofNat forms.length)
  rows : Item.extrinsicData.Holds (formsFrom 0 forms) store

/-- The names of the forms and of the place of the next. -/
def formNames : List Item.Name := [.extrinsicData, .extrinsicIndex]

private theorem under_form {key : Bytes} (begins : key.startsWith Item.extrinsicData.area = true) :
    Under formNames key :=
  Item.under_of_mem (List.mem_cons_self : Item.Name.extrinsicData ∈ formNames) begins

private theorem index_under : Under formNames Item.extrinsicIndex.key :=
  under_head .extrinsicIndex (by decide)

private theorem number_faithful : (Codec.word : Codec UInt32).Faithful fun _ => True :=
  Codec.word_faithful

private theorem readsBack_number (number : UInt32) :
    Codec.word.decodeFront? (Codec.word.encode number) = some number :=
  number_faithful.decodeFront?_encode number trivial

namespace Gathers

theorem congr (gathers : Gathers forms before)
    (same : ∀ key, Under formNames key → after.get? key = before.get? key) : Gathers forms after where
  index := (Slot.stored?_congr _ (same _ index_under)).trans gathers.index
  rows := gathers.rows.congr fun _ begins => same _ (under_form begins)

theorem seen (same : after.visible = before.visible) (gathers : Gathers forms before) :
    Gathers forms after :=
  gathers.congr fun key _ => Store.seen_get? key after before same

theorem setUp {Number : Type} [Word Number]
    (bare : ∀ key, key.startsWith Item.extrinsicData.area = true → store.get? key = none)
    (number : Number) (parent : Hash) (digest : Digest) :
    Gathers [] (Environment.setUp number parent digest store) where
  index := by
    have later : Store.Local (Under [.number, .digest, .parentHash, .blockHash, .blockWeight])
        fun store => Item.blockWeight.erase
          ((Item.blockHash.row (Word.saturatingSub number Word.one)).put parent
            (Item.parentHash.put parent (Item.digest.put digest (Item.number.put number store)))) :=
      ((((Slot.put_local (under_head .number (by decide)) _).comp
        (Slot.put_local (under_head .digest (by decide)) _)).comp
        (Slot.put_local (under_head .parentHash (by decide)) _)).comp
        (Slot.put_local (under_row .blockHash (by decide) rfl _) _)).comp
        (Slot.erase_local (under_head .blockWeight (by decide)))
    exact Slot.get_after_put Item.extrinsicIndex later (not_under_head .extrinsicIndex (by decide))
      (readsBack_number 0) _
  rows := by
    rw [formsFrom_nil]
    refine (Table.Holds.empty bare).congr fun key begins => ?_
    exact (setUp_local number parent digest).spares _ _ (Item.not_under
      (by decide : Item.Name.extrinsicData ∉ [Item.Name.phase, .extrinsicIndex, .number, .digest,
        .parentHash, .blockHash, .blockWeight]) begins)

theorem extrinsicIndex (gathers : Gathers forms store) :
    Environment.extrinsicIndex store = UInt32.ofNat forms.length := by
  have shown : Item.extrinsicIndex.get store = some (UInt32.ofNat forms.length) := gathers.index
  rw [Environment.extrinsicIndex, shown]
  rfl

/-- Between the note of its form and the step to the next place an extrinsic leaves the forms
alone. -/
theorem next (gathers : Gathers forms before) (room : forms.length + 1 < 4294967296) {form : Bytes}
    (same : ∀ key, Under formNames key →
      store.get? key = (noteExtrinsic form before).get? key) :
    Gathers (forms ++ [form]) (nextExtrinsic store) where
  index := by
    have outside : Item.extrinsicIndex.key ≠
        (Item.extrinsicData.row (Environment.extrinsicIndex before)).key := by
      intro met
      have under : Under [.extrinsicData] Item.extrinsicIndex.key := by
        rw [met]
        exact under_row .extrinsicData (by decide) rfl _
      exact not_under_head .extrinsicIndex (by decide) under
    have noted : (noteExtrinsic form before).get? Item.extrinsicIndex.key =
        before.get? Item.extrinsicIndex.key := (Store.get?_put _ _ _ _).trans (if_neg outside)
    have index : Environment.extrinsicIndex store = UInt32.ofNat forms.length := by
      rw [← gathers.extrinsicIndex, Environment.extrinsicIndex, Environment.extrinsicIndex,
        Slot.get_congr _ ((same _ index_under).trans noted)]
    have following : UInt32.ofNat forms.length + 1 = UInt32.ofNat (forms ++ [form]).length := by
      rw [List.length_append]
      exact (UInt32.ofNat_add forms.length 1).symm
    have later : Store.Local (Under [.phase])
        (Item.phase.put (.extrinsic (UInt32.ofNat forms.length + 1))) :=
      Slot.put_local (under_head .phase (by decide)) _
    unfold nextExtrinsic
    rw [index]
    dsimp only
    rw [following] at later ⊢
    exact Slot.get_after_put Item.extrinsicIndex later (not_under_head .extrinsicIndex (by decide))
      (readsBack_number _) _
  rows := by
    have noted := gathers.rows.put rfl number_faithful.readsBack (UInt32.ofNat forms.length) form
    rw [← formsFrom_concat (by omega) form, ← gathers.extrinsicIndex] at noted
    refine noted.congr fun key begins => ?_
    have going : Store.Local (Under [.extrinsicIndex, .phase]) nextExtrinsic :=
      nextExtrinsic_local (under_head .extrinsicIndex (by decide)) (under_head .phase (by decide))
    have apart : ¬Under [.extrinsicIndex, .phase] key :=
      Item.not_under (by decide : Item.Name.extrinsicData ∉ [Item.Name.extrinsicIndex, .phase]) begins
    exact (going.spares store key apart).trans (same key (under_form begins))

end Gathers

/-! ### When the block is closed -/

structure Complete (forms : List Bytes) (store : Store) : Prop where
  count : Item.extrinsicCount.stored? store = some (UInt32.ofNat forms.length)
  rows : Item.extrinsicData.Holds (formsFrom 0 forms) store
  index : store.get? Item.extrinsicIndex.key = none

/-- Nothing is left of what is kept for the extrinsics of a block. -/
structure Cleared (store : Store) : Prop where
  forms : ∀ key, key.startsWith Item.extrinsicData.area = true → store.get? key = none
  count : store.get? Item.extrinsicCount.key = none
  length : store.get? Item.extrinsicsLength.key = none
  phase : store.get? Item.phase.key = none
  index : store.get? Item.extrinsicIndex.key = none

/-- What the extrinsics of a block are known by until it is closed. -/
def closedNames : List Item.Name := [.extrinsicData, .extrinsicIndex, .extrinsicCount]

theorem Complete.congr (complete : Complete forms before)
    (same : ∀ key, Under closedNames key → after.get? key = before.get? key) :
    Complete forms after where
  count := (Slot.stored?_congr _ (same _ (under_head .extrinsicCount (by decide)))).trans
    complete.count
  rows := complete.rows.congr fun _ begins =>
    same _ (Item.under_of_mem (List.mem_cons_self : Item.Name.extrinsicData ∈ closedNames) begins)
  index := (same _ (under_head .extrinsicIndex (by decide))).trans complete.index

theorem Gathers.finish (gathers : Gathers forms store) :
    Complete forms (finishExtrinsics store) := by
  have taken : Item.extrinsicIndex.take store =
      (some (UInt32.ofNat forms.length), Item.extrinsicIndex.erase store) :=
    Slot.take_of_stored _ gathers.index
  have later : Store.Local (Under [.phase]) (Item.phase.put .finalization) :=
    Slot.put_local (under_head .phase (by decide)) _
  have both : Store.Local (Under [.extrinsicCount, .phase]) fun store =>
      Item.phase.put .finalization (Item.extrinsicCount.put (UInt32.ofNat forms.length) store) :=
    (Slot.put_local (under_head .extrinsicCount (by decide)) _).comp
      (Slot.put_local (under_head .phase (by decide)) _)
  have ends : finishExtrinsics store = Item.phase.put .finalization
      (Item.extrinsicCount.put (UInt32.ofNat forms.length) (Item.extrinsicIndex.erase store)) := by
    unfold finishExtrinsics
    rw [taken]
    rfl
  rw [ends]
  constructor
  · exact Slot.get_after_put Item.extrinsicCount later (not_under_head .extrinsicCount (by decide))
      (readsBack_number _) _
  · refine gathers.rows.congr fun key begins => ?_
    have foreign : ∀ names : List Item.Name, Item.Name.extrinsicData ∉ names → ¬Under names key :=
      fun names absent => Item.not_under absent begins
    have erasing : Store.Local (Under [.extrinsicIndex]) Item.extrinsicIndex.erase :=
      Slot.erase_local (under_head .extrinsicIndex (by decide))
    exact (both.spares _ key (foreign _ (by decide))).trans
      (erasing.spares store key (foreign _ (by decide)))
  · refine (both.spares _ _ (not_under_head .extrinsicIndex (by decide))).trans ?_
    exact Slot.get?_erase_none _ (Or.inl rfl)

private theorem takeExtrinsics_forms (short : ∀ form ∈ forms, form.length < lengthBound)
    {first : Nat} (room : first + forms.length ≤ 4294967296)
    (holds : Item.extrinsicData.Holds (formsFrom first forms) store) :
    (takeExtrinsics store forms.length first).1 = forms ∧
      Item.extrinsicData.Holds (fun _ => none) (takeExtrinsics store forms.length first).2 := by
  induction forms generalizing first store with
  | nil =>
      rw [formsFrom_nil] at holds
      exact ⟨rfl, holds⟩
  | cons form others ih =>
      have inside : first < 4294967296 := by
        rw [List.length_cons] at room
        omega
      have here : formsFrom first (form :: others) (UInt32.ofNat first) = some form := by
        rw [formsFrom, toNat_place inside, if_pos (Nat.le_refl _), Nat.sub_self]
        rfl
      have reads : Codec.bytes.decodeFront? (Codec.bytes.encode form) = some form :=
        Codec.bytes_faithful.decodeFront?_encode form (short form List.mem_cons_self)
      have taken : (Item.extrinsicData.row (UInt32.ofNat first)).take store =
          (form, (Item.extrinsicData.row (UInt32.ofNat first)).erase store) :=
        Slot.take_of_stored _ (holds.stored? here reads)
      have erased := holds.erase rfl number_faithful.readsBack (UInt32.ofNat first)
      rw [← formsFrom_cons inside] at erased
      obtain ⟨rest, bare⟩ := ih (fun other member => short other (List.mem_cons_of_mem _ member))
        (by rw [List.length_cons] at room; omega) erased
      rw [List.length_cons, takeExtrinsics, taken]
      exact ⟨congrArg (form :: ·) rest, bare⟩

/-- What is left of a block before its forms are taken out. -/
def emptied (store : Store) : Store :=
  Item.extrinsicCount.erase (Item.extrinsicsLength.erase (Item.phase.erase store))

private theorem emptied_local :
    Store.Local (Under [.phase, .extrinsicsLength, .extrinsicCount]) emptied :=
  ((Slot.erase_local (under_head .phase (by decide))).comp
    (Slot.erase_local (under_head .extrinsicsLength (by decide)))).comp
    (Slot.erase_local (under_head .extrinsicCount (by decide)))

end Environment

namespace Rules

open Environment (Complete Cleared emptied takeExtrinsics)

variable {Account Number : Type} [Word Number]
variable {rules : Rules Account Number} {forms : List Bytes} {header : Header Number}
variable {store after : Store}

private theorem finishBlock_stages {count : UInt32}
    (counted : Item.extrinsicCount.stored? store = some count)
    (closes : rules.finishBlock store = (header, after)) :
    ∃ number, header.extrinsicsRoot = orderedRoot (takeExtrinsics (emptied store) count.toNat 0).1 ∧
      header.stateRoot = after.root ∧
      after = rules.forgetHash number (takeExtrinsics (emptied store) count.toNat 0).2 := by
  have closing : Store.Local (Under [.phase, .extrinsicsLength]) fun store =>
      Item.extrinsicsLength.erase (Item.phase.erase store) :=
    (Slot.erase_local (under_head .phase (by decide))).comp
      (Slot.erase_local (under_head .extrinsicsLength (by decide)))
  have still : Item.extrinsicCount.stored? (Item.extrinsicsLength.erase (Item.phase.erase store)) =
      some count :=
    (Slot.stored?_congr _ (closing.spares store _
      (not_under_head .extrinsicCount (by decide)))).trans counted
  unfold finishBlock at closes
  dsimp only at closes
  rw [Slot.take_of_stored _ still] at closes
  cases closes
  exact ⟨_, rfl, rfl, rfl⟩

/-- The header of a block is about its extrinsics and about the state that is left, in which there is
nothing of them. -/
theorem finishBlock_complete (complete : Complete forms store)
    (short : ∀ form ∈ forms, form.length < lengthBound) (room : forms.length < 4294967296)
    (closes : rules.finishBlock store = (header, after)) :
    header.extrinsicsRoot = orderedRoot forms ∧ header.stateRoot = after.root ∧ Cleared after := by
  obtain ⟨number, forming, rooted, ends⟩ := finishBlock_stages complete.count closes
  rw [toNat_place room] at forming ends
  have rows : Item.extrinsicData.Holds (formsFrom 0 forms) (emptied store) :=
    complete.rows.congr fun key begins => Environment.emptied_local.spares store key
      (Item.not_under (by decide : Item.Name.extrinsicData ∉
        [Item.Name.phase, .extrinsicsLength, .extrinsicCount]) begins)
  obtain ⟨inOrder, bare⟩ := Environment.takeExtrinsics_forms short (by omega) rows
  rw [inOrder] at forming
  have forgetting : Store.Local (Under [.blockHash]) (rules.forgetHash number) :=
    rules.forgetHash_local (under_row .blockHash (by decide) rfl) number
  have taking : Store.Local (Under [.extrinsicData])
      fun store => (takeExtrinsics store forms.length 0).2 :=
    (Environment.takeExtrinsics_acts (under_row .extrinsicData (by decide) rfl) _ 0).isLocal
  have spared : ∀ name ∉ [Item.Name.blockHash, .extrinsicData],
      after.get? name.head = (emptied store).get? name.head := by
    intro name foreign
    have apart : ∀ names : List Item.Name,
        (∀ name ∈ names, name ∈ [Item.Name.blockHash, .extrinsicData]) → ¬Under names name.head :=
      fun names within => not_under_head name fun member => foreign (within name member)
    rw [ends]
    exact (forgetting.spares _ _ (apart _ (by decide))).trans
      (taking.spares _ _ (apart _ (by decide)))
  refine ⟨forming, rooted, ⟨fun key begins => ?_, ?_, ?_, ?_, ?_⟩⟩
  · have apart : ¬Under [.blockHash] key :=
      Item.not_under (by decide : Item.Name.extrinsicData ∉ [Item.Name.blockHash]) begins
    rw [ends]
    exact (forgetting.spares _ key apart).trans (bare.bare key begins)
  · exact (spared .extrinsicCount (by decide)).trans (Slot.get?_erase_none _ (Or.inl rfl))
  · exact (spared .extrinsicsLength (by decide)).trans
      (Slot.get?_erase_none _ (Or.inr (Slot.get?_erase_none _ (Or.inl rfl))))
  · exact (spared .phase (by decide)).trans (Slot.get?_erase_none _ (Or.inr
      (Slot.get?_erase_none _ (Or.inr (Slot.get?_erase_none _ (Or.inl rfl))))))
  · exact (spared .extrinsicIndex (by decide)).trans (Slot.get?_erase_none _ (Or.inr
      (Slot.get?_erase_none _ (Or.inr (Slot.get?_erase_none _ (Or.inr complete.index))))))

end Rules

namespace Chain

open Environment (Gathers Cleared closedNames)

variable {Account Number Call : Type} [Word Number]
variable {chain : Chain Account Number Call} {keys : Bytes → Prop} {forms : List Bytes}
variable {number : Number} {header : Header Number} {world after : World}

/-- The end of a block puts the extrinsics that were gathered into its header. -/
theorem sealing_collects (isLocal : chain.EndsLocal keys)
    (apart : ∀ key, Under closedNames key → ¬keys key) (gathers : Gathers forms world.store)
    (short : ∀ form ∈ forms, form.length < lengthBound) (room : forms.length < 4294967296)
    (run : chain.sealing number world = .ok header after) :
    header.extrinsicsRoot = orderedRoot forms ∧ header.stateRoot = after.store.root ∧
      Cleared after.store := by
  obtain ⟨finished, finishes, closes⟩ := sealing_eq_ok run
  have complete := gathers.finish.congr fun key under =>
    (idleAndFinish_local isLocal number).spared finishes (apart key under)
  exact Rules.finishBlock_complete complete short room closes

end Chain

end StateTransition
