import Mathlib.Logic.Function.Basic
import StateTransition.Proofs.Chain.Parent
import StateTransition.Testnet.Network

set_option autoImplicit false

/-! The hashes that a chain remembers. A block that begins records the hash of the one before it, a
block that ends forgets the one that is too far back, so that after every block the hashes of the last
blocks are there, and that of the first. -/

namespace StateTransition

variable {Account Number : Type} [Word Number]

/-! ### What is recorded -/

def hashRow (number : Number) : Slot Hash Hash := Item.blockHash.row number

private theorem hashRow_under (number : Number) : Item.Under [.blockHash] (hashRow number).key :=
  Item.under_row .blockHash (List.mem_singleton.mpr rfl) rfl number

private theorem hashRow_key {left right : Number}
    (same : (hashRow left).key = (hashRow right).key) : left = right :=
  blockHash_row_injective same

/-- The recorded hashes are those of the numbers that are kept, and nothing else is stored among
them. -/
structure Records (Number : Type) [Word Number] (kept : Nat → Prop) (hashes : Nat → Hash)
    (store : Store) : Prop where
  present : ∀ number : Number, kept (Word.toNat number) →
    store.get? (hashRow number).key = some (hashes (Word.toNat number)).bytes
  only : ∀ key, Item.Under [.blockHash] key → store.get? key ≠ none →
    ∃ number : Number, kept (Word.toNat number) ∧ key = (hashRow number).key

namespace Records

variable {kept others : Nat → Prop} {hashes : Nat → Hash} {store before after : Store}

theorem congr (records : Records Number kept hashes before)
    (same : ∀ key, Item.Under [.blockHash] key → after.get? key = before.get? key) :
    Records Number kept hashes after where
  present number held := (same _ (hashRow_under number)).trans (records.present number held)
  only key under found := records.only key under (same key under ▸ found)

theorem put (records : Records Number kept hashes store) (number : Number) (hash : Hash) :
    Records Number (fun height => height = Word.toNat number ∨ kept height)
      (Function.update hashes (Word.toNat number) hash) ((hashRow number).put hash store) where
  present other held := by
    rw [Slot.put, Store.write, Store.get?_put]
    by_cases same : other = number
    · rw [same, if_pos rfl, Function.update_self]
      rfl
    · have apart : Word.toNat other ≠ Word.toNat number := fun met =>
        same (Word.toNat_injective _ _ met)
      rw [if_neg fun met => same (hashRow_key met), Function.update_of_ne apart]
      exact records.present other (held.resolve_left apart)
  only key under found := by
    rw [Slot.put, Store.write, Store.get?_put] at found
    by_cases same : key = (hashRow number).key
    · exact ⟨number, Or.inl rfl, same⟩
    · rw [if_neg same] at found
      obtain ⟨other, held, at_row⟩ := records.only key under found
      exact ⟨other, Or.inr held, at_row⟩

theorem erase (records : Records Number kept hashes store) (number : Number) :
    Records Number (fun height => height ≠ Word.toNat number ∧ kept height) hashes
      ((hashRow number).erase store) where
  present other held := by
    have apart : (hashRow other).key ≠ (hashRow number).key := fun met =>
      held.1 (congrArg Word.toNat (hashRow_key met))
    rw [Slot.erase, Store.get?_erase, if_neg apart]
    exact records.present other held.2
  only key under found := by
    rw [Slot.erase, Store.get?_erase] at found
    by_cases same : key = (hashRow number).key
    · exact absurd (if_pos same) found
    · rw [if_neg same] at found
      obtain ⟨other, held, at_row⟩ := records.only key under found
      refine ⟨other, ⟨fun met => same ?_, held⟩, at_row⟩
      rw [at_row, Word.toNat_injective _ _ met]

theorem retold {hashes' : Nat → Hash} (records : Records Number kept hashes store)
    (same : ∀ number : Number, others (Word.toNat number) ↔ kept (Word.toNat number))
    (alike : ∀ number : Number, others (Word.toNat number) →
      hashes' (Word.toNat number) = hashes (Word.toNat number)) :
    Records Number others hashes' store where
  present number held := by
    rw [records.present number ((same number).mp held), alike number held]
  only key under found := by
    obtain ⟨number, held, at_row⟩ := records.only key under found
    exact ⟨number, (same number).mpr held, at_row⟩

theorem stored? (records : Records Number kept hashes store) {number : Number}
    (held : kept (Word.toNat number)) :
    (Item.blockHash.row number).stored? store = some (hashes (Word.toNat number)) := by
  have present := records.present number held
  have read := (Codec.octets_faithful 32).decodeFront?_encode (hashes (Word.toNat number)) trivial
  change (store.get? (hashRow number).key).bind _ = _
  rw [present]
  exact read

theorem exists?_iff (records : Records Number kept hashes store) (number : Number) :
    (Item.blockHash.row number).exists? store = true ↔ kept (Word.toNat number) := by
  change (store.get? (hashRow number).key).isSome = true ↔ _
  constructor
  · intro found
    obtain ⟨other, held, met⟩ := records.only _ (hashRow_under number)
      (Option.isSome_iff_ne_none.mp found)
    rw [hashRow_key met]
    exact held
  · intro held
    rw [records.present number held]
    rfl

end Records

/-! ### What a block does to them -/

private theorem Environment.setUp_hashes {key : Bytes} (under : Item.Under [.blockHash] key)
    (number : Number) (parent : Hash) (digest : Digest) (store : Store) :
    (setUp number parent digest store).get? key =
      ((hashRow (Word.saturatingSub number Word.one)).put parent store).get? key := by
  have earlier : Store.Local (Item.Under [.phase, .extrinsicIndex, .number, .digest, .parentHash])
      fun store => Item.parentHash.put parent (Item.digest.put digest (Item.number.put number
        (Item.extrinsicIndex.put 0 (Item.phase.put .beginning store)))) :=
    ((((Slot.put_local (Item.under_head .phase (by decide)) _).comp
      (Slot.put_local (Item.under_head .extrinsicIndex (by decide)) _)).comp
      (Slot.put_local (Item.under_head .number (by decide)) _)).comp
      (Slot.put_local (Item.under_head .digest (by decide)) _)).comp
      (Slot.put_local (Item.under_head .parentHash (by decide)) _)
  have later : Store.Local (Item.Under [.blockWeight]) Item.blockWeight.erase :=
    Slot.erase_local (Item.under_head .blockWeight (by decide))
  calc (setUp number parent digest store).get? key
      = ((hashRow (Word.saturatingSub number Word.one)).put parent _).get? key :=
        later.spares _ key (under.apart (by decide))
    _ = ((hashRow (Word.saturatingSub number Word.one)).put parent store).get? key := by
        rw [Slot.put, Store.write, Store.get?_put, earlier.spares store key (under.apart (by decide)),
          Slot.put, Store.write, Store.get?_put]

namespace Rules

variable (rules : Rules Account Number)

/-- Between its beginning and its end a block leaves its number and the recorded hashes as they were
set up. -/
def Underway (_ : Rules Account Number) (height : Nat) (parent : Hash) (before during : Store) : Prop :=
  ∃ digest, ∀ key, Item.Under [.blockHash, .number] key →
    during.get? key =
      (Environment.setUp (Word.clamp height : Number) parent digest before).get? key

/-- The stores of a chain that has run its first blocks, one after another and each from beginning to
end. What a block says of the hash of the one before it is arbitrary. -/
inductive Grown (rules : Rules Account Number) (parents : Nat → Hash) : Nat → Store → Prop where
  | genesis {origin begun : Store}
      (bare : ∀ key, Item.Under [.blockHash] key → origin.get? key = none)
      (written : ∀ key, Item.Under [.blockHash] key →
        begun.get? key = (rules.writeGenesis origin).get? key) : Grown rules parents 0 begun
  | block {height : Nat} {before during : Store} (grown : Grown rules parents height before)
      (room : height + 1 < Bytes.span (Word.width Number))
      (underway : rules.Underway (height + 1) (parents height) before during) :
      Grown rules parents (height + 1) (rules.finishBlock during).2

/-- The heights whose hashes are there after a block: the first, and the last before that block. -/
def Keeps (height number : Nat) : Prop :=
  number = 0 ∨ max 1 (height - Word.toNat rules.hashCount) ≤ number ∧ number ≤ height - 1

/-- Before the first block the hash of the first is not known, and another stands for it. -/
def hashesAt (_ : Rules Account Number) (parents : Nat → Hash) : Nat → Nat → Hash
  | 0 => fun _ => genesisHash
  | _ + 1 => parents

variable {rules} {parents : Nat → Hash} {height : Nat} {store before during : Store}

theorem writeGenesis_records (bare : ∀ key, Item.Under [.blockHash] key → store.get? key = none) :
    Records Number (fun height => height = 0) (fun _ => genesisHash) (rules.writeGenesis store) := by
  have nothing : Records Number (fun _ => False) (fun _ => genesisHash) store :=
    ⟨fun _ held => held.elim, fun key under found => absurd (bare key under) found⟩
  have asides : Store.Local (Item.Under [.parentHash, .lastUpgrade, .extrinsicCount])
      fun store => Item.extrinsicCount.erase (Item.lastUpgrade.put rules.version.remembered
        (Item.parentHash.put genesisHash store)) :=
    ((Slot.put_local (Item.under_head .parentHash (by decide)) _).comp
      (Slot.put_local (Item.under_head .lastUpgrade (by decide)) _)).comp
      (Slot.erase_local (Item.under_head .extrinsicCount (by decide)))
  have zero : Word.toNat (Word.zero : Number) = 0 :=
    (Word.toNat_clamp 0).trans (Nat.zero_min _)
  have first := (nothing.put Word.zero genesisHash).congr
    fun key under => asides.spares _ key (under.apart (by decide))
  exact first.retold (fun number => by simp [zero]) fun number _ => by simp [Function.update_apply]

theorem toNat_forgotten (number : Number) :
    Word.toNat (Word.saturatingSub (Word.saturatingSub number rules.hashCount) Word.one) =
      Word.toNat number - Word.toNat rules.hashCount - 1 := by
  rw [Word.toNat_saturatingSub, Word.toNat_saturatingSub]
  rcases Nat.eq_zero_or_pos (Word.toNat number) with first | later
  · omega
  · rw [Chain.toNat_one_of_pos later]

theorem forgetHash_records (rules : Rules Account Number) {kept : Nat → Prop} {hashes : Nat → Hash}
    (records : Records Number kept hashes store) (number : Number) :
    Records Number
      (fun height => kept height ∧
        (height = 0 ∨ height ≠ Word.toNat number - Word.toNat rules.hashCount - 1))
      hashes (rules.forgetHash number store) := by
  have forgotten := rules.toNat_forgotten number
  unfold forgetHash
  dsimp only
  rw [Word.isZero, forgotten]
  by_cases least : Word.toNat number - Word.toNat rules.hashCount - 1 = 0
  · rw [least, if_pos (beq_self_eq_true _)]
    exact records.retold (fun height => and_iff_left (by omega)) fun _ _ => rfl
  · rw [if_neg (fun zero => least (eq_of_beq zero))]
    have erased := records.erase
      (Word.saturatingSub (Word.saturatingSub number rules.hashCount) Word.one)
    rw [forgotten] at erased
    refine erased.retold (fun height => ?_) fun _ _ => rfl
    constructor
    · rintro ⟨held, apart⟩
      exact ⟨by omega, held⟩
    · rintro ⟨apart, held⟩
      exact ⟨held, Or.inr apart⟩

/-- While a block is being built the hash of the one before it is there beside those that are left,
all of them as those blocks named them. -/
theorem Underway.records (room : height + 1 < Bytes.span (Word.width Number))
    (underway : rules.Underway (height + 1) (parents height) before during)
    (records : Records Number (rules.Keeps height) (rules.hashesAt parents height) before) :
    Records Number (fun number => number = height ∨ rules.Keeps height number) parents during := by
  obtain ⟨digest, same⟩ := underway
  have value : Word.toNat (Word.clamp (height + 1) : Number) = height + 1 :=
    Word.toNat_clamp_of_lt room
  have positive : 0 < Word.toNat (Word.clamp (height + 1) : Number) := by omega
  have previous : Word.toNat (Word.saturatingSub (Word.clamp (height + 1) : Number) Word.one) =
      height := by
    rw [Word.toNat_saturatingSub, Chain.toNat_one_of_pos positive, value, Nat.add_sub_cancel]
  have put := records.put (Word.saturatingSub (Word.clamp (height + 1) : Number) Word.one)
    (parents height)
  rw [previous] at put
  have written : ∀ key, Item.Under [.blockHash] key → during.get? key =
      ((hashRow (Word.saturatingSub (Word.clamp (height + 1) : Number) Word.one)).put
        (parents height) before).get? key := fun key under => by
    rw [same key (under.mono (by decide)), Environment.setUp_hashes under]
  have recorded := put.congr written
  refine recorded.retold (fun _ => Iff.rfl) fun number held => ?_
  by_cases last : Word.toNat number = height
  · rw [last, Function.update_self]
  · rw [Function.update_of_ne last]
    unfold Keeps at held
    cases height with
    | zero => omega
    | succ height => rfl

theorem Underway.number {parent : Hash}
    (underway : rules.Underway (height + 1) parent before during) :
    Environment.number during = (Word.clamp (height + 1) : Number) := by
  obtain ⟨digest, same⟩ := underway
  have read := Slot.get_congr (Item.number : Slot Number Number)
    (same _ (Item.under_head .number (by decide)))
  exact read.trans (Environment.number_setUp _ _ _ _)

/-! ### What a chain remembers -/

theorem Grown.records (grown : rules.Grown parents height store) :
    Records Number (rules.Keeps height) (rules.hashesAt parents height) store := by
  induction grown with
  | genesis bare written =>
      refine ((writeGenesis_records bare).congr written).retold (fun number => ?_) fun _ _ => rfl
      unfold Keeps
      omega
  | @block height before during grown room underway ih =>
      have forgets := forgetHash_records rules (underway.records room ih) (Environment.number during)
      rw [underway.number, Word.toNat_clamp_of_lt room] at forgets
      have ended := forgets.congr fun key under => by
        rw [Chain.finishBlock_hashes rules under during, underway.number]
      refine ended.retold (fun number => ?_) fun _ _ => rfl
      unfold Keeps
      omega

def emptyBlocks (rules : Rules Account Number) (parents : Nat → Hash) : Nat → Store
  | 0 => rules.writeGenesis .empty
  | height + 1 => (rules.finishBlock (Environment.setUp (Word.clamp (height + 1) : Number) (parents height) []
      (emptyBlocks rules parents height))).2

theorem emptyBlocks_grown (parents : Nat → Hash) {height : Nat}
    (room : height < Bytes.span (Word.width Number)) :
    rules.Grown parents height (rules.emptyBlocks parents height) := by
  induction height with
  | zero => exact .genesis (fun _ _ => rfl) fun _ _ => rfl
  | succ height ih => exact .block (ih (Nat.lt_of_succ_lt room)) room ⟨[], fun _ _ => rfl⟩

/-- After a block the hashes of the first block and of the last before it are there, as those blocks
named them, and no others. -/
theorem Grown.window (grown : rules.Grown parents height store) (begun : 1 ≤ height) :
    (∀ number : Number, (Item.blockHash.row number).exists? store = true ↔
      Word.toNat number = 0 ∨
        max 1 (height - Word.toNat rules.hashCount) ≤ Word.toNat number ∧
          Word.toNat number ≤ height - 1) ∧
    (∀ number : Number, (Item.blockHash.row number).exists? store = true →
      (Item.blockHash.row number).stored? store = some (parents (Word.toNat number))) ∧
    ∀ key, key.startsWith (Item.blockHash : Table Number Hash Hash).area = true →
      store.contains key = true → ∃ number : Number, key = (Item.blockHash.row number).key := by
  have records := grown.records
  obtain ⟨height, rfl⟩ := Nat.exists_eq_succ_of_ne_zero (Nat.ne_of_gt begun)
  refine ⟨records.exists?_iff, fun number found => ?_, fun key begins found => ?_⟩
  · exact records.stored? ((records.exists?_iff number).mp found)
  · obtain ⟨number, _, at_row⟩ := records.only key
      (Item.under_of_mem (List.mem_singleton.mpr rfl) begins) (Option.isSome_iff_ne_none.mp found)
    exact ⟨number, at_row⟩

/-- A memory of four blocks has let go of the hash of the second block once there are six. -/
theorem Grown.window_sixth :
    let rules : Rules AccountId Testnet.Number := { Testnet.rules with hashCount := 4 }
    let parents := fun height => Octets.filled 32 (UInt8.ofNat height)
    let store := rules.emptyBlocks parents 6
    (rules.Grown parents 6 store ∧ 1 ≤ 6) ∧
      (Item.blockHash.row (0 : Testnet.Number)).exists? store = true ∧
      (Item.blockHash.row (1 : Testnet.Number)).exists? store = false ∧
      (Item.blockHash.row (2 : Testnet.Number)).stored? store = some (parents 2) ∧
      (Item.blockHash.row (6 : Testnet.Number)).exists? store = false := by
  intro rules parents store
  have grown : rules.Grown parents 6 store := emptyBlocks_grown parents (by decide)
  obtain ⟨present, hashes, _⟩ := grown.window (by decide)
  refine ⟨⟨grown, by decide⟩, (present 0).mpr (by decide), ?_, hashes 2 ((present 2).mpr (by decide)), ?_⟩
  · exact Bool.eq_false_iff.mpr (mt (present 1).mp (by decide))
  · exact Bool.eq_false_iff.mpr (mt (present 6).mp (by decide))

end Rules

/-! ### Blocks that are imported -/

variable [DecidableEq Account]

namespace Chain

variable {Call Form : Type} {chain : Chain Account Number Call}
variable {form : ExtrinsicForm Account Number Call Form} {keys others : Bytes → Prop}
variable {header : Header Number} {extrinsics : List Form} {before after : World}
variable {parents : Nat → Hash} {height : Nat}

/-- With every block that is imported a chain grows by one. -/
theorem execute_grows (begins : chain.BeginsLocal others) (isLocal : chain.BlocksLocal form keys)
    (apart : ∀ key, Item.Under [.blockHash, .number] key → ¬keys key ∧ ¬others key)
    (grown : chain.rules.Grown parents height before.store)
    (next : Word.toNat header.number = height + 1) (named : header.parentHash = parents height)
    (run : chain.execute form ⟨header, extrinsics⟩ before = .ok () after) :
    chain.rules.Grown parents (height + 1) after.store := by
  obtain ⟨begun, applied, found, starts, _, applies, seals, _⟩ := execute_iff.mp run
  obtain ⟨finished, finishes, closes⟩ := sealing_eq_ok seals
  have numbered : header.number = Word.clamp (height + 1) := by
    rw [← next, Word.clamp_toNat]
  have underway : chain.rules.Underway (height + 1) (parents height) before.store finished.store := by
    refine ⟨[], fun key under => ?_⟩
    obtain ⟨outside, foreign⟩ := apart key under
    rw [isLocal.sealing_spares finishes outside,
      (applyAll_local isLocal.extrinsics extrinsics).spared applies outside,
      begin_sets_up begins foreign (under.apart (by decide)) starts [], numbered, named]
  have room : height + 1 < Bytes.span (Word.width Number) := next ▸ Word.toNat_lt header.number
  have closed := Rules.Grown.block grown room underway
  rwa [closes] at closed

end Chain

end StateTransition
