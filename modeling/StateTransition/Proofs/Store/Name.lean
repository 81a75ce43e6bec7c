import StateTransition.Account.Balance
import StateTransition.Fee.Multiplier
import StateTransition.Proofs.Store.View
import StateTransition.Store.Layer
import StateTransition.Timestamp

set_option autoImplicit false

/-! The names of what a chain stores. The key of an item, or of a row of it, begins with what
belongs to its name, and no name begins another; so a change under one name is never seen under
another. -/

namespace StateTransition

namespace Bytes

theorem startsWith_iff (bytes head : Bytes) :
    bytes.startsWith head = true ↔ ∃ rest, bytes = head ++ rest := by
  induction head generalizing bytes with
  | nil => simp [startsWith]
  | cons first head ih =>
      cases bytes with
      | nil => simp [startsWith]
      | cons byte rest =>
          simp only [startsWith, Bool.and_eq_true, beq_iff_eq, ih, List.cons_append,
            List.cons.injEq]
          constructor
          · rintro ⟨same, tail, split⟩
            exact ⟨tail, same.symm, split⟩
          · rintro ⟨tail, same, split⟩
            exact ⟨same.symm, tail, split⟩

@[simp] theorem startsWith_append (head rest : Bytes) :
    startsWith (head ++ rest) head = true :=
  (startsWith_iff _ _).mpr ⟨rest, rfl⟩

@[simp] theorem startsWith_self (head : Bytes) : startsWith head head = true :=
  (startsWith_iff _ _).mpr ⟨[], (List.append_nil head).symm⟩

theorem startsWith_or_startsWith {bytes left right : Bytes}
    (leftBegins : bytes.startsWith left = true) (rightBegins : bytes.startsWith right = true) :
    left.startsWith right = true ∨ right.startsWith left = true := by
  obtain ⟨leftRest, leftSplit⟩ := (startsWith_iff _ _).mp leftBegins
  obtain ⟨rightRest, rightSplit⟩ := (startsWith_iff _ _).mp rightBegins
  have leftPrefix : left <+: bytes := ⟨leftRest, leftSplit.symm⟩
  have rightPrefix : right <+: bytes := ⟨rightRest, rightSplit.symm⟩
  rcases List.prefix_or_prefix_of_prefix leftPrefix rightPrefix with ⟨rest, split⟩ | ⟨rest, split⟩
  · exact Or.inr ((startsWith_iff _ _).mpr ⟨rest, split.symm⟩)
  · exact Or.inl ((startsWith_iff _ _).mpr ⟨rest, split.symm⟩)

end Bytes

namespace Item

inductive Name where
  | code
  | extrinsicIndex
  | level
  | account
  | extrinsicCount
  | extrinsicData
  | blockWeight
  | extrinsicsLength
  | blockHash
  | number
  | parentHash
  | digest
  | events
  | eventCount
  | lastUpgrade
  | phase
  | authorizedUpgrade
  | totalIssuance
  | nextMultiplier
  | now
  | isSet
deriving DecidableEq

namespace Name

def head : Name → Bytes
  | code => codeKey
  | extrinsicIndex => Bytes.ofText ":extrinsic_index"
  | level => Layer.levelKey
  | account => systemArea "Account"
  | extrinsicCount => systemArea "ExtrinsicCount"
  | extrinsicData => systemArea "ExtrinsicData"
  | blockWeight => systemArea "BlockWeight"
  | extrinsicsLength => systemArea "AllExtrinsicsLen"
  | blockHash => systemArea "BlockHash"
  | number => systemArea "Number"
  | parentHash => systemArea "ParentHash"
  | digest => systemArea "Digest"
  | events => eventsKey
  | eventCount => systemArea "EventCount"
  | lastUpgrade => systemArea "LastRuntimeUpgrade"
  | phase => systemArea "ExecutionPhase"
  | authorizedUpgrade => systemArea "AuthorizedUpgrade"
  | totalIssuance => areaOf "Balances" "TotalIssuance"
  | nextMultiplier => areaOf "TransactionPayment" "NextFeeMultiplier"
  | now => areaOf "Timestamp" "Now"
  | isSet => areaOf "Timestamp" "DidUpdate"

def all : List Name :=
  [code, extrinsicIndex, level, account, extrinsicCount, extrinsicData, blockWeight,
    extrinsicsLength, blockHash, number, parentHash, digest, events, eventCount, lastUpgrade, phase,
    authorizedUpgrade, totalIssuance, nextMultiplier, now, isSet]

theorem mem_all (name : Name) : name ∈ all := by
  cases name <;> decide

/-- The hashes of the names are computed here once and for all. -/
theorem all_heads_apart :
    (all.all fun left => all.all fun right =>
      left == right || !left.head.startsWith right.head) = true := by
  decide +kernel

theorem head_apart {left right : Name} (different : left ≠ right) :
    left.head.startsWith right.head = false := by
  have ofLeft := List.all_eq_true.mp all_heads_apart left (mem_all left)
  have ofBoth := List.all_eq_true.mp ofLeft right (mem_all right)
  simpa [different] using ofBoth

theorem head_ne {left right : Name} (different : left ≠ right) : left.head ≠ right.head := by
  intro same
  have apart := head_apart different
  rw [same, Bytes.startsWith_self] at apart
  cases apart

end Name

def Under (names : List Name) (key : Bytes) : Prop :=
  ∃ name ∈ names, key.startsWith name.head = true

theorem under_of_mem {names : List Name} {name : Name} {key : Bytes} (member : name ∈ names)
    (begins : key.startsWith name.head = true) : Under names key :=
  ⟨name, member, begins⟩

theorem not_under {names : List Name} {name : Name} {key : Bytes} (foreign : name ∉ names)
    (begins : key.startsWith name.head = true) : ¬Under names key := by
  rintro ⟨other, member, otherBegins⟩
  have different : name ≠ other := fun same => foreign (same ▸ member)
  rcases Bytes.startsWith_or_startsWith begins otherBegins with one | two
  · rw [Name.head_apart different] at one
    cases one
  · rw [Name.head_apart (Ne.symm different)] at two
    cases two

theorem Under.mono {names others : List Name} (within : ∀ name ∈ names, name ∈ others) {key : Bytes}
    (under : Under names key) : Under others key := by
  obtain ⟨name, member, begins⟩ := under
  exact ⟨name, within name member, begins⟩

theorem Under.apart {names others : List Name} (apart : ∀ name ∈ names, name ∉ others) {key : Bytes}
    (under : Under names key) : ¬Under others key := by
  obtain ⟨name, member, begins⟩ := under
  exact not_under (apart name member) begins

theorem row_begins {κ α β : Type} (table : Table κ α β) (key : κ) :
    (table.row key).key.startsWith table.area = true :=
  Bytes.startsWith_append _ _

theorem under_head {names : List Name} (name : Name) (member : name ∈ names) :
    Under names name.head :=
  under_of_mem member (Bytes.startsWith_self _)

theorem under_row {κ α β : Type} {names : List Name} (name : Name) (member : name ∈ names)
    {table : Table κ α β} (area : table.area = name.head) (key : κ) :
    Under names (table.row key).key :=
  under_of_mem member (area ▸ row_begins table key)

theorem not_under_head {names : List Name} (name : Name) (foreign : name ∉ names) :
    ¬Under names name.head :=
  not_under foreign (Bytes.startsWith_self _)

theorem not_under_row {κ α β : Type} {names : List Name} (name : Name) (foreign : name ∉ names)
    {table : Table κ α β} (area : table.area = name.head) (key : κ) :
    ¬Under names (table.row key).key :=
  not_under foreign (area ▸ row_begins table key)

end Item

end StateTransition
