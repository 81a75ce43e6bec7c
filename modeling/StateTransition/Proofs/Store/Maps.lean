import StateTransition.Proofs.Store.View

set_option autoImplicit false

/-! A store is a stack of full maps: the one that is visible, and beneath it one for each open layer,
which becomes visible again if the layer is thrown away. Whatever is done to a store, its answers and
what can be read of it are those of the stack. -/

namespace StateTransition

namespace KeyMap

variable {α : Type}

theorem lookUp?_filter_keys (keep : Bytes → Bool) (key : Bytes) (entries : List (Bytes × α)) :
    lookUp? key (entries.filter fun entry => keep entry.1) =
      if keep key then lookUp? key entries else none := by
  induction entries with
  | nil => simp [lookUp?]
  | cons first rest ih =>
      obtain ⟨current, value⟩ := first
      by_cases kept : keep current = true
      · rw [List.filter_cons_of_pos (by exact kept)]
        simp only [lookUp?, ih]
        by_cases same : current = key
        · subst same
          simp [kept]
        · simp [same]
      · rw [List.filter_cons_of_neg (by exact kept), ih]
        by_cases same : current = key
        · subst same
          simp [kept]
        · simp [lookUp?, same]

def without (map : KeyMap α) (keys : List Bytes) : KeyMap α where
  entries := map.entries.filter fun entry => entry.1 ∉ keys
  ascending := map.ascending.filter _

theorem find?_without (map : KeyMap α) (keys : List Bytes) (key : Bytes) :
    (map.without keys).find? key = if key ∈ keys then none else map.find? key := by
  have kept := lookUp?_filter_keys (fun key => decide (key ∉ keys)) key map.entries
  refine Eq.trans kept ?_
  by_cases gone : key ∈ keys
  · simp [gone]
  · simp [gone, find?]

/-- The first of the keys that begin with `head`, up to `limit` of them. -/
def firstUnder (map : KeyMap α) (head : Bytes) (limit : Option Nat) : List Bytes :=
  let found := map.keys.filter (·.startsWith head)
  (limit.map found.take).getD found

/-- The least key of a map that comes after `key`, or nothing where no key comes after it. -/
def LeastAfter (map : KeyMap α) (key : Bytes) : Option Bytes → Prop
  | none => ∀ other, (map.find? other).isSome = true → key.before other = false
  | some next =>
      (map.find? next).isSome = true ∧ key.before next = true ∧
        ∀ other, (map.find? other).isSome = true → key.before other = true →
          other.before next = false

theorem leastAfter_find? (map : KeyMap α) (key : Bytes) :
    map.LeastAfter key (map.keys.find? key.before) := by
  have ascending : map.keys.Pairwise fun left right => Bytes.before left right = true :=
    List.pairwise_map.mpr map.ascending
  have present : ∀ other, (map.find? other).isSome = true ↔ other ∈ map.keys := fun other =>
    (mem_keys_iff map other).symm
  cases found : map.keys.find? key.before with
  | none =>
      intro other holds
      have notAfter := List.find?_eq_none.mp found other ((present other).mp holds)
      exact Bool.eq_false_iff.mpr notAfter
  | some next =>
      obtain ⟨after, earlier, later, split, none⟩ := List.find?_eq_some_iff_append.mp found
      have member : next ∈ map.keys := by
        rw [split]
        simp
      refine ⟨(present next).mpr member, after, ?_⟩
      intro other holds otherAfter
      have otherMember := (present other).mp holds
      -- The keys are in order: those before the first that was found do not come after `key`, and
      -- those behind it do not come before it.
      rw [split] at otherMember ascending
      rcases List.mem_append.mp otherMember with before | same
      · have notAfter := none other before
        rw [otherAfter] at notAfter
        cases notAfter
      · rcases List.mem_cons.mp same with rfl | beyond
        · exact Bytes.before_irrefl other
        · have ordered := (List.pairwise_append.mp ascending).2.1
          exact Bytes.before_asymm ((List.pairwise_cons.mp ordered).1 other beyond)

end KeyMap

/-! ### Stacks of maps -/

inductive StoreCommand where
  | put (key value : Bytes)
  | erase (key : Bytes)
  | eraseUnder (head : Bytes) (limit : Option Nat)
  | openLayer
  | keepLayer
  | discardLayer
  | settle

inductive StoreReply where
  | done
  | erased (count : Nat)
  | refused
deriving DecidableEq

namespace StoreCommand

variable {σ : Type}

/-- A change that may be refused; then everything stays as it is. -/
def attempted (before : σ) : Option σ → StoreReply × σ
  | some after => (.done, after)
  | none => (.refused, before)

def performAll (perform : σ → StoreCommand → StoreReply × σ) (start : σ) :
    List StoreCommand → List StoreReply × σ
  | [] => ([], start)
  | command :: others =>
      let (reply, next) := perform start command
      let (replies, final) := performAll perform next others
      (reply :: replies, final)

end StoreCommand

structure MapStack where
  top : KeyMap Bytes
  below : List (KeyMap Bytes)

namespace MapStack

/-- Puts the map on top in the place of the one below it. -/
def keep? : MapStack → Option MapStack
  | ⟨_, []⟩ => none
  | ⟨top, _ :: rest⟩ => some ⟨top, rest⟩

def discard? : MapStack → Option MapStack
  | ⟨_, []⟩ => none
  | ⟨_, next :: rest⟩ => some ⟨next, rest⟩

/-- A full map has nothing to settle, but it has to stand alone. -/
def settle? : MapStack → Option MapStack
  | ⟨top, []⟩ => some ⟨top, []⟩
  | ⟨_, _ :: _⟩ => none

def perform (stack : MapStack) : StoreCommand → StoreReply × MapStack
  | .put key value => (.done, { stack with top := stack.top.insert key value })
  | .erase key => (.done, { stack with top := stack.top.erase key })
  | .eraseUnder head limit =>
      let chosen := stack.top.firstUnder head limit
      (.erased chosen.length, { stack with top := stack.top.without chosen })
  | .openLayer => (.done, ⟨stack.top, stack.top :: stack.below⟩)
  | .keepLayer => StoreCommand.attempted stack stack.keep?
  | .discardLayer => StoreCommand.attempted stack stack.discard?
  | .settle => StoreCommand.attempted stack stack.settle?

end MapStack

namespace Store

def perform (store : Store) : StoreCommand → StoreReply × Store
  | .put key value => (.done, store.put key value)
  | .erase key => (.done, store.erase key)
  | .eraseUnder head limit =>
      let (count, after) := store.eraseUnder head limit
      (.erased count, after)
  | .openLayer => (.done, store.openLayer)
  | .keepLayer => StoreCommand.attempted store store.keepLayer?
  | .discardLayer => StoreCommand.attempted store store.discardLayer?
  | .settle => StoreCommand.attempted store store.settle?

/-! ### The maps of a store -/

/-- What changes make of a map, and what those make of it that are left without the innermost. -/
def readings (settled : KeyMap Bytes) : List Changes → List (KeyMap Bytes)
  | [] => []
  | layer :: below =>
      (layer :: below).foldr (fun layer map => map.change layer) settled :: readings settled below

/-- What is visible, and what will be visible again without the open layers. -/
def maps (store : Store) : MapStack where
  top := store.visible
  below := readings store.beneath.1 store.beneath.2

theorem readings_all (store : Store) :
    readings store.settled (store.layers ++ [store.changes]) = store.visible :: store.maps.below := by
  obtain ⟨settled, changes, layers⟩ := store
  cases layers with
  | nil => rfl
  | cons layer below =>
      rw [List.cons_append, readings, ← List.cons_append, List.foldr_append]
      rfl

theorem maps_of_above {above store : Store} (upper : above.beneath = store.openLayer.beneath) :
    above.maps = ⟨above.visible, store.visible :: store.maps.below⟩ := by
  have belows : readings above.beneath.1 above.beneath.2 = store.visible :: store.maps.below := by
    rw [upper, beneath_openLayer, readings_all]
  rw [← belows]
  rfl

theorem maps_of_beneath {left right : Store} (same : left.beneath = right.beneath) :
    left.maps = ⟨left.visible, right.maps.below⟩ := by
  have belows : readings left.beneath.1 left.beneath.2 = readings right.beneath.1 right.beneath.2 := by
    rw [same]
  change (⟨left.visible, readings left.beneath.1 left.beneath.2⟩ : MapStack) = _
  rw [belows]
  rfl

theorem closed_or_above (store : Store) :
    store.layers = [] ∨ ∃ inner : Store, store.beneath = inner.openLayer.beneath := by
  obtain ⟨settled, changes, layers⟩ := store
  cases layers with
  | nil => exact Or.inl rfl
  | cons layer below => exact Or.inr ⟨⟨settled, changes, below⟩, rfl⟩

theorem maps_of_closed {store : Store} (closed : store.layers = []) :
    store.maps = ⟨store.visible, []⟩ := by
  obtain ⟨settled, changes, layers⟩ := store
  subst closed
  rfl

theorem depth_eq_length (store : Store) : store.depth = store.maps.below.length := by
  have counted : ∀ (settled : KeyMap Bytes) (changes : List Changes),
      (readings settled changes).length = changes.length := by
    intro settled changes
    induction changes with
    | nil => rfl
    | cons layer below ih => rw [readings, List.length_cons, List.length_cons, ih]
  change _ = (readings store.beneath.1 store.beneath.2).length
  rw [counted, beneath, List.length_tail, List.length_append]
  rfl

/-! ### One command -/

theorem maps_record (store : Store) (key : Bytes) (change : Option Bytes) :
    (store.record key change).maps = ⟨store.visible.alter key change, store.maps.below⟩ := by
  rw [maps_of_beneath (beneath_record store key change), visible_record]

theorem get?_foldl_erase (keys : List Bytes) (store : Store) (key : Bytes) :
    (keys.foldl erase store).get? key = if key ∈ keys then none else store.get? key := by
  induction keys generalizing store with
  | nil => simp
  | cons first others ih =>
      rw [List.foldl_cons, ih, get?_erase]
      by_cases later : key ∈ others
      · simp [later]
      · by_cases same : key = first
        · simp [same]
        · simp [later, same]

theorem beneath_foldl_erase (keys : List Bytes) (store : Store) :
    (keys.foldl erase store).beneath = store.beneath := by
  induction keys generalizing store with
  | nil => rfl
  | cons first others ih => exact (ih _).trans (beneath_record store first none)

theorem maps_foldl_erase (keys : List Bytes) (store : Store) :
    (keys.foldl erase store).maps = ⟨store.visible.without keys, store.maps.below⟩ := by
  have looks : (keys.foldl erase store).visible = store.visible.without keys := by
    apply KeyMap.ext_find?
    intro key
    rw [← get?_eq_find?, get?_foldl_erase, KeyMap.find?_without, get?_eq_find?]
  rw [maps_of_beneath (beneath_foldl_erase keys store), looks]

theorem eraseUnder_eq (store : Store) (head : Bytes) (limit : Option Nat) :
    store.eraseUnder head limit =
      ((store.visible.firstUnder head limit).length,
        (store.visible.firstUnder head limit).foldl erase store) := by
  cases limit <;> rfl

theorem maps_keepLayer? (store : Store) : store.keepLayer?.map maps = store.maps.keep? := by
  rcases closed_or_above store with closed | ⟨inner, upper⟩
  · rw [keepLayer?, closed, maps_of_closed closed]
    rfl
  · obtain ⟨kept, closes, looks, lies⟩ := keepLayer?_above upper
    rw [closes, maps_of_above upper, Option.map_some, maps_of_beneath lies, looks]
    rfl

theorem maps_discardLayer? (store : Store) :
    store.discardLayer?.map maps = store.maps.discard? := by
  rcases closed_or_above store with closed | ⟨inner, upper⟩
  · rw [discardLayer?, closed, maps_of_closed closed]
    rfl
  · rw [discardLayer?_above upper, maps_of_above upper]
    rfl

theorem maps_settle? (store : Store) : store.settle?.map maps = store.maps.settle? := by
  rcases closed_or_above store with closed | ⟨inner, upper⟩
  · rw [settle?, closed, maps_of_closed closed]
    have same : store.visible = store.settled.change store.changes := by rw [visible, closed]; rfl
    rw [same]
    rfl
  · obtain ⟨_, _, layer, opened⟩ := layers_of_above upper
    rw [settle?, opened, maps_of_above upper]
    rfl

theorem attempted_maps (store : Store) {after : Option Store} {stack : Option MapStack}
    (same : after.map maps = stack) :
    (StoreCommand.attempted store after).1 = (StoreCommand.attempted store.maps stack).1 ∧
      (StoreCommand.attempted store after).2.maps =
        (StoreCommand.attempted store.maps stack).2 := by
  subst same
  cases after <;> exact ⟨rfl, rfl⟩

/-- A command has the same reply on a store and on its maps, and leaves the store with the maps that
it makes of them. -/
theorem perform_maps (store : Store) (command : StoreCommand) :
    (store.perform command).1 = (store.maps.perform command).1 ∧
      (store.perform command).2.maps = (store.maps.perform command).2 := by
  cases command with
  | put key value => exact ⟨rfl, maps_record store key (some value)⟩
  | erase key => exact ⟨rfl, maps_record store key none⟩
  | eraseUnder head limit =>
      simp only [perform, MapStack.perform, eraseUnder_eq, maps_foldl_erase]
      exact ⟨rfl, rfl⟩
  | openLayer => exact ⟨rfl, maps_of_above rfl⟩
  | keepLayer => exact attempted_maps store (maps_keepLayer? store)
  | discardLayer => exact attempted_maps store (maps_discardLayer? store)
  | settle => exact attempted_maps store (maps_settle? store)

/-! ### All commands -/

theorem performAll_maps (commands : List StoreCommand) (store : Store) :
    (StoreCommand.performAll perform store commands).1 =
        (StoreCommand.performAll MapStack.perform store.maps commands).1 ∧
      (StoreCommand.performAll perform store commands).2.maps =
        (StoreCommand.performAll MapStack.perform store.maps commands).2 := by
  induction commands generalizing store with
  | nil => exact ⟨rfl, rfl⟩
  | cons command others ih =>
      obtain ⟨replies, maps⟩ := perform_maps store command
      obtain ⟨laterReplies, laterMaps⟩ := ih (store.perform command).2
      rw [maps] at laterReplies laterMaps
      simp only [StoreCommand.performAll, replies, laterReplies, laterMaps, true_and]

/-- All that can be read of a store, told by a stack of maps. -/
structure ReadsAs (store : Store) (stack : MapStack) : Prop where
  get : ∀ key, store.get? key = stack.top.find? key
  contains : ∀ key, store.contains key = (stack.top.find? key).isSome
  next : ∀ key, stack.top.LeastAfter key (store.next? key)
  under : ∀ head limit,
    (store.eraseUnder head limit).1 = (stack.top.firstUnder head limit).length
  snapshot : store.visible = stack.top
  root : store.root = (ofMap stack.top).root
  depth : store.depth = stack.below.length

theorem readsAs_maps (store : Store) : store.ReadsAs store.maps where
  get key := get?_eq_find? store key
  contains key := by
    rw [contains, get?_eq_find?]
    rfl
  next key := KeyMap.leastAfter_find? store.visible key
  under head limit := by
    rw [eraseUnder_eq]
    rfl
  snapshot := rfl
  root := rfl
  depth := depth_eq_length store

theorem refused_iff (store : Store) :
    ((store.perform .keepLayer).1 = .refused ↔ store.depth = 0) ∧
      ((store.perform .discardLayer).1 = .refused ↔ store.depth = 0) ∧
      ((store.perform .settle).1 = .refused ↔ 0 < store.depth) := by
  obtain ⟨keeps, _⟩ := perform_maps store .keepLayer
  obtain ⟨discards, _⟩ := perform_maps store .discardLayer
  obtain ⟨settles, _⟩ := perform_maps store .settle
  rw [keeps, discards, settles, depth_eq_length]
  obtain ⟨top, below⟩ := store.maps
  cases below with
  | nil => simp [MapStack.perform, StoreCommand.attempted, MapStack.keep?, MapStack.discard?,
      MapStack.settle?]
  | cons next rest => simp [MapStack.perform, StoreCommand.attempted, MapStack.keep?,
      MapStack.discard?, MapStack.settle?]

theorem perform_refused {store : Store} {command : StoreCommand}
    (refused : (store.perform command).1 = .refused) : (store.perform command).2 = store := by
  have attempts : ∀ after : Option Store, (StoreCommand.attempted store after).1 = .refused →
      (StoreCommand.attempted store after).2 = store := by
    intro after refused
    cases after with
    | none => rfl
    | some after => cases refused
  cases command with
  | put | erase | eraseUnder | openLayer => cases refused
  | keepLayer => exact attempts _ refused
  | discardLayer => exact attempts _ refused
  | settle => exact attempts _ refused

/-- Whatever is done to a store over whatever has been settled, the replies are those of a stack of
full maps and the store reads as the map on top; a command is refused for the number of open layers
alone and then changes nothing; and stores that read the same have the same root, whatever their
layers are. -/
theorem performAll_readsAs (settled : KeyMap Bytes) (commands : List StoreCommand) :
    let (replies, store) := StoreCommand.performAll perform (ofMap settled) commands
    let (stackReplies, stack) := StoreCommand.performAll MapStack.perform ⟨settled, []⟩ commands
    replies = stackReplies ∧ store.ReadsAs stack ∧
      ((store.perform .keepLayer).1 = .refused ↔ store.depth = 0) ∧
      ((store.perform .discardLayer).1 = .refused ↔ store.depth = 0) ∧
      ((store.perform .settle).1 = .refused ↔ 0 < store.depth) ∧
      (∀ command, (store.perform command).1 = .refused → (store.perform command).2 = store) ∧
      ∀ other : Store, (∀ key, other.get? key = store.get? key) → other.root = store.root := by
  have start : (ofMap settled).maps = ⟨settled, []⟩ := rfl
  obtain ⟨replies, maps⟩ := performAll_maps commands (ofMap settled)
  rw [start] at replies maps
  have reads := readsAs_maps (StoreCommand.performAll perform (ofMap settled) commands).2
  rw [maps] at reads
  obtain ⟨keeps, discards, settles⟩ :=
    refused_iff (StoreCommand.performAll perform (ofMap settled) commands).2
  refine ⟨replies, reads, keeps, discards, settles, fun _ => perform_refused, ?_⟩
  intro other same
  exact seen_root _ _ (visible_eq_of_get? same)

/-- A key that is erased in a layer that is kept stays erased when a later layer is thrown away. -/
example :
    let run := StoreCommand.performAll perform (ofMap (KeyMap.empty.insert [1] [7]))
      [.openLayer, .erase [1], .keepLayer, .openLayer, .put [1] [8], .discardLayer, .keepLayer]
    run.1 = [.done, .done, .done, .done, .done, .done, .refused] ∧ run.2.get? [1] = none := by
  decide

end Store

end StateTransition
