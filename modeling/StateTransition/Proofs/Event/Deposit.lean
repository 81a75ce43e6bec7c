import StateTransition.Proofs.Call
import StateTransition.Proofs.Event.Log

set_option autoImplicit false

/-! What a run adds to the log. Events are recorded one behind the other in the phase of the block, and
counted; what a run adds is what its parts add, in their order. A call that fails adds nothing. -/

namespace StateTransition

open Item (Under under_head not_under_head)

variable {α β ε η ρ : Type} {Account Number : Type} [Word Number]

namespace Event

def isEnding : Event Account → Bool
  | .system (.extrinsicSuccess _) | .system (.extrinsicFailed _ _) => true
  | _ => false

def isPayment : Event Account → Bool
  | .feePaid _ _ _ => true
  | _ => false

/-- Tells something that does not belong to every extrinsic. -/
def isPlain (event : Event Account) : Bool := !event.isEnding && !event.isPayment

theorem isEnding_of_plain {event : Event Account} (plain : event.isPlain = true) :
    event.isEnding = false := by
  rw [isPlain, Bool.and_eq_true, Bool.not_eq_true'] at plain
  exact plain.1

theorem isPayment_of_plain {event : Event Account} (plain : event.isPlain = true) :
    event.isPayment = false := by
  rw [isPlain, Bool.and_eq_true, Bool.not_eq_true', Bool.not_eq_true'] at plain
  exact plain.2

end Event

/-! ### The log -/

def logNames : List Item.Name := [.events, .eventCount, .phase, .number]

variable [DecidableEq Account]

namespace Rules

variable {rules : Rules Account Number}

def recordIn (phase : Phase) (event : Event Account) : EventRecord Account := ⟨phase, event, []⟩

def phaseOf (store : Store) : Phase := (Item.phase.get store).getD .beginning

/-- The log has these records and no others, and they are counted. -/
structure Logged (rules : Rules Account Number) (records : List (EventRecord Account))
    (store : Store) : Prop where
  lists : rules.eventSlot.Lists rules.eventCodec records store
  count : (Item.eventCount.get store).toNat = records.length

/-- The events that were added to a log in a phase that goes on, as far as they can be counted. In the
first block there is no log. -/
structure Adds (rules : Rules Account Number) (events : List (Event Account))
    (before after : Store) : Prop where
  phase : after.get? Item.phase.key = before.get? Item.phase.key
  number : after.get? (Item.number : Slot Number Number).key =
    before.get? (Item.number : Slot Number Number).key
  logged : ∀ records : List (EventRecord Account),
    Word.isZero ((Item.number : Slot Number Number).get before) = false →
    rules.Logged records before → records.length + events.length < 4294967296 →
    rules.Logged (records ++ events.map (recordIn (phaseOf before))) after

omit [Word Number] in
theorem Logged.congr {records : List (EventRecord Account)} {before after : Store}
    (logged : rules.Logged records before)
    (same : ∀ key, Under [.events, .eventCount] key → after.get? key = before.get? key) :
    rules.Logged records after where
  lists := by
    have events : after.get? rules.eventSlot.key = before.get? rules.eventSlot.key :=
      same _ (under_head .events (by decide))
    rw [Slot.Lists, events]
    exact logged.lists
  count := by
    rw [Slot.get_congr Item.eventCount (same _ (under_head .eventCount (by decide)))]
    exact logged.count

namespace Adds

variable {first second third : Store} {earlier later : List (Event Account)}

theorem nothing (same : ∀ key, Under logNames key → second.get? key = first.get? key) :
    rules.Adds [] first second where
  phase := same _ (under_head .phase (by decide))
  number := same _ (under_head .number (by decide))
  logged records _ logged _ := by
    rw [List.map_nil, List.append_nil]
    exact logged.congr fun key under => same key (under.mono (by decide))

theorem refl (store : Store) : rules.Adds [] store store := nothing fun _ _ => rfl

theorem trans (atFirst : rules.Adds earlier first second) (atSecond : rules.Adds later second third) :
    rules.Adds (earlier ++ later) first third where
  phase := atSecond.phase.trans atFirst.phase
  number := atSecond.number.trans atFirst.number
  logged records begun logged room := by
    have phases : phaseOf second = phaseOf first := by
      rw [phaseOf, phaseOf, Slot.get_congr _ atFirst.phase]
    rw [List.length_append] at room
    have middle := atFirst.logged records begun logged (by omega)
    have begun' := begun
    rw [← Slot.get_congr _ atFirst.number] at begun'
    have ended := atSecond.logged _ begun' middle
      (by rw [List.length_append, List.length_map]; omega)
    rw [phases] at ended
    rwa [List.map_append, ← List.append_assoc]

theorem aside (adds : rules.Adds earlier first second)
    (same : ∀ key, Under logNames key → third.get? key = second.get? key) :
    rules.Adds earlier first third := by
  have both := adds.trans (nothing same)
  rwa [List.append_nil] at both

theorem behind (same : ∀ key, Under logNames key → second.get? key = first.get? key)
    (adds : rules.Adds later second third) : rules.Adds later first third :=
  (nothing same).trans adds

theorem record (event : Event Account) (store : Store) :
    rules.Adds [event] store (rules.recordEvent [] event store) where
  phase := (recorded_local event).spares store _ (not_under_head .phase (by decide))
  number := (recorded_local event).spares store _ (not_under_head .number (by decide))
  logged records begun logged room := by
    rw [List.length_singleton, ← logged.count] at room
    have fits : records.length + 1 < Codec.lengthBound := by
      rw [← logged.count]
      exact room
    rw [recordEvent_eq begun room]
    have counting : Store.Local (Under [.eventCount])
        (Item.eventCount.put (Item.eventCount.get store + 1)) :=
      Slot.put_local (under_head .eventCount (by decide)) _
    have appending : Store.Local (Under [.events])
        (rules.eventSlot.append rules.eventCodec (recordOf event store)) :=
      Slot.append_local (under_head .events (by decide)) _ _
    constructor
    · have still : rules.eventSlot.Lists rules.eventCodec records
          (Item.eventCount.put (Item.eventCount.get store + 1) store) := by
        have spared : (Item.eventCount.put (Item.eventCount.get store + 1) store).get?
            rules.eventSlot.key = store.get? rules.eventSlot.key :=
          counting.spares store _ (not_under_head .events (by decide))
        rw [Slot.Lists, spared]
        exact logged.lists
      exact Slot.append_lists still fits
    · have counted : Item.eventCount.get (rules.eventSlot.append rules.eventCodec
          (recordOf event store) (Item.eventCount.put (Item.eventCount.get store + 1) store)) =
            Item.eventCount.get store + 1 :=
        Slot.get_after_put Item.eventCount appending (not_under_head .eventCount (by decide))
          (Codec.word_faithful.decodeFront?_encode _ trivial) store
      rw [counted, UInt32.toNat_add, List.length_append, List.map_singleton, List.length_singleton,
        ← logged.count]
      exact Nat.mod_eq_of_lt room

theorem of_deposit {event : Event Account} {world after : World}
    (run : rules.deposit event world = .ok () after) :
    rules.Adds [event] world.store after.store := by
  have changes : Action.change (rules.recordEvent [] event) world = .ok () after := run
  rw [Action.change_run] at changes
  cases changes
  exact record event world.store

end Adds

/-- No more than so many events were added, none of which belongs to every extrinsic. -/
def AddsFew (rules : Rules Account Number) (most : Nat) (before after : Store) : Prop :=
  ∃ events : List (Event Account), events.length ≤ most ∧
    (∀ event ∈ events, event.isPlain = true) ∧ rules.Adds events before after

namespace AddsFew

variable {most others : Nat} {first second third : Store}

theorem nothing (same : ∀ key, Under logNames key → second.get? key = first.get? key) :
    rules.AddsFew 0 first second :=
  ⟨[], Nat.le_refl 0, List.forall_mem_nil _, .nothing same⟩

theorem adds_nothing (none : rules.AddsFew 0 first second) : rules.Adds [] first second := by
  obtain ⟨events, bounded, _, adds⟩ := none
  rwa [List.length_eq_zero_iff.mp (Nat.le_zero.mp bounded)] at adds

theorem of_deposit {event : Event Account} {world after : World} (plain : event.isPlain = true)
    (run : rules.deposit event world = .ok () after) :
    rules.AddsFew 1 world.store after.store :=
  ⟨[event], Nat.le_refl 1, List.forall_mem_singleton.mpr plain, .of_deposit run⟩

theorem mono (few : rules.AddsFew most first second) (within : most ≤ others) :
    rules.AddsFew others first second := by
  obtain ⟨events, bounded, plain, adds⟩ := few
  exact ⟨events, Nat.le_trans bounded within, plain, adds⟩

theorem trans (atFirst : rules.AddsFew most first second)
    (atSecond : rules.AddsFew others second third) :
    rules.AddsFew (most + others) first third := by
  obtain ⟨earlier, fewEarlier, plainEarlier, addsEarlier⟩ := atFirst
  obtain ⟨later, fewLater, plainLater, addsLater⟩ := atSecond
  refine ⟨earlier ++ later, ?_, List.forall_mem_append.mpr ⟨plainEarlier, plainLater⟩,
    addsEarlier.trans addsLater⟩
  rw [List.length_append]
  exact Nat.add_le_add fewEarlier fewLater

end AddsFew

end Rules

/-! ### Runs -/

namespace Action

variable {rules : Rules Account Number} {most others : Nat}

/-- Adds no more than so many events, none of which belongs to every extrinsic. -/
def Logs (rules : Rules Account Number) (most : Nat) (body : Action α) : Prop :=
  ∀ world value after, body world = .ok value after → rules.AddsFew most world.store after.store

namespace Logs

theorem of_local {keys : Bytes → Prop} {body : Action α} (isLocal : Action.Local keys body)
    (apart : ∀ key, Under logNames key → ¬keys key) : Logs rules 0 body :=
  fun _ _ _ run => .nothing fun key under => isLocal.spared run (apart key under)

theorem look (view : Store → α) : Logs rules 0 (Action.look view) := by
  intro world value after run
  cases run
  exact .nothing fun _ _ => rfl

protected theorem pure (value : α) : Logs rules 0 (pure value : Action α) := look fun _ => value

theorem deposit {event : Event Account} (plain : event.isPlain = true) :
    Logs rules 1 (rules.deposit event) :=
  fun _ _ _ run => .of_deposit plain run

theorem mono {body : Action α} (logs : Logs rules most body) (within : most ≤ others) :
    Logs rules others body :=
  fun world value after run => (logs world value after run).mono within

theorem bind {first : Action α} {next : α → Action β} (atFirst : Logs rules most first)
    (atNext : ∀ value, Logs rules others (next value)) : Logs rules (most + others) (first >>= next) := by
  intro world value after run
  obtain ⟨between, middle, begins, ends⟩ := bind_eq_ok run
  exact (atFirst world between middle begins).trans (atNext between middle value after ends)

theorem behind {first : Action α} {next : α → Action β} (atFirst : Logs rules 0 first)
    (atNext : ∀ value, Logs rules most (next value)) : Logs rules most (first >>= next) :=
  (atFirst.bind atNext).mono (Nat.le_of_eq (Nat.zero_add most))

theorem ahead {first : Action α} {next : α → Action β} (atFirst : Logs rules most first)
    (atNext : ∀ value, Logs rules 0 (next value)) : Logs rules most (first >>= next) :=
  atFirst.bind atNext

end Logs

end Action

namespace Attempt

variable {rules : Rules Account Number} {most others : Nat}

def Logs (rules : Rules Account Number) (most : Nat) (body : Attempt ε α) : Prop :=
  Action.Logs rules most body.run

namespace Logs

protected theorem pure (value : α) : Logs rules 0 (pure value : Attempt ε α) :=
  Action.Logs.pure (Except.ok value : Except ε α)

theorem throw (cause : ε) : Logs rules 0 (throw cause : Attempt ε α) :=
  Action.Logs.pure (Except.error cause : Except ε α)

theorem mk {body : Action (Except ε α)} (logs : Action.Logs rules most body) :
    Logs rules most (ExceptT.mk body) :=
  logs

theorem lift {body : Action α} (logs : Action.Logs rules most body) :
    Logs rules most (liftM body : Attempt ε α) := by
  rw [Logs, lift_run]
  exact logs.ahead fun value => Action.Logs.pure (Except.ok value : Except ε α)

theorem liftExcept (outcome : Except ε α) : Logs rules 0 (liftM outcome : Attempt ε α) :=
  Action.Logs.pure outcome

theorem look (view : Store → α) : Logs rules 0 (Attempt.look view : Attempt ε α) :=
  lift (Action.Logs.look view)

theorem demand (condition : Bool) (cause : ε) : Logs rules 0 (Attempt.demand condition cause) := by
  unfold Attempt.demand
  cases condition with
  | false => exact throw cause
  | true => exact Logs.pure ()

theorem mono {body : Attempt ε α} (logs : Logs rules most body) (within : most ≤ others) :
    Logs rules others body :=
  Action.Logs.mono logs within

theorem bind {first : Attempt ε α} {next : α → Attempt ε β} (atFirst : Logs rules most first)
    (atNext : ∀ value, Logs rules others (next value)) :
    Logs rules (most + others) (first >>= next) := by
  rw [Logs, bind_run]
  refine Action.Logs.bind atFirst fun outcome => ?_
  cases outcome with
  | ok value => exact atNext value
  | error cause =>
      exact (Action.Logs.pure (Except.error cause : Except ε β)).mono (Nat.zero_le others)

theorem behind {first : Attempt ε α} {next : α → Attempt ε β} (atFirst : Logs rules 0 first)
    (atNext : ∀ value, Logs rules most (next value)) : Logs rules most (first >>= next) :=
  (atFirst.bind atNext).mono (Nat.le_of_eq (Nat.zero_add most))

theorem ahead {first : Attempt ε α} {next : α → Attempt ε β} (atFirst : Logs rules most first)
    (atNext : ∀ value, Logs rules 0 (next value)) : Logs rules most (first >>= next) :=
  atFirst.bind atNext

end Logs

end Attempt

/-- A call that fails adds nothing, whatever it has added before it failed. -/
theorem Call.layered_logs {rules : Rules Account Number} {most : Nat} {keys : Bytes → Prop}
    {body : Attempt DispatchError PostInfo} {outcome : DispatchOutcome} {world after : World}
    (isLocal : Attempt.Local keys body)
    (inside : ∀ post ended, body.run (Layer.enteredWorld world) = .ok (.ok post) ended →
      rules.AddsFew most (Layer.enteredWorld world).store ended.store)
    (run : layered body world = .ok outcome after) :
    ∃ events : List (Event Account), events.length ≤ most ∧
      (∀ event ∈ events, event.isPlain = true) ∧
      (outcome.isOk = false → events = []) ∧ rules.Adds events world.store after.store := by
  have apart : ∀ key, Under logNames key → key ≠ Layer.levelKey := by
    rintro key under rfl
    exact not_under_head .level (by decide) under
  rcases layered_cases isLocal run with ⟨⟨error, rfl⟩, reverted⟩ | ⟨post, ended, rfl, ran, leaves⟩
  · exact ⟨[], Nat.zero_le most, List.forall_mem_nil _, fun _ => rfl,
      .nothing fun key under => reverted key (apart key under)⟩
  · obtain ⟨events, bounded, plain, adds⟩ := inside post ended ran
    refine ⟨events, bounded, plain, fun fails => ?_, ?_⟩
    · cases fails
    · exact (adds.behind fun key under => Layer.entered_get? world (apart key under)).aside
        fun key under => leaves key (apart key under)

end StateTransition
