import StateTransition.Proofs.Call

set_option autoImplicit false

/-! The time of a block. Whoever sets it finds that nobody has done so and that the time follows on
that of the last block; at the end of the block it has to have been set, and the mark of it goes. An
author proposes a time by a clock, and an importer judges it by another. -/

namespace StateTransition.Timestamp

variable {Account : Type} {origin : Origin Account} {moment : Moment} {world after : World}

/-! ### Setting the time -/

structure Told (moment : Moment) (store : Store) : Prop where
  now : now.get store = moment
  isSet : isSet.get store = true

theorem Told.spared {before later : Store} (told : Told moment before)
    (sameNow : later.get? Timestamp.now.key = before.get? Timestamp.now.key)
    (sameMark : later.get? Timestamp.isSet.key = before.get? Timestamp.isSet.key) :
    Told moment later where
  now := (Slot.get_congr _ sameNow).trans told.now
  isSet := (Slot.get_congr _ sameMark).trans told.isSet

theorem Told.marked {store : Store} (told : Told moment store) :
    store.get? Timestamp.isSet.key ≠ none := by
  intro absent
  have shown := told.isSet
  rw [Timestamp.isSet.get_of_none absent] at shown
  cases shown

theorem force_told (moment : Moment) (store : Store) : Told moment (force moment store) where
  now := by
    have marking : Store.Local (Item.Under [.isSet]) (Timestamp.isSet.put true) :=
      Slot.put_local (Item.under_head .isSet (by decide)) true
    exact Slot.get_after_put Timestamp.now marking (Item.not_under_head .now (by decide))
      (Codec.word_faithful.decodeFront?_encode moment trivial) store
  isSet := by
    have readsBack : Timestamp.isSet.codec.decodeFront? (Timestamp.isSet.codec.encode true) =
        some true := rfl
    rw [force, Slot.get, Slot.stored?_put _ readsBack]
    rfl

theorem follows_iff (moment : Moment) (store : Store) : follows moment store = true ↔
    (now.get store ≠ 0 → Word.saturatingAdd (now.get store) leastPeriod ≤ moment) := by
  simp only [follows, Bool.or_eq_true, beq_iff_eq, decide_eq_true_eq]
  constructor
  · rintro (none | late) some
    · exact absurd none some
    · exact late
  · intro late
    by_cases none : now.get store = 0
    · exact Or.inl none
    · exact Or.inr (late none)

theorem run_eq_ok {post : PostInfo}
    (run : (Timestamp.run origin (.set moment)).run world = .ok (.ok post) after) :
    origin.isNobody = true ∧ world.store.get? isSet.key = none ∧
      follows moment world.store = true ∧ after.store = force moment world.store := by
  obtain ⟨_, entered, allows, later⟩ := Attempt.bind_eq_ok run
  obtain ⟨nobody, rfl⟩ := Attempt.liftExcept_eq_ok allows
  have atMark := Attempt.look_bind later
  by_cases marked : isSet.exists? entered.store = true
  · rw [if_pos marked] at atMark
    cases atMark
  rw [if_neg marked] at atMark
  have atTime := Attempt.look_bind atMark
  by_cases late : follows moment entered.store = true
  · rw [late] at atTime
    obtain ⟨_, forced, forces, finishes⟩ := Attempt.bind_eq_ok atTime
    have changes := Attempt.lift_eq_ok forces
    rw [Action.change_run] at changes
    cases changes
    obtain ⟨_, rfl⟩ := Attempt.pure_eq_ok finishes
    refine ⟨?_, isSet.get?_of_absent (Bool.eq_false_iff.mpr marked), late, rfl⟩
    cases origin with
    | nobody => rfl
    | root => cases nobody
    | signed who => cases nobody
  · rw [Bool.eq_false_iff.mpr late] at atTime
    cases atTime

theorem run_nobody : (run (.nobody : Origin Account) (.set moment)).run world =
    if isSet.exists? world.store then .error .timestampRepeated world
    else if follows moment world.store then
      .ok (.ok .unchanged) ⟨force moment world.store, world.notes⟩
    else .error .timestampTooEarly world := by
  have allows : (liftM (Origin.requireNobody (.nobody : Origin Account)) :
      Attempt DispatchError Unit).run world = .ok (.ok ()) world := rfl
  have looksMark : (Attempt.look isSet.exists? : Attempt DispatchError Bool).run world =
      .ok (.ok (isSet.exists? world.store)) world := rfl
  have looksTime : (Attempt.look (follows moment) : Attempt DispatchError Bool).run world =
      .ok (.ok (follows moment world.store)) world := rfl
  unfold run
  rw [Attempt.bind_run_ok allows, Attempt.bind_run_ok looksMark]
  cases isSet.exists? world.store with
  | true => rfl
  | false =>
      rw [if_neg Bool.false_ne_true, if_neg Bool.false_ne_true, Attempt.bind_run_ok looksTime]
      cases follows moment world.store with
      | true => rfl
      | false => rfl

theorem run_of_follows (untold : world.store.get? isSet.key = none)
    (late : follows moment world.store = true) :
    (run (.nobody : Origin Account) (.set moment)).run world =
      .ok (.ok .unchanged) ⟨force moment world.store, world.notes⟩ := by
  rw [run_nobody, isSet.exists?_of_none untold, if_neg Bool.false_ne_true, if_pos late]

theorem run_ne_tooEarly (late : follows moment world.store = true) :
    (run origin (.set moment)).run world ≠ .error .timestampTooEarly after := by
  intro trapped
  cases origin with
  | root => cases trapped
  | signed who => cases trapped
  | nobody =>
      rw [run_nobody, if_pos late] at trapped
      cases marked : isSet.exists? world.store with
      | true =>
          rw [marked, if_pos rfl] at trapped
          cases trapped
      | false =>
          rw [marked, if_neg Bool.false_ne_true] at trapped
          cases trapped

/-! ### The end of a block -/

theorem finish_eq_ok (run : finish world = .ok () after) :
    isSet.get world.store = true ∧ after.store.get? isSet.key = none := by
  obtain ⟨found, taken, takes, later⟩ := Action.bind_eq_ok run
  rw [Action.update_run] at takes
  cases takes
  cases stored : isSet.stored? world.store with
  | none =>
      rw [isSet.take_of_none stored] at later
      cases later
  | some marked =>
      rw [isSet.take_of_stored stored] at later
      cases marked with
      | false => cases later
      | true =>
          cases later
          rw [Slot.get, stored]
          exact ⟨rfl, (Store.get?_erase _ _ _).trans (if_pos rfl)⟩

/-! ### The inherent -/

/-- The first time that may follow on that of the last block. -/
def earliest (store : Store) : Moment := Word.saturatingAdd (now.get store) leastPeriod

/-- The last time that an importer accepts, by its own clock. -/
def latest (clock : Moment) : Moment := Word.saturatingAdd clock mostDrift

/-- What an importer finds wrong with the time of a block. -/
def fault? (clock : Moment) (store : Store) (moment : Moment) : Option TimestampFault :=
  if latest clock < moment then some .tooFarInFuture
  else if moment < earliest store then some .tooEarly
  else none

section

variable {clock : Moment} {store : Store}

theorem fault?_of_far (far : latest clock < moment) :
    fault? clock store moment = some .tooFarInFuture :=
  if_pos far

theorem fault?_of_early (near : moment ≤ latest clock) (early : moment < earliest store) :
    fault? clock store moment = some .tooEarly :=
  (if_neg (UInt64.not_lt.mpr near)).trans (if_pos early)

theorem fault?_of_timely (near : moment ≤ latest clock) (late : earliest store ≤ moment) :
    fault? clock store moment = none :=
  (if_neg (UInt64.not_lt.mpr near)).trans (if_neg (UInt64.not_lt.mpr late))

theorem fault?_eq_some {fault : TimestampFault}
    (found : fault? clock store moment = some fault) :
    fault = .tooFarInFuture ∧ latest clock < moment ∨
      fault = .tooEarly ∧ moment ≤ latest clock ∧ moment < earliest store := by
  by_cases far : latest clock < moment
  · rw [fault?_of_far far] at found
    cases found
    exact Or.inl ⟨rfl, far⟩
  · have near := UInt64.not_lt.mp far
    by_cases early : moment < earliest store
    · rw [fault?_of_early near early] at found
      cases found
      exact Or.inr ⟨rfl, near, early⟩
    · rw [fault?_of_timely near (UInt64.not_lt.mp early)] at found
      cases found

theorem earliest_le_of_fine (fine : fault? clock store moment = none) :
    earliest store ≤ moment := by
  apply UInt64.not_lt.mp
  intro early
  by_cases far : latest clock < moment
  · rw [fault?_of_far far] at fine
    cases fine
  · rw [fault?_of_early (UInt64.not_lt.mp far) early] at fine
    cases fine

end

theorem follows_of_earliest {store : Store} (late : earliest store ≤ moment) :
    follows moment store = true :=
  (follows_iff moment store).mpr fun _ => late

section

variable {data : InherentData} {clock : Moment} {store : Store}

theorem told_of_get {found : Option Moment} (gets : data.get Codec.word topic = .ok found) :
    told data store = .ok found := by
  unfold told
  rw [gets]
  rfl

theorem create_of_known (known : data.get Codec.word topic = .ok (some clock)) :
    create data store = .ok (some (.set (max clock (earliest store)))) := by
  unfold create
  rw [Query.bind_run_ok (told_of_get known)]
  rfl

theorem check_of_unknown (unknown : data.get (Codec.word : Codec Moment) topic = .ok none) :
    check (.set moment) data store = .ok none := by
  unfold check
  dsimp only
  rw [Query.bind_run_ok (told_of_get unknown)]
  rfl

theorem check_of_known (known : data.get Codec.word topic = .ok (some clock)) :
    check (.set moment) data store =
      .ok ((fault? clock store moment).map TimestampFault.report) := by
  unfold check
  dsimp only
  rw [Query.bind_run_ok (told_of_get known)]
  change (if latest clock < moment then
      (pure (some TimestampFault.tooFarInFuture.report) : Query (Option InherentFault))
    else if moment < earliest store then pure (some TimestampFault.tooEarly.report)
    else pure none) store = _
  unfold fault?
  by_cases far : latest clock < moment
  · rw [if_pos far, if_pos far]
    rfl
  · rw [if_neg far, if_neg far]
    by_cases early : moment < earliest store
    · rw [if_pos early, if_pos early]
      rfl
    · rw [if_neg early, if_neg early]
      rfl

theorem requirement_of_unknown (unknown : data.get (Codec.word : Codec Moment) topic = .ok none) :
    requirement data store = .ok .notRequired := by
  unfold requirement
  rw [Query.bind_run_ok (told_of_get unknown)]
  rfl

theorem requirement_of_known (known : data.get Codec.word topic = .ok (some clock)) :
    requirement data store = .ok (.required TimestampFault.missing.report) := by
  unfold requirement
  rw [Query.bind_run_ok (told_of_get known)]
  rfl

end

end StateTransition.Timestamp
