import Mathlib.Data.List.Chain
import StateTransition.Proofs.Account.Events
import StateTransition.Proofs.Account.Operation
import StateTransition.Trial.Chain

set_option autoImplicit false

/-! The lives of accounts. The record of an account is there as long as something provides for it,
and what depends on it has a provider. Whatever is done about references, a record comes into being and
is gone in turn, and each time this is answered, followed and logged. -/

namespace StateTransition

theorem SameBooks.exists? {Account Number : Type} [DecidableEq Account] [Word Number]
    {before after : Store} (same : SameBooks before after) (rules : Rules Account Number)
    (who : Account) :
    (rules.accountSlot who).exists? after = (rules.accountSlot who).exists? before :=
  Slot.exists?_congr _ (same _ (Item.under_row .account (by decide) rfl who))

namespace Rules

variable {Account Number : Type} [Word Number]
variable {rules : Rules Account Number} {who : Account} {before after : Store}
variable {start world ended : World} {operation : ReferenceOperation} {answer : ReferenceReply}

/-! ### Records that are accounted for -/

/-- There is a record of an account exactly if something provides for it, and what something depends
on has a provider. -/
structure Accounted (rules : Rules Account Number) (store : Store) : Prop where
  present : ∀ who, (rules.accountSlot who).exists? store =
    (rules.accountInfo who store).isProvided
  carried : ∀ who, (rules.accountInfo who store).Carried

/-- Nothing but the record of one account has been written, which is there if something provides
for the account. -/
structure Recorded (rules : Rules Account Number) (who : Account) (info : AccountInfo Number)
    (before after : Store) : Prop where
  record : rules.accountInfo who after = info
  present : (rules.accountSlot who).exists? after = info.isProvided
  others : ∀ key, key ≠ (rules.accountSlot who).key → after.get? key = before.get? key

theorem Recorded.elsewhere (reads : rules.account.Faithful fun _ => True)
    {info : AccountInfo Number} (recorded : rules.Recorded who info before after) {other : Account}
    (different : other ≠ who) :
    after.get? (rules.accountSlot other).key = before.get? (rules.accountSlot other).key :=
  recorded.others _ fun same => different (row_injective reads same)

private theorem recorded_put {info : AccountInfo Number} (provided : info.isProvided = true)
    (store : Store) : rules.Recorded who info store ((rules.accountSlot who).put info store) where
  record := (put_rebooked info store).record
  present := by
    rw [provided]
    apply exists_of_isProvided
    rw [(put_rebooked info store).record]
    exact provided
  others _ different := (Store.get?_put _ _ _ _).trans (if_neg different)

private theorem recorded_erase (store : Store) :
    rules.Recorded who .blank store ((rules.accountSlot who).erase store) where
  record := (erase_rebooked store).record
  present := Slot.exists?_erase _ store
  others _ different := (Store.get?_erase _ _ _).trans (if_neg different)

theorem Accounted.unwritten (accounted : rules.Accounted before) :
    rules.Recorded who (rules.accountInfo who before) before before :=
  ⟨rfl, accounted.present who, fun _ _ => rfl⟩

private theorem Accounted.recorded_eq (accounted : rules.Accounted before) (who : Account) :
    rules.recorded who before = (rules.accountInfo who before).isProvided := by
  cases provided : (rules.accountInfo who before).isProvided with
  | true =>
      rw [accountInfo_eq] at provided
      unfold recorded
      cases stored : (rules.accountSlot who).stored? before with
      | some info => rfl
      | none =>
          rw [stored] at provided
          cases provided
  | false =>
      have absent := (accounted.present who).trans provided
      rw [recorded, Slot.stored?_of_absent _ absent]
      rfl

theorem Accounted.write (accounted : rules.Accounted before)
    (allowed : operation.Allowed (rules.accountInfo who before).counts) :
    rules.Recorded who (operation.next (rules.accountInfo who before)) before
      (operation.write rules who before) := by
  have carried := accounted.carried who
  cases operation with
  | incrementProviders => exact recorded_put (AccountInfo.withProvider_isProvided _) before
  | incrementSufficients => exact recorded_put (AccountInfo.withSufficient_isProvided _) before
  | decrementConsumers =>
      have provided : (rules.accountInfo who before).withoutConsumer.isProvided = true :=
        carried.isProvided allowed
      exact recorded_put provided before
  | incrementConsumers =>
      unfold ReferenceOperation.next ReferenceOperation.write
      dsimp only
      rcases (rules.accountInfo who before).withConsumer_cases with
        ⟨positive, given⟩ | ⟨_, refused⟩
      · rw [given]
        refine recorded_put ?_ before
        exact AccountInfo.isProvided_of_providers (UInt32.pos_iff_ne_zero.mp positive)
      · rw [refused]
        exact accounted.unwritten
  | decrementProviders =>
      change rules.Recorded who (rules.accountInfo who before).afterProvider before
        (rules.unprovided who before)
      unfold AccountInfo.afterProvider unprovided
      rcases (rules.accountInfo who before).withoutProvider_cases with
        ⟨left, _⟩ | ⟨left, _⟩ | ⟨rest, left, _⟩
      · rw [left]
        exact accounted.unwritten
      · rw [left]
        exact recorded_erase before
      · rw [left]
        exact recorded_put (AccountInfo.withoutProvider_exists left).2 before
  | decrementSufficients =>
      change rules.Recorded who (rules.accountInfo who before).afterSufficient before
        (before.writeOption _ _ (rules.accountInfo who before).withoutSufficient.2)
      unfold AccountInfo.afterSufficient
      rcases (rules.accountInfo who before).withoutSufficient_cases with
        ⟨left, _⟩ | ⟨rest, left, _, lives, _⟩
      · rw [left]
        exact recorded_erase before
      · rw [left]
        exact recorded_put lives before
  | replace free =>
      change rules.Recorded who (if _ then _ else _) before (rules.putFree who free before)
      rw [putFree_eq]
      by_cases provided : (rules.accountInfo who before).isProvided = true
      · have kept : ({ rules.accountInfo who before with free := free.getD 0 } :
            AccountInfo Number).isProvided = true := provided
        rw [if_pos provided, if_pos provided]
        exact recorded_put kept before
      · rw [if_neg provided, if_neg provided]
        exact recorded_erase before

private theorem accounted_of_empty (empty : ∀ who, (rules.accountSlot who).exists? before = false) :
    rules.Accounted before := by
  have blank : ∀ who, rules.accountInfo who before = .blank := by
    intro who
    rw [accountInfo_eq, Slot.stored?_of_absent _ (empty who)]
    rfl
  constructor
  · intro who
    rw [empty who, blank who]
    rfl
  · intro who depends
    rw [blank who] at depends
    change (0 : RefCount) < 0 at depends
    cases UInt32.pos_iff_ne_zero.mp depends rfl

variable [DecidableEq Account]

theorem Accounted.same (accounted : rules.Accounted before) (same : SameBooks before after) :
    rules.Accounted after where
  present who := by
    rw [same.exists? rules who, same.accountInfo rules who]
    exact accounted.present who
  carried who := by
    rw [same.accountInfo rules who]
    exact accounted.carried who

theorem Accounted.recorded (reads : rules.account.Faithful fun _ => True)
    {info : AccountInfo Number} (accounted : rules.Accounted before)
    (recorded : rules.Recorded who info before after) (carried : info.Carried) :
    rules.Accounted after where
  present other := by
    by_cases same : other = who
    · rw [same, recorded.present, recorded.record]
    · have still := recorded.elsewhere reads same
      rw [accountInfo, Slot.get_congr _ still, Slot.exists?_congr _ still]
      exact accounted.present other
  carried other := by
    by_cases same : other = who
    · rw [same, recorded.record]
      exact carried
    · rw [accountInfo, Slot.get_congr _ (recorded.elsewhere reads same)]
      exact accounted.carried other

/-! ### One operation -/

/-- What is known of an operation that was carried out. First the record of its account was written,
and nothing else; then its turn was announced. The reply tells of the turn, or of a refusal, which is for
what was counted and changes nothing; else it is counted. -/
structure Performed (rules : Rules Account Number) (who : Account) (operation : ReferenceOperation)
    (answer : ReferenceReply) (world ended : World) : Prop where
  announced : ∃ written : Store,
    (∀ key, key ≠ (rules.accountSlot who).key → written.get? key = world.store.get? key) ∧
      (rules.accountSlot who).exists? written = (rules.accountSlot who).exists? ended.store ∧
      rules.Announced who ⟨written, world.notes⟩ ended
        (Turn.between? ((rules.accountSlot who).exists? world.store)
          ((rules.accountSlot who).exists? ended.store))
  answered : answer.turn? ((rules.accountSlot who).exists? world.store) =
    Turn.between? ((rules.accountSlot who).exists? world.store)
      ((rules.accountSlot who).exists? ended.store)
  others : ∀ other, other ≠ who →
    ended.store.get? (rules.accountSlot other).key = world.store.get? (rules.accountSlot other).key
  refused : ∀ cause, answer = .refused cause ↔
    operation.refusal? (rules.accountInfo who world.store).counts = some cause
  unchanged : ∀ cause, answer = .refused cause → ended = world
  counted : operation.refusal? (rules.accountInfo who world.store).counts = none →
    (rules.accountInfo who ended.store).counts =
      operation.counting (rules.accountInfo who world.store).counts

theorem Accounted.performed (reads : rules.account.Faithful fun _ => True) (quiet : rules.Quiet)
    (accounted : rules.Accounted world.store)
    (allowed : operation.Allowed (rules.accountInfo who world.store).counts)
    (run : operation.perform rules who world = .ok answer ended) :
    rules.Performed who operation answer world ended ∧ rules.Accounted ended.store := by
  obtain ⟨answered, turns⟩ := ReferenceOperation.perform_stages run
  have carried := accounted.carried who
  have written := accounted.write allowed
  have same : SameBooks (operation.write rules who world.store) ended.store :=
    turned_same quiet turns
  have present : (rules.accountSlot who).exists? ended.store =
      (operation.next (rules.accountInfo who world.store)).isProvided :=
    (same.exists? rules who).trans written.present
  have tells : answer.turn? ((rules.accountSlot who).exists? world.store) =
      Turn.between? ((rules.accountSlot who).exists? world.store)
        ((rules.accountSlot who).exists? ended.store) := by
    rw [accounted.present, present, answered]
    exact ReferenceOperation.reply_turn carried allowed
  rw [accounted.recorded_eq, ← accounted.present] at turns
  have record : rules.accountInfo who ended.store =
      operation.next (rules.accountInfo who world.store) :=
    (same.accountInfo rules who).trans written.record
  refine ⟨?_, (accounted.recorded reads written
    (ReferenceOperation.next_carried carried allowed)).same same⟩
  constructor
  case announced =>
    refine ⟨_, written.others, (same.exists? rules who).symm, ?_⟩
    rw [← tells]
    exact announced_of_turned turns
  case answered => exact tells
  case others =>
    intro other different
    exact (same _ (Item.under_row .account (by decide) rfl other)).trans
      (written.elsewhere reads different)
  case refused =>
    intro cause
    rw [answered]
    exact ReferenceOperation.reply_refused_iff carried cause
  case unchanged =>
    rintro cause rfl
    rw [ReferenceOperation.write_refused answered.symm] at turns
    cases turns
    rfl
  case counted =>
    intro accepted
    rw [record]
    exact ReferenceOperation.next_counts carried allowed accepted

theorem Announced.adds (silent : rules.SilentLives) {turn : Option Turn}
    (announced : rules.Announced who world ended turn) :
    rules.Adds (turn.map (Turn.event who)).toList world.store ended.store := by
  rcases turn with _ | _ | _
  · rw [announced]
    exact Adds.refl _
  · obtain ⟨told, hooks, rfl⟩ := announced
    exact (silent.created who world () told hooks).adds_nothing.trans (.record _ _)
  · obtain ⟨told, hooks, rfl⟩ := announced
    exact (silent.killed who world () told hooks).adds_nothing.trans (.record _ _)

theorem Performed.adds (silent : rules.SilentLives)
    (performed : rules.Performed who operation answer world ended) :
    rules.Adds ((Turn.between? ((rules.accountSlot who).exists? world.store)
      ((rules.accountSlot who).exists? ended.store)).map (Turn.event who)).toList
      world.store ended.store := by
  obtain ⟨written, others, _, announced⟩ := performed.announced
  refine (announced.adds silent).behind fun key under => others key ?_
  rintro rfl
  exact apart_of_log (by decide) _ under (account_under who)

/-! ### Any operations -/

/-- The worlds that operations on references lead to, with the turns of the records. -/
inductive Referred (rules : Rules Account Number) (start : World) :
    List (Account × Turn) → World → Prop
  | start : Referred rules start [] start
  | performed {turns : List (Account × Turn)} {world ended : World} {answer : ReferenceReply}
      (who : Account) (operation : ReferenceOperation) (earlier : Referred rules start turns world)
      (allowed : operation.Allowed (rules.accountInfo who world.store).counts)
      (run : operation.perform rules who world = .ok answer ended) :
      Referred rules start
        (turns ++ (Turn.between? ((rules.accountSlot who).exists? world.store)
          ((rules.accountSlot who).exists? ended.store)).toList.map (who, ·)) ended

theorem Referred.turn {turns : List (Account × Turn)} (earlier : rules.Referred start turns world)
    (who : Account) (operation : ReferenceOperation) (turn : Option Turn)
    (allowed : operation.Allowed (rules.accountInfo who world.store).counts)
    (run : operation.perform rules who world = .ok answer ended)
    (turned : Turn.between? ((rules.accountSlot who).exists? world.store)
      ((rules.accountSlot who).exists? ended.store) = turn) :
    rules.Referred start (turns ++ turn.toList.map (who, ·)) ended := by
  rw [← turned]
  exact .performed who operation earlier allowed run

def turnsOf (who : Account) (turns : List (Account × Turn)) : List Turn :=
  (turns.filter (·.1 = who)).map (·.2)

/-- Turns by which a record comes into being and is gone one after the other, beginning without one. -/
structure Alternating (turns : List Turn) (recorded : Bool) : Prop where
  chain : turns.IsChain (· ≠ ·)
  begins : turns.head? ≠ some .vanishes
  last : turns.getLast? = some .appears ↔ recorded = true

theorem Alternating.nil : Alternating [] false where
  chain := List.isChain_nil
  begins := nofun
  last := ⟨nofun, nofun⟩

theorem Alternating.add {turns : List Turn} {recorded : Bool} {turn : Turn}
    (alternating : Alternating turns recorded) (differs : turns.getLast? ≠ some turn)
    (first : turns = [] → turn = .appears) : Alternating (turns ++ [turn]) (turn == .appears) where
  chain := by
    refine List.isChain_append.mpr ⟨alternating.chain, List.isChain_singleton turn, ?_⟩
    intro earlier found later follows same
    cases Option.some.inj follows
    rw [same] at found
    exact differs found
  begins := by
    cases turns with
    | nil =>
        rw [first rfl]
        exact nofun
    | cons oldest others => exact alternating.begins
  last := by
    rw [List.getLast?_concat, Option.some_inj, beq_iff_eq]

theorem Alternating.concat {turns : List Turn} {recorded : Bool}
    (alternating : Alternating turns recorded) (now : Bool) :
    Alternating (turns ++ (Turn.between? recorded now).toList) now := by
  cases recorded with
  | false =>
      cases now with
      | false =>
          rw [Turn.between?_self, Option.toList_none, List.append_nil]
          exact alternating
      | true =>
          refine alternating.add (fun appeared => ?_) fun _ => rfl
          exact absurd (alternating.last.mp appeared) (by decide)
  | true =>
      have appeared := alternating.last.mpr rfl
      cases now with
      | true =>
          rw [Turn.between?_self, Option.toList_none, List.append_nil]
          exact alternating
      | false =>
          refine alternating.add (fun vanished => ?_) fun never => ?_
          · rw [appeared] at vanished
            cases vanished
          · rw [never] at appeared
            cases appeared

private theorem turnsOf_append_self (turns : List (Account × Turn)) (turn : Option Turn) :
    turnsOf who (turns ++ turn.toList.map (who, ·)) = turnsOf who turns ++ turn.toList := by
  unfold turnsOf
  rw [List.filter_append, List.map_append]
  congr 1
  cases turn with
  | none => rfl
  | some turn => simp

private theorem turnsOf_append_other {other : Account} (different : other ≠ who)
    (turns : List (Account × Turn)) (turn : Option Turn) :
    turnsOf other (turns ++ turn.toList.map (who, ·)) = turnsOf other turns := by
  unfold turnsOf
  rw [List.filter_append, List.map_append]
  cases turn with
  | none => exact List.append_nil _
  | some turn => simp [Ne.symm different]

/-- What is known of a world that operations on references have led to. -/
structure Followed (rules : Rules Account Number) (start : World) (turns : List (Account × Turn))
    (world : World) : Prop where
  accounted : rules.Accounted world.store
  adds : rules.Adds (turns.map fun turn => turn.2.event turn.1) start.store world.store
  alternating : ∀ who,
    Alternating (turnsOf who turns) ((rules.accountSlot who).exists? world.store)

theorem Followed.performed {turns : List (Account × Turn)} (silent : rules.SilentLives)
    (followed : rules.Followed start turns world)
    (performed : rules.Performed who operation answer world ended)
    (accounted : rules.Accounted ended.store) :
    rules.Followed start
      (turns ++ (Turn.between? ((rules.accountSlot who).exists? world.store)
        ((rules.accountSlot who).exists? ended.store)).toList.map (who, ·)) ended where
  accounted := accounted
  adds := by
    have both := followed.adds.trans (performed.adds silent)
    rw [List.map_append, List.map_map]
    rw [Option.toList_map] at both
    exact both
  alternating other := by
    by_cases same : other = who
    · rw [same, turnsOf_append_self]
      exact (followed.alternating who).concat _
    · have still : (rules.accountSlot other).exists? ended.store =
          (rules.accountSlot other).exists? world.store :=
        Slot.exists?_congr _ (performed.others other same)
      rw [turnsOf_append_other same, still]
      exact followed.alternating other

theorem Referred.followed {turns : List (Account × Turn)}
    (reads : rules.account.Faithful fun _ => True) (quiet : rules.Quiet)
    (silent : rules.SilentLives)
    (empty : ∀ who, (rules.accountSlot who).exists? start.store = false)
    (referred : rules.Referred start turns world) : rules.Followed start turns world := by
  induction referred with
  | start =>
      refine ⟨accounted_of_empty empty, Adds.refl _, fun who => ?_⟩
      rw [empty who]
      exact Alternating.nil
  | performed who operation earlier allowed run ih =>
      obtain ⟨performed, accounted⟩ := ih.accounted.performed reads quiet allowed run
      exact ih.performed silent performed accounted

private theorem trial_lives (settings : Trial.Settings) (who : Trial.Account) :
    Action.Local (fun _ => False) (settings.rules.accountCreated who) ∧
      Action.Local (fun _ => False) (settings.rules.accountKilled who) :=
  ⟨(Action.Local.note _).bind fun _ => Action.Local.note _, Action.Local.note _⟩

private theorem trial_quiet (settings : Trial.Settings) : settings.rules.Quiet where
  created who _ _ run _ _ := (trial_lives settings who).1.spared run not_false
  killed who _ _ run _ _ := (trial_lives settings who).2.spared run not_false

private theorem trial_silent (settings : Trial.Settings) : settings.rules.SilentLives where
  created who := .of_local (trial_lives settings who).1 fun _ _ => not_false
  killed who := .of_local (trial_lives settings who).2 fun _ _ => not_false

/-- After any operations on references, beginning without records, there is a record of an account
exactly if something provides for it, and what something depends on has a provider. What was logged are
the turns of the records, and those of one account alternate. The next operation, which always ends,
tells the turn of the record and is counted, or it is refused without a change. A count that is at its
end stays there, and still provides. -/
theorem references_accounted (rules : Rules Account Number) (start world : World)
    (turns : List (Account × Turn)) (reads : rules.account.Faithful fun _ => True)
    (quiet : rules.Quiet) (silent : rules.SilentLives)
    (empty : ∀ who, (rules.accountSlot who).exists? start.store = false)
    (referred : rules.Referred start turns world) :
    (∀ who, let counts := (rules.accountInfo who world.store).counts
      ((rules.accountSlot who).exists? world.store = true ↔
          0 < counts.providers + counts.sufficients) ∧
        (0 < counts.consumers → 0 < counts.providers)) ∧
      rules.Adds (turns.map fun turn => turn.2.event turn.1) start.store world.store ∧
      (∀ who, Alternating (turnsOf who turns) ((rules.accountSlot who).exists? world.store)) ∧
      ∀ who (operation : ReferenceOperation),
        operation.Allowed (rules.accountInfo who world.store).counts →
        (rules.SafeLives → ∃ answer ended,
          operation.perform rules who world = .ok answer ended) ∧
        ∀ answer ended, operation.perform rules who world = .ok answer ended →
          rules.Performed who operation answer world ended := by
  have followed := referred.followed reads quiet silent empty
  refine ⟨fun who => ⟨?_, followed.accounted.carried who⟩, followed.adds, followed.alternating, ?_⟩
  · rw [followed.accounted.present who]
    exact AccountInfo.isProvided_iff _
  · intro who operation allowed
    refine ⟨fun lives => ReferenceOperation.perform_total lives operation world, ?_⟩
    intro answer ended run
    exact (followed.accounted.performed reads quiet allowed run).1

/-- An account comes into being, is depended on so that its provider has to stay, and is gone once it is
not any more. Those who wait for accounts leave notes. -/
theorem references_accounted_of_handover :
    let rules := Trial.Settings.plain.rules
    ∃ start depended kept ended : World,
      (∀ who, (rules.accountSlot who).exists? start.store = false) ∧
      ReferenceOperation.decrementProviders.perform rules 1 depended =
        .ok (.refused .consumerRemaining) kept ∧ kept = depended ∧
      rules.Referred start [(1, .appears), (1, .vanishes)] ended ∧
      (rules.accountSlot 1).exists? ended.store = false ∧
      ended.notes = ["new 1", "new again 1", "killed 1"] ∧
      rules.Adds [.system (.newAccount 1), .system (.killedAccount 1)] start.store ended.store := by
  intro rules
  let start : World := ⟨Item.number.put (1 : Trial.Number) .empty, []⟩
  let provide := ReferenceOperation.incrementProviders.perform rules 1
  let depend := ReferenceOperation.incrementConsumers.perform rules 1
  let leave := ReferenceOperation.decrementProviders.perform rules 1
  let release := ReferenceOperation.decrementConsumers.perform rules 1
  let provided := Action.ending provide start
  let depended := Action.ending depend provided
  let kept := Action.ending leave depended
  let released := Action.ending release kept
  have empty : ∀ other, (rules.accountSlot other).exists? start.store = false := by
    intro other
    have numbers : Store.Local (Item.Under [.number]) (Item.number.put (1 : Trial.Number)) :=
      Slot.put_local (Item.under_head .number (by decide)) 1
    have absent := numbers.spares .empty (rules.accountSlot other).key
      (Item.not_under_row .account (by decide) rfl other)
    exact Slot.exists?_congr _ absent
  have appears : rules.Referred start [(1, .appears)] provided :=
    Referred.start.turn 1 .incrementProviders (some .appears) trivial
      (Action.run_of_answer_ok (by decide +kernel : _ = Except.ok (.arrival .created)))
      (by decide +kernel)
  have depends : rules.Referred start [(1, .appears)] depended :=
    appears.turn 1 .incrementConsumers none trivial
      (Action.run_of_answer_ok (by decide +kernel : _ = Except.ok .done)) (by decide +kernel)
  have stays : leave depended = .ok (.refused .consumerRemaining) kept :=
    Action.run_of_answer_ok (by decide +kernel)
  have remains : rules.Referred start [(1, .appears)] kept :=
    depends.turn 1 .decrementProviders none trivial stays (by decide +kernel)
  have counted : 0 < (rules.accountInfo 1 kept.store).counts.consumers := by decide +kernel
  have releases : rules.Referred start [(1, .appears)] released :=
    remains.turn 1 .decrementConsumers none counted
      (Action.run_of_answer_ok (by decide +kernel : _ = Except.ok .done)) (by decide +kernel)
  have vanishes : rules.Referred start [(1, .appears), (1, .vanishes)]
      (Action.ending leave released) :=
    releases.turn 1 .decrementProviders (some .vanishes) trivial
      (Action.run_of_answer_ok (by decide +kernel : _ = Except.ok (.departure .reaped)))
      (by decide +kernel)
  have reads : rules.account.Faithful fun _ => True := Codec.word_faithful
  obtain ⟨_, _, _, next⟩ :=
    references_accounted rules start depended _ reads (trial_quiet _) (trial_silent _) empty depends
  obtain ⟨_, adds, alternating, _⟩ :=
    references_accounted rules start _ _ reads (trial_quiet _) (trial_silent _) empty vanishes
  have refused : kept = depended :=
    ((next 1 .decrementProviders trivial).2 _ _ stays).unchanged _ rfl
  have gone : (rules.accountSlot 1).exists? (Action.ending leave released).store = false := by
    apply Bool.eq_false_iff.mpr
    intro present
    cases (alternating 1).last.mpr present
  have noted : (Action.ending leave released).notes = ["new 1", "new again 1", "killed 1"] := by
    decide +kernel
  exact ⟨start, depended, kept, _, empty, stays, refused, vanishes, gone, noted, adds⟩

end Rules

end StateTransition
