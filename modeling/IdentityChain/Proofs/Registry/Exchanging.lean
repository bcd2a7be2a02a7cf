import IdentityChain.Proofs.Catalog.Exchanging
import IdentityChain.Proofs.Registry.Placing

/-!
# Exchanging orders without other writers

Over a store in memory an exchange of orders ends in one of four ways
(`Registry.exchange_step`): the one item or the other carries no order, or the
exchanged items do not build, or they are stored and published. Where no factory
reads the order they always build. And since an exchange undoes itself, a second
one finds the items that built before (`Registry.reorder_undone`).

What an exchange that succeeds makes of the chains is read off the items before
and after it, as both snapshots were built from them.
-/

namespace IdentityChain

/-- The item is there, with an order in the range of an `Int64`. -/
def Configuration.CarriesOrder (items : Configuration) (name : String) : Prop :=
  ∃ order : Int64, items.value? name Bag.orderKey = some (.ofInt64 order)

namespace Configuration

variable {items : Configuration} {name : String}

/-- The orders that are carried are those that can be read. -/
theorem carriesOrder_iff : items.CarriesOrder name ↔ ∃ order, items.order? name = some order :=
  exists_congr fun _ => order?_eq_some_iff.symm

theorem order?_eq_none (unordered : ¬ items.CarriesOrder name) : items.order? name = none := by
  apply Option.eq_none_iff_forall_ne_some.2
  intro order has
  exact unordered (carriesOrder_iff.2 ⟨order, has⟩)

end Configuration

theorem Exchanged.carriesOrder_first {first second : String} {before after : Configuration}
    (exchanged : Exchanged first second before after) (carries : before.CarriesOrder second) :
    after.CarriesOrder first := by
  obtain ⟨order, carried⟩ := carries
  exact ⟨order, exchanged.first_order.trans carried⟩

namespace Registry

variable {factories : Table Factory} {limits : ResolutionLimits} {first second : String}
  {before : RegistryState Configuration}

/-- The ways in which an exchange of orders ends over a store in memory. -/
inductive ExchangeStep (factories : Table Factory) (first second : String)
    (before : RegistryState Configuration) :
    Except Fault Unit × RegistryState Configuration → Prop where
  | firstUnordered {reason : String}
      (unordered : ¬ before.store.CarriesOrder first) :
      ExchangeStep factories first second before
        (.error (.configurationInvalid first reason), before)
  | secondUnordered {reason : String}
      (carriesFirst : before.store.CarriesOrder first)
      (unordered : ¬ before.store.CarriesOrder second) :
      ExchangeStep factories first second before
        (.error (.configurationInvalid second reason), before)
  | rejected {batch : Batch} {items : Configuration}
      (carriesFirst : before.store.CarriesOrder first)
      (carriesSecond : before.store.CarriesOrder second)
      (exchanged : Exchanged first second before.store items)
      (unbuildable : ¬ Snapshot.Buildable factories items) :
      ExchangeStep factories first second before (.error (rejection batch), before)
  | live {items : Configuration} {next : Snapshot}
      (carriesFirst : before.store.CarriesOrder first)
      (carriesSecond : before.store.CarriesOrder second)
      (exchanged : Exchanged first second before.store items)
      (built : Snapshot.build factories (before.published.version + 1) items = .ok next) :
      ExchangeStep factories first second before
        (.ok (), { before with store := items, published := next })

theorem exchange_step (first second : String) (before : RegistryState Configuration) :
    ExchangeStep factories first second before
      (((inMemory factories limits).reorder first second).runOn before) := by
  have failed : ∀ {name}, ¬ before.store.CarriesOrder name → ∃ reason,
      ((inMemory factories limits).requireOrder name).runOn before =
        (.error (.configurationInvalid name reason), before) := by
    intro name unordered
    obtain ⟨reason, invalid⟩ :=
      Configuration.orderOf_eq_error (Configuration.order?_eq_none unordered)
    exact ⟨reason, by rw [requireOrder_inMemory, invalid]⟩
  by_cases carriesFirst : before.store.CarriesOrder first
  case neg =>
    obtain ⟨reason, ended⟩ := failed carriesFirst
    rw [reorder, Action.runOn_bind_error ended]
    exact .firstUnordered carriesFirst
  obtain ⟨firstOrder, hasFirst⟩ := Configuration.carriesOrder_iff.1 carriesFirst
  by_cases carriesSecond : before.store.CarriesOrder second
  case neg =>
    obtain ⟨reason, ended⟩ := failed carriesSecond
    have read : ((inMemory factories limits).requireOrder first).runOn before =
        (.ok firstOrder, before) := by
      rw [requireOrder_inMemory, Configuration.orderOf_eq_ok hasFirst]
    rw [reorder, Action.runOn_bind_ok read, Action.runOn_bind_error ended]
    exact .secondUnordered carriesFirst carriesSecond
  obtain ⟨secondOrder, hasSecond⟩ := Configuration.carriesOrder_iff.1 carriesSecond
  have met := isMetBy_exchange_of_orders hasFirst hasSecond
  have exchanged := exchanged_of_isMetBy met
  have reached : (((Reconfiguration.reorder first second).stage
      (inMemory factories limits)).runOn before).1 =
      .ok (exchange first second firstOrder secondOrder) := stage_reorder hasFirst hasSecond
  by_cases buildable : Snapshot.Buildable factories
      ((exchange first second firstOrder secondOrder).mergeInto before.store)
  · obtain ⟨next, built, run⟩ := live_of_buildable reached rfl met buildable
    change ((inMemory factories limits).reorder first second).runOn before = _ at run
    rw [run]
    exact .live carriesFirst carriesSecond exchanged built
  · have run := rejected_of_unbuildable reached buildable
    change ((inMemory factories limits).reorder first second).runOn before = _ at run
    rw [run]
    exact .rejected carriesFirst carriesSecond exchanged buildable

/-- An exchange that succeeds is stored and published. -/
theorem exchanged_of_reorder
    (succeeded : (((inMemory factories limits).reorder first second).runOn before).1 = .ok ()) :
    ∃ items next, before.store.CarriesOrder first ∧ before.store.CarriesOrder second ∧
      Exchanged first second before.store items ∧
      Snapshot.build factories (before.published.version + 1) items = .ok next ∧
      ((inMemory factories limits).reorder first second).runOn before =
        (.ok (), { before with store := items, published := next }) := by
  have step := @exchange_step factories limits first second before
  generalize ((inMemory factories limits).reorder first second).runOn before = run at *
  cases step with
  | firstUnordered | secondUnordered | rejected => cases succeeded
  | live carriesFirst carriesSecond exchanged built =>
    exact ⟨_, _, carriesFirst, carriesSecond, exchanged, built, rfl⟩

/-- An exchange that fails leaves no trace. -/
theorem unchanged_of_reorder
    (failed : (((inMemory factories limits).reorder first second).runOn before).1 ≠ .ok ()) :
    (((inMemory factories limits).reorder first second).runOn before).2 = before := by
  have step := @exchange_step factories limits first second before
  generalize ((inMemory factories limits).reorder first second).runOn before = run at *
  cases step with
  | firstUnordered | secondUnordered | rejected => rfl
  | live => exact (failed rfl).elim

/-- Nothing but a source that the exchanged items cannot build stands in the way of two orders. -/
theorem reorder_succeeds (carriesFirst : before.store.CarriesOrder first)
    (carriesSecond : before.store.CarriesOrder second)
    (fits : ∀ items, Exchanged first second before.store items →
      Snapshot.Buildable factories items) :
    (((inMemory factories limits).reorder first second).runOn before).1 = .ok () := by
  have step := @exchange_step factories limits first second before
  generalize ((inMemory factories limits).reorder first second).runOn before = run at *
  cases step with
  | firstUnordered unordered => exact (unordered carriesFirst).elim
  | secondUnordered _ unordered => exact (unordered carriesSecond).elim
  | rejected _ _ exchanged unbuildable => exact (unbuildable (fits _ exchanged)).elim
  | live => rfl

/-- To exchange two orders is to exchange them the other way round. -/
theorem reorder_mirrored
    (succeeded : (((inMemory factories limits).reorder first second).runOn before).1 = .ok ()) :
    ((inMemory factories limits).reorder second first).runOn before =
      ((inMemory factories limits).reorder first second).runOn before := by
  obtain ⟨items, next, carriesFirst, carriesSecond, exchanged, built, run⟩ :=
    exchanged_of_reorder succeeded
  have mirrored : (((inMemory factories limits).reorder second first).runOn before).1 = .ok () := by
    apply reorder_succeeds carriesSecond carriesFirst
    intro items' exchanged'
    rw [exchanged.unique exchanged'.comm]
    exact .of_build built
  obtain ⟨items', next', -, -, exchanged', built', run'⟩ := exchanged_of_reorder mirrored
  obtain rfl := exchanged.unique exchanged'.comm
  cases built.symm.trans built'
  rw [run, run']

theorem reorder_comm (first second : String) (before : RegistryState Configuration) :
    (((inMemory factories limits).reorder second first).runOn before).2 =
      (((inMemory factories limits).reorder first second).runOn before).2 := by
  by_cases succeeded :
    (((inMemory factories limits).reorder first second).runOn before).1 = .ok ()
  · rw [reorder_mirrored succeeded]
  · have failed : (((inMemory factories limits).reorder second first).runOn before).1 ≠ .ok () := by
      intro mirrored
      rw [reorder_mirrored mirrored] at succeeded
      exact succeeded mirrored
    rw [unchanged_of_reorder succeeded, unchanged_of_reorder failed]

/-- An exchange that succeeds can be undone, if what it was made on builds. -/
theorem reorder_undone (buildable : Snapshot.Buildable factories before.store)
    {after : RegistryState Configuration}
    (exchanged :
      ((inMemory factories limits).reorder first second).runOn before = (.ok (), after)) :
    ∃ last, Snapshot.build factories (before.published.version + 2) before.store = .ok last ∧
      ((inMemory factories limits).reorder first second).runOn after =
        (.ok (), { before with published := last }) := by
  obtain ⟨items, next, carriesFirst, carriesSecond, exchange, built, run⟩ :=
    exchanged_of_reorder (congrArg Prod.fst exchanged)
  cases exchanged.symm.trans run
  have again : (((inMemory factories limits).reorder first second).runOn
      { before with store := items, published := next }).1 = .ok () := by
    apply reorder_succeeds (exchange.carriesOrder_first carriesSecond)
      (exchange.comm.carriesOrder_first carriesFirst)
    intro last exchange'
    rw [exchange.undone exchange']
    exact buildable
  obtain ⟨items', last, -, -, exchange', built', run'⟩ := exchanged_of_reorder again
  obtain rfl : items' = before.store := exchange.undone exchange'
  have numbered : next.version = before.published.version + 1 := Snapshot.version_of_build built
  refine ⟨last, ?_, run'⟩
  rw [numbered] at built'
  exact built'

end Registry

namespace Rehearsal

/-- Three directories at the ends of the range and between them, and a block of settings. -/
def corridor : Configuration :=
  Table.ofList [("east", directoryBag (-9223372036854775808) "both" [account "ann" "secret" true]),
    ("mid", directoryBag 5 "provider" [account "cat" "open" true]),
    ("policy", Table.ofList [("note", .str "none")]),
    ("west", directoryBag 9223372036854775807 "both" [account "bob" "hidden" false])]

/-- The corridor is loaded. -/
def inCorridor : RegistryState Configuration :=
  ((Registry.inMemory staticFactories limits).init.runOn (start corridor)).2

theorem inCorridor_sync : InSync staticFactories inCorridor :=
  @InSync.of_init staticFactories limits (start corridor) (by rfl)

end Rehearsal

variable {factories : Table Factory} {limits : ResolutionLimits}
  {before : RegistryState Configuration} {first second : String}

/-- Over a store in memory whose items build, and where no factory reads the order. An exchange of
two orders succeeds if and only if both items are there and carry one; of the items the first that
does not is reported, and nothing has changed. Which of the two is named first makes no difference,
and to exchange them again brings everything back but the version: each item of the store as it was,
and the chains if they were in sync. -/
theorem reorder_twice_restores (ignore : Factory.AllIgnore [Bag.orderKey] factories)
    (buildable : Snapshot.Buildable factories before.store) :
    let registry := Registry.inMemory factories limits
    let once := (registry.reorder first second).runOn before
    let mirrored := (registry.reorder second first).runOn before
    let twice := (registry.reorder first second).runOn once.2
    (once.1 = .ok () ↔ before.store.CarriesOrder first ∧ before.store.CarriesOrder second) ∧
    (¬ before.store.CarriesOrder first →
      ∃ reason, once = (.error (.configurationInvalid first reason), before)) ∧
    (before.store.CarriesOrder first → ¬ before.store.CarriesOrder second →
      ∃ reason, once = (.error (.configurationInvalid second reason), before)) ∧
    mirrored.2 = once.2 ∧
    (once.1 = .ok () → Exchanged first second before.store once.2.store ∧ twice.1 = .ok () ∧
      twice.2.store = before.store ∧
      twice.2.published.version = before.published.version + 2 ∧
      (InSync factories before →
        twice.2.published = before.published.atVersion (before.published.version + 2))) := by
  intro registry once mirrored twice
  have step : Registry.ExchangeStep factories first second before once :=
    Registry.exchange_step first second before
  have fits : ∀ items, Exchanged first second before.store items →
      Snapshot.Buildable factories items := by
    intro items exchanged
    exact buildable.of_ignored Bag.order_subset_placeKeys
      (fun name _ => ignore.ignoresAt before.store name) (exchanged.differsAt List.mem_cons_self)
  refine ⟨⟨?_, ?_⟩, ?_, ?_, Registry.reorder_comm first second before, ?_⟩
  · intro succeeded
    obtain ⟨_, _, carriesFirst, carriesSecond, -⟩ := Registry.exchanged_of_reorder succeeded
    exact ⟨carriesFirst, carriesSecond⟩
  · rintro ⟨carriesFirst, carriesSecond⟩
    exact Registry.reorder_succeeds carriesFirst carriesSecond fits
  · intro unordered
    generalize once = run at step
    cases step with
    | firstUnordered _ => exact ⟨_, rfl⟩
    | secondUnordered carriesFirst | rejected carriesFirst | live carriesFirst =>
      exact (unordered carriesFirst).elim
  · intro carriesFirst unordered
    generalize once = run at step
    cases step with
    | firstUnordered unordered => exact (unordered carriesFirst).elim
    | secondUnordered _ _ => exact ⟨_, rfl⟩
    | rejected _ carriesSecond | live _ carriesSecond => exact (unordered carriesSecond).elim
  · intro succeeded
    obtain ⟨items, next, -, -, exchanged, built, run⟩ := Registry.exchanged_of_reorder succeeded
    obtain ⟨last, rebuilt, again⟩ := Registry.reorder_undone buildable run
    have ended : twice = (.ok (), { before with published := last }) := by
      show (registry.reorder first second).runOn once.2 = _
      rw [show once = _ from run]
      exact again
    rw [ended, show once = _ from run]
    refine ⟨exchanged, rfl, rfl, Snapshot.version_of_build rebuilt, fun sync => ?_⟩
    exact Except.ok.inj (rebuilt.symm.trans (Snapshot.build_atVersion sync _))

/-- The two ends change places and change back. A block of settings without an order is reported. -/
theorem reorder_twice_restores_rehearsal :
    let registry := Registry.inMemory Rehearsal.staticFactories Rehearsal.limits
    let before := Rehearsal.inCorridor
    (∃ once twice, (registry.reorder "east" "west").runOn before = (.ok (), once) ∧
      Exchanged "east" "west" before.store once.store ∧
      (registry.reorder "east" "west").runOn once = (.ok (), twice) ∧
      twice.store = before.store ∧
      twice.published = before.published.atVersion (before.published.version + 2)) ∧
    ∃ reason, (registry.reorder "mid" "policy").runOn before =
      (.error (.configurationInvalid "policy" reason), before) := by
  -- Without the abbreviations nothing has to be unfolded to be compared.
  dsimp only
  have ignore := Rehearsal.staticFactories_ignore.mono Bag.order_subset_placeKeys
  have sync := Rehearsal.inCorridor_sync
  have carries : ∀ {name order}, Rehearsal.inCorridor.store.order? name = some order →
      Rehearsal.inCorridor.store.CarriesOrder name :=
    fun has => Configuration.carriesOrder_iff.2 ⟨_, has⟩
  constructor
  · obtain ⟨succeeds, -, -, -, restored⟩ := @reorder_twice_restores Rehearsal.staticFactories
      Rehearsal.limits Rehearsal.inCorridor "east" "west" ignore (.of_build sync)
    have succeeded := succeeds.2 ⟨carries (by rfl), carries (by rfl)⟩
    obtain ⟨exchanged, again, stored, -, published⟩ := restored succeeded
    have ended : ∀ {run : Except Fault Unit × RegistryState Configuration}, run.1 = .ok () →
        run = (.ok (), run.2) := fun ok => by rw [← ok]
    exact ⟨_, _, ended succeeded, exchanged, ended again, stored, published sync⟩
  · obtain ⟨-, -, reported, -⟩ := @reorder_twice_restores Rehearsal.staticFactories
      Rehearsal.limits Rehearsal.inCorridor "mid" "policy" ignore (.of_build sync)
    have none : Rehearsal.inCorridor.store.order? "policy" = none := by rfl
    have unordered : ¬ Rehearsal.inCorridor.store.CarriesOrder "policy" := by
      intro carries
      obtain ⟨order, has⟩ := Configuration.carriesOrder_iff.1 carries
      cases none.symm.trans has
    exact reported (carries (by rfl)) unordered

/-- Over a store in memory whose chains are in sync, in either chain after an exchange of orders
that succeeds: whatever the factories do, no other item comes or goes, and any two others stand to
each other as before. Where neither of the two comes or goes they are exchanged, and neither does
unless its factory reads the order. -/
theorem reorder_exchanges_in_chains (sync : InSync factories before)
    (succeeded :
      (((Registry.inMemory factories limits).reorder first second).runOn before).1 = .ok ()) :
    let after := (((Registry.inMemory factories limits).reorder first second).runOn before).2
    let providers := fun state : RegistryState Configuration =>
      state.published.enabledProviders.map (·.name)
    let lookups := fun state : RegistryState Configuration =>
      state.published.enabledLookups.map (·.name)
    ChainExchange factories before.store first second (providers before) (providers after) ∧
    ChainExchange factories before.store first second (lookups before) (lookups after) ∧
    ((∀ name ∈ [first, second], before.store.IgnoresAt factories [Bag.orderKey] name) →
      ExchangedNames before.store first second (providers before) (providers after) ∧
      ExchangedNames before.store first second (lookups before) (lookups after)) := by
  obtain ⟨items, next, carriesFirst, carriesSecond, exchanged, built, run⟩ :=
    Registry.exchanged_of_reorder succeeded
  obtain ⟨firstOrder, hasFirst⟩ := Configuration.carriesOrder_iff.1 carriesFirst
  obtain ⟨secondOrder, hasSecond⟩ := Configuration.carriesOrder_iff.1 carriesSecond
  have inProviders := Snapshot.exchange_providers sync built exchanged hasFirst hasSecond
  have inLookups := Snapshot.exchange_lookups sync built exchanged hasFirst hasSecond
  dsimp only
  rw [run]
  exact ⟨inProviders, inLookups, fun ignored =>
    ⟨inProviders.of_ignored ignored, inLookups.of_ignored ignored⟩⟩

/-- The two ends change places in either chain, and the one between them stays. -/
theorem reorder_exchanges_in_chains_rehearsal :
    let registry := Registry.inMemory Rehearsal.staticFactories Rehearsal.limits
    let before := Rehearsal.inCorridor
    let after := ((registry.reorder "east" "west").runOn before).2
    before.published.enabledProviders.map (·.name) = ["east", "mid", "west"] ∧
      before.published.enabledLookups.map (·.name) = ["east", "west"] ∧
      after.published.enabledProviders.map (·.name) = ["west", "mid", "east"] ∧
      after.published.enabledLookups.map (·.name) = ["west", "east"] := by
  dsimp only
  have providers : Rehearsal.inCorridor.published.enabledProviders.map (·.name) =
      ["east", "mid", "west"] := by rfl
  have lookups : Rehearsal.inCorridor.published.enabledLookups.map (·.name) =
      ["east", "west"] := by rfl
  have orders : ["east", "mid", "west"].filterMap Rehearsal.inCorridor.store.order? =
      [-9223372036854775808, 5, 9223372036854775807] := by rfl
  have ends : ["east", "west"].filterMap Rehearsal.inCorridor.store.order? =
      [-9223372036854775808, 9223372036854775807] := by rfl
  obtain ⟨-, -, exchanged⟩ := @reorder_exchanges_in_chains Rehearsal.staticFactories
    Rehearsal.limits Rehearsal.inCorridor "east" "west" Rehearsal.inCorridor_sync (by rfl)
  dsimp only at exchanged
  rw [providers, lookups] at exchanged
  have ignore := Rehearsal.staticFactories_ignore.mono Bag.order_subset_placeKeys
  obtain ⟨inProviders, inLookups⟩ := exchanged fun name _ => ignore.ignoresAt _ name
  have here : ["east", "west"] ⊆ ["east", "mid", "west"] := by decide
  have here' : ["east", "west"] ⊆ ["east", "west"] := fun _ => id
  refine ⟨providers, lookups, ?_, ?_⟩
  · rw [inProviders.swapped here (by rw [orders]; decide)]
    decide
  · rw [inLookups.swapped here' (by rw [ends]; decide)]
    decide

namespace Rehearsal

/-- A kind of source that signs users in from the first place and looks them up from any other. -/
def leader : Factory where
  kind := "leader"
  build item bag :=
    .ok ((Directory.ofSettings item ⟨.both, []⟩).toSource
      (if bag.order? = some 1 then .signIn else .lookup))

def leaders : Table Factory := Factory.byKind [leader]

/-- Two of the kind. -/
def turns : Configuration :=
  Table.ofList [("a", Table.ofList [("order", .int 1), ("type", .str "leader")]),
    ("b", Table.ofList [("order", .int 2), ("type", .str "leader")])]

/-- The two are loaded. -/
def inTurn : RegistryState Configuration :=
  ((Registry.inMemory leaders Rehearsal.limits).init.runOn (start turns)).2

theorem inTurn_sync : InSync leaders inTurn :=
  @InSync.of_init leaders Rehearsal.limits (start turns) (by rfl)

end Rehearsal

/-- Two items are not always exchanged: one whose factory reads the order can leave a chain, and the
other come in its place. -/
theorem not_always_exchanged :
    ¬ ∀ (factories : Table Factory) (limits : ResolutionLimits)
        (before : RegistryState Configuration) (first second : String),
      let registry := Registry.inMemory factories limits
      let after := ((registry.reorder first second).runOn before).2
      InSync factories before → ((registry.reorder first second).runOn before).1 = .ok () →
      ExchangedNames before.store first second (before.published.enabledProviders.map (·.name))
          (after.published.enabledProviders.map (·.name)) ∧
        ExchangedNames before.store first second (before.published.enabledLookups.map (·.name))
          (after.published.enabledLookups.map (·.name)) := by
  intro always
  obtain ⟨inProviders, -⟩ := always Rehearsal.leaders Rehearsal.limits Rehearsal.inTurn "a" "b"
    Rehearsal.inTurn_sync (by rfl)
  have old : Rehearsal.inTurn.published.enabledProviders.map (·.name) = ["a"] := by rfl
  have new : (((Registry.inMemory Rehearsal.leaders Rehearsal.limits).reorder "a" "b").runOn
      Rehearsal.inTurn).2.published.enabledProviders.map (·.name) = ["b"] := by rfl
  rw [old, new] at inProviders
  exact absurd ((inProviders.stay "a" List.mem_cons_self).2 List.mem_cons_self) (by decide)

end IdentityChain
