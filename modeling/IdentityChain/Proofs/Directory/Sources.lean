import IdentityChain.Directory.Basic
import IdentityChain.Proofs.Catalog.Placing

/-!
# Static directories as sources

A configuration whose sources are all of the static kind (`Configuration.AllStatic`)
has nothing but directories in its chains, each of them the one that its item's
settings describe (`Entry.BuiltFrom.directory`). The settings are the item's own
properties, so a directory is not affected by edits of place and switch.
-/

namespace IdentityChain

/-- The settings of a directory are its item's own properties. -/
theorem Directory.factory_readsOwn : factory.ReadsOwn := by
  intro name bag other same
  show build name other = build name bag
  rw [build, build, settings?, settings?, same]

namespace Directory

variable {directory : Directory} {mode : DirectoryMode}

/-- The provider of a directory is the directory. -/
theorem provider?_toSource_eq_some_iff {provider : Provider} :
    (directory.toSource mode).provider? = some provider ↔
      (mode = .signIn ∨ mode = .both) ∧ provider = directory.toProvider := by
  cases mode <;> simp [toSource, Source.provider?, eq_comm]

theorem lookup?_toSource_eq_some_iff {service : LookupService} :
    (directory.toSource mode).lookup? = some service ↔
      (mode = .lookup ∨ mode = .both) ∧ service = directory.toLookupService := by
  cases mode <;> simp [toSource, Source.lookup?, eq_comm]

theorem build_eq_ok_iff {item : String} {bag : Bag} {source : Source} :
    build item bag = .ok source ↔ ∃ settings, settings? bag = .ok settings ∧
      source = (ofSettings item settings).toSource settings.mode := by
  unfold build
  cases settings? bag with
  | error refusal => simp
  | ok settings => simp [eq_comm]

end Directory

namespace Configuration

variable {items : Configuration} {factories : Table Factory}

/-- All sources of the configuration are static directories. -/
def AllStatic (items : Configuration) : Prop :=
  ∀ name bag kind, items.get? name = some bag → bag.kind? = some kind → kind = Directory.kind

theorem allStatic_iff : items.AllStatic ↔
    ∀ item ∈ items.entries, ∀ kind ∈ item.2.kind?, kind = Directory.kind := by
  constructor
  · rintro static ⟨name, bag⟩ listed kind declared
    exact static name bag kind (Table.mem_entries_iff.1 listed) declared
  · intro static name bag kind found declared
    exact static (name, bag) (Table.mem_entries_iff.2 found) kind declared

instance : Decidable items.AllStatic := decidable_of_iff' _ allStatic_iff

theorem AllStatic.readsOwn (static : items.AllStatic)
    (known : factories.get? Directory.kind = some Directory.factory) :
    items.ReadsOwn factories := by
  intro name bag kind factory found declared registered
  rw [static name bag kind found declared, known] at registered
  cases registered
  exact Directory.factory_readsOwn

/-- Every source of the configuration is the directory that its settings describe. -/
theorem AllStatic.directory (static : items.AllStatic)
    (known : factories.get? Directory.kind = some Directory.factory) {name : String} {bag : Bag}
    {source : Entry Source} (present : items.get? name = some bag)
    (found : Snapshot.sourceOf? factories name bag = .ok (some source)) :
    ∃ settings, Directory.settings? bag = .ok settings ∧
      source.service = (Directory.ofSettings name settings).toSource settings.mode := by
  obtain ⟨kind, factory, declared, registered, built, -⟩ := Snapshot.sourceOf?_eq_some found
  rw [static name bag kind present declared, known] at registered
  cases registered
  exact Directory.build_eq_ok_iff.1 built

end Configuration

/-- Every provider of the configuration is the directory that its item's settings describe. -/
theorem Entry.BuiltFrom.directory {items : Configuration} {factories : Table Factory}
    {entry : Entry Provider} (built : entry.BuiltFrom factories items Source.provider?)
    (static : items.AllStatic)
    (known : factories.get? Directory.kind = some Directory.factory) :
    ∃ bag settings, items.get? entry.name = some bag ∧ Directory.settings? bag = .ok settings ∧
      entry.service = (Directory.ofSettings entry.name settings).toProvider := by
  obtain ⟨bag, source, present, found, made⟩ := built
  obtain ⟨settings, settled, described⟩ := static.directory known present found
  obtain ⟨offered, -⟩ := part?_eq_some_iff.1 made
  rw [described] at offered
  exact ⟨bag, settings, present, settled,
    (Directory.provider?_toSource_eq_some_iff.1 offered).2⟩

namespace Rehearsal

/-- One kind of static directory. -/
def staticFactories : Table Factory := Factory.byKind [Directory.factory]

theorem staticFactories_ignore : Factory.AllIgnore Bag.placeKeys staticFactories := by
  refine Factory.allIgnore_byKind fun factory member => ?_
  obtain rfl := List.mem_singleton.1 member
  exact Directory.factory_readsOwn.ignores

/-- An account for a directory's settings. -/
def account (username password : String) (enabled : Bool) : Json :=
  .ofFields [("username", .str username), ("password", .str password), ("enabled", .bool enabled)]

/-- The bag of a directory. -/
def directoryBag (order : Int) (mode : String) (accounts : List Json) : Bag :=
  Table.ofList [("mode", .str mode), ("order", .int order), ("type", .str "static"),
    ("users", .arr accounts)]

end Rehearsal

end IdentityChain
