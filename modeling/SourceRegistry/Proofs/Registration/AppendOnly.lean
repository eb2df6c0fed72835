import SourceRegistry.Proofs.Registration.Run

/-!
Registries only grow, and a registration is all or nothing.  Between any two moments of a run
entries keep their places, and bindings and asset tables stay what they are; a registration that
fails leaves the registry as it is, and one that adds something adds one datasource type, one asset
table and one factory.
-/

set_option autoImplicit false
set_option relaxedAutoImplicit false

namespace SourceRegistry

variable {σ : Type}

/-- What an earlier catalog holds stands unchanged in a later one. -/
structure Catalog.Within (earlier later : Catalog σ) : Prop where
  sources : earlier.sources.entries <+: later.sources.entries
  factoryNames : earlier.factoryNames <+: later.factoryNames
  bindings : ∀ (name : String) (b : Binding σ),
    earlier.factory? name = some b → later.factory? name = some b
  assets : ∀ (type : TypeIdent) (table : TagTable),
    earlier.assetsOf? type = some table → later.assetsOf? type = some table

/-- A catalog has the datasource type of a registration, with one asset table and one factory, more
than another. -/
structure Catalog.GainsOne (before after : Catalog σ) (reg : Registration σ) : Prop where
  sources : after.sources.entries = before.sources.entries ++ [(reg.spec.tag, reg.spec.type)]
  factories : ∃ b, after.factories.entries =
    before.factories.entries ++ [(factoryName reg.spec.tag, b)]
  assets : before.assetsOf? reg.spec.type = none ∧ ∃ table, ∀ type : TypeIdent,
    after.assetsOf? type =
      if reg.spec.type.same type then some table else before.assetsOf? type
  tableCount : after.assets.size = before.assets.size + 1

namespace Catalog.Within

variable {a b c : Catalog σ}

theorem refl (a : Catalog σ) : a.Within a :=
  ⟨List.prefix_rfl, List.prefix_rfl, fun _ _ found => found, fun _ _ found => found⟩

theorem trans (first : a.Within b) (second : b.Within c) : a.Within c where
  sources := first.sources.trans second.sources
  factoryNames := first.factoryNames.trans second.factoryNames
  bindings name held found := second.bindings name held (first.bindings name held found)
  assets type table found := second.assets type table (first.assets type table found)

end Catalog.Within

theorem Catalog.GainsOne.within {before after : Catalog σ} {reg : Registration σ}
    (gained : before.GainsOne after reg) : before.Within after where
  sources := by
    rw [gained.sources]
    exact List.prefix_append _ _
  factoryNames := by
    obtain ⟨b, entries⟩ := gained.factories
    simp only [Catalog.factoryNames, NamedList.names, entries, List.map_append]
    exact List.prefix_append _ _
  bindings name held found := by
    obtain ⟨b, entries⟩ := gained.factories
    unfold Catalog.factory? at found ⊢
    rw [NamedList.get?_eq_some_iff] at found ⊢
    rw [entries]
    exact List.mem_append_left _ found
  assets type table found := by
    obtain ⟨absent, added, tables⟩ := gained.assets
    rw [tables type]
    by_cases same : reg.spec.type.same type = true
    · -- the new type had no table, so no earlier table is in its place
      have number : reg.spec.type.number = type.number := by simpa [TypeIdent.same] using same
      unfold Catalog.assetsOf? at absent found
      rw [number, found] at absent
      cases absent
    · simp [same, found]

namespace Registry

variable {r r' : Registry σ} {log more : List (Registration σ)} {reg : Registration σ}

theorem AccountedBy.gainsOne (accounted : r.AccountedBy log) (admitted : r.Admits reg) :
    r.catalog.GainsOne (r.extend reg).catalog reg where
  sources := rfl
  factories := ⟨r.nextBinding reg,
    NamedList.entries_put_of_not_mem (NamedList.get?_eq_none_iff.mp admitted.free) _⟩
  assets := by
    refine ⟨accounted.assetsOf?_of_newType admitted.newType,
      TagTable.ofEntries reg.spec.assetEntries, ?_⟩
    intro type
    simp [Registry.extend, Catalog.assetsOf?, Std.TreeMap.getElem?_insert, TypeIdent.same]
  tableCount := by
    have absent : r.catalog.assets[reg.spec.type.number]? = none :=
      accounted.assetsOf?_of_newType admitted.newType
    have missing : r.catalog.assets.contains reg.spec.type.number = false := by
      rw [Std.TreeMap.contains_eq_isSome_getElem?, absent]
      rfl
    simp [Registry.extend, Std.TreeMap.size_insert, missing]

theorem AccountedBy.within_attempt (accounted : r.AccountedBy log) (reg : Registration σ) :
    r.catalog.Within (r.attempt reg).2.catalog := by
  rcases accounted.added_cases reg with ⟨unchanged, -⟩ | ⟨admitted, tried, -⟩
  · rw [unchanged]
    exact .refl _
  · rw [tried]
    exact (accounted.gainsOne admitted).within

theorem AccountedBy.within_grows (accounted : r.AccountedBy log) (grown : Grows r more r') :
    r.catalog.Within r'.catalog := by
  induction grown with
  | refl => exact .refl _
  | attempt reg before ih => exact ih.trans ((accounted.grows before).within_attempt reg)

/-- Between two moments of a run from a fresh registry nothing that was committed changes.  At the
later moment, a registration that fails changes nothing, and one that is accepted changes nothing
either or adds one datasource type, one asset table and one factory. -/
theorem grows_appendOnly {start earlier later : Registry σ} {log more : List (Registration σ)}
    (fresh : start.Fresh) (before : Grows start log earlier) (after : Grows earlier more later) :
    earlier.catalog.Within later.catalog ∧
      ∀ reg : Registration σ,
        (∀ cause, (later.attempt reg).1 = .error cause → (later.attempt reg).2 = later) ∧
        ((later.attempt reg).1 = .ok () → (later.attempt reg).2 = later ∨
          later.catalog.GainsOne (later.attempt reg).2.catalog reg) := by
  have early : earlier.AccountedBy log := by simpa using fresh.accountedBy_nil.grows before
  have late : later.AccountedBy (log ++ more) := early.grows after
  refine ⟨early.within_grows after, fun reg => ⟨fun _ => attempt_snd_of_error, fun _ => ?_⟩⟩
  rcases late.added_cases reg with ⟨unchanged, -⟩ | ⟨admitted, tried, -⟩
  · exact .inl unchanged
  · rw [tried]
    exact .inr (late.gainsOne admitted)

theorem grows_appendOnly_mixed :
    let earlier := Registry.empty.run (Samples.mixedCalls.take 3)
    let later := earlier.run (Samples.mixedCalls.drop 3)
    earlier.factories = ["add_csv"] ∧
      later.factories = ["add_csv", "add_csv2", "add_declared"] ∧
      earlier.catalog.Within later.catalog ∧
      ∀ reg : Registration Samples.SampleSource,
        (∀ cause, (later.attempt reg).1 = .error cause → (later.attempt reg).2 = later) ∧
        ((later.attempt reg).1 = .ok () → (later.attempt reg).2 = later ∨
          later.catalog.GainsOne (later.attempt reg).2.catalog reg) := by
  have fresh : (Registry.empty : Registry Samples.SampleSource).Fresh := .inl rfl
  have before := grows_run Registry.empty (Samples.mixedCalls.take 3)
  have after := grows_run (Registry.empty.run (Samples.mixedCalls.take 3))
    (Samples.mixedCalls.drop 3)
  exact ⟨by decide +kernel, by decide +kernel, grows_appendOnly fresh before after⟩

end Registry

end SourceRegistry
