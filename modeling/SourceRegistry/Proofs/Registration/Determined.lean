import Mathlib.Data.List.Nodup
import SourceRegistry.Proofs.Registration.Run

/-!
The catalog of a registry is the one that its log determines.  After any run of calls, failed ones
included, the tags of datasource types, the asset tables, the factories and the list of registered
types are those of the registrations that added something, in the order of the log.  What registered
them, a call or a plugin with any function, makes no difference.
-/

set_option autoImplicit false
set_option relaxedAutoImplicit false

namespace SourceRegistry

variable {σ : Type}

def Registration.listing (reg : Registration σ) : List RegisteredType :=
  ⟨reg.spec.tag, reg.spec.type, .source⟩ ::
    reg.spec.offers.map fun offer => ⟨offer.1, offer.2.type, .asset reg.spec.type⟩

/-- Everything that a catalog shows is determined by a log of registrations. -/
structure Catalog.DeterminedBy (c : Catalog σ) (log : List (Registration σ)) : Prop where
  factoryNames : c.factoryNames = log.map fun reg => factoryName reg.spec.tag
  factoryNames_nodup : c.factoryNames.Nodup
  sources : c.sources.Indexed ∧
    c.sources.entries = log.map fun reg => (reg.spec.tag, reg.spec.type)
  assets_isSome : ∀ type : TypeIdent,
    (c.assetsOf? type).isSome = true ↔ ∃ reg ∈ log, reg.spec.type.same type = true
  /-- The asset table of a type holds the public asset types of its registration, under their tags
  and in order of declaration. -/
  assets : ∀ reg ∈ log, ∀ type : TypeIdent, reg.spec.type.same type = true →
    ∃ table, c.assetsOf? type = some table ∧ table.Indexed ∧
      table.entries.map (fun entry => (some entry.1, entry.2)) =
        reg.spec.publicAssets.map fun asset => (asset.tag, asset.type)
  binding : ∀ reg ∈ log, ∃ b, c.factory? (factoryName reg.spec.tag) = some b ∧
    b.name = factoryName reg.spec.tag ∧ b.tag = reg.spec.tag ∧ b.type = reg.spec.type ∧
    b.factory = reg.factory ∧ b.derived = reg.derived
  types : c.types = log.flatMap Registration.listing

namespace Registry

namespace AccountedBy

variable {r : Registry σ} {log : List (Registration σ)} {reg : Registration σ}

theorem nodup_sourceNumbers (accounted : r.AccountedBy log) :
    (log.map (·.spec.type.number)).Nodup := by
  rw [← accounted.sourceNumbers]
  exact accounted.indexed.nodup_numbers

theorem nodup_sourceTags (accounted : r.AccountedBy log) : (log.map (·.spec.tag)).Nodup := by
  rw [← accounted.sourceTags]
  exact accounted.indexed.nodup_tags

theorem assetsOf?_of_same (accounted : r.AccountedBy log) (member : reg ∈ log)
    {type : TypeIdent} (same : reg.spec.type.same type = true) :
    r.catalog.assetsOf? type = some (TagTable.ofEntries reg.spec.assetEntries) := by
  rw [accounted.assets type]
  cases found : log.find? (fun other => other.spec.type.same type) with
  | none =>
      have differs := List.find?_eq_none.mp found reg member
      exact absurd same differs
  | some other =>
      have otherSame : other.spec.type.same type = true := by simpa using List.find?_some found
      have numbers : other.spec.type.number = reg.spec.type.number := by
        simp only [TypeIdent.same, beq_iff_eq] at same otherSame
        exact otherSame.trans same.symm
      -- two registrations of a log never share their type
      have equal : other = reg := List.inj_on_of_nodup_map accounted.nodup_sourceNumbers
        (List.mem_of_find?_eq_some found) member numbers
      rw [equal]
      rfl

theorem assetsOf?_of_mem (accounted : r.AccountedBy log) (member : reg ∈ log) :
    r.catalog.assetsOf? reg.spec.type = some (TagTable.ofEntries reg.spec.assetEntries) :=
  accounted.assetsOf?_of_same member (by simp [TypeIdent.same])

theorem types (accounted : r.AccountedBy log) :
    r.catalog.types = log.flatMap Registration.listing := by
  unfold Catalog.types
  rw [accounted.sourceEntries, List.flatMap_map]
  apply List.flatMap_congr
  intro reg member
  have table := accounted.assetsOf?_of_mem member
  simp [Registration.entry, Registration.listing, Catalog.assetTypes, table,
    SourceSpec.assetEntries]

theorem determinedBy (accounted : r.AccountedBy log) : r.catalog.DeterminedBy log where
  factoryNames := accounted.factoryNames
  factoryNames_nodup := r.catalog.factories.nodup
  sources := ⟨accounted.indexed, accounted.sourceEntries⟩
  assets_isSome type := by
    rw [accounted.assets type]
    simp [List.find?_isSome]
  assets reg member type same := by
    obtain ⟨-, tagged, indexed⟩ := accounted.valid reg member
    refine ⟨_, accounted.assetsOf?_of_same member same, indexed, ?_⟩
    have pairs := congrArg (List.map fun pair : Option String × AssetSpec => (pair.1, pair.2.type))
      (SourceSpec.offers_eq_publicAssets tagged)
    rw [TagTable.entries_ofEntries]
    simpa [SourceSpec.assetEntries, Function.comp_def] using pairs
  binding reg member := by
    obtain ⟨round, here⟩ := List.mem_iff_getElem?.mp member
    have bound := accounted.binding?_eq_some_iff.mpr ⟨round, reg, here, rfl, rfl⟩
    exact ⟨_, bound, rfl, rfl, rfl, rfl, rfl⟩
  types := accounted.types

end AccountedBy

/-- After any run from a fresh registry the catalog is the one that the log of the run
determines. -/
theorem run_determinedBy_log {start : Registry σ} (fresh : start.Fresh) (calls : List (Call σ)) :
    (start.run calls).catalog.DeterminedBy (start.log calls) :=
  (fresh.accountedBy_run calls).determinedBy

theorem run_determinedBy_log_mixed :
    (Registry.empty : Registry Samples.SampleSource).Fresh ∧
      (Registry.empty.run Samples.mixedCalls).factories =
        ["add_csv", "add_csv2", "add_declared"] ∧
      (Registry.empty.run Samples.mixedCalls).catalog.DeterminedBy
        (Registry.empty.log Samples.mixedCalls) := by
  have fresh : (Registry.empty : Registry Samples.SampleSource).Fresh := .inl rfl
  exact ⟨fresh, by decide +kernel, run_determinedBy_log fresh Samples.mixedCalls⟩

end Registry

end SourceRegistry
