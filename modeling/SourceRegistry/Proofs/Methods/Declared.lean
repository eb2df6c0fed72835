import SourceRegistry.Proofs.Methods.Table
import SourceRegistry.Proofs.Registration.Run

/-!
Declared methods in the table of a committed binding.  Every declared name is there.  It stands for
the declared method, unless it is the name of a read that is generated for an asset type whose add
method is not declared: the generated read then takes its place.
-/

set_option autoImplicit false
set_option relaxedAutoImplicit false

namespace SourceRegistry

/-- A read is generated under the name, for an asset type whose add method is not declared. -/
def SourceSpec.ReadGenerated (spec : SourceSpec) (name : String) : Prop :=
  ∃ offer ∈ spec.offers, spec.declared.contains (Method.addName offer.1) = false ∧
    name = Method.readName offer.1

/-- A table has a method under a name as it was declared: the same function object, with the same
signature, of declared origin. -/
def Methods.Keeps (table : Methods) (name : String) (method : Method) : Prop :=
  ∃ kept, table.get? name = some kept ∧ kept.same method = true ∧
    kept.signature = method.signature ∧ kept.origin = .declared

theorem Method.same_self (method : Method) : method.same method = true := by
  unfold Method.same Operation.same
  cases method.operation <;> simp

namespace SourceSpec

variable {spec : SourceSpec} {ephemeral : String} {round : Nat} {name : String} {method : Method}

theorem map_fst_assetEntries : spec.assetEntries.map Prod.fst = spec.offers.map Prod.fst := by
  simp [assetEntries]

theorem nodup_offers (indexed : (TagTable.ofEntries spec.assetEntries).Indexed) :
    (spec.offers.map Prod.fst).Nodup := by
  have tags := indexed.nodup_tags
  rw [TagTable.tags, TagTable.entries_ofEntries, map_fst_assetEntries] at tags
  exact tags

theorem not_mem_generatedNames_of_declared (declared : spec.declared.get? name = some method)
    (free : ¬ spec.ReadGenerated name) : name ∉ spec.generatedNames := by
  rw [mem_generatedNames_iff]
  rintro ⟨offer, member, missing, rfl | rfl⟩
  · rw [NamedList.contains_iff_get?, declared] at missing
    cases missing
  · exact free ⟨offer, member, missing, rfl⟩

theorem get?_methodTable_of_declared (declared : spec.declared.get? name = some method)
    (free : ¬ spec.ReadGenerated name) :
    (spec.methodTable ephemeral round).get? name = some method := by
  have other := not_mem_generatedNames_of_declared declared free
  exact (get?_methodTable_of_not_mem other).trans declared

theorem get?_methodTable_of_readGenerated (tags : (spec.offers.map Prod.fst).Nodup)
    (generated : spec.ReadGenerated name) :
    ∃ other, (spec.methodTable ephemeral round).get? name = some other ∧
      other.origin = .generated := by
  obtain ⟨offer, member, missing, rfl⟩ := generated
  obtain ⟨-, found⟩ := get?_methodTable_of_offer tags member missing
  exact ⟨_, found, rfl⟩

theorem keeps_methodTable_iff (tags : (spec.offers.map Prod.fst).Nodup)
    (declared : spec.declared.get? name = some method) :
    (spec.methodTable ephemeral round).Keeps name method ↔
      method.origin = .declared ∧ ¬ spec.ReadGenerated name := by
  -- a generated read has not the origin of a declared method, so the table keeps a declared method
  -- only where no read is generated
  constructor
  · rintro ⟨held, found, -, -, origin⟩
    by_cases generated : spec.ReadGenerated name
    · obtain ⟨other, here, made⟩ := get?_methodTable_of_readGenerated tags generated
      rw [here] at found
      cases found
      rw [made] at origin
      cases origin
    · rw [get?_methodTable_of_declared declared generated] at found
      cases found
      exact ⟨origin, generated⟩
  · rintro ⟨origin, free⟩
    have kept : (spec.methodTable ephemeral round).get? name = some method :=
      get?_methodTable_of_declared declared free
    exact ⟨method, kept, method.same_self, rfl, origin⟩

end SourceSpec

namespace Registry

variable {σ : Type}

/-- In the binding of a registration that adds something every declared name is bound, to the
declared method exactly where no read is generated under that name. -/
theorem declared_kept_iff {r : Registry σ} {reg : Registration σ} (added : r.added reg ≠ []) :
    ∃ b, (r.attempt reg).2.binding? reg.factoryName = some b ∧
      ∀ (name : String) (method : Method), reg.spec.declared.get? name = some method →
        b.methods.contains name = true ∧
        (b.methods.Keeps name method ↔
          method.origin = .declared ∧ ¬ reg.spec.ReadGenerated name) ∧
        (¬ reg.spec.ReadGenerated name → b.methods.get? name = some method) ∧
        (reg.spec.ReadGenerated name →
          ∃ other, b.methods.get? name = some other ∧ other.origin = .generated) := by
  obtain ⟨-, bound, -, indexed⟩ := binding?_attempt_of_added added
  refine ⟨_, bound, fun name method declared => ?_⟩
  have tags := SourceSpec.nodup_offers indexed
  have present : reg.spec.declared.contains name = true := by
    rw [NamedList.contains_iff_get?, declared]
    rfl
  exact ⟨SourceSpec.contains_methodTable_of_declared present,
    SourceSpec.keeps_methodTable_iff tags declared,
    SourceSpec.get?_methodTable_of_declared declared,
    SourceSpec.get?_methodTable_of_readGenerated tags⟩

theorem declared_kept_iff_addFile :
    let reg := Samples.numbered ["FileAsset"] [("add_file_asset", Samples.declaredAddFile)]
    Registry.empty.added reg ≠ [] ∧
      ∃ b, (Registry.empty.attempt reg).2.binding? reg.factoryName = some b ∧
        ∀ (name : String) (method : Method), reg.spec.declared.get? name = some method →
          b.methods.contains name = true ∧
          (b.methods.Keeps name method ↔
            method.origin = .declared ∧ ¬ reg.spec.ReadGenerated name) ∧
          (¬ reg.spec.ReadGenerated name → b.methods.get? name = some method) ∧
          (reg.spec.ReadGenerated name →
            ∃ other, b.methods.get? name = some other ∧ other.origin = .generated) := by
  intro reg
  have added : Registry.empty.added reg ≠ [] := by decide +kernel
  exact ⟨added, declared_kept_iff added⟩

/-- A declared read of files is replaced where the add of files is left to be generated. -/
theorem declared_read_replaced :
    let method : Method := { operation := Samples.Behaviour.echoes.operation (.given 1) }
    let reg := Samples.numbered ["FileAsset"] [("read_file", method)]
    Registry.empty.added reg ≠ [] ∧ reg.spec.declared.get? "read_file" = some method ∧
      ∃ b, (Registry.empty.attempt reg).2.binding? reg.factoryName = some b ∧
        ¬ b.methods.Keeps "read_file" method := by
  intro method reg
  have added : Registry.empty.added reg ≠ [] := by decide +kernel
  have declared : reg.spec.declared.get? "read_file" = some method := by
    simp [reg, Samples.numbered, NamedList.ofList, NamedList.get?_put]
  obtain ⟨-, bound, -⟩ := binding?_attempt_of_added added
  have replaced : ((Registry.empty.attempt reg).2.binding? reg.factoryName).bind
      (fun b => (b.methods.get? "read_file").map Method.origin) = some .generated := by
    decide +kernel
  refine ⟨added, declared, _, bound, ?_⟩
  rintro ⟨kept, found, -, -, origin⟩
  rw [bound] at replaced
  simp [found, origin] at replaced

end Registry

end SourceRegistry
