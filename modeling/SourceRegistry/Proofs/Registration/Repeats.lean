import SourceRegistry.Proofs.Methods.Table
import SourceRegistry.Proofs.Registration.Determined

/-!
What an accepted registration finds in the registry afterwards.  Under a free name it is committed,
and all that it describes is there.  As a repeat it changes nothing, and what it describes is there
only as far as the committed registration of its name covers it: the comparison of the two looks at
their types, tags and factories, and not at their asset types, fields and declared methods.
-/

set_option autoImplicit false
set_option relaxedAutoImplicit false

namespace SourceRegistry

variable {σ : Type}

def TagTable.Pairs (t : TagTable) (tag : String) (type : TypeIdent) : Prop :=
  t.tagOf type = .ok tag ∧ ∃ held, t.typeOf tag = .ok held ∧ held.same type = true

theorem TagTable.Indexed.pairs_iff {t : TagTable} (indexed : t.Indexed) {tag : String}
    {type : TypeIdent} :
    t.Pairs tag type ↔ ∃ held, (tag, held) ∈ t.entries ∧ held.number = type.number := by
  unfold TagTable.Pairs
  simp only [indexed.tagOf_eq_ok_iff, indexed.typeOf_eq_ok_iff, TypeIdent.same, beq_iff_eq]
  exact and_self_iff

structure Catalog.Holds (c : Catalog σ) (spec : SourceSpec) : Prop where
  source : c.sources.Pairs spec.tag spec.type
  assets : ∃ table, c.assetsOf? spec.type = some table ∧
    ∀ asset ∈ spec.publicAssets, ∃ tag, asset.tag = some tag ∧ table.Pairs tag asset.type
  binding : ∃ b, c.factory? (factoryName spec.tag) = some b ∧
    b.methods.names = spec.methodNames ∧ b.signature = spec.factorySignature

namespace SourceSpec

/-- A description offers every public asset type of another and agrees with it on the names of the
methods and on the signature of the factory. -/
structure Covers (old new : SourceSpec) : Prop where
  assets : ∀ asset ∈ new.publicAssets, ∃ tag, asset.tag = some tag ∧
    ∃ held, (tag, held) ∈ old.offers ∧ held.type.same asset.type = true
  methodNames : old.methodNames = new.methodNames
  signature : old.factorySignature = new.factorySignature

theorem covers_self {spec : SourceSpec} (tagged : spec.Tagged) : spec.Covers spec where
  assets asset member := by
    obtain ⟨tag, found⟩ := Option.isSome_iff_exists.mp (tagged asset member)
    have offered : (tag, asset) ∈ spec.offers := mem_offers_iff.mpr ⟨member, found⟩
    exact ⟨tag, found, asset, offered, by simp [TypeIdent.same]⟩
  methodNames := rfl
  signature := rfl

theorem pairs_assetEntries_iff {spec : SourceSpec}
    (indexed : (TagTable.ofEntries spec.assetEntries).Indexed) {tag : String} {type : TypeIdent} :
    (TagTable.ofEntries spec.assetEntries).Pairs tag type ↔
      ∃ held, (tag, held) ∈ spec.offers ∧ held.type.same type = true := by
  rw [indexed.pairs_iff, TagTable.entries_ofEntries]
  simp only [assetEntries, List.mem_map, Prod.mk.injEq, TypeIdent.same, beq_iff_eq]
  constructor
  · rintro ⟨held, ⟨offer, member, rfl, rfl⟩, number⟩
    exact ⟨offer.2, member, number⟩
  · rintro ⟨held, member, number⟩
    exact ⟨held.type, ⟨(tag, held), member, rfl, rfl⟩, number⟩

end SourceSpec

namespace Registry

variable {start r : Registry σ} {log : List (Registration σ)} {reg old : Registration σ}

namespace AccountedBy

theorem pairs_sources (accounted : r.AccountedBy log) (member : old ∈ log) {type : TypeIdent}
    (same : old.spec.type.same type = true) : r.catalog.sources.Pairs old.spec.tag type := by
  have number : old.spec.type.number = type.number := by simpa [TypeIdent.same] using same
  rw [accounted.indexed.pairs_iff, accounted.sourceEntries]
  exact ⟨old.spec.type, List.mem_map.mpr ⟨old, member, rfl⟩, number⟩

theorem exists_binding (accounted : r.AccountedBy log) (member : old ∈ log) :
    ∃ b, r.catalog.factory? (factoryName old.spec.tag) = some b ∧
      b.methods.names = old.spec.methodNames ∧ b.signature = old.spec.factorySignature := by
  obtain ⟨round, here⟩ := List.mem_iff_getElem?.mp member
  have bound := accounted.binding?_eq_some_iff.mpr ⟨round, old, here, rfl, rfl⟩
  exact ⟨_, bound, SourceSpec.names_methodTable, rfl⟩

/-- What a description asks for under the tag and type of a logged registration is held exactly
where that registration covers it. -/
theorem holds_iff_covers (accounted : r.AccountedBy log) (member : old ∈ log) {spec : SourceSpec}
    (tag : old.spec.tag = spec.tag) (same : old.spec.type.same spec.type = true) :
    r.catalog.Holds spec ↔ old.spec.Covers spec := by
  obtain ⟨-, -, indexed⟩ := accounted.valid old member
  have table := accounted.assetsOf?_of_same member same
  obtain ⟨b, bound, names, signature⟩ := accounted.exists_binding member
  rw [tag] at bound
  constructor
  · intro held
    obtain ⟨other, found, paired⟩ := held.assets
    obtain rfl := Option.some.inj (table.symm.trans found)
    obtain ⟨bound', found', names', signature'⟩ := held.binding
    obtain rfl := Option.some.inj (bound.symm.trans found')
    refine ⟨fun asset isPublic => ?_, names.symm.trans names', signature.symm.trans signature'⟩
    obtain ⟨assetTag, tagged, pairs⟩ := paired asset isPublic
    exact ⟨assetTag, tagged, (SourceSpec.pairs_assetEntries_iff indexed).mp pairs⟩
  · intro covers
    refine ⟨tag ▸ accounted.pairs_sources member same, ⟨_, table, fun asset isPublic => ?_⟩,
      b, bound, names.trans covers.methodNames, signature.trans covers.signature⟩
    obtain ⟨assetTag, tagged, offered⟩ := covers.assets asset isPublic
    exact ⟨assetTag, tagged, (SourceSpec.pairs_assetEntries_iff indexed).mpr offered⟩

theorem exists_repeated (accounted : r.AccountedBy log) {bound : Binding σ}
    (found : r.binding? reg.factoryName = some bound) (repeated : repeats bound reg = true) :
    ∃ old ∈ log, old.spec.tag = reg.spec.tag ∧ old.spec.type.same reg.spec.type = true := by
  obtain ⟨round, old, here, -, rfl⟩ := accounted.binding?_eq_some_iff.mp found
  simp only [repeats, Registration.bindingAt, Bool.and_eq_true, beq_iff_eq] at repeated
  exact ⟨old, List.mem_of_getElem? here, repeated.1.2, repeated.1.1⟩

theorem holds_of_repeats_iff (accounted : r.AccountedBy log) {bound : Binding σ}
    (found : r.binding? reg.factoryName = some bound) (repeated : repeats bound reg = true) :
    r.catalog.Holds reg.spec ↔
      ∃ old ∈ log, old.spec.tag = reg.spec.tag ∧ old.spec.Covers reg.spec := by
  obtain ⟨old, member, tag, same⟩ := accounted.exists_repeated found repeated
  rw [accounted.holds_iff_covers member tag same]
  constructor
  · intro covers
    exact ⟨old, member, tag, covers⟩
  · rintro ⟨other, logged, otherTag, covers⟩
    -- a log never has two registrations of one tag
    have equal : other = old := List.inj_on_of_nodup_map accounted.nodup_sourceTags
      logged member (otherTag.trans tag.symm)
    rw [← equal]
    exact covers

theorem holds_extend (accounted : r.AccountedBy log) (admitted : r.Admits reg) :
    (r.extend reg).catalog.Holds reg.spec := by
  have last : reg ∈ log ++ [reg] := List.mem_append_right _ (List.mem_singleton.mpr rfl)
  have same : reg.spec.type.same reg.spec.type = true := by simp [TypeIdent.same]
  rw [(accounted.extend admitted).holds_iff_covers last rfl same]
  exact SourceSpec.covers_self admitted.tagged

end AccountedBy

/-- After an accepted registration the catalog holds what it describes exactly where its name was
free or the committed registration of its tag covers it.  Under a bound name it was accepted as a
repeat, which changes nothing. -/
theorem accepted_holds_iff (fresh : start.Fresh) (grown : Grows start log r)
    (accepted : (r.attempt reg).1 = .ok ()) :
    ((r.attempt reg).2.catalog.Holds reg.spec ↔
      r.binding? reg.factoryName = none ∨
        ∃ old ∈ log, old.spec.tag = reg.spec.tag ∧ old.spec.Covers reg.spec) ∧
    ∀ bound, r.binding? reg.factoryName = some bound →
      r.settings.repeats = .ignoreIdentical ∧ repeats bound reg = true ∧
        (r.attempt reg).2 = r := by
  have accounted : r.AccountedBy log := by simpa using fresh.accountedBy_nil.grows grown
  cases outcome : r.register reg with
  | error cause => simp [attempt, outcome] at accepted
  | ok r' =>
      rw [attempt_eq_of_ok outcome]
      rcases accounted.register_cases outcome with ⟨bound, found, policy, repeated, rfl⟩ |
        ⟨admitted, rfl⟩
      · constructor
        · rw [accounted.holds_of_repeats_iff found repeated, found]
          simp only [reduceCtorEq, false_or]
        · intro other here
          obtain rfl := Option.some.inj (found.symm.trans here)
          exact ⟨policy, repeated, rfl⟩
      · constructor
        · have held := accounted.holds_extend admitted
          exact ⟨fun _ => .inl admitted.free, fun _ => held⟩
        · intro bound found
          rw [admitted.free] at found
          cases found

theorem accepted_holds_iff_files :
    let reg := Samples.numbered ["FileAsset"] []
    let r := (Samples.lenient.attempt reg).2
    Samples.lenient.added reg = [reg] ∧ (r.attempt reg).1 = .ok () ∧
      ((r.attempt reg).2.catalog.Holds reg.spec ↔
        r.binding? reg.factoryName = none ∨
          ∃ old ∈ Samples.lenient.added reg, old.spec.tag = reg.spec.tag ∧ old.spec.Covers reg.spec) ∧
      ∀ bound, r.binding? reg.factoryName = some bound →
        r.settings.repeats = .ignoreIdentical ∧ repeats bound reg = true ∧
          (r.attempt reg).2 = r := by
  intro reg r
  have grown := Grows.single Samples.lenient reg
  have accepted : (r.attempt reg).1 = .ok () := by decide +kernel
  have logged : Samples.lenient.added reg = [reg] := by
    rcases Samples.fresh_lenient.accountedBy_nil.added_cases reg with ⟨-, nothing⟩ | ⟨-, -, logged⟩
    · have some_added : Samples.lenient.added reg ≠ [] := by decide +kernel
      exact absurd nothing some_added
    · exact logged
  exact ⟨logged, accepted, accepted_holds_iff Samples.fresh_lenient grown accepted⟩

/-- A registration that offers files is accepted as the repeat of one that offers nothing. -/
theorem accepted_repeat_not_held :
    let r := (Samples.lenient.attempt (Samples.numbered [] [])).2
    let reg := Samples.numbered ["FileAsset"] []
    r.factories = ["add_alpha"] ∧ (r.attempt reg).1 = .ok () ∧
      ¬ (r.attempt reg).2.catalog.Holds reg.spec := by
  intro r reg
  have accepted : (r.attempt reg).1 = .ok () := by decide +kernel
  have bare : ((r.attempt reg).2.catalog.factory? reg.factoryName).map
      (fun b => b.methods.names) = some [] := by decide +kernel
  have described : reg.spec.methodNames ≠ [] := by decide +kernel
  refine ⟨by decide +kernel, accepted, fun held => ?_⟩
  obtain ⟨b, found, names, -⟩ := held.binding
  unfold Registration.factoryName at bare
  rw [found] at bare
  exact described (names.symm.trans (Option.some.inj bare))

end Registry

end SourceRegistry
