import SourceRegistry.Proofs.NamedList
import SourceRegistry.Proofs.Registration.Step

/-!
Logs that account for a registry: everything that the registry has committed is what the
registrations of the log commit, in order, on an empty catalog.  The log of a registry that grows by
a registration grows by that registration.
-/

set_option autoImplicit false
set_option relaxedAutoImplicit false

namespace SourceRegistry.Registry

variable {σ : Type}

/-- A registration that can be committed next. -/
structure Admits (r : Registry σ) (reg : Registration σ) : Prop where
  named : reg.spec.tag ≠ ""
  free : r.binding? reg.factoryName = none
  newTag : reg.spec.tag ∉ r.catalog.sources.tags
  newType : reg.spec.type.number ∉ r.catalog.sources.numbers
  tagged : reg.spec.Tagged
  indexed : (TagTable.ofEntries reg.spec.assetEntries).Indexed

/-- What a registry has committed is what the registrations of a log committed, in order. -/
structure AccountedBy (r : Registry σ) (log : List (Registration σ)) : Prop where
  sources : r.catalog.sources = TagTable.ofEntries (log.map Registration.entry)
  indexed : r.catalog.sources.Indexed
  assets : ∀ type : TypeIdent, r.catalog.assetsOf? type =
    (log.find? fun reg => reg.spec.type.same type).map fun reg =>
      TagTable.ofEntries reg.spec.assetEntries
  valid : ∀ reg ∈ log, reg.spec.tag ≠ "" ∧ reg.spec.Tagged ∧
    (TagTable.ofEntries reg.spec.assetEntries).Indexed
  factories : r.catalog.factories.entries =
    log.mapIdx fun round reg => (reg.factoryName, reg.bindingAt r.settings.ephemeralAsset round)

namespace AccountedBy

variable {r r' : Registry σ} {log : List (Registration σ)} {reg : Registration σ}

theorem sourceEntries (accounted : r.AccountedBy log) :
    r.catalog.sources.entries = log.map Registration.entry := by
  rw [accounted.sources, TagTable.entries_ofEntries]

theorem sourceTags (accounted : r.AccountedBy log) :
    r.catalog.sources.tags = log.map (·.spec.tag) := by
  simp [TagTable.tags, accounted.sourceEntries, Registration.entry]

theorem sourceNumbers (accounted : r.AccountedBy log) :
    r.catalog.sources.numbers = log.map (·.spec.type.number) := by
  simp [TagTable.numbers, accounted.sourceEntries, Registration.entry]

theorem factoryNames (accounted : r.AccountedBy log) :
    r.factories = log.map Registration.factoryName := by
  unfold Registry.factories Catalog.factoryNames NamedList.names
  rw [accounted.factories]
  apply List.ext_getElem?
  intro place
  simp [Function.comp_def]

theorem round (accounted : r.AccountedBy log) : r.round = log.length := by
  simp [Registry.round, NamedList.size, accounted.factories]

theorem binding?_eq_some_iff (accounted : r.AccountedBy log) {name : String} {b : Binding σ} :
    r.binding? name = some b ↔ ∃ (round : Nat) (reg : Registration σ), log[round]? = some reg ∧
      reg.factoryName = name ∧ reg.bindingAt r.settings.ephemeralAsset round = b := by
  unfold Registry.binding? Catalog.factory?
  rw [NamedList.get?_eq_some_iff, accounted.factories, List.mem_iff_getElem?]
  simp only [List.getElem?_mapIdx, Option.map_eq_some_iff, Prod.mk.injEq]

theorem name_of_bound (accounted : r.AccountedBy log) {name : String} {b : Binding σ}
    (found : r.binding? name = some b) : b.name = name := by
  obtain ⟨round, reg, -, named, rfl⟩ := accounted.binding?_eq_some_iff.mp found
  exact named

theorem assetsOf?_eq_none_iff (accounted : r.AccountedBy log) {type : TypeIdent} :
    r.catalog.assetsOf? type = none ↔ type.number ∉ log.map (·.spec.type.number) := by
  rw [accounted.assets type]
  simp [TypeIdent.same]

theorem assetsOf?_of_newType (accounted : r.AccountedBy log) {type : TypeIdent}
    (newType : type.number ∉ r.catalog.sources.numbers) : r.catalog.assetsOf? type = none := by
  rw [accounted.sourceNumbers] at newType
  exact accounted.assetsOf?_eq_none_iff.mpr newType

/-- A registration that is accepted repeats one that is committed, and then nothing changes, or it
could be committed, and then it was. -/
theorem register_cases (accounted : r.AccountedBy log) (accepted : r.register reg = .ok r') :
    (∃ bound, r.binding? reg.factoryName = some bound ∧
        r.settings.repeats = .ignoreIdentical ∧ repeats bound reg = true ∧ r' = r) ∨
      (r.Admits reg ∧ r' = r.extend reg) := by
  cases found : r.binding? reg.factoryName with
  | some bound =>
      obtain ⟨-, policy, same, unchanged⟩ := (register_of_bound found).mp accepted
      exact .inl ⟨bound, rfl, policy, same, unchanged⟩
  | none =>
      obtain ⟨named, catalog, committed, rfl⟩ := (register_of_free found).mp accepted
      obtain ⟨tagged, assetsIndexed, vacant, rfl⟩ := commit_eq_ok committed
      obtain ⟨newTag, newType⟩ := accounted.indexed.checkVacant_eq_ok_iff.mp vacant
      -- no log entry has the type, so its assets are staged over an empty table
      have noAssets := accounted.assetsOf?_of_newType newType
      refine .inr ⟨⟨named, found, newTag, newType, tagged, assetsIndexed⟩, ?_⟩
      simp only [extend, noAssets, Option.getD_none, TagTable.Draft.commit_of_base_empty]

theorem extend (accounted : r.AccountedBy log) (admitted : r.Admits reg) :
    (r.extend reg).AccountedBy (log ++ [reg]) where
  sources := by
    simp only [Registry.extend, accounted.sources, List.map_append, List.map_cons, List.map_nil]
    exact (TagTable.ofEntries_concat _ _ _).symm
  indexed := accounted.indexed.append admitted.newTag admitted.newType
  assets type := by
    have stored : (r.extend reg).catalog.assetsOf? type =
        if reg.spec.type.number = type.number then
          some (TagTable.ofEntries reg.spec.assetEntries)
        else r.catalog.assetsOf? type := by
      simp [Registry.extend, Catalog.assetsOf?, Std.TreeMap.getElem?_insert]
    rw [stored, List.find?_append, accounted.assets type]
    by_cases same : reg.spec.type.number = type.number
    · have absent : log.find? (fun other => other.spec.type.same type) = none := by
        have unlisted := admitted.newType
        rw [accounted.sourceNumbers, same] at unlisted
        simpa [TypeIdent.same] using unlisted
      rw [absent]
      simp [TypeIdent.same, same]
    · simp [TypeIdent.same, same]
  valid other member := by
    rcases List.mem_append.mp member with earlier | last
    · exact accounted.valid other earlier
    · obtain rfl := List.mem_singleton.mp last
      exact ⟨admitted.named, admitted.tagged, admitted.indexed⟩
  factories := by
    have fresh : reg.factoryName ∉ r.catalog.factories.names :=
      NamedList.get?_eq_none_iff.mp admitted.free
    simp only [Registry.extend]
    rw [NamedList.entries_put_of_not_mem fresh, accounted.factories, List.mapIdx_concat,
      nextBinding, accounted.round]

theorem added_cases (accounted : r.AccountedBy log) (reg : Registration σ) :
    ((r.attempt reg).2 = r ∧ r.added reg = []) ∨
      (r.Admits reg ∧ r.attempt reg = (.ok (), r.extend reg) ∧ r.added reg = [reg]) := by
  cases outcome : r.register reg with
  | error cause => exact .inl ⟨by simp [attempt, outcome], by simp [added, outcome]⟩
  | ok r' =>
      rcases accounted.register_cases outcome with ⟨-, -, -, -, rfl⟩ | ⟨admitted, rfl⟩
      · exact .inl ⟨by simp [attempt, outcome], by simp [added, outcome]⟩
      · have grown : (r.extend reg).factories ≠ r.factories := by
          rw [(accounted.extend admitted).factoryNames, accounted.factoryNames]
          simp
        exact .inr ⟨admitted, attempt_eq_of_ok outcome, by simp [added, outcome, grown]⟩

theorem attempt (accounted : r.AccountedBy log) (reg : Registration σ) :
    (r.attempt reg).2.AccountedBy (log ++ r.added reg) := by
  rcases accounted.added_cases reg with ⟨unchanged, nothing⟩ | ⟨admitted, tried, logged⟩
  · rw [unchanged, nothing, List.append_nil]
    exact accounted
  · rw [tried, logged]
    exact accounted.extend admitted

end AccountedBy

end SourceRegistry.Registry
