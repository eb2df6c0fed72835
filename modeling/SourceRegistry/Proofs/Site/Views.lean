import SourceRegistry.Proofs.Site.Commons

/-!
What a façade shows of its registry.  The names that it lists are those that it resolves, in the order
of registration, and a resolved factory is for the type that the registry has under the tag of the
name.  No name is listed twice, as the names of factories all start alike and no member of the façade
does.  A façade shows the registry as it stands, whenever it was made and whatever registered the types,
be it a plugin with a function of its own.
-/

set_option autoImplicit false
set_option relaxedAutoImplicit false

namespace SourceRegistry

variable {σ η : Type}

/-- The views of a façade agree with one another and with the registrations that were committed. -/
structure Facade.ViewsAgree (f : Facade σ) (log : List (Registration σ)) : Prop where
  ordered : f.factories = log.map fun reg => factoryName reg.spec.tag
  resolves_iff : ∀ name : String, (∃ factory, f.resolve name = .ok factory) ↔ name ∈ f.factories
  resolved : ∀ (name : String) (factory : BoundFactory σ), f.resolve name = .ok factory →
    factory.name = name ∧ factory.context = f.context ∧ ∃ tag, name = factoryName tag
  typed : ∀ (tag : String) (factory : BoundFactory σ), f.resolve (factoryName tag) = .ok factory →
    f.registry.catalog.sources.typeOf tag = .ok factory.type
  unknown : ∀ (name : String) (cause : UnknownFactory), f.resolve name = .error cause →
    cause.name = name ∧ cause.known = f.factories
  listed : f.attributes = f.factories ++ Facade.members
  nodup : f.attributes.Nodup

theorem factoryName_not_mem_members (tag : String) : factoryName tag ∉ Facade.members := by
  intro member
  have starts : (factoryName tag).toList.head? = some 'a' := by simp [factoryName, toString]
  have others : ∀ name ∈ Facade.members, name.toList.head? ≠ some 'a' := by decide
  exact others _ member starts

namespace Facade

variable {f : Facade σ} {log : List (Registration σ)} {name tag : String} {factory : BoundFactory σ}

theorem exists_resolve_iff (f : Facade σ) (name : String) :
    (∃ factory, f.resolve name = .ok factory) ↔ name ∈ f.factories := by
  have known : name ∈ f.factories ↔ ∃ b, f.registry.binding? name = some b := by
    rw [← Option.isSome_iff_exists]
    show name ∈ f.registry.catalog.factories.names ↔ (f.registry.catalog.factories.get? name).isSome
    rw [NamedList.mem_names_iff, NamedList.contains_iff_get?]
  rw [known]
  constructor
  · rintro ⟨factory, resolved⟩
    exact ⟨factory.binding, (resolve_eq_ok_iff.mp resolved).1⟩
  · rintro ⟨b, bound⟩
    exact ⟨⟨b, f.context⟩, resolve_eq_ok_iff.mpr ⟨bound, rfl⟩⟩

theorem resolve_eq_error {cause : UnknownFactory} (refused : f.resolve name = .error cause) :
    cause = .among name f.factories := by
  unfold resolve at refused
  split at refused
  · cases refused
  · exact (Except.error.inj refused).symm

theorem exists_registration (accounted : f.registry.AccountedBy log)
    (resolved : f.resolve name = .ok factory) :
    ∃ reg ∈ log, name = reg.factoryName ∧ factory.type = reg.spec.type := by
  have bound := (resolve_eq_ok_iff.mp resolved).1
  obtain ⟨round, reg, here, named, same⟩ := accounted.binding?_eq_some_iff.mp bound
  refine ⟨reg, List.mem_of_getElem? here, named.symm, ?_⟩
  unfold BoundFactory.type
  rw [← same]
  rfl

theorem typeOf_of_resolve (accounted : f.registry.AccountedBy log)
    (resolved : f.resolve (factoryName tag) = .ok factory) :
    f.registry.catalog.sources.typeOf tag = .ok factory.type := by
  obtain ⟨reg, member, named, type⟩ := exists_registration accounted resolved
  have sameTag : tag = reg.spec.tag := factoryName_inj.mp named
  rw [accounted.indexed.typeOf_eq_ok_iff, accounted.sourceEntries, sameTag, type]
  exact List.mem_map.mpr ⟨reg, member, rfl⟩

theorem nodup_attributes (accounted : f.registry.AccountedBy log) : f.attributes.Nodup := by
  have factories : f.factories.Nodup := f.registry.catalog.factories.nodup
  have members : Facade.members.Nodup := by decide
  refine List.nodup_append.mpr ⟨factories, members, ?_⟩
  intro name listed other member equal
  subst equal
  have names : f.factories = log.map Registration.factoryName := accounted.factoryNames
  rw [names] at listed
  obtain ⟨reg, -, rfl⟩ := List.mem_map.mp listed
  exact factoryName_not_mem_members reg.spec.tag member

theorem viewsAgree (accounted : f.registry.AccountedBy log) : f.ViewsAgree log where
  ordered := accounted.factoryNames
  resolves_iff := f.exists_resolve_iff
  resolved name factory resolved := by
    obtain ⟨bound, context⟩ := resolve_eq_ok_iff.mp resolved
    obtain ⟨reg, -, named, -⟩ := exists_registration accounted resolved
    exact ⟨accounted.name_of_bound bound, context, reg.spec.tag, named⟩
  typed tag factory := typeOf_of_resolve accounted
  unknown name cause refused := by
    rw [resolve_eq_error refused]
    exact ⟨rfl, rfl⟩
  listed := rfl
  nodup := nodup_attributes accounted

end Facade

namespace Commons

variable [Source σ] [Host η σ]

theorem contexts_perform (c : Commons σ η) (move : Move σ η) :
    c.contexts <+: (c.perform move).contexts := by
  cases move with
  | makeFacade context => exact List.prefix_append _ _
  | resolve facade name =>
      simp only [perform]
      split <;> exact List.prefix_rfl
  | call factory name fields =>
      simp only [perform]
      split <;> exact List.prefix_rfl
  | default facade =>
      simp only [perform]
      split <;> exact List.prefix_rfl
  | _ => exact List.prefix_rfl

theorem contexts_run (c : Commons σ η) (moves : List (Move σ η)) :
    c.contexts <+: (c.run moves).contexts := by
  induction moves generalizing c with
  | nil => exact List.prefix_rfl
  | cons move rest ih => exact (c.contexts_perform move).trans (ih (c.perform move))

theorem facade?_run {c : Commons σ η} {number : Nat} {f : Facade σ}
    (made : c.facade? number = some f) (more : List (Move σ η)) :
    (c.run more).facade? number = some { f with registry := (c.run more).registry } := by
  unfold facade? at made ⊢
  obtain ⟨context, here, rfl⟩ := Option.map_eq_some_iff.mp made
  obtain ⟨news, longer⟩ := c.contexts_run more
  have inside := (List.getElem?_eq_some_iff.mp here).1
  rw [← longer, List.getElem?_append_left inside, here]
  rfl

/-- Over a fresh registry a façade that was made at some time shows views that agree, and it does so
whatever is registered later. -/
theorem run_viewsAgree {r : Registry σ} (fresh : r.Fresh) (moves more : List (Move σ η)) {number : Nat}
    {f : Facade σ} (made : ((start r).run moves).facade? number = some f) :
    ∃ (later : Facade σ) (log : List (Registration σ)),
      (((start r).run moves).run more).facade? number = some later ∧
        later.registry = (((start r).run moves).run more).registry ∧ later.context = f.context ∧
        Registry.Grows r log later.registry ∧ later.ViewsAgree log := by
  obtain ⟨first, before⟩ := (start r : Commons σ η).exists_grows_run moves
  obtain ⟨second, after⟩ := ((start r : Commons σ η).run moves).exists_grows_run more
  have grown := before.trans after
  have accounted : (((start r : Commons σ η).run moves).run more).registry.AccountedBy
      (first ++ second) := by
    simpa using fresh.accountedBy_nil.grows grown
  exact ⟨_, first ++ second, facade?_run made more, rfl, rfl, grown, Facade.viewsAgree accounted⟩

theorem run_viewsAgree_shared :
    let moves := Samples.sharedMoves.take 2
    let more := Samples.sharedMoves.drop 2
    let f : Facade Samples.SampleSource := { registry := Samples.lenient, context := 0 }
    Samples.lenient.Fresh ∧ f.factories = [] ∧ ((start Samples.lenient).run moves).facade? 0 = some f ∧
      (((start Samples.lenient).run moves).run more).registry.factories =
        ["add_pandas", "add_alpha", "add_csv"] ∧
      ∃ (later : Facade Samples.SampleSource) (log : List (Registration Samples.SampleSource)),
        (((start Samples.lenient).run moves).run more).facade? 0 = some later ∧
          later.registry = (((start Samples.lenient).run moves).run more).registry ∧
          later.context = f.context ∧ Registry.Grows Samples.lenient log later.registry ∧
          later.ViewsAgree log := by
  intro moves more f
  have made : ((start Samples.lenient).run moves).facade? 0 = some f := rfl
  exact ⟨Samples.fresh_lenient, rfl, made, by decide +kernel,
    run_viewsAgree Samples.fresh_lenient moves more made⟩

end Commons

end SourceRegistry
