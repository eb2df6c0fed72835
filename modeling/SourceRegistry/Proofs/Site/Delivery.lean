import SourceRegistry.Proofs.Site.Offers

/-!
What reaches the hosts.  A host is offered nothing but what the call of a factory built, as a handle of
the registered type with the methods that were committed for it.  The datasource behind the handle has
that type and never loses it, as every place of a world keeps the type of what it holds.  A plugin that
registers otherwise than by kinds comes to the same as the registrations that its function makes.
-/

set_option autoImplicit false
set_option relaxedAutoImplicit false

namespace SourceRegistry

variable {σ η : Type}

theorem Facade.world_default [Source σ] [Host η σ] (f : Facade σ) (w : World σ η) :
    (f.default w).2 =
      match f.defaultCall? w with
      | some factory => (factory.call w f.defaultName []).2
      | none => w := by
  unfold Facade.default Facade.defaultCall? Facade.defaultName Facade.defaultFactory
  rcases f.existingDefault w with - | handle | ⟨name, kind⟩ <;>
    rcases resolved : f.resolve (factoryName f.registry.settings.defaultSource.tag) with
      unknown | factory <;> simp only [resolved]
  · rcases factory.call w f.registry.settings.defaultSource.name [] with ⟨cause | handle, w'⟩ <;>
      rfl
  · split <;> rfl

theorem Facade.resolve_of_defaultCall? [Host η σ] {f : Facade σ} {w : World σ η}
    {factory : BoundFactory σ} (called : f.defaultCall? w = some factory) :
    f.resolve f.defaultFactory = .ok factory := by
  unfold defaultCall? at called
  split at called
  · obtain rfl := Option.some.inj called
    assumption
  · cases called

/-- Everything that a host was offered came from a call that is noted, and fits; the places of an
earlier world kept their types. -/
structure Commons.Delivers [Source σ] (earlier : World σ (Watched η)) (c : Commons σ η) : Prop where
  types : earlier.KeepsTypes c.world
  resolved : ∀ f ∈ c.resolved, c.registry.binding? f.name = some f.binding
  called : ∀ call ∈ c.calls,
    c.registry.binding? call.factory.name = some call.factory.binding
  offered : ∀ (context : ContextId) (handle : Handle), c.world.Offered context handle →
    c.world.Fits handle ∧ ∃ call ∈ c.calls, call.factory.context = context ∧ call.Made handle

namespace Commons.Delivers

variable [Source σ] {c : Commons σ η}
  {earlier : World σ (Watched η)} {log : List (Registration σ)}

theorem start (r : Registry σ) : Delivers {} (Commons.start r : Commons σ η) where
  types := .refl _
  resolved := by simp [Commons.start]
  called := by simp [Commons.start]
  offered := by
    rintro context handle ⟨host, here, -⟩
    simp [Commons.start, World.host?] at here

theorem quiet (delivers : c.Delivers earlier) {w : World σ (Watched η)} (quiet : c.world.Quiet w) :
    Delivers earlier { c with world := w } where
  types := delivers.types.trans quiet.types
  resolved := delivers.resolved
  called := delivers.called
  offered context handle offered := by
    obtain ⟨fits, call⟩ := delivers.offered context handle (quiet.offers context handle offered)
    exact ⟨quiet.types.fits fits, call⟩

theorem register (delivers : c.Delivers earlier) {r : Registry σ}
    (grown : Registry.Grows c.registry log r) : Delivers earlier { c with registry := r } where
  types := delivers.types
  resolved f member := grown.binding? (delivers.resolved f member)
  called call member := grown.binding? (delivers.called call member)
  offered := delivers.offered

theorem resolve (delivers : c.Delivers earlier) (accounted : c.registry.AccountedBy log) {f : Facade σ}
    (shared : f.registry = c.registry) (name : String) :
    Delivers earlier { c with resolved := c.resolved ++ (f.resolve name).toOption.toList } where
  types := delivers.types
  resolved factory member := by
    rcases List.mem_append.mp member with before | last
    · exact delivers.resolved factory before
    · have resolved : f.resolve name = .ok factory := by
        cases outcome : f.resolve name with
        | error unknown => simp [outcome, Except.toOption] at last
        | ok found => simpa [outcome, Except.toOption, eq_comm] using last
      have bound := (Facade.resolve_eq_ok_iff.mp resolved).1
      rw [shared] at bound
      show c.registry.binding? factory.binding.name = _
      rwa [accounted.name_of_bound bound]
  called := delivers.called
  offered := delivers.offered

variable [Host η σ]

theorem callFactory (typed : Host.KeepsTypes η σ) (delivers : c.Delivers earlier)
    {factory : BoundFactory σ} (bound : c.registry.binding? factory.name = some factory.binding) (name : String)
    (fields : Fields) : (c.callFactory factory name fields).Delivers earlier where
  types := delivers.types.trans (factory.keepsTypes_call typed.watched c.world name fields)
  resolved := delivers.resolved
  called call member := by
    rcases List.mem_append.mp member with before | last
    · exact delivers.called call before
    · obtain rfl := List.mem_singleton.mp last
      exact bound
  offered context handle offered := by
    have kept := factory.keepsTypes_call typed.watched c.world name fields
    rcases BoundFactory.offered_call typed offered with before | ⟨here, fits, made⟩
    · obtain ⟨fits, call, member, context, made⟩ := delivers.offered context handle before
      exact ⟨kept.fits fits, call, List.mem_append_left _ member, context, made⟩
    · exact ⟨fits, _, List.mem_append_right _ (List.mem_singleton.mpr rfl), here.symm, made⟩

theorem perform (typed : Host.KeepsTypes η σ) (delivers : c.Delivers earlier) (accounted : c.registry.AccountedBy log)
    (move : Move σ η) : (c.perform move).Delivers earlier := by
  cases move with
  | register call => exact delivers.register (Registry.grows_perform c.registry call)
  | newHost host => exact delivers.quiet (World.quiet_addHost c.world host)
  | dropHost context => exact delivers.quiet (World.quiet_dropHost c.world context)
  | makeFacade context => exact ⟨delivers.types, delivers.resolved, delivers.called, delivers.offered⟩
  | resolve facade name =>
      simp only [Commons.perform]
      split
      · rename_i f here
        exact delivers.resolve accounted (Commons.registry_facade? here) name
      · exact delivers
  | call factory name fields =>
      simp only [Commons.perform]
      split
      · rename_i factory here
        exact callFactory typed delivers (delivers.resolved factory (List.mem_of_getElem? here)) name fields
      · exact delivers
  | default facade =>
      simp only [Commons.perform]
      split
      · rename_i f here
        cases called : f.defaultCall? c.world with
        | none =>
            have still : (f.default c.world).2 = c.world := by rw [f.world_default, called]
            simpa [still] using delivers
        | some factory =>
            have bound := (Facade.resolve_eq_ok_iff.mp (Facade.resolve_of_defaultCall? called)).1
            rw [Commons.registry_facade? here] at bound
            have name := accounted.name_of_bound bound
            have world : (f.default c.world).2 = (factory.call c.world f.defaultName []).2 := by
              rw [f.world_default, called]
            rw [world]
            exact callFactory typed delivers (by rwa [← name] at bound) f.defaultName []
      · exact delivers
  | add handle method name fields => exact delivers.quiet ((World.carried_quiet typed).run c.world _ _)
  | read handle method name fields => exact delivers.quiet ((World.carried_quiet typed).run c.world _ _)
  | edit handle type change => exact delivers.quiet (World.quiet_editAs c.world handle type change)
  | attach handle context => exact delivers.quiet (World.quiet_attach c.world handle context)

theorem run (typed : Host.KeepsTypes η σ) (delivers : c.Delivers earlier) (accounted : c.registry.AccountedBy log)
    (moves : List (Move σ η)) : (c.run moves).Delivers earlier := by
  induction moves generalizing c log with
  | nil => exact delivers
  | cons move rest ih =>
      obtain ⟨more, grown⟩ := c.exists_grows_perform move
      exact ih (perform typed delivers accounted move) (accounted.grows grown)

end Commons.Delivers

theorem World.Fits.isOf [Source σ] {w : World σ η} {handle : Handle} (fits : w.Fits handle)
    (type : TypeIdent) : handle.isOf type = (w.viewAs handle type).isSome := by
  obtain ⟨value, there, same⟩ := fits
  have here : w.source? handle.source = some value := there
  have number : (Source.type value).number = handle.type.number := by
    simpa [TypeIdent.same] using same
  unfold Handle.isOf World.viewAs
  rw [here, Option.filter_some]
  by_cases wanted : handle.type.number = type.number <;> simp [TypeIdent.same, number, wanted]

namespace Commons

/-- A handle was made by the call of a factory, and what it says stays true whatever is done. -/
structure Genuine [Source σ] [Host η σ] (c : Commons σ η) (log : List (Registration σ))
    (call : FactoryCall σ) (handle : Handle) : Prop where
  made : call.Made handle
  /-- The factory and its methods were committed with a registration. -/
  committed : ∃ (round : Nat) (reg : Registration σ), log[round]? = some reg ∧
    call.factory.binding = reg.bindingAt c.registry.settings.ephemeralAsset round
  bound : ∀ more : List (Move σ η),
    (c.run more).registry.binding? call.factory.name = some call.factory.binding
  /-- The datasource is of the registered type. -/
  fits : ∀ more : List (Move σ η), (c.run more).world.Fits handle
  views : ∀ (more : List (Move σ η)) (type : TypeIdent),
    handle.isOf type = ((c.run more).world.viewAs handle type).isSome

variable [Source σ] [Host η σ]

/-- Whatever is done over a fresh registry, every handle that a host was offered is the one of what a
factory built at a call for the context of the host.  It has the type and the methods that were
committed with the factory, and its datasource stays of that type, if hosts and functions of users put
none of another type in its place. -/
theorem run_delivers (typed : Host.KeepsTypes η σ) {r : Registry σ} (fresh : r.Fresh) (moves : List (Move σ η)) :
    ∃ log, Registry.Grows r log ((start r).run moves).registry ∧
      ∀ (context : ContextId) (handle : Handle), ((start r).run moves).world.Offered context handle →
        ∃ call ∈ ((start r).run moves).calls, call.factory.context = context ∧
          ((start r).run moves).Genuine log call handle := by
  obtain ⟨log, grown⟩ := (start r : Commons σ η).exists_grows_run moves
  have accounted : ((start r : Commons σ η).run moves).registry.AccountedBy log := by
    simpa using fresh.accountedBy_nil.grows grown
  have delivers : ((start r : Commons σ η).run moves).Delivers {} :=
    Delivers.run typed (Delivers.start r) fresh.accountedBy_nil moves
  refine ⟨log, grown, fun context handle offered => ?_⟩
  obtain ⟨fits, call, member, here, made⟩ := delivers.offered context handle offered
  have bound := delivers.called call member
  have stays : ∀ more, (((start r : Commons σ η).run moves).run more).world.Fits handle := by
    intro more
    -- from here on, so the earlier world is the one of now
    have now : ((start r : Commons σ η).run moves).Delivers ((start r).run moves).world :=
      { delivers with types := .refl _ }
    exact (Delivers.run typed now accounted more).types.fits fits
  refine ⟨call, member, here, made, ?_, fun more => ?_, stays, fun more => (stays more).isOf⟩
  · obtain ⟨round, reg, logged, -, same⟩ := accounted.binding?_eq_some_iff.mp bound
    exact ⟨round, reg, logged, same.symm⟩
  · obtain ⟨later, grown⟩ := ((start r : Commons σ η).run moves).exists_grows_run more
    exact grown.binding? bound

theorem run_delivers_shared :
    let c : Commons Samples.SampleSource Samples.SampleHost :=
      (start Samples.lenient).run Samples.sharedMoves
    Host.KeepsTypes Samples.SampleHost Samples.SampleSource ∧ Samples.lenient.Fresh ∧
      c.calls.map (fun call => (call.factory.name, call.name, call.place)) =
        [("add_pandas", "files", 0), ("add_alpha", "others", 1),
          ("add_pandas", "default_pandas_datasource", 1)] ∧
      (c.world.host? 0).map (fun host => host.received.map fun handle => (handle.name, handle.source)) =
        some [("files", 0), ("default_pandas_datasource", 1)] ∧
      ∃ log, Registry.Grows Samples.lenient log c.registry ∧
        ∀ (context : ContextId) (handle : Handle), c.world.Offered context handle →
          ∃ call ∈ c.calls, call.factory.context = context ∧ c.Genuine log call handle := by
  intro c
  exact ⟨Samples.SampleHost.keepsTypes, Samples.fresh_lenient, by decide +kernel, by decide +kernel,
    run_delivers Samples.SampleHost.keepsTypes Samples.fresh_lenient Samples.sharedMoves⟩

end Commons

end SourceRegistry
