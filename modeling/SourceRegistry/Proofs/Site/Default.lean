import SourceRegistry.Proofs.Site.Keeping
import SourceRegistry.Proofs.Site.Naming

/-!
The default datasource over whole runs.  Once a call for it succeeded, the host holds the handle
under the configured name, the datasource of the handle is at its place, and the factory of the
configured type is bound for the type of the handle.  All that stays so, hence every later call answers
with the same handle and changes nothing.
-/

set_option autoImplicit false
set_option relaxedAutoImplicit false

namespace SourceRegistry

variable {σ η : Type}

namespace Facade

variable {f : Facade σ} {b : Binding σ}

def defaultName (f : Facade σ) : String := f.registry.settings.defaultSource.name

def defaultFactory (f : Facade σ) : String := factoryName f.registry.settings.defaultSource.tag

theorem resolve_of_bound (bound : f.registry.binding? f.defaultFactory = some b) :
    f.resolve (factoryName f.registry.settings.defaultSource.tag) =
      .ok { binding := b, context := f.context } := by
  unfold defaultFactory at bound
  simp [resolve, bound]

theorem resolve_of_unbound (missing : f.registry.binding? f.defaultFactory = none) :
    f.resolve (factoryName f.registry.settings.defaultSource.tag) =
      .error (.among f.defaultFactory f.factories) := by
  unfold defaultFactory at missing ⊢
  simp [resolve, missing]

theorem existingDefault_eq_managed_iff [Host η σ] {w : World σ η} {handle : Handle} :
    f.existingDefault w = some (.managed handle) ↔ w.Holds f.context f.defaultName handle := by
  simp only [existingDefault, Option.bind_eq_some_iff]
  rfl

variable [Source σ] [Host η σ] {w : World σ η} {handle : Handle}

theorem default_of_holds (held : w.Holds f.context f.defaultName handle)
    (bound : f.registry.binding? f.defaultFactory = some b)
    (same : handle.type.same b.type = true) : f.default w = (.ok handle, w) := by
  have existing := existingDefault_eq_managed_iff.mpr held
  unfold Facade.default
  simp [existing, resolve_of_bound bound, BoundFactory.type, same]

theorem default_of_absent_unbound (absent : f.existingDefault w = none)
    (unbound : f.registry.binding? f.defaultFactory = none) :
    f.default w =
      (.error (.create (.unknownFactory (.among f.defaultFactory f.factories))), w) := by
  simp only [Facade.default, absent, resolve_of_unbound unbound]

theorem default_of_absent_bound (absent : f.existingDefault w = none)
    (bound : f.registry.binding? f.defaultFactory = some b) :
    f.default w =
      match BoundFactory.call { binding := b, context := f.context } w f.defaultName [] with
      | (.ok handle, w') => (.ok handle, w')
      | (.error cause, w') => (.error (.create cause), w') := by
  simp only [Facade.default, absent, resolve_of_bound bound]
  rfl

/-- A call for the default datasource is refused, or answers with what the host holds, or calls the
factory. -/
theorem default_cases (f : Facade σ) (w : World σ η) :
    (∃ cause, f.default w = (.error cause, w)) ∨
      (∃ handle b, f.registry.binding? f.defaultFactory = some b ∧
        w.Holds f.context f.defaultName handle ∧ handle.type.same b.type = true ∧
        f.default w = (.ok handle, w)) ∨
      ∃ b, f.registry.binding? f.defaultFactory = some b ∧ f.default w =
        match BoundFactory.call { binding := b, context := f.context } w f.defaultName [] with
        | (.ok handle, w') => (.ok handle, w')
        | (.error cause, w') => (.error (.create cause), w') := by
  rcases existing : f.existingDefault w with _ | handle | ⟨name, kind⟩
  · cases bound : f.registry.binding? f.defaultFactory with
    | none => exact .inl ⟨_, default_of_absent_unbound existing bound⟩
    | some b => exact .inr (.inr ⟨b, rfl, default_of_absent_bound existing bound⟩)
  · cases bound : f.registry.binding? f.defaultFactory with
    | none =>
        exact .inl ⟨_, by
          simp only [Facade.default, existing, resolve_of_unbound bound]
          rfl⟩
    | some b =>
        by_cases same : handle.type.same b.type = true
        · have held := existingDefault_eq_managed_iff.mp existing
          exact .inr (.inl ⟨handle, b, rfl, held, same, default_of_holds held bound same⟩)
        · exact .inl ⟨_, by
            simp only [Facade.default, existing, resolve_of_bound bound, BoundFactory.type, same]
            rfl⟩
  · exact .inl ⟨_, by
      simp only [Facade.default, existing]
      rfl⟩

end Facade

namespace Site

variable [Source σ] [Host η σ] {states : η → Prop} {s : Site σ η} {handle : Handle}

/-- The sites at which the default datasource is asked for in a run, one for each call. -/
def defaultCalls (s : Site σ η) : List (Action σ) → List (Site σ η)
  | [] => []
  | .default :: rest => s :: (s.perform .default).defaultCalls rest
  | action :: rest => (s.perform action).defaultCalls rest

def answer (s : Site σ η) : Except DefaultError Handle := (s.facade.default s.world).1

def Holds (s : Site σ η) (key : String) (handle : Handle) : Prop :=
  s.world.Holds s.facade.context key handle

def HostIn (s : Site σ η) (states : η → Prop) : Prop := s.world.HostIn s.facade.context states

def Adds (s : Site σ η) : Prop :=
  ∃ (key : String) (handle : Handle), ¬ s.Holds key handle ∧ (s.perform .default).Holds key handle

/-- The host holds a handle as the default datasource, of the type that the factory is bound for, and
the datasource is there. -/
structure Settled (s : Site σ η) (handle : Handle) : Prop where
  held : s.Holds s.facade.defaultName handle
  fits : s.world.Fits handle
  bound : ∃ b, s.facade.registry.binding? s.facade.defaultFactory = some b ∧
    handle.type.same b.type = true

/-- Of the calls for the default datasource at most one brings one in.  From the first that succeeds
all succeed, with one handle.  The host holds it under the configured name at the end, and the datasource
is at the place of the handle after each of these calls and at the end. -/
structure Agree (calls : List (Site σ η)) (last : Site σ η) : Prop where
  addsOnce : calls.Pairwise fun earlier later => earlier.Adds → ¬ later.Adds
  answers : ∃ (failed : List DefaultError) (handles : List Handle),
    calls.map answer = failed.map .error ++ handles.map .ok ∧
      (∀ first ∈ handles, ∀ second ∈ handles, first = second) ∧
      ∀ handle ∈ handles, last.Holds last.facade.defaultName handle ∧ last.world.Fits handle
  present : ∀ call ∈ calls, ∀ handle : Handle, call.answer = .ok handle →
    (call.perform .default).world.Fits handle

theorem world_perform (s : Site σ η) (action : Action σ) :
    (s.perform action).world = s.world ∨
      (∃ (β : Type) (place : SourceId) (program : Program β),
        (s.perform action).world = (s.world.run place program).2) ∨
      ∃ (factory : BoundFactory σ) (name : String) (fields : Fields),
        (s.perform action).world = (factory.call s.world name fields).2 := by
  cases action with
  | register call => exact .inl rfl
  | call factory name fields => exact .inr (.inr ⟨factory, name, fields, rfl⟩)
  | add handle method name fields => exact .inr (.inl ⟨_, _, _, rfl⟩)
  | read handle method name fields => exact .inr (.inl ⟨_, _, _, rfl⟩)
  | default =>
      rcases s.facade.default_cases s.world with
        ⟨cause, failed⟩ | ⟨handle, b, -, -, -, answered⟩ | ⟨b, -, called⟩
      · exact .inl (by simp only [perform, failed])
      · exact .inl (by simp only [perform, answered])
      · refine .inr (.inr ⟨{ binding := b, context := s.facade.context }, s.facade.defaultName, [], ?_⟩)
        simp only [perform, called]
        rcases BoundFactory.call { binding := b, context := s.facade.context } s.world
          s.facade.defaultName [] with ⟨cause | handle, w'⟩ <;> rfl

theorem retains_perform (keeping : Host.Keeping σ states) (s : Site σ η) (action : Action σ) :
    World.Retains s.facade.context states s.world (s.perform action).world := by
  rcases s.world_perform action with same | ⟨β, place, program, ran⟩ | ⟨factory, name, fields, called⟩
  · rw [same]
    exact .refl _
  · rw [ran]
    exact keeping.retains_run s.world place program
  · rw [called]
    exact keeping.retains_call factory s.world name fields

theorem keepsTypes_perform (typed : Host.KeepsTypes η σ) (s : Site σ η) (action : Action σ) :
    s.world.KeepsTypes (s.perform action).world := by
  rcases s.world_perform action with same | ⟨β, place, program, ran⟩ | ⟨factory, name, fields, called⟩
  · rw [same]
    exact .refl _
  · rw [ran]
    exact (World.carried_keepsTypes typed).run s.world place program
  · rw [called]
    exact factory.keepsTypes_call typed s.world name fields

theorem backed_perform (typed : Host.KeepsTypes η σ) (owning : Host.Owning η σ)
    (backed : s.world.Backed s.facade.context) (action : Action σ) :
    (s.perform action).world.Backed (s.perform action).facade.context := by
  rw [context_perform]
  rcases s.world_perform action with same | ⟨β, place, program, ran⟩ | ⟨factory, name, fields, called⟩
  · rw [same]
    exact backed
  · rw [ran]
    exact (World.Backed.carried typed owning s.facade.context).run s.world place program backed
  · rw [called]
    exact backed.call typed owning factory name fields

theorem hostIn_perform (keeping : Host.Keeping σ states) (hostIn : s.HostIn states)
    (action : Action σ) : (s.perform action).HostIn states := by
  have kept := (retains_perform keeping s action).hostIn hostIn
  unfold HostIn
  rwa [context_perform]

theorem defaultName_perform (s : Site σ η) (action : Action σ) :
    (s.perform action).facade.defaultName = s.facade.defaultName := by
  unfold Facade.defaultName
  rw [settings_perform]

theorem defaultFactory_perform (s : Site σ η) (action : Action σ) :
    (s.perform action).facade.defaultFactory = s.facade.defaultFactory := by
  unfold Facade.defaultFactory
  rw [settings_perform]

namespace Settled

theorem perform (keeping : Host.Keeping σ states) (typed : Host.KeepsTypes η σ)
    (hostIn : s.HostIn states) (settled : s.Settled handle) (action : Action σ) :
    (s.perform action).Settled handle where
  held := by
    have kept := (retains_perform keeping s action).holds hostIn _ _ settled.held
    unfold Holds
    rwa [context_perform, defaultName_perform]
  fits := (keepsTypes_perform typed s action).fits settled.fits
  bound := by
    obtain ⟨b, bound, same⟩ := settled.bound
    obtain ⟨log, grown⟩ := s.exists_grows_perform action
    rw [defaultFactory_perform]
    exact ⟨b, grown.binding? bound, same⟩

theorem default (settled : s.Settled handle) : s.facade.default s.world = (.ok handle, s.world) := by
  obtain ⟨b, bound, same⟩ := settled.bound
  exact Facade.default_of_holds settled.held bound same

theorem not_adds (settled : s.Settled handle) : ¬ s.Adds := by
  rintro ⟨key, other, absent, present⟩
  unfold Holds at present
  simp only [Site.perform, settled.default] at present
  exact absent present

theorem run (keeping : Host.Keeping σ states) (typed : Host.KeepsTypes η σ)
    (hostIn : s.HostIn states) (settled : s.Settled handle) (actions : List (Action σ)) :
    (s.run actions).Settled handle ∧ ∀ call ∈ s.defaultCalls actions,
      call.answer = .ok handle ∧ ¬ call.Adds ∧ (call.perform .default).world.Fits handle := by
  induction actions generalizing s with
  | nil => exact ⟨settled, by simp [defaultCalls]⟩
  | cons action rest ih =>
      obtain ⟨last, later⟩ := ih (hostIn_perform keeping hostIn action)
        (settled.perform keeping typed hostIn action)
      refine ⟨last, fun call member => ?_⟩
      have cases : call = s ∨ call ∈ (s.perform action).defaultCalls rest := by
        cases action <;> simp_all [defaultCalls]
      rcases cases with rfl | after
      · exact ⟨by simp only [answer, settled.default], settled.not_adds,
          (keepsTypes_perform typed call .default).fits settled.fits⟩
      · exact later call after

end Settled

theorem fits_of_answer_eq_ok (typed : Host.KeepsTypes η σ)
    (backed : s.world.Backed s.facade.context) (answered : s.answer = .ok handle) :
    (s.perform .default).world.Fits handle := by
  unfold answer at answered
  rcases s.facade.default_cases s.world with
    ⟨cause, failed⟩ | ⟨held, b, -, holds, -, found⟩ | ⟨b, -, called⟩
  · rw [failed] at answered
    cases answered
  · rw [found] at answered
    cases answered
    simp only [perform, found]
    exact backed _ _ holds
  · rcases outcome : BoundFactory.call { binding := b, context := s.facade.context } s.world
      s.facade.defaultName [] with ⟨cause | made, w'⟩
    · simp [called, outcome] at answered
    · simp only [called, outcome, Except.ok.injEq] at answered
      subst answered
      have fits := BoundFactory.fits_of_call_eq_ok typed (congrArg Prod.fst outcome)
      simp only [perform, called, outcome]
      rwa [outcome] at fits

theorem settled_of_answer_eq_ok (keeping : Host.Keeping σ states) (typed : Host.KeepsTypes η σ)
    (hostIn : s.HostIn states) (backed : s.world.Backed s.facade.context)
    (named : ∀ b, s.facade.registry.binding? s.facade.defaultFactory = some b →
      b.factory.NamesAsAsked)
    (answered : s.answer = .ok handle) : (s.perform .default).Settled handle := by
  have fits := fits_of_answer_eq_ok typed backed answered
  unfold answer at answered
  rcases s.facade.default_cases s.world with
    ⟨cause, failed⟩ | ⟨held, b, bound, holds, same, found⟩ | ⟨b, bound, called⟩
  · rw [failed] at answered
    cases answered
  · rw [found] at answered
    cases answered
    refine ⟨?_, fits, b, bound, same⟩
    unfold Holds
    simp only [perform, found]
    exact holds
  · rcases outcome : BoundFactory.call { binding := b, context := s.facade.context } s.world
      s.facade.defaultName [] with ⟨cause | made, w'⟩
    · simp [called, outcome] at answered
    · simp only [called, outcome, Except.ok.injEq] at answered
      subst answered
      have here : s.world.HostIn s.facade.context states := hostIn
      obtain ⟨type, holds, built, made, name⟩ :=
        keeping.call_eq_ok (by exact here) (congrArg Prod.fst outcome)
      -- the host has it under its own name, which is the one that was asked for
      rw [name, named b bound s.facade.defaultName [] built .nil (World.yields_of_run_eq_ok made)]
        at holds
      refine ⟨?_, fits, b, bound, by simp [type, BoundFactory.type, TypeIdent.same]⟩
      unfold Holds
      simp only [perform, called, outcome]
      rwa [outcome] at holds

theorem not_adds_of_answer_eq_error (keeping : Host.Keeping σ states) (hostIn : s.HostIn states)
    (alone : ∀ b, s.facade.registry.binding? s.facade.defaultFactory = some b →
      b.factory.BringsNothing η s.facade.context)
    {cause : DefaultError} (failed : s.answer = .error cause) : ¬ s.Adds := by
  rintro ⟨key, other, absent, present⟩
  unfold answer at failed
  unfold Holds at present
  rcases s.facade.default_cases s.world with
    ⟨cause, unchanged⟩ | ⟨held, b, -, -, -, found⟩ | ⟨b, bound, called⟩
  · simp only [perform, unchanged] at present
    exact absent present
  · simp [found] at failed
  · rcases outcome : BoundFactory.call { binding := b, context := s.facade.context } s.world
      s.facade.defaultName [] with ⟨cause | made, w'⟩
    · simp only [perform, called, outcome] at present
      have here : s.world.HostIn s.facade.context states := hostIn
      have brought := keeping.holds_of_call_eq_error (by exact alone b bound) (by exact here)
        (congrArg Prod.fst outcome) (by rw [outcome]; exact present)
      exact absent brought
    · simp [called, outcome] at failed

theorem binding?_run (s : Site σ η) (actions : List (Action σ)) {b : Binding σ}
    (bound : s.facade.registry.binding? s.facade.defaultFactory = some b) :
    (s.run actions).facade.registry.binding? (s.run actions).facade.defaultFactory = some b := by
  obtain ⟨log, grown⟩ := s.exists_grows_run actions
  have factory : (s.run actions).facade.defaultFactory = s.facade.defaultFactory := by
    unfold Facade.defaultFactory
    rw [grown.settings]
  rw [factory]
  exact grown.binding? bound

theorem Agree.nil (last : Site σ η) : Agree [] last where
  addsOnce := .nil
  answers := ⟨[], [], rfl, by simp, by simp⟩
  present := by simp

theorem Agree.cons_error {calls : List (Site σ η)} {last : Site σ η} {cause : DefaultError}
    (failed : s.answer = .error cause) (nothing : ¬ s.Adds) (agree : Agree calls last) :
    Agree (s :: calls) last where
  addsOnce := .cons (fun later _ adds => absurd adds nothing) agree.addsOnce
  answers := by
    obtain ⟨causes, handles, answers, same, held⟩ := agree.answers
    exact ⟨cause :: causes, handles, by simp [failed, answers], same, held⟩
  present call member handle answered := by
    rcases List.mem_cons.mp member with rfl | later
    · rw [failed] at answered
      cases answered
    · exact agree.present call later handle answered

theorem Agree.cons_ok {calls : List (Site σ η)} {last : Site σ η} (answered : s.answer = .ok handle)
    (settled : (s.perform .default).Settled handle)
    (later : ∀ call ∈ calls, call.answer = .ok handle ∧ ¬ call.Adds ∧
      (call.perform .default).world.Fits handle)
    (settledLast : last.Settled handle) : Agree (s :: calls) last where
  addsOnce := by
    have none : calls.Pairwise fun earlier later => earlier.Adds → ¬ later.Adds :=
      List.pairwise_of_forall_mem_list fun call member other _ adds =>
        absurd adds (later call member).2.1
    exact .cons (fun call member _ => (later call member).2.1) none
  answers := by
    have answers : calls.map answer = (calls.map fun _ => handle).map .ok := by
      simp only [List.map_map]
      exact List.map_congr_left fun call member => (later call member).1
    have only : ∀ found ∈ handle :: calls.map fun _ => handle, found = handle := by simp
    refine ⟨[], handle :: calls.map fun _ => handle, by simp [answered, answers], ?_, ?_⟩
    · intro first here second there
      rw [only first here, only second there]
    · intro found member
      rw [only found member]
      exact ⟨settledLast.held, settledLast.fits⟩
  present call member found again := by
    rcases List.mem_cons.mp member with rfl | after
    · obtain rfl := Except.ok.inj (answered.symm.trans again)
      exact settled.fits
    · obtain ⟨same, -, fits⟩ := later call after
      obtain rfl := Except.ok.inj (same.symm.trans again)
      exact fits

/-- Over hosts that keep what they accepted, the calls for the default datasource in a run agree,
whatever else is done between them, if its factory names it as asked and brings nothing else into the
host.  Hosts and functions of users may change datasources as they like, but for their types. -/
theorem defaultCalls_agree (keeping : Host.Keeping σ states) (typed : Host.KeepsTypes η σ)
    (owning : Host.Owning η σ) (hostIn : s.HostIn states)
    (backed : s.world.Backed s.facade.context) (actions : List (Action σ))
    (named : ∀ b, (s.run actions).facade.registry.binding? (s.run actions).facade.defaultFactory =
      some b → b.factory.NamesAsAsked ∧ b.factory.BringsNothing η s.facade.context) :
    Agree (s.defaultCalls actions) (s.run actions) := by
  induction actions generalizing s with
  | nil => exact .nil _
  | cons action rest ih =>
      have inState := hostIn_perform keeping hostIn action
      have later : Agree ((s.perform action).defaultCalls rest) (s.run (action :: rest)) :=
        ih inState (backed_perform typed owning backed action) (by rw [context_perform]; exact named)
      cases action with
      | register call => exact later
      | call factory name fields => exact later
      | add handle method name fields => exact later
      | read handle method name fields => exact later
      | default =>
          have bound : ∀ b, s.facade.registry.binding? s.facade.defaultFactory = some b →
              b.factory.NamesAsAsked ∧ b.factory.BringsNothing η s.facade.context :=
            fun b found => named b (s.binding?_run (.default :: rest) found)
          cases answered : s.answer with
          | error cause =>
              have nothing := not_adds_of_answer_eq_error keeping hostIn
                (fun b found => (bound b found).2) answered
              exact later.cons_error answered nothing
          | ok handle =>
              have settled := settled_of_answer_eq_ok keeping typed hostIn backed
                (fun b found => (bound b found).1) answered
              obtain ⟨last, same⟩ := settled.run keeping typed inState rest
              exact .cons_ok answered settled same last

end Site

namespace Samples

def pandas : SourceKind SampleSource := kindParts[1].kind (firstKind + 1)

def emptySite : Site SampleSource SampleHost :=
  { facade := { registry := .empty, context := 0 }, world := (World.empty.addHost {}).2 }

def resolvedAlpha : BoundFactory SampleSource :=
  { binding := (numbered ["FileAsset"] []).bindingAt "#ephemeral_pandas_asset" 1, context := 0 }

def defaultActions : List (Action SampleSource) :=
  let alpha := numbered ["FileAsset"] []
  let other : Handle :=
    { source := 0
      type := alpha.spec.type
      name := "other"
      methods := resolvedAlpha.binding.methods }
  [.default,
    .register (.registerKind pandas),
    .register (.register alpha.spec alpha.factory),
    .call resolvedAlpha "other" [],
    .default,
    .add other "add_file_asset" "data" [("path", .text "data.csv")],
    .register (.registerKind pandas),
    .read other "read_file" none [("path", .text "more.csv")],
    .default]

end Samples

namespace Site

theorem defaultCalls_agree_pandas :
    let s := Samples.emptySite
    let actions := Samples.defaultActions
    (s.defaultCalls actions).map (fun call => call.answer.isOk) = [false, true, true] ∧
      (s.run actions).world.sources.map (fun source => (source.name, source.shelf.names)) =
        [("other", ["data", "#ephemeral_pandas_asset"]), ("default_pandas_datasource", [])] ∧
      Agree (s.defaultCalls actions) (s.run actions) := by
  intro s actions
  have hostIn : s.HostIn fun host => host.replaces = false := by
    intro host live
    cases live
    rfl
  have backed : s.world.Backed s.facade.context := by
    rintro key handle ⟨host, live, held⟩
    cases live
    cases held
  refine ⟨by decide +kernel, by decide +kernel, defaultCalls_agree Samples.SampleHost.keeping
    Samples.SampleHost.keepsTypes Samples.SampleHost.owning hostIn backed actions
    fun b bound => ?_⟩
  -- the binding of the kind is made by the second action, and stays to the end
  let reg : Registration Samples.SampleSource := Registry.empty.registrationOf Samples.pandas
  let registered := s.run (actions.take 2)
  have added : Registry.empty.added reg ≠ [] := by decide +kernel
  have made : registered.facade.registry.binding? reg.factoryName =
      some (Registry.empty.nextBinding reg) := (Registry.binding?_attempt_of_added added).2.1
  have wanted : registered.facade.defaultFactory = reg.factoryName := by decide +kernel
  rw [← wanted] at made
  have whole : registered.run (actions.drop 2) = s.run actions := by
    unfold registered run
    rw [← List.foldl_append, List.take_append_drop]
  have last := registered.binding?_run (actions.drop 2) made
  rw [whole] at last
  have same : b = Registry.empty.nextBinding reg := Option.some.inj (bound.symm.trans last)
  rw [same]
  exact ⟨(Samples.KindParts.namedByField (by simp [Samples.kindParts]) _).namesAsAsked _,
    Samples.pandas.bringsNothing _ _⟩

end Site

end SourceRegistry
