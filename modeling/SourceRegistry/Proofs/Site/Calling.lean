import SourceRegistry.Proofs.Site.Commons

/-!
Calls of factories.  A call runs the function behind the factory, checks the type of what that built,
gives it a reference to the context and hands it to the host, which sees it among all datasources.  The
call succeeds exactly when the function builds a datasource of the type that it was registered for and
the host accepts it; what the datasource answers to the reference does not matter.  The host is asked once
at most, and only about what is returned then.
-/

set_option autoImplicit false
set_option relaxedAutoImplicit false

namespace SourceRegistry

variable {σ η : Type}

def World.watched (w : World σ η) : World σ (Watched η) :=
  { sources := w.sources, hosts := w.hosts.map (Option.map fun host => { host }) }

namespace Host

def RefusesUnchanged (σ : Type) {η : Type} [Host η σ] (host : η) : Prop :=
  ∀ (sources : List σ) (handle : Handle) (cause : HostError),
    (Host.attach host sources handle).1 = .error cause →
      (Host.attach host sources handle).2.1 = host

/-- What a host accepts it keeps under its name, beside what it kept under other names.  Whether it
accepts a taken name is its own affair. -/
def Registers (σ : Type) {η : Type} [Host η σ] (host : η) : Prop :=
  ∀ (sources : List σ) (handle : Handle), (Host.attach host sources handle).1 = .ok () →
    Host.datasources σ (Host.attach host sources handle).2.1 =
      (Host.datasources σ host).put handle.name (.managed handle)

/-- Hosts that are offered a datasource do not tell it from one that is like it. -/
def Confuses (η : Type) {σ : Type} [Host η σ] (alike : σ → σ → Prop) : Prop :=
  ∀ (host : η) (sources : List σ) (first second : σ) (handle : Handle), alike first second →
    (Host.attach host (sources ++ [first]) handle).1 =
        (Host.attach host (sources ++ [second]) handle).1 ∧
      (Host.attach host (sources ++ [first]) handle).2.1 =
        (Host.attach host (sources ++ [second]) handle).2.1

end Host

/-- Another way in which datasources may take references to their contexts. -/
structure Slots (σ : Type) [Source σ] where
  attach : σ → ContextId → Except SlotError Unit × σ
  type_attach : ∀ (s : σ) (context : ContextId), Source.type (attach s context).2 = Source.type s

abbrev Slots.source [source : Source σ] (slots : Slots σ) : Source σ :=
  { source with attach := slots.attach, type_attach := slots.type_attach }

namespace BoundFactory

section Terms

variable [Source σ]

/-- The datasources that the host is shown: those that were there, and the new one at the end. -/
def shown (f : BoundFactory σ) (w : World σ η) (built : σ) : List σ :=
  w.sources ++ [(Source.attach built f.context).2]

variable [Host η σ]

def left (f : BoundFactory σ) (w : World σ η) (name : String) (fields : Fields) : World σ η :=
  (f.build w name fields).2

def asks (f : BoundFactory σ) (w : World σ η) (host : η) (built : σ) :
    Except HostError Unit × η × List σ :=
  Host.attach host (f.shown w built) (f.handleOf built w.sources.length)

structure Makes (f : BoundFactory σ) (w : World σ η) (name : String) (fields : Fields) (built : σ) :
    Prop where
  made : (f.build w name fields).1 = .ok built
  fits : (Source.type built).same f.type = true

/-- What a call of a factory promises to its caller and to the host of its context, as the function
behind the factory left that. -/
structure Contract (f : BoundFactory σ) (w : World σ η) (host : η) (name : String)
    (fields : Fields) : Prop where
  ok_iff : ∀ handle : Handle, (f.call w name fields).1 = .ok handle ↔
    ∃ built, f.Makes w name fields built ∧
      (f.asks (f.left w name fields) host built).1 = .ok () ∧
      handle = f.handleOf built (f.left w name fields).sources.length
  fails : ∀ cause : CallError, (f.build w name fields).1 = .error cause →
    f.call w name fields = (.error cause, f.left w name fields)
  otherType : ∀ built : σ, (f.build w name fields).1 = .ok built →
    (Source.type built).same f.type = false →
      f.call w name fields = (.error (.wrongType f.type), f.left w name fields)
  refused : ∀ (built : σ) (cause : HostError), f.Makes w name fields built →
    (f.asks (f.left w name fields) host built).1 = .error cause →
      (f.call w name fields).1 = .error (.host cause)
  /-- The host is shown the built datasource at the place of the handle.  There it stays, unless the
  host changes it. -/
  behind : ∀ (built : σ) (handle : Handle), f.Makes w name fields built →
    (f.call w name fields).1 = .ok handle →
      (f.shown (f.left w name fields) built)[handle.source]? =
          some (Source.attach built f.context).2 ∧
        (f.call w name fields).2.sources = (f.asks (f.left w name fields) host built).2.2 ∧
        ((f.asks (f.left w name fields) host built).2.2 = f.shown (f.left w name fields) built →
          (f.call w name fields).2.source? handle.source =
            some (Source.attach built f.context).2)
  /-- Whatever a datasource answers to the reference, nothing else comes of it. -/
  answered : ∀ slots : Slots σ, (∀ built, (f.build w name fields).1 = .ok built →
      (slots.attach built f.context).2 = (Source.attach built f.context).2) →
    @call σ η slots.source _ f w name fields = f.call w name fields
  /-- Whether it keeps the reference or not does not matter to a host that does not look there. -/
  slot : ∀ (slots : Slots σ) (alike : σ → σ → Prop), Host.Confuses η alike →
    (∀ built, (f.build w name fields).1 = .ok built →
      Source.name (slots.attach built f.context).2 = Source.name (Source.attach built f.context).2 ∧
        alike (slots.attach built f.context).2 (Source.attach built f.context).2) →
    (@call σ η slots.source _ f w name fields).1 = (f.call w name fields).1 ∧
      (@call σ η slots.source _ f w name fields).2.hosts = (f.call w name fields).2.hosts
  /-- The host is asked about what the factory makes, once, and about nothing else. -/
  asked : ∃ (host' : η) (asked : List Handle), asked.length ≤ 1 ∧
    (∀ handle : Handle, handle ∈ asked ↔ ∃ built, f.Makes w name fields built ∧
      handle = f.handleOf built (f.left w name fields).sources.length) ∧
    (f.call w name fields).2.host? f.context = some host' ∧
    (f.call w.watched name fields).2.host? f.context = some { host := host', received := asked } ∧
    (f.call w.watched name fields).1 = (f.call w name fields).1
  elsewhere : ∀ place ≠ f.context,
    (f.call w.watched name fields).2.host? place = (f.left w name fields).watched.host? place
  error : Host.RefusesUnchanged σ host → ∀ cause : CallError,
    (f.call w name fields).1 = .error cause →
      (f.call w name fields).2.hosts = (f.left w name fields).hosts
  /-- An entry for the returned handle comes in, under the name of what was built. -/
  ok : Host.Registers σ host → ∀ handle : Handle, (f.call w name fields).1 = .ok handle →
    ∃ (built : σ) (host' : η), f.Makes w name fields built ∧
      handle.name = Source.name (Source.attach built f.context).2 ∧
      (f.call w name fields).2.host? f.context = some host' ∧
      Host.datasources σ host' =
        (Host.datasources σ host).put handle.name (.managed handle) ∧
      (handle.name ∉ (Host.datasources σ host).names →
        (Host.datasources σ host').entries =
          (Host.datasources σ host).entries ++ [(handle.name, .managed handle)])

end Terms

end BoundFactory

namespace World

theorem host?_watched (w : World σ η) (context : ContextId) :
    w.watched.host? context = (w.host? context).map fun host => { host } := by
  simp only [host?, watched, List.getElem?_map]
  rcases w.hosts[context]? with _ | _ | host <;> rfl

theorem host?_watched_of_live {w : World σ η} {context : ContextId} {host : η}
    (live : w.host? context = some host) : w.watched.host? context = some { host } := by
  rw [host?_watched, live]
  rfl

theorem watched_setHost (w : World σ η) (context : ContextId) (host : η) :
    (w.setHost context host).watched = w.watched.setHost context { host } := by
  simp [watched, setHost, List.map_set]

theorem letHost_watched {α : Type} (w : World σ η) (context : ContextId)
    {work : η → List σ → α × η × List σ} {seen : Watched η → List σ → α × Watched η × List σ}
    (same : ∀ (host : η) (sources : List σ), seen { host } sources =
      ((work host sources).1, { host := (work host sources).2.1 }, (work host sources).2.2)) :
    w.watched.letHost context seen =
      ((w.letHost context work).1, (w.letHost context work).2.watched) := by
  cases live : w.host? context with
  | none =>
      have watching : w.watched.host? context = none := by rw [host?_watched, live]; rfl
      rw [letHost_of_dead live, letHost_of_dead watching]
  | some host =>
      rw [letHost_of_live live, letHost_of_live (host?_watched_of_live live), watched_setHost]
      have there : w.watched.sources = w.sources := rfl
      rw [there, same]
      rfl

variable [Source σ]

theorem addAsset_watched (w : World σ η) (source : SourceId) (asset : Asset) :
    w.watched.addAsset source asset =
      ((w.addAsset source asset).1, (w.addAsset source asset).2.watched) := by
  have there : w.watched.source? source = w.source? source := rfl
  unfold addAsset
  rw [there]
  cases w.source? source <;> rfl

theorem contextOf_watched (w : World σ η) (source : SourceId) :
    w.watched.contextOf source = w.contextOf source := by
  unfold contextOf
  simp only [host?_watched, Option.isSome_map]
  rfl

variable [Host η σ]

theorem ask_watched (w : World σ η) (source : SourceId) (request : Request) :
    w.watched.ask source request = ((w.ask source request).1, (w.ask source request).2.watched) := by
  unfold ask
  rw [contextOf_watched]
  cases w.contextOf source with
  | none => rfl
  | some context => exact w.letHost_watched context fun _ _ => rfl

theorem run_watched {β : Type} (w : World σ η) (source : SourceId) (program : Program β) :
    w.watched.run source program =
      ((w.run source program).1, (w.run source program).2.watched) := by
  induction program generalizing w with
  | done outcome => rfl
  | addAsset asset next ih =>
      simp only [run]
      rw [addAsset_watched]
      exact ih _ _
  | ask request next ih =>
      simp only [run]
      rw [ask_watched]
      exact ih _ _
  | act context message next ih =>
      have acted : w.watched.act context source message =
          ((w.act context source message).1, (w.act context source message).2.watched) :=
        w.letHost_watched context fun _ _ => rfl
      simp only [run]
      rw [acted]
      exact ih _ _

end World

namespace BoundFactory

variable [source : Source σ] [Host η σ] {f : BoundFactory σ} {w : World σ η} {name : String}
  {fields : Fields} {built : σ}

theorem build_watched (f : BoundFactory σ) (w : World σ η) (name : String) (fields : Fields) :
    f.build w.watched name fields =
      ((f.build w name fields).1, (f.left w name fields).watched) := w.run_watched _ _

theorem Makes.unique {other : σ} (makes : f.Makes w name fields built)
    (again : f.Makes w name fields other) : other = built :=
  Except.ok.inj (again.made.symm.trans makes.made)

theorem Makes.exists_iff {p : σ → Prop} (makes : f.Makes w name fields built) :
    (∃ other, f.Makes w name fields other ∧ p other) ↔ p built := by
  constructor
  · rintro ⟨other, again, holds⟩
    exact makes.unique again ▸ holds
  · exact fun holds => ⟨built, makes, holds⟩

theorem Makes.watched (makes : f.Makes w name fields built) :
    f.Makes w.watched name fields built where
  made := by rw [build_watched]; exact makes.made
  fits := makes.fits

theorem build_eq_left {outcome : Except CallError σ} (made : (f.build w name fields).1 = outcome) :
    f.build w name fields = (outcome, f.left w name fields) := by
  rw [← made]
  rfl

theorem build_cases (f : BoundFactory σ) (w : World σ η) (name : String) (fields : Fields) :
    (∃ cause, (f.build w name fields).1 = .error cause) ∨
      (∃ built, (f.build w name fields).1 = .ok built ∧ (Source.type built).same f.type = false) ∨
      ∃ built, f.Makes w name fields built := by
  cases outcome : (f.build w name fields).1 with
  | error cause => exact .inl ⟨cause, rfl⟩
  | ok built =>
      cases fits : (Source.type built).same f.type with
      | false => exact .inr (.inl ⟨built, rfl, fits⟩)
      | true => exact .inr (.inr ⟨built, outcome, fits⟩)

/-- The host is asked once, about the handle of what was built, and its answer decides. -/
theorem call_of_makes {host : η} (live : (f.left w name fields).host? f.context = some host)
    (makes : f.Makes w name fields built) :
    f.call w name fields =
      (((f.asks (f.left w name fields) host built).1.mapError .host).map
          fun _ => f.handleOf built (f.left w name fields).sources.length,
        { f.left w name fields with
            sources := (f.asks (f.left w name fields) host built).2.2 }.setHost f.context
          (f.asks (f.left w name fields) host built).2.1) := by
  have there : (f.bring (f.left w name fields) built).host? f.context = some host := live
  rw [call_of_fits (build_eq_left makes.made) makes.fits]
  unfold present
  rw [World.offer_of_live there]
  rfl

theorem exists_error_of_not_makes (nothing : ¬ ∃ built, f.Makes w name fields built) :
    ∃ cause, f.call w name fields = (.error cause, f.left w name fields) ∧
      f.call w.watched name fields = (.error cause, (f.left w name fields).watched) := by
  have watching := f.build_watched w name fields
  rcases f.build_cases w name fields with ⟨cause, fails⟩ | ⟨built, made, differs⟩ | makes
  · rw [fails] at watching
    exact ⟨cause, call_of_fails (build_eq_left fails), call_of_fails watching⟩
  · rw [made] at watching
    exact ⟨_, call_of_otherType (build_eq_left made) differs, call_of_otherType watching differs⟩
  · exact absurd makes nothing

section Slots

variable (slots : Slots σ)

theorem run_slots {β : Type} (w : World σ η) (place : SourceId) (program : Program β) :
    @World.run σ η β slots.source _ w place program = w.run place program := by
  -- by induction on the steps: none of them looks at a slot
  induction program generalizing w with
  | done outcome => rfl
  | addAsset asset next ih => exact ih _ _
  | ask request next ih => exact ih _ _
  | act context message next ih => exact ih _ _

theorem build_slots (f : BoundFactory σ) (w : World σ η) (name : String) (fields : Fields) :
    @build σ η slots.source _ f w name fields = f.build w name fields := run_slots slots w _ _

theorem handleOf_slots (named : Source.name (slots.attach built f.context).2 =
      Source.name (Source.attach built f.context).2) (place : SourceId) :
    @handleOf σ slots.source f built place = f.handleOf built place :=
  congrArg (fun name => ({ source := place, type := f.type, name, methods := f.binding.methods } :
    Handle)) named

variable {slots}

theorem call_slots_of_not_makes (nothing : ¬ ∃ built, f.Makes w name fields built) :
    @call σ η slots.source _ f w name fields = f.call w name fields := by
  have same := build_slots slots f w name fields
  rcases f.build_cases w name fields with ⟨cause, fails⟩ | ⟨built, made, differs⟩ | makes
  · have ended := build_eq_left fails
    rw [call_of_fails ended]
    exact @call_of_fails σ η slots.source _ f w name fields cause _ (same.trans ended)
  · have ended := build_eq_left made
    rw [call_of_otherType ended differs]
    exact @call_of_otherType σ η slots.source _ f w name fields built _ (same.trans ended) differs
  · exact absurd makes nothing

theorem call_slots_of_makes {host : η} (live : (f.left w name fields).host? f.context = some host)
    (makes : f.Makes w name fields built)
    (named : Source.name (slots.attach built f.context).2 =
      Source.name (Source.attach built f.context).2) :
    let answered := Host.attach host
      ((f.left w name fields).sources ++ [(slots.attach built f.context).2])
      (f.handleOf built (f.left w name fields).sources.length)
    @call σ η slots.source _ f w name fields =
      ((answered.1.mapError .host).map
          fun _ => f.handleOf built (f.left w name fields).sources.length,
        { f.left w name fields with sources := answered.2.2 }.setHost f.context answered.2.1) := by
  have same : @left σ η slots.source _ f w name fields = f.left w name fields :=
    congrArg Prod.snd (build_slots slots f w name fields)
  have made : (@build σ η slots.source _ f w name fields).1 = .ok built := by
    rw [build_slots]
    exact makes.made
  have called := @call_of_makes σ η slots.source _ f w name fields built host (by rw [same]; exact live)
    (@Makes.mk σ η slots.source _ f w name fields built made makes.fits)
  rw [same] at called
  unfold asks at called
  rw [handleOf_slots slots named] at called
  exact called

theorem call_slots_of_eq {host : η} (live : (f.left w name fields).host? f.context = some host)
    (same : ∀ built, (f.build w name fields).1 = .ok built →
      (slots.attach built f.context).2 = (Source.attach built f.context).2) :
    @call σ η slots.source _ f w name fields = f.call w name fields := by
  by_cases makes : ∃ built, f.Makes w name fields built
  · obtain ⟨built, makes⟩ := makes
    have equal := same built makes.made
    have called := call_slots_of_makes live makes (congrArg Source.name equal)
    rw [equal] at called
    rw [called, call_of_makes live makes]
    rfl
  · exact call_slots_of_not_makes makes

theorem call_slots_of_alike {host : η} {alike : σ → σ → Prop} (confused : Host.Confuses η alike)
    (live : (f.left w name fields).host? f.context = some host)
    (same : ∀ built, (f.build w name fields).1 = .ok built →
      Source.name (slots.attach built f.context).2 = Source.name (Source.attach built f.context).2 ∧
        alike (slots.attach built f.context).2 (Source.attach built f.context).2) :
    (@call σ η slots.source _ f w name fields).1 = (f.call w name fields).1 ∧
      (@call σ η slots.source _ f w name fields).2.hosts = (f.call w name fields).2.hosts := by
  by_cases makes : ∃ built, f.Makes w name fields built
  · obtain ⟨built, makes⟩ := makes
    obtain ⟨named, alike⟩ := same built makes.made
    obtain ⟨answer, kept⟩ := confused host (f.left w name fields).sources _ _
      (f.handleOf built (f.left w name fields).sources.length) alike
    rw [call_slots_of_makes live makes named, call_of_makes live makes]
    constructor
    · simp only [asks, shown, answer]
    · simp only [asks, shown, World.setHost, kept]
  · rw [call_slots_of_not_makes makes]
    exact ⟨rfl, rfl⟩

end Slots

variable {host : η}

theorem call_eq_ok_iff (live : (f.left w name fields).host? f.context = some host) (handle : Handle) :
    (f.call w name fields).1 = .ok handle ↔
      ∃ built, f.Makes w name fields built ∧
        (f.asks (f.left w name fields) host built).1 = .ok () ∧
        handle = f.handleOf built (f.left w name fields).sources.length := by
  by_cases makes : ∃ built, f.Makes w name fields built
  · obtain ⟨built, makes⟩ := makes
    rw [call_of_makes live makes, makes.exists_iff]
    cases (f.asks (f.left w name fields) host built).1 with
    | error cause => exact iff_of_false nofun fun accepted => nomatch accepted.1
    | ok done =>
        constructor
        · exact fun returned => ⟨rfl, (Except.ok.inj returned).symm⟩
        · rintro ⟨-, rfl⟩
          rfl
  · obtain ⟨cause, ended, -⟩ := exists_error_of_not_makes makes
    rw [ended]
    refine iff_of_false nofun ?_
    rintro ⟨built, made, -⟩
    exact makes ⟨built, made⟩

theorem behind_of_call_eq_ok (live : (f.left w name fields).host? f.context = some host)
    {handle : Handle} (makes : f.Makes w name fields built)
    (returned : (f.call w name fields).1 = .ok handle) :
    (f.shown (f.left w name fields) built)[handle.source]? =
        some (Source.attach built f.context).2 ∧
      (f.call w name fields).2.sources = (f.asks (f.left w name fields) host built).2.2 ∧
      ((f.asks (f.left w name fields) host built).2.2 = f.shown (f.left w name fields) built →
        (f.call w name fields).2.source? handle.source = some (Source.attach built f.context).2) := by
  obtain ⟨other, again, -, rfl⟩ := (call_eq_ok_iff live handle).mp returned
  have last : (f.shown (f.left w name fields) built)[(f.left w name fields).sources.length]? =
      some (Source.attach built f.context).2 := List.getElem?_concat_length
  have sources : (f.call w name fields).2.sources =
      (f.asks (f.left w name fields) host built).2.2 := by
    rw [call_of_makes live makes]
    rfl
  refine ⟨last, sources, fun untouched => ?_⟩
  unfold World.source?
  rw [sources, untouched]
  exact last

theorem host?_call_of_makes (live : (f.left w name fields).host? f.context = some host)
    (makes : f.Makes w name fields built) (place : ContextId) :
    (f.call w name fields).2.host? place =
      if f.context = place then some (f.asks (f.left w name fields) host built).2.1
      else (f.left w name fields).host? place := by
  have there : World.host? { f.left w name fields with
      sources := (f.asks (f.left w name fields) host built).2.2 } f.context = some host := live
  rw [call_of_makes live makes, World.host?_setHost_of_live there]
  rfl

theorem left_watched (f : BoundFactory σ) (w : World σ η) (name : String) (fields : Fields) :
    f.left w.watched name fields = (f.left w name fields).watched := by
  unfold left
  rw [build_watched]
  rfl

theorem host?_left_watched (live : (f.left w name fields).host? f.context = some host) :
    (f.left w.watched name fields).host? f.context = some { host } := by
  rw [left_watched]
  exact World.host?_watched_of_live live

theorem asked_call (live : (f.left w name fields).host? f.context = some host) :
    ∃ (host' : η) (asked : List Handle), asked.length ≤ 1 ∧
      (∀ handle : Handle, handle ∈ asked ↔ ∃ built, f.Makes w name fields built ∧
        handle = f.handleOf built (f.left w name fields).sources.length) ∧
      (f.call w name fields).2.host? f.context = some host' ∧
      (f.call w.watched name fields).2.host? f.context =
        some { host := host', received := asked } ∧
      (f.call w.watched name fields).1 = (f.call w name fields).1 := by
  have watching := host?_left_watched live
  by_cases makes : ∃ built, f.Makes w name fields built
  · obtain ⟨built, makes⟩ := makes
    let handle := f.handleOf built (f.left w name fields).sources.length
    have only (other : Handle) : other ∈ [handle] ↔ ∃ built, f.Makes w name fields built ∧
        other = f.handleOf built (f.left w name fields).sources.length := by
      rw [List.mem_singleton, makes.exists_iff]
    have seen : f.asks (f.left w.watched name fields) { host } built =
        ((f.asks (f.left w name fields) host built).1,
          { host := (f.asks (f.left w name fields) host built).2.1, received := [handle] },
          (f.asks (f.left w name fields) host built).2.2) := by
      rw [left_watched]
      rfl
    refine ⟨(f.asks (f.left w name fields) host built).2.1, [handle], by simp, only, ?_, ?_, ?_⟩
    · rw [host?_call_of_makes live makes, if_pos rfl]
    · rw [host?_call_of_makes watching makes.watched, if_pos rfl, seen]
    · rw [call_of_makes live makes, call_of_makes watching makes.watched, seen, left_watched]
      rfl
  · obtain ⟨cause, ended, watched⟩ := exists_error_of_not_makes makes
    have nothing (handle : Handle) : handle ∈ ([] : List Handle) ↔
        ∃ built, f.Makes w name fields built ∧
          handle = f.handleOf built (f.left w name fields).sources.length := by
      refine iff_of_false List.not_mem_nil ?_
      rintro ⟨built, made, -⟩
      exact makes ⟨built, made⟩
    refine ⟨host, [], by simp, nothing, ?_, ?_, ?_⟩
    · rw [ended]
      exact live
    · rw [watched]
      exact World.host?_watched_of_live live
    · rw [watched, ended]

theorem host?_call_of_ne (live : (f.left w name fields).host? f.context = some host)
    {place : ContextId} (other : place ≠ f.context) :
    (f.call w name fields).2.host? place = (f.left w name fields).host? place := by
  by_cases makes : ∃ built, f.Makes w name fields built
  · obtain ⟨built, makes⟩ := makes
    rw [host?_call_of_makes live makes, if_neg other.symm]
  · obtain ⟨cause, ended, -⟩ := exists_error_of_not_makes makes
    rw [ended]

theorem hosts_call_of_error (live : (f.left w name fields).host? f.context = some host)
    (clean : Host.RefusesUnchanged σ host) {cause : CallError}
    (failed : (f.call w name fields).1 = .error cause) :
    (f.call w name fields).2.hosts = (f.left w name fields).hosts := by
  by_cases makes : ∃ built, f.Makes w name fields built
  · obtain ⟨built, makes⟩ := makes
    rw [call_of_makes live makes] at failed ⊢
    cases answer : (f.asks (f.left w name fields) host built).1 with
    | error refusal =>
        have same : (f.asks (f.left w name fields) host built).2.1 = host := clean _ _ refusal answer
        have still : ((f.left w name fields).setHost f.context host).hosts =
            (f.left w name fields).hosts := by rw [World.setHost_same live]
        rw [same]
        exact still
    | ok done =>
        rw [answer] at failed
        cases failed
  · obtain ⟨cause, ended, -⟩ := exists_error_of_not_makes makes
    rw [ended]

theorem registered_of_call_eq_ok (live : (f.left w name fields).host? f.context = some host)
    (registers : Host.Registers σ host) {handle : Handle}
    (returned : (f.call w name fields).1 = .ok handle) :
    ∃ (built : σ) (host' : η), f.Makes w name fields built ∧
      handle.name = Source.name (Source.attach built f.context).2 ∧
      (f.call w name fields).2.host? f.context = some host' ∧
      Host.datasources σ host' =
        (Host.datasources σ host).put handle.name (.managed handle) ∧
      (handle.name ∉ (Host.datasources σ host).names →
        (Host.datasources σ host').entries =
          (Host.datasources σ host).entries ++ [(handle.name, .managed handle)]) := by
  obtain ⟨built, makes, accepted, rfl⟩ := (call_eq_ok_iff live handle).mp returned
  have kept : Host.datasources σ (f.asks (f.left w name fields) host built).2.1 = _ :=
    registers _ _ accepted
  refine ⟨built, _, makes, rfl, ?_, kept, fun fresh => ?_⟩
  · rw [host?_call_of_makes live makes, if_pos rfl]
  · rw [kept]
    exact NamedList.entries_put_of_not_mem fresh _

/-- A call succeeds exactly when what is built is of the type of the factory and the host accepts it,
and asks the host at most once.  Beside what the function behind the factory does on its own, a failure
leaves the host as it was, and a success adds one entry. -/
theorem call_contract (f : BoundFactory σ) {w : World σ η} {host : η}
    (live : w.host? f.context = some host) (name : String) (fields : Fields) :
    ∃ host' : η, (f.left w name fields).host? f.context = some host' ∧
      ((f.left w name fields).hosts = w.hosts → host' = host) ∧ f.Contract w host' name fields := by
  obtain ⟨host', left⟩ : ∃ host', (f.left w name fields).host? f.context = some host' :=
    World.exists_host?_run live _ _
  refine ⟨host', left, fun same => ?_, ?_⟩
  · rw [World.host?_of_hosts_eq same, live] at left
    exact (Option.some.inj left).symm
  constructor
  case ok_iff => exact call_eq_ok_iff left
  case fails => exact fun cause fails => call_of_fails (build_eq_left fails)
  case otherType => exact fun built made differs => call_of_otherType (build_eq_left made) differs
  case refused =>
    intro built cause makes answer
    rw [call_of_makes left makes, answer]
    rfl
  case behind => exact fun built handle makes returned => behind_of_call_eq_ok left makes returned
  case answered => exact fun slots same => call_slots_of_eq left same
  case slot => exact fun slots alike confused same => call_slots_of_alike confused left same
  case asked => exact asked_call left
  case elsewhere =>
    intro place other
    rw [host?_call_of_ne (host?_left_watched left) other, left_watched]
  case error => exact fun clean cause failed => hosts_call_of_error left clean failed
  case ok => exact fun registers handle returned => registered_of_call_eq_ok left registers returned

end BoundFactory

namespace Samples

theorem SampleHost.refusesUnchanged (host : SampleHost) :
    Host.RefusesUnchanged SampleSource host := by
  intro sources handle cause failed
  change (host.attach handle).1 = .error cause at failed
  change (host.attach handle).2 = host
  rcases host.attach_cases handle with refused | ⟨-, taken⟩
  · rw [refused]
  · rw [taken] at failed
    cases failed

theorem SampleHost.registers (host : SampleHost) : Host.Registers SampleSource host := by
  intro sources handle accepted
  change (host.attach handle).1 = .ok () at accepted
  change (host.attach handle).2.kept = host.kept.put handle.name (.managed handle)
  rcases host.attach_cases handle with refused | ⟨-, taken⟩
  · rw [refused] at accepted
    cases accepted
  · rw [taken]

/-- A factory that was registered for one type of numbered datasources and builds another, or the one
that rejects every reference to a context. -/
def resolvedFor (number : Nat) : BoundFactory SampleSource :=
  let plan : FactoryPlan := { build := some (.numbered number), slot := .refuses "sealed" }
  { binding := { (numbered [] []).bindingAt "" 0 with factory := plan.factory (.given 0) }
    context := 0 }

end Samples

namespace BoundFactory

theorem call_contract_sealed :
    let f := Samples.resolvedFor 0
    let host : Samples.SampleHost := { kept := .ofList [("old", .foreign "old" "Legacy")] }
    let w : World Samples.SampleSource Samples.SampleHost := (World.empty.addHost host).2
    let met (f : BoundFactory Samples.SampleSource) (name : String) : Prop :=
      ∃ host' : Samples.SampleHost, (f.left w name []).host? f.context = some host' ∧
        ((f.left w name []).hosts = w.hosts → host' = host) ∧ f.Contract w host' name []
    w.host? f.context = some host ∧ Host.RefusesUnchanged Samples.SampleSource host ∧
      Host.Registers Samples.SampleSource host ∧
      Host.Confuses Samples.SampleHost (fun _ _ : Samples.SampleSource => True) ∧
      (f.call w "new" []).1.isOk = true ∧ (f.call w "old" []).1.isOk = false ∧
      ((Samples.resolvedFor 1).call w "new" []).1.isOk = false ∧
      met f "new" ∧ met f "old" ∧ met (Samples.resolvedFor 1) "new" := by
  intro f host w met
  have live : w.host? f.context = some host := rfl
  have confused : Host.Confuses Samples.SampleHost (fun _ _ : Samples.SampleSource => True) :=
    fun _ _ _ _ _ _ => ⟨rfl, rfl⟩
  exact ⟨live, host.refusesUnchanged, host.registers, confused, by decide +kernel,
    by decide +kernel, by decide +kernel, call_contract f live "new" [], call_contract f live "old" [],
    call_contract (Samples.resolvedFor 1) live "new" []⟩

end BoundFactory

end SourceRegistry
