import SourceRegistry.Facade

/-!
The places of worlds.  A program works on a world by handing assets over and by letting hosts work, so
what each of these keeps is kept by every program.  No host is lost on the way; and where no host drops
a datasource or puts one of another type in its place, what a handle refers to stays there.
-/

set_option autoImplicit false
set_option relaxedAutoImplicit false

namespace SourceRegistry

variable {σ η β : Type}

/-- Every place keeps the type of what it holds; more places may have come in. -/
def Source.SameTypes [Source σ] (before after : List σ) : Prop :=
  ∀ (place : SourceId) (value : σ), before[place]? = some value →
    ∃ value', after[place]? = some value' ∧ Source.type value' = Source.type value

/-- The datasource of a handle is there, and of the type that the handle says. -/
def Handle.FitsIn [Source σ] (handle : Handle) (sources : List σ) : Prop :=
  ∃ value, sources[handle.source]? = some value ∧ (Source.type value).same handle.type = true

/-- No host drops a datasource or puts one of another type in its place. -/
structure Host.KeepsTypes (η σ : Type) [Source σ] [Host η σ] : Prop where
  attach : ∀ (host : η) (sources : List σ) (handle : Handle),
    Source.SameTypes sources (Host.attach host sources handle).2.2
  validate : ∀ (host : η) (sources : List σ) (request : Request),
    Source.SameTypes sources (Host.validate host sources request).2.2
  act : ∀ (host : η) (sources : List σ) (source : SourceId) (message : String),
    Source.SameTypes sources (Host.act host sources source message).2.2

/-- A program may end with an answer, whatever it is answered on the way. -/
inductive Program.Yields : Program β → β → Prop
  | done {answer : β} : Yields (.done (.ok answer)) answer
  | addAsset {asset : Asset} {next : Except AssetError Asset → Program β} {answer : β}
      (outcome : Except AssetError Asset) (later : Yields (next outcome) answer) :
      Yields (.addAsset asset next) answer
  | ask {request : Request} {next : Option (Except HostError Validator) → Program β} {answer : β}
      (outcome : Option (Except HostError Validator)) (later : Yields (next outcome) answer) :
      Yields (.ask request next) answer
  | act {context : ContextId} {message : String} {next : Option String → Program β} {answer : β}
      (reply : Option String) (later : Yields (next reply) answer) :
      Yields (.act context message next) answer

section Types

variable [Source σ] {before middle after : List σ}

theorem Source.SameTypes.refl (sources : List σ) : SameTypes sources sources :=
  fun _ value here => ⟨value, here, rfl⟩

theorem Source.SameTypes.trans (first : SameTypes before middle) (second : SameTypes middle after) :
    SameTypes before after := by
  intro place value here
  obtain ⟨value', here', same⟩ := first place value here
  obtain ⟨value'', here'', same'⟩ := second place value' here'
  exact ⟨value'', here'', same'.trans same⟩

theorem Source.sameTypes_append (sources more : List σ) : SameTypes sources (sources ++ more) := by
  intro place value here
  obtain ⟨inside, -⟩ := List.getElem?_eq_some_iff.mp here
  exact ⟨value, by rwa [List.getElem?_append_left inside], rfl⟩

theorem Source.sameTypes_set {place : SourceId} {old new : σ} (here : before[place]? = some old)
    (type : Source.type new = Source.type old) : SameTypes before (before.set place new) := by
  intro other value there
  by_cases same : place = other
  · subst same
    obtain ⟨inside, -⟩ := List.getElem?_eq_some_iff.mp here
    obtain rfl := Option.some.inj (here.symm.trans there)
    exact ⟨new, by simp [inside], type⟩
  · exact ⟨value, by simpa [List.getElem?_set, same] using there, rfl⟩

theorem Handle.FitsIn.of_sameTypes {handle : Handle} (fits : handle.FitsIn before)
    (kept : Source.SameTypes before after) : handle.FitsIn after := by
  obtain ⟨value, here, same⟩ := fits
  obtain ⟨value', here', type⟩ := kept handle.source value here
  exact ⟨value', here', by rwa [type]⟩

end Types

namespace World

section Hosts

variable {w : World σ η}

theorem host?_setHost_of_live {place : ContextId} {old : η} (live : w.host? place = some old)
    (host : η) (context : ContextId) :
    (w.setHost place host).host? context =
      if place = context then some host else w.host? context := by
  have here : w.hosts[place]? = some (some old) := Option.join_eq_some_iff.mp live
  obtain ⟨inside, -⟩ := List.getElem?_eq_some_iff.mp here
  unfold host? setHost
  simp only [List.getElem?_set]
  by_cases same : place = context
  · subst same
    simp [inside]
  · simp [same]

theorem setHost_same {context : ContextId} {host : η} (live : w.host? context = some host) :
    w.setHost context host = w := by
  have here : w.hosts[context]? = some (some host) := Option.join_eq_some_iff.mp live
  have same : w.hosts.set context (some host) = w.hosts := by
    obtain ⟨inside, found⟩ := List.getElem?_eq_some_iff.mp here
    rw [← found]
    exact List.set_getElem_self inside
  simp only [setHost, same]

variable {α : Type} {context : ContextId} {work : η → List σ → α × η × List σ}

theorem letHost_of_dead (dead : w.host? context = none) : w.letHost context work = (none, w) := by
  simp only [letHost, dead]

theorem letHost_of_live {host : η} (live : w.host? context = some host) :
    w.letHost context work =
      (some (work host w.sources).1,
        { w with sources := (work host w.sources).2.2 }.setHost context
          (work host w.sources).2.1) := by
  simp only [letHost, live]

theorem host?_letHost (w : World σ η) (context place : ContextId)
    (work : η → List σ → α × η × List σ) :
    (w.letHost context work).2.host? place =
      if context = place then (w.host? place).map fun host => (work host w.sources).2.1
      else w.host? place := by
  cases live : w.host? context with
  | none =>
      rw [letHost_of_dead live]
      split
      · rename_i same
        simp [← same, live]
      · rfl
  | some host =>
      have there : { w with sources := (work host w.sources).2.2 }.host? context = some host := live
      rw [letHost_of_live live, host?_setHost_of_live there]
      split
      · rename_i same
        simp [← same, live]
      · rfl

theorem offer_of_live [Host η σ] {host : η} (live : w.host? context = some host) (handle : Handle) :
    w.offer context handle =
      ((Host.attach host w.sources handle).1,
        { w with sources := (Host.attach host w.sources handle).2.2 }.setHost context
          (Host.attach host w.sources handle).2.1) := by
  simp only [offer, letHost_of_live live, Option.getD_some]

end Hosts

/-- A relation between a world and a later one that each step of a program keeps. -/
structure Carried [Source σ] [Host η σ] (related : World σ η → World σ η → Prop) : Prop where
  refl : ∀ w : World σ η, related w w
  trans : ∀ {w w' w'' : World σ η}, related w w' → related w' w'' → related w w''
  addAsset : ∀ (w : World σ η) (source : SourceId) (asset : Asset),
    related w (w.addAsset source asset).2
  validate : ∀ (w : World σ η) (context : ContextId) (request : Request),
    related w (w.letHost context fun host sources => Host.validate host sources request).2
  act : ∀ (w : World σ η) (context : ContextId) (source : SourceId) (message : String),
    related w (w.act context source message).2

theorem host?_of_hosts_eq {w w' : World σ η} (same : w'.hosts = w.hosts) (context : ContextId) :
    w'.host? context = w.host? context := by
  simp only [host?, same]

theorem hosts_addAsset [Source σ] (w : World σ η) (source : SourceId) (asset : Asset) :
    (w.addAsset source asset).2.hosts = w.hosts := by
  unfold World.addAsset
  cases w.source? source <;> rfl

section Runs

variable [Source σ] [Host η σ] {related : World σ η → World σ η → Prop}

theorem Carried.ask (carried : Carried related) (w : World σ η) (source : SourceId)
    (request : Request) : related w (w.ask source request).2 := by
  unfold World.ask
  cases w.contextOf source with
  | none => exact carried.refl w
  | some context => exact carried.validate w context request

theorem Carried.run (carried : Carried related) (w : World σ η) (source : SourceId)
    (program : Program β) : related w (w.run source program).2 := by
  -- by induction on the steps of the program
  induction program generalizing w with
  | done outcome => exact carried.refl w
  | addAsset asset next ih => exact carried.trans (carried.addAsset w source asset) (ih _ _)
  | ask request next ih => exact carried.trans (carried.ask w source request) (ih _ _)
  | act context message next ih => exact carried.trans (carried.act w context source message) (ih _ _)

theorem yields_of_run_eq_ok {w : World σ η} {source : SourceId} {program : Program β} {answer : β}
    (ended : (w.run source program).1 = .ok answer) : program.Yields answer := by
  induction program generalizing w with
  | done outcome =>
      cases ended
      exact .done
  | addAsset asset next ih => exact .addAsset _ (ih _ ended)
  | ask request next ih => exact .ask _ (ih _ ended)
  | act context message next ih => exact .act _ (ih _ ended)

theorem carried_isSome_host? (context : ContextId) :
    Carried fun w w' : World σ η => (w'.host? context).isSome = (w.host? context).isSome where
  refl _ := rfl
  trans first second := second.trans first
  addAsset w source asset := by rw [host?_of_hosts_eq (w.hosts_addAsset source asset)]
  validate w place request := by
    rw [host?_letHost]
    split <;> simp
  act w place source message := by
    unfold World.act
    rw [host?_letHost]
    split <;> simp

theorem exists_host?_run {w : World σ η} {context : ContextId} {host : η}
    (live : w.host? context = some host) (source : SourceId) (program : Program β) :
    ∃ host', (w.run source program).2.host? context = some host' := by
  have same := (carried_isSome_host? context).run w source program
  rw [live] at same
  exact Option.isSome_iff_exists.mp same

end Runs

section Types

variable [Source σ] {w w' w'' : World σ η}

def Fits (w : World σ η) (handle : Handle) : Prop := handle.FitsIn w.sources

def KeepsTypes (w w' : World σ η) : Prop := Source.SameTypes w.sources w'.sources

theorem KeepsTypes.fits (kept : w.KeepsTypes w') {handle : Handle} (fits : w.Fits handle) :
    w'.Fits handle := Handle.FitsIn.of_sameTypes fits kept

theorem keepsTypes_addAsset (w : World σ η) (source : SourceId) (asset : Asset) :
    w.KeepsTypes (w.addAsset source asset).2 := by
  unfold World.addAsset
  cases here : w.source? source with
  | none => exact .refl _
  | some value => exact Source.sameTypes_set here (Source.type_addAsset value asset)

theorem keepsTypes_letHost {α : Type} {work : η → List σ → α × η × List σ}
    (kept : ∀ (host : η) (sources : List σ), Source.SameTypes sources (work host sources).2.2)
    (w : World σ η) (context : ContextId) : w.KeepsTypes (w.letHost context work).2 := by
  cases live : w.host? context with
  | none =>
      rw [letHost_of_dead live]
      exact .refl _
  | some host =>
      rw [letHost_of_live live]
      exact kept host w.sources

variable [Host η σ]

theorem carried_keepsTypes (typed : Host.KeepsTypes η σ) :
    Carried (KeepsTypes : World σ η → World σ η → Prop) where
  refl _ := .refl _
  trans first second := first.trans second
  addAsset := keepsTypes_addAsset
  validate w context request :=
    keepsTypes_letHost (fun host sources => typed.validate host sources request) w context
  act w context source message :=
    keepsTypes_letHost (fun host sources => typed.act host sources source message) w context

theorem keepsTypes_offer (typed : Host.KeepsTypes η σ) (w : World σ η) (context : ContextId)
    (handle : Handle) : w.KeepsTypes (w.offer context handle).2 :=
  keepsTypes_letHost (fun host sources => typed.attach host sources handle) w context

end Types

end World

namespace BoundFactory

variable [Source σ] [Host η σ]

def handleOf (f : BoundFactory σ) (built : σ) (place : SourceId) : Handle :=
  { source := place
    type := f.type
    name := Source.name (Source.attach built f.context).2
    methods := f.binding.methods }

/-- A world with a datasource that the factory built and that took the reference to its context. -/
def bring (f : BoundFactory σ) (w : World σ η) (built : σ) : World σ η :=
  w.addSource (Source.attach built f.context).2

/-- What becomes of a datasource of the type: its handle is offered to the host. -/
def present (f : BoundFactory σ) (w : World σ η) (built : σ) : Except CallError Handle × World σ η :=
  let (outcome, w') := (f.bring w built).offer f.context (f.handleOf built w.sources.length)
  ((outcome.mapError .host).map fun _ => f.handleOf built w.sources.length, w')

variable {f : BoundFactory σ} {w : World σ η} {name : String} {fields : Fields} {built : σ}

theorem call_of_fails {cause : CallError} {w' : World σ η}
    (fails : f.build w name fields = (.error cause, w')) :
    f.call w name fields = (.error cause, w') := by
  simp only [call, fails]

theorem call_of_otherType {w' : World σ η} (made : f.build w name fields = (.ok built, w'))
    (differs : (Source.type built).same f.type = false) :
    f.call w name fields = (.error (.wrongType f.type), w') := by
  simp [call, made, differs]

theorem call_of_fits {w' : World σ η} (made : f.build w name fields = (.ok built, w'))
    (fits : (Source.type built).same f.type = true) :
    f.call w name fields = f.present w' built := by
  rcases offered : (f.bring w' built).offer f.context (f.handleOf built w'.sources.length) with
    ⟨outcome, left⟩
  simp only [bring, handleOf] at offered
  simp only [call, made, fits, present, bring, handleOf, offered]
  cases outcome <;> rfl

theorem present_eq_ok_iff {handle : Handle} :
    (f.present w built).1 = .ok handle ↔
      ((f.bring w built).offer f.context (f.handleOf built w.sources.length)).1 = .ok () ∧
        handle = f.handleOf built w.sources.length := by
  unfold present
  rcases (f.bring w built).offer f.context (f.handleOf built w.sources.length) with
    ⟨cause | done, w'⟩
  · exact iff_of_false nofun nofun
  · constructor
    · intro presented
      exact ⟨rfl, (Except.ok.inj presented).symm⟩
    · rintro ⟨-, rfl⟩
      rfl

theorem present_eq_error_iff {cause : CallError} :
    (f.present w built).1 = .error cause ↔ ∃ refusal : HostError,
      ((f.bring w built).offer f.context (f.handleOf built w.sources.length)).1 = .error refusal ∧
        cause = .host refusal := by
  unfold present
  rcases (f.bring w built).offer f.context (f.handleOf built w.sources.length) with
    ⟨refusal | done, w'⟩
  · constructor
    · intro presented
      exact ⟨refusal, rfl, (Except.error.inj presented).symm⟩
    · rintro ⟨other, same, rfl⟩
      cases same
      rfl
  · exact iff_of_false nofun nofun

/-- A call ends where the building ends, or it built a datasource of the type and presents it. -/
theorem call_cases (f : BoundFactory σ) (w : World σ η) (name : String) (fields : Fields) :
    (∃ cause, f.call w name fields = (.error cause, (f.build w name fields).2)) ∨
      ∃ built : σ, (f.build w name fields).1 = .ok built ∧
        (Source.type built).same f.type = true ∧
        f.call w name fields = f.present (f.build w name fields).2 built := by
  rcases outcome : f.build w name fields with ⟨cause | built, w'⟩
  · exact .inl ⟨cause, call_of_fails outcome⟩
  · cases fits : (Source.type built).same f.type with
    | false => exact .inl ⟨_, call_of_otherType outcome fits⟩
    | true => exact .inr ⟨built, rfl, fits, call_of_fits outcome fits⟩

omit [Host η σ] in
theorem keepsTypes_bring (f : BoundFactory σ) (w : World σ η) (built : σ) :
    w.KeepsTypes (f.bring w built) := Source.sameTypes_append _ _

omit [Host η σ] in
theorem fits_bring (fits : (Source.type built).same f.type = true) :
    (f.bring w built).Fits (f.handleOf built w.sources.length) := by
  refine ⟨(Source.attach built f.context).2, List.getElem?_concat_length, ?_⟩
  rw [Source.type_attach]
  exact fits

theorem keepsTypes_present (typed : Host.KeepsTypes η σ) (f : BoundFactory σ) (w : World σ η)
    (built : σ) : w.KeepsTypes (f.present w built).2 :=
  (f.keepsTypes_bring w built).trans (World.keepsTypes_offer typed _ _ _)

theorem fits_present (typed : Host.KeepsTypes η σ)
    (fits : (Source.type built).same f.type = true) :
    (f.present w built).2.Fits (f.handleOf built w.sources.length) :=
  World.KeepsTypes.fits (World.keepsTypes_offer typed (f.bring w built) _ _) (fits_bring fits)

theorem keepsTypes_call (typed : Host.KeepsTypes η σ) (f : BoundFactory σ) (w : World σ η)
    (name : String) (fields : Fields) : w.KeepsTypes (f.call w name fields).2 := by
  have building : w.KeepsTypes (f.build w name fields).2 := (World.carried_keepsTypes typed).run w _ _
  rcases f.call_cases w name fields with ⟨cause, failed⟩ | ⟨built, -, -, presented⟩
  · rw [failed]
    exact building
  · rw [presented]
    exact building.trans (f.keepsTypes_present typed _ built)

theorem fits_of_call_eq_ok (typed : Host.KeepsTypes η σ) {handle : Handle}
    (accepted : (f.call w name fields).1 = .ok handle) : (f.call w name fields).2.Fits handle := by
  rcases f.call_cases w name fields with ⟨cause, failed⟩ | ⟨built, -, fits, presented⟩
  · rw [failed] at accepted
    cases accepted
  · rw [presented] at accepted ⊢
    obtain ⟨-, rfl⟩ := present_eq_ok_iff.mp accepted
    exact fits_present typed fits

end BoundFactory

end SourceRegistry
