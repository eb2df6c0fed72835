import SourceRegistry.Proofs.Site.Places
import SourceRegistry.Proofs.Site.Run
import SourceRegistry.Samples.Host

/-!
Hosts that keep what they accepted.  If a host of a site keeps every datasource that it accepted under
its name, then nothing that is done at the site takes a datasource away from it.  As a handle owns its
datasource, a host that only takes what it is offered holds no handle without a datasource behind it.
-/

set_option autoImplicit false
set_option relaxedAutoImplicit false

namespace SourceRegistry

variable {σ η : Type}

namespace Host

def Holds (σ : Type) {η : Type} [Host η σ] (host : η) (key : String) (handle : Handle) : Prop :=
  (Host.datasources σ host).get? key = some (.managed handle)

/-- A later state of a host is one of those given and keeps what the earlier one holds. -/
def Stays (σ : Type) {η : Type} [Host η σ] (states : η → Prop) (host host' : η) : Prop :=
  states host' ∧ ∀ (key : String) (handle : Handle), Holds σ host key handle → Holds σ host' key handle

/-- Hosts in some states, which no act of theirs leaves, keep every datasource that they accepted under
its name.  Hosts that refuse taken names and drop nothing are so. -/
structure Keeping (σ : Type) {η : Type} [Host η σ] (states : η → Prop) : Prop where
  attach : ∀ (host : η) (sources : List σ) (handle : Handle), states host →
    Stays σ states host (Host.attach host sources handle).2.1
  validate : ∀ (host : η) (sources : List σ) (request : Request), states host →
    Stays σ states host (Host.validate host sources request).2.1
  act : ∀ (host : η) (sources : List σ) (source : SourceId) (message : String), states host →
    Stays σ states host (Host.act host sources source message).2.1
  accepted : ∀ (host : η) (sources : List σ) (handle : Handle), states host →
    (Host.attach host sources handle).1 = .ok () →
      Holds σ (Host.attach host sources handle).2.1 handle.name handle
  refused : ∀ (host : η) (sources : List σ) (handle : Handle) (cause : HostError), states host →
    (Host.attach host sources handle).1 = .error cause → ∀ (key : String) (held : Handle),
      Holds σ (Host.attach host sources handle).2.1 key held → Holds σ host key held

def Backed [Source σ] [Host η σ] (host : η) (sources : List σ) : Prop :=
  ∀ (key : String) (handle : Handle), Holds σ host key handle → handle.FitsIn sources

/-- Whatever hosts do, they come by no handle whose datasource is not there. -/
structure Owning (η σ : Type) [Source σ] [Host η σ] : Prop where
  attach : ∀ (host : η) (sources : List σ) (handle : Handle), Backed host sources →
    handle.FitsIn sources →
      Backed (Host.attach host sources handle).2.1 (Host.attach host sources handle).2.2
  validate : ∀ (host : η) (sources : List σ) (request : Request), Backed host sources →
    Backed (Host.validate host sources request).2.1 (Host.validate host sources request).2.2
  act : ∀ (host : η) (sources : List σ) (source : SourceId) (message : String),
    Backed host sources → Backed (Host.act host sources source message).2.1
      (Host.act host sources source message).2.2

end Host

namespace World

def HostIn (w : World σ η) (context : ContextId) (states : η → Prop) : Prop :=
  ∀ host, w.host? context = some host → states host

def Holds [Host η σ] (w : World σ η) (context : ContextId) (key : String) (handle : Handle) : Prop :=
  ∃ host, w.host? context = some host ∧ Host.Holds σ host key handle

def Backed [Source σ] [Host η σ] (w : World σ η) (context : ContextId) : Prop :=
  ∀ (key : String) (handle : Handle), w.Holds context key handle → w.Fits handle

structure Retains [Host η σ] (context : ContextId) (states : η → Prop) (w w' : World σ η) :
    Prop where
  hostIn : w.HostIn context states → w'.HostIn context states
  holds : w.HostIn context states → ∀ (key : String) (handle : Handle),
    w.Holds context key handle → w'.Holds context key handle

variable [Host η σ] {context : ContextId} {states : η → Prop} {w w' w'' : World σ η}

namespace Retains

theorem refl (w : World σ η) : Retains context states w w :=
  ⟨fun hostIn => hostIn, fun _ _ _ held => held⟩

theorem trans (first : Retains context states w w') (second : Retains context states w' w'') :
    Retains context states w w'' where
  hostIn hostIn := second.hostIn (first.hostIn hostIn)
  holds hostIn key handle held :=
    second.holds (first.hostIn hostIn) key handle (first.holds hostIn key handle held)

theorem of_hosts_eq (same : w'.hosts = w.hosts) : Retains context states w w' := by
  have host := host?_of_hosts_eq same
  constructor
  · intro hostIn here live
    exact hostIn here (by rwa [host] at live)
  · rintro - key handle ⟨here, live, held⟩
    exact ⟨here, by rwa [host], held⟩

theorem letHost {α : Type} {work : η → List σ → α × η × List σ}
    (stays : ∀ (host : η) (sources : List σ), states host →
      Host.Stays σ states host (work host sources).2.1)
    (w : World σ η) (place : ContextId) : Retains context states w (w.letHost place work).2 := by
  constructor
  · intro hostIn host live
    rw [host?_letHost] at live
    split at live
    · obtain ⟨old, here, rfl⟩ := Option.map_eq_some_iff.mp live
      exact (stays old w.sources (hostIn old here)).1
    · exact hostIn host live
  · rintro hostIn key handle ⟨host, live, held⟩
    unfold Holds
    rw [host?_letHost, live]
    split
    · exact ⟨_, rfl, (stays host w.sources (hostIn host live)).2 key handle held⟩
    · exact ⟨host, rfl, held⟩

end Retains

theorem holds_letHost_iff_of_ne {α : Type} {place : ContextId} (other : place ≠ context)
    (work : η → List σ → α × η × List σ) (key : String) (handle : Handle) :
    (w.letHost place work).2.Holds context key handle ↔ w.Holds context key handle := by
  simp only [Holds, host?_letHost, if_neg other]

end World

/-- On the way to its datasource the factory brings nothing into the host at a place. -/
def Factory.BringsNothing [Source σ] (factory : Factory σ) (η : Type) [Host η σ]
    (context : ContextId) : Prop :=
  ∀ (w : World σ η) (name : String) (fields : Fields) (key : String) (handle : Handle),
    (w.run w.sources.length (factory.build name fields)).2.Holds context key handle →
      w.Holds context key handle

theorem SourceKind.bringsNothing [Source σ] [Host η σ] (kind : SourceKind σ) (id : ObjectId)
    (context : ContextId) : (kind.factory id).BringsNothing η context :=
  fun _ _ _ _ _ held => held

namespace World.Backed

variable [Source σ] [Host η σ] {context : ContextId} {w w' : World σ η}

theorem of_hosts_eq (backed : w.Backed context) (same : w'.hosts = w.hosts)
    (kept : w.KeepsTypes w') : w'.Backed context := by
  rintro key handle ⟨host, live, held⟩
  rw [host?_of_hosts_eq same] at live
  exact kept.fits (backed key handle ⟨host, live, held⟩)

theorem letHost {α : Type} {work : η → List σ → α × η × List σ} (backed : w.Backed context)
    (typed : ∀ (host : η) (sources : List σ), Source.SameTypes sources (work host sources).2.2)
    (place : ContextId)
    (own : place = context → ∀ host : η, Host.Backed host w.sources →
      Host.Backed (work host w.sources).2.1 (work host w.sources).2.2) :
    (w.letHost place work).2.Backed context := by
  -- the host that works has to see to its own handles; those of another one need their places only
  intro key handle held
  by_cases same : place = context
  · subst same
    cases live : w.host? place with
    | none =>
        rw [letHost_of_dead live] at held ⊢
        exact backed key handle held
    | some host =>
        have now : Host.Backed host w.sources := fun key handle held =>
          backed key handle ⟨host, live, held⟩
        obtain ⟨later, here, held⟩ := held
        rw [host?_letHost, if_pos rfl, live] at here
        obtain rfl := Option.some.inj here
        rw [letHost_of_live live]
        exact own rfl host now key handle held
  · rw [holds_letHost_iff_of_ne same] at held
    exact (keepsTypes_letHost typed w place).fits (backed key handle held)

theorem carried (typed : Host.KeepsTypes η σ) (owning : Host.Owning η σ) (context : ContextId) :
    Carried fun w w' : World σ η => w.Backed context → w'.Backed context where
  refl _ backed := backed
  trans first second backed := second (first backed)
  addAsset w source asset backed :=
    backed.of_hosts_eq (w.hosts_addAsset source asset) (w.keepsTypes_addAsset source asset)
  validate w place request backed :=
    backed.letHost (fun host sources => typed.validate host sources request) place
      fun _ host now => owning.validate host w.sources request now
  act w place source message backed :=
    backed.letHost (fun host sources => typed.act host sources source message) place
      fun _ host now => owning.act host w.sources source message now

theorem call (typed : Host.KeepsTypes η σ) (owning : Host.Owning η σ) (backed : w.Backed context)
    (f : BoundFactory σ) (name : String) (fields : Fields) :
    (f.call w name fields).2.Backed context := by
  have building : (f.build w name fields).2.Backed context :=
    (carried typed owning context).run w _ _ backed
  rcases f.call_cases w name fields with ⟨cause, failed⟩ | ⟨built, -, fits, presented⟩
  · rw [failed]
    exact building
  · have brought : (f.bring (f.build w name fields).2 built).Backed context :=
      building.of_hosts_eq rfl (f.keepsTypes_bring _ built)
    rw [presented]
    exact brought.letHost (fun host sources => typed.attach host sources _) f.context
      fun _ host now => owning.attach host _ _ now (BoundFactory.fits_bring fits)

end World.Backed

namespace Host.Keeping

open World (Retains)

variable [Source σ] [Host η σ] {context : ContextId} {states : η → Prop} {w w' : World σ η}
  {f : BoundFactory σ} {name key : String} {fields : Fields} {handle held : Handle}
  {cause : CallError}

theorem carried (keeping : Host.Keeping σ states) (context : ContextId) :
    World.Carried (Retains context states : World σ η → World σ η → Prop) where
  refl := .refl
  trans first second := first.trans second
  addAsset w source asset := .of_hosts_eq (w.hosts_addAsset source asset)
  validate w place request := .letHost (fun host sources => keeping.validate host sources request) w place
  act w place source message :=
    .letHost (fun host sources => keeping.act host sources source message) w place

theorem retains_run (keeping : Host.Keeping σ states) {β : Type} (w : World σ η)
    (source : SourceId) (program : Program β) :
    Retains context states w (w.run source program).2 :=
  (keeping.carried context).run w source program

theorem retains_bring (keeping : Host.Keeping σ states) (f : BoundFactory σ) (w : World σ η)
    (name : String) (fields : Fields) (built : σ) :
    Retains context states w (f.bring (f.build w name fields).2 built) :=
  (keeping.retains_run w _ _).trans (.of_hosts_eq rfl)

theorem retains_call (keeping : Host.Keeping σ states) (f : BoundFactory σ) (w : World σ η)
    (name : String) (fields : Fields) :
    Retains context states w (f.call w name fields).2 := by
  rcases f.call_cases w name fields with ⟨cause, failed⟩ | ⟨built, -, -, presented⟩
  · rw [failed]
    exact keeping.retains_run w _ _
  · have offered : Retains context states (f.bring (f.build w name fields).2 built) _ :=
      .letHost (fun host sources => keeping.attach host sources
        (f.handleOf built (f.build w name fields).2.sources.length)) _ f.context
    rw [presented]
    exact (keeping.retains_bring f w name fields built).trans offered

omit [Source σ] in
theorem holds_offer (keeping : Host.Keeping σ states) (hostIn : w.HostIn context states)
    (accepted : (w.offer context handle).1 = .ok ()) :
    (w.offer context handle).2.Holds context handle.name handle := by
  cases live : w.host? context with
  | none =>
      simp only [World.offer, World.letHost_of_dead live, Option.getD_none] at accepted
      cases accepted
  | some host =>
      rw [World.offer_of_live live] at accepted ⊢
      have held := keeping.accepted host w.sources handle (hostIn host live) accepted
      exact ⟨_, by rw [World.host?_setHost_of_live (by exact live), if_pos rfl], held⟩

omit [Source σ] in
theorem holds_of_refused (keeping : Host.Keeping σ states) {refusal : HostError}
    (hostIn : w.HostIn context states) (refused : (w.offer context handle).1 = .error refusal)
    (holds : (w.offer context handle).2.Holds context key held) : w.Holds context key held := by
  cases live : w.host? context with
  | none =>
      simp only [World.offer, World.letHost_of_dead live] at holds
      exact holds
  | some host =>
      rw [World.offer_of_live live] at refused holds
      obtain ⟨later, here, held⟩ := holds
      rw [World.host?_setHost_of_live (by exact live), if_pos rfl] at here
      obtain rfl := Option.some.inj here
      exact ⟨host, live, keeping.refused host w.sources handle refusal (hostIn host live) refused _ _ held⟩

theorem call_eq_ok (keeping : Host.Keeping σ states) (hostIn : w.HostIn f.context states)
    (accepted : (f.call w name fields).1 = .ok handle) :
    handle.type = f.type ∧ (f.call w name fields).2.Holds f.context handle.name handle ∧
      ∃ built, (f.build w name fields).1 = .ok built ∧
        handle.name = Source.name (Source.attach built f.context).2 := by
  rcases f.call_cases w name fields with ⟨cause, failed⟩ | ⟨built, made, -, presented⟩
  · rw [failed] at accepted
    cases accepted
  · have inState := (keeping.retains_bring f w name fields built).hostIn hostIn
    rw [presented] at accepted ⊢
    obtain ⟨offered, rfl⟩ := BoundFactory.present_eq_ok_iff.mp accepted
    exact ⟨rfl, keeping.holds_offer inState offered, built, made, rfl⟩

theorem holds_of_call_eq_error (keeping : Host.Keeping σ states)
    (alone : f.binding.factory.BringsNothing η f.context) (hostIn : w.HostIn f.context states)
    (failed : (f.call w name fields).1 = .error cause)
    (holds : (f.call w name fields).2.Holds f.context key held) : w.Holds f.context key held := by
  rcases f.call_cases w name fields with ⟨other, unbuilt⟩ | ⟨built, -, -, presented⟩
  · rw [unbuilt] at holds
    exact alone w name fields key held holds
  · have inState := (keeping.retains_bring f w name fields built).hostIn hostIn
    rw [presented] at failed holds
    obtain ⟨refusal, refused, -⟩ := BoundFactory.present_eq_error_iff.mp failed
    have before := keeping.holds_of_refused inState refused holds
    exact alone w name fields key held before

end Host.Keeping

namespace Samples

theorem SampleHost.validate_snd (host : SampleHost) (sources : List SampleSource)
    (request : Request) : ∃ requests, (host.validate sources request).2 = { host with requests } := by
  unfold validate
  cases host.failure <;> exact ⟨_, rfl⟩

theorem SampleHost.keepsTypes : Host.KeepsTypes SampleHost SampleSource where
  attach _ _ _ := .refl _
  validate _ _ _ := .refl _
  act _ _ _ _ := .refl _

theorem SampleHost.attach_cases (host : SampleHost) (handle : Handle) :
    host.attach handle = (.error (.nameTaken handle.name), host) ∨
      (host.replaces = false → host.kept.contains handle.name = false) ∧
        host.attach handle =
          (.ok (), { host with kept := host.kept.put handle.name (.managed handle) }) := by
  unfold attach
  cases taken : host.kept.contains handle.name && !host.replaces with
  | true => exact .inl (if_pos rfl)
  | false => exact .inr ⟨fun strict => by simpa [strict] using taken, if_neg Bool.false_ne_true⟩

theorem SampleHost.keeping :
    Host.Keeping SampleSource fun host : SampleHost => host.replaces = false where
  attach host sources handle strict := by
    change (host.attach handle).2.replaces = false ∧ ∀ key held,
      host.kept.get? key = _ → (host.attach handle).2.kept.get? key = _
    rcases host.attach_cases handle with refused | ⟨free, taken⟩
    · rw [refused]
      exact ⟨strict, fun _ _ holds => holds⟩
    · rw [taken]
      refine ⟨strict, fun key held holds => ?_⟩
      have other : key ≠ handle.name := by
        rintro rfl
        have missing := free strict
        rw [NamedList.contains_iff_get?, holds] at missing
        cases missing
      rw [NamedList.get?_put, if_neg other]
      exact holds
  validate host sources request strict := by
    change (host.validate sources request).2.replaces = false ∧ ∀ key held,
      host.kept.get? key = _ → (host.validate sources request).2.kept.get? key = _
    obtain ⟨requests, asked⟩ := host.validate_snd sources request
    rw [asked]
    exact ⟨strict, fun _ _ holds => holds⟩
  act _ _ _ _ strict := ⟨strict, fun _ _ holds => holds⟩
  accepted host sources handle strict done := by
    change (host.attach handle).1 = .ok () at done
    change (host.attach handle).2.kept.get? handle.name = _
    rcases host.attach_cases handle with refused | ⟨-, taken⟩
    · rw [refused] at done
      cases done
    · rw [taken]
      simp [NamedList.get?_put]
  refused host sources handle cause strict failed key held holds := by
    change (host.attach handle).1 = .error cause at failed
    change (host.attach handle).2.kept.get? key = _ at holds
    rcases host.attach_cases handle with refused | ⟨-, taken⟩
    · rw [refused] at holds
      exact holds
    · rw [taken] at failed
      cases failed

theorem SampleHost.owning : Host.Owning SampleHost SampleSource where
  attach host sources handle backed fits := by
    intro key held holds
    change (host.attach handle).2.kept.get? key = _ at holds
    rcases host.attach_cases handle with refused | ⟨-, taken⟩
    · rw [refused] at holds
      exact backed key held holds
    · rw [taken, NamedList.get?_put] at holds
      split at holds
      · cases holds
        exact fits
      · exact backed key held holds
  validate host sources request backed := by
    intro key held holds
    change (host.validate sources request).2.kept.get? key = _ at holds
    obtain ⟨requests, asked⟩ := host.validate_snd sources request
    rw [asked] at holds
    exact backed key held holds
  act _ _ _ _ backed := backed

end Samples

end SourceRegistry
