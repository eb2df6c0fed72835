import SourceRegistry.Proofs.Site.Commons

/-!
Offers to hosts.  Programs and hosts may do what they like, but only the call of a factory offers a handle
to a host: the one of what it built, which fits the datasource behind it.
-/

set_option autoImplicit false
set_option relaxedAutoImplicit false

namespace SourceRegistry

variable {σ η : Type}

namespace World

def Offered (w : World σ (Watched η)) (context : ContextId) (handle : Handle) : Prop :=
  ∃ host, w.host? context = some host ∧ handle ∈ host.received

/-- Places keep their types and no host is offered anything. -/
structure Quiet [Source σ] (w w' : World σ (Watched η)) : Prop where
  types : w.KeepsTypes w'
  offers : ∀ (context : ContextId) (handle : Handle), w'.Offered context handle →
    w.Offered context handle

section Quiet

variable [Source σ] {w w' w'' : World σ (Watched η)}

theorem Quiet.refl (w : World σ (Watched η)) : w.Quiet w := ⟨.refl _, fun _ _ offered => offered⟩

theorem Quiet.trans (first : w.Quiet w') (second : w'.Quiet w'') : w.Quiet w'' :=
  ⟨first.types.trans second.types, fun context handle offered =>
    first.offers context handle (second.offers context handle offered)⟩

theorem quiet_of_types (hosts : w'.hosts = w.hosts) (types : w.KeepsTypes w') : w.Quiet w' := by
  refine ⟨types, fun context handle offered => ?_⟩
  unfold Offered host? at offered ⊢
  rwa [hosts] at offered

theorem quiet_letHost {α : Type}
    {work : Watched η → List σ → α × Watched η × List σ}
    (received : ∀ (host : Watched η) (sources : List σ),
      (work host sources).2.1.received = host.received)
    (typed : ∀ (host : Watched η) (sources : List σ),
      Source.SameTypes sources (work host sources).2.2)
    (w : World σ (Watched η)) (place : ContextId) : w.Quiet (w.letHost place work).2 := by
  refine ⟨keepsTypes_letHost typed w place, ?_⟩
  rintro context handle ⟨host, here, member⟩
  rw [host?_letHost] at here
  split at here
  · obtain ⟨old, live, rfl⟩ := Option.map_eq_some_iff.mp here
    rw [received] at member
    exact ⟨old, live, member⟩
  · exact ⟨host, here, member⟩

theorem quiet_addHost (w : World σ (Watched η)) (host : η) : w.Quiet (w.addHost { host }).2 := by
  refine ⟨.refl _, ?_⟩
  rintro context handle ⟨found, here, member⟩
  unfold host? addHost at here
  by_cases old : context < w.hosts.length
  · rw [List.getElem?_append_left old] at here
    exact ⟨found, here, member⟩
  · -- the host that came in was offered nothing so far
    rw [List.getElem?_append_right (Nat.le_of_not_lt old)] at here
    have new : found = { host } := by
      cases place : context - w.hosts.length with
      | zero => simpa [place, eq_comm] using here
      | succ n => simp [place] at here
    rw [new] at member
    cases member

theorem quiet_dropHost (w : World σ (Watched η)) (context : ContextId) :
    w.Quiet (w.dropHost context) := by
  refine ⟨.refl _, ?_⟩
  rintro place handle ⟨found, here, member⟩
  refine ⟨found, ?_, member⟩
  unfold host? dropHost at *
  by_cases same : context = place
  · subst same
    by_cases inside : context < w.hosts.length <;> simp [inside] at here
  · rwa [List.getElem?_set_ne same] at here

theorem quiet_addAsset (w : World σ (Watched η)) (source : SourceId) (asset : Asset) :
    w.Quiet (w.addAsset source asset).2 :=
  quiet_of_types (w.hosts_addAsset source asset) (w.keepsTypes_addAsset source asset)

theorem quiet_attach (w : World σ (Watched η)) (handle : Handle) (context : ContextId) :
    w.Quiet (w.attach handle context).2 := by
  unfold attach
  cases here : w.source? handle.source with
  | none => exact .refl w
  | some value =>
      exact quiet_of_types rfl (Source.sameTypes_set here (Source.type_attach value context))

theorem quiet_editAs (w : World σ (Watched η)) (handle : Handle) (type : TypeIdent)
    (change : { f : σ → σ // ∀ value, Source.type (f value) = Source.type value }) :
    w.Quiet (w.editAs handle type change) := by
  unfold editAs
  cases viewed : w.viewAs handle type with
  | none => exact .refl w
  | some value =>
      have here : w.source? handle.source = some value :=
        (Option.filter_eq_some_iff.mp viewed).1
      exact quiet_of_types rfl (Source.sameTypes_set here (change.property value))

theorem carried_quiet [Host η σ] (typed : Host.KeepsTypes η σ) :
    Carried (Quiet : World σ (Watched η) → World σ (Watched η) → Prop) where
  refl := .refl
  trans first second := first.trans second
  addAsset := quiet_addAsset
  validate w context request := quiet_letHost (fun _ _ => rfl)
    (fun host sources => typed.validate host.host sources request) w context
  act w context source message := quiet_letHost (fun _ _ => rfl)
    (fun host sources => typed.act host.host sources source message) w context

end Quiet

section Offer

variable [Host η σ] {w : World σ (Watched η)}

theorem offered_offer {context place : ContextId} {handle other : Handle}
    (offered : (w.offer place handle).2.Offered context other) :
    w.Offered context other ∨ (context = place ∧ other = handle) := by
  obtain ⟨host, here, member⟩ := offered
  unfold offer at here
  rw [host?_letHost] at here
  split at here
  · rename_i same
    obtain ⟨old, live, rfl⟩ := Option.map_eq_some_iff.mp here
    rcases List.mem_append.mp member with earlier | last
    · exact .inl ⟨old, live, earlier⟩
    · exact .inr ⟨same.symm, List.mem_singleton.mp last⟩
  · exact .inl ⟨host, here, member⟩

end Offer

end World

structure FactoryCall.Made [Source σ] (call : FactoryCall σ) (handle : Handle) : Prop where
  place : handle.source = call.place
  type : handle.type = call.factory.type
  methods : handle.methods = call.factory.binding.methods
  built : ∃ built : σ, call.outcome = .ok built ∧
    (call.factory.binding.factory.build call.name call.fields).Yields built ∧
    (Source.type built).same call.factory.type = true ∧
    handle.name = Source.name (Source.attach built call.factory.context).2

theorem Host.KeepsTypes.watched [Source σ] [Host η σ] (typed : Host.KeepsTypes η σ) :
    Host.KeepsTypes (Watched η) σ where
  attach host sources handle := typed.attach host.host sources handle
  validate host sources request := typed.validate host.host sources request
  act host sources source message := typed.act host.host sources source message

/-- What a call lets a host be offered is the handle of what it built, and that fits. -/
theorem BoundFactory.offered_call [Source σ] [Host η σ] (typed : Host.KeepsTypes η σ)
    {f : BoundFactory σ} {w : World σ (Watched η)} {name : String} {fields : Fields}
    {context : ContextId} {handle : Handle}
    (offered : (f.call w name fields).2.Offered context handle) :
    w.Offered context handle ∨
      context = f.context ∧ (f.call w name fields).2.Fits handle ∧
        (Commons.noteOf w f name fields).Made handle := by
  have building : w.Quiet (f.build w name fields).2 := (World.carried_quiet typed).run w _ _
  rcases f.call_cases w name fields with ⟨cause, failed⟩ | ⟨built, made, fits, presented⟩
  · rw [failed] at offered
    exact .inl (building.offers _ _ offered)
  · rw [presented] at offered ⊢
    rcases World.offered_offer offered with earlier | ⟨here, rfl⟩
    · exact .inl (building.offers _ _ earlier)
    · have stays := fits_present (w := (f.build w name fields).2) typed.watched fits
      have yields := World.yields_of_run_eq_ok made
      exact .inr ⟨here, stays, rfl, rfl, rfl, built, made, yields, fits, rfl⟩

end SourceRegistry
