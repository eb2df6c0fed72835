import SourceRegistry.Proofs.Methods.Declared
import SourceRegistry.Proofs.Site.Places
import SourceRegistry.Samples.Host

/-!
Generated reads.  A generated read does what the generated add of the same tag does, under the name that
it was given or the ephemeral one, and then asks the live context of the datasource one question.  A
read that fails after the add leaves the asset where it is.
-/

set_option autoImplicit false
set_option relaxedAutoImplicit false

namespace SourceRegistry

variable {σ η : Type}

/-- Hosts change no datasource when they are asked for a validator. -/
def Host.OnlyAnswers (η σ : Type) [Host η σ] : Prop :=
  ∀ (host : η) (sources : List σ) (request : Request),
    (Host.validate host sources request).2.2 = sources

variable [Source σ] [Host η σ]

namespace Handle

variable (h : Handle) {method tag ephemeral : String} {asset : AssetSpec} {round : Nat}

theorem addProgram_of_generated
    (found : h.methods.get? method = some (Method.generatedAdd round tag asset)) (name : String)
    (fields : Fields) :
    h.addProgram method name fields = Program.buildAndAdd asset h.name name fields := by
  simp [addProgram, Handle.method, found, Method.generatedAdd]

theorem readProgram_of_generated
    (found : h.methods.get? method = some (Method.generatedRead round tag asset ephemeral))
    (given : Option String) (fields : Fields) :
    h.readProgram method given fields = Method.readProgram asset ephemeral h.name given fields := by
  simp [readProgram, Handle.method, found, Method.generatedRead]

end Handle

namespace World

variable {β γ : Type}

/-- What a read answers and leaves behind, by what the add of the asset answered and left behind. -/
inductive ReadAfter (w : World σ η) (h : Handle) :
    Except CallError Asset × World σ η → Except CallError Validator × World σ η → Prop
  | failed {cause : CallError} {w' : World σ η} (unasked : w'.hosts = w.hosts) :
      ReadAfter w h (.error cause, w') (.error cause, w')
  | detached {asset : Asset} {w' : World σ η} (unasked : w'.hosts = w.hosts)
      (alone : w'.contextOf h.source = none) :
      ReadAfter w h (.ok asset, w') (.error (.detached h.name), w')
  /-- The context was asked once, for the data of the asset, and its answer is the result.  The world
  is then as the host left it. -/
  | asked {asset : Asset} {w' : World σ η} {context : ContextId} {host host' : η}
      {answer : Except HostError Validator} {sources : List σ} (unasked : w'.hosts = w.hosts)
      (attached : w'.contextOf h.source = some context) (live : w'.host? context = some host)
      (validated : Host.validate host w'.sources (asset.request h.name) = (answer, host', sources)) :
      ReadAfter w h (.ok asset, w')
        (answer.mapError .host, { w' with sources }.setHost context host')

theorem run_andThen (w : World σ η) (source : SourceId) (p : Program β) (next : β → Program γ) :
    w.run source (p.andThen next) =
      match w.run source p with
      | (.ok answer, w') => w'.run source (next answer)
      | (.error cause, w') => (.error cause, w') := by
  induction p generalizing w with
  | done outcome => cases outcome <;> rfl
  | addAsset asset rest ih =>
      simp only [Program.andThen, run]
      exact ih _ _
  | ask request rest ih =>
      simp only [Program.andThen, run]
      exact ih _ _
  | act context message rest ih =>
      simp only [Program.andThen, run]
      exact ih _ _

theorem run_buildAndAdd (w : World σ η) (source : SourceId) (spec : AssetSpec) (owner name : String)
    (fields : Fields) :
    w.run source (Program.buildAndAdd spec owner name fields) =
      match spec.build name fields with
      | .error cause => (.error cause, w)
      | .ok asset => ((w.addAsset source asset).1.mapError (.assetRefused owner),
          (w.addAsset source asset).2) := by
  unfold Program.buildAndAdd
  cases spec.build name fields with
  | error cause => rfl
  | ok asset =>
      simp only [run]
      rcases w.addAsset source asset with ⟨refusal | added, w'⟩ <;> rfl

theorem hosts_run_buildAndAdd (w : World σ η) (source : SourceId) (spec : AssetSpec)
    (owner name : String) (fields : Fields) :
    (w.run source (Program.buildAndAdd spec owner name fields)).2.hosts = w.hosts := by
  rw [run_buildAndAdd]
  cases spec.build name fields with
  | error cause => rfl
  | ok asset => exact w.hosts_addAsset source asset

omit [Host η σ] in
theorem host?_of_contextOf {w : World σ η} {source : SourceId} {context : ContextId}
    (attached : w.contextOf source = some context) : ∃ host, w.host? context = some host := by
  unfold contextOf at attached
  exact Option.isSome_iff_exists.mp (Option.filter_eq_some_iff.mp attached).2

theorem readAfter_of_askFor {w w' : World σ η} (h : Handle) (unasked : w'.hosts = w.hosts)
    (asset : Asset) :
    ReadAfter w h (.ok asset, w') (w'.run h.source (Program.askFor h.name asset)) := by
  cases attached : w'.contextOf h.source with
  | none =>
      have steps : w'.run h.source (Program.askFor h.name asset) = (.error (.detached h.name), w') := by
        simp only [Program.askFor, run, ask, attached]
        rfl
      rw [steps]
      exact .detached unasked attached
  | some context =>
      obtain ⟨host, live⟩ := host?_of_contextOf attached
      rcases validated : Host.validate host w'.sources (asset.request h.name) with
        ⟨answer, host', sources⟩
      have steps : w'.run h.source (Program.askFor h.name asset) =
          (answer.mapError .host, { w' with sources }.setHost context host') := by
        simp only [Program.askFor, run, ask, attached, letHost_of_live live, validated]
        cases answer <;> rfl
      rw [steps]
      exact .asked unasked attached live validated

theorem ReadAfter.sources {w : World σ η} {h : Handle} {added : Except CallError Asset × World σ η}
    {read : Except CallError Validator × World σ η} (answering : Host.OnlyAnswers η σ)
    (after : ReadAfter w h added read) : read.2.sources = added.2.sources := by
  cases after with
  | failed => rfl
  | detached => rfl
  | @asked asset w' context host host' answer sources unasked attached live validated =>
      have left := answering host w'.sources (asset.request h.name)
      rw [validated] at left
      exact left

theorem invokeAdd_of_generated {h : Handle} {method tag : String} {asset : AssetSpec} {round : Nat}
    (found : h.methods.get? method = some (Method.generatedAdd round tag asset)) (w : World σ η)
    (name : String) (fields : Fields) :
    w.invokeAdd h method name fields =
      w.run h.source (Program.buildAndAdd asset h.name name fields) := by
  rw [invokeAdd, h.addProgram_of_generated found]

theorem invokeRead_of_generated {h : Handle} {method tag ephemeral : String} {asset : AssetSpec}
    {round : Nat}
    (found : h.methods.get? method = some (Method.generatedRead round tag asset ephemeral))
    (w : World σ η) (given : Option String) (fields : Fields) :
    w.invokeRead h method given fields =
      w.run h.source (Method.readProgram asset ephemeral h.name given fields) := by
  rw [invokeRead, h.readProgram_of_generated found]

theorem readAfter_readProgram (w : World σ η) (h : Handle) (asset : AssetSpec) (ephemeral : String)
    (given : Option String) (fields : Fields) :
    ReadAfter w h
      (w.run h.source
        (Program.buildAndAdd asset h.name (Method.readTarget ephemeral given) fields))
      (w.run h.source (Method.readProgram asset ephemeral h.name given fields)) := by
  have unasked := w.hosts_run_buildAndAdd h.source asset h.name
    (Method.readTarget ephemeral given) fields
  unfold Method.readProgram
  rw [run_andThen]
  generalize w.run h.source
    (Program.buildAndAdd asset h.name (Method.readTarget ephemeral given) fields) = added at unasked ⊢
  rcases added with ⟨cause | asset, w'⟩
  · exact .failed unasked
  · exact readAfter_of_askFor h unasked asset

end World

theorem Method.readTarget_eq {ephemeral name : String} {given : Option String}
    (named : (given = some name ∧ name ≠ "") ∨
      ((given = none ∨ given = some "") ∧ name = ephemeral)) :
    Method.readTarget ephemeral given = name := by
  unfold Method.readTarget
  rcases named with ⟨rfl, filled⟩ | ⟨rfl | rfl, rfl⟩
  · simp [Option.filter, filled]
  · rfl
  · rfl

theorem Samples.SampleHost.onlyAnswers : Host.OnlyAnswers Samples.SampleHost Samples.SampleSource :=
  fun _ _ _ => rfl

namespace Registry

open World (ReadAfter)

omit [Source σ]

variable {start r : Registry σ} {log : List (Registration σ)} {reg : Registration σ} {b : Binding σ}
  {tag : String} {asset : AssetSpec}

theorem Fresh.ephemeralAsset_ne (fresh : start.Fresh) : start.settings.ephemeralAsset ≠ "" := by
  rcases fresh with rfl | ⟨settings, made⟩
  · simp [Registry.empty]
  · obtain ⟨checked, rfl⟩ := withSettings_eq_ok_iff.mp made
    unfold Settings.validate at checked
    cases first : settings.firstEmpty with
    | some field => simp [first] at checked
    | none =>
        have listed : ("ephemeral_asset_name", settings.ephemeralAsset) ∈ settings.required := by
          simp [Settings.required]
        have filled := List.find?_eq_none.mp (Option.map_eq_none_iff.mp first) _ listed
        simpa using filled

theorem AccountedBy.generated_of_offer (accounted : r.AccountedBy log) (member : reg ∈ log)
    (bound : r.binding? reg.factoryName = some b) (offered : (tag, asset) ∈ reg.spec.offers)
    (undeclared : reg.spec.declared.contains (Method.addName tag) = false) :
    ∃ round, b.methods.get? (Method.addName tag) = some (Method.generatedAdd round tag asset) ∧
      b.methods.get? (Method.readName tag) =
        some (Method.generatedRead round tag asset r.settings.ephemeralAsset) := by
  obtain ⟨round, here⟩ := List.mem_iff_getElem?.mp member
  have found := accounted.binding?_eq_some_iff.mpr ⟨round, reg, here, rfl, rfl⟩
  obtain rfl := Option.some.inj (bound.symm.trans found)
  obtain ⟨-, -, indexed⟩ := accounted.valid reg member
  exact ⟨round, SourceSpec.get?_methodTable_of_offer (SourceSpec.nodup_offers indexed) offered
    undeclared⟩

variable [Source σ]

/-- For a handle with the methods of a committed registration, a generated read is the generated add of
the same tag, under the given name or else the ephemeral one, and after it one question to the live
context of the datasource.  The datasources stay as the add left them, unless the host changes one when it
is asked. -/
theorem invokeRead_eq_add_then_ask (fresh : start.Fresh) (grown : Grows start log r)
    (member : reg ∈ log) (bound : r.binding? reg.factoryName = some b)
    (offered : (tag, asset) ∈ reg.spec.offers)
    (undeclared : reg.spec.declared.contains (Method.addName tag) = false) {h : Handle}
    (methods : h.methods = b.methods) {given : Option String} {name : String}
    (named : (given = some name ∧ name ≠ "") ∨
      ((given = none ∨ given = some "") ∧ name = r.settings.ephemeralAsset))
    (w : World σ η) (fields : Fields) :
    name ≠ "" ∧
      ReadAfter w h (w.invokeAdd h (Method.addName tag) name fields)
        (w.invokeRead h (Method.readName tag) given fields) ∧
      (Host.OnlyAnswers η σ → (w.invokeRead h (Method.readName tag) given fields).2.sources =
        (w.invokeAdd h (Method.addName tag) name fields).2.sources) := by
  have accounted : r.AccountedBy log := by simpa using fresh.accountedBy_nil.grows grown
  obtain ⟨round, add, read⟩ := accounted.generated_of_offer member bound offered undeclared
  rw [← methods] at add read
  have target := Method.readTarget_eq named
  have after := w.readAfter_readProgram h asset r.settings.ephemeralAsset given fields
  rw [target, ← World.invokeAdd_of_generated add, ← World.invokeRead_of_generated read] at after
  refine ⟨?_, after, fun answering => after.sources answering⟩
  rcases named with ⟨-, filled⟩ | ⟨-, rfl⟩
  · exact filled
  · rw [grown.settings]
    exact fresh.ephemeralAsset_ne

theorem invokeRead_eq_add_then_ask_table :
    let reg := Samples.numbered ["TableAsset"] []
    let r := (Samples.lenient.attempt reg).2
    let b := Samples.lenient.nextBinding reg
    let h : Handle := { source := 0, type := reg.spec.type, name := "data", methods := b.methods }
    let start : World Samples.SampleSource Samples.SampleHost := (World.empty.addHost {}).2
    let w := ({ binding := b, context := 0 : BoundFactory _ }.call start "data" []).2
    let fields : Fields := [("rows", .int 3)]
    let name := "#ephemeral_pandas_asset"
    Samples.lenient.added reg = [reg] ∧ r.binding? reg.factoryName = some b ∧
      reg.spec.offers.map Prod.fst = ["table"] ∧
      reg.spec.declared.contains (Method.addName "table") = false ∧
      name = r.settings.ephemeralAsset ∧
      ((w.invokeRead h (Method.readName "table") none fields).2.host? 0).map
          (fun host => host.requests.map fun seen => (seen.request.source, seen.request.asset)) =
        some [("data", "table:#ephemeral_pandas_asset")] ∧
      Host.OnlyAnswers Samples.SampleHost Samples.SampleSource ∧
      (((w.dropHost 0).invokeRead h (Method.readName "table") none fields).2.source? 0).map
          (fun source => source.shelf.names) = some [name] ∧
      ∀ v ∈ [w, w.dropHost 0], name ≠ "" ∧
        ReadAfter v h (v.invokeAdd h (Method.addName "table") name fields)
          (v.invokeRead h (Method.readName "table") none fields) ∧
        (Host.OnlyAnswers Samples.SampleHost Samples.SampleSource →
          (v.invokeRead h (Method.readName "table") none fields).2.sources =
            (v.invokeAdd h (Method.addName "table") name fields).2.sources) := by
  intro reg r b h start w fields name
  have some_added : Samples.lenient.added reg ≠ [] := by decide +kernel
  obtain ⟨-, bound, -⟩ := binding?_attempt_of_added some_added
  have logged : Samples.lenient.added reg = [reg] := by
    rcases Samples.fresh_lenient.accountedBy_nil.added_cases reg with ⟨-, nothing⟩ | ⟨-, -, logged⟩
    · exact absurd nothing some_added
    · exact logged
  have tags : reg.spec.offers.map Prod.fst = ["table"] := by decide +kernel
  have tagged : "table" ∈ reg.spec.offers.map Prod.fst := by simp [tags]
  obtain ⟨⟨tag, asset⟩, offered, rfl⟩ := List.mem_map.mp tagged
  have undeclared : reg.spec.declared.contains (Method.addName "table") = false := by decide +kernel
  have member : reg ∈ Samples.lenient.added reg := by simp [logged]
  have ephemeral : name = r.settings.ephemeralAsset := by decide +kernel
  refine ⟨logged, bound, tags, undeclared, ephemeral, by decide +kernel,
    Samples.SampleHost.onlyAnswers, by decide +kernel, ?_⟩
  intro v _
  exact invokeRead_eq_add_then_ask Samples.fresh_lenient (.single Samples.lenient reg) member bound
    offered undeclared rfl (.inr ⟨.inl rfl, ephemeral⟩) v fields

end Registry

end SourceRegistry
