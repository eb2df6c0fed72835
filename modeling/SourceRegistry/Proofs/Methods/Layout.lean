import SourceRegistry.Proofs.Methods.Declared

/-!
The layout of a method table.  The declared names come first; then every public asset type whose add
method is not declared brings the name of its add and, unless that is declared, the name of its read.
What is generated for an asset type builds assets of that type and of no other.
-/

set_option autoImplicit false
set_option relaxedAutoImplicit false

namespace SourceRegistry

namespace Program

variable {β γ : Type}

/-- A program may hand an asset to its datasource, whatever it is answered on the way. -/
inductive Hands : Program β → Asset → Prop
  | first {asset : Asset} {next : Except AssetError Asset → Program β} :
      Hands (.addAsset asset next) asset
  | afterAdd {asset handed : Asset} {next : Except AssetError Asset → Program β}
      (outcome : Except AssetError Asset) (later : Hands (next outcome) handed) :
      Hands (.addAsset asset next) handed
  | afterAsk {handed : Asset} {request : Request}
      {next : Option (Except HostError Validator) → Program β}
      (answer : Option (Except HostError Validator)) (later : Hands (next answer) handed) :
      Hands (.ask request next) handed
  | afterAct {handed : Asset} {context : ContextId} {message : String}
      {next : Option String → Program β} (reply : Option String)
      (later : Hands (next reply) handed) :
      Hands (.act context message next) handed

/-- A program only hands over assets and asks; it lets no application act. -/
def Plain : Program β → Prop
  | .done _ => True
  | .addAsset _ next => ∀ outcome, (next outcome).Plain
  | .ask _ next => ∀ outcome, (next outcome).Plain
  | .act _ _ _ => False

theorem not_hands_done {outcome : Except CallError β} {handed : Asset} :
    ¬ (Program.done outcome).Hands handed := nofun

theorem hands_buildAndAdd_iff {asset : AssetSpec} {source name : String} {fields : Fields}
    {handed : Asset} :
    (buildAndAdd asset source name fields).Hands handed ↔ asset.build name fields = .ok handed := by
  unfold buildAndAdd
  cases asset.build name fields with
  | error cause => exact iff_of_false not_hands_done nofun
  | ok built =>
      constructor
      · rintro (_ | ⟨refused | added, later⟩)
        · rfl
        · exact absurd later not_hands_done
        · exact absurd later not_hands_done
      · intro equal
        cases equal
        exact .first

theorem plain_buildAndAdd (asset : AssetSpec) (source name : String) (fields : Fields) :
    (buildAndAdd asset source name fields).Plain := by
  unfold buildAndAdd
  cases asset.build name fields with
  | error cause => trivial
  | ok built =>
      intro outcome
      cases outcome <;> trivial

theorem plain_askFor (source : String) (asset : Asset) : (askFor source asset).Plain := by
  intro outcome
  rcases outcome with _ | refused | validator <;> trivial

theorem Plain.andThen {p : Program β} {next : β → Program γ} (plain : p.Plain)
    (later : ∀ answer, (next answer).Plain) : (p.andThen next).Plain := by
  induction p with
  | done outcome =>
      cases outcome with
      | ok answer => exact later answer
      | error cause => trivial
  | addAsset asset rest ih => exact fun outcome => ih outcome (plain outcome)
  | ask request rest ih => exact fun outcome => ih outcome (plain outcome)
  | act context message rest ih => exact plain.elim

theorem plain_readProgram (asset : AssetSpec) (ephemeral source : String) (given : Option String)
    (fields : Fields) : (Method.readProgram asset ephemeral source given fields).Plain :=
  (plain_buildAndAdd asset source _ fields).andThen fun built => plain_askFor source built

theorem not_hands_askFor {source : String} {asset handed : Asset} :
    ¬ (askFor source asset).Hands handed := by
  rintro (_ | _ | ⟨answer, later⟩)
  rcases answer with _ | refused | validator <;> exact not_hands_done later

theorem hands_andThen_iff {p : Program β} {next : β → Program γ} {handed : Asset}
    (quiet : ∀ answer, ¬ (next answer).Hands handed) :
    (p.andThen next).Hands handed ↔ p.Hands handed := by
  induction p with
  | done outcome =>
      have none : ¬ ((Program.done outcome).andThen next).Hands handed := by
        cases outcome with
        | ok answer => exact quiet answer
        | error cause => exact not_hands_done
      exact iff_of_false none not_hands_done
  | addAsset asset rest ih =>
      constructor
      · rintro (_ | ⟨outcome, later⟩)
        · exact .first
        · exact .afterAdd outcome ((ih outcome).mp later)
      · rintro (_ | ⟨outcome, later⟩)
        · exact .first
        · exact .afterAdd outcome ((ih outcome).mpr later)
  | ask request rest ih =>
      constructor
      · rintro (_ | _ | ⟨answer, later⟩)
        exact .afterAsk answer ((ih answer).mp later)
      · rintro (_ | _ | ⟨answer, later⟩)
        exact .afterAsk answer ((ih answer).mpr later)
  | act context message rest ih =>
      constructor
      · rintro (_ | _ | _ | ⟨reply, later⟩)
        exact .afterAct reply ((ih reply).mp later)
      · rintro (_ | _ | _ | ⟨reply, later⟩)
        exact .afterAct reply ((ih reply).mpr later)

theorem hands_readProgram_iff {asset : AssetSpec} {ephemeral source : String}
    {given : Option String} {fields : Fields} {handed : Asset} :
    (Method.readProgram asset ephemeral source given fields).Hands handed ↔
      asset.build (Method.readTarget ephemeral given) fields = .ok handed := by
  rw [← hands_buildAndAdd_iff]
  exact hands_andThen_iff fun _ => not_hands_askFor

end Program

namespace Operation

/-- An add whose assets are those of one type, built under the name and from the fields of the call. -/
def Adds (operation : Operation) (asset : AssetSpec) : Prop :=
  ∃ id body, operation = .add id body ∧ ∀ (source name : String) (fields : Fields),
    (body source name fields).Plain ∧ ∀ handed : Asset,
      (body source name fields).Hands handed ↔ asset.build name fields = .ok handed

/-- A read whose assets are those of one type, built under the name that the read is for. -/
def Reads (operation : Operation) (asset : AssetSpec) (ephemeral : String) : Prop :=
  ∃ id body, operation = .read id body ∧
    ∀ (source : String) (given : Option String) (fields : Fields),
      (body source given fields).Plain ∧ ∀ handed : Asset,
        (body source given fields).Hands handed ↔
          asset.build (Method.readTarget ephemeral given) fields = .ok handed

theorem adds_generatedAdd (round : Nat) (tag : String) (asset : AssetSpec) :
    (Method.generatedAdd round tag asset).operation.Adds asset :=
  ⟨_, _, rfl, fun source name fields =>
    ⟨Program.plain_buildAndAdd asset source name fields, fun _ => Program.hands_buildAndAdd_iff⟩⟩

theorem reads_generatedRead (round : Nat) (tag : String) (asset : AssetSpec) (ephemeral : String) :
    (Method.generatedRead round tag asset ephemeral).operation.Reads asset ephemeral :=
  ⟨_, _, rfl, fun source given fields =>
    ⟨Program.plain_readProgram asset ephemeral source given fields,
      fun _ => Program.hands_readProgram_iff⟩⟩

end Operation

/-- A table is laid out as a description asks for. -/
structure Methods.LaidOut (table : Methods) (spec : SourceSpec) (ephemeral : String) : Prop where
  /-- The offers leave out no public asset type. -/
  tagged : spec.Tagged
  names : table.names = (spec.declared.names ++ spec.generatedNames).eraseDups
  /-- Of the generated names only those of reads can be declared. -/
  appended : table.names = spec.declared.names ++ spec.undeclared.flatMap fun offer =>
    Method.addName offer.1 ::
      if spec.declared.contains (Method.readName offer.1) then [] else [Method.readName offer.1]
  /-- Two asset types of the list share no generated name. -/
  apart : spec.offers.Pairwise fun first second =>
    List.Disjoint [Method.addName first.1, Method.readName first.1]
      [Method.addName second.1, Method.readName second.1]
  generated : ∀ {tag : String} {asset : AssetSpec}, (tag, asset) ∈ spec.offers →
    spec.declared.contains (Method.addName tag) = false →
    (∃ add, table.get? (Method.addName tag) = some add ∧ add.origin = .generated ∧
      add.operation.Adds asset) ∧
    ∃ read, table.get? (Method.readName tag) = some read ∧ read.origin = .generated ∧
      read.operation.Reads asset ephemeral
  /-- An asset type whose add method is declared gets nothing. -/
  skipped : ∀ {tag : String} {asset : AssetSpec}, (tag, asset) ∈ spec.offers →
    spec.declared.contains (Method.addName tag) = true →
    Method.addName tag ∉ spec.generatedNames ∧ Method.readName tag ∉ spec.generatedNames
  /-- What is not generated is as it was declared. -/
  others : ∀ name ∉ spec.generatedNames, table.get? name = spec.declared.get? name

namespace SourceSpec

variable {spec : SourceSpec} {ephemeral : String} {round : Nat}

theorem names_methodTable_eq_eraseDups :
    (spec.methodTable ephemeral round).names =
      (spec.declared.names ++ spec.generatedNames).eraseDups := by
  rw [methodTable_eq_putAll, NamedList.names_putAll_eq_eraseDups, map_fst_generated]

theorem generatedNames_removeAll_declared :
    spec.generatedNames.removeAll spec.declared.names = spec.undeclared.flatMap fun offer =>
      Method.addName offer.1 ::
        if spec.declared.contains (Method.readName offer.1) then []
        else [Method.readName offer.1] := by
  unfold generatedNames List.removeAll
  rw [List.filter_flatMap]
  apply List.flatMap_congr
  intro offer member
  have missing : spec.declared.contains (Method.addName offer.1) = false := by
    simpa using (List.mem_filter.mp member).2
  have new : Method.addName offer.1 ∉ spec.declared.names := by
    rw [NamedList.mem_names_iff, missing]
    exact Bool.false_ne_true
  by_cases declared : spec.declared.contains (Method.readName offer.1) = true
  · have held := NamedList.mem_names_iff.mpr declared
    simp [new, held, declared]
  · have fresh : Method.readName offer.1 ∉ spec.declared.names :=
      fun held => declared (NamedList.mem_names_iff.mp held)
    simp [new, fresh, declared]

theorem names_methodTable_eq_append (tags : (spec.offers.map Prod.fst).Nodup) :
    (spec.methodTable ephemeral round).names =
      spec.declared.names ++ spec.undeclared.flatMap fun offer =>
        Method.addName offer.1 ::
          if spec.declared.contains (Method.readName offer.1) then []
          else [Method.readName offer.1] := by
  have declared : spec.declared.names.Nodup := spec.declared.nodup
  have new : (spec.generatedNames.removeAll spec.declared.names).Nodup :=
    (nodup_generatedNames tags).filter _
  rw [names_methodTable_eq_eraseDups, List.eraseDups_append,
    NamedList.eraseDups_of_nodup declared, NamedList.eraseDups_of_nodup new,
    generatedNames_removeAll_declared]

theorem pairwise_disjoint_offers (tags : (spec.offers.map Prod.fst).Nodup) :
    spec.offers.Pairwise fun first second =>
      List.Disjoint [Method.addName first.1, Method.readName first.1]
        [Method.addName second.1, Method.readName second.1] := by
  rw [List.nodup_iff_pairwise_ne, List.pairwise_map] at tags
  exact tags.imp Method.disjoint_names

theorem not_mem_generatedNames_of_declaredAdd {tag : String}
    (declared : spec.declared.contains (Method.addName tag) = true) :
    Method.addName tag ∉ spec.generatedNames ∧ Method.readName tag ∉ spec.generatedNames := by
  constructor
  · intro generated
    obtain ⟨other, -, missing, equal | equal⟩ := mem_generatedNames_iff.mp generated
    · rw [Method.addName_inj.mp equal, missing] at declared
      cases declared
    · exact Method.addName_ne_readName _ _ equal
  · intro generated
    obtain ⟨other, -, missing, equal | equal⟩ := mem_generatedNames_iff.mp generated
    · exact Method.addName_ne_readName _ _ equal.symm
    · rw [Method.readName_inj.mp equal, missing] at declared
      cases declared

theorem laidOut_methodTable (tagged : spec.Tagged) (tags : (spec.offers.map Prod.fst).Nodup) :
    (spec.methodTable ephemeral round).LaidOut spec ephemeral where
  tagged := tagged
  names := names_methodTable_eq_eraseDups
  appended := names_methodTable_eq_append tags
  apart := pairwise_disjoint_offers tags
  generated offered missing := by
    obtain ⟨add, read⟩ := get?_methodTable_of_offer tags offered missing
    exact ⟨⟨_, add, rfl, Operation.adds_generatedAdd _ _ _⟩,
      ⟨_, read, rfl, Operation.reads_generatedRead _ _ _ _⟩⟩
  skipped _ declared := not_mem_generatedNames_of_declaredAdd declared
  others _ other := get?_methodTable_of_not_mem other

end SourceSpec

namespace Registry

variable {σ : Type}

/-- The method table that a registration commits is laid out as its description asks for. -/
theorem added_laidOut {r : Registry σ} {reg : Registration σ} (added : r.added reg ≠ []) :
    ∃ b, (r.attempt reg).2.binding? reg.factoryName = some b ∧
      b.methods.LaidOut reg.spec r.settings.ephemeralAsset := by
  obtain ⟨-, bound, tagged, indexed⟩ := binding?_attempt_of_added added
  exact ⟨_, bound, SourceSpec.laidOut_methodTable tagged (SourceSpec.nodup_offers indexed)⟩

theorem added_laidOut_lookalikes :
    let lookalike (number : Nat) (tag : String) : AssetSpec :=
      ((Samples.plainAsset "Lookalike" (some tag)).sample number).spec
    let plain := Samples.numbered ["FileAsset", "_PrivateFileAsset"]
      [("read_file", { operation := Samples.Behaviour.echoes.operation (.given 1) }),
        ("add_x_asset_asset", Samples.declaredAddFile)]
    let reg := { plain with
      spec := { plain.spec with
        assets := lookalike 1 "add_file_asset" :: plain.spec.assets ++ [lookalike 2 "x_asset"] } }
    Registry.empty.added reg ≠ [] ∧
      ∃ b, (Registry.empty.attempt reg).2.binding? reg.factoryName = some b ∧
        b.methods.names = ["read_file", "add_x_asset_asset", "add_add_file_asset_asset",
          "read_add_file_asset", "add_file_asset"] ∧
        b.methods.LaidOut reg.spec
          (Registry.empty (σ := Samples.SampleSource)).settings.ephemeralAsset := by
  intro lookalike plain reg
  have added : Registry.empty.added reg ≠ [] := by decide +kernel
  have names : ((Registry.empty.attempt reg).2.binding? reg.factoryName).map
      (fun b => b.methods.names) = some ["read_file", "add_x_asset_asset",
        "add_add_file_asset_asset", "read_add_file_asset", "add_file_asset"] := by decide +kernel
  obtain ⟨b, bound, laidOut⟩ := added_laidOut added
  rw [bound] at names
  exact ⟨added, b, bound, Option.some.inj names, laidOut⟩

end Registry

end SourceRegistry
