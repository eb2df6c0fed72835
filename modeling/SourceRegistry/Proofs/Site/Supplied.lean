import SourceRegistry.Proofs.Methods.Advertised
import SourceRegistry.Proofs.Site.Decision

/-!
The fields that the registry supplies itself.  Whoever passes one of them is refused before anything is
decoded; whoever does not gets an object that was decoded from the passed fields and the name that the
call is for.  What comes after that sees the object only, so on no way into the registry can the name be
chosen by a field.
-/

set_option autoImplicit false
set_option relaxedAutoImplicit false

namespace SourceRegistry

namespace Fields

def named (fields : Fields) (name : String) : Fields := fields.insert "name" (.text name)

/-- The reserved field that fields are refused for; of two it is the name. -/
inductive Reserves (fields : Fields) : String → Prop
  | name (given : fields.contains "name" = true) : Reserves fields "name"
  | type (unnamed : fields.contains "name" = false) (given : fields.contains "type" = true) :
      Reserves fields "type"

structure Free (fields : Fields) : Prop where
  unnamed : fields.contains "name" = false
  untyped : fields.contains "type" = false

/-- A record holds fields and a name, and nothing else. -/
structure Holds (record fields : Fields) (name : String) : Prop where
  supplied : record.get? "name" = some (.text name)
  others : ∀ key ≠ "name", record.get? key = fields.get? key
  entries : record.Perm (("name", .text name) :: fields)

variable {fields : Fields} {field name : String}

theorem find?_reservedFields_iff :
    reservedFields.find? fields.contains = some field ↔ fields.Reserves field := by
  constructor
  · intro found
    cases named : fields.contains "name" with
    | true =>
        obtain rfl : "name" = field := by simpa [reservedFields, named] using found
        exact .name named
    | false =>
        cases typed : fields.contains "type" with
        | true =>
            obtain rfl : "type" = field := by simpa [reservedFields, named, typed] using found
            exact .type named typed
        | false => simp [reservedFields, named, typed] at found
  · rintro (⟨given⟩ | ⟨unnamed, given⟩)
    · simp [reservedFields, given]
    · simp [reservedFields, unnamed, given]

theorem find?_reservedFields_of_free (free : fields.Free) :
    reservedFields.find? fields.contains = none := by
  simp [reservedFields, free.unnamed, free.untyped]

theorem reserves_or_free (fields : Fields) : (∃ field, fields.Reserves field) ∨ fields.Free := by
  cases named : fields.contains "name" with
  | true => exact .inl ⟨_, .name named⟩
  | false =>
      cases typed : fields.contains "type" with
      | true => exact .inl ⟨_, .type named typed⟩
      | false => exact .inr ⟨named, typed⟩

theorem insert_perm {value : Value} (absent : fields.contains name = false) :
    (fields.insert name value).Perm ((name, value) :: fields) := by
  induction fields with
  | nil => exact .rfl
  | cons entry rest ih =>
      obtain ⟨key, held⟩ := entry
      have other : key ≠ name := by
        rintro rfl
        simp [contains, get?] at absent
      have apart : (name == key) = false := by simpa using Ne.symm other
      have later : contains rest name = false := by
        simpa [contains, get?, List.lookup_cons, apart] using absent
      simp only [insert, if_neg other]
      split
      · exact .rfl
      · exact ((ih later).cons (key, held)).trans (.swap (name, value) (key, held) rest)

theorem Free.holds_named (free : fields.Free) (name : String) :
    (fields.named name).Holds fields name where
  supplied := by simp [named, get?_insert]
  others key other := by simp [named, get?_insert, other]
  entries := insert_perm free.unnamed

end Fields

variable {α β γ : Type}

/-- A type is built by decoding fields and a name, unless a reserved field is passed. -/
structure BuildsNamed (type : String) (decode : Fields → Except DecodeError α)
    (build : String → Fields → Except CallError α) : Prop where
  refused_iff : ∀ (name : String) (fields : Fields) (type' field : String),
    build name fields = .error (.reservedField type' field) ↔ type' = type ∧ fields.Reserves field
  decoded : ∀ (name : String) (fields : Fields), fields.Free →
    build name fields = (decode (fields.named name)).mapError (.undecodable type name)

theorem buildsNamed (type : String) (decode : Fields → Except DecodeError α) :
    BuildsNamed type decode (buildNamed type decode) where
  refused_iff name fields type' field := by
    rw [← Fields.find?_reservedFields_iff]
    unfold buildNamed
    cases reservedFields.find? fields.contains with
    | some first => simp [eq_comm]
    | none => cases decode (fields.insert "name" (.text name)) <;> simp
  decoded name fields free := by
    unfold buildNamed Fields.named
    rw [Fields.find?_reservedFields_of_free free]
    cases decode (fields.insert "name" (.text name)) <;> rfl

/-- A call in a world decodes the fields that it is given together with a name, and goes on with what
was built.  Where nothing is built the world stays as it is. -/
structure CallsNamed (type : String) (decode : Fields → Except DecodeError α) (name : String) (w : γ)
    (finish : α → Except CallError β × γ) (call : Fields → Except CallError β × γ) : Prop where
  refused_iff : ∀ (fields : Fields) (type' field : String),
    (call fields).1 = .error (.reservedField type' field) ↔ type' = type ∧ fields.Reserves field
  refused : ∀ (fields : Fields) (field : String), fields.Reserves field →
    call fields = (.error (.reservedField type field), w)
  undecoded : ∀ (fields : Fields) (cause : DecodeError), fields.Free →
    decode (fields.named name) = .error cause →
      call fields = (.error (.undecodable type name cause), w)
  decoded : ∀ (fields : Fields) (built : α), fields.Free →
    decode (fields.named name) = .ok built → call fields = finish built

theorem BuildsNamed.callsNamed {type name : String} {decode : Fields → Except DecodeError α}
    {build : String → Fields → Except CallError α} {w : γ} {finish : α → Except CallError β × γ}
    {call : Fields → Except CallError β × γ} (builds : BuildsNamed type decode build)
    (checks : ChecksReserved fun fields => (call fields).1)
    (fails : ∀ (fields : Fields) (cause : CallError), build name fields = .error cause →
      call fields = (.error cause, w))
    (made : ∀ (fields : Fields) (built : α), build name fields = .ok built →
      call fields = finish built) :
    CallsNamed type decode name w finish call := by
  have refused : ∀ (fields : Fields) (field : String), fields.Reserves field →
      call fields = (.error (.reservedField type field), w) := by
    intro fields field reserves
    exact fails fields _ ((builds.refused_iff name fields type field).mpr ⟨rfl, reserves⟩)
  constructor
  case refused_iff =>
    intro fields type' field
    constructor
    · intro answer
      have reserves : fields.Reserves field :=
        Fields.find?_reservedFields_iff.mp ((checks fields field).mp ⟨type', answer⟩)
      rw [refused fields field reserves] at answer
      simp only [Except.error.injEq, CallError.reservedField.injEq] at answer
      exact ⟨answer.1.symm, reserves⟩
    · rintro ⟨rfl, reserves⟩
      rw [refused fields field reserves]
  case refused => exact refused
  case undecoded =>
    intro fields cause free undecoded
    have outcome := builds.decoded name fields free
    rw [undecoded] at outcome
    exact fails fields _ outcome
  case decoded =>
    intro fields built free decoded
    have outcome := builds.decoded name fields free
    rw [decoded] at outcome
    exact made fields built outcome

namespace Program

def addTo (source : String) (asset : Asset) : Program Asset :=
  .addAsset asset fun
    | .ok added => .done (.ok added)
    | .error cause => fail (.assetRefused source cause)

variable {spec : AssetSpec} {source name : String} {fields : Fields}

theorem buildAndAdd_of_error {cause : CallError} (fails : spec.build name fields = .error cause) :
    buildAndAdd spec source name fields = fail cause := by
  simp only [buildAndAdd, fails]

theorem buildAndAdd_of_ok {asset : Asset} (made : spec.build name fields = .ok asset) :
    buildAndAdd spec source name fields = addTo source asset := by
  simp only [buildAndAdd, made]
  rfl

end Program

variable {σ η : Type} [Source σ] [Host η σ]

namespace BoundFactory

def handOver (f : BoundFactory σ) (w : World σ η) (built : σ) : Except CallError Handle × World σ η :=
  if (Source.type built).same f.type then f.present w built else (.error (.wrongType f.type), w)

variable {f : BoundFactory σ}

theorem call_of_made {name : String} {fields : Fields} {built : σ} {w w' : World σ η}
    (made : f.build w name fields = (.ok built, w')) : f.call w name fields = f.handOver w' built := by
  unfold handOver
  split
  · rename_i fits
    exact call_of_fits made fits
  · rename_i differs
    exact call_of_otherType made (Bool.eq_false_iff.mpr differs)

theorem build_of_derived {kind : SourceKind σ} (derived : f.binding.factory.build = kind.program)
    (w : World σ η) (name : String) (fields : Fields) :
    f.build w name fields = (kind.build name fields, w) := by
  unfold build
  rw [derived]
  rfl

theorem callsNamed_call {kind : SourceKind σ} (derived : f.binding.factory.build = kind.program)
    (w : World σ η) (name : String) :
    CallsNamed kind.spec.type.name kind.decode name w (f.handOver w) (f.call w name) := by
  refine (buildsNamed kind.spec.type.name kind.decode).callsNamed ?_ ?_ ?_
  · intro fields field
    rw [refused_call_iff, build_of_derived derived]
    exact checksReserved_buildNamed fields field
  · intro fields cause fails
    have made := build_of_derived derived w name fields
    exact call_of_fails (made.trans (congrArg (·, w) fails))
  · intro fields built outcome
    have made := build_of_derived derived w name fields
    exact call_of_made (made.trans (congrArg (·, w) outcome))

end BoundFactory

namespace World

variable {h : Handle} {method tag : String} {asset : AssetSpec} {round : Nat}

theorem callsNamed_invokeAdd
    (found : h.methods.get? method = some (Method.generatedAdd round tag asset)) (w : World σ η)
    (name : String) :
    CallsNamed asset.type.name asset.decode name w
      (fun built => w.run h.source (Program.addTo h.name built)) (w.invokeAdd h method name) := by
  refine (buildsNamed asset.type.name asset.decode).callsNamed ?_ ?_ ?_
  · exact w.checksReserved_invokeAdd found name
  · intro fields cause fails
    rw [invokeAdd_of_generated found, Program.buildAndAdd_of_error fails]
    rfl
  · intro fields built made
    rw [invokeAdd_of_generated found, Program.buildAndAdd_of_ok made]

theorem callsNamed_invokeRead {ephemeral : String}
    (found : h.methods.get? method = some (Method.generatedRead round tag asset ephemeral))
    (w : World σ η) (given : Option String) :
    CallsNamed asset.type.name asset.decode (Method.readTarget ephemeral given) w
      (fun built => w.run h.source ((Program.addTo h.name built).andThen (Program.askFor h.name)))
      (w.invokeRead h method given) := by
  refine (buildsNamed asset.type.name asset.decode).callsNamed ?_ ?_ ?_
  · exact w.checksReserved_invokeRead found given
  · intro fields cause fails
    rw [invokeRead_of_generated found, Method.readProgram, Program.buildAndAdd_of_error fails]
    rfl
  · intro fields built made
    rw [invokeRead_of_generated found, Method.readProgram, Program.buildAndAdd_of_ok made]

end World

/-- On every way from fields into a registry the name is the one that the call is for. -/
structure Binding.SuppliesNames (b : Binding σ) (reg : Registration σ) (r : Registry σ) (η : Type)
    [Host η σ] : Prop where
  factory : ∀ kind : SourceKind σ, reg.factory.build = kind.program →
    ∀ (context : ContextId) (w : World σ η) (name : String),
      let f : BoundFactory σ := { binding := b, context }
      CallsNamed kind.spec.type.name kind.decode name w (f.handOver w) (f.call w name)
  /-- A default datasource that is not there yet is decoded from its name alone. -/
  default : ∀ kind : SourceKind σ, reg.factory.build = kind.program →
    ∀ (context : ContextId) (w : World σ η),
      let facade : Facade σ := { registry := r, context }
      let f : BoundFactory σ := { binding := b, context }
      facade.defaultFactory = reg.factoryName → facade.existingDefault w = none →
        facade.default w =
          match kind.decode (Fields.named [] facade.defaultName) with
          | .error cause =>
            (.error (.create (.undecodable kind.spec.type.name facade.defaultName cause)), w)
          | .ok built => ((f.handOver w built).1.mapError .create, (f.handOver w built).2)
  add : ∀ {tag : String} {asset : AssetSpec}, (tag, asset) ∈ reg.spec.offers →
    reg.spec.declared.contains (Method.addName tag) = false →
    ∀ (w : World σ η) (h : Handle) (name : String), h.methods = b.methods →
      CallsNamed asset.type.name asset.decode name w
        (fun built => w.run h.source (Program.addTo h.name built))
        (w.invokeAdd h (Method.addName tag) name)
  /-- A read without a name takes the ephemeral one. -/
  read : ∀ {tag : String} {asset : AssetSpec}, (tag, asset) ∈ reg.spec.offers →
    reg.spec.declared.contains (Method.addName tag) = false →
    ∀ (w : World σ η) (h : Handle) (given : Option String) (name : String), h.methods = b.methods →
      (given = some name ∧ name ≠ "") ∨
          ((given = none ∨ given = some "") ∧ name = r.settings.ephemeralAsset) →
        CallsNamed asset.type.name asset.decode name w
          (fun built =>
            w.run h.source ((Program.addTo h.name built).andThen (Program.askFor h.name)))
          (w.invokeRead h (Method.readName tag) given)

theorem Facade.default_of_callsNamed {facade : Facade σ} {w : World σ η} {b : Binding σ}
    {type : String} {decode : Fields → Except DecodeError σ}
    {finish : σ → Except CallError Handle × World σ η}
    (absent : facade.existingDefault w = none)
    (bound : facade.registry.binding? facade.defaultFactory = some b)
    (calls : CallsNamed type decode facade.defaultName w finish
      (BoundFactory.call { binding := b, context := facade.context } w facade.defaultName)) :
    facade.default w =
      match decode (Fields.named [] facade.defaultName) with
      | .error cause => (.error (.create (.undecodable type facade.defaultName cause)), w)
      | .ok built => ((finish built).1.mapError .create, (finish built).2) := by
  have free : Fields.Free [] := ⟨rfl, rfl⟩
  rw [default_eq_of_absent_bound absent bound]
  cases outcome : decode (Fields.named [] facade.defaultName) with
  | error cause =>
      rw [calls.undecoded [] cause free outcome]
      rfl
  | ok built => rw [calls.decoded [] built free outcome]

namespace Registry

variable {start r : Registry σ} {log : List (Registration σ)} {reg : Registration σ} {b : Binding σ}

omit [Source σ] in
theorem AccountedBy.factory_of_bound (accounted : r.AccountedBy log) (member : reg ∈ log)
    (bound : r.binding? reg.factoryName = some b) : b.factory = reg.factory := by
  obtain ⟨round, here⟩ := List.mem_iff_getElem?.mp member
  have found := accounted.binding?_eq_some_iff.mpr ⟨round, reg, here, rfl, rfl⟩
  obtain rfl := Option.some.inj (bound.symm.trans found)
  rfl

/-- Datasources and assets are decoded from fields that hold no reserved one, and from the name that is
supplied beside them; reserved fields are refused and nothing is built.  This is so on every way into
a registry. -/
theorem names_supplied (fresh : start.Fresh) (grown : Grows start log r) (member : reg ∈ log)
    (bound : r.binding? reg.factoryName = some b) :
    (∀ kind : SourceKind σ, BuildsNamed kind.spec.type.name kind.decode kind.build) ∧
      (∀ asset : AssetSpec, BuildsNamed asset.type.name asset.decode asset.build) ∧
      (∀ fields : Fields, (∃ field, fields.Reserves field) ∨
        fields.Free ∧ ∀ name, (fields.named name).Holds fields name) ∧
      b.SuppliesNames reg r η := by
  have accounted : r.AccountedBy log := fresh.accountedBy grown
  have behind : b.factory = reg.factory := accounted.factory_of_bound member bound
  have called (kind : SourceKind σ) (derived : reg.factory.build = kind.program) (context : ContextId)
      (w : World σ η) (name : String) :
      let f : BoundFactory σ := { binding := b, context }
      CallsNamed kind.spec.type.name kind.decode name w (f.handOver w) (f.call w name) :=
    BoundFactory.callsNamed_call (by rw [← derived, ← behind]) w name
  refine ⟨fun kind => buildsNamed _ _, fun asset => buildsNamed _ _,
    fun fields => fields.reserves_or_free.imp_right fun free => ⟨free, free.holds_named⟩, ?_⟩
  constructor
  case factory => exact called
  case default =>
    intro kind derived context w facade f configured absent
    refine Facade.default_of_callsNamed absent ?_ (called kind derived context w facade.defaultName)
    rw [configured]
    exact bound
  case add =>
    intro tag asset offered undeclared w h name methods
    obtain ⟨round, found, -⟩ := accounted.generated_of_offer member bound offered undeclared
    rw [← methods] at found
    exact World.callsNamed_invokeAdd found w name
  case read =>
    intro tag asset offered undeclared w h given name methods named
    obtain ⟨round, -, found⟩ := accounted.generated_of_offer member bound offered undeclared
    rw [← methods] at found
    have calls := World.callsNamed_invokeRead found w given
    rwa [Method.readTarget_eq named] at calls

theorem names_supplied_pandas :
    let reg := Registry.empty.registrationOf Samples.pandas
    let r := (Registry.empty.attempt reg).2
    let b := Registry.empty.nextBinding reg
    let fields : Fields := [("flag", .int 1), ("name", .text "mine"), ("type", .text "pandas")]
    Registry.empty.added reg = [reg] ∧ r.binding? reg.factoryName = some b ∧
      reg.factory.build = Samples.pandas.program ∧
      reg.spec.offers.map Prod.fst = ["dataframe"] ∧
      reg.spec.declared.contains (Method.addName "dataframe") = false ∧
      factoryName r.settings.defaultSource.tag = reg.factoryName ∧ fields.Reserves "name" ∧
      (∀ kind : SourceKind Samples.SampleSource,
        BuildsNamed kind.spec.type.name kind.decode kind.build) ∧
      (∀ asset : AssetSpec, BuildsNamed asset.type.name asset.decode asset.build) ∧
      (∀ fields : Fields, (∃ field, fields.Reserves field) ∨
        fields.Free ∧ ∀ name, (fields.named name).Holds fields name) ∧
      b.SuppliesNames reg r Samples.SampleHost := by
  intro reg r b fields
  have some_added : Registry.empty.added reg ≠ [] := by decide +kernel
  obtain ⟨-, bound, -⟩ := binding?_attempt_of_added some_added
  have fresh : (Registry.empty : Registry Samples.SampleSource).Fresh := .inl rfl
  have logged : Registry.empty.added reg = [reg] := by
    rcases fresh.accountedBy_nil.added_cases reg with ⟨-, nothing⟩ | ⟨-, -, logged⟩
    · exact absurd nothing some_added
    · exact logged
  have member : reg ∈ Registry.empty.added reg := by simp [logged]
  exact ⟨logged, bound, rfl, by decide +kernel, by decide +kernel, by decide +kernel,
    .name (by decide +kernel), names_supplied fresh (.single Registry.empty reg) member bound⟩

end Registry

end SourceRegistry
