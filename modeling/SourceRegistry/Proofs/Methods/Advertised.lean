import SourceRegistry.Proofs.Methods.Reading

/-!
What signatures show against what calls take.  A reserved field is left out of a signature by the list
of excluded names or because an own parameter has its name.  The name of a generated read is passed as
`asset_name`, so a field that is declared as `name` is shown there, and every call that passes it is
refused.
-/

set_option autoImplicit false
set_option relaxedAutoImplicit false

namespace SourceRegistry

namespace Signature

def keywords (s : Signature) : List String :=
  (s.parameters.filter (·.role == .keywordOnly)).map (·.name)

theorem mem_keywords_mergeFields {s : Signature} {fields : List FieldDecl} {excluded : List String}
    {keyword : String} :
    keyword ∈ (s.mergeFields fields excluded).keywords ↔
      keyword ∈ s.keywords ∨
        (keyword ∈ fields.map FieldDecl.name ∧ keyword ∉ excluded ∧ keyword ∉ s.names) := by
  have whole : s.keywords =
      ((s.parameters.takeWhile (·.role != .varKeyword) ++
        s.parameters.dropWhile (·.role != .varKeyword)).filter (·.role == .keywordOnly)).map
          (·.name) := by
    rw [List.takeWhile_append_dropWhile]
    rfl
  have block : ((s.kept fields excluded).map FieldDecl.parameter).filter (·.role == .keywordOnly) =
      (s.kept fields excluded).map FieldDecl.parameter := by
    apply List.filter_eq_self.mpr
    intro parameter shown
    obtain ⟨field, -, rfl⟩ := List.mem_map.mp shown
    rfl
  have names : keyword ∈ ((s.kept fields excluded).map FieldDecl.parameter).map (·.name) ↔
      keyword ∈ fields.map FieldDecl.name ∧ keyword ∉ excluded ∧ keyword ∉ s.names := by
    simp only [kept, List.map_map, List.mem_map, List.mem_filter, Bool.and_eq_true,
      Bool.not_eq_true', List.contains_eq_mem, decide_eq_false_iff_not]
    constructor
    · rintro ⟨field, ⟨declared, outside⟩, rfl⟩
      exact ⟨⟨field, declared, rfl⟩, outside⟩
    · rintro ⟨⟨field, declared, rfl⟩, outside⟩
      exact ⟨field, ⟨declared, outside⟩, rfl⟩
  rw [← names, whole]
  simp only [keywords, mergeFields, List.filter_append, block, List.map_append, List.mem_append]
  tauto

end Signature

variable {β : Type}

def Refused (answer : Except CallError β) (field : String) : Prop :=
  ∃ type, answer = .error (.reservedField type field)

/-- A keyword is not reserved, and no call that passes it is refused because of it. -/
structure Passable (call : Fields → Except CallError β) (keyword : String) : Prop where
  unreserved : keyword ∉ reservedFields
  taken : ∀ fields : Fields, fields.contains keyword = true → ¬ Refused (call fields) keyword

namespace Signature

/-- Every keyword that a signature shows can be passed to the calls it describes. -/
def Honoured (s : Signature) (call : Fields → Except CallError β) : Prop :=
  ∀ keyword ∈ s.keywords, Passable call keyword

/-- A signature shows one keyword that all calls refuse; every other one can be passed. -/
structure Lapses (s : Signature) (call : Fields → Except CallError β) (keyword : String) : Prop where
  shown : keyword ∈ s.keywords
  reserved : keyword ∈ reservedFields
  refused : ∀ fields : Fields, fields.contains keyword = true → Refused (call fields) keyword
  others : ∀ other ∈ s.keywords, other ≠ keyword → Passable call other

end Signature

theorem mem_reservedFields_iff {field : String} :
    field ∈ reservedFields ↔ field = "name" ∨ field = "type" := by
  simp [reservedFields]

/-- A call refuses the first reserved field that it is given, and reports no other field so. -/
def ChecksReserved (call : Fields → Except CallError β) : Prop :=
  ∀ (fields : Fields) (field : String),
    Refused (call fields) field ↔ reservedFields.find? fields.contains = some field

theorem checksReserved_buildNamed {type : String} {decode : Fields → Except DecodeError β}
    {name : String} : ChecksReserved (buildNamed type decode name) := by
  intro fields field
  unfold Refused buildNamed
  cases reservedFields.find? fields.contains with
  | some first => simp
  | none => cases decode (fields.insert "name" (.text name)) <;> simp

namespace ChecksReserved

variable {call : Fields → Except CallError β} {s : Signature}

theorem passable (checks : ChecksReserved call) {keyword : String}
    (unreserved : keyword ∉ reservedFields) : Passable call keyword where
  unreserved := unreserved
  taken fields _ refused :=
    unreserved (List.mem_of_find?_eq_some ((checks fields keyword).mp refused))

theorem refused_name (checks : ChecksReserved call) {fields : Fields}
    (given : fields.contains "name" = true) : Refused (call fields) "name" := by
  apply (checks fields "name").mpr
  simp [reservedFields, given]

theorem honoured (checks : ChecksReserved call)
    (unreserved : ∀ keyword ∈ s.keywords, keyword ∉ reservedFields) : s.Honoured call :=
  fun keyword shown => checks.passable (unreserved keyword shown)

theorem lapses_name (checks : ChecksReserved call) (shown : "name" ∈ s.keywords)
    (untyped : "type" ∉ s.keywords) : s.Lapses call "name" where
  shown := shown
  reserved := mem_reservedFields_iff.mpr (.inl rfl)
  refused _ given := checks.refused_name given
  others other shown differs := by
    apply checks.passable
    intro reserved
    rcases mem_reservedFields_iff.mp reserved with rfl | rfl
    · exact differs rfl
    · exact untyped shown

end ChecksReserved

theorem Signature.unreserved_mergeFields {own : Signature} {fields : List FieldDecl}
    (bare : own.keywords = [])
    (named : "name" ∈ fields.map FieldDecl.name → "name" ∈ own.names) :
    ∀ keyword ∈ (own.mergeFields fields ["type"]).keywords, keyword ∉ reservedFields := by
  intro keyword shown reserved
  rw [mem_keywords_mergeFields, bare] at shown
  obtain ⟨declared, included, other⟩ := shown.resolve_left List.not_mem_nil
  rcases mem_reservedFields_iff.mp reserved with rfl | rfl
  · exact other (named declared)
  · exact included (List.mem_singleton.mpr rfl)

theorem SourceSpec.unreserved_factorySignature (spec : SourceSpec) :
    ∀ keyword ∈ spec.factorySignature.keywords, keyword ∉ reservedFields :=
  Signature.unreserved_mergeFields rfl fun _ => List.mem_cons_self

namespace Method

theorem unreserved_addSignature (asset : AssetSpec) :
    ∀ keyword ∈ (addSignature asset).keywords, keyword ∉ reservedFields :=
  Signature.unreserved_mergeFields rfl fun _ => List.mem_cons_self

theorem unreserved_readSignature {asset : AssetSpec}
    (unnamed : "name" ∉ asset.fields.map FieldDecl.name) :
    ∀ keyword ∈ (readSignature asset).keywords, keyword ∉ reservedFields :=
  Signature.unreserved_mergeFields rfl fun named => absurd named unnamed

theorem mem_keywords_readSignature {asset : AssetSpec} {keyword : String} :
    keyword ∈ (readSignature asset).keywords ↔
      keyword ∈ asset.fields.map FieldDecl.name ∧ keyword ∉ ["type"] ∧
        keyword ∉ ["asset_name", "kwargs"] := by
  rw [readSignature, Signature.mem_keywords_mergeFields]
  exact or_iff_right List.not_mem_nil

end Method

variable {σ η : Type} [Source σ] [Host η σ]

theorem BoundFactory.refused_call_iff {f : BoundFactory σ} {w : World σ η} {name : String}
    {fields : Fields} {field : String} :
    Refused (f.call w name fields).1 field ↔ Refused (f.build w name fields).1 field := by
  unfold BoundFactory.call
  rcases f.build w name fields with ⟨cause | built, w'⟩
  · simp [Refused]
  · simp only
    split
    · split <;> simp [Refused]
    · simp [Refused]

namespace World

theorem ReadAfter.refused_iff {w : World σ η} {h : Handle} {field : String}
    {added : Except CallError Asset × World σ η} {read : Except CallError Validator × World σ η}
    (after : ReadAfter w h added read) : Refused read.1 field ↔ Refused added.1 field := by
  cases after with
  | failed => simp [Refused]
  | detached => simp [Refused]
  | @asked _ _ _ _ _ answer => cases answer <;> simp [Refused, Except.mapError]

theorem checksReserved_run_buildAndAdd (w : World σ η) (source : SourceId) (spec : AssetSpec)
    (owner name : String) :
    ChecksReserved fun fields => (w.run source (Program.buildAndAdd spec owner name fields)).1 := by
  intro fields field
  have built : Refused (spec.build name fields) field ↔
      reservedFields.find? fields.contains = some field := checksReserved_buildNamed fields field
  simp only [run_buildAndAdd]
  rw [← built]
  cases spec.build name fields with
  | error cause => simp [Refused]
  | ok asset =>
      simp only
      cases (w.addAsset source asset).1 <;> simp [Refused, Except.mapError]

theorem checksReserved_invokeAdd {h : Handle} {method tag : String} {asset : AssetSpec} {round : Nat}
    (found : h.methods.get? method = some (Method.generatedAdd round tag asset)) (w : World σ η)
    (name : String) : ChecksReserved fun fields => (w.invokeAdd h method name fields).1 := by
  simp only [invokeAdd_of_generated found]
  exact w.checksReserved_run_buildAndAdd h.source asset h.name name

theorem checksReserved_invokeRead {h : Handle} {method tag ephemeral : String} {asset : AssetSpec}
    {round : Nat}
    (found : h.methods.get? method = some (Method.generatedRead round tag asset ephemeral))
    (w : World σ η) (given : Option String) :
    ChecksReserved fun fields => (w.invokeRead h method given fields).1 := by
  intro fields field
  simp only [invokeRead_of_generated found]
  rw [(w.readAfter_readProgram h asset ephemeral given fields).refused_iff]
  exact w.checksReserved_run_buildAndAdd h.source asset h.name _ fields field

end World

/-- What the operations of a binding show of the fields that a registration declares, and what their
calls make of it. -/
structure Binding.Advertises (b : Binding σ) (reg : Registration σ) (η : Type) [Host η σ] : Prop where
  /-- The signature of a factory shows no reserved field, whoever supplied the factory. -/
  unreserved : ∀ keyword ∈ b.signature.keywords, keyword ∉ reservedFields
  /-- A call of the factory refuses as reserved what the function behind it refuses, nothing else. -/
  refused_iff : ∀ (context : ContextId) (w : World σ η) (name : String) (fields : Fields)
    (field : String),
    Refused (({ binding := b, context } : BoundFactory σ).call w name fields).1 field ↔
      Refused (w.run w.sources.length (reg.factory.build name fields)).1 field
  /-- Where a kind builds the datasources, its factory takes all that is shown. -/
  factory : ∀ kind : SourceKind σ, reg.factory.build = kind.program →
    ∀ (context : ContextId) (w : World σ η) (name : String), b.signature.Honoured fun fields =>
      (({ binding := b, context } : BoundFactory σ).call w name fields).1
  add : ∀ {tag : String} {asset : AssetSpec}, (tag, asset) ∈ reg.spec.offers →
    reg.spec.declared.contains (Method.addName tag) = false →
    ∃ method, b.methods.get? (Method.addName tag) = some method ∧ method.origin = .generated ∧
      ∀ (w : World σ η) (h : Handle) (name : String), h.methods = b.methods →
        method.signature.Honoured fun fields => (w.invokeAdd h (Method.addName tag) name fields).1
  /-- A read takes all that is shown, unless the asset type declares a field called name. -/
  read : ∀ {tag : String} {asset : AssetSpec}, (tag, asset) ∈ reg.spec.offers →
    reg.spec.declared.contains (Method.addName tag) = false →
    ∃ method, b.methods.get? (Method.readName tag) = some method ∧ method.origin = .generated ∧
      ∀ (w : World σ η) (h : Handle) (given : Option String), h.methods = b.methods →
        let call : Fields → Except CallError Validator := fun fields =>
          (w.invokeRead h (Method.readName tag) given fields).1
        ("name" ∉ asset.fields.map FieldDecl.name → method.signature.Honoured call) ∧
          ("name" ∈ asset.fields.map FieldDecl.name → method.signature.Lapses call "name")

namespace Registry

omit [Source σ] in
theorem get?_methods_nextBinding {r : Registry σ} {reg : Registration σ} (added : r.added reg ≠ [])
    {tag : String} {asset : AssetSpec} (offered : (tag, asset) ∈ reg.spec.offers)
    (undeclared : reg.spec.declared.contains (Method.addName tag) = false) :
    (r.nextBinding reg).methods.get? (Method.addName tag) =
        some (Method.generatedAdd r.round tag asset) ∧
      (r.nextBinding reg).methods.get? (Method.readName tag) =
        some (Method.generatedRead r.round tag asset r.settings.ephemeralAsset) := by
  obtain ⟨-, -, -, indexed⟩ := binding?_attempt_of_added added
  exact SourceSpec.get?_methodTable_of_offer (SourceSpec.nodup_offers indexed) offered undeclared

/-- A registration that is added shows only fields that can be passed, in its factory and in every
method it generates, but for a field called name in the read of an asset type that declares one. -/
theorem advertised_passable_or_name {r : Registry σ} {reg : Registration σ}
    (added : r.added reg ≠ []) :
    ∃ b, (r.attempt reg).2.binding? reg.factoryName = some b ∧ b.Advertises reg η := by
  obtain ⟨-, bound, -⟩ := binding?_attempt_of_added added
  refine ⟨_, bound, ?_⟩
  constructor
  case unreserved => exact reg.spec.unreserved_factorySignature
  case refused_iff => exact fun context w name fields field => BoundFactory.refused_call_iff
  case factory =>
    intro kind builds context w name
    apply ChecksReserved.honoured _ reg.spec.unreserved_factorySignature
    intro fields field
    rw [BoundFactory.refused_call_iff]
    show Refused (w.run w.sources.length (reg.factory.build name fields)).1 field ↔ _
    rw [builds]
    exact checksReserved_buildNamed fields field
  case add =>
    intro tag asset offered undeclared
    obtain ⟨found, -⟩ := get?_methods_nextBinding added offered undeclared
    refine ⟨_, found, rfl, fun w h name methods => ?_⟩
    rw [← methods] at found
    have checks := w.checksReserved_invokeAdd found name
    exact checks.honoured (Method.unreserved_addSignature asset)
  case read =>
    intro tag asset offered undeclared
    obtain ⟨-, found⟩ := get?_methods_nextBinding added offered undeclared
    refine ⟨_, found, rfl, fun w h given methods => ?_⟩
    rw [← methods] at found
    have checks := w.checksReserved_invokeRead found given
    refine ⟨fun unnamed => ?_, fun named => ?_⟩
    · exact checks.honoured (Method.unreserved_readSignature unnamed)
    · apply checks.lapses_name
      · exact Method.mem_keywords_readSignature.mpr ⟨named, by simp, by simp⟩
      · intro shown
        obtain ⟨-, included, -⟩ := Method.mem_keywords_readSignature.mp shown
        exact included (List.mem_singleton.mpr rfl)

theorem advertised_passable_or_name_clash :
    let kind : SourceKind Samples.SampleSource := Samples.KindParts.kind
      { id := "clash", typeName := "ClashDatasource", tag := "clash"
        fields := [Samples.field "name" "str", Samples.field "port" "u16"]
        assets := ["ClashAsset", "FileAsset"] } 0
    let reg := Registry.empty.registrationOf kind
    Registry.empty.added reg ≠ [] ∧ reg.factory.build = kind.program ∧
      reg.spec.offers.map (fun offer => (offer.1, offer.2.fields.map FieldDecl.name)) =
        [("clash", ["name", "asset_name", "kwargs", "dup", "dup", "type", "Type"]),
          ("file", ["type", "path", "sep"])] ∧
      ∃ b, (Registry.empty.attempt reg).2.binding? reg.factoryName = some b ∧
        b.signature.keywords = ["port"] ∧ b.Advertises reg Samples.SampleHost := by
  intro kind reg
  have added : Registry.empty.added reg ≠ [] := by decide +kernel
  have shown : ((Registry.empty.attempt reg).2.binding? reg.factoryName).map
      (fun b => b.signature.keywords) = some ["port"] := by decide +kernel
  obtain ⟨b, bound, advertised⟩ : ∃ b,
      (Registry.empty.attempt reg).2.binding? reg.factoryName = some b ∧
        b.Advertises reg Samples.SampleHost := advertised_passable_or_name added
  rw [bound] at shown
  exact ⟨added, rfl, by decide +kernel, b, bound, Option.some.inj shown, advertised⟩

/-- The read of an asset type with a field called name shows that field, which is reserved, and
refuses every call that passes it. -/
theorem read_shows_reserved_name :
    let reg := Samples.numbered ["ClashAsset"] []
    let fields : Fields := [("name", .text "mine")]
    Registry.empty.added reg ≠ [] ∧
      ∃ b method, (Registry.empty.attempt reg).2.binding? reg.factoryName = some b ∧
        b.methods.get? "read_clash" = some method ∧ method.origin = .generated ∧
        "name" ∈ method.signature.keywords ∧ "name" ∈ reservedFields ∧
        fields.contains "name" = true ∧
        ∀ (w : World Samples.SampleSource Samples.SampleHost) (h : Handle) (given : Option String),
          h.methods = b.methods → Refused (w.invokeRead h "read_clash" given fields).1 "name" := by
  intro reg fields
  have added : Registry.empty.added reg ≠ [] := by decide +kernel
  obtain ⟨-, bound, -⟩ := binding?_attempt_of_added added
  have tagged : "clash" ∈ reg.spec.offers.map Prod.fst := by decide +kernel
  obtain ⟨⟨tag, asset⟩, offered, rfl⟩ := List.mem_map.mp tagged
  have names : reg.spec.offers.all
      (fun offer => decide ("name" ∈ (Method.readSignature offer.2).keywords)) = true := by
    decide +kernel
  have undeclared : reg.spec.declared.contains (Method.addName "clash") = false := by decide +kernel
  obtain ⟨-, found⟩ := get?_methods_nextBinding added offered undeclared
  refine ⟨added, _, _, bound, found, rfl, ?_, by decide, by decide +kernel, ?_⟩
  · exact of_decide_eq_true (List.all_eq_true.mp names _ offered)
  · intro w h given methods
    rw [← methods] at found
    exact (w.checksReserved_invokeRead found given).refused_name (by decide +kernel)

end Registry

end SourceRegistry
