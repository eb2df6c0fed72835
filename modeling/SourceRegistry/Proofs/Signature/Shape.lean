import SourceRegistry.Proofs.Methods.Advertised
import SourceRegistry.Proofs.Signature.Merge

/-!
The shape of the signatures that a registration makes.  Each of them has one parameter of its own, then
the declared fields that are shown, and last a parameter that takes all other keyword fields.  Its text
follows the same order, with a bare star once if a field is shown.
-/

set_option autoImplicit false
set_option relaxedAutoImplicit false

namespace SourceRegistry

def FieldDecl.text (f : FieldDecl) : String :=
  f.name ++ ": " ++ f.type ++ (match f.default with | some d => " = " ++ d | none => "")

namespace Signature

def kwargs : Parameter := { name := "kwargs", role := .varKeyword }

def shown (own : Parameter) (fields : List FieldDecl) : List FieldDecl :=
  fields.filter fun f => f.name ≠ "type" ∧ f.name ≠ own.name ∧ f.name ≠ "kwargs"

/-- A signature presents fields beside a parameter of its own, both in its parameters and in its text. -/
structure Presents (s : Signature) (own : Parameter) (ownText : String) (fields : List FieldDecl)
    (answer : String) : Prop where
  parameters : s.parameters = own :: (shown own fields).map FieldDecl.parameter ++ [kwargs]
  returns : s.returns = some answer
  rendered : s.render = "(" ++ ownText ++ (if shown own fields = [] then "" else ", *") ++
    String.join ((shown own fields).map fun f => ", " ++ f.text) ++ ", **kwargs) -> " ++ answer
  nodup : (fields.map FieldDecl.name).Nodup → s.names.Nodup

variable {own : Parameter} {fields : List FieldDecl} {answer : String}

theorem plain_parameter (f : FieldDecl) : f.parameter.plain = f.text := by
  obtain ⟨name, type, default⟩ := f
  cases default <;> simp [Parameter.plain, FieldDecl.parameter, FieldDecl.text, String.append_assoc]

theorem intercalate_cons (first : String) (texts : List String) :
    ", ".intercalate (first :: texts) = first ++ String.join (texts.map (", " ++ ·)) := by
  induction texts generalizing first with
  | nil => simp
  | cons second rest ih =>
      rw [String.intercalate_cons_cons, ih, List.map_cons, String.join_cons]
      simp [String.append_assoc]

theorem renderFrom_true (fields : List FieldDecl) (rest : List Parameter) :
    renderFrom true (fields.map FieldDecl.parameter ++ rest) =
      fields.map FieldDecl.text ++ renderFrom true rest := by
  induction fields with
  | nil => rfl
  | cons f fields ih =>
      rw [List.map_cons, List.map_cons, List.cons_append, List.cons_append, ← ih, ← plain_parameter]
      rfl

theorem renderFrom_own (positional : own.role = .positional) (rest : List Parameter) :
    renderFrom false (own :: rest) = own.plain :: renderFrom false rest := by
  simp [renderFrom, positional]

theorem join_renderFrom_fields (fields : List FieldDecl) :
    String.join ((renderFrom false (fields.map FieldDecl.parameter ++ [kwargs])).map (", " ++ ·)) =
      (if fields = [] then "" else ", *") ++ String.join (fields.map fun f => ", " ++ f.text) ++
        ", **kwargs" := by
  cases fields with
  | nil => rfl
  | cons f fields =>
      have star : renderFrom false ((f :: fields).map FieldDecl.parameter ++ [kwargs]) =
          ("*, " ++ f.parameter.plain) ::
            renderFrom true (fields.map FieldDecl.parameter ++ [kwargs]) := rfl
      have last : (renderFrom true [kwargs]).map (", " ++ ·) = [", **kwargs"] := rfl
      rw [star, renderFrom_true, plain_parameter, if_neg (List.cons_ne_nil f fields)]
      have commas : ∀ text : String, ", " ++ ("*, " ++ text) = ", *" ++ (", " ++ text) := by
        intro text
        rw [← String.append_assoc, ← String.append_assoc]
        rfl
      simp only [List.map_cons, List.map_append, List.map_map, last, String.join_cons,
        String.join_append, String.join_nil, String.append_empty, String.append_assoc, commas,
        Function.comp_def]

/-- The signatures that a registration makes before it merges the declared fields. -/
def opening (own : Parameter) (answer : String) : Signature :=
  { parameters := [own, kwargs], returns := some answer }

theorem kept_opening (own : Parameter) (answer : String) (fields : List FieldDecl) :
    (opening own answer).kept fields ["type"] = shown own fields := by
  rw [kept_eq_filter]
  apply List.filter_congr
  intro f _
  simp [names, opening, kwargs]

theorem parameters_merged (positional : own.role = .positional) (answer : String)
    (fields : List FieldDecl) :
    ((opening own answer).mergeFields fields ["type"]).parameters =
      own :: (shown own fields).map FieldDecl.parameter ++ [kwargs] := by
  have split : (opening own answer).front = [own] ∧ (opening own answer).rest = [kwargs] := by
    simp [front, rest, opening, kwargs, positional]
  rw [parameters_mergeFields, split.1, split.2, kept_opening]
  rfl

theorem nodup_names {s : Signature}
    (parameters : s.parameters = own :: (shown own fields).map FieldDecl.parameter ++ [kwargs])
    (different : own.name ≠ "kwargs") (nodup : (fields.map FieldDecl.name).Nodup) :
    s.names.Nodup := by
  have names : s.names = own.name :: (shown own fields).map FieldDecl.name ++ ["kwargs"] := by
    simp [Signature.names, parameters, Function.comp_def, FieldDecl.parameter, kwargs]
  have fieldNames : ((shown own fields).map FieldDecl.name).Nodup :=
    nodup.sublist (List.filter_sublist.map _)
  have others : ∀ name ∈ (shown own fields).map FieldDecl.name,
      name ≠ own.name ∧ name ≠ "kwargs" := by
    intro name member
    obtain ⟨f, kept, rfl⟩ := List.mem_map.mp member
    have allowed := of_decide_eq_true (List.mem_filter.mp kept).2
    exact allowed.2
  rw [names, List.cons_append, List.nodup_cons, List.nodup_append]
  refine ⟨?_, fieldNames, by simp, ?_⟩
  · intro member
    rcases List.mem_append.mp member with shown | last
    · exact (others _ shown).1 rfl
    · exact different (List.mem_singleton.mp last)
  · intro name member other last
    rw [List.mem_singleton.mp last]
    exact (others name member).2

theorem presents_merged {ownText : String} (positional : own.role = .positional)
    (different : own.name ≠ "kwargs") (text : own.plain = ownText) (answer : String)
    (fields : List FieldDecl) :
    ((opening own answer).mergeFields fields ["type"]).Presents own ownText fields answer where
  parameters := parameters_merged positional answer fields
  returns := rfl
  rendered := by
    have returns : ((opening own answer).mergeFields fields ["type"]).returns = some answer := rfl
    rw [render, parameters_merged positional, returns, List.cons_append, renderFrom_own positional,
      text, intercalate_cons, join_renderFrom_fields]
    have closing : ", **kwargs" ++ (")" ++ (" -> " ++ answer)) = ", **kwargs) -> " ++ answer := by
      rw [← String.append_assoc, ← String.append_assoc]
      rfl
    simp only [String.append_assoc, closing]
  nodup := nodup_names (parameters_merged positional answer fields) different

def nameParameter : Parameter := { name := "name", role := .positional, type := some "str" }

def assetNameParameter : Parameter :=
  { name := "asset_name", role := .positional, type := some "str | None", default := some "None" }

end Signature

open Signature (nameParameter assetNameParameter presents_merged)

theorem SourceSpec.presents_factorySignature (spec : SourceSpec) :
    spec.factorySignature.Presents nameParameter "name: str" spec.fields spec.type.name :=
  presents_merged rfl (by decide) rfl spec.type.name spec.fields

namespace Method

theorem presents_addSignature (asset : AssetSpec) :
    (addSignature asset).Presents nameParameter "name: str" asset.fields asset.type.name :=
  presents_merged rfl (by decide) rfl asset.type.name asset.fields

theorem presents_readSignature (asset : AssetSpec) :
    (readSignature asset).Presents assetNameParameter "asset_name: str | None = None" asset.fields
      "Validator" :=
  presents_merged rfl (by decide) rfl "Validator" asset.fields

end Method

namespace Registry

variable {σ : Type} {r : Registry σ} {reg : Registration σ}

/-- Every signature that a registration makes when it is added has the same shape: those of the factory
and of the generated adds present the declared fields beside the name, and those of the generated reads
beside the name of the asset, which may be left out. -/
theorem added_presents (added : r.added reg ≠ []) :
    ∃ b, (r.attempt reg).2.binding? reg.factoryName = some b ∧
      b.signature.Presents nameParameter "name: str" reg.spec.fields reg.spec.type.name ∧
      ∀ {tag : String} {asset : AssetSpec}, (tag, asset) ∈ reg.spec.offers →
        reg.spec.declared.contains (Method.addName tag) = false →
        (∃ add, b.methods.get? (Method.addName tag) = some add ∧ add.origin = .generated ∧
          add.signature.Presents nameParameter "name: str" asset.fields asset.type.name) ∧
        ∃ read, b.methods.get? (Method.readName tag) = some read ∧ read.origin = .generated ∧
          read.signature.Presents assetNameParameter "asset_name: str | None = None" asset.fields
            "Validator" := by
  obtain ⟨-, bound, -⟩ := binding?_attempt_of_added added
  refine ⟨_, bound, reg.spec.presents_factorySignature, ?_⟩
  intro tag asset offered undeclared
  obtain ⟨add, read⟩ := get?_methods_nextBinding added offered undeclared
  exact ⟨⟨_, add, rfl, Method.presents_addSignature asset⟩,
    ⟨_, read, rfl, Method.presents_readSignature asset⟩⟩

theorem added_presents_clash :
    let reg := Samples.numbered ["ClashAsset"] []
    Registry.empty.added reg ≠ [] ∧
      ∃ b, (Registry.empty.attempt reg).2.binding? reg.factoryName = some b ∧
        b.signature.render = "(name: str, **kwargs) -> Numbered0" ∧
        (b.methods.get? "add_clash_asset").map (·.signature.render) =
          some ("(name: str, *, asset_name: str, dup: int, dup: str = 1, Type: str = 0, **kwargs)" ++
            " -> ClashAsset") ∧
        (b.methods.get? "read_clash").map (·.signature.render) =
          some ("(asset_name: str | None = None, *, name: str, dup: int, dup: str = 1, " ++
            "Type: str = 0, **kwargs) -> Validator") ∧
        b.signature.Presents nameParameter "name: str" reg.spec.fields reg.spec.type.name ∧
        ∀ {tag : String} {asset : AssetSpec}, (tag, asset) ∈ reg.spec.offers →
          reg.spec.declared.contains (Method.addName tag) = false →
          (∃ add, b.methods.get? (Method.addName tag) = some add ∧ add.origin = .generated ∧
            add.signature.Presents nameParameter "name: str" asset.fields asset.type.name) ∧
          ∃ read, b.methods.get? (Method.readName tag) = some read ∧ read.origin = .generated ∧
            read.signature.Presents assetNameParameter "asset_name: str | None = None" asset.fields
              "Validator" := by
  intro reg
  have added : Registry.empty.added reg ≠ [] := by decide +kernel
  have texts : ((Registry.empty.attempt reg).2.binding? reg.factoryName).map (fun b =>
      (b.signature.render, (b.methods.get? "add_clash_asset").map (·.signature.render),
        (b.methods.get? "read_clash").map (·.signature.render))) =
      some ("(name: str, **kwargs) -> Numbered0",
        some ("(name: str, *, asset_name: str, dup: int, dup: str = 1, Type: str = 0, **kwargs)" ++
          " -> ClashAsset"),
        some ("(asset_name: str | None = None, *, name: str, dup: int, dup: str = 1, " ++
          "Type: str = 0, **kwargs) -> Validator")) := by decide +kernel
  obtain ⟨b, bound, presents⟩ := added_presents added
  rw [bound] at texts
  simp only [Option.map_some, Option.some.injEq, Prod.mk.injEq] at texts
  exact ⟨added, b, bound, texts.1, texts.2.1, texts.2.2, presents⟩

end Registry

end SourceRegistry
