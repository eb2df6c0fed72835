import SourceRegistry.Proofs.Registration.Run

/-!
Private asset types have no influence on a registration.  Registrations that differ in private asset
types only, wherever those stand and whatever tags they have, have the same outcome, and the registry
after them is the same in every part.
-/

set_option autoImplicit false
set_option relaxedAutoImplicit false

namespace SourceRegistry

variable {σ : Type}

/-- Lists with the same public asset types in the same order; private ones may stand anywhere in either
of them. -/
inductive AssetSpec.SamePublic : List AssetSpec → List AssetSpec → Prop
  | nil : SamePublic [] []
  | both {first second : List AssetSpec} (asset : AssetSpec) (rest : SamePublic first second) :
      SamePublic (asset :: first) (asset :: second)
  | left {first second : List AssetSpec} {asset : AssetSpec} (hidden : asset.isPrivate = true)
      (rest : SamePublic first second) : SamePublic (asset :: first) second
  | right {first second : List AssetSpec} {asset : AssetSpec} (hidden : asset.isPrivate = true)
      (rest : SamePublic first second) : SamePublic first (asset :: second)

theorem AssetSpec.SamePublic.refl (assets : List AssetSpec) : SamePublic assets assets := by
  induction assets with
  | nil => exact .nil
  | cons asset _ ih => exact .both asset ih

structure SourceSpec.SamePublic (spec spec' : SourceSpec) : Prop where
  type : spec.type = spec'.type
  tag : spec.tag = spec'.tag
  fields : spec.fields = spec'.fields
  declared : spec.declared = spec'.declared
  assets : AssetSpec.SamePublic spec.assets spec'.assets

structure Registration.SamePublic (reg reg' : Registration σ) : Prop where
  spec : reg.spec.SamePublic reg'.spec
  factory : reg.factory = reg'.factory
  derived : reg.derived = reg'.derived

namespace Staging

variable {source source' : SourceSpec} {ephemeral : String} {round : Nat}

theorem stage_of_isPrivate {asset : AssetSpec} (hidden : asset.isPrivate = true)
    (staging : Staging) : stage source ephemeral round staging asset = .ok staging := by
  rw [stage, if_pos hidden]

theorem stage_congr (type : source.type = source'.type)
    (declared : source.declared = source'.declared) :
    stage source ephemeral round = stage source' ephemeral round := by
  funext staging asset
  simp only [stage, Method.bindGenerated, type, declared]

theorem foldlM_stage_of_samePublic {assets assets' : List AssetSpec}
    (same : AssetSpec.SamePublic assets assets') (staging : Staging) :
    assets.foldlM (stage source ephemeral round) staging =
      assets'.foldlM (stage source ephemeral round) staging := by
  induction same generalizing staging with
  | nil => rfl
  | both asset _ ih =>
      rw [List.foldlM_cons, List.foldlM_cons]
      cases stage source ephemeral round staging asset with
      | error cause => rfl
      | ok next => exact ih next
  | left hidden _ ih =>
      rw [List.foldlM_cons, stage_of_isPrivate hidden]
      exact ih staging
  | right hidden _ ih =>
      rw [List.foldlM_cons, stage_of_isPrivate hidden]
      exact ih staging

theorem ofSpec_of_samePublic (same : source.SamePublic source') (known : TagTable) :
    ofSpec source ephemeral round known = ofSpec source' ephemeral round known := by
  rw [ofSpec, ofSpec, stage_congr same.type same.declared, same.declared]
  exact foldlM_stage_of_samePublic same.assets _

end Staging

namespace Registry

variable {reg reg' : Registration σ}

theorem commit_of_samePublic (same : reg.SamePublic reg') (r : Registry σ) :
    r.commit reg = r.commit reg' := by
  have type := same.spec.type
  have signature : reg.spec.factorySignature = reg'.spec.factorySignature := by
    rw [SourceSpec.factorySignature, SourceSpec.factorySignature, type, same.spec.fields]
  simp only [commit, Staging.ofSpec_of_samePublic same.spec, type, same.spec.tag, same.factory,
    same.derived, signature]

theorem register_of_samePublic (same : reg.SamePublic reg') (r : Registry σ) :
    r.register reg = r.register reg' := by
  have repeated : ∀ bound : Binding σ, repeats bound reg = repeats bound reg' := by
    intro bound
    simp only [repeats, same.spec.type, same.spec.tag, same.factory, same.derived]
  unfold register
  simp only [commit_of_samePublic same, repeated, same.spec.type, same.spec.tag]

/-- A registration has the same outcome, the same error included, and leads to the same registry
whatever private asset types its description offers, and wherever in the list they stand. -/
theorem attempt_hides_private (same : reg.SamePublic reg') (r : Registry σ) :
    r.attempt reg = r.attempt reg' := by
  rw [attempt, attempt, register_of_samePublic same]

theorem attempt_hides_private_files :
    let asset (number : Nat) (typeName : String) (tag : Option String) : AssetSpec :=
      ((Samples.plainAsset typeName tag).sample number).spec
    let plain := Samples.numbered [] []
    let bare (more : List AssetSpec) : Registration Samples.SampleSource :=
      { plain with spec := { plain.spec with assets := asset 1 "FileAsset" (some "file") :: more } }
    let veiled (more : List AssetSpec) : Registration Samples.SampleSource :=
      { plain with spec := { plain.spec with
        assets := asset 2 "_Rows" (some "file") :: asset 1 "FileAsset" (some "file") ::
          asset 3 "_Cache" none :: more } }
    let untagged := [asset 4 "UntaggedAsset" none]
    (∀ more, (veiled more).SamePublic (bare more)) ∧
      (Registry.empty.attempt (veiled [])).1 = .ok () ∧
      Registry.empty.attempt (veiled []) = Registry.empty.attempt (bare []) ∧
      (Registry.empty.attempt (veiled untagged)).1 =
        .error (.badAsset "Numbered0" "UntaggedAsset" (.untagged "UntaggedAsset")) ∧
      Registry.empty.attempt (veiled untagged) = Registry.empty.attempt (bare untagged) := by
  intro asset plain bare veiled untagged
  have rows : (asset 2 "_Rows" (some "file")).isPrivate = true := by decide +kernel
  have cache : (asset 3 "_Cache" none).isPrivate = true := by decide +kernel
  have same : ∀ more, (veiled more).SamePublic (bare more) := fun more =>
    { spec :=
        { type := rfl
          tag := rfl
          fields := rfl
          declared := rfl
          assets := .left rows (.both _ (.left cache (.refl more))) }
      factory := rfl
      derived := rfl }
  exact ⟨same, by decide +kernel, attempt_hides_private (same []) Registry.empty,
    by decide +kernel, attempt_hides_private (same untagged) Registry.empty⟩

end Registry

end SourceRegistry
