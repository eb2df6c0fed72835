import Mathlib.Data.List.MinMax
import SourceRegistry.Proofs.Site.Views
import SourceRegistry.Proofs.Suggestion.Distance

/-!
What is suggested in place of an unknown name.  It is the first of the known names at the least
distance, and nothing where that distance is too large; the limit is applied after the choice.  A
façade that does not resolve a name suggests so among the names of its factories, in the order of
their registration.
-/

set_option autoImplicit false
set_option relaxedAutoImplicit false

namespace SourceRegistry

namespace Suggestion

/-- A name of a list to which none is nearer; it stands before all others that are as near. -/
structure Nearest (distance : String → Nat) (known : List String) (best : String) : Prop where
  listed : best ∈ known
  least : ∀ other ∈ known, distance best ≤ distance other
  earliest : ∀ other ∈ known, distance other ≤ distance best →
    known.idxOf best ≤ known.idxOf other

variable {distance : String → Nat} {known : List String} {best name : String}

theorem nearest_eq_argmin (distance : String → Nat) (known : List String) :
    nearest distance known = known.argmin distance := by
  induction known with
  | nil => rfl
  | cons name rest ih =>
      rw [List.argmin_cons, ← ih, nearest]
      cases nearest distance rest <;> rfl

theorem nearest_eq_some_iff : nearest distance known = some best ↔ Nearest distance known best := by
  rw [nearest_eq_argmin, List.argmin_eq_some_iff]
  constructor
  · rintro ⟨listed, least, earliest⟩
    exact ⟨listed, least, earliest⟩
  · rintro ⟨listed, least, earliest⟩
    exact ⟨listed, least, earliest⟩

theorem suggest_eq_some_iff :
    suggest name known = some best ↔
      Nearest (editDistance name) known best ∧ editDistance name best ≤ reach := by
  rw [suggest, Option.filter_eq_some_iff, nearest_eq_some_iff, decide_eq_true_iff]

theorem suggest_eq_none_iff :
    suggest name known = none ↔ ∀ other ∈ known, reach < editDistance name other := by
  rw [suggest, Option.filter_eq_none_iff]
  constructor
  · intro silent other member
    cases found : nearest (editDistance name) known with
    | none =>
        rw [nearest_eq_argmin, List.argmin_eq_none] at found
        rw [found] at member
        cases member
    | some best =>
        have far := silent best found
        have least := (nearest_eq_some_iff.mp found).least other member
        simp only [decide_eq_true_eq] at far
        omega
  · intro far best found
    have beyond := far best (nearest_eq_some_iff.mp found).listed
    simp only [decide_eq_true_eq]
    omega

end Suggestion

open Suggestion (Edits Nearest)

/-- The refusal of a name suggests, by the least numbers of edits that turn the name into the known
ones, the first of the nearest, if it is at most three edits away. -/
structure UnknownFactory.SuggestsNearest (cause : UnknownFactory) (known : List String)
    (distance : String → Nat) : Prop where
  least : ∀ other : String,
    IsLeast {count | Edits count cause.name.toList other.toList} (distance other)
  none_iff : cause.suggestion = none ↔ ∀ other ∈ known, 3 < distance other
  some_iff : ∀ best : String,
    cause.suggestion = some best ↔ Nearest distance known best ∧ distance best ≤ 3

namespace Facade

variable {σ : Type} {f : Facade σ} {start : Registry σ} {log : List (Registration σ)} {name : String}

/-- A façade over a registry that was reached by registrations refuses a name that it does not resolve,
and suggests the first registered of the nearest factory names, if it is near enough. -/
theorem resolve_suggests_nearest (fresh : start.Fresh) (grown : Registry.Grows start log f.registry)
    (unknown : ∀ factory, f.resolve name ≠ .ok factory) :
    ∃ cause, f.resolve name = .error cause ∧ cause.name = name ∧
      ∃ distance, cause.SuggestsNearest (log.map Registration.factoryName) distance := by
  have ordered : f.factories = log.map Registration.factoryName :=
    (fresh.accountedBy grown).factoryNames
  cases outcome : f.resolve name with
  | ok factory => exact absurd outcome (unknown factory)
  | error cause =>
      obtain rfl := resolve_eq_error outcome
      rw [← ordered]
      refine ⟨_, rfl, rfl, Suggestion.editDistance name, ?_⟩
      exact
        { least := fun other => Suggestion.distance_isLeast name.toList other.toList
          none_iff := Suggestion.suggest_eq_none_iff
          some_iff := fun best => Suggestion.suggest_eq_some_iff }

theorem resolve_suggests_nearest_tie :
    let plain := Samples.numbered [] []
    let reg (number : Nat) (tag : String) : Registration Samples.SampleSource :=
      { plain with spec := { plain.spec with tag, type := { number, name := "Numbered" } } }
    let regs := [reg 0 "eat", reg 1 "zeta", reg 2 "beta"]
    let f : Facade Samples.SampleSource := { registry := Samples.lenient.tryAll regs, context := 0 }
    f.factories = ["add_eat", "add_zeta", "add_beta"] ∧
      (["add_eat", "add_zeta", "add_beta"].map (Suggestion.editDistance "add_eta")) = [2, 1, 1] ∧
      (∀ factory, f.resolve "add_eta" ≠ .ok factory) ∧
      ∃ cause, f.resolve "add_eta" = .error cause ∧ cause.name = "add_eta" ∧
        cause.suggestion = some "add_zeta" ∧
        ∃ distance, cause.SuggestsNearest
          ((Samples.lenient.addedAll regs).map Registration.factoryName) distance := by
  intro plain reg regs f
  have grown := Registry.grows_tryAll Samples.lenient regs
  have listed : f.factories = ["add_eat", "add_zeta", "add_beta"] := by decide +kernel
  have unknown : ∀ factory, f.resolve "add_eta" ≠ .ok factory := by
    intro factory resolved
    have member := (f.exists_resolve_iff "add_eta").mp ⟨factory, resolved⟩
    rw [listed] at member
    exact absurd member (by decide)
  obtain ⟨cause, refused, named, suggests⟩ :=
    resolve_suggests_nearest Samples.fresh_lenient grown unknown
  refine ⟨listed, by decide +kernel, unknown, cause, refused, named, ?_, suggests⟩
  rw [resolve_eq_error refused, listed]
  decide +kernel

end Facade

end SourceRegistry
