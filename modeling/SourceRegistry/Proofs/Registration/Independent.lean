import SourceRegistry.Proofs.Methods.Alike
import SourceRegistry.Proofs.Registration.Determined
import SourceRegistry.Proofs.Registration.Verdict

/-!
Registrations that do not touch one another.  Where tags and datasource types differ, no registration
changes the outcome of another, whatever asset types and methods the two have in common.  Hence a list
of such registrations gives every one of them the same result in any order, and the registries that
two orders lead to differ in nothing but the order of what came in.
-/

set_option autoImplicit false
set_option relaxedAutoImplicit false

namespace SourceRegistry

variable {σ : Type}

namespace Registration

def Apart (a b : Registration σ) : Prop :=
  a.spec.tag ≠ b.spec.tag ∧ a.spec.type.same b.spec.type = false

instance (a b : Registration σ) : Decidable (a.Apart b) := inferInstanceAs (Decidable (_ ∧ _))

theorem Apart.symm {a b : Registration σ} (apart : a.Apart b) : b.Apart a := by
  refine ⟨apart.1.symm, ?_⟩
  have types := apart.2
  simp only [TypeIdent.same, beq_eq_false_iff_ne] at types ⊢
  exact types.symm

theorem bindingAt_alike (reg : Registration σ) (ephemeral : String) (round round' : Nat) :
    (reg.bindingAt ephemeral round).Alike (reg.bindingAt ephemeral round') where
  name := rfl
  tag := rfl
  type := rfl
  factory := rfl
  derived := rfl
  signature := rfl
  methods := reg.spec.methodTable_alike ephemeral round round'

end Registration

/-- Two catalogs hold the same, up to the order of entries and the identity of generated methods. -/
structure Catalog.SameButOrder (a b : Catalog σ) : Prop where
  sources : a.sources.entries.Perm b.sources.entries
  factoryNames : a.factoryNames.Perm b.factoryNames
  bindings : ∀ name : String, Option.Rel Binding.Alike (a.factory? name) (b.factory? name)
  assets : ∀ type : TypeIdent, a.assetsOf? type = b.assetsOf? type

structure Catalog.GrownBy (earlier later : Catalog σ) (news : List (Registration σ)) : Prop where
  sources : later.sources.entries =
    earlier.sources.entries ++ news.map fun reg => (reg.spec.tag, reg.spec.type)
  factoryNames : later.factoryNames =
    earlier.factoryNames ++ news.map fun reg => factoryName reg.spec.tag

namespace Registry

variable {start r r' : Registry σ} {log log' : List (Registration σ)} {reg other : Registration σ}
  {regs regs' : List (Registration σ)} {outcome : Except RegistrationError Unit}

section Extend

variable (apart : other.Apart reg)

include apart

theorem binding?_extend_of_apart :
    (r.extend other).binding? reg.factoryName = r.binding? reg.factoryName := by
  have names : reg.factoryName ≠ other.factoryName := fun same =>
    apart.1 (factoryName_inj.mp same.symm)
  rw [binding?_extend, if_neg names]

theorem assetEntries_extend_of_apart :
    (r.extend other).catalog.assetEntries reg.spec.type =
      r.catalog.assetEntries reg.spec.type := by
  have numbers : other.spec.type.number ≠ reg.spec.type.number := by
    simpa [TypeIdent.same] using apart.2
  simp [Catalog.assetEntries, Catalog.assetsOf?, Registry.extend, Std.TreeMap.getElem?_insert,
    numbers]

theorem Verdict.extend_of_apart (verdict : r.Verdict reg outcome r') :
    ∃ r'', (r.extend other).Verdict reg outcome r'' := by
  have bindings := binding?_extend_of_apart (r := r) apart
  have assets := assetEntries_extend_of_apart (r := r) apart
  have agains : (r.extend other).Again reg ↔ r.Again reg := by
    unfold Again
    rw [bindings]
    rfl
  cases verdict with
  | untagged empty => exact ⟨_, .untagged empty⟩
  | again tagged again => exact ⟨_, .again tagged (agains.mpr again)⟩
  | nameTaken tagged different bound =>
      exact ⟨_, .nameTaken tagged (fun again => different (agains.mp again)) (by rwa [bindings])⟩
  | badAsset tagged free fault =>
      exact ⟨_, .badAsset tagged (by rwa [bindings]) (by rwa [assets])⟩
  | typeTaken tagged free faultless taken same another =>
      exact ⟨_, .typeTaken tagged (by rwa [bindings]) (by rwa [assets])
        (List.mem_append_left _ taken) same another⟩
  | committed tagged free faultless newType =>
      refine ⟨_, .committed tagged (by rwa [bindings]) (by rwa [assets]) ?_⟩
      intro entry member
      rcases List.mem_append.mp member with earlier | last
      · exact newType entry earlier
      · obtain rfl := List.mem_singleton.mp last
        exact apart.2

end Extend

namespace AccountedBy

theorem added_eq (accounted : r.AccountedBy log) (reg : Registration σ) :
    r.added reg =
      if r.binding? reg.factoryName = none ∧ (r.attempt reg).1 = .ok () then [reg] else [] := by
  cases outcome : r.register reg with
  | error cause => simp [added, Registry.attempt, outcome]
  | ok r' =>
      rcases accounted.register_cases outcome with ⟨bound, found, -, -, rfl⟩ | ⟨admitted, rfl⟩
      · simp [added, outcome, found]
      · have grown : (r.extend reg).factories ≠ r.factories := by
          rw [(accounted.extend admitted).factoryNames, accounted.factoryNames]
          simp
        rw [attempt_eq_of_ok outcome]
        simp [added, outcome, grown, admitted.free]

theorem attempt_of_apart (accounted : r.AccountedBy log) (apart : other.Apart reg) :
    ((r.attempt other).2.attempt reg).1 = (r.attempt reg).1 ∧
      (r.attempt other).2.added reg = r.added reg := by
  rcases accounted.added_cases other with ⟨unchanged, -⟩ | ⟨admitted, tried, -⟩
  · rw [unchanged]
    exact ⟨rfl, rfl⟩
  · have extended := accounted.extend admitted
    have verdict := accounted.verdict_attempt reg
    obtain ⟨r'', later⟩ := verdict.extend_of_apart apart
    have same : ((r.extend other).attempt reg).1 = (r.attempt reg).1 := by
      rw [extended.attempt_of_verdict later]
    rw [tried]
    refine ⟨same, ?_⟩
    have bindings := binding?_extend_of_apart (r := r) apart
    rw [extended.added_eq, accounted.added_eq, same, bindings]

theorem outcomes_of_apart (accounted : r.AccountedBy log) (apart : regs.Pairwise Registration.Apart) :
    r.outcomes regs = regs.map (fun reg => (r.attempt reg).1) ∧
      r.addedAll regs = regs.flatMap r.added := by
  induction regs generalizing r log with
  | nil => exact ⟨rfl, rfl⟩
  | cons first rest ih =>
      obtain ⟨head, tail⟩ := List.pairwise_cons.mp apart
      obtain ⟨outcomes, news⟩ := ih (accounted.attempt first) tail
      have alone := fun reg member => accounted.attempt_of_apart (head reg member)
      constructor
      · simp only [Registry.outcomes, List.map_cons, outcomes]
        congr 1
        exact List.map_congr_left fun reg member => (alone reg member).1
      · simp only [addedAll, List.flatMap_cons, news]
        congr 1
        exact List.flatMap_congr fun reg member => (alone reg member).2

theorem binding?_alike (accounted : r.AccountedBy log) (accounted' : r'.AccountedBy log')
    (settings : r.settings = r'.settings) (perm : log.Perm log') (name : String) :
    Option.Rel Binding.Alike (r.binding? name) (r'.binding? name) := by
  have found : ∀ {round : Nat} {reg : Registration σ}, log[round]? = some reg →
      reg.factoryName = name → ∃ b, r'.binding? name = some b ∧
        (reg.bindingAt r.settings.ephemeralAsset round).Alike b := by
    intro round reg here named
    have member := perm.mem_iff.mp (List.mem_of_getElem? here)
    obtain ⟨round', there⟩ := List.mem_iff_getElem?.mp member
    have bound := accounted'.binding?_eq_some_iff.mpr ⟨round', reg, there, named, rfl⟩
    refine ⟨_, bound, ?_⟩
    rw [← settings]
    exact reg.bindingAt_alike _ _ _
  cases first : r.binding? name with
  | some b =>
      obtain ⟨round, reg, here, named, rfl⟩ := accounted.binding?_eq_some_iff.mp first
      obtain ⟨b', bound, alike⟩ := found here named
      rw [bound]
      exact .some alike
  | none =>
      cases second : r'.binding? name with
      | none => exact .none
      | some b' =>
          obtain ⟨round', reg, there, named, -⟩ := accounted'.binding?_eq_some_iff.mp second
          have member := perm.mem_iff.mpr (List.mem_of_getElem? there)
          obtain ⟨round, here⟩ := List.mem_iff_getElem?.mp member
          have bound := accounted.binding?_eq_some_iff.mpr ⟨round, reg, here, named, rfl⟩
          rw [first] at bound
          cases bound

theorem assetsOf?_eq_of_perm (accounted : r.AccountedBy log) (accounted' : r'.AccountedBy log')
    (perm : log.Perm log') (type : TypeIdent) :
    r.catalog.assetsOf? type = r'.catalog.assetsOf? type := by
  by_cases known : ∃ reg ∈ log, reg.spec.type.same type = true
  · obtain ⟨reg, member, same⟩ := known
    rw [accounted.assetsOf?_of_same member same,
      accounted'.assetsOf?_of_same (perm.mem_iff.mp member) same]
  · have missing : ∀ reg ∈ log, ¬ reg.spec.type.same type = true := fun reg member same =>
      known ⟨reg, member, same⟩
    have missing' : ∀ reg ∈ log', ¬ reg.spec.type.same type = true := fun reg member =>
      missing reg (perm.mem_iff.mpr member)
    rw [accounted.assets, accounted'.assets, List.find?_eq_none.mpr missing,
      List.find?_eq_none.mpr missing']

theorem sameButOrder (accounted : r.AccountedBy log) (accounted' : r'.AccountedBy log')
    (settings : r.settings = r'.settings) (perm : log.Perm log') :
    r.catalog.SameButOrder r'.catalog where
  sources := by
    rw [accounted.sourceEntries, accounted'.sourceEntries]
    exact perm.map _
  factoryNames := by
    have names := perm.map Registration.factoryName
    rw [← accounted.factoryNames, ← accounted'.factoryNames] at names
    exact names
  bindings := accounted.binding?_alike accounted' settings perm
  assets := accounted.assetsOf?_eq_of_perm accounted' perm

theorem grownBy (accounted : r.AccountedBy log) (accounted' : r'.AccountedBy (log ++ regs)) :
    r.catalog.GrownBy r'.catalog regs where
  sources := by
    rw [accounted.sourceEntries, accounted'.sourceEntries, List.map_append]
    rfl
  factoryNames := by
    have names := accounted'.factoryNames
    rw [List.map_append, ← accounted.factoryNames] at names
    exact names

end AccountedBy

/-- Registrations of pairwise different tags and datasource types have, in whatever order they are
tried, the outcomes that each of them has on its own.  Two orders lead to the same bindings and asset
tables; the new entries and factory names follow the order of the run. -/
theorem tryAll_reordered (fresh : start.Fresh) (grown : Grows start log r)
    (apart : regs.Pairwise Registration.Apart) (perm : regs.Perm regs') :
    (r.outcomes regs = regs.map (fun reg => (r.attempt reg).1) ∧
      r.outcomes regs' = regs'.map (fun reg => (r.attempt reg).1)) ∧
    (r.tryAll regs).catalog.SameButOrder (r.tryAll regs').catalog ∧
    r.catalog.GrownBy (r.tryAll regs).catalog (regs.flatMap r.added) ∧
    r.catalog.GrownBy (r.tryAll regs').catalog (regs'.flatMap r.added) := by
  have accounted : r.AccountedBy log := by simpa using fresh.accountedBy_nil.grows grown
  have apart' : regs'.Pairwise Registration.Apart :=
    perm.pairwise apart Registration.Apart.symm
  obtain ⟨outcomes, news⟩ := accounted.outcomes_of_apart apart
  obtain ⟨outcomes', news'⟩ := accounted.outcomes_of_apart apart'
  have after := accounted.grows (grows_tryAll r regs)
  have after' := accounted.grows (grows_tryAll r regs')
  rw [news] at after
  rw [news'] at after'
  have settings : (r.tryAll regs).settings = (r.tryAll regs').settings := by
    rw [(grows_tryAll r regs).settings, (grows_tryAll r regs').settings]
  have logs : (log ++ regs.flatMap r.added).Perm (log ++ regs'.flatMap r.added) :=
    (perm.flatMap_right r.added).append_left log
  exact ⟨⟨outcomes, outcomes'⟩, after.sameButOrder after' settings logs,
    accounted.grownBy after, accounted.grownBy after'⟩

theorem tryAll_reordered_kinds :
    let r := Samples.lenient.run ((["csv"].filterMap Samples.kind?).map .registerKind)
    let regs := (["csv", "declared", "badassets", "sealed"].filterMap Samples.kind?).map
      r.registrationOf
    regs.Pairwise Registration.Apart ∧ regs.Perm regs.reverse ∧
      (r.outcomes regs).map Except.isOk = [true, true, false, true] ∧
      (r.tryAll regs).factories = ["add_csv", "add_declared", "add_sealed"] ∧
      (r.tryAll regs.reverse).factories = ["add_csv", "add_sealed", "add_declared"] ∧
      (r.outcomes regs = regs.map (fun reg => (r.attempt reg).1) ∧
        r.outcomes regs.reverse = regs.reverse.map (fun reg => (r.attempt reg).1)) ∧
      (r.tryAll regs).catalog.SameButOrder (r.tryAll regs.reverse).catalog ∧
      r.catalog.GrownBy (r.tryAll regs).catalog (regs.flatMap r.added) ∧
      r.catalog.GrownBy (r.tryAll regs.reverse).catalog (regs.reverse.flatMap r.added) := by
  intro r regs
  have grown := grows_run Samples.lenient ((["csv"].filterMap Samples.kind?).map .registerKind)
  have apart : regs.Pairwise Registration.Apart := by decide +kernel
  have perm : regs.Perm regs.reverse := regs.reverse_perm.symm
  exact ⟨apart, perm, by decide +kernel, by decide +kernel, by decide +kernel,
    tryAll_reordered Samples.fresh_lenient grown apart perm⟩

end Registry

end SourceRegistry
