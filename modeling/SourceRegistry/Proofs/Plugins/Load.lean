import Mathlib.Data.List.Nodup
import SourceRegistry.Plugin
import SourceRegistry.Samples.Sources
import SourceRegistry.Proofs.Text.ByteOrder

/-!
What a load of plugins does.  The plugins are registered in rising byte order of their own tags, so a
collection with different tags is loaded in one way, however it was collected.  The load finishes if
all of them are accepted; else it stops at the first that is refused, with the registry as it is there.
-/

set_option autoImplicit false
set_option relaxedAutoImplicit false

namespace SourceRegistry.Plugin

variable {σ : Type} {r r' : Registry σ} {plugins plugins' : List (Plugin σ)}
  {cause : RegistrationError}

def registerEach (r : Registry σ) (plugins : List (Plugin σ)) :
    Except RegistrationError (Registry σ) :=
  plugins.foldlM (fun r plugin => r.registerKind plugin.kind) r

/-- All plugins before a certain one are accepted, which leads to the registry `r'`, and this one is
refused there. -/
inductive StopsAt (r : Registry σ) (plugins : List (Plugin σ)) (bad : Plugin σ)
    (cause : RegistrationError) (r' : Registry σ) : Prop
  | intro (before after : List (Plugin σ)) (split : plugins = before ++ bad :: after)
      (accepted : registerEach r before = .ok r') (refused : r'.registerKind bad.kind = .error cause)

theorem registerEach_nil : registerEach r [] = .ok r' ↔ r = r' := by
  simp [registerEach, pure, Except.pure]

theorem registerEach_cons {plugin : Plugin σ} :
    registerEach r (plugin :: plugins) = .ok r' ↔
      ∃ next, r.registerKind plugin.kind = .ok next ∧ registerEach next plugins = .ok r' := by
  simp only [registerEach, List.foldlM_cons]
  cases r.registerKind plugin.kind with
  | error cause => simp [bind, Except.bind]
  | ok next => simp [bind, Except.bind]

theorem stopsAt_nil {bad : Plugin σ} : ¬ StopsAt r [] bad cause r' := by
  rintro ⟨before, after, split, -, -⟩
  cases before <;> cases split

theorem stopsAt_cons {plugin bad : Plugin σ} :
    StopsAt r (plugin :: plugins) bad cause r' ↔
      (bad = plugin ∧ r' = r ∧ r.registerKind plugin.kind = .error cause) ∨
        ∃ next, r.registerKind plugin.kind = .ok next ∧ StopsAt next plugins bad cause r' := by
  constructor
  · rintro ⟨before, after, split, accepted, refused⟩
    cases before with
    | nil =>
        obtain ⟨rfl, rfl⟩ := List.cons.inj split
        obtain rfl := registerEach_nil.mp accepted
        exact .inl ⟨rfl, rfl, refused⟩
    | cons first before =>
        obtain ⟨rfl, rfl⟩ := List.cons.inj split
        obtain ⟨next, here, later⟩ := registerEach_cons.mp accepted
        exact .inr ⟨next, here, before, after, rfl, later, refused⟩
  · rintro (⟨rfl, rfl, refused⟩ | ⟨next, here, before, after, rfl, later, refused⟩)
    · exact ⟨[], plugins, rfl, registerEach_nil.mpr rfl, refused⟩
    · exact ⟨plugin :: before, after, rfl, registerEach_cons.mpr ⟨next, here, later⟩, refused⟩

theorem loadAll_eq_ok_iff : loadAll r plugins = (.ok (), r') ↔ registerEach r plugins = .ok r' := by
  induction plugins generalizing r with
  | nil => simp [loadAll, registerEach_nil]
  | cons plugin rest ih =>
      rw [registerEach_cons, loadAll]
      cases r.registerKind plugin.kind with
      | error cause => simp
      | ok next => simp [ih]

theorem loadAll_eq_error_iff :
    loadAll r plugins = (.error cause, r') ↔ ∃ bad, StopsAt r plugins bad cause r' := by
  induction plugins generalizing r with
  | nil => simp [loadAll, stopsAt_nil]
  | cons plugin rest ih =>
      simp only [stopsAt_cons, loadAll]
      cases r.registerKind plugin.kind with
      | error other => simp [eq_comm, and_comm]
      | ok next => simp [ih]

theorem load_eq_ok_iff {count : Nat} :
    load r plugins = (.ok count, r') ↔
      count = plugins.length ∧ registerEach r (inOrder plugins) = .ok r' := by
  rw [← loadAll_eq_ok_iff, load]
  rcases loadAll r (inOrder plugins) with ⟨other | done, reached⟩ <;> simp [eq_comm]

theorem load_eq_error_iff :
    load r plugins = (.error cause, r') ↔ ∃ bad, StopsAt r (inOrder plugins) bad cause r' := by
  rw [← loadAll_eq_error_iff, load]
  rcases loadAll r (inOrder plugins) with ⟨other | done, reached⟩ <;> simp

theorem pairwise_inOrder (plugins : List (Plugin σ)) :
    (inOrder plugins).Pairwise fun a b => a.tag ≤ b.tag := by
  have transitive (a b c : Plugin σ) (first : decide (a.tag ≤ b.tag) = true)
      (second : decide (b.tag ≤ c.tag) = true) : decide (a.tag ≤ c.tag) = true := by
    simp only [decide_eq_true_eq] at first second ⊢
    exact String.le_trans first second
  have total (a b : Plugin σ) : (decide (a.tag ≤ b.tag) || decide (b.tag ≤ a.tag)) = true := by
    simpa using String.le_total a.tag b.tag
  simpa [inOrder] using List.pairwise_mergeSort transitive total plugins

theorem load_of_rising (r : Registry σ) (rising : plugins.Pairwise fun a b => a.tag ≤ b.tag) :
    load r plugins = ((loadAll r plugins).1.map fun _ => plugins.length, (loadAll r plugins).2) := by
  have same : inOrder plugins = plugins :=
    List.mergeSort_of_pairwise (rising.imp fun least => decide_eq_true least)
  rw [load, same]
  rcases loadAll r plugins with ⟨cause | done, reached⟩ <;> rfl

theorem inOrder_eq_of_perm (tags : (plugins.map Plugin.tag).Nodup)
    (perm : plugins.Perm plugins') : inOrder plugins' = inOrder plugins := by
  have both : (inOrder plugins').Perm (inOrder plugins) :=
    (inOrder_perm plugins').trans (perm.symm.trans (inOrder_perm plugins).symm)
  refine List.Perm.eq_of_pairwise ?_ (pairwise_inOrder plugins') (pairwise_inOrder plugins) both
  intro a b here there first second
  have member : a ∈ plugins := perm.mem_iff.mpr ((inOrder_perm plugins').mem_iff.mp here)
  have member' : b ∈ plugins := (inOrder_perm plugins).mem_iff.mp there
  exact List.inj_on_of_nodup_map tags member member' (String.le_antisymm first second)

theorem pairwise_bytes_inOrder (tags : (plugins.map Plugin.tag).Nodup) :
    (inOrder plugins).Pairwise fun a b => Text.bytes a.tag < Text.bytes b.tag := by
  have differ : (inOrder plugins).Pairwise fun a b => a.tag ≠ b.tag := by
    have tags' := ((inOrder_perm plugins).map Plugin.tag).nodup_iff.mpr tags
    exact List.pairwise_map.mp tags'
  refine (pairwise_inOrder plugins).imp₂ (fun a b least other => ?_) differ
  rw [Text.bytes_lt_iff]
  exact String.not_le.mp fun back => other (String.le_antisymm least back)

theorem least_of_inOrder {first : Plugin σ} {rest : List (Plugin σ)}
    (ordered : inOrder plugins = first :: rest) :
    first ∈ plugins ∧ ∀ other ∈ plugins, Text.bytes first.tag ≤ Text.bytes other.tag := by
  have members (plugin : Plugin σ) : plugin ∈ plugins ↔ plugin ∈ first :: rest := by
    rw [← ordered]
    exact (inOrder_perm plugins).mem_iff.symm
  have rising := pairwise_inOrder plugins
  rw [ordered] at rising
  refine ⟨(members first).mpr List.mem_cons_self, fun other here => ?_⟩
  rcases List.mem_cons.mp ((members other).mp here) with rfl | behind
  · exact List.le_refl _
  · have least := List.rel_of_pairwise_cons rising behind
    exact fun less => String.not_lt.mpr least (Text.bytes_lt_iff.mp less)

/-- Plugins with different tags are loaded in one way, however they were collected: in rising byte order
of their tags.  The load finishes, with the number of plugins, if all of them are accepted; else it
gives the error of the first that is refused and leaves what those before it were registered to. -/
theorem load_of_perm (r : Registry σ) (tags : (plugins.map Plugin.tag).Nodup)
    (perm : plugins.Perm plugins') :
    load r plugins' = load r plugins ∧
      ∃ ordered : List (Plugin σ), ordered.Perm plugins ∧
        ordered.Pairwise (fun a b => Text.bytes a.tag < Text.bytes b.tag) ∧
        (∀ (count : Nat) (r' : Registry σ), load r plugins = (.ok count, r') ↔
          count = plugins.length ∧ registerEach r ordered = .ok r') ∧
        ∀ (cause : RegistrationError) (r' : Registry σ), load r plugins = (.error cause, r') ↔
          ∃ bad, StopsAt r ordered bad cause r' := by
  refine ⟨?_, inOrder plugins, inOrder_perm plugins, pairwise_bytes_inOrder tags,
    fun count r' => load_eq_ok_iff, fun cause r' => load_eq_error_iff⟩
  have same := inOrder_eq_of_perm tags perm
  rw [load, load, same, perm.length_eq]

theorem load_of_perm_clash :
    let rising : List (Plugin Samples.SampleSource) :=
      [("aa", "strict"), ("bb", "shadow"), ("csv", "csv"), ("pandas", "pandas")].filterMap
        fun entry => (Samples.kind? entry.2).map fun kind => { tag := entry.1, kind }
    let plugins := rising.reverse
    let r : Registry Samples.SampleSource := .empty
    (plugins.map Plugin.tag).Nodup ∧ plugins.Perm rising ∧
      (load r plugins).1 = .error (.factoryExists "csv" "add_csv") ∧
      (load r plugins).2.factories = ["add_strict", "add_csv"] ∧
      load r rising = load r plugins ∧
      ∃ ordered : List (Plugin Samples.SampleSource), ordered.Perm plugins ∧
        ordered.Pairwise (fun a b => Text.bytes a.tag < Text.bytes b.tag) ∧
        (∀ (count : Nat) (r' : Registry Samples.SampleSource), load r plugins = (.ok count, r') ↔
          count = plugins.length ∧ registerEach r ordered = .ok r') ∧
        ∀ (cause : RegistrationError) (r' : Registry Samples.SampleSource),
          load r plugins = (.error cause, r') ↔ ∃ bad, StopsAt r ordered bad cause r' := by
  intro rising plugins r
  have tags : (plugins.map Plugin.tag).Nodup := by decide +kernel
  have perm : plugins.Perm rising := rising.reverse_perm
  have sorted : rising.Pairwise fun a b => a.tag ≤ b.tag := by decide +kernel
  have loaded := load_of_perm r tags perm
  have steps : load r plugins =
      ((loadAll r rising).1.map fun _ => rising.length, (loadAll r rising).2) := by
    rw [← loaded.1, load_of_rising r sorted]
  refine ⟨tags, perm, ?_, ?_, loaded⟩
  · rw [steps]
    decide +kernel
  · rw [steps]
    decide +kernel

end SourceRegistry.Plugin
