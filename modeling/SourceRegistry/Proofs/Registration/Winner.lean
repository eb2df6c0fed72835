import SourceRegistry.Proofs.Registration.Contest
import SourceRegistry.Proofs.Registration.Repeats
import SourceRegistry.Proofs.TagTable.Bijection

/-!
Registrations that contend for one new tag.  The first that the lock lets in is committed.  Every other
one finds the tag taken by it, so it changes nothing, and it is accepted at most as what repeats the
winner.
-/

set_option autoImplicit false
set_option relaxedAutoImplicit false

namespace SourceRegistry

open AssetSpec (Faultless)

variable {σ : Type}

namespace Registration

def Matches (winner later : Registration σ) : Prop :=
  winner.spec.type.same later.spec.type = true ∧
    ((winner.derived = true ∧ later.derived = true) ∨ winner.factory.id = later.factory.id)

instance (winner later : Registration σ) : Decidable (winner.Matches later) :=
  inferInstanceAs (Decidable (_ ∧ _))

end Registration

/-- Registrations under one new tag, each of which could be committed. -/
structure Contenders (r : Registry σ) (tag : String) (family : List (Registration σ)) : Prop where
  nonempty : family ≠ []
  named : tag ≠ ""
  newTag : r.catalog.sources.containsTag tag = false
  tagged : ∀ reg ∈ family, reg.spec.tag = tag
  newType : ∀ reg ∈ family, r.catalog.sources.containsType reg.spec.type = false
  faultless : ∀ reg ∈ family, Faultless [] reg.spec.assets

namespace Contest

def decision (r : Registry σ) (winner later : Registration σ) : Except RegistrationError Unit :=
  if r.settings.repeats = .ignoreIdentical ∧ winner.Matches later then .ok ()
  else .error (.factoryExists later.spec.tag later.factoryName)

def answers (r : Registry σ) (winner : Registration σ) (rest : List (Registration σ)) :
    List (Registration σ × Except RegistrationError Unit) :=
  (winner, .ok ()) :: rest.map fun later => (later, decision r winner later)

/-- A contest that the first registration in the lock has won. -/
structure WonBy (r : Registry σ) (tag : String) (winner : Registration σ)
    (rest : List (Registration σ)) (c : Contest σ) : Prop where
  registry : c.registry = r.extend winner
  held : c.registry.catalog.Holds winner.spec
  bound : c.registry.binding? (factoryName tag) = some (r.nextBinding winner)
  answered : c.answered <+: answers r winner rest

structure Settled (r : Registry σ) (tag : String) (family : List (Registration σ))
    (c : Contest σ) : Prop where
  nobody : c.admissions = [] → c.registry = r ∧ c.answered = []
  /-- The first has published nothing so far, or it has won. -/
  first : ∀ (winner : Registration σ) (rest : List (Registration σ)),
    c.admissions = winner :: rest →
      (rest = [] ∧ c.registry = r ∧ c.answered = []) ∨ c.WonBy r tag winner rest
  finished : c.Finished → c.admissions.Perm family ∧
    ∃ (winner : Registration σ) (rest : List (Registration σ)), c.admissions = winner :: rest ∧
      c.WonBy r tag winner rest ∧ c.answered = answers r winner rest
  once : c.Finished → r.settings.repeats = .reject →
    c.answered.countP (fun answer => answer.2.isOk) = 1

end Contest

namespace Contenders

variable {r : Registry σ} {log family : List (Registration σ)} {tag : String}
  {winner later : Registration σ} {rest : List (Registration σ)}

theorem free (contenders : Contenders r tag family) (accounted : r.AccountedBy log) :
    r.binding? (factoryName tag) = none := by
  rw [Option.eq_none_iff_forall_ne_some]
  intro bound found
  obtain ⟨round, reg, here, name, -⟩ := accounted.binding?_eq_some_iff.mp found
  have sameTag : reg.spec.tag = tag := factoryName_inj.mp name
  have listed : (tag, reg.spec.type) ∈ r.catalog.sources.entries := by
    rw [accounted.sourceEntries]
    refine List.mem_map.mpr ⟨reg, List.mem_of_getElem? here, ?_⟩
    rw [← sameTag]
    rfl
  have known := (accounted.indexed.containsTag_iff tag).mpr
    ⟨reg.spec.type, accounted.indexed.typeOf_eq_ok_iff.mpr listed⟩
  rw [contenders.newTag] at known
  cases known

theorem newTypes (contenders : Contenders r tag family) (accounted : r.AccountedBy log)
    (member : winner ∈ family) :
    ∀ entry ∈ r.catalog.sources.entries, entry.2.same winner.spec.type = false := by
  intro entry listed
  rw [Bool.eq_false_iff]
  intro same
  have number : entry.2.number = winner.spec.type.number := by simpa [TypeIdent.same] using same
  have known := (accounted.indexed.containsType_iff winner.spec.type).mpr
    ⟨entry.1, accounted.indexed.tagOf_eq_ok_iff.mpr ⟨entry.2, listed, number⟩⟩
  rw [contenders.newType winner member] at known
  cases known

theorem attempt_first (contenders : Contenders r tag family) (accounted : r.AccountedBy log)
    (member : winner ∈ family) :
    r.Admits winner ∧ r.attempt winner = (.ok (), r.extend winner) := by
  have named : winner.spec.tag ≠ "" := by
    rw [contenders.tagged winner member]
    exact contenders.named
  have free : r.binding? winner.factoryName = none := by
    unfold Registration.factoryName
    rw [contenders.tagged winner member]
    exact contenders.free accounted
  have newTypes := contenders.newTypes accounted member
  have noAssets : r.catalog.assetEntries winner.spec.type = [] := by
    have unlisted : winner.spec.type.number ∉ r.catalog.sources.numbers := by
      intro listed
      obtain ⟨entry, known, number⟩ := List.mem_map.mp listed
      have same := newTypes entry known
      simp [TypeIdent.same, number] at same
    simp [Catalog.assetEntries, accounted.assetsOf?_of_newType unlisted]
  have faultless : Faultless (r.catalog.assetEntries winner.spec.type) winner.spec.assets := by
    rw [noAssets]
    exact contenders.faultless winner member
  have tried := accounted.attempt_of_verdict (.committed named free faultless newTypes)
  refine ⟨?_, tried⟩
  rcases accounted.added_cases winner with ⟨unchanged, -⟩ | ⟨admits, -, -⟩
  · -- the name is bound afterwards, so the registry did change
    have same : r.extend winner = r := by rwa [tried] at unchanged
    have bound := Registry.binding?_extend r winner winner.factoryName
    rw [same, if_pos rfl, free] at bound
    cases bound
  · exact admits

theorem attempt_later (contenders : Contenders r tag family) (first : winner ∈ family)
    (member : later ∈ family) :
    (r.extend winner).attempt later = (Contest.decision r winner later, r.extend winner) := by
  have named : later.spec.tag ≠ "" := by
    rw [contenders.tagged later member]
    exact contenders.named
  have sameTag : winner.spec.tag = later.spec.tag := by
    rw [contenders.tagged winner first, contenders.tagged later member]
  have bound : (r.extend winner).binding? later.factoryName = some (r.nextBinding winner) := by
    have names : later.factoryName = winner.factoryName := factoryName_inj.mpr sameTag.symm
    rw [Registry.binding?_extend, if_pos names]
  have repeated : Registry.repeats (r.nextBinding winner) later = true ↔ winner.Matches later := by
    simp [Registry.repeats, Registry.nextBinding, Registration.bindingAt, Registration.Matches,
      sameTag]
  rw [Registry.attempt_of_bound named bound]
  simp only [Contest.decision, repeated]
  rfl

theorem tryAll_later (contenders : Contenders r tag family) (first : winner ∈ family)
    (members : ∀ reg ∈ rest, reg ∈ family) :
    (r.extend winner).tryAll rest = r.extend winner ∧
      (r.extend winner).outcomes rest = rest.map (Contest.decision r winner) := by
  induction rest with
  | nil => exact ⟨rfl, rfl⟩
  | cons later rest ih =>
      obtain ⟨head, tail⟩ := List.forall_mem_cons.mp members
      have tried := contenders.attempt_later first head
      obtain ⟨registry, outcomes⟩ := ih tail
      simp only [Registry.tryAll] at registry ⊢
      simp only [List.foldl_cons, Registry.outcomes, List.map_cons, tried, registry, outcomes,
        and_self]

theorem tryAll_family (contenders : Contenders r tag family) (accounted : r.AccountedBy log)
    (members : ∀ reg ∈ winner :: rest, reg ∈ family) :
    r.tryAll (winner :: rest) = r.extend winner ∧
      r.outcomes (winner :: rest) = .ok () :: rest.map (Contest.decision r winner) := by
  obtain ⟨first, others⟩ := List.forall_mem_cons.mp members
  obtain ⟨-, tried⟩ := contenders.attempt_first accounted first
  obtain ⟨registry, outcomes⟩ := contenders.tryAll_later first others
  simp only [Registry.tryAll] at registry ⊢
  simp only [List.foldl_cons, Registry.outcomes, tried, registry, outcomes, and_self]

end Contenders

namespace Contest

variable {r : Registry σ} {log family : List (Registration σ)} {c : Contest σ} {tag : String}
  {winner : Registration σ} {rest : List (Registration σ)}

theorem wonBy (contenders : Contenders r tag family) (accounted : r.AccountedBy log)
    (first : winner ∈ family) (registry : c.registry = r.extend winner)
    (answered : c.answered <+: answers r winner rest) :
    c.WonBy r tag winner rest where
  registry := registry
  held := by
    rw [registry]
    exact accounted.holds_extend (contenders.attempt_first accounted first).1
  bound := by
    have name : factoryName tag = winner.factoryName :=
      factoryName_inj.mpr (contenders.tagged winner first).symm
    rw [registry, Registry.binding?_extend, if_pos name]
  answered := answered

theorem registry_of_stands (contenders : Contenders r tag family) (first : winner ∈ family)
    (members : ∀ reg ∈ c.inside, reg ∈ family)
    (stands : Stands (r.extend winner) c.registry c.holder) : c.registry = r.extend winner := by
  cases holding : c.holder with
  | none =>
      rw [holding] at stands
      exact stands
  | some holder =>
      obtain ⟨reg, writing⟩ := holder
      have member : reg ∈ family := members reg (by simp [inside, holding])
      rw [holding] at stands
      cases writing with
      | admitted => exact stands
      | read seen => exact stands.1
      | published outcome =>
          have tried := contenders.attempt_later first member
          exact congrArg Prod.snd (stands.symm.trans tried)

theorem Serial.mem_family (serial : c.Serial r family) :
    ∀ reg ∈ c.order ++ c.inside, reg ∈ family := by
  intro reg member
  refine serial.everyone.mem_iff.mp ?_
  rw [← List.append_assoc]
  exact List.mem_append_left _ member

theorem Serial.admissions_eq (contenders : Contenders r tag family) (serial : c.Serial r family) :
    c.admissions = c.order ++ c.inside := by
  rw [serial.admissions]
  congr 1
  refine List.filter_eq_self.mpr fun reg member => ?_
  have tagged := contenders.tagged reg (serial.mem_family reg (List.mem_append_left _ member))
  simp [tagged, contenders.named]

/-- Nobody was let in, or the first in the lock has published nothing so far, or it has won. -/
theorem Serial.course (contenders : Contenders r tag family) (accounted : r.AccountedBy log)
    (serial : c.Serial r family) :
    (c.registry = r ∧ c.answered = [] ∧ (c.admissions = [] ∨ ∃ first, c.admissions = [first])) ∨
      ∃ winner rest, c.admissions = winner :: rest ∧ c.WonBy r tag winner rest := by
  have admissions := serial.admissions_eq contenders
  have members := serial.mem_family
  obtain ⟨outcomes, stands, -, -, -⟩ := serial
  cases answered : c.order with
  | nil =>
      have nothing : c.answered = [] := List.map_eq_nil_iff.mp answered
      rw [answered] at stands admissions members
      cases holding : c.holder with
      | none =>
          rw [holding] at stands
          have nobody : c.admissions = [] := by simp [admissions, inside, holding]
          exact .inl ⟨stands, nothing, .inl nobody⟩
      | some holder =>
          obtain ⟨reg, writing⟩ := holder
          have alone : c.admissions = [reg] := by simp [admissions, inside, holding]
          have member : reg ∈ family := members reg (by simp [inside, holding])
          rw [holding] at stands
          cases writing with
          | admitted => exact .inl ⟨stands, nothing, .inr ⟨reg, alone⟩⟩
          | read seen => exact .inl ⟨stands.1, nothing, .inr ⟨reg, alone⟩⟩
          | published outcome =>
              have tried := (contenders.attempt_first accounted member).2
              have registry : c.registry = r.extend reg :=
                congrArg Prod.snd (stands.symm.trans tried)
              refine .inr ⟨reg, [], alone, wonBy contenders accounted member registry ?_⟩
              rw [nothing]
              exact List.nil_prefix
  | cons winner more =>
      rw [answered] at admissions members outcomes stands
      have ordered : ∀ reg ∈ winner :: more, reg ∈ family := fun reg member =>
        members reg (List.mem_append_left _ member)
      have first : winner ∈ family := ordered winner List.mem_cons_self
      obtain ⟨registry, decided⟩ := contenders.tryAll_family accounted ordered
      rw [registry] at stands
      have stands := registry_of_stands contenders first
        (fun reg member => members reg (List.mem_append_right _ member)) stands
      have answered : c.answered = answers r winner more := by
        rw [List.zip_of_prod answered (outcomes.trans decided), List.zip_cons_cons]
        unfold answers
        congr 1
        simpa using List.zip_map' (f := id) (g := decision r winner) (l := more)
      refine .inr ⟨winner, more ++ c.inside, admissions,
        wonBy contenders accounted first stands ?_⟩
      unfold answers at answered ⊢
      rw [answered, List.map_append, ← List.cons_append]
      exact List.prefix_append _ _

theorem Serial.finished (contenders : Contenders r tag family) (accounted : r.AccountedBy log)
    (serial : c.Serial r family) (finished : c.Finished) :
    c.admissions.Perm family ∧
      ∃ (winner : Registration σ) (rest : List (Registration σ)), c.admissions = winner :: rest ∧
        c.WonBy r tag winner rest ∧ c.answered = answers r winner rest := by
  obtain ⟨nobodyWaits, idle⟩ := finished
  have empty : c.inside = [] := by simp [inside, idle]
  have admissions := serial.admissions_eq contenders
  have everyone := serial.everyone
  rw [empty, nobodyWaits, List.append_nil, List.append_nil] at everyone
  rw [empty, List.append_nil] at admissions
  rw [← admissions] at everyone
  refine ⟨everyone, ?_⟩
  rcases serial.course contenders accounted with ⟨-, nothing, -⟩ | ⟨winner, rest, entered, won⟩
  · have nobody : c.admissions = [] := by rw [admissions, order, nothing, List.map_nil]
    rw [nobody] at everyone
    exact absurd everyone.nil_eq.symm contenders.nonempty
  · have length : c.answered.length = (answers r winner rest).length := by
      rw [← List.length_map (f := Prod.fst), ← order, ← admissions, entered, answers,
        List.length_cons, List.length_cons, List.length_map]
    exact ⟨winner, rest, entered, won, won.answered.eq_of_length length⟩

theorem countP_answers (policy : r.settings.repeats = .reject) (winner : Registration σ)
    (rest : List (Registration σ)) :
    (answers r winner rest).countP (fun answer => answer.2.isOk) = 1 := by
  have refused : rest.countP (fun later => (decision r winner later).isOk) = 0 := by
    refine List.countP_eq_zero.mpr fun later _ => ?_
    simp [decision, policy, Except.isOk, Except.toBool]
  rw [answers, List.countP_cons, List.countP_map]
  simpa [Except.isOk, Except.toBool] using refused

theorem Serial.settled (contenders : Contenders r tag family) (accounted : r.AccountedBy log)
    (serial : c.Serial r family) : c.Settled r tag family where
  nobody nobody := by
    rcases serial.course contenders accounted with
      ⟨registry, nothing, -⟩ | ⟨winner, rest, entered, -⟩
    · exact ⟨registry, nothing⟩
    · rw [nobody] at entered
      cases entered
  first winner rest entered := by
    rcases serial.course contenders accounted with
      ⟨registry, nothing, nobody | ⟨first, alone⟩⟩ | ⟨winner', rest', entered', won⟩
    · rw [nobody] at entered
      cases entered
    · rw [alone] at entered
      cases entered
      exact .inl ⟨rfl, registry, nothing⟩
    · rw [entered'] at entered
      cases entered
      exact .inr won
  finished := serial.finished contenders accounted
  once finished policy := by
    obtain ⟨-, winner, rest, -, -, answered⟩ := serial.finished contenders accounted finished
    rw [answered]
    exact countP_answers policy winner rest

/-- Of registrations under one new tag, each of a new type and with its assets in order, the first
that the lock lets in is committed, whatever the schedule.  Every later one leaves the registry as it
is and finds the name taken, or is accepted as what repeats the winner; if repeats are refused, one of
all is accepted.  The lock can let them in in any order. -/
theorem run_one_winner {start : Registry σ} (fresh : start.Fresh) (grown : Registry.Grows start log r)
    (contenders : Contenders r tag family) :
    (∀ schedule : List Event, ((Contest.start r family).run schedule).Settled r tag family) ∧
    ∀ order : List (Registration σ), order.Perm family →
      ∃ schedule : List Event, ((Contest.start r family).run schedule).Finished ∧
        ((Contest.start r family).run schedule).admissions = order := by
  have accounted : r.AccountedBy log := by simpa using fresh.accountedBy_nil.grows grown
  constructor
  · intro schedule
    exact ((serial_start r family).run accounted schedule).settled contenders accounted
  · intro order perm
    refine exists_schedule rfl perm fun reg member => ?_
    rw [contenders.tagged reg member]
    exact contenders.named

theorem run_one_winner_alpha :
    let r := Samples.lenient.run ((["csv"].filterMap Samples.kind?).map .registerKind)
    let files := Samples.numbered ["FileAsset"] []
    let bare := Samples.numbered [] []
    let other :=
      { files with spec := { files.spec with type := { number := 1, name := "Numbered1" } } }
    let family := [files, bare, other]
    Contenders r "alpha" family ∧
      (r.outcomes family).map Except.isOk = [true, true, false] ∧
      (r.outcomes family.reverse).map Except.isOk = [true, false, false] ∧
      (∀ schedule : List Event, ((Contest.start r family).run schedule).Settled r "alpha" family) ∧
      ∀ order : List (Registration Samples.SampleSource), order.Perm family →
        ∃ schedule : List Event, ((Contest.start r family).run schedule).Finished ∧
          ((Contest.start r family).run schedule).admissions = order := by
  intro r files bare other family
  have grown := Registry.grows_run Samples.lenient
    ((["csv"].filterMap Samples.kind?).map .registerKind)
  have staged : ∀ reg ∈ family, (Staging.ofSpec reg.spec "" 0 {}).isOk = true := by decide +kernel
  have contenders : Contenders r "alpha" family := by
    refine ⟨by decide, by decide, by decide +kernel, by decide +kernel, by decide +kernel, ?_⟩
    intro reg member
    have accepted := staged reg member
    cases outcome : Staging.ofSpec reg.spec "" 0 {} with
    | error cause => simp [outcome, Except.isOk, Except.toBool] at accepted
    | ok staging =>
        exact (Staging.exists_ofSpec_iff TagTable.Indexed.empty).mp ⟨staging, outcome⟩
  exact ⟨contenders, by decide +kernel, by decide +kernel,
    run_one_winner Samples.fresh_lenient grown contenders⟩

end Contest

end SourceRegistry
