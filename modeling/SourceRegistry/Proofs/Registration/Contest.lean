import Mathlib.Data.List.Perm.Basic
import SourceRegistry.Proofs.Registration.Verdict

/-!
Writers that contend for one registry.  A lock admits one writer at a time; under the lock the writer
reads the registry, publishes what it staged on what it read, and leaves.  Whatever the schedule, the
answers are those of the registrations tried one after another in the order of their answers, and the
lock can let the registrations in in any order.
-/

set_option autoImplicit false
set_option relaxedAutoImplicit false

namespace SourceRegistry

variable {σ : Type}

inductive Writing (σ : Type) where
  | admitted
  | read (seen : Registry σ)
  | published (outcome : Except RegistrationError Unit)

/-- Writers that contend for one registry, by their registrations. -/
structure Contest (σ : Type) where
  /-- The registry as all readers see it. -/
  registry : Registry σ
  waiting : List (Registration σ)
  holder : Option (Registration σ × Writing σ) := none
  /-- The registrations that the lock let in, in order. -/
  admissions : List (Registration σ) := []
  /-- The registrations that were answered, in order, with their outcomes. -/
  answered : List (Registration σ × Except RegistrationError Unit) := []

namespace Contest

/-- What happens next.  Events that cannot happen change nothing. -/
inductive Event where
  /-- A registration without a tag is refused before it asks for the lock. -/
  | refuse (place : Nat)
  /-- The lock, which is free, admits a writer. -/
  | enter (place : Nat)
  | read
  /-- The writer publishes what it staged, if that adds something to what it read. -/
  | publish
  | release

def step (c : Contest σ) : Event → Contest σ
  | .refuse place =>
    match c.waiting[place]? with
    | some reg =>
      if reg.spec.tag = "" then
        { c with
          waiting := c.waiting.eraseIdx place
          answered := c.answered ++ [(reg, .error (.untagged reg.spec.type.name))] }
      else c
    | none => c
  | .enter place =>
    match c.holder, c.waiting[place]? with
    | none, some reg =>
      if reg.spec.tag = "" then c
      else
        { c with
          waiting := c.waiting.eraseIdx place
          holder := some (reg, .admitted)
          admissions := c.admissions ++ [reg] }
    | _, _ => c
  | .read =>
    match c.holder with
    | some (reg, .admitted) => { c with holder := some (reg, .read c.registry) }
    | _ => c
  | .publish =>
    match c.holder with
    | some (reg, .read seen) =>
      { c with
        registry := if (seen.added reg).isEmpty then c.registry else (seen.attempt reg).2
        holder := some (reg, .published (seen.attempt reg).1) }
    | _ => c
  | .release =>
    match c.holder with
    | some (reg, .published outcome) =>
      { c with holder := none, answered := c.answered ++ [(reg, outcome)] }
    | _ => c

def run (c : Contest σ) (schedule : List Event) : Contest σ := schedule.foldl step c

def start (r : Registry σ) (family : List (Registration σ)) : Contest σ :=
  { registry := r, waiting := family }

def Finished (c : Contest σ) : Prop := c.waiting = [] ∧ c.holder = none

def order (c : Contest σ) : List (Registration σ) := c.answered.map Prod.fst

def inside (c : Contest σ) : List (Registration σ) := c.holder.toList.map Prod.fst

/-- What the registry is, and what the holder of the lock knows, after registrations that were tried
one after another. -/
def Stands (before registry : Registry σ) : Option (Registration σ × Writing σ) → Prop
  | none | some (_, .admitted) => registry = before
  | some (_, .read seen) => registry = before ∧ seen = before
  | some (reg, .published outcome) => before.attempt reg = (outcome, registry)

/-- The answers are those of registrations that were tried one after another on `r`, those with a tag
in the order in which the lock let them in, and no registration of the family is lost. -/
structure Serial (r : Registry σ) (family : List (Registration σ)) (c : Contest σ) : Prop where
  outcomes : c.answered.map Prod.snd = r.outcomes c.order
  stands : Stands (r.tryAll c.order) c.registry c.holder
  admissions : c.admissions = c.order.filter (fun reg => reg.spec.tag ≠ "") ++ c.inside
  named : ∀ reg ∈ c.inside, reg.spec.tag ≠ ""
  everyone : (c.order ++ (c.inside ++ c.waiting)).Perm family

end Contest

namespace Registry

theorem tryAll_concat (r : Registry σ) (regs : List (Registration σ)) (reg : Registration σ) :
    r.tryAll (regs ++ [reg]) = ((r.tryAll regs).attempt reg).2 := by
  simp only [tryAll, List.foldl_append, List.foldl_cons, List.foldl_nil]

theorem outcomes_concat (r : Registry σ) (regs : List (Registration σ)) (reg : Registration σ) :
    r.outcomes (regs ++ [reg]) = r.outcomes regs ++ [((r.tryAll regs).attempt reg).1] := by
  induction regs generalizing r with
  | nil => rfl
  | cons head rest ih =>
      simp only [List.cons_append, outcomes, ih]
      rfl

end Registry

namespace Contest

variable {r : Registry σ} {log family : List (Registration σ)} {c : Contest σ}

private theorem perm_eraseIdx {α : Type} {l : List α} {place : Nat} {a : α}
    (here : l[place]? = some a) : l.Perm (a :: l.eraseIdx place) := by
  obtain ⟨bound, rfl⟩ := List.getElem?_eq_some_iff.mp here
  exact (List.getElem_cons_eraseIdx_perm bound).symm

theorem serial_start (r : Registry σ) (family : List (Registration σ)) :
    (start r family).Serial r family where
  outcomes := rfl
  stands := rfl
  admissions := rfl
  named := by simp [start, inside]
  everyone := .refl _

private theorem stands_publish (accounted : r.AccountedBy log) (reg : Registration σ) :
    r.attempt reg = ((r.attempt reg).1, if (r.added reg).isEmpty then r else (r.attempt reg).2) := by
  rcases accounted.added_cases reg with ⟨unchanged, nothing⟩ | ⟨-, -, logged⟩
  · rw [nothing]
    exact Prod.ext rfl unchanged
  · rw [logged]
    rfl

namespace Serial

variable {reg : Registration σ}

theorem refuse (serial : c.Serial r family) {place : Nat} (here : c.waiting[place]? = some reg)
    (empty : reg.spec.tag = "") :
    Serial r family
      { c with
        waiting := c.waiting.eraseIdx place
        answered := c.answered ++ [(reg, .error (.untagged reg.spec.type.name))] } := by
  have refused : (r.tryAll c.order).attempt reg = _ := Registry.attempt_of_untagged empty
  have grown : order { c with
      waiting := c.waiting.eraseIdx place
      answered := c.answered ++ [(reg, .error (.untagged reg.spec.type.name))] } =
        c.order ++ [reg] := by simp [order]
  constructor
  · rw [grown, Registry.outcomes_concat, refused, ← serial.outcomes]
    simp
  · rw [grown, Registry.tryAll_concat, refused]
    exact serial.stands
  · rw [grown]
    have passed : [reg].filter (fun reg => reg.spec.tag ≠ "") = [] := by simp [empty]
    rw [List.filter_append, passed, List.append_nil]
    exact serial.admissions
  · exact serial.named
  · rw [grown, List.append_assoc]
    refine (List.Perm.append_left _ ?_).trans serial.everyone
    show (reg :: (c.inside ++ c.waiting.eraseIdx place)).Perm (c.inside ++ c.waiting)
    refine List.perm_middle.symm.trans (List.Perm.append_left _ ?_)
    exact (perm_eraseIdx here).symm

theorem enter (serial : c.Serial r family) {place : Nat} (idle : c.holder = none)
    (here : c.waiting[place]? = some reg) (tagged : reg.spec.tag ≠ "") :
    Serial r family
      { c with
        waiting := c.waiting.eraseIdx place
        holder := some (reg, .admitted)
        admissions := c.admissions ++ [reg] } := by
  have nobody : c.inside = [] := by simp [inside, idle]
  obtain ⟨outcomes, stands, admissions, -, everyone⟩ := serial
  rw [idle] at stands
  rw [nobody, List.append_nil] at admissions
  rw [nobody, List.nil_append] at everyone
  refine ⟨outcomes, stands, ?_, ?_, ?_⟩
  · rw [admissions]
    rfl
  · simpa [inside] using tagged
  · exact (List.Perm.append_left _ (perm_eraseIdx here).symm).trans everyone

theorem read (serial : c.Serial r family) (holding : c.holder = some (reg, .admitted)) :
    Serial r family { c with holder := some (reg, .read c.registry) } := by
  have unchanged : inside { c with holder := some (reg, .read c.registry) } = c.inside := by
    simp [inside, holding]
  obtain ⟨outcomes, stands, admissions, named, everyone⟩ := serial
  rw [holding] at stands
  rw [← unchanged] at admissions named everyone
  exact ⟨outcomes, ⟨stands, stands⟩, admissions, named, everyone⟩

theorem publish (accounted : r.AccountedBy log) (serial : c.Serial r family) {seen : Registry σ}
    (holding : c.holder = some (reg, .read seen)) :
    Serial r family
      { c with
        registry := if (seen.added reg).isEmpty then c.registry else (seen.attempt reg).2
        holder := some (reg, .published (seen.attempt reg).1) } := by
  obtain ⟨outcomes, stands, admissions, named, everyone⟩ := serial
  rw [holding] at stands
  obtain ⟨registry, rfl⟩ := stands
  have unchanged : inside { c with holder := some (reg, .published ((r.tryAll c.order).attempt reg).1) }
      = c.inside := by simp [inside, holding]
  rw [← unchanged] at admissions named everyone
  refine ⟨outcomes, ?_, admissions, named, everyone⟩
  rw [registry]
  exact stands_publish (accounted.grows (Registry.grows_tryAll r c.order)) reg

theorem release (serial : c.Serial r family) {outcome : Except RegistrationError Unit}
    (holding : c.holder = some (reg, .published outcome)) :
    Serial r family { c with holder := none, answered := c.answered ++ [(reg, outcome)] } := by
  have grown : order { c with holder := none, answered := c.answered ++ [(reg, outcome)] } =
      c.order ++ [reg] := by simp [order]
  have left : c.inside = [reg] := by simp [inside, holding]
  obtain ⟨outcomes, stands, admissions, named, everyone⟩ := serial
  rw [holding] at stands
  have tried : (r.tryAll c.order).attempt reg = (outcome, c.registry) := stands
  have tagged : reg.spec.tag ≠ "" := named reg (by simp [left])
  constructor
  · rw [grown, Registry.outcomes_concat, tried, ← outcomes]
    simp
  · rw [grown, Registry.tryAll_concat, tried]
    rfl
  · rw [grown, admissions, left]
    simp [inside, tagged]
  · simp [inside]
  · rw [grown, List.append_assoc]
    rw [left] at everyone
    exact everyone

end Serial

theorem Serial.step (accounted : r.AccountedBy log) (serial : c.Serial r family) (event : Event) :
    (c.step event).Serial r family := by
  cases event with
  | refuse place =>
      simp only [Contest.step]
      split
      · split
        · exact serial.refuse ‹_› ‹_›
        · exact serial
      · exact serial
  | enter place =>
      simp only [Contest.step]
      split
      · split
        · exact serial
        · exact serial.enter ‹_› ‹_› ‹_›
      · exact serial
  | read =>
      simp only [Contest.step]
      split
      · exact serial.read ‹_›
      · exact serial
  | publish =>
      simp only [Contest.step]
      split
      · exact serial.publish accounted ‹_›
      · exact serial
  | release =>
      simp only [Contest.step]
      split
      · exact serial.release ‹_›
      · exact serial

theorem Serial.run (accounted : r.AccountedBy log) (serial : c.Serial r family)
    (schedule : List Event) : (c.run schedule).Serial r family := by
  induction schedule generalizing c with
  | nil => exact serial
  | cons event rest ih => exact ih (serial.step accounted event)

theorem exists_schedule {order : List (Registration σ)} (idle : c.holder = none)
    (perm : order.Perm c.waiting) (tagged : ∀ reg ∈ c.waiting, reg.spec.tag ≠ "") :
    ∃ schedule : List Event, (c.run schedule).Finished ∧
      (c.run schedule).admissions = c.admissions ++ order := by
  induction order generalizing c with
  | nil =>
      have nobody : c.waiting = [] := perm.nil_eq.symm
      exact ⟨[], ⟨nobody, idle⟩, (List.append_nil _).symm⟩
  | cons reg rest ih =>
      have member : reg ∈ c.waiting := perm.mem_iff.mp List.mem_cons_self
      obtain ⟨place, here⟩ := List.mem_iff_getElem?.mp member
      have others : rest.Perm (c.waiting.eraseIdx place) :=
        (List.perm_cons reg).mp (perm.trans (perm_eraseIdx here))
      let served := c.run [.enter place, .read, .publish, .release]
      have through : served.holder = none ∧ served.waiting = c.waiting.eraseIdx place ∧
          served.admissions = c.admissions ++ [reg] := by
        simp [served, run, step, idle, here, tagged reg member]
      obtain ⟨idle', waiting', admissions'⟩ := through
      obtain ⟨schedule, finished, admissions⟩ := ih idle' (by rwa [waiting'])
        fun later listed => tagged later (by
          rw [waiting'] at listed
          exact List.mem_of_mem_eraseIdx listed)
      refine ⟨[.enter place, .read, .publish, .release] ++ schedule, ?_, ?_⟩
      · rw [run, List.foldl_append]
        exact finished
      · rw [run, List.foldl_append]
        refine admissions.trans ?_
        rw [admissions', List.append_assoc]
        rfl

end Contest

end SourceRegistry
