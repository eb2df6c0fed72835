import SourceRegistry.Proofs.Toml.Reading
import SourceRegistry.Settings.Document

/-!
The documents that write settings.  Every setting is given or keeps its default, whatever else is given;
a name that is no setting is refused.  Decoding accepts these documents and no others.
-/

set_option autoImplicit false
set_option relaxedAutoImplicit false

namespace SourceRegistry

namespace Settings

open SourceRegistry.Toml (Item Entries TableKind)

variable {α : Type} {entries rest : Entries} {name key : String} {item : Item}
  {Writes : Item → α → Prop} {fallback value : α}

/-- What a table gives under a name: what the item there writes, or a fallback if there is none. -/
inductive Given (entries : Entries) (name : String) (Writes : Item → α → Prop) (fallback : α) :
    α → Prop
  | absent (missing : name ∉ entries.map Prod.fst) : Given entries name Writes fallback fallback
  | present {item : Item} {value : α} (here : (name, item) ∈ entries) (writes : Writes item value) :
      Given entries name Writes fallback value

inductive WritesText : Item → String → Prop
  | text (s : String) : WritesText (.text s) s

def elements? : Item → Option (List Item)
  | .array items => some items
  | .tables items => some (items.map (Item.table .headed))
  | _ => none

/-- A policy is written as its name, or as a table with its name over something empty. -/
inductive WritesPolicy : Item → RepeatPolicy → Prop
  | text (policy : RepeatPolicy) : WritesPolicy (.text policy.label) policy
  | overTable (policy : RepeatPolicy) (outer inner : TableKind) :
      WritesPolicy (.table outer [(policy.label, .table inner [])]) policy
  | overArray (policy : RepeatPolicy) (outer : TableKind) :
      WritesPolicy (.table outer [(policy.label, .array [])]) policy

/-- A datasource is written as a table, or as an array that begins with its name and its type. -/
inductive WritesSource : Item → DefaultSource → Prop
  | table {kind : TableKind} {entries : Entries} {source : DefaultSource}
      (known : ∀ entry ∈ entries, entry.1 ∈ ["name", "type"])
      (name : Given entries "name" WritesText "default_pandas_datasource" source.name)
      (tag : Given entries "type" WritesText "pandas" source.tag) :
      WritesSource (.table kind entries) source
  | nothing {item : Item} (items : elements? item = some []) : WritesSource item {}
  | named {item : Item} {name : String} (items : elements? item = some [.text name]) :
      WritesSource item { name }
  | full {item : Item} {name tag : String} {more : List Item}
      (items : elements? item = some (.text name :: .text tag :: more)) :
      WritesSource item { name, tag }

/-- The entries of a document write settings, in no particular order. -/
structure Written (entries : Entries) (settings : Settings) : Prop where
  known : ∀ entry ∈ entries, entry.1 ∈ names
  repeats : Given entries "duplicate_policy" WritesPolicy .reject settings.repeats
  defaultSource : Given entries "default_datasource" WritesSource {} settings.defaultSource
  ephemeralAsset :
    Given entries "ephemeral_asset_name" WritesText "#ephemeral_pandas_asset" settings.ephemeralAsset

namespace Given

theorem carry {other : Entries} (held : name ∈ other.map Prod.fst → name ∈ entries.map Prod.fst)
    (carries : ∀ {item : Item} {value : α}, (name, item) ∈ entries → Writes item value →
      ∃ item', (name, item') ∈ other ∧ Writes item' value)
    (given : Given entries name Writes fallback value) : Given other name Writes fallback value := by
  cases given with
  | absent missing => exact .absent (mt held missing)
  | present here writes =>
      obtain ⟨item', there, writes'⟩ := carries here writes
      exact .present there writes'

theorem cons_iff_of_ne (other : key ≠ name) :
    Given ((key, item) :: rest) name Writes fallback value ↔
      Given rest name Writes fallback value := by
  constructor
  · refine carry (List.mem_cons_of_mem key) fun here writes => ?_
    rcases List.mem_cons.mp here with same | later
    · exact absurd (congrArg Prod.fst same).symm other
    · exact ⟨_, later, writes⟩
  · refine carry (fun held => ?_) fun later writes => ⟨_, List.mem_cons_of_mem _ later, writes⟩
    exact (List.mem_cons.mp held).resolve_left other.symm

theorem cons_iff (fresh : name ∉ rest.map Prod.fst) :
    Given ((name, item) :: rest) name Writes fallback value ↔ Writes item value := by
  constructor
  · intro given
    cases given with
    | absent missing => exact absurd List.mem_cons_self missing
    | present here writes =>
        rcases List.mem_cons.mp here with same | later
        · cases same
          exact writes
        · exact absurd (List.mem_map_of_mem later) fresh
  · exact .present List.mem_cons_self

theorem iff_of_absent (missing : name ∉ entries.map Prod.fst) :
    Given entries name Writes fallback value ↔ value = fallback := by
  constructor
  · intro given
    cases given with
    | absent => rfl
    | present here => exact absurd (List.mem_map_of_mem here) missing
  · rintro rfl
    exact .absent missing

theorem perm {other : Entries} (order : entries.Perm other)
    (given : Given entries name Writes fallback value) : Given other name Writes fallback value := by
  refine given.carry (order.map Prod.fst).mem_iff.mpr fun here writes => ?_
  exact ⟨_, order.mem_iff.mp here, writes⟩

theorem perm_iff {other : Entries} (order : entries.Perm other) :
    Given entries name Writes fallback value ↔ Given other name Writes fallback value :=
  ⟨perm order, perm order.symm⟩

end Given

theorem bind_eq_ok_iff {ε β : Type} {first : Except ε α} {next : α → Except ε β} {result : β} :
    first >>= next = .ok result ↔ ∃ value, first = .ok value ∧ next value = .ok result := by
  cases first with
  | error cause => simp [bind, Except.bind]
  | ok value => simp [bind, Except.bind]

theorem bind_pure_eq_ok_iff {ε β : Type} {first : Except ε α} {finish : α → β} {result : β} :
    (first >>= fun value => pure (finish value)) = .ok result ↔
      ∃ value, first = .ok value ∧ result = finish value := by
  cases first with
  | error cause => simp [bind, Except.bind]
  | ok value => simp [bind, Except.bind, pure, Except.pure, eq_comm]

theorem wrongType_ne_ok {expected : String} : wrongType item expected ≠ .ok value := by
  unfold wrongType
  cases found item <;> nofun

theorem decodeText_eq_ok_iff {s : String} : decodeText item = .ok s ↔ WritesText item s := by
  constructor
  · intro decoded
    unfold decodeText at decoded
    split at decoded
    · cases decoded
      exact .text s
    · exact absurd decoded wrongType_ne_ok
  · rintro ⟨⟩
    rfl

theorem decodePolicyLabel_eq_ok_iff {label : String} {policy : RepeatPolicy} :
    decodePolicyLabel label = .ok policy ↔ label = policy.label := by
  constructor
  · intro decoded
    unfold decodePolicyLabel at decoded
    split at decoded
    · rename_i found
      cases decoded
      unfold RepeatPolicy.ofLabel? at found
      have same := List.find?_some found
      exact (eq_of_beq same).symm
    · cases decoded
  · rintro rfl
    cases policy <;> rfl

theorem checkPolicyValue_eq_ok_iff {done : Unit} :
    checkPolicyValue item = .ok done ↔ (∃ kind, item = .table kind []) ∨ item = .array [] := by
  unfold checkPolicyValue
  split <;> simp_all

theorem decodePolicy_eq_ok_iff {policy : RepeatPolicy} :
    decodePolicy item = .ok policy ↔ WritesPolicy item policy := by
  constructor
  · intro decoded
    unfold decodePolicy at decoded
    split at decoded
    · rw [decodePolicyLabel_eq_ok_iff.mp decoded]
      exact .text policy
    · cases decoded
    · obtain ⟨named, label, decoded⟩ := bind_eq_ok_iff.mp decoded
      obtain ⟨done, checked, same⟩ := bind_eq_ok_iff.mp decoded
      cases same
      rw [decodePolicyLabel_eq_ok_iff.mp label]
      rcases checkPolicyValue_eq_ok_iff.mp checked with ⟨inner, rfl⟩ | rfl
      · exact .overTable policy _ inner
      · exact .overArray policy _
    · cases decoded
    · cases decoded
  · rintro (⟨⟩ | ⟨policy, outer, inner⟩ | ⟨policy, outer⟩)
    · exact decodePolicyLabel_eq_ok_iff.mpr rfl
    · cases policy <;> rfl
    · cases policy <;> rfl

theorem decodeSourceEntry_name {start next : DefaultSource} :
    decodeSourceEntry start ("name", item) = .ok next ↔
      ∃ name, WritesText item name ∧ next = { start with name } := by
  simp only [decodeSourceEntry, bind_pure_eq_ok_iff, decodeText_eq_ok_iff]

theorem decodeSourceEntry_type {start next : DefaultSource} :
    decodeSourceEntry start ("type", item) = .ok next ↔
      ∃ tag, WritesText item tag ∧ next = { start with tag } := by
  simp only [decodeSourceEntry, bind_pure_eq_ok_iff, decodeText_eq_ok_iff]

theorem decodeSourceEntry_ne_ok {start next : DefaultSource} (other : key ∉ ["name", "type"]) :
    decodeSourceEntry start (key, item) ≠ .ok next := by
  unfold decodeSourceEntry
  split <;> simp_all

theorem foldlM_cons_eq_ok_iff {σ : Type} {step : σ → String × Item → Except ShapeError σ}
    {start last : σ} {changed : α → σ}
    (stepped : ∀ {next}, step start (key, item) = .ok next ↔
      ∃ value, Writes item value ∧ next = changed value) :
    ((key, item) :: rest).foldlM step start = .ok last ↔
      ∃ value, Writes item value ∧ rest.foldlM step (changed value) = .ok last := by
  rw [List.foldlM_cons, bind_eq_ok_iff]
  constructor
  · rintro ⟨next, step, later⟩
    obtain ⟨value, writes, rfl⟩ := stepped.mp step
    exact ⟨value, writes, later⟩
  · rintro ⟨value, writes, later⟩
    exact ⟨_, stepped.mpr ⟨value, writes, rfl⟩, later⟩

theorem foldlM_cons_ne_ok {σ : Type} {step : σ → String × Item → Except ShapeError σ}
    {start last : σ} (refused : ∀ {next}, step start (key, item) ≠ .ok next) :
    ((key, item) :: rest).foldlM step start ≠ .ok last := by
  intro accepted
  rw [List.foldlM_cons, bind_eq_ok_iff] at accepted
  obtain ⟨next, stepped, -⟩ := accepted
  exact refused stepped

theorem foldlM_decodeSourceEntry_iff {start source : DefaultSource}
    (once : (entries.map Prod.fst).Nodup) :
    entries.foldlM decodeSourceEntry start = .ok source ↔
      (∀ entry ∈ entries, entry.1 ∈ ["name", "type"]) ∧
        Given entries "name" WritesText start.name source.name ∧
        Given entries "type" WritesText start.tag source.tag := by
  -- by induction on the entries: what an entry gives stands, as its name does not come again
  induction entries generalizing start with
  | nil =>
      have missing (name : String) : name ∉ ([] : Entries).map Prod.fst := List.not_mem_nil
      rw [Given.iff_of_absent (missing _), Given.iff_of_absent (missing _)]
      obtain ⟨name, tag⟩ := start
      obtain ⟨name', tag'⟩ := source
      simp [pure, Except.pure, eq_comm]
  | cons entry rest ih =>
      obtain ⟨key, item⟩ := entry
      obtain ⟨fresh, later⟩ := List.nodup_cons.mp once
      rw [List.forall_mem_cons]
      by_cases known : key ∈ ["name", "type"]
      · have either : key = "name" ∨ key = "type" := by simpa using known
        rcases either with rfl | rfl
        · rw [foldlM_cons_eq_ok_iff decodeSourceEntry_name, Given.cons_iff fresh,
            Given.cons_iff_of_ne (by decide)]
          simp only [ih later, Given.iff_of_absent fresh]
          grind
        · rw [foldlM_cons_eq_ok_iff decodeSourceEntry_type, Given.cons_iff fresh,
            Given.cons_iff_of_ne (by decide)]
          simp only [ih later, Given.iff_of_absent fresh]
          grind
      · exact iff_of_false (foldlM_cons_ne_ok (decodeSourceEntry_ne_ok known))
          fun written => known written.1.1

theorem perm_inOrder (entries : Entries) : (inOrder entries).Perm entries :=
  List.mergeSort_perm _ _

theorem decodeSource_table_iff {kind : TableKind} {source : DefaultSource}
    (once : (entries.map Prod.fst).Nodup) :
    decodeSource (.table kind entries) = .ok source ↔ WritesSource (.table kind entries) source := by
  have order := perm_inOrder entries
  have apart : ((inOrder entries).map Prod.fst).Nodup := (order.map Prod.fst).nodup_iff.mpr once
  simp only [decodeSource, foldlM_decodeSourceEntry_iff apart, order.mem_iff, Given.perm_iff order]
  constructor
  · rintro ⟨known, name, tag⟩
    exact .table known name tag
  · intro written
    cases written with
    | table known name tag => exact ⟨known, name, tag⟩
    | nothing items => cases items
    | named items => cases items
    | full items => cases items

theorem decode_elements_iff {items : List Item} {source : DefaultSource}
    (held : elements? item = some items) :
    (["name", "type"].zip items).foldlM decodeSourceEntry {} = .ok source ↔
      WritesSource item source := by
  constructor
  · intro decoded
    match items with
    | [] =>
        cases decoded
        exact .nothing held
    | [first] =>
        obtain ⟨name, ⟨⟩, decoded⟩ := (foldlM_cons_eq_ok_iff decodeSourceEntry_name).mp decoded
        cases decoded
        exact .named held
    | first :: second :: more =>
        obtain ⟨name, ⟨⟩, decoded⟩ := (foldlM_cons_eq_ok_iff decodeSourceEntry_name).mp decoded
        obtain ⟨tag, ⟨⟩, decoded⟩ := (foldlM_cons_eq_ok_iff decodeSourceEntry_type).mp decoded
        cases decoded
        exact .full held
  · intro written
    cases written with
    | table known name tag => cases held
    | nothing there =>
        cases held.symm.trans there
        rfl
    | named there =>
        cases held.symm.trans there
        rfl
    | full there =>
        cases held.symm.trans there
        rfl

theorem decodeSource_eq_ok_iff {source : DefaultSource} (distinct : item.Distinct) :
    decodeSource item = .ok source ↔ WritesSource item source := by
  cases item with
  | table kind entries =>
      cases distinct with
      | scalar flat => cases flat
      | table inside => exact decodeSource_table_iff inside.once
  | array items => exact decode_elements_iff rfl
  | tables items => exact decode_elements_iff rfl
  | date =>
      refine iff_of_false ?_ nofun
      change decodeSourceEntry {} (Toml.dateKey, .date) ≠ .ok source
      exact decodeSourceEntry_ne_ok (by decide)
  | _ => exact iff_of_false wrongType_ne_ok nofun

theorem decodeEntry_policy {start next : Settings} :
    decodeEntry start ("duplicate_policy", item) = .ok next ↔
      ∃ repeats, WritesPolicy item repeats ∧ next = { start with repeats } := by
  simp only [decodeEntry, bind_pure_eq_ok_iff, decodePolicy_eq_ok_iff]

theorem decodeEntry_source {start next : Settings} (distinct : item.Distinct) :
    decodeEntry start ("default_datasource", item) = .ok next ↔
      ∃ defaultSource, WritesSource item defaultSource ∧ next = { start with defaultSource } := by
  simp only [decodeEntry, bind_pure_eq_ok_iff, decodeSource_eq_ok_iff distinct]

theorem decodeEntry_ephemeral {start next : Settings} :
    decodeEntry start ("ephemeral_asset_name", item) = .ok next ↔
      ∃ ephemeralAsset, WritesText item ephemeralAsset ∧ next = { start with ephemeralAsset } := by
  simp only [decodeEntry, bind_pure_eq_ok_iff, decodeText_eq_ok_iff]

theorem decodeEntry_ne_ok {start next : Settings} (other : key ∉ names) :
    decodeEntry start (key, item) ≠ .ok next := by
  unfold decodeEntry
  split <;> simp_all [names]

theorem foldlM_decodeEntry_iff {start settings : Settings} (distinct : entries.Distinct) :
    entries.foldlM decodeEntry start = .ok settings ↔
      (∀ entry ∈ entries, entry.1 ∈ names) ∧
        Given entries "duplicate_policy" WritesPolicy start.repeats settings.repeats ∧
        Given entries "default_datasource" WritesSource start.defaultSource settings.defaultSource ∧
        Given entries "ephemeral_asset_name" WritesText start.ephemeralAsset
          settings.ephemeralAsset := by
  induction entries generalizing start with
  | nil =>
      have missing (name : String) : name ∉ ([] : Entries).map Prod.fst := List.not_mem_nil
      simp only [Given.iff_of_absent (missing _)]
      cases start
      cases settings
      simp [pure, Except.pure, eq_comm]
  | cons entry rest ih =>
      obtain ⟨key, item⟩ := entry
      obtain ⟨inside, fresh, later⟩ := Toml.distinct_cons_iff.mp distinct
      rw [List.forall_mem_cons]
      by_cases known : key ∈ names
      · have either : key = "duplicate_policy" ∨ key = "default_datasource" ∨
            key = "ephemeral_asset_name" := by simpa [names] using known
        rcases either with rfl | rfl | rfl
        · rw [foldlM_cons_eq_ok_iff decodeEntry_policy, Given.cons_iff fresh,
            Given.cons_iff_of_ne (by decide), Given.cons_iff_of_ne (by decide)]
          simp only [ih later, Given.iff_of_absent fresh]
          grind
        · rw [foldlM_cons_eq_ok_iff (decodeEntry_source inside), Given.cons_iff fresh,
            Given.cons_iff_of_ne (by decide), Given.cons_iff_of_ne (by decide)]
          simp only [ih later, Given.iff_of_absent fresh]
          grind
        · rw [foldlM_cons_eq_ok_iff decodeEntry_ephemeral, Given.cons_iff fresh,
            Given.cons_iff_of_ne (by decide), Given.cons_iff_of_ne (by decide)]
          simp only [ih later, Given.iff_of_absent fresh]
          grind
      · exact iff_of_false (foldlM_cons_ne_ok (decodeEntry_ne_ok known))
          fun written => known written.1.1

theorem ofEntries_eq_ok_iff {settings : Settings} (distinct : entries.Distinct) :
    ofEntries entries = .ok settings ↔ Written entries settings := by
  have order := perm_inOrder entries
  simp only [ofEntries, foldlM_decodeEntry_iff (distinct.perm order.symm), order.mem_iff,
    Given.perm_iff order]
  constructor
  · rintro ⟨known, repeats, defaultSource, ephemeralAsset⟩
    exact ⟨known, repeats, defaultSource, ephemeralAsset⟩
  · rintro ⟨known, repeats, defaultSource, ephemeralAsset⟩
    exact ⟨known, repeats, defaultSource, ephemeralAsset⟩

end Settings

end SourceRegistry
