import SourceRegistry.Toml.Reader

/-!
Documents have no name twice.  Every change that a statement makes to a table keeps the names of the
table apart, and so does every table in place.  Hence in what is read from a text each name decides for
itself, at every depth.
-/

set_option autoImplicit false
set_option relaxedAutoImplicit false

namespace SourceRegistry.Toml

def Item.isScalar : Item → Bool
  | .array _ => false
  | .table _ _ => false
  | .tables _ => false
  | _ => true

mutual

inductive Item.Distinct : Item → Prop
  | scalar {item : Item} (flat : item.isScalar = true) : Item.Distinct item
  | array {items : List Item} (each : ∀ item ∈ items, Item.Distinct item) :
      Item.Distinct (.array items)
  | table {kind : TableKind} {entries : Entries} (inside : Entries.Distinct entries) :
      Item.Distinct (.table kind entries)
  | tables {items : List Entries} (each : ∀ entries ∈ items, Entries.Distinct entries) :
      Item.Distinct (.tables items)

/-- No name is there twice, nor in a table of the items. -/
inductive Entries.Distinct : Entries → Prop
  | intro {entries : Entries} (once : (entries.map Prod.fst).Nodup)
      (each : ∀ entry ∈ entries, Item.Distinct entry.2) : Entries.Distinct entries

end

/-- A reader of texts whose documents have no name twice in a table. -/
def Unrepeating (reader : String → Option Entries) : Prop :=
  ∀ text entries, reader text = some entries → entries.Distinct

namespace Entries.Distinct

variable {entries : Entries} {name : String} {item : Item}

theorem once (distinct : entries.Distinct) : (entries.map Prod.fst).Nodup := by
  cases distinct with
  | intro once each => exact once

theorem each (distinct : entries.Distinct) : ∀ entry ∈ entries, entry.2.Distinct := by
  cases distinct with
  | intro once each => exact each

theorem nil : Entries.Distinct [] := .intro .nil (by simp)

theorem perm {other : Entries} (distinct : entries.Distinct) (order : entries.Perm other) :
    other.Distinct :=
  .intro ((order.map Prod.fst).nodup_iff.mp distinct.once)
    fun entry member => distinct.each entry (order.mem_iff.mpr member)

theorem of_lookup (distinct : entries.Distinct) (found : entries.lookup name = some item) :
    item.Distinct := by
  obtain ⟨before, after, rfl, -⟩ := List.lookup_eq_some_iff.mp found
  exact distinct.each (name, item) (by simp)

theorem put (distinct : entries.Distinct) (apart : item.Distinct) :
    (entries.put name item).Distinct := by
  unfold Entries.put
  split
  · -- the name keeps its place, so the names stay as they are
    have names : (entries.map fun entry => if entry.1 = name then (name, item) else entry).map
        Prod.fst = entries.map Prod.fst := by
      rw [List.map_map]
      refine List.map_congr_left fun entry _ => ?_
      by_cases same : entry.1 = name <;> simp [same]
    refine .intro (names ▸ distinct.once) fun entry changed => ?_
    obtain ⟨old, member, rfl⟩ := List.mem_map.mp changed
    split
    · exact apart
    · exact distinct.each old member
  · rename_i missing
    have fresh : name ∉ entries.map Prod.fst := by
      intro held
      obtain ⟨entry, member, rfl⟩ := List.mem_map.mp held
      rw [Option.not_isSome_iff_eq_none, List.lookup_eq_none_iff] at missing
      simpa using missing entry member
    refine .intro ?_ ?_
    · rw [List.map_append, List.map_singleton, (List.perm_append_singleton _ _).nodup_iff]
      exact List.nodup_cons.mpr ⟨fresh, distinct.once⟩
    · intro entry member
      rcases List.mem_append.mp member with old | new
      · exact distinct.each entry old
      · rw [List.mem_singleton.mp new]
        exact apart

end Entries.Distinct

theorem distinct_cons_iff {name : String} {item : Item} {rest : Entries} :
    Entries.Distinct ((name, item) :: rest) ↔
      item.Distinct ∧ name ∉ rest.map Prod.fst ∧ rest.Distinct := by
  constructor
  · intro distinct
    obtain ⟨fresh, once⟩ := List.nodup_cons.mp distinct.once
    obtain ⟨inside, each⟩ := List.forall_mem_cons.mp distinct.each
    exact ⟨inside, fresh, .intro once each⟩
  · rintro ⟨inside, fresh, later⟩
    exact .intro (List.nodup_cons.mpr ⟨fresh, later.once⟩)
      (List.forall_mem_cons.mpr ⟨inside, later.each⟩)

def Keeps (change : Entries → Option Entries) : Prop :=
  ∀ ⦃entries out : Entries⦄, entries.Distinct → change entries = some out → out.Distinct

variable {name : String} {item : Item} {dotted : Bool}

theorem keeps_addItem (apart : item.Distinct) : Keeps (addItem name item) := by
  intro entries out distinct added
  unfold addItem at added
  split at added
  · cases added
  · cases added
    exact distinct.put apart

theorem keeps_defineTable : Keeps (defineTable name) := by
  intro entries out distinct defined
  unfold defineTable at defined
  split at defined
  · cases defined
    exact distinct.put (.table .nil)
  · rename_i passed
    cases defined
    cases distinct.of_lookup passed with
    | scalar flat => cases flat
    | table inside => exact distinct.put (.table inside)
  · cases defined

theorem keeps_extendTables : Keeps (extendTables name) := by
  intro entries out distinct extended
  unfold extendTables at extended
  split at extended
  · cases extended
    exact distinct.put (.tables (by simp [Entries.Distinct.nil]))
  · rename_i items held
    cases extended
    cases distinct.of_lookup held with
    | scalar flat => cases flat
    | tables each =>
        refine distinct.put (.tables fun table member => ?_)
        rcases List.mem_append.mp member with old | new
        · exact each table old
        · rw [List.mem_singleton.mp new]
          exact .nil
  · cases extended

theorem keeps_descend {change : TableKind → Entries → Option Entries}
    (keeps : ∀ kind, Keeps (change kind)) (path : List String) (kind : TableKind) :
    Keeps (descend dotted change path kind) := by
  -- by induction on the path: a table on the way is new, or one of a document that is distinct
  induction path generalizing kind with
  | nil => exact keeps kind
  | cons key path ih =>
      intro entries out distinct changed
      simp only [descend] at changed
      split at changed
      · obtain ⟨sub, below, rfl⟩ := Option.map_eq_some_iff.mp changed
        exact distinct.put (.table (ih _ .nil below))
      · rename_i found
        split at changed
        · obtain ⟨sub, below, rfl⟩ := Option.map_eq_some_iff.mp changed
          cases distinct.of_lookup found with
          | scalar flat => cases flat
          | table inside => exact distinct.put (.table (ih _ inside below))
        · cases changed
      · rename_i items found
        obtain ⟨sub, below, rfl⟩ := Option.map_eq_some_iff.mp changed
        cases distinct.of_lookup found with
        | scalar flat => cases flat
        | tables each =>
            have last : Entries.Distinct (items.getLast?.getD []) := by
              cases there : items.getLast? with
              | none => exact .nil
              | some table => exact each table (List.mem_of_getLast? there)
            refine distinct.put (.tables fun table member => ?_)
            rcases List.mem_append.mp member with old | new
            · exact each table (List.dropLast_subset _ old)
            · rw [List.mem_singleton.mp new]
              exact ih _ last below
      · cases changed

theorem keeps_assign (apart : item.Distinct) (path : List String) (kind : TableKind) :
    Keeps (assign path item kind) := by
  unfold assign
  split
  · intro entries out _ nothing
    cases nothing
  · refine keeps_descend (fun last entries out distinct added => ?_) _ kind
    split at added
    · exact keeps_addItem apart distinct added
    · cases added

theorem foldlM_keeps {α β : Type} {holds : β → Prop} {fits : α → Prop} {step : β → α → Option β}
    (keeps : ∀ {state next : β} {entry : α}, holds state → fits entry →
      step state entry = some next → holds next) :
    ∀ {entries : List α} {state last : β}, holds state → (∀ entry ∈ entries, fits entry) →
      entries.foldlM step state = some last → holds last := by
  intro entries
  induction entries with
  | nil =>
      intro state last held _ run
      cases run
      exact held
  | cons entry rest ih =>
      intro state last held fitting run
      rw [List.foldlM_cons] at run
      obtain ⟨next, stepped, run⟩ := Option.bind_eq_some_iff.mp run
      rw [List.forall_mem_cons] at fitting
      exact ih (keeps held fitting.1 stepped) fitting.2 run

def Statement.Distinct : Statement → Prop
  | .assign _ item => item.Distinct
  | _ => True

theorem Draft.distinct_head {d d' : Draft} {path : List String}
    {change : String → Entries → Option Entries} (keeps : ∀ name, Keeps (change name))
    (distinct : d.entries.Distinct) (added : d.head path change = some d') :
    d'.entries.Distinct := by
  unfold Draft.head at added
  split at added
  · cases added
  · obtain ⟨entries, changed, rfl⟩ := Option.map_eq_some_iff.mp added
    exact keeps_descend (fun _ => keeps _) _ _ distinct changed

theorem Draft.distinct_add {d d' : Draft} {statement : Statement} (distinct : d.entries.Distinct)
    (apart : statement.Distinct) (added : d.add statement = some d') : d'.entries.Distinct := by
  cases statement with
  | header path => exact distinct_head (fun _ => keeps_defineTable) distinct added
  | arrayHeader path => exact distinct_head (fun _ => keeps_extendTables) distinct added
  | assign path item =>
      obtain ⟨entries, changed, rfl⟩ := Option.map_eq_some_iff.mp added
      exact keeps_descend (keeps_assign apart path) _ _ distinct changed

theorem distinct_of_document {statements : List Statement} {entries : Entries}
    (apart : ∀ statement ∈ statements, statement.Distinct)
    (made : document? statements = some entries) : entries.Distinct := by
  obtain ⟨draft, run, rfl⟩ := Option.map_eq_some_iff.mp made
  exact foldlM_keeps Draft.distinct_add Entries.Distinct.nil apart run

theorem distinct_of_tableInPlace {entries : List (List String × Item)}
    (apart : ∀ entry ∈ entries, entry.2.Distinct) (made : tableInPlace? entries = some item) :
    item.Distinct := by
  obtain ⟨table, run, rfl⟩ := Option.map_eq_some_iff.mp made
  refine .table (foldlM_keeps (fun held fits stepped => ?_) .nil apart run)
  exact keeps_assign fits _ _ held stepped

end SourceRegistry.Toml
