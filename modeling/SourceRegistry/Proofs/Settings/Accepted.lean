import SourceRegistry.Proofs.Settings.Written
import SourceRegistry.Registry

/-!
The texts that settings are read from: those whose document writes settings without an empty name.  Of a
document that writes settings with empty names, the first of these names is reported.  All that counts
of the reader of documents is that it lets no name stand twice in a table.
-/

set_option autoImplicit false
set_option relaxedAutoImplicit false

namespace SourceRegistry

namespace Settings

open SourceRegistry.Toml (Item Entries TableKind)

structure Filled (s : Settings) : Prop where
  sourceName : s.defaultSource.name ≠ ""
  sourceTag : s.defaultSource.tag ≠ ""
  ephemeralAsset : s.ephemeralAsset ≠ ""

/-- The setting that is reported where names are empty. -/
inductive Lacks (s : Settings) : String → Prop
  | sourceName (empty : s.defaultSource.name = "") : Lacks s "default_datasource.name"
  | sourceTag (named : s.defaultSource.name ≠ "") (empty : s.defaultSource.tag = "") :
      Lacks s "default_datasource.type"
  | ephemeralAsset (named : s.defaultSource.name ≠ "") (tagged : s.defaultSource.tag ≠ "")
      (empty : s.ephemeralAsset = "") : Lacks s "ephemeral_asset_name"

inductive Alike : Item → Item → Prop
  | same (item : Item) : Alike item item
  | table {kind kind' : TableKind} {entries other : Entries} (order : entries.Perm other) :
      Alike (.table kind entries) (.table kind' other)

/-- Documents with the same entries in another order, in themselves and in the tables right below. -/
structure Rearranged (entries other : Entries) : Prop where
  names : ∀ name, name ∈ entries.map Prod.fst ↔ name ∈ other.map Prod.fst
  items : ∀ (name : String) (item : Item), (name, item) ∈ entries →
    ∃ item', (name, item') ∈ other ∧ Alike item item'

variable {settings : Settings} {entries other : Entries} {item item' : Item}

theorem filled_or_lacks (s : Settings) : s.Filled ∨ ∃ field, s.Lacks field := by
  by_cases unnamed : s.defaultSource.name = ""
  · exact .inr ⟨_, .sourceName unnamed⟩
  · by_cases untagged : s.defaultSource.tag = ""
    · exact .inr ⟨_, .sourceTag unnamed untagged⟩
    · by_cases empty : s.ephemeralAsset = ""
      · exact .inr ⟨_, .ephemeralAsset unnamed untagged empty⟩
      · exact .inl ⟨unnamed, untagged, empty⟩

theorem validate_of_filled (filled : settings.Filled) : settings.validate = .ok () := by
  simp [validate, firstEmpty, required, filled.sourceName, filled.sourceTag, filled.ephemeralAsset]

theorem validate_of_lacks {field : String} (lacks : settings.Lacks field) :
    settings.validate = .error (.emptyField field) := by
  cases lacks with
  | sourceName empty => simp [validate, firstEmpty, required, empty]
  | sourceTag named empty => simp [validate, firstEmpty, required, named, empty]
  | ephemeralAsset named tagged empty =>
      simp [validate, firstEmpty, required, named, tagged, empty]

theorem map_validate_eq_ok_iff {β : Type} {result found : β} :
    (settings.validate.map fun _ => result) = .ok found ↔ settings.Filled ∧ found = result := by
  rcases settings.filled_or_lacks with filled | ⟨field, lacks⟩
  · rw [validate_of_filled filled]
    simp [Except.map, filled, eq_comm]
  · have unfilled : ¬ settings.Filled := fun filled => by
      cases (validate_of_filled filled).symm.trans (validate_of_lacks lacks)
    rw [validate_of_lacks lacks]
    simp [Except.map, unfilled]

theorem map_validate_eq_error_iff {β : Type} {result : β} {cause : SettingsError} :
    (settings.validate.map fun _ => result) = .error cause ↔
      ∃ field, settings.Lacks field ∧ cause = .emptyField field := by
  constructor
  · intro refused
    rcases settings.filled_or_lacks with filled | ⟨field, lacks⟩
    · rw [validate_of_filled filled] at refused
      cases refused
    · rw [validate_of_lacks lacks] at refused
      cases refused
      exact ⟨field, lacks, rfl⟩
  · rintro ⟨field, lacks, rfl⟩
    rw [validate_of_lacks lacks]
    rfl

section Reader

variable {reader : String → Option Entries} {text : String}

theorem ofTextWith_of_written (unrepeating : Toml.Unrepeating reader)
    (read : reader text = some entries) (written : Written entries settings) :
    ofTextWith reader text = settings.validate.map fun _ => settings := by
  have decoded := (ofEntries_eq_ok_iff (unrepeating text entries read)).mpr written
  simp only [ofTextWith, read, decoded]
  cases settings.validate <;> rfl

theorem exists_written {outcome : Except SettingsError Settings}
    (unrepeating : Toml.Unrepeating reader) (answer : ofTextWith reader text = outcome)
    (formed : outcome ≠ .error .malformed) (shaped : ∀ cause, outcome ≠ .error (.shape cause)) :
    ∃ entries settings, reader text = some entries ∧ Written entries settings ∧
      (settings.validate.map fun _ => settings) = outcome := by
  cases read : reader text with
  | none =>
      simp only [ofTextWith, read] at answer
      exact absurd answer.symm formed
  | some entries =>
      cases decoded : ofEntries entries with
      | ok settings =>
          have writes := (ofEntries_eq_ok_iff (unrepeating text entries read)).mp decoded
          have outcomes := ofTextWith_of_written unrepeating read writes
          exact ⟨entries, settings, rfl, writes, outcomes.symm.trans answer⟩
      | error cause =>
          simp only [ofTextWith, read, decoded] at answer
          split at answer
          · exact absurd answer.symm (shaped cause)
          · exact absurd answer.symm formed

theorem ofTextWith_eq_ok_iff (unrepeating : Toml.Unrepeating reader) :
    ofTextWith reader text = .ok settings ↔
      ∃ entries, reader text = some entries ∧ Written entries settings ∧ settings.Filled := by
  constructor
  · intro answer
    obtain ⟨entries, written, read, writes, passed⟩ := exists_written unrepeating answer nofun nofun
    obtain ⟨filled, rfl⟩ := map_validate_eq_ok_iff.mp passed
    exact ⟨entries, read, writes, filled⟩
  · rintro ⟨entries, read, writes, filled⟩
    rw [ofTextWith_of_written unrepeating read writes]
    exact map_validate_eq_ok_iff.mpr ⟨filled, rfl⟩

theorem ofTextWith_eq_emptyField_iff {field : String} (unrepeating : Toml.Unrepeating reader) :
    ofTextWith reader text = .error (.emptyField field) ↔
      ∃ entries settings, reader text = some entries ∧ Written entries settings ∧
        settings.Lacks field := by
  constructor
  · intro answer
    obtain ⟨entries, settings, read, writes, refused⟩ :=
      exists_written unrepeating answer nofun nofun
    obtain ⟨reported, lacks, same⟩ := map_validate_eq_error_iff.mp refused
    cases same
    exact ⟨entries, settings, read, writes, lacks⟩
  · rintro ⟨entries, settings, read, writes, lacks⟩
    rw [ofTextWith_of_written unrepeating read writes]
    exact map_validate_eq_error_iff.mpr ⟨field, lacks, rfl⟩

end Reader

namespace Alike

theorem writesText {s : String} (alike : Alike item item') (writes : WritesText item s) :
    WritesText item' s := by
  cases writes
  cases alike
  exact .text s

theorem writesPolicy {policy : RepeatPolicy} (alike : Alike item item')
    (writes : WritesPolicy item policy) : WritesPolicy item' policy := by
  cases alike with
  | same => exact writes
  | table order =>
      cases writes with
      | overTable =>
          rw [← List.singleton_perm.mp order]
          exact .overTable policy _ _
      | overArray =>
          rw [← List.singleton_perm.mp order]
          exact .overArray policy _

theorem writesSource {source : DefaultSource} (alike : Alike item item')
    (writes : WritesSource item source) : WritesSource item' source := by
  cases alike with
  | same => exact writes
  | table order =>
      cases writes with
      | table known name tag =>
          refine .table ?_ (name.perm order) (tag.perm order)
          exact fun entry member => known entry (order.mem_iff.mpr member)
      | nothing items => cases items
      | named items => cases items
      | full items => cases items

end Alike

theorem Rearranged.given {α : Type} {name : String} {Writes : Item → α → Prop} {fallback value : α}
    (rearranged : Rearranged entries other)
    (carries : ∀ {item item' value}, Alike item item' → Writes item value → Writes item' value)
    (given : Given entries name Writes fallback value) : Given other name Writes fallback value := by
  refine given.carry (rearranged.names name).mpr fun here writes => ?_
  obtain ⟨item', there, alike⟩ := rearranged.items name _ here
  exact ⟨item', there, carries alike writes⟩

theorem Rearranged.written (rearranged : Rearranged entries other)
    (written : Written entries settings) : Written other settings where
  known entry member := by
    have held := (rearranged.names entry.1).mpr (List.mem_map_of_mem member)
    obtain ⟨entry', member', same⟩ := List.mem_map.mp held
    exact same ▸ written.known entry' member'
  repeats := rearranged.given Alike.writesPolicy written.repeats
  defaultSource := rearranged.given Alike.writesSource written.defaultSource
  ephemeralAsset := rearranged.given Alike.writesText written.ephemeralAsset

/-- Settings are read from the texts whose document writes them, if no name is empty; else the first
empty one is reported.  The order of the entries does not matter.  A registry takes settings on the same
condition. -/
theorem ofText_eq_ok_iff_written {σ : Type} {reader : String → Option Entries}
    (unrepeating : Toml.Unrepeating reader) :
    (∀ (text : String) (settings : Settings), ofTextWith reader text = .ok settings ↔
      ∃ entries, reader text = some entries ∧ Written entries settings ∧ settings.Filled) ∧
    (∀ text field : String, ofTextWith reader text = .error (.emptyField field) ↔
      ∃ entries settings, reader text = some entries ∧ Written entries settings ∧
        settings.Lacks field) ∧
    (∀ (text text' : String) (entries entries' : Entries), reader text = some entries →
      reader text' = some entries' → Rearranged entries entries' →
      ∀ settings, ofTextWith reader text = .ok settings → ofTextWith reader text' = .ok settings) ∧
    ∀ settings : Settings,
      (∀ r : Registry σ, Registry.withSettings settings = .ok r ↔ settings.Filled ∧ r = { settings }) ∧
      ∀ cause, (Registry.withSettings settings : Except SettingsError (Registry σ)) = .error cause ↔
        ∃ field, settings.Lacks field ∧ cause = .emptyField field := by
  refine ⟨fun text settings => ofTextWith_eq_ok_iff unrepeating,
    fun text field => ofTextWith_eq_emptyField_iff unrepeating, ?_, ?_⟩
  · intro text text' entries entries' read read' rearranged settings answer
    obtain ⟨found, again, writes, filled⟩ := (ofTextWith_eq_ok_iff unrepeating).mp answer
    obtain rfl := Option.some.inj (read.symm.trans again)
    have writes' := rearranged.written writes
    exact (ofTextWith_eq_ok_iff unrepeating).mpr ⟨entries', read', writes', filled⟩
  · intro settings
    have taken : (Registry.withSettings settings : Except SettingsError (Registry σ)) =
        settings.validate.map fun _ => { settings } := by
      unfold Registry.withSettings
      cases settings.validate <;> rfl
    rw [taken]
    exact ⟨fun r => map_validate_eq_ok_iff, fun cause => map_validate_eq_error_iff⟩

theorem ofText_dotted_name :
    let text := "default_datasource.name = \"temp\""
    let settings : Settings := { defaultSource := { name := "temp" } }
    Toml.Unrepeating Toml.read? ∧ ofText text = .ok settings ∧
      ∃ entries, Toml.read? text = some entries ∧ Written entries settings ∧ settings.Filled := by
  have accepted : ofText "default_datasource.name = \"temp\"" =
      .ok { defaultSource := { name := "temp" } } := by with_unfolding_all rfl
  have readings := @ofText_eq_ok_iff_written Unit _ Toml.unrepeating_read
  exact ⟨Toml.unrepeating_read, accepted, (readings.1 _ _).mp accepted⟩

/-- A policy over an empty array is accepted, though its item is neither a text nor a table with one
name over an empty table. -/
theorem ofText_policy_over_array :
    let text := "duplicate_policy = \x7breject = []\x7d"
    ∃ item, Toml.read? text = some [("duplicate_policy", item)] ∧
      (∀ label, item ≠ .text label) ∧
      (∀ kind label inner, item ≠ .table kind [(label, .table inner [])]) ∧
      ofText text = .ok {} := by
  have read : Toml.read? "duplicate_policy = \x7breject = []\x7d" =
      some [("duplicate_policy", .table .inPlace [("reject", .array [])])] := by with_unfolding_all rfl
  have accepted : ofText "duplicate_policy = \x7breject = []\x7d" = .ok {} := by with_unfolding_all rfl
  exact ⟨_, read, nofun, by simp, accepted⟩

end Settings

end SourceRegistry
