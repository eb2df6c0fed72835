import SourceRegistry.Proofs.Methods.Layout
import SourceRegistry.Proofs.Methods.Reading

/-!
What programs store.  A datasource that keeps its assets on a shelf takes an asset exactly where the
name of the asset is free, and puts it at the end.  A program that only hands assets over and asks, of
hosts that only answer, appends to the datasource that it runs on what that took in the meantime, and
leaves all others as they are.
-/

set_option autoImplicit false
set_option relaxedAutoImplicit false

namespace SourceRegistry

def Asset.entry (asset : Asset) : String × Asset := (asset.name, asset)

namespace AssetShelf

def OwnNamed (shelf : AssetShelf) : Prop :=
  ∀ entry ∈ shelf.assets.entries, entry.1 = entry.2.name

variable {shelf : AssetShelf} {asset : Asset}

theorem ownNamed_empty : empty.OwnNamed := nofun

theorem OwnNamed.names_eq (own : shelf.OwnNamed) :
    shelf.assets.values.map Asset.name = shelf.names := by
  simp only [names, NamedList.values, NamedList.names, List.map_map]
  exact List.map_congr_left fun entry member => (own entry member).symm

theorem OwnNamed.nodup (own : shelf.OwnNamed) : (shelf.assets.values.map Asset.name).Nodup := by
  rw [own.names_eq]
  exact shelf.assets.nodup

theorem add_of_mem (taken : asset.name ∈ shelf.names) :
    shelf.add asset = .error (.duplicate asset.name) := by
  have held : shelf.assets.contains asset.name = true := NamedList.mem_names_iff.mp taken
  simp [add, held]

theorem add_of_not_mem (free : asset.name ∉ shelf.names) :
    ∃ shelf', shelf.add asset = .ok shelf' ∧
      shelf'.assets.entries = shelf.assets.entries ++ [asset.entry] := by
  have missing : ¬ shelf.assets.contains asset.name = true :=
    fun held => free (NamedList.mem_names_iff.mpr held)
  refine ⟨{ assets := shelf.assets.put asset.name asset }, by simp [add, missing], ?_⟩
  exact NamedList.entries_put_of_not_mem free asset

theorem OwnNamed.append {shelf' : AssetShelf} {assets : List Asset} (own : shelf.OwnNamed)
    (appended : shelf'.assets.entries = shelf.assets.entries ++ assets.map Asset.entry) :
    shelf'.OwnNamed := by
  intro entry member
  rw [appended] at member
  rcases List.mem_append.mp member with earlier | later
  · exact own entry earlier
  · obtain ⟨asset, -, rfl⟩ := List.mem_map.mp later
    rfl

end AssetShelf

/-- Datasources in some states keep their assets on a shelf, and take an asset as the shelf does. -/
structure Source.KeepsOn {σ : Type} [Source σ] (shelf : σ → AssetShelf) (states : σ → Prop) :
    Prop where
  stored : ∀ (s : σ) (asset : Asset) (shelf' : AssetShelf), states s →
    (shelf s).add asset = .ok shelf' →
      (Source.addAsset s asset).1 = .ok asset ∧ shelf (Source.addAsset s asset).2 = shelf' ∧
        states (Source.addAsset s asset).2
  refused : ∀ (s : σ) (asset : Asset) (cause : AssetError), states s →
    (shelf s).add asset = .error cause → Source.addAsset s asset = (.error cause, s)

namespace World

variable {σ η β γ : Type}

section Places

variable {w : World σ η} {place : SourceId} {old : σ}

theorem setSource_same (here : w.source? place = some old) : w.setSource place old = w := by
  obtain ⟨inside, found⟩ := List.getElem?_eq_some_iff.mp here
  have same : w.sources.set place old = w.sources := by
    rw [← found]
    exact List.set_getElem_self inside
  simp only [setSource, same]

theorem source?_setSource (here : w.source? place = some old) (new : σ) (other : SourceId) :
    (w.setSource place new).source? other = if place = other then some new else w.source? other := by
  obtain ⟨inside, -⟩ := List.getElem?_eq_some_iff.mp here
  simp only [source?, setSource, List.getElem?_set]
  by_cases same : place = other
  · subst same
    simp [inside]
  · simp [same]

end Places

variable [Source σ] [Host η σ]

/-- The assets that the datasource at a place takes while a program runs, in order. -/
def taken (w : World σ η) (place : SourceId) : Program β → List Asset
  | .done _ => []
  | .addAsset asset next =>
    let (outcome, w') := w.addAsset place asset
    outcome.toOption.toList ++ w'.taken place (next outcome)
  | .ask request next =>
    let (outcome, w') := w.ask place request
    w'.taken place (next outcome)
  | .act context message next =>
    let (reply, w') := w.act context place message
    w'.taken place (next reply)

omit [Host η σ] in
theorem source?_addAsset_of_ne {place other : SourceId} (differ : place ≠ other) (w : World σ η)
    (asset : Asset) : (w.addAsset place asset).2.source? other = w.source? other := by
  unfold addAsset
  cases here : w.source? place with
  | none => rfl
  | some value =>
      simp only
      rw [source?_setSource here, if_neg differ]

theorem sources_ask (answering : Host.OnlyAnswers η σ) (w : World σ η) (place : SourceId)
    (request : Request) : (w.ask place request).2.sources = w.sources := by
  unfold ask
  cases w.contextOf place with
  | none => rfl
  | some context =>
      cases live : w.host? context with
      | none => simp only [letHost_of_dead live]
      | some host =>
          simp only [letHost_of_live live]
          exact answering host w.sources request

theorem source?_ask (answering : Host.OnlyAnswers η σ) (w : World σ η) (place : SourceId)
    (request : Request) (other : SourceId) :
    (w.ask place request).2.source? other = w.source? other := by
  unfold source?
  rw [sources_ask answering]

theorem source?_run_of_ne (answering : Host.OnlyAnswers η σ) {place other : SourceId}
    (differ : place ≠ other) (w : World σ η) {program : Program β} (plain : program.Plain) :
    (w.run place program).2.source? other = w.source? other := by
  induction program generalizing w with
  | done outcome => rfl
  | addAsset asset next ih =>
      exact (ih _ _ (plain _)).trans (source?_addAsset_of_ne differ w asset)
  | ask request next ih =>
      exact (ih _ _ (plain _)).trans (source?_ask answering w place request other)
  | act context message next ih => exact plain.elim

section Shelf

variable {shelf : σ → AssetShelf} {states : σ → Prop} {w : World σ η} {place : SourceId} {s : σ}

omit [Host η σ] in
theorem addAsset_cases (keeps : Source.KeepsOn shelf states) (here : w.source? place = some s)
    (state : states s) (asset : Asset) :
    (asset.name ∈ (shelf s).names ∧
        w.addAsset place asset = (.error (.duplicate asset.name), w)) ∨
      (asset.name ∉ (shelf s).names ∧ ∃ s', states s' ∧
        (shelf s').assets.entries = (shelf s).assets.entries ++ [asset.entry] ∧
        w.addAsset place asset = (.ok asset, w.setSource place s')) := by
  by_cases taken : asset.name ∈ (shelf s).names
  · have refused := keeps.refused s asset _ state (AssetShelf.add_of_mem taken)
    refine .inl ⟨taken, ?_⟩
    simp only [addAsset, here, refused, setSource_same here]
  · obtain ⟨shelf', added, entries⟩ := AssetShelf.add_of_not_mem taken
    obtain ⟨outcome, stored, state'⟩ := keeps.stored s asset shelf' state added
    refine .inr ⟨taken, (Source.addAsset s asset).2, state', by rw [stored]; exact entries, ?_⟩
    simp only [addAsset, here, ← outcome]

/-- The shelf grows by what its datasource took while the program ran, in that order. -/
theorem entries_run (keeps : Source.KeepsOn shelf states) (answering : Host.OnlyAnswers η σ)
    (here : w.source? place = some s) (state : states s) {program : Program β}
    (plain : program.Plain) :
    ∃ s', (w.run place program).2.source? place = some s' ∧ states s' ∧
      (shelf s').assets.entries =
        (shelf s).assets.entries ++ (w.taken place program).map Asset.entry := by
  induction program generalizing w s with
  | done outcome => exact ⟨s, here, state, by simp [taken]⟩
  | addAsset asset next ih =>
      rcases addAsset_cases keeps here state asset with
        ⟨-, refused⟩ | ⟨-, s₁, state₁, entries₁, accepted⟩
      · obtain ⟨s', there, state', entries⟩ := ih _ here state (plain _)
        refine ⟨s', by simpa only [run, refused] using there, state', ?_⟩
        simpa [taken, refused, Except.toOption] using entries
      · have present : (w.setSource place s₁).source? place = some s₁ := by
          rw [source?_setSource here, if_pos rfl]
        obtain ⟨s', there, state', entries⟩ := ih _ present state₁ (plain _)
        refine ⟨s', by simpa only [run, accepted] using there, state', ?_⟩
        rw [entries, entries₁]
        simp [taken, accepted, Except.toOption]
  | ask request next ih =>
      have present : (w.ask place request).2.source? place = some s := by
        rw [source?_ask answering]
        exact here
      exact ih _ present state (plain _)
  | act context message next ih => exact plain.elim

end Shelf

section Generated

variable (w : World σ η) (place : SourceId)

theorem taken_andThen (p : Program β) {next : β → Program γ}
    (quiet : ∀ (w : World σ η) (answer : β), w.taken place (next answer) = []) :
    w.taken place (p.andThen next) = w.taken place p := by
  induction p generalizing w with
  | done outcome =>
      cases outcome with
      | error cause => rfl
      | ok answer => exact quiet w answer
  | addAsset asset rest ih =>
      simp only [Program.andThen, taken]
      rw [ih]
  | ask request rest ih =>
      simp only [Program.andThen, taken]
      exact ih _ _
  | act context message rest ih =>
      simp only [Program.andThen, taken]
      exact ih _ _

theorem taken_askFor (source : String) (asset : Asset) :
    w.taken place (Program.askFor source asset) = [] := by
  simp only [Program.askFor, taken]
  rcases (w.ask place (asset.request source)).1 with _ | refused | validator <;> rfl

theorem taken_readProgram (spec : AssetSpec) (ephemeral source : String) (given : Option String)
    (fields : Fields) :
    w.taken place (Method.readProgram spec ephemeral source given fields) =
      w.taken place
        (Program.buildAndAdd spec source (Method.readTarget ephemeral given) fields) :=
  w.taken_andThen place _ fun v asset => v.taken_askFor place source asset

variable {w place} {shelf : σ → AssetShelf} {states : σ → Prop} {s : σ}

theorem buildAndAdd_cases (keeps : Source.KeepsOn shelf states) (here : w.source? place = some s)
    (state : states s) (spec : AssetSpec) (source name : String) (fields : Fields) :
    (∃ cause, spec.build name fields = .error cause ∧
        w.run place (Program.buildAndAdd spec source name fields) = (.error cause, w) ∧
        w.taken place (Program.buildAndAdd spec source name fields) = []) ∨
      (∃ asset, spec.build name fields = .ok asset ∧ asset.name ∈ (shelf s).names ∧
        w.run place (Program.buildAndAdd spec source name fields) =
          (.error (.assetRefused source (.duplicate asset.name)), w) ∧
        w.taken place (Program.buildAndAdd spec source name fields) = []) ∨
      ∃ asset w', spec.build name fields = .ok asset ∧ asset.name ∉ (shelf s).names ∧
        w.run place (Program.buildAndAdd spec source name fields) = (.ok asset, w') ∧
        w.taken place (Program.buildAndAdd spec source name fields) = [asset] := by
  rw [run_buildAndAdd]
  unfold Program.buildAndAdd
  cases built : spec.build name fields with
  | error cause => exact .inl ⟨cause, rfl, rfl, rfl⟩
  | ok asset =>
      rcases addAsset_cases keeps here state asset with
        ⟨taken, refused⟩ | ⟨free, s', -, -, accepted⟩
      · refine .inr (.inl ⟨asset, rfl, taken, ?_, ?_⟩)
        · simp only [refused]
          rfl
        · simp only [World.taken, refused]
          rfl
      · refine .inr (.inr ⟨asset, w.setSource place s', rfl, free, ?_, ?_⟩)
        · simp only [accepted]
          rfl
        · simp only [World.taken, accepted]
          rfl

end Generated

end World

end SourceRegistry
