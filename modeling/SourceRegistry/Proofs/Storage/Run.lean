import SourceRegistry.Proofs.Storage.Program

/-!
Asset storage over runs of method calls.  Whatever is called through whichever handles, each datasource
keeps the assets that it took, in the order in which it took them and each under its own name.  A call of
a generated method appends one asset to its own datasource or nothing at all, and where it appends
nothing, nothing else changes either.
-/

set_option autoImplicit false
set_option relaxedAutoImplicit false

namespace SourceRegistry

inductive Use where
  | add (handle : Handle) (method name : String) (fields : Fields)
  | read (handle : Handle) (method : String) (given : Option String) (fields : Fields)

namespace Use

def handle : Use → Handle
  | .add handle _ _ _ => handle
  | .read handle _ _ _ => handle

def method : Use → String
  | .add _ method _ _ => method
  | .read _ method _ _ => method

def isAdd : Use → Bool
  | .add _ _ _ _ => true
  | .read _ _ _ _ => false

/-- The method, if the handle has it, is one that a registration generated. -/
def Generated (u : Use) : Prop :=
  ∀ m, u.handle.methods.get? u.method = some m →
    (∃ round tag asset, m = Method.generatedAdd round tag asset) ∨
      ∃ round tag asset ephemeral, m = Method.generatedRead round tag asset ephemeral

def Plain : Use → Prop
  | .add handle method name fields => (handle.addProgram method name fields).Plain
  | .read handle method given fields => (handle.readProgram method given fields).Plain

theorem Generated.plain {u : Use} (generated : u.Generated) : u.Plain := by
  cases u with
  | add handle method name fields =>
      change (handle.addProgram method name fields).Plain
      cases found : handle.methods.get? method with
      | none => simp [Handle.addProgram, Handle.method, found, Program.fail, Program.Plain]
      | some m =>
          rcases generated m found with ⟨round, tag, spec, rfl⟩ | ⟨round, tag, spec, ephemeral, rfl⟩
          · rw [handle.addProgram_of_generated found]
            exact Program.plain_buildAndAdd spec handle.name name fields
          · simp [Handle.addProgram, Handle.method, found, Method.generatedRead, Program.fail,
              Program.Plain]
  | read handle method given fields =>
      change (handle.readProgram method given fields).Plain
      cases found : handle.methods.get? method with
      | none => simp [Handle.readProgram, Handle.method, found, Program.fail, Program.Plain]
      | some m =>
          rcases generated m found with ⟨round, tag, spec, rfl⟩ | ⟨round, tag, spec, ephemeral, rfl⟩
          · simp [Handle.readProgram, Handle.method, found, Method.generatedAdd, Program.fail,
              Program.Plain]
          · rw [handle.readProgram_of_generated found]
            exact Program.plain_readProgram spec ephemeral handle.name given fields

theorem generated_of_methods {u : Use} {spec : SourceSpec} {ephemeral : String} {round : Nat}
    (tags : (spec.offers.map Prod.fst).Nodup)
    (methods : u.handle.methods = spec.methodTable ephemeral round)
    (undeclared : spec.declared.get? u.method = none) : u.Generated := by
  intro m found
  rw [methods] at found
  by_cases member : u.method ∈ spec.generatedNames
  · obtain ⟨⟨tag, asset⟩, offered, missing, named⟩ := SourceSpec.mem_generatedNames_iff.mp member
    obtain ⟨add, read⟩ :=
      @SourceSpec.get?_methodTable_of_offer spec ephemeral round tags _ offered missing
    rcases named with equal | equal
    · rw [equal, add] at found
      exact .inl ⟨round, tag, asset, (Option.some.inj found).symm⟩
    · rw [equal, read] at found
      exact .inr ⟨round, tag, asset, ephemeral, (Option.some.inj found).symm⟩
  · rw [SourceSpec.get?_methodTable_of_not_mem member, undeclared] at found
    cases found

/-- What the asset type of the method makes of the name and the fields of a call. -/
inductive Builds : Use → Except CallError Asset → Prop
  | add {handle : Handle} {method name tag : String} {fields : Fields} {round : Nat}
      {asset : AssetSpec}
      (found : handle.methods.get? method = some (Method.generatedAdd round tag asset)) :
      Builds (.add handle method name fields) (asset.build name fields)
  | read {handle : Handle} {method tag ephemeral : String} {given : Option String}
      {fields : Fields} {round : Nat} {asset : AssetSpec}
      (found : handle.methods.get? method =
        some (Method.generatedRead round tag asset ephemeral)) :
      Builds (.read handle method given fields)
        (asset.build (Method.readTarget ephemeral given) fields)

/-- The method is a generated one of the other kind than the call is for. -/
inductive Mismatch : Use → String → Prop
  | add {handle : Handle} {method name tag ephemeral : String} {fields : Fields} {round : Nat}
      {asset : AssetSpec}
      (found : handle.methods.get? method =
        some (Method.generatedRead round tag asset ephemeral)) :
      Mismatch (.add handle method name fields) "add-asset"
  | read {handle : Handle} {method tag : String} {given : Option String} {fields : Fields}
      {round : Nat} {asset : AssetSpec}
      (found : handle.methods.get? method = some (Method.generatedAdd round tag asset)) :
      Mismatch (.read handle method given fields) "read-asset"

/-- How a call of a generated method fails, if it does, and what it appends to a shelf. -/
inductive Effect (u : Use) (shelf : AssetShelf) : Option CallError → List Asset → Prop
  | unknown (missing : u.handle.methods.get? u.method = none) :
      Effect u shelf
        (some (.unknownMethod u.handle.name u.method u.handle.methods.names)) []
  | mismatch {expected : String} (other : u.Mismatch expected) :
      Effect u shelf (some (.wrongKind u.handle.name u.method expected)) []
  | unbuilt {cause : CallError} (builds : u.Builds (.error cause)) :
      Effect u shelf (some cause) []
  | duplicate {asset : Asset} (builds : u.Builds (.ok asset)) (taken : asset.name ∈ shelf.names) :
      Effect u shelf (some (.assetRefused u.handle.name (.duplicate asset.name))) []
  /-- After this an add is done, while a read can still fail. -/
  | appended {asset : Asset} {failure : Option CallError} (builds : u.Builds (.ok asset))
      (free : asset.name ∉ shelf.names) (done : u.isAdd = true → failure = none) :
      Effect u shelf failure [asset]

end Use

def failure? {α : Type} : Except CallError α → Option CallError
  | .ok _ => none
  | .error cause => some cause

namespace World

variable {σ η : Type} [Source σ] [Host η σ]

def use (w : World σ η) : Use → World σ η
  | .add handle method name fields => (w.invokeAdd handle method name fields).2
  | .read handle method given fields => (w.invokeRead handle method given fields).2

def useAll (w : World σ η) (uses : List Use) : World σ η := uses.foldl use w

def failureOf (w : World σ η) : Use → Option CallError
  | .add handle method name fields => failure? (w.invokeAdd handle method name fields).1
  | .read handle method given fields => failure? (w.invokeRead handle method given fields).1

def Returns (w : World σ η) : Use → Asset → Prop
  | .add handle method name fields, asset =>
    (w.invokeAdd handle method name fields).1 = .ok asset
  | .read _ _ _ _, _ => False

def accepted (w : World σ η) : Use → List Asset
  | .add handle method name fields =>
    w.taken handle.source (handle.addProgram method name fields)
  | .read handle method given fields =>
    w.taken handle.source (handle.readProgram method given fields)

def acceptedAt (w : World σ η) (place : SourceId) : List Use → List Asset
  | [] => []
  | u :: rest =>
    (if u.handle.source = place then w.accepted u else []) ++ (w.use u).acceptedAt place rest

/-- What a call of a generated method comes to, on a datasource with these assets. -/
structure Settles (w : World σ η) (shelf : AssetShelf) (u : Use) : Prop where
  effect : u.Effect shelf (w.failureOf u) (w.accepted u)
  unchanged : w.accepted u = [] → w.use u = w
  returned : ∀ asset, w.Returns u asset → w.accepted u = [asset]

structure Stores (w : World σ η) (shelf : σ → AssetShelf) (states : σ → Prop) (u : Use) : Prop where
  elsewhere : ∀ place ≠ u.handle.source, (w.use u).source? place = w.source? place
  appends : ∀ s, w.source? u.handle.source = some s → states s →
    ∃ s', (w.use u).source? u.handle.source = some s' ∧ states s' ∧
      (shelf s').assets.entries = (shelf s).assets.entries ++ (w.accepted u).map Asset.entry
  settles : u.Generated → ∀ s, w.source? u.handle.source = some s → states s →
    w.Settles (shelf s) u

/-- What stands at a place after the first calls of a run, and in the end. -/
def StoredAt (w : World σ η) (shelf : σ → AssetShelf) (states : σ → Prop) (place : SourceId)
    (before after : List Use) : Prop :=
  ∃ s₁ s₂, (w.useAll before).source? place = some s₁ ∧ states s₁ ∧
    (w.useAll (before ++ after)).source? place = some s₂ ∧
    (shelf s₁).OwnNamed ∧ ((shelf s₁).assets.values.map Asset.name).Nodup ∧
    (shelf s₂).assets.entries = (shelf s₁).assets.entries ++
      ((w.useAll before).acceptedAt place after).map Asset.entry

section Steps

variable {w : World σ η}

theorem failureOf_of_returns {u : Use} {asset : Asset} (returned : w.Returns u asset) :
    w.failureOf u = none := by
  cases u with
  | add handle method name fields =>
      simp only [Returns] at returned
      simp only [failureOf, returned, failure?]
  | read handle method given fields => cases returned

theorem settles_of_fails {shelf : AssetShelf} {u : Use} {cause : CallError}
    (effect : u.Effect shelf (some cause) []) (failed : w.failureOf u = some cause)
    (nothing : w.accepted u = []) (same : w.use u = w) : w.Settles shelf u where
  effect := by rw [failed, nothing]; exact effect
  unchanged _ := same
  returned asset returned := by
    rw [failureOf_of_returns returned] at failed
    cases failed

theorem settles_of_appends {shelf : AssetShelf} {u : Use} {asset : Asset}
    (builds : u.Builds (.ok asset)) (free : asset.name ∉ shelf.names)
    (took : w.accepted u = [asset]) (done : u.isAdd = true → w.failureOf u = none)
    (answer : ∀ other, w.Returns u other → other = asset) : w.Settles shelf u where
  effect := by rw [took]; exact .appended builds free done
  unchanged nothing := by
    rw [took] at nothing
    cases nothing
  returned other returned := by rw [took, answer other returned]

section Adds

variable {handle : Handle} {method name : String} {fields : Fields}

theorem settles_add_of_fails {shelf : AssetShelf} {cause : CallError}
    (effect : (Use.add handle method name fields).Effect shelf (some cause) [])
    (ran : w.run handle.source (handle.addProgram method name fields) = (.error cause, w))
    (took : w.taken handle.source (handle.addProgram method name fields) = []) :
    w.Settles shelf (.add handle method name fields) := by
  refine settles_of_fails effect ?_ took ?_
  · simp only [failureOf, invokeAdd, ran, failure?]
  · simp only [use, invokeAdd, ran]

theorem settles_add {shelf : σ → AssetShelf} {states : σ → Prop} {s : σ}
    (keeps : Source.KeepsOn shelf states)
    (generated : (Use.add handle method name fields).Generated)
    (here : w.source? handle.source = some s) (state : states s) :
    w.Settles (shelf s) (.add handle method name fields) := by
  cases found : handle.methods.get? method with
  | none =>
      have steps : handle.addProgram method name fields =
          .fail (.unknownMethod handle.name method handle.methods.names) := by
        simp [Handle.addProgram, Handle.method, found]
      exact settles_add_of_fails (.unknown found) (by rw [steps]; rfl) (by rw [steps]; rfl)
  | some m =>
      rcases generated m found with ⟨round, tag, spec, rfl⟩ | ⟨round, tag, spec, ephemeral, rfl⟩
      · have steps := handle.addProgram_of_generated found name fields
        have builds : (Use.add handle method name fields).Builds _ := .add found
        rcases buildAndAdd_cases keeps here state spec handle.name name fields with
          ⟨cause, built, ran, took⟩ | ⟨asset, built, taken, ran, took⟩ |
            ⟨asset, w', built, free, ran, took⟩
        · rw [← steps] at ran took
          exact settles_add_of_fails (.unbuilt (built ▸ builds)) ran took
        · rw [← steps] at ran took
          exact settles_add_of_fails (.duplicate (built ▸ builds) taken) ran took
        · rw [← steps] at ran took
          refine settles_of_appends (built ▸ builds) free took ?_ ?_
          · simp only [failureOf, invokeAdd, ran, failure?, implies_true]
          · intro other returned
            simp only [Returns, invokeAdd, ran] at returned
            exact (Except.ok.inj returned).symm
      · have steps : handle.addProgram method name fields =
            .fail (.wrongKind handle.name method "add-asset") := by
          simp [Handle.addProgram, Handle.method, found, Method.generatedRead]
        exact settles_add_of_fails (.mismatch (.add found)) (by rw [steps]; rfl)
          (by rw [steps]; rfl)

end Adds

section Reads

variable {handle : Handle} {method : String} {given : Option String} {fields : Fields}

theorem settles_read_of_fails {shelf : AssetShelf} {cause : CallError}
    (effect : (Use.read handle method given fields).Effect shelf (some cause) [])
    (ran : w.run handle.source (handle.readProgram method given fields) = (.error cause, w))
    (took : w.taken handle.source (handle.readProgram method given fields) = []) :
    w.Settles shelf (.read handle method given fields) := by
  refine settles_of_fails effect ?_ took ?_
  · simp only [failureOf, invokeRead, ran, failure?]
  · simp only [use, invokeRead, ran]

theorem settles_read {shelf : σ → AssetShelf} {states : σ → Prop} {s : σ}
    (keeps : Source.KeepsOn shelf states)
    (generated : (Use.read handle method given fields).Generated)
    (here : w.source? handle.source = some s) (state : states s) :
    w.Settles (shelf s) (.read handle method given fields) := by
  cases found : handle.methods.get? method with
  | none =>
      have steps : handle.readProgram method given fields =
          .fail (.unknownMethod handle.name method handle.methods.names) := by
        simp [Handle.readProgram, Handle.method, found]
      exact settles_read_of_fails (.unknown found) (by rw [steps]; rfl) (by rw [steps]; rfl)
  | some m =>
      rcases generated m found with ⟨round, tag, spec, rfl⟩ | ⟨round, tag, spec, ephemeral, rfl⟩
      · have steps : handle.readProgram method given fields =
            .fail (.wrongKind handle.name method "read-asset") := by
          simp [Handle.readProgram, Handle.method, found, Method.generatedAdd]
        exact settles_read_of_fails (.mismatch (.read found)) (by rw [steps]; rfl)
          (by rw [steps]; rfl)
      · have steps := handle.readProgram_of_generated found given fields
        have builds : (Use.read handle method given fields).Builds _ := .read found
        have asks := w.taken_readProgram handle.source spec ephemeral handle.name given fields
        have reads := w.run_andThen handle.source
          (Program.buildAndAdd spec handle.name (Method.readTarget ephemeral given) fields)
          (Program.askFor handle.name)
        rw [← Method.readProgram] at reads
        rw [← steps] at asks reads
        rcases buildAndAdd_cases keeps here state spec handle.name
            (Method.readTarget ephemeral given) fields with
          ⟨cause, built, ran, took⟩ | ⟨asset, built, taken, ran, took⟩ |
            ⟨asset, w', built, free, ran, took⟩
        · rw [ran] at reads
          exact settles_read_of_fails (.unbuilt (built ▸ builds)) reads (asks.trans took)
        · rw [ran] at reads
          exact settles_read_of_fails (.duplicate (built ▸ builds) taken) reads (asks.trans took)
        · refine settles_of_appends (built ▸ builds) free (asks.trans took) ?_ ?_
          · intro add
            cases add
          · intro other returned
            cases returned

end Reads

end Steps

variable {shelf : σ → AssetShelf} {states : σ → Prop} {w : World σ η} {place : SourceId} {s : σ}

theorem stores_use (keeps : Source.KeepsOn shelf states) (answering : Host.OnlyAnswers η σ)
    (w : World σ η) {u : Use} (plain : u.Plain) : w.Stores shelf states u where
  elsewhere place other := by
    cases u with
    | add handle method name fields => exact source?_run_of_ne answering other.symm w plain
    | read handle method given fields => exact source?_run_of_ne answering other.symm w plain
  appends s here state := by
    cases u with
    | add handle method name fields => exact entries_run keeps answering here state plain
    | read handle method given fields => exact entries_run keeps answering here state plain
  settles generated s here state := by
    cases u with
    | add handle method name fields => exact settles_add keeps generated here state
    | read handle method given fields => exact settles_read keeps generated here state

theorem entries_useAll (keeps : Source.KeepsOn shelf states) (answering : Host.OnlyAnswers η σ)
    (here : w.source? place = some s) (state : states s) {uses : List Use}
    (plain : ∀ u ∈ uses, u.Plain) :
    ∃ s', (w.useAll uses).source? place = some s' ∧ states s' ∧
      (shelf s').assets.entries =
        (shelf s).assets.entries ++ (w.acceptedAt place uses).map Asset.entry := by
  induction uses generalizing w s with
  | nil => exact ⟨s, here, state, by simp [acceptedAt]⟩
  | cons u rest ih =>
      have step := stores_use keeps answering w (plain u List.mem_cons_self)
      have later : ∀ u ∈ rest, u.Plain := fun u member => plain u (List.mem_cons_of_mem _ member)
      by_cases own : u.handle.source = place
      · subst own
        obtain ⟨s₁, here₁, state₁, entries₁⟩ := step.appends s here state
        obtain ⟨s', there, state', entries⟩ := ih here₁ state₁ later
        refine ⟨s', there, state', ?_⟩
        rw [entries, entries₁, acceptedAt, if_pos rfl, List.map_append, List.append_assoc]
      · have here₁ : (w.use u).source? place = some s := by
          rw [step.elsewhere place (Ne.symm own)]
          exact here
        obtain ⟨s', there, state', entries⟩ := ih here₁ state later
        refine ⟨s', there, state', ?_⟩
        rw [entries, acceptedAt, if_neg own, List.nil_append]

/-- Whatever is called through whichever handles, a datasource that keeps its assets on a shelf holds
what it took, in that order and each under its own name.  A call reaches one datasource, and one of a
generated method appends one asset to it or fails and leaves everything as it was.  Methods are plain,
as all generated ones are, and hosts only answer. -/
theorem useAll_storage (keeps : Source.KeepsOn shelf states) (answering : Host.OnlyAnswers η σ)
    (here : w.source? place = some s) (state : states s) (own : (shelf s).OwnNamed)
    {before after : List Use} (plain : ∀ u ∈ before ++ after, u.Plain) :
    w.StoredAt shelf states place before after ∧
      ∀ u : Use, (u.Generated → u.Plain) ∧
        (u.Plain → (w.useAll before).Stores shelf states u) := by
  obtain ⟨s₁, here₁, state₁, entries₁⟩ := entries_useAll keeps answering here state
    fun u member => plain u (List.mem_append_left after member)
  obtain ⟨s₂, here₂, -, entries₂⟩ := entries_useAll keeps answering here₁ state₁
    fun u member => plain u (List.mem_append_right before member)
  have own₁ := own.append entries₁
  refine ⟨⟨s₁, s₂, here₁, state₁, ?_, own₁, own₁.nodup, entries₂⟩,
    fun u => ⟨Use.Generated.plain, fun plain => stores_use keeps answering _ plain⟩⟩
  rw [useAll, List.foldl_append]
  exact here₂

end World

namespace Samples

theorem SampleSource.keepsOn :
    Source.KeepsOn SampleSource.shelf fun s => s.takesAssets = true where
  stored s asset shelf' takes added := by
    have steps : Source.addAsset s asset = (.ok asset, { s with shelf := shelf' }) := by
      simp [Source.addAsset, SampleSource.addAsset, takes, added]
    rw [steps]
    exact ⟨rfl, rfl, takes⟩
  refused s asset cause takes refused := by
    simp [Source.addAsset, SampleSource.addAsset, takes, refused]

end Samples

namespace World

theorem useAll_storage_aliases :
    let spec := (Samples.numbered ["FileAsset", "AliasAsset"] []).spec
    let methods := spec.methodTable "#ephemeral" 0
    let left : Handle := { source := 0, type := spec.type, name := "left", methods }
    let right : Handle := { source := 1, type := spec.type, name := "right", methods }
    let w : World Samples.SampleSource Samples.SampleHost :=
      { sources := [
          { type := spec.type, name := "left", context := some 0 },
          { type := spec.type, name := "right" }]
        hosts := [some {}] }
    let uses : List Use := [
      .add left "add_file_asset" "a" [("path", .text "a.csv")],
      .add left "add_alias_asset" "b" [("alias", .text "a")],
      .add left "add_file_asset" "b" [],
      .add left "add_table_asset" "b" [],
      .read left "add_file_asset" (some "b") [],
      .read right "read_alias" none [("alias", .text "a")],
      .read left "read_alias" (some "b") []]
    (∀ u ∈ uses, u.Generated) ∧ Host.OnlyAnswers Samples.SampleHost Samples.SampleSource ∧
      (List.range 8).map (fun n => (w.useAll (uses.take n)).sources.map (·.shelf.names)) =
        [[[], []], [["a"], []], [["a"], []], [["a"], []], [["a"], []], [["a"], []],
          [["a"], ["a"]], [["a", "b"], ["a"]]] ∧
      ∀ place s, w.source? place = some s → ∀ before after, before ++ after = uses →
        w.StoredAt Samples.SampleSource.shelf (fun s => s.takesAssets = true) place before after ∧
          ∀ u : Use, (u.Generated → u.Plain) ∧
            (u.Plain → (w.useAll before).Stores Samples.SampleSource.shelf
              (fun s => s.takesAssets = true) u) := by
  -- two datasources, the second without a context; what is added twice is kept once, and what the
  -- second one reads stays where it is
  intro spec methods left right w uses
  have tags : (spec.offers.map Prod.fst).Nodup := by decide +kernel
  have generated : ∀ u ∈ uses, u.Generated := by
    intro u member
    have same : ∀ u ∈ uses, u.handle.methods = methods := by simp [uses, left, right, Use.handle]
    exact Use.generated_of_methods tags (same u member) rfl
  refine ⟨generated, Samples.SampleHost.onlyAnswers, by decide +kernel, ?_⟩
  intro place s here before after whole
  have fresh : ∀ s ∈ w.sources, s.takesAssets = true ∧ s.shelf = .empty := by
    simp [w, AssetShelf.empty]
  obtain ⟨takes, empty⟩ := fresh s (List.mem_of_getElem? here)
  have own : s.shelf.OwnNamed := empty ▸ AssetShelf.ownNamed_empty
  refine useAll_storage Samples.SampleSource.keepsOn Samples.SampleHost.onlyAnswers here takes own
    fun u member => ?_
  rw [whole] at member
  exact (generated u member).plain

end World

end SourceRegistry
