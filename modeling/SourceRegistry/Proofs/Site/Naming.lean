import Mathlib.Data.String.Basic
import SourceRegistry.Proofs.Site.Places
import SourceRegistry.Samples.Sources

/-!
Factories that name what they build as they are asked to.  The factory derived from a kind does, if
the datasources of the kind have the name that is decoded from their field `name`.
-/

set_option autoImplicit false
set_option relaxedAutoImplicit false

namespace SourceRegistry

namespace Fields

def Rising (fields : Fields) : Prop := fields.Pairwise fun a b => a.1 < b.1

theorem eq_or_mem_of_mem_insert {fields : Fields} {name : String} {value : Value}
    {entry : String × Value} (member : entry ∈ fields.insert name value) :
    entry = (name, value) ∨ entry ∈ fields := by
  induction fields with
  | nil => simpa [insert] using member
  | cons first rest ih =>
      obtain ⟨key, held⟩ := first
      simp only [insert] at member
      split at member
      · rcases List.mem_cons.mp member with here | later
        · exact .inl here
        · exact .inr (List.mem_cons_of_mem _ later)
      · split at member
        · exact List.mem_cons.mp member
        · rcases List.mem_cons.mp member with here | later
          · exact .inr (here ▸ List.mem_cons_self)
          · exact (ih later).imp_right (List.mem_cons_of_mem _)

theorem Rising.insert {fields : Fields} (rising : fields.Rising) (name : String) (value : Value) :
    (fields.insert name value).Rising := by
  induction fields with
  | nil => simp [Fields.insert, Rising]
  | cons first rest ih =>
      obtain ⟨key, held⟩ := first
      obtain ⟨below, rest'⟩ := List.pairwise_cons.mp rising
      simp only [Fields.insert]
      split
      · rename_i same
        subst same
        exact .cons below rest'
      · rename_i other
        split
        · rename_i before
          refine .cons (fun entry member => ?_) rising
          rcases List.mem_cons.mp member with rfl | later
          · exact before
          · exact before.trans (below entry later)
        · rename_i notBefore
          have after : key < name := lt_of_le_of_ne (not_lt.mp notBefore) other
          refine .cons (fun entry member => ?_) (ih rest')
          rcases eq_or_mem_of_mem_insert member with rfl | later
          · exact after
          · exact below entry later

end Fields

namespace Schema

variable {schema : Schema} {fields start decoded : Fields} {key : String} {value : Value}

theorem get?_decodeEntry_of_ne {entry : String × Value} (other : entry.1 ≠ key)
    (done : schema.decodeEntry start entry = .ok decoded) : decoded.get? key = start.get? key := by
  unfold decodeEntry at done
  split at done
  · rename_i field asked
    cases outcome : field.decode entry.2 with
    | error cause => simp [outcome, bind, Except.bind] at done
    | ok stored =>
        simp only [outcome, bind, Except.bind, Except.ok.injEq] at done
        rw [← done, Fields.get?_insert, if_neg (Ne.symm other)]
  · split at done
    · cases done
    · cases done
      rfl

theorem get?_foldlM_of_absent (absent : ∀ entry ∈ fields, entry.1 ≠ key)
    (done : fields.foldlM schema.decodeEntry start = .ok decoded) :
    decoded.get? key = start.get? key := by
  induction fields generalizing start with
  | nil =>
      cases done
      rfl
  | cons entry rest ih =>
      rw [List.foldlM_cons] at done
      cases first : schema.decodeEntry start entry with
      | error cause => simp [first, bind, Except.bind] at done
      | ok middle =>
          simp only [first, bind, Except.bind] at done
          rw [ih (fun entry member => absent entry (List.mem_cons_of_mem _ member)) done]
          exact get?_decodeEntry_of_ne (absent entry List.mem_cons_self) first

theorem get?_foldlM {field : FieldShape} (rising : fields.Rising)
    (asked : schema.fields.find? (·.name == key) = some field)
    (takes : field.decode value = .ok value) (stored : fields.get? key = some value)
    (done : fields.foldlM schema.decodeEntry start = .ok decoded) :
    decoded.get? key = some value := by
  induction fields generalizing start with
  | nil => cases stored
  | cons entry rest ih =>
      obtain ⟨name, held⟩ := entry
      obtain ⟨above, rest'⟩ := List.pairwise_cons.mp rising
      rw [List.foldlM_cons] at done
      cases first : schema.decodeEntry start (name, held) with
      | error cause => simp [first, bind, Except.bind] at done
      | ok middle =>
          simp only [first, bind, Except.bind] at done
          by_cases here : key = name
          · subst here
            have same : held = value := by simpa [Fields.get?] using stored
            subst same
            -- as the names rise, no later entry has this name
            have absent : ∀ entry ∈ rest, entry.1 ≠ key :=
              fun entry member => (above entry member).ne'
            rw [get?_foldlM_of_absent absent done]
            simp only [decodeEntry, asked, takes, bind, Except.bind, Except.ok.injEq] at first
            rw [← first, Fields.get?_insert, if_pos rfl]
          · have apart : (key == name) = false := by simpa using here
            have later : Fields.get? rest key = some value := by
              simpa [Fields.get?, List.lookup_cons, apart] using stored
            exact ih rest' later done

theorem get?_complete {fields : List FieldShape} (stored : start.get? key = some value)
    (done : fields.foldlM complete start = .ok decoded) : decoded.get? key = some value := by
  induction fields generalizing start with
  | nil =>
      cases done
      exact stored
  | cons field rest ih =>
      rw [List.foldlM_cons] at done
      cases first : complete start field with
      | error cause => simp [first, bind, Except.bind] at done
      | ok middle =>
          simp only [first, bind, Except.bind] at done
          refine ih ?_ done
          unfold complete at first
          split at first
          · cases first
            exact stored
          · rename_i absent
            have other : key ≠ field.name := by
              rintro rfl
              simp [Fields.contains, stored] at absent
            cases filled : field.absent with
            | error cause => simp [filled, bind, Except.bind] at first
            | ok fill =>
                simp only [filled, bind, Except.bind, Except.ok.injEq] at first
                rw [← first, Fields.get?_insert, if_neg other]
                exact stored

theorem get?_decode {field : FieldShape} (rising : fields.Rising)
    (asked : schema.fields.find? (·.name == key) = some field)
    (takes : field.decode value = .ok value) (stored : fields.get? key = some value)
    (done : schema.decode fields = .ok decoded) : decoded.get? key = some value := by
  unfold decode at done
  cases entries : fields.foldlM schema.decodeEntry [] with
  | error cause => simp [entries, bind, Except.bind] at done
  | ok middle =>
      simp only [entries, bind, Except.bind] at done
      exact get?_complete (get?_foldlM rising asked takes stored entries) done

end Schema

variable {σ : Type} [Source σ]

/-- What the factory builds has the name that was asked for, once it took the reference to its
context. -/
def Factory.NamesAsAsked (factory : Factory σ) : Prop :=
  ∀ (name : String) (fields : Fields) (built : σ), fields.Rising →
    (factory.build name fields).Yields built →
      ∀ context : ContextId, Source.name (Source.attach built context).2 = name

/-- The name of a datasource of the kind is the text that was decoded from its field `name`, and
stays so when it takes the reference to its context. -/
def SourceKind.NamedByField (kind : SourceKind σ) : Prop :=
  ∀ (fields : Fields) (name : String) (built : σ), fields.Rising →
    fields.get? "name" = some (.text name) → kind.decode fields = .ok built →
      ∀ context : ContextId, Source.name (Source.attach built context).2 = name

theorem SourceKind.NamedByField.namesAsAsked {kind : SourceKind σ} (named : kind.NamedByField)
    (id : ObjectId) : (kind.factory id).NamesAsAsked := by
  intro name fields built rising yielded
  have made : buildNamed kind.spec.type.name kind.decode name fields = .ok built := by
    change (Program.done (buildNamed kind.spec.type.name kind.decode name fields)).Yields built
      at yielded
    generalize buildNamed kind.spec.type.name kind.decode name fields = outcome at yielded ⊢
    cases yielded
    rfl
  unfold buildNamed at made
  split at made
  · cases made
  · split at made
    · rename_i decoded
      cases made
      exact named _ name built (rising.insert _ _) (by simp [Fields.get?_insert]) decoded
    · cases made

namespace Samples

theorem KindParts.namedByField {parts : KindParts} (member : parts ∈ kindParts) (number : Nat) :
    (parts.kind number).NamedByField := by
  have asked : parts.data.find? (·.name == "name") = some { name := "name", shape := .text } := by
    simp only [kindParts, List.mem_cons, List.not_mem_nil, or_false] at member
    rcases member with rfl | rfl | rfl | rfl | rfl | rfl | rfl | rfl | rfl <;> rfl
  intro fields name built rising stored made context
  simp only [kind] at made
  cases decoded : Schema.decode { fields := parts.data, strict := parts.strict } fields with
  | error cause => simp [decoded, Except.map] at made
  | ok data =>
      simp only [decoded, Except.map, Except.ok.injEq] at made
      have text : data.get? "name" = some (.text name) :=
        Schema.get?_decode rising asked rfl stored decoded
      have kept (source : SampleSource) : (source.attach context).2.name = source.name := by
        unfold SampleSource.attach
        split <;> rfl
      change (built.attach context).2.name = name
      rw [kept, ← made]
      simp [source, textOf, text, Value.text?]

end Samples

end SourceRegistry
