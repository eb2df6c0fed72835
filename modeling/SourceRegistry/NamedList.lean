/-!
Lists of values under pairwise different names, in the order in which the names first came in.
Storing under a name that is taken replaces the value in its place.  The laws say which names a
store leaves behind and what every look-up answers after it.
-/

set_option autoImplicit false
set_option relaxedAutoImplicit false

namespace SourceRegistry

/-- Named values; no name occurs twice. -/
structure NamedList (α : Type) where
  entries : List (String × α) := []
  nodup : (entries.map Prod.fst).Nodup := by simp

namespace NamedList

variable {α β : Type}

def empty : NamedList α := {}

instance : Inhabited (NamedList α) := ⟨empty⟩

def names (l : NamedList α) : List String := l.entries.map Prod.fst

def values (l : NamedList α) : List α := l.entries.map Prod.snd

def size (l : NamedList α) : Nat := l.entries.length

def isEmpty (l : NamedList α) : Bool := l.entries.isEmpty

def get? (l : NamedList α) (name : String) : Option α := l.entries.lookup name

def contains (l : NamedList α) (name : String) : Bool := l.names.contains name

private def replaceIn (name : String) (value : α) (entries : List (String × α)) :
    List (String × α) :=
  entries.map fun entry => if entry.1 = name then (name, value) else entry

private theorem fst_replaceIn (name : String) (value : α) (entries : List (String × α)) :
    (replaceIn name value entries).map Prod.fst = entries.map Prod.fst := by
  simp only [replaceIn, List.map_map]
  apply List.map_congr_left
  intro entry _
  simp only [Function.comp_apply]
  split <;> simp_all

/-- Stores a value: in place under a held name, at the end under a new one. -/
def put (l : NamedList α) (name : String) (value : α) : NamedList α :=
  if held : l.contains name then
    { entries := replaceIn name value l.entries
      nodup := by rw [fst_replaceIn]; exact l.nodup }
  else
    { entries := l.entries ++ [(name, value)]
      nodup := by
        have fresh : name ∉ l.entries.map Prod.fst := by
          simpa [contains, names] using held
        rw [List.map_append, List.nodup_append]
        refine ⟨l.nodup, by simp, ?_⟩
        intro a ha b hb equal
        simp only [List.map_cons, List.map_nil, List.mem_singleton] at hb
        subst hb
        subst equal
        exact fresh ha }

def ofList (pairs : List (String × α)) : NamedList α :=
  pairs.foldl (fun l pair => l.put pair.1 pair.2) empty

theorem mem_names_iff {l : NamedList α} {name : String} :
    name ∈ l.names ↔ l.contains name = true := by
  simp [contains]

theorem contains_iff_get? (l : NamedList α) (name : String) :
    l.contains name = (l.get? name).isSome := by
  simp only [contains, names, get?]
  induction l.entries with
  | nil => rfl
  | cons entry rest ih =>
      obtain ⟨held, stored⟩ := entry
      by_cases same : name = held
      · simp [same]
      · have apart : (name == held) = false := by simpa using same
        simpa [List.lookup_cons, apart] using ih

theorem names_put (l : NamedList α) (name : String) (value : α) :
    (l.put name value).names = if l.contains name then l.names else l.names ++ [name] := by
  unfold put
  split <;> rename_i held
  · simp [names, fst_replaceIn]
  · simp [names]

private theorem lookup_append_fresh (entries : List (String × α)) (name key : String) (value : α) :
    (entries ++ [(name, value)]).lookup key =
      (entries.lookup key).or (if key = name then some value else none) := by
  induction entries with
  | nil =>
      by_cases same : key = name
      · simp [same]
      · have apart : (key == name) = false := by simpa using same
        simp [List.lookup_cons, apart, same]
  | cons entry rest ih =>
      obtain ⟨held, stored⟩ := entry
      by_cases same : key = held
      · simp [same]
      · have apart : (key == held) = false := by simpa using same
        simpa [List.lookup_cons, apart] using ih

private theorem lookup_replaceIn (entries : List (String × α)) (name key : String) (value : α) :
    (replaceIn name value entries).lookup key =
      if key = name then (if name ∈ entries.map Prod.fst then some value else none)
      else entries.lookup key := by
  induction entries with
  | nil => simp [replaceIn]
  | cons entry rest ih =>
      simp only [replaceIn] at ih ⊢
      by_cases here : entry.1 = name
      · by_cases same : key = name
        · simp [here, same]
        · have apart : (key == name) = false := by simpa using same
          have apart' : (key == entry.1) = false := by simpa [here] using same
          rw [List.map_cons, if_pos here, List.lookup_cons, apart, List.lookup_cons, apart', ih]
          simp [same]
      · rw [List.map_cons, if_neg here, List.lookup_cons, List.lookup_cons]
        by_cases same : key = entry.1
        · subst same
          simp [here]
        · have apart : (key == entry.1) = false := by simpa using same
          rw [apart, ih]
          have other : ¬ name = entry.1 := fun h => here h.symm
          simp only [List.map_cons, List.mem_cons, other, false_or]

theorem get?_put (l : NamedList α) (name key : String) (value : α) :
    (l.put name value).get? key = if key = name then some value else l.get? key := by
  unfold put
  split <;> rename_i held
  · have present : name ∈ l.entries.map Prod.fst := mem_names_iff.mpr held
    rw [get?, lookup_replaceIn, if_pos present]
    rfl
  · have absent : l.get? name = none := by
      have := contains_iff_get? l name
      cases found : l.get? name with
      | none => rfl
      | some _ => simp_all
    rw [get?, lookup_append_fresh]
    by_cases same : key = name
    · subst same
      simp only [get?] at absent
      simp [absent]
    · simp [same, get?]

end NamedList

end SourceRegistry
