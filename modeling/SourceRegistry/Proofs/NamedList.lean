import SourceRegistry.NamedList

/-!
Further laws of named lists: look-ups as membership of entries, stores under new names, and stores
of many pairs one after another.
-/

set_option autoImplicit false
set_option relaxedAutoImplicit false

namespace SourceRegistry.NamedList

variable {α : Type}

private theorem lookup_eq_some_iff_mem {entries : List (String × α)} {name : String} {value : α}
    (nodup : (entries.map Prod.fst).Nodup) :
    entries.lookup name = some value ↔ (name, value) ∈ entries := by
  induction entries with
  | nil => simp
  | cons entry rest ih =>
      obtain ⟨key, held⟩ := entry
      simp only [List.map_cons, List.nodup_cons] at nodup
      rw [List.lookup_cons]
      by_cases same : name = key
      · subst same
        have unlisted : (name, value) ∉ rest := fun member =>
          nodup.1 (List.mem_map.mpr ⟨(name, value), member, rfl⟩)
        simp [unlisted, eq_comm]
      · have apart : (name == key) = false := by simpa using same
        simp [apart, same, ih nodup.2]

theorem get?_eq_some_iff {l : NamedList α} {name : String} {value : α} :
    l.get? name = some value ↔ (name, value) ∈ l.entries :=
  lookup_eq_some_iff_mem l.nodup

theorem get?_eq_none_iff {l : NamedList α} {name : String} :
    l.get? name = none ↔ name ∉ l.names := by
  rw [mem_names_iff, contains_iff_get?]
  cases l.get? name <;> simp

theorem entries_put_of_not_mem {l : NamedList α} {name : String} (fresh : name ∉ l.names)
    (value : α) : (l.put name value).entries = l.entries ++ [(name, value)] := by
  unfold put
  rw [mem_names_iff] at fresh
  rw [dif_neg fresh]

def putAll (l : NamedList α) (pairs : List (String × α)) : NamedList α :=
  pairs.foldl (fun l pair => l.put pair.1 pair.2) l

theorem putAll_cons (l : NamedList α) (pair : String × α) (pairs : List (String × α)) :
    l.putAll (pair :: pairs) = (l.put pair.1 pair.2).putAll pairs := rfl

theorem get?_putAll_of_not_mem {l : NamedList α} {pairs : List (String × α)} {name : String}
    (other : name ∉ pairs.map Prod.fst) : (l.putAll pairs).get? name = l.get? name := by
  induction pairs generalizing l with
  | nil => rfl
  | cons pair rest ih =>
      simp only [List.map_cons, List.mem_cons, not_or] at other
      rw [putAll_cons, ih other.2, get?_put, if_neg other.1]

theorem get?_putAll_of_mem {l : NamedList α} {pairs : List (String × α)}
    (nodup : (pairs.map Prod.fst).Nodup) {name : String} {value : α}
    (member : (name, value) ∈ pairs) : (l.putAll pairs).get? name = some value := by
  induction pairs generalizing l with
  | nil => cases member
  | cons pair rest ih =>
      simp only [List.map_cons, List.nodup_cons] at nodup
      rw [putAll_cons]
      rcases List.mem_cons.mp member with rfl | later
      · rw [get?_putAll_of_not_mem nodup.1, get?_put, if_pos rfl]
      · exact ih nodup.2 later

theorem contains_putAll (l : NamedList α) (pairs : List (String × α)) (name : String) :
    (l.putAll pairs).contains name = (l.contains name || (pairs.map Prod.fst).contains name) := by
  induction pairs generalizing l with
  | nil => simp [putAll]
  | cons pair rest ih =>
      rw [putAll_cons, ih, contains_iff_get? (l.put pair.1 pair.2), get?_put,
        contains_iff_get? l]
      by_cases same : name = pair.1
      · simp [same]
      · have apart : (name == pair.1) = false := by simpa using same
        simp [same, apart]

theorem names_putAll (l : NamedList α) (pairs : List (String × α)) :
    (l.putAll pairs).names = (pairs.map Prod.fst).foldl
      (fun names name => if name ∈ names then names else names ++ [name]) l.names := by
  induction pairs generalizing l with
  | nil => rfl
  | cons pair rest ih =>
      rw [putAll_cons, ih, names_put]
      simp only [List.map_cons, List.foldl_cons, mem_names_iff]

theorem eraseDups_of_nodup {names : List String} (nodup : names.Nodup) : names.eraseDups = names := by
  induction names with
  | nil => rfl
  | cons name rest ih =>
      rw [List.nodup_cons] at nodup
      have others : rest.filter (fun other => !other == name) = rest := by
        apply List.filter_eq_self.mpr
        rintro other member
        have differs : other ≠ name := by
          rintro rfl
          exact nodup.1 member
        simpa using differs
      rw [List.eraseDups_cons, others, ih nodup.2]

theorem names_putAll_eq_eraseDups (l : NamedList α) (pairs : List (String × α)) :
    (l.putAll pairs).names = (l.names ++ pairs.map Prod.fst).eraseDups := by
  induction pairs generalizing l with
  | nil =>
      rw [List.map_nil, List.append_nil]
      exact (eraseDups_of_nodup l.nodup).symm
  | cons pair rest ih =>
      rw [putAll_cons, ih, names_put, List.map_cons]
      split
      · rename_i held
        have member : pair.1 ∈ l.names := mem_names_iff.mpr held
        rw [List.eraseDups_append, List.eraseDups_append, List.cons_removeAll]
        simp [member]
      · rw [List.append_assoc, List.singleton_append]

end SourceRegistry.NamedList
