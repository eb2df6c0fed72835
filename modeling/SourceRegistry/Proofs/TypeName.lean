import SourceRegistry.TypeIdent

/-!
Short names of full type names.  A full type name writes the segments of a path, the identifier of the
type and perhaps its arguments.  Its short name is what stands in front of the first bracket, after the
last `::` there.  That is the identifier of the type where no segment of the path has a bracket; else it
is what the first segment with a bracket has in front of it, which may be nothing at all.
-/

set_option autoImplicit false
set_option relaxedAutoImplicit false

namespace SourceRegistry

/-- A name of one part: it neither separates segments nor opens a bracket. -/
structure Identifier where
  text : String
  filled : text ≠ "" := by decide
  plain : (text.toList.all fun c => c != ':' && c != '<') = true := by decide

mutual

inductive TypeName where
  /-- A named type: the path to it, its own identifier and its arguments. -/
  | named (path : List Segment) (own : Identifier) (arguments : List TypeName)
  /-- Any other type, as it is written: a reference, a tuple, a function, a trait object. -/
  | other (text : String)

inductive Segment where
  | named (name : Identifier) (arguments : List TypeName)
  /-- The segment `<self as trait>` of what is declared inside an implementation. -/
  | qualified (self trait : TypeName)

end

mutual

def TypeName.chars : TypeName → List Char
  | .named path own arguments =>
    pathChars path ++ (own.text.toList ++ argumentChars arguments)
  | .other text => text.toList

def Segment.chars : Segment → List Char
  | .named name arguments => name.text.toList ++ argumentChars arguments
  | .qualified self trait =>
    '<' :: (self.chars ++ (' ' :: 'a' :: 's' :: ' ' :: (trait.chars ++ ['>'])))

def pathChars : List Segment → List Char
  | [] => []
  | segment :: rest => segment.chars ++ (':' :: ':' :: pathChars rest)

def argumentChars : List TypeName → List Char
  | [] => []
  | first :: rest => '<' :: (first.chars ++ furtherChars rest)

def furtherChars : List TypeName → List Char
  | [] => ['>']
  | next :: rest => ',' :: ' ' :: (next.chars ++ furtherChars rest)

end

def TypeName.text (type : TypeName) : String := String.ofList type.chars

namespace Segment

def Bare : Segment → Prop
  | named _ arguments => arguments = []
  | qualified _ _ => False

def front : Segment → List Char
  | named name _ => name.text.toList
  | qualified _ _ => []

end Segment

/-- What a full type name shows of the type: the identifier of the type, or what the first segment with
a bracket has in front of it. -/
inductive Shown : List Segment → Identifier → List Char → Prop
  | own {path : List Segment} {own : Identifier} (bare : ∀ segment ∈ path, segment.Bare) :
      Shown path own own.text.toList
  | segment {before after : List Segment} {segment : Segment} {own : Identifier}
      (bare : ∀ segment ∈ before, segment.Bare) (bracketed : ¬ segment.Bare) :
      Shown (before ++ segment :: after) own segment.front

theorem shown_iff {path : List Segment} {own : Identifier} {chars : List Char} :
    Shown path own chars ↔
      ((∀ segment ∈ path, segment.Bare) ∧ chars = own.text.toList) ∨
        ∃ before segment after, path = before ++ segment :: after ∧
          (∀ segment ∈ before, segment.Bare) ∧ ¬ segment.Bare ∧ chars = segment.front := by
  constructor
  · intro found
    cases found with
    | own bare => exact .inl ⟨bare, rfl⟩
    | segment bare bracketed => exact .inr ⟨_, _, _, rfl, bare, bracketed, rfl⟩
  · rintro (⟨bare, rfl⟩ | ⟨before, segment, after, rfl, bare, bracketed, rfl⟩)
    · exact .own bare
    · exact .segment bare bracketed

theorem Identifier.bracket_not_mem (name : Identifier) : '<' ∉ name.text.toList := by
  intro member
  simpa using List.all_eq_true.mp name.plain '<' member

theorem Identifier.colon_not_mem (name : Identifier) : ':' ∉ name.text.toList := by
  intro member
  simpa using List.all_eq_true.mp name.plain ':' member

theorem argumentChars_cases (arguments : List TypeName) :
    argumentChars arguments = [] ∨ ∃ more, argumentChars arguments = '<' :: more := by
  cases arguments with
  | nil => exact .inl rfl
  | cons first rest => exact .inr ⟨_, rfl⟩

namespace Segment

theorem colon_not_mem_front (segment : Segment) : ':' ∉ segment.front := by
  cases segment with
  | named name arguments => exact name.colon_not_mem
  | qualified self trait => exact List.not_mem_nil

theorem bracket_not_mem_front (segment : Segment) : '<' ∉ segment.front := by
  cases segment with
  | named name arguments => exact name.bracket_not_mem
  | qualified self trait => exact List.not_mem_nil

theorem chars_of_bare {segment : Segment} (bare : segment.Bare) : segment.chars = segment.front := by
  cases segment with
  | named name arguments =>
      obtain rfl : arguments = [] := bare
      exact List.append_nil _
  | qualified self trait => exact bare.elim

theorem chars_of_not_bare {segment : Segment} (bracketed : ¬ segment.Bare) :
    ∃ more, segment.chars = segment.front ++ '<' :: more := by
  cases segment with
  | named name arguments =>
      cases arguments with
      | nil => exact absurd rfl bracketed
      | cons first rest => exact ⟨_, rfl⟩
  | qualified self trait => exact ⟨_, rfl⟩

end Segment

theorem pathChars_append (before after : List Segment) :
    pathChars (before ++ after) = pathChars before ++ pathChars after := by
  induction before with
  | nil => rfl
  | cons segment before ih => simp [pathChars, ih]

theorem bracket_not_mem_pathChars {path : List Segment} (bare : ∀ segment ∈ path, segment.Bare) :
    '<' ∉ pathChars path := by
  induction path with
  | nil => exact List.not_mem_nil
  | cons segment path ih =>
      obtain ⟨here, later⟩ := List.forall_mem_cons.mp bare
      simp [pathChars, Segment.chars_of_bare here, segment.bracket_not_mem_front, ih later]

theorem reverse_pathChars (path : List Segment) :
    (pathChars path).reverse = [] ∨ ∃ more, (pathChars path).reverse = ':' :: ':' :: more := by
  induction path with
  | nil => exact .inl rfl
  | cons segment path ih =>
      right
      rcases ih with empty | ⟨more, ends⟩
      · simp [pathChars, empty]
      · simp [pathChars, ends]

theorem exists_shown (path : List Segment) (own : Identifier) : ∃ shown, Shown path own shown := by
  induction path with
  | nil => exact ⟨_, .own (List.forall_mem_nil _)⟩
  | cons segment path ih =>
      by_cases bare : segment.Bare
      · obtain ⟨shown, found⟩ := ih
        cases found with
        | own later => exact ⟨_, .own (List.forall_mem_cons.mpr ⟨bare, later⟩)⟩
        | segment later bracketed =>
            exact ⟨_, .segment (List.forall_mem_cons.mpr ⟨bare, later⟩) bracketed⟩
      · exact ⟨_, @Shown.segment [] _ _ _ (List.forall_mem_nil _) bare⟩

namespace TypeIdent

theorem untilPath_append {word rest : List Char} (plain : ':' ∉ word)
    (stops : rest = [] ∨ ∃ more, rest = ':' :: ':' :: more) :
    untilPath (word ++ rest) = word := by
  induction word with
  | nil =>
      rcases stops with rfl | ⟨more, rfl⟩
      · rfl
      · simp [untilPath]
  | cons c word ih =>
      have other : c ≠ ':' := fun same => plain (same ▸ List.mem_cons_self)
      have step : untilPath (c :: (word ++ rest)) = c :: untilPath (word ++ rest) := by
        rw [untilPath]
        rintro more rfl
        exact absurd rfl other
      rw [List.cons_append, step, ih fun member => plain (List.mem_cons_of_mem c member)]

theorem prefix_untilPath (chars : List Char) : untilPath chars <+: chars := by
  fun_induction untilPath chars with
  | case1 => exact List.nil_prefix
  | case2 rest => exact List.nil_prefix
  | case3 c rest _ ih => exact (List.prefix_cons_inj c).mpr ih

theorem separator_not_infix_untilPath (chars : List Char) :
    ¬ [':', ':'] <:+: untilPath chars := by
  fun_induction untilPath chars with
  | case1 => simp
  | case2 rest => simp
  | case3 c rest apart ih =>
      intro inside
      rcases List.infix_cons_iff.mp inside with starts | later
      · obtain ⟨rfl, colon⟩ := List.cons_prefix_cons.mp starts
        obtain ⟨more, continues⟩ := colon.trans (prefix_untilPath rest)
        exact apart more rfl continues.symm
      · exact ih later

theorem shortName_unsegmented (full : String) :
    '<' ∉ (shortName full).toList ∧ ¬ [':', ':'] <:+: (shortName full).toList := by
  have chars : (shortName full).toList =
      (untilPath (full.toList.takeWhile (· != '<')).reverse).reverse := String.toList_ofList
  rw [chars]
  constructor
  · intro member
    have before := (prefix_untilPath _).subset (List.mem_reverse.mp member)
    have allowed := List.all_eq_true.mp List.all_takeWhile _ (List.mem_reverse.mp before)
    simp at allowed
  · intro inside
    have turned : [':', ':'].reverse <:+: untilPath (full.toList.takeWhile (· != '<')).reverse :=
      List.reverse_infix.mp (by simpa using inside)
    exact separator_not_infix_untilPath _ turned

theorem shortName_after_path {path : List Segment} {word rest : List Char}
    (bare : ∀ segment ∈ path, segment.Bare) (unbracketed : '<' ∉ word) (plain : ':' ∉ word)
    (opens : rest = [] ∨ ∃ more, rest = '<' :: more) :
    shortName (String.ofList (pathChars path ++ (word ++ rest))) = String.ofList word := by
  have kept : ∀ c ∈ pathChars path ++ word, (c != '<') = true := by
    intro c member
    rw [bne_iff_ne]
    rintro rfl
    rcases List.mem_append.mp member with inPath | inWord
    · exact bracket_not_mem_pathChars bare inPath
    · exact unbracketed inWord
  have stops : rest.takeWhile (· != '<') = [] := by
    rcases opens with rfl | ⟨more, rfl⟩ <;> simp
  have front : (pathChars path ++ (word ++ rest)).takeWhile (· != '<') = pathChars path ++ word := by
    rw [← List.append_assoc, List.takeWhile_append_of_pos kept, stops, List.append_nil]
  have last : untilPath (word.reverse ++ (pathChars path).reverse) = word.reverse :=
    untilPath_append (by simpa using plain) (reverse_pathChars path)
  rw [shortName, String.toList_ofList, front, List.reverse_append, last, List.reverse_reverse]

theorem shortName_of_shown {path : List Segment} {own : Identifier} {shown : List Char}
    (found : Shown path own shown) (arguments : List TypeName) :
    shortName (TypeName.named path own arguments).text = String.ofList shown := by
  cases found with
  | own bare =>
      exact shortName_after_path bare own.bracket_not_mem own.colon_not_mem
        (argumentChars_cases arguments)
  | @segment before after segment _ bare bracketed =>
      obtain ⟨more, chars⟩ := Segment.chars_of_not_bare bracketed
      have text : (TypeName.named (before ++ segment :: after) own arguments).text =
          String.ofList (pathChars before ++ (segment.front ++ ('<' :: (more ++
            (':' :: ':' :: pathChars after ++ (own.text.toList ++ argumentChars arguments)))))) := by
        simp [TypeName.text, TypeName.chars, pathChars_append, pathChars, chars]
      rw [text]
      exact shortName_after_path bare segment.bracket_not_mem_front segment.colon_not_mem_front
        (.inr ⟨_, rfl⟩)

structure ShortFor (path : List Segment) (own : Identifier) (name : String) : Prop where
  shown : ∀ chars : List Char, name.toList = chars ↔ Shown path own chars
  own_iff : name = own.text ↔
    (∀ segment ∈ path, segment.Bare) ∨
      ∃ before segment after, path = before ++ segment :: after ∧
        (∀ segment ∈ before, segment.Bare) ∧ ¬ segment.Bare ∧ segment.front = own.text.toList
  /-- Where no segment has a bracket, the identifier tells whether the type is private. -/
  private_iff : (∀ segment ∈ path, segment.Bare) → ∀ number : Nat,
    TypeIdent.isPrivate { number, name } = true ↔ own.text.toList.head? = some '_'
  empty_iff : name = "" ↔
    ∃ before self trait after, path = before ++ .qualified self trait :: after ∧
      ∀ segment ∈ before, segment.Bare
  unsegmented : '<' ∉ name.toList ∧ ¬ [':', ':'] <:+: name.toList

/-- The short name of a named type is its identifier wherever no segment in front of it has a bracket;
where one has, it is the identifier in front of the first bracket, or nothing if that segment begins with
the bracket. -/
theorem shortName_own_or_bracketed (path : List Segment) (own : Identifier)
    (arguments : List TypeName) :
    ShortFor path own (shortName (TypeName.named path own arguments).text) := by
  obtain ⟨chars, found⟩ := exists_shown path own
  have cut := shortName_of_shown found arguments
  have unique : ∀ other : List Char,
      (shortName (TypeName.named path own arguments).text).toList = other ↔
        Shown path own other := by
    intro other
    constructor
    · rintro rfl
      rwa [cut, String.toList_ofList]
    · intro there
      rw [shortName_of_shown there, String.toList_ofList]
  constructor
  case shown => exact unique
  case own_iff =>
    rw [← String.toList_inj, unique, shown_iff]
    simp [eq_comm]
  case private_iff =>
    intro bare number
    rw [isPrivate, (unique own.text.toList).mpr (.own bare)]
    simp
  case empty_iff =>
    rw [← String.toList_inj, unique, shown_iff]
    constructor
    · rintro (⟨-, empty⟩ | ⟨before, segment, after, rfl, bare, bracketed, empty⟩)
      · exact absurd (String.toList_inj.mp empty.symm) own.filled
      · cases segment with
        | named name arguments => exact absurd (String.toList_inj.mp empty.symm) name.filled
        | qualified self trait => exact ⟨before, self, trait, after, rfl, bare⟩
    · rintro ⟨before, self, trait, after, rfl, bare⟩
      exact .inr ⟨before, _, after, rfl, bare, id, rfl⟩
  case unsegmented => exact shortName_unsegmented _

-- a type that is declared inside a method of an implementation
example : shortName "<shop::Csv as shop::Kind>::assets::_Draft" = "" := by decide +kernel

end TypeIdent

end SourceRegistry
