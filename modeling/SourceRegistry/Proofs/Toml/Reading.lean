import SourceRegistry.Proofs.Toml.Distinct

/-!
What is read from a text has no name twice.  Words are scalars; arrays and tables in place are read one
in another, and then the statements that make the document.
-/

set_option autoImplicit false
set_option relaxedAutoImplicit false

namespace SourceRegistry.Toml

variable {item : Item}

theorem isScalar_wholeNumber (n : Int) : (wholeNumber n).isScalar = true := by
  unfold wholeNumber
  split <;> rfl

theorem isScalar_nearestFloat (digits : Nat) (exponent : Int) :
    (nearestFloat digits exponent).isScalar = true := by
  unfold nearestFloat
  dsimp only
  split
  · rfl
  · split
    · rfl
    · split <;> rfl

theorem isScalar_signed {sign : Option Char} (flat : item.isScalar = true) :
    (item.signed sign).isScalar = true := by
  cases item <;> exact flat

theorem isScalar_based {base : Nat} {digits : List Char} (read : based? base digits = some item) :
    item.isScalar = true := by
  unfold based? at read
  split at read
  · obtain ⟨ds, -, rfl⟩ := Option.map_eq_some_iff.mp read
    split
    · rfl
    · exact isScalar_wholeNumber _
  · cases read

theorem isScalar_integer {sign : Option Char} {size : List Char}
    (read : integer? sign size = some item) : item.isScalar = true := by
  unfold integer? at read
  split at read
  · cases read
  · obtain ⟨digits, -, rfl⟩ := Option.map_eq_some_iff.mp read
    split
    · exact isScalar_wholeNumber _
    · rfl

theorem isScalar_float {sign : Option Char} {size : List Char}
    (read : float? sign size = some item) : item.isScalar = true := by
  unfold float? at read
  simp only [Option.bind_eq_bind, Option.bind_eq_some_iff] at read
  obtain ⟨text, -, ⟨fraction, rest⟩, -, exponent, -, read⟩ := read
  split at read
  · cases read
  · cases read
    exact isScalar_signed (isScalar_nearestFloat _ _)

theorem isScalar_number {word : List Char} (read : number? word = some item) : item.isScalar = true := by
  unfold number? at read
  dsimp only at read
  split at read
  · exact isScalar_integer read
  · split at read
    · split at read
      · cases read
        rfl
      · cases read
    · split at read
      · cases read
      · split at read
        · exact isScalar_float read
        · split at read
          · exact isScalar_integer read
          · cases read

theorem isScalar_scalar {word : List Char} (read : scalar? word = some item) : item.isScalar = true := by
  unfold scalar? at read
  dsimp only at read
  split at read
  · cases read
    rfl
  · split at read
    · cases read
      rfl
    · split at read
      · cases read
        exact isScalar_signed rfl
      · split at read
        · cases read
          rfl
        · split at read
          · exact isScalar_based read
          · exact isScalar_based read
          · exact isScalar_based read
          · exact isScalar_number read

theorem isScalar_readScalar {text rest : List Char} (read : readScalar text = some (item, rest)) :
    item.isScalar = true := by
  obtain ⟨found, word, same⟩ := Option.map_eq_some_iff.mp read
  cases same
  exact isScalar_scalar word

/-- What the readers of values yield with so much fuel. -/
structure ReadsDistinct (fuel : Nat) : Prop where
  item : ∀ {depth : Nat} {text rest : List Char} {item : Item},
    readItem fuel depth text = some (item, rest) → item.Distinct
  array : ∀ {depth : Nat} {text rest : List Char} {items : List Item},
    readArray fuel depth text = some (items, rest) → ∀ item ∈ items, item.Distinct
  table : ∀ {depth : Nat} {text rest : List Char} {entries : List (List String × Item)},
    readTable fuel depth text = some (entries, rest) → ∀ entry ∈ entries, entry.2.Distinct
  entry : ∀ {depth : Nat} {text rest : List Char} {entry : List String × Item},
    readEntry fuel depth text = some (entry, rest) → entry.2.Distinct

namespace ReadsDistinct

variable {fuel depth : Nat} {text rest : List Char}

theorem readItem_succ (below : ReadsDistinct fuel)
    (read : readItem (fuel + 1) depth text = some (item, rest)) : item.Distinct := by
  unfold readItem at read
  split at read
  · obtain ⟨found, -, same⟩ := Option.map_eq_some_iff.mp read
    cases same
    exact .scalar rfl
  · obtain ⟨found, -, same⟩ := Option.map_eq_some_iff.mp read
    cases same
    exact .scalar rfl
  · split at read
    · cases read
    · obtain ⟨found, inside, same⟩ := Option.map_eq_some_iff.mp read
      cases same
      exact .array (below.array inside)
  · split at read
    · cases read
    · simp only [Option.bind_eq_bind, Option.bind_eq_some_iff] at read
      obtain ⟨⟨entries, after⟩, inside, made, whole, same⟩ := read
      cases same
      exact distinct_of_tableInPlace (below.table inside) whole
  · exact .scalar (isScalar_readScalar read)

theorem readArray_succ (below : ReadsDistinct fuel) {items : List Item}
    (read : readArray (fuel + 1) depth text = some (items, rest)) : ∀ item ∈ items, item.Distinct := by
  unfold readArray at read
  split at read
  · cases read
    exact List.forall_mem_nil _
  · split at read
    · cases read
    · rename_i first _ front
      split at read
      · obtain ⟨found, later, same⟩ := Option.map_eq_some_iff.mp read
        cases same
        exact List.forall_mem_cons.mpr ⟨below.item front, below.array later⟩
      · cases read
        exact List.forall_mem_singleton.mpr (below.item front)
      · cases read
  · cases read

theorem readTable_succ (below : ReadsDistinct fuel) {entries : List (List String × Item)}
    (read : readTable (fuel + 1) depth text = some (entries, rest)) :
    ∀ entry ∈ entries, entry.2.Distinct := by
  unfold readTable at read
  split at read
  · cases read
    exact List.forall_mem_nil _
  · split at read
    · cases read
    · rename_i first _ front
      split at read
      · obtain ⟨found, later, same⟩ := Option.map_eq_some_iff.mp read
        cases same
        exact List.forall_mem_cons.mpr ⟨below.entry front, below.table later⟩
      · cases read
        exact List.forall_mem_singleton.mpr (below.entry front)
      · cases read
  · cases read

theorem readEntry_succ (below : ReadsDistinct fuel) {entry : List String × Item}
    (read : readEntry (fuel + 1) depth text = some (entry, rest)) : entry.2.Distinct := by
  unfold readEntry at read
  simp only [Option.bind_eq_bind, Option.bind_eq_some_iff] at read
  obtain ⟨⟨path, text⟩, -, after, -, read⟩ := read
  split at read
  · obtain ⟨text, -, read⟩ := Option.bind_eq_some_iff.mp read
    obtain ⟨found, value, same⟩ := Option.map_eq_some_iff.mp read
    cases same
    exact below.item value
  · cases read

end ReadsDistinct

theorem readsDistinct (fuel : Nat) : ReadsDistinct fuel := by
  -- the readers call one another with less fuel, so one induction serves them all
  induction fuel with
  | zero =>
      constructor
      case item => simp [readItem]
      case array => simp [readArray]
      case table => simp [readTable]
      case entry => simp [readEntry]
  | succ fuel ih =>
      exact ⟨ih.readItem_succ, ih.readArray_succ, ih.readTable_succ, ih.readEntry_succ⟩

theorem distinct_readStatement {text rest : List Char} {statement : Statement}
    (read : readStatement text = some (statement, rest)) : statement.Distinct := by
  unfold readStatement at read
  split at read
  · split at read
    · cases read
      trivial
    · cases read
  · split at read
    · cases read
      trivial
    · cases read
  · split at read
    · obtain ⟨found, value, same⟩ := Option.map_eq_some_iff.mp read
      cases same
      exact (readsDistinct _).item value
    · cases read

theorem distinct_readStatements {fuel : Nat} {text : List Char} {statements : List Statement}
    (read : readStatements fuel text = some statements) :
    ∀ statement ∈ statements, statement.Distinct := by
  induction fuel generalizing text statements with
  | zero => cases read
  | succ fuel ih =>
      unfold readStatements at read
      split at read
      · cases read
      · cases read
        exact List.forall_mem_nil _
      · simp only [Option.bind_eq_bind, Option.bind_eq_some_iff] at read
        obtain ⟨⟨first, after⟩, front, next, -, later, behind, same⟩ := read
        cases same
        exact List.forall_mem_cons.mpr ⟨distinct_readStatement front, ih behind⟩

theorem unrepeating_read : Unrepeating read? := by
  intro text entries read
  obtain ⟨statements, statement, made⟩ := Option.bind_eq_some_iff.mp read
  exact distinct_of_document (distinct_readStatements statement) made

end SourceRegistry.Toml
