import Mathlib.Data.List.Nodup
import SchemaMigration.Table.Parser
import SchemaMigration.Proofs.Table.KeyPart

/-!
# Names of the parts of a table

A key without a name of its own gets one that no earlier key of its sort has. The name of an
index may in turn be read as a key part, and if it names a column then it names the column
spelled like the index.

## Main Definitions

* `firstFree_notMem` - a name with the first free number is not taken
* `NamesItself` - a text that as a key part names at most the column spelled like it
* `indexName_cases` - the name that is chosen for an index
* `namesItself_indexName` - it names at most itself
-/

namespace SchemaMigration

open Text

/-! ## Numbered names -/

theorem ofNat_injective : Function.Injective ofNat := by
  intro m n h
  have hdigits := congrArg (Nat.ofDigitChars 10 · 0) h
  simpa [ofNat, Nat.ofDigitChars_ten_toDigits] using hdigits

/-- Different numbers make different names. -/
theorem numbered_injective (stem : Text) : Function.Injective (numbered stem) := by
  intro m n h
  exact ofNat_injective (List.append_cancel_left h)

/-- If even the name that the search ends with is taken, so are all that it passed over. -/
theorem numbered_mem_of_firstFree_mem {stem : Text} {taken : List Text} {bound n : Nat}
    (h : firstFree stem taken bound n ∈ taken) :
    ∀ i ≤ bound, numbered stem (n + i) ∈ taken := by
  induction bound generalizing n with
  | zero =>
      intro i hi
      obtain rfl := Nat.le_zero.mp hi
      exact h
  | succ bound ih =>
      rw [firstFree] at h
      split at h
      · rename_i hn
        intro i hi
        cases i with
        | zero => exact hn
        | succ i =>
            have hnext := ih h i (Nat.le_of_succ_le_succ hi)
            rwa [Nat.add_right_comm] at hnext
      · rename_i hn
        exact absurd h hn

/-- A name with the first free number is not taken, if as many numbers may be passed over as
there are names. -/
theorem firstFree_notMem (stem : Text) (taken : List Text) (n : Nat) :
    firstFree stem taken taken.length n ∉ taken := by
  intro h
  have hmem := numbered_mem_of_firstFree_mem h
  let passed := (List.range (taken.length + 1)).map fun i => numbered stem (n + i)
  have hnodup : passed.Nodup := by
    refine List.Nodup.map ?_ List.nodup_range
    intro i j hij
    exact Nat.add_left_cancel (numbered_injective stem hij)
  have hsubset : passed ⊆ taken := by
    intro name hname
    obtain ⟨i, hi, rfl⟩ := List.mem_map.mp hname
    exact hmem i (Nat.le_of_lt_succ (List.mem_range.mp hi))
  -- One more name would be taken than there are.
  have hlength : taken.length + 1 ≤ taken.length := by
    simpa [passed] using hnodup.length_le_of_subset hsubset
  omega

/-! ## Names as key parts -/

/-- Read as a key part, the text names no other column than the one spelled like it. -/
def NamesItself (name : Text) : Prop := ∀ column, columnName? name = some column → column = name

/-- A text that begins with an identifier, and goes on with what is neither a length nor a
sort order, names nothing but itself. -/
theorem namesItself_of_plain_rest {name : Text} (htrim : trim name = name)
    (hrest : ∀ found rest, columnIdentifier? name = some (found, rest) →
      keyLength? rest = none ∧ keyOrder? rest = none) : NamesItself name := by
  intro column hcolumn
  simp only [columnName?, htrim, Option.bind_eq_bind, Option.bind_eq_some_iff] at hcolumn
  obtain ⟨⟨found, rest⟩, hfound, hcolumn⟩ := hcolumn
  obtain ⟨hlength, horder⟩ := hrest found rest hfound
  obtain ⟨-, hname⟩ := columnIdentifier?_eq_some hfound
  simp only [hlength, horder, Option.getD_none, List.isEmpty_iff] at hcolumn
  split at hcolumn
  · rename_i hnil
    rw [← Option.some.inj hcolumn, hname, hnil, List.append_nil]
  · cases hcolumn

/-- Without a blank or an opening parenthesis in front there is no length and no order. -/
theorem keyLength?_keyOrder?_eq_none {c : Char} {rest : Text} (hblank : isBlank c = false)
    (hopen : c ≠ '(') : keyLength? (c :: rest) = none ∧ keyOrder? (c :: rest) = none := by
  have hparen : ('(' : Char) ≠ c := fun h => hopen h.symm
  constructor
  · simp [keyLength?, trimLeft, hblank, after?, hparen]
  · simp [keyOrder?, blanks?, hblank]

/-- A text without blanks and opening parentheses names nothing but itself. -/
theorem namesItself_of_forall {name : Text}
    (h : ∀ c ∈ name, isBlank c = false ∧ c ≠ '(') : NamesItself name := by
  refine namesItself_of_plain_rest ?_ ?_
  · refine trim_eq_self ?_ ?_
    · intro c hc
      exact (h c (List.mem_of_mem_head? hc)).1
    · intro c hc
      exact (h c (List.mem_of_mem_getLast? hc)).1
  · intro found rest hfound
    obtain ⟨-, rfl⟩ := columnIdentifier?_eq_some hfound
    cases rest with
    | nil => exact ⟨rfl, rfl⟩
    | cons c rest =>
        obtain ⟨hblank, hopen⟩ := h c (by simp)
        exact keyLength?_keyOrder?_eq_none hblank hopen

/-- A column that a key part names names itself. -/
theorem namesItself_of_columnName? {part name : Text} (h : columnName? part = some name) :
    NamesItself name := by
  intro column hcolumn
  rw [columnName?_self h] at hcolumn
  exact (Option.some.inj hcolumn).symm

/-- The digits of a number are neither blanks nor parentheses. -/
theorem isBlank_of_mem_ofNat {n : Nat} {c : Char} (h : c ∈ ofNat n) :
    isBlank c = false ∧ c ≠ '(' := by
  have hdigit : c.isDigit = true := Nat.isDigit_of_mem_toDigits (by decide) (by decide) h
  simp only [Char.isDigit, Bool.and_eq_true, decide_eq_true_eq, UInt32.le_iff_toNat_le] at hdigit
  change 48 ≤ c.toNat ∧ c.toNat ≤ 57 at hdigit
  constructor
  · simp only [isBlank, blankRanges, List.any_cons, List.any_nil, Bool.or_false,
      Bool.or_eq_false_iff, Bool.and_eq_false_iff, decide_eq_false_iff_not]
    omega
  · rintro rfl
    exact absurd hdigit.1 (by decide)

/-- A numbered identifier names nothing but itself. -/
theorem namesItself_numbered {stem : Text} (h : IsIdentifier stem) (n : Nat) :
    NamesItself (numbered stem n) := by
  have htail : ∀ c ∈ '_' :: ofNat n, isBlank c = false ∧ c ≠ '(' := by
    intro c hc
    rcases List.mem_cons.mp hc with rfl | hc
    · decide
    · exact isBlank_of_mem_ofNat hc
  have hname : numbered stem n = stem ++ '_' :: ofNat n := by
    simp [numbered]
  cases h with
  | bare hne hinside =>
      refine namesItself_of_forall ?_
      intro c hc
      rw [hname] at hc
      rcases List.mem_append.mp hc with hc | hc
      · exact ⟨(hinside c hc).1, (hinside c hc).2.1⟩
      · exact htail c hc
  | quoted hne hinside =>
      refine namesItself_of_plain_rest ?_ ?_
      · refine trim_eq_self ?_ ?_
        · intro c hc
          rw [hname] at hc
          obtain rfl : '\x60' = c := by simpa using hc
          decide
        · intro c hc
          rw [hname, List.getLast?_append_of_ne_nil _ (by simp)] at hc
          exact (htail c (List.mem_of_mem_getLast? hc)).1
      · intro found rest hfound
        have hread := columnIdentifier?_quoted hne hinside ('_' :: ofNat n)
        rw [hname, List.append_assoc, List.singleton_append, hread] at hfound
        obtain ⟨-, rfl⟩ := Prod.mk.inj (Option.some.inj hfound)
        exact keyLength?_keyOrder?_eq_none (by decide) (by decide)

/-- A free number is found. -/
theorem exists_firstFree (stem : Text) (taken : List Text) (bound n : Nat) :
    ∃ m, firstFree stem taken bound n = numbered stem m := by
  induction bound generalizing n with
  | zero => exact ⟨n, rfl⟩
  | succ bound ih =>
      rw [firstFree]
      split
      · exact ih (n + 1)
      · exact ⟨n, rfl⟩

/-- What the name of an index line without one begins with: its first column, or a word for a
functional index. -/
def indexStem (parts : List Text) : Text :=
  (parts.head?.bind columnName?).getD "functional_index".toList

theorem isIdentifier_indexStem (parts : List Text) : IsIdentifier (indexStem parts) := by
  rw [indexStem]
  cases hname : parts.head?.bind columnName? with
  | none => exact IsIdentifier.bare (by decide) (by simp [isBlank, blankRanges])
  | some name =>
      obtain ⟨part, -, hpart⟩ := Option.bind_eq_some_iff.mp hname
      exact isIdentifier_of_columnName? hpart

/-- The name that is chosen for an index. -/
theorem indexName_cases (draft : Table.Draft) (parts : List Text) :
    draft.indexName parts = indexStem parts ∨
      ∃ n, draft.indexName parts = numbered (indexStem parts) n := by
  simp only [Table.Draft.indexName]
  split
  · exact Or.inr (exists_firstFree _ _ _ _)
  · exact Or.inl rfl

/-- The name that is chosen for an index names nothing but itself. -/
theorem namesItself_indexName (draft : Table.Draft) (parts : List Text) :
    NamesItself (draft.indexName parts) := by
  have hstem := isIdentifier_indexStem parts
  rcases indexName_cases draft parts with hname | ⟨n, hname⟩
  · rw [hname]
    exact namesItself_of_columnName? (columnName?_of_isIdentifier hstem)
  · rw [hname]
    exact namesItself_numbered hstem n

/-- The name that is chosen for an index is not taken. -/
theorem indexName_notMem (draft : Table.Draft) (parts : List Text) :
    draft.indexName parts ∉ draft.indexes.map (·.name) := by
  simp only [Table.Draft.indexName]
  split
  · exact firstFree_notMem _ _ _
  · assumption

end SchemaMigration
