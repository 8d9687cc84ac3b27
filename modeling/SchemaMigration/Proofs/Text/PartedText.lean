import SchemaMigration.Proofs.Table.KeyPart
import SchemaMigration.Proofs.Text.Search

/-!
# Texts parted by their literals

A search through a text takes no notice of literals. What a recogniser finds that does not go on
behind a quote lies in one of the stretches between quotes, and there is no telling whether that is
the inside of a literal. So a search is told by the stretches of a text one by one.

## Main Definitions

* `PartedText` - a text with its literals, of which the last one may be open
* `exists_partedText` - every text is parted so
* `PartedText.stretches` - what stands outside and inside literals, each with the quote at its end
* `EndsAtQuotes` - a recogniser that does not go on behind a quote
* `PartedText.occurs_text` - it succeeds somewhere just if it does in one of the stretches
* `PartedText.splitAtMatch?_text` - the place where it succeeds first is in the first of these
-/

namespace SchemaMigration

open Text

/-! ## Quotes -/

/-- A quote of string literals. -/
def IsQuoteMark (c : Char) : Prop := c = '\x27' ∨ c = '\x22'

instance (c : Char) : Decidable (IsQuoteMark c) := inferInstanceAs (Decidable (_ ∨ _))

/-- Where a scanner stands behind a text. -/
def Literal.behind (literal : Literal) (text : Text) : Literal :=
  text.foldl (fun literal c => literal.next c) literal

@[simp] theorem Literal.behind_cons (literal : Literal) (c : Char) (text : Text) :
    literal.behind (c :: text) = (literal.next c).behind text := rfl

theorem Literal.behind_append (literal : Literal) (front back : Text) :
    literal.behind (front ++ back) = (literal.behind front).behind back :=
  List.foldl_append

/-- A text without quotes. -/
def HasNoQuotes (text : Text) : Prop := ∀ c ∈ text, ¬ IsQuoteMark c

instance (text : Text) : Decidable (HasNoQuotes text) :=
  inferInstanceAs (Decidable (∀ c ∈ text, ¬ IsQuoteMark c))

/-- A scanner that stands in front of a text does not leave the literal inside the text. -/
def Literal.StaysInside (literal : Literal) (text : Text) : Prop :=
  ∀ front, front <+: text → literal.behind front ≠ .outside

instance (literal : Literal) (text : Text) : Decidable (literal.StaysInside text) :=
  decidable_of_iff (∀ front ∈ text.inits, literal.behind front ≠ .outside)
    (by simp [Literal.StaysInside])

theorem Literal.next_outside {c : Char} (h : ¬ IsQuoteMark c) : outside.next c = outside := by
  rw [IsQuoteMark, not_or] at h
  simp [next, h]

theorem Literal.next_quote {c : Char} (h : IsQuoteMark c) : outside.next c = inside c := by
  rcases h with rfl | rfl <;> rfl

theorem Literal.next_closing {quote : Char} (h : IsQuoteMark quote) :
    (inside quote).next quote = outside := by
  rcases h with rfl | rfl <;> rfl

theorem HasNoQuotes.behind {text : Text} (h : HasNoQuotes text) :
    Literal.outside.behind text = .outside := by
  induction text with
  | nil => rfl
  | cons c text ih =>
      obtain ⟨hc, hrest⟩ := List.forall_mem_cons.mp h
      rw [Literal.behind_cons, Literal.next_outside hc, ih hrest]

theorem Literal.staysInside_cons {literal : Literal} (h : literal ≠ .outside) {c : Char}
    {text : Text} : literal.StaysInside (c :: text) ↔ (literal.next c).StaysInside text := by
  constructor
  · intro hstays front hfront
    exact hstays (c :: front) ((List.prefix_cons_inj c).mpr hfront)
  · rintro hstays front hfront
    rcases List.prefix_cons_iff.mp hfront with rfl | ⟨more, rfl, hmore⟩
    · exact h
    · exact hstays more hmore

/-- A literal goes on to the end of a text, or to its quote. -/
theorem Literal.exists_closing {quote : Char} {literal : Literal}
    (h : literal = .inside quote ∨ literal = .escaped quote) (text : Text) :
    literal.StaysInside text ∨ ∃ inside rest, text = inside ++ quote :: rest ∧
      literal.StaysInside inside ∧ literal.behind inside = .inside quote := by
  have hne : literal ≠ .outside := by
    rcases h with rfl | rfl <;> simp
  induction text generalizing literal with
  | nil =>
      refine .inl fun front hfront => ?_
      rw [List.prefix_nil.mp hfront]
      exact hne
  | cons c text ih =>
      by_cases hcloses : literal.next c = .outside
      · -- only the quote closes a literal, if no backslash stands in front
        obtain ⟨rfl, rfl⟩ : literal = .inside quote ∧ c = quote := by
          rcases h with rfl | rfl
          · rw [next] at hcloses
            split at hcloses
            · cases hcloses
            · split at hcloses
              · exact ⟨rfl, by simpa using ‹(c == quote) = true›⟩
              · cases hcloses
          · cases hcloses
        refine .inr ⟨[], text, rfl, fun front hfront => ?_, rfl⟩
        rw [List.prefix_nil.mp hfront]
        exact hne
      · have hnext : literal.next c = .inside quote ∨ literal.next c = .escaped quote := by
          rcases h with rfl | rfl
          · rw [next] at hcloses ⊢
            split
            · exact .inr rfl
            · split
              · simp_all
              · exact .inl rfl
          · exact .inl rfl
        rw [staysInside_cons hne]
        refine (ih hnext hcloses).imp_right ?_
        rintro ⟨inside, rest, rfl, hstays, hbehind⟩
        exact ⟨c :: inside, rest, rfl, (staysInside_cons hne).mpr hstays, hbehind⟩

/-! ## Parted texts -/

/-- A text parted by its literals, of which the last one may be open. -/
inductive PartedText
  | bare (text : Text)
  | opened (front : Text) (quote : Char) (inside : Text)
  | closed (front : Text) (quote : Char) (inside : Text) (rest : PartedText)

/-- What stands outside or inside a literal, up to the quote that ends it. -/
structure Stretch where
  isInside : Bool
  text : Text
  deriving DecidableEq

namespace PartedText

/-- The text as a whole. -/
def text : PartedText → Text
  | bare text => text
  | opened front quote inside => front ++ quote :: inside
  | closed front quote inside rest => front ++ quote :: (inside ++ quote :: rest.text)

/-- What stands outside and inside literals, in order. -/
def stretches : PartedText → List Stretch
  | bare text => [⟨false, text⟩]
  | opened front quote inside => [⟨false, front ++ [quote]⟩, ⟨true, inside⟩]
  | closed front quote inside rest =>
    ⟨false, front ++ [quote]⟩ :: ⟨true, inside ++ [quote]⟩ :: rest.stretches

/-- The text with something done to what stands between the quotes. -/
def map (f : Text → Text) : PartedText → PartedText
  | bare text => bare (f text)
  | opened front quote inside => opened (f front) quote (f inside)
  | closed front quote inside rest => closed (f front) quote (f inside) (rest.map f)

/-- The literals are those that a scanner finds. -/
def WellFormed : PartedText → Prop
  | bare text => HasNoQuotes text
  | opened front quote inside =>
    HasNoQuotes front ∧ IsQuoteMark quote ∧ (Literal.inside quote).StaysInside inside
  | closed front quote inside rest =>
    HasNoQuotes front ∧ IsQuoteMark quote ∧ (Literal.inside quote).StaysInside inside ∧
      (Literal.inside quote).behind inside = .inside quote ∧ rest.WellFormed

/-- Whether the literals are those that a scanner finds is decided literal by literal. -/
instance decidableWellFormed : (p : PartedText) → Decidable p.WellFormed
  | bare text => inferInstanceAs (Decidable (HasNoQuotes text))
  | opened front quote inside => inferInstanceAs (Decidable (HasNoQuotes front ∧
      IsQuoteMark quote ∧ (Literal.inside quote).StaysInside inside))
  | closed front quote inside rest =>
    have := decidableWellFormed rest
    inferInstanceAs (Decidable (HasNoQuotes front ∧ IsQuoteMark quote ∧
      (Literal.inside quote).StaysInside inside ∧
        (Literal.inside quote).behind inside = .inside quote ∧ rest.WellFormed))

end PartedText

/-- Every text is parted by its literals. -/
theorem exists_partedText (text : Text) : ∃ p : PartedText, p.WellFormed ∧ p.text = text := by
  induction hn : text.length using Nat.strong_induction_on generalizing text with
  | _ n ih =>
      let bare := fun c => ! decide (IsQuoteMark c)
      have htext : text.takeWhile bare ++ text.dropWhile bare = text :=
        List.takeWhile_append_dropWhile ..
      have hfront : HasNoQuotes (text.takeWhile bare) := fun c hc => by
        simpa [bare] using List.mem_takeWhile_imp hc
      cases hrest : text.dropWhile bare with
      | nil =>
          rw [hrest, List.append_nil] at htext
          exact ⟨.bare (text.takeWhile bare), hfront, htext⟩
      | cons quote more =>
          have hquote : IsQuoteMark quote := by
            simpa [bare] using of_dropWhile_eq_cons hrest
          rw [hrest] at htext
          have hopen : Literal.inside quote = .inside quote ∨
              Literal.inside quote = .escaped quote := .inl rfl
          rcases Literal.exists_closing hopen more with
            hstays | ⟨inside, rest, rfl, hstays, hbehind⟩
          · exact ⟨.opened (text.takeWhile bare) quote more, ⟨hfront, hquote, hstays⟩, htext⟩
          · have hlength : rest.length < n := by
              rw [← hn, ← htext]
              simp only [List.length_append, List.length_cons]
              omega
            obtain ⟨p, hp, rfl⟩ := ih rest.length hlength rest rfl
            exact ⟨.closed (text.takeWhile bare) quote inside p,
              ⟨hfront, hquote, hstays, hbehind, hp⟩, htext⟩

/-! ## Searching -/

theorem startsWord_quote {quote : Char} (h : IsQuoteMark quote) :
    startsWord (some quote) = startsWord none := by
  rcases h with rfl | rfl <;> decide +kernel

/-- A place is found just if there is one. -/
theorem isSome_splitAtMatchFrom? (recognise : Option Char → Text → Bool) (previous : Option Char)
    (text : Text) :
    (splitAtMatchFrom? recognise previous text).isSome = occursFrom recognise previous text := by
  induction text generalizing previous with
  | nil => rfl
  | cons c text ih =>
      rw [splitAtMatchFrom?, occursFrom, ← ih]
      cases recognise previous (c :: text) <;> simp

/-- A recogniser that neither begins with a quote nor goes on behind one. -/
structure EndsAtQuotes (recognise : Option Char → Text → Bool) : Prop where
  congr : ∀ {previous other}, startsWord previous = startsWord other → ∀ text,
    recognise previous text = recognise other text
  quote : ∀ {quote}, IsQuoteMark quote → ∀ previous text, recognise previous (quote :: text) = false
  append : ∀ {quote}, IsQuoteMark quote → ∀ previous {text}, text ≠ [] → ∀ rest,
    recognise previous (text ++ quote :: rest) = recognise previous (text ++ [quote])

namespace EndsAtQuotes

variable {recognise : Option Char → Text → Bool} (h : EndsAtQuotes recognise)

include h

theorem occursFrom_congr {previous other : Option Char}
    (hsame : startsWord previous = startsWord other) (text : Text) :
    occursFrom recognise previous text = occursFrom recognise other text := by
  cases text with
  | nil => rfl
  | cons c text => rw [occursFrom, occursFrom, h.congr hsame]

theorem splitAtMatchFrom?_congr {previous other : Option Char}
    (hsame : startsWord previous = startsWord other) (text : Text) :
    splitAtMatchFrom? recognise previous text = splitAtMatchFrom? recognise other text := by
  cases text with
  | nil => rfl
  | cons c text => rw [splitAtMatchFrom?, splitAtMatchFrom?, h.congr hsame]

variable {quote : Char} (hquote : IsQuoteMark quote)

include hquote

/-- Something is found in front of a quote, or behind it. -/
theorem occursFrom_append (previous : Option Char) (front back : Text) :
    occursFrom recognise previous (front ++ quote :: back) =
      (occursFrom recognise previous (front ++ [quote]) || occurs recognise back) := by
  induction front generalizing previous with
  | nil =>
      rw [List.nil_append, List.nil_append, occursFrom, occursFrom, occursFrom, h.quote hquote,
        h.quote hquote, h.occursFrom_congr (startsWord_quote hquote)]
      rfl
  | cons c front ih =>
      have hhere := h.append hquote previous (List.cons_ne_nil c front) back
      rw [List.cons_append, List.cons_append] at hhere
      rw [List.cons_append, List.cons_append, occursFrom, occursFrom, hhere, ih, Bool.or_assoc]

/-- The first place is in front of a quote, or else behind it. -/
theorem splitAtMatchFrom?_append (previous : Option Char) (front back : Text) :
    splitAtMatchFrom? recognise previous (front ++ quote :: back) =
      ((splitAtMatchFrom? recognise previous (front ++ [quote])).map
        fun found => (found.1, found.2 ++ back)).or
      ((splitAtMatch? recognise back).map fun found => (front ++ quote :: found.1, found.2)) := by
  induction front generalizing previous with
  | nil =>
      rw [List.nil_append, List.nil_append, splitAtMatchFrom?, splitAtMatchFrom?, splitAtMatchFrom?,
        h.quote hquote, h.quote hquote, h.splitAtMatchFrom?_congr (startsWord_quote hquote)]
      rfl
  | cons c front ih =>
      have hhere := h.append hquote previous (List.cons_ne_nil c front) back
      rw [List.cons_append, List.cons_append] at hhere
      rw [List.cons_append, List.cons_append, splitAtMatchFrom?, splitAtMatchFrom?, hhere, ih]
      split
      · simp
      · cases splitAtMatchFrom? recognise (some c) (front ++ [quote]) with
        | none => simp [Option.map_map, Function.comp_def]
        | some found => rfl

/-- A place in front of a quote is not behind it. -/
theorem isPrefix_of_splitAtMatchFrom? {previous : Option Char} {front : Text} {found : Text × Text}
    (hfound : splitAtMatchFrom? recognise previous (front ++ [quote]) = some found) :
    found.1 <+: front := by
  induction front generalizing previous found with
  | nil =>
      rw [List.nil_append, splitAtMatchFrom?, h.quote hquote] at hfound
      cases hfound
  | cons c front ih =>
      rw [List.cons_append, splitAtMatchFrom?] at hfound
      split at hfound
      · rw [← Option.some.inj hfound]
        exact List.nil_prefix
      · obtain ⟨behind, hbehind, rfl⟩ := Option.map_eq_some_iff.mp hfound
        exact (List.prefix_cons_inj c).mpr (ih hbehind)

/-- Whether the first place is outside literals is known for a place in front of a quote, and for
one behind it depends on where a scanner stands there. -/
theorem map_splitAtMatch?_append {literal next : Literal} {front : Text} {isOutside : Bool}
    (hfront : ∀ base, base <+: front → decide (literal.behind base = .outside) = isOutside)
    (hnext : literal.behind (front ++ [quote]) = next) (back : Text) :
    (splitAtMatch? recognise (front ++ quote :: back)).map
        (fun found => decide (literal.behind found.1 = .outside)) =
      if occurs recognise (front ++ [quote]) then some isOutside
      else (splitAtMatch? recognise back).map fun found =>
        decide (next.behind found.1 = .outside) := by
  rw [splitAtMatch?, h.splitAtMatchFrom?_append hquote, occurs, ← isSome_splitAtMatchFrom?]
  cases hfound : splitAtMatchFrom? recognise none (front ++ [quote]) with
  | some found =>
      have hbase := hfront found.1 (h.isPrefix_of_splitAtMatchFrom? hquote hfound)
      simp [hbase]
  | none =>
      have hbehind (base : Text) : literal.behind (front ++ quote :: base) = next.behind base := by
        rw [← hnext, ← Literal.behind_append, List.append_assoc, List.singleton_append]
      simp [Option.map_map, Function.comp_def, hbehind]

end EndsAtQuotes

/-- A quote behind a text without quotes opens a literal. -/
theorem HasNoQuotes.behind_quote {front : Text} (h : HasNoQuotes front) {quote : Char}
    (hquote : IsQuoteMark quote) : Literal.outside.behind (front ++ [quote]) = .inside quote := by
  rw [Literal.behind_append, h.behind]
  exact Literal.next_quote hquote

theorem HasNoQuotes.isOutside {front : Text} (h : HasNoQuotes front) (base : Text)
    (hbase : base <+: front) : decide (Literal.outside.behind base = .outside) = true :=
  decide_eq_true (HasNoQuotes.behind fun c hc => h c (hbase.subset hc))

theorem Literal.StaysInside.isOutside {quote : Char} {text : Text}
    (h : (inside quote).StaysInside text) (base : Text) (hbase : base <+: text) :
    decide ((inside quote).behind base = .outside) = false :=
  decide_eq_false (h base hbase)

/-- It is known for the last stretch, which has no quote at its end, as well. -/
theorem map_splitAtMatch?_last (recognise : Option Char → Text → Bool) {literal : Literal}
    {last : Text} {isOutside : Bool}
    (hlast : ∀ base, base <+: last → decide (literal.behind base = .outside) = isOutside) :
    (splitAtMatch? recognise last).map (fun found => decide (literal.behind found.1 = .outside)) =
      if occurs recognise last then some isOutside else none := by
  rw [occurs, ← isSome_splitAtMatchFrom?, splitAtMatch?]
  cases hfound : splitAtMatchFrom? recognise none last with
  | none => rfl
  | some found =>
      have hbase := hlast found.1 ⟨found.2, (append_of_splitAtMatchFrom? hfound).symm⟩
      simp [hbase]

namespace PartedText

variable {recognise : Option Char → Text → Bool}

/-- A recogniser succeeds somewhere just if it does in one of the stretches. -/
theorem occurs_text (h : EndsAtQuotes recognise) {p : PartedText} (hp : p.WellFormed) :
    occurs recognise p.text = p.stretches.any fun stretch => occurs recognise stretch.text := by
  induction p with
  | bare front => simp [text, stretches]
  | opened front quote inside =>
      rw [text, occurs, h.occursFrom_append hp.2.1]
      simp [stretches, occurs]
  | closed front quote inside rest ih =>
      obtain ⟨-, hquote, -, -, hrest⟩ := hp
      have hinside := h.occursFrom_append hquote none inside rest.text
      rw [text, occurs, h.occursFrom_append hquote, occurs, hinside, ih hrest]
      simp [stretches, occurs]

/-- The place where a recogniser succeeds first is outside literals just if the first stretch in
which it succeeds is. -/
theorem splitAtMatch?_text (h : EndsAtQuotes recognise) {p : PartedText} (hp : p.WellFormed) :
    (splitAtMatch? recognise p.text).map
        (fun found => decide (Literal.outside.behind found.1 = .outside)) =
      (p.stretches.find? fun stretch => occurs recognise stretch.text).map (! ·.isInside) := by
  induction p with
  | bare front =>
      rw [text, map_splitAtMatch?_last recognise (HasNoQuotes.isOutside hp), stretches,
        List.find?_cons]
      cases occurs recognise front <;> rfl
  | opened front quote inside =>
      obtain ⟨hfront, hquote, hinside⟩ := hp
      rw [text, h.map_splitAtMatch?_append hquote hfront.isOutside (hfront.behind_quote hquote),
        map_splitAtMatch?_last recognise hinside.isOutside, stretches, List.find?_cons,
        List.find?_cons]
      cases occurs recognise (front ++ [quote]) <;> cases occurs recognise inside <;> rfl
  | closed front quote inside rest ih =>
      obtain ⟨hfront, hquote, hinside, hbehind, hrest⟩ := hp
      have hafter : (Literal.inside quote).behind (inside ++ [quote]) = .outside := by
        rw [Literal.behind_append, hbehind]
        exact Literal.next_closing hquote
      rw [text, h.map_splitAtMatch?_append hquote hfront.isOutside (hfront.behind_quote hquote),
        h.map_splitAtMatch?_append hquote hinside.isOutside hafter, ih hrest, stretches,
        List.find?_cons, List.find?_cons]
      cases occurs recognise (front ++ [quote]) <;>
        cases occurs recognise (inside ++ [quote]) <;> rfl

end PartedText

end SchemaMigration
