import SchemaMigration.CommandLine.Arguments
import SchemaMigration.Proofs.Text.Search

/-!
# Passwords in command lines

A password stands behind the name of its setting, in the same word or in the next one, and nowhere
else. Of command lines that differ in nothing but passwords the words are recognised alike.

## Main Definitions

* `SameButPasswords` - command lines that differ in nothing but passwords
* `Word.SameButPasswords` - so do the words that are recognised in them
* `Word.ofText_eq_password_iff` - the words that give a password, or ask for one in the next word
* `Word.sameButPasswords_of_ofTexts` - words are recognised alike

## Design Notes

A password in a word of its own is one only if that word is recognised as an argument; otherwise
the command line is refused, and it does not matter how the words behind it are read. The relation
on words ends at such a place.
-/

namespace SchemaMigration

open Text

/-! ## Command lines -/

/-- A text that gives a password: it is not empty, and it is kept as the value of a setting. -/
def HyphenRule.IsPassword (rule : HyphenRule) (value : Text) : Prop :=
  value ≠ [] ∧ (rule = .kept ∨ value ≠ "--".toList)

/-- The name of the setting of a password: for both connections, or for one of them. -/
def passwordName : Option Side → Text
  | none => "--password"
  | some .first => "--password1"
  | some .second => "--password2"

/-- Command lines that are the same but for passwords. Behind a separator all words are arguments,
so none of them may differ. -/
inductive SameButPasswords (rule : HyphenRule) : List Text → List Text → Prop
  | nil : SameButPasswords rule [] []
  | word {word : Text} {words others : List Text} (hword : word ≠ "--".toList)
      (h : SameButPasswords rule words others) :
      SameButPasswords rule (word :: words) (word :: others)
  | separator (words : List Text) :
      SameButPasswords rule ("--".toList :: words) ("--".toList :: words)
  /-- Two passwords in the words of their names. -/
  | joined (side : Option Side) {p q : Text} {words others : List Text}
      (hp : rule.IsPassword p) (hq : rule.IsPassword q) (h : SameButPasswords rule words others) :
      SameButPasswords rule ((passwordName side ++ "=" ++ p) :: words)
        ((passwordName side ++ "=" ++ q) :: others)
  /-- Two passwords behind the words of their names. -/
  | next (side : Option Side) {p q : Text} {words others : List Text}
      (hp : rule.IsPassword p) (hq : rule.IsPassword q) (h : SameButPasswords rule words others) :
      SameButPasswords rule (passwordName side :: p :: words) (passwordName side :: q :: others)

/-! ## Recognised words -/

namespace Word

/-- Words that are the same but for passwords, as far as they are understood. -/
inductive SameButPasswords (rule : HyphenRule) : List Word → List Word → Prop
  | nil : SameButPasswords rule [] []
  | word (word : Word) {words others : List Word} (h : SameButPasswords rule words others) :
      SameButPasswords rule (word :: words) (word :: others)
  | joined (side : Option Side) (isLetter : Bool) {p q : Text} {words others : List Word}
      (hp : rule.IsPassword p) (hq : rule.IsPassword q) (h : SameButPasswords rule words others) :
      SameButPasswords rule (.setting (.connection .password side) (some p) isLetter :: words)
        (.setting (.connection .password side) (some q) isLetter :: others)
  | next (side : Option Side) (isLetter : Bool) {p q : Text} {words others : List Word}
      (hp : rule.IsPassword p) (hq : rule.IsPassword q) (h : SameButPasswords rule words others) :
      SameButPasswords rule
        (.setting (.connection .password side) none isLetter :: .argument p :: words)
        (.setting (.connection .password side) none isLetter :: .argument q :: others)
  /-- In one of the command lines there is no password behind its name. -/
  | missing (side : Option Side) (isLetter : Bool) {words others : List Word}
      (h : (∀ p rest, words ≠ .argument p :: rest) ∨ ∀ q rest, others ≠ .argument q :: rest) :
      SameButPasswords rule (.setting (.connection .password side) none isLetter :: words)
        (.setting (.connection .password side) none isLetter :: others)

theorem ofText_passwordName (side : Option Side) :
    ofText (passwordName side) = .ok (.setting (.connection .password side) none false) := by
  match side with
  | none | some .first | some .second => rfl

theorem ofText_passwordName_append (side : Option Side) (p : Text) :
    ofText (passwordName side ++ "=" ++ p)
      = .ok (.setting (.connection .password side) (some p) false) := by
  match side with
  | none | some .first | some .second => rfl

/-! Passwords are recognised nowhere else: the names of their settings are not shortened. -/

theorem mem_names_of_ofName? {name : Text} {found : Setting} (h : Setting.ofName? name = some found) :
    (name, found) ∈ Setting.names := by
  obtain ⟨front, back, hnames, -⟩ := List.lookup_eq_some_iff.mp h
  rw [hnames]
  simp

/-- The setting of a password has one name. -/
theorem eq_passwordName {name : Text} {side : Option Side}
    (h : (name, .connection .password side) ∈ Setting.names) : name = passwordName side := by
  have hnames : ∀ side ∈ [none, some Side.first, some .second], ∀ entry ∈ Setting.names,
      entry.2 = .connection .password side → entry.1 = passwordName side := by
    decide +kernel
  refine hnames side ?_ _ h rfl
  match side with
  | none | some .first | some .second => simp

theorem eq_append_of_splitValue {text name value : Text} (h : splitValue text = (name, some value)) :
    text = name ++ "=" ++ value := by
  rw [splitValue] at h
  split at h
  · rename_i front rest hfirst
    obtain ⟨rfl, hrest⟩ := Prod.mk.inj h
    obtain rfl := Option.some.inj hrest
    exact (eq_append_of_splitAtFirst? (by decide) hfirst).1
  · cases h

theorem splitValue_fst {text : Text} (h : (splitValue text).2 = none) :
    (splitValue text).1 = text := by
  rw [splitValue] at h ⊢
  split at h
  · cases h
  · rfl

/-- The name of a setting of a password is not shortened: what it begins with is the name of another
one, or begins several. -/
theorem eq_passwordName_of_candidates {text : Text} {side : Option Side} {value : Option Text}
    {isLetter : Bool} (hstart : startsWith "-" text = true) (hlength : text.length ≠ 1)
    (h : candidates text = [.setting (.connection .password side) value isLetter]) :
    (splitValue text).1 = passwordName side := by
  have hside : side ∈ [none, some Side.first, some .second] := by
    match side with
    | none | some .first | some .second => simp
  have hshort : ∀ side ∈ [none, some Side.first, some .second],
      ∀ beginning ∈ (passwordName side).inits,
      (Setting.names.filter fun entry => startsWith beginning entry.1).length = 1 →
        beginning = passwordName side := by
    decide +kernel
  have hletter : ∀ side ∈ [none, some Side.first, some .second],
      ∀ beginning ∈ (passwordName side).inits, startsWith "-" beginning = true →
        beginning.length ≠ 1 → startsWith "--" beginning = true := by
    decide +kernel
  rw [candidates] at h
  split at h
  · obtain ⟨⟨name, found⟩, hfilter, hword⟩ := List.map_eq_singleton_iff.mp h
    obtain ⟨rfl, -, -⟩ := Word.setting.inj hword
    obtain ⟨hmem, hbegins⟩ := List.mem_filter.mp (hfilter ▸ List.mem_singleton_self _)
    obtain rfl := eq_passwordName hmem
    refine hshort side hside _ ?_ (congrArg List.length hfilter)
    exact (List.mem_inits _ _).mpr (List.isPrefixOf_iff_prefix.mp hbegins)
  · rename_i hhyphens
    obtain ⟨⟨name, found⟩, hfilter, hword⟩ := List.map_eq_singleton_iff.mp h
    obtain ⟨hmem, hbegins⟩ := List.mem_filter.mp (hfilter ▸ List.mem_singleton_self _)
    obtain rfl : found = .connection .password side := by
      simp only at hword
      split at hword
      · exact (Word.setting.inj hword).1
      · exact (Word.setting.inj hword).1
    obtain rfl := eq_passwordName hmem
    simp only [Bool.or_eq_true, decide_eq_true_eq] at hbegins
    rcases hbegins with htake | hbegins
    · have hlong : 2 < (passwordName side).length := by
        match side with | none | some .first | some .second => decide
      rw [htake, List.length_take] at hlong
      omega
    · refine absurd (hletter side hside text ?_ hstart hlength) hhyphens
      exact (List.mem_inits _ _).mpr (List.isPrefixOf_iff_prefix.mp hbegins)

/-- A password is given in the word of its name behind an equals sign, or in the next one. -/
theorem ofText_eq_password_iff {text : Text} {side : Option Side} {value : Option Text}
    {isLetter : Bool} :
    ofText text = .ok (.setting (.connection .password side) value isLetter) ↔
      isLetter = false ∧ ((text = passwordName side ∧ value = none) ∨
        ∃ p, text = passwordName side ++ "=" ++ p ∧ value = some p) := by
  have hletter : isLetterName (passwordName side) = false := by
    match side with
    | none | some .first | some .second => rfl
  constructor
  · intro h
    rw [ofText] at h
    split at h
    · cases h
    rename_i hhyphen
    split at h
    · rename_i found hfound
      obtain ⟨rfl, rfl, rfl⟩ := Word.setting.inj (Except.ok.inj h)
      obtain rfl := eq_passwordName (mem_names_of_ofName? hfound)
      exact ⟨hletter, .inl ⟨rfl, rfl⟩⟩
    rename_i hunnamed
    simp only at h
    split at h
    · cases h
    rename_i hlength
    split at h
    · rename_i found p hfound hvalue
      obtain ⟨rfl, rfl, rfl⟩ := Word.setting.inj (Except.ok.inj h)
      have hname := eq_passwordName (mem_names_of_ofName? hfound)
      rw [hname]
      exact ⟨hletter, .inr ⟨p, eq_append_of_splitValue (Prod.ext hname hvalue), rfl⟩⟩
    rename_i hnone
    split at h
    · -- What is in front of the equals sign would be the whole name, which was looked up before.
      rename_i word hcandidates
      obtain rfl := Except.ok.inj h
      have hname := eq_passwordName_of_candidates (by simpa using hhyphen) hlength hcandidates
      have hfound : Setting.ofName? (passwordName side) = some (.connection .password side) := by
        match side with
        | none | some .first | some .second => rfl
      rw [← hname] at hfound
      cases hvalue : (splitValue text).2 with
      | none =>
          rw [splitValue_fst hvalue, hunnamed] at hfound
          cases hfound
      | some p => exact (hnone _ p hfound hvalue).elim
    · cases h
    · split at h
      · cases h
      · cases h
  · rintro ⟨rfl, ⟨rfl, rfl⟩ | ⟨p, rfl, rfl⟩⟩
    · exact ofText_passwordName side
    · exact ofText_passwordName_append side p

/-- What a word may be short for is a setting. -/
theorem exists_setting_of_mem_candidates {text : Text} {word : Word} (h : word ∈ candidates text) :
    ∃ found value isLetter, word = .setting found value isLetter := by
  rw [candidates] at h
  split at h
  · obtain ⟨⟨name, found⟩, -, rfl⟩ := List.mem_map.mp h
    exact ⟨_, _, _, rfl⟩
  · obtain ⟨⟨name, found⟩, -, rfl⟩ := List.mem_map.mp h
    simp only
    split
    · exact ⟨_, _, _, rfl⟩
    · exact ⟨_, _, _, rfl⟩

/-- A word that is recognised as an argument is the argument as it stands. -/
theorem eq_of_ofText_eq_argument {text name : Text} (h : ofText text = .ok (.argument name)) :
    name = text := by
  have hargument {other : Text} (heq : Except.ok (argument other) = Except.ok (ε := Refusal)
      (argument name)) : name = other := (Word.argument.inj (Except.ok.inj heq)).symm
  rw [ofText] at h
  split at h
  · exact hargument h
  split at h
  · cases h
  simp only at h
  split at h
  · exact hargument h
  split at h
  · cases h
  split at h
  · rename_i word hcandidates
    obtain ⟨found, value, isLetter, rfl⟩ :=
      exists_setting_of_mem_candidates (hcandidates ▸ List.mem_singleton_self word)
    cases h
  · cases h
  · split at h
    · exact hargument h
    · cases h

/-- In front of a separator words are recognised one by one. -/
theorem ofTexts_cons_eq_ok {text : Text} {texts : List Text} {words : List Word}
    (htext : text ≠ "--".toList) (h : ofTexts (text :: texts) = .ok words) :
    ∃ word rest, words = word :: rest ∧ ofText text = .ok word ∧ ofTexts texts = .ok rest := by
  rw [ofTexts, if_neg htext] at h
  cases hword : ofText text with
  | error refusal =>
      rw [hword] at h
      cases h
  | ok word =>
      cases hrest : ofTexts texts with
      | error refusal =>
          rw [hword, hrest] at h
          cases h
      | ok rest =>
          rw [hword, hrest] at h
          exact ⟨word, rest, (Except.ok.inj h).symm, rfl, rfl⟩

/-- Where an argument is recognised in front, the word is that argument. -/
theorem ofTexts_eq_argument_cons {text name : Text} {texts : List Text} {rest : List Word}
    (h : ofTexts (text :: texts) = .ok (.argument name :: rest)) :
    name = text ∧ ofTexts texts = .ok rest := by
  by_cases htext : text = "--".toList
  · rw [ofTexts, if_pos htext] at h
    cases h
  · obtain ⟨word, found, hwords, hword, hrest⟩ := ofTexts_cons_eq_ok htext h
    obtain ⟨rfl, rfl⟩ := List.cons.inj hwords
    exact ⟨eq_of_ofText_eq_argument hword, hrest⟩

theorem SameButPasswords.refl (rule : HyphenRule) (words : List Word) :
    SameButPasswords rule words words := by
  induction words with
  | nil => exact .nil
  | cons word words ih => exact .word word ih

/-- Command lines that are the same but for passwords are recognised as such. -/
theorem sameButPasswords_of_ofTexts {rule : HyphenRule} {texts others : List Text}
    (h : SchemaMigration.SameButPasswords rule texts others) {words found : List Word}
    (hwords : ofTexts texts = .ok words) (hfound : ofTexts others = .ok found) :
    SameButPasswords rule words found := by
  have hname (side : Option Side) : passwordName side ≠ "--".toList := by
    match side with
    | none | some .first | some .second => decide
  have hjoined (side : Option Side) (p : Text) : passwordName side ++ "=" ++ p ≠ "--".toList := by
    match side with
    | none | some .first | some .second => exact nofun
  induction h generalizing words found with
  | nil =>
      obtain rfl := Except.ok.inj hwords
      obtain rfl := Except.ok.inj hfound
      exact .nil
  | word hword _ ih =>
      obtain ⟨first, rest, rfl, hfirst, hrest⟩ := ofTexts_cons_eq_ok hword hwords
      obtain ⟨second, more, rfl, hsecond, hmore⟩ := ofTexts_cons_eq_ok hword hfound
      obtain rfl := Except.ok.inj (hfirst.symm.trans hsecond)
      exact .word first (ih hrest hmore)
  | separator texts =>
      obtain rfl := Except.ok.inj (hwords.symm.trans hfound)
      exact .refl rule words
  | joined side hp hq _ ih =>
      obtain ⟨first, rest, rfl, hfirst, hrest⟩ := ofTexts_cons_eq_ok (hjoined side _) hwords
      obtain ⟨second, more, rfl, hsecond, hmore⟩ := ofTexts_cons_eq_ok (hjoined side _) hfound
      obtain rfl := Except.ok.inj ((ofText_passwordName_append side _).symm.trans hfirst)
      obtain rfl := Except.ok.inj ((ofText_passwordName_append side _).symm.trans hsecond)
      exact .joined side false hp hq (ih hrest hmore)
  | next side hp hq _ ih =>
      obtain ⟨first, rest, rfl, hfirst, hrest⟩ := ofTexts_cons_eq_ok (hname side) hwords
      obtain ⟨second, more, rfl, hsecond, hmore⟩ := ofTexts_cons_eq_ok (hname side) hfound
      obtain rfl := Except.ok.inj ((ofText_passwordName side).symm.trans hfirst)
      obtain rfl := Except.ok.inj ((ofText_passwordName side).symm.trans hsecond)
      by_cases hargument : ∃ name back, rest = .argument name :: back
      · by_cases hargument' : ∃ name back, more = .argument name :: back
        · obtain ⟨_, back, rfl⟩ := hargument
          obtain ⟨_, back', rfl⟩ := hargument'
          obtain ⟨rfl, hback⟩ := ofTexts_eq_argument_cons hrest
          obtain ⟨rfl, hback'⟩ := ofTexts_eq_argument_cons hmore
          exact .next side false hp hq (ih hback hback')
        · exact .missing side false (.inr fun name back hmore => hargument' ⟨name, back, hmore⟩)
      · exact .missing side false (.inl fun name back hrest => hargument ⟨name, back, hrest⟩)

/-! Words that are the same but for passwords begin alike. -/

namespace SameButPasswords

variable {rule : HyphenRule} {words others : List Word}

theorem eq_nil (h : SameButPasswords rule words others) (hothers : others = []) : words = [] := by
  cases h with
  | nil => rfl
  | word _ _ | joined _ _ _ _ _ | next _ _ _ _ _ | missing _ _ _ => cases hothers

theorem exists_argument (h : SameButPasswords rule words others) {name : Text} {rest : List Word}
    (hothers : others = .argument name :: rest) : ∃ front, words = .argument name :: front := by
  cases h with
  | word word _ =>
      obtain ⟨rfl, -⟩ := List.cons.inj hothers
      exact ⟨_, rfl⟩
  | nil | joined _ _ _ _ _ | next _ _ _ _ _ | missing _ _ _ => cases hothers

theorem exists_separator (h : SameButPasswords rule words others) {rest : List Word}
    (hothers : others = .separator :: rest) : ∃ front, words = .separator :: front := by
  cases h with
  | word word _ =>
      obtain ⟨rfl, -⟩ := List.cons.inj hothers
      exact ⟨_, rfl⟩
  | nil | joined _ _ _ _ _ | next _ _ _ _ _ | missing _ _ _ => cases hothers

end SameButPasswords

end Word

end SchemaMigration
