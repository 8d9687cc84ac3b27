import SchemaMigration.Proofs.CommandLine.Password
import SchemaMigration.Proofs.CommandLine.PasswordWord

/-!
# What passwords change

Command lines that differ in nothing but passwords ask for the same but for passwords, so nothing
that the program writes and no status tells one from the other.

## Main Definitions

* `Request.SameButPasswords` - what is asked for differs in nothing but passwords
* `Request.sameButPasswords_ofWords` - so it does if the words do
* `Arguments.sameButPassword_of_ofWords` - and so does what command lines say
* `Program.mainOn_of_sameButPasswords` - the program does the same for both

## Design Notes

The relation on what is asked for ends where one of the command lines is refused: the program does
not come to what stands behind.
-/

namespace SchemaMigration

open Text

/-! ## Requests -/

namespace Request

/-- Requests that are the same but for passwords, as far as they are understood. -/
inductive SameButPasswords (rule : HyphenRule) : List Request → List Request → Prop
  | nil : SameButPasswords rule [] []
  | request (request : Request) {requests others : List Request}
      (h : SameButPasswords rule requests others) :
      SameButPasswords rule (request :: requests) (request :: others)
  | password (side : Option Side) {p q : Text} {requests others : List Request}
      (hp : rule.IsPassword p) (hq : rule.IsPassword q)
      (h : SameButPasswords rule requests others) :
      SameButPasswords rule (.settings [] (some (.connection .password side, p)) :: requests)
        (.settings [] (some (.connection .password side, q)) :: others)
  /-- One of the command lines is refused here. -/
  | unclear {requests others : List Request}
      (h : requests = [.unclear] ∨ others = [.unclear]) : SameButPasswords rule requests others

/-- The setting of a password takes a value. -/
theorem lettersOfWord_password (side : Option Side) (value : Option Text) (isLetter : Bool) :
    lettersOfWord (.connection .password side) value isLetter
      = .ok ⟨[], some (.connection .password side, value)⟩ := rfl

/-! What words ask for, by what stands in front. -/

section

variable {setting last : Setting} {value : Option Text} {isLetter : Bool} {switches : List Setting}
  {given : Text} {words : List Word}

theorem ofWords_separator (hargument : ∀ name rest, words ≠ .argument name :: rest)
    (hne : words ≠ []) : ofWords (.separator :: words) = ofWords words := by
  rw [ofWords]
  · exact hargument
  · exact hne

theorem ofWords_argument {name : Text} (h : ∀ rest, words ≠ .separator :: rest) :
    ofWords (.argument name :: words) = .schema (remains name) :: ofWords words := by
  rw [ofWords]
  exact h

theorem ofWords_switches (h : lettersOfWord setting value isLetter = .ok ⟨switches, none⟩) :
    ofWords (.setting setting value isLetter :: words)
      = .settings switches none :: ofWords words := by
  rw [ofWords.eq_def (.setting setting value isLetter :: words)]
  simp only [h]

theorem ofWords_joined
    (h : lettersOfWord setting value isLetter = .ok ⟨switches, some (last, some given)⟩) :
    ofWords (.setting setting value isLetter :: words)
      = .settings switches (some (last, given)) :: ofWords words := by
  rw [ofWords.eq_def (.setting setting value isLetter :: words)]
  simp only [h]

theorem ofWords_next
    (h : lettersOfWord setting value isLetter = .ok ⟨switches, some (last, none)⟩) :
    ofWords (.setting setting value isLetter :: .argument given :: words)
      = .settings switches (some (last, given)) :: ofWords words := by
  rw [ofWords.eq_def (.setting setting value isLetter :: .argument given :: words)]
  simp only [h]

theorem ofWords_missing
    (h : lettersOfWord setting value isLetter = .ok ⟨switches, some (last, none)⟩)
    (hargument : ∀ p rest, words ≠ .argument p :: rest) :
    ofWords (.setting setting value isLetter :: words) = [.unclear] := by
  rw [ofWords.eq_def]
  cases words with
  | nil => simp only [h]
  | cons word words =>
      cases word with
      | argument p => exact absurd rfl (hargument p words)
      | setting _ _ _ | stray | separator => simp only [h]

end

/-- Words that are the same but for passwords ask for the same but for passwords. -/
theorem sameButPasswords_ofWords {rule : HyphenRule} {words others : List Word}
    (h : Word.SameButPasswords rule words others) :
    SameButPasswords rule (ofWords words) (ofWords others) := by
  fun_induction ofWords words generalizing others with
  | case1 =>
      cases h
      exact .nil
  | case2 words ih =>
      cases h with
      | word _ h => exact .request _ (ih h)
  | case3 name words ih =>
      cases h with
      | word _ h =>
          cases h with
          | word _ h => exact .request _ (ih h)
  | case4 =>
      cases h with
      | word _ h =>
          cases h
          exact .request _ .nil
  | case5 words hargument hnil ih =>
      cases h with
      | @word _ _ others h =>
          rw [ofWords_separator]
          · exact ih h
          · intro name rest hothers
            obtain ⟨front, hfront⟩ := h.exists_argument hothers
            exact hargument name front hfront
          · exact fun hothers => hnil (h.eq_nil hothers)
  | case6 name words ih =>
      cases h with
      | word _ h =>
          cases h with
          | word _ h => exact .request _ (ih h)
  | case7 name words hseparator ih =>
      cases h with
      | @word _ _ others h =>
          rw [ofWords_argument]
          · exact .request _ (ih h)
          · intro rest hothers
            obtain ⟨front, hfront⟩ := h.exists_separator hothers
            exact hseparator front hfront
  | case8 _ _ _ _ _ _ => exact .unclear (.inl rfl)
  | case9 setting value isLetter switches words hletters ih =>
      cases h with
      | word _ h =>
          rw [ofWords_switches hletters]
          exact .request _ (ih h)
      | joined _ _ _ _ _ | next _ _ _ _ _ | missing _ _ _ => cases hletters
  | case10 setting value isLetter switches last given words hletters ih =>
      cases h with
      | word _ h =>
          rw [ofWords_joined hletters]
          exact .request _ (ih h)
      | joined side isLetter hp hq h =>
          cases hletters
          exact .password side hp hq (ih h)
      | next _ _ _ _ _ | missing _ _ _ => cases hletters
  | case11 setting value isLetter switches last given words hletters ih =>
      cases h with
      | word _ h =>
          cases h with
          | word _ h =>
              rw [ofWords_next hletters]
              exact .request _ (ih h)
      | joined _ _ _ _ _ => cases hletters
      | next side isLetter hp hq h =>
          cases hletters
          exact .password side hp hq (ih h)
      | missing side isLetter hmissing =>
          refine .unclear (.inr (ofWords_missing (lettersOfWord_password side none isLetter) ?_))
          exact hmissing.resolve_left fun hleft => hleft given words rfl
  | case12 _ _ _ _ _ _ _ _ => exact .unclear (.inl rfl)

end Request

/-! ## Preferences -/

namespace Preferences

variable {p q : Preferences}

/-- What holds both of a connection and of an alike one after a setting was given to each. -/
theorem sameResult_setConnection {c d : Connection} (h : c.SameButPassword d)
    (field : ConnectionField) (value : Option Text) :
    SameResult Connection.SameButPassword (setConnection c field value)
      (setConnection d field value) := by
  have hgives := h.givesPassword
  rw [← h.rest] at hgives ⊢
  cases field with
  | host | user | socket => exact .ok ⟨hgives, rfl⟩
  | password => exact .ok ⟨rfl, rfl⟩
  | port =>
      rw [setConnection, setConnection]
      cases value.mapM numberOf with
      | error refusal => exact .error refusal
      | ok number => exact .ok ⟨hgives, rfl⟩

theorem sameResult_switchOn (h : p.SameButPassword q) (setting : Setting) :
    SameResult SameButPassword (p.switchOn setting) (q.switchOn setting) := by
  rw [← h.rest]
  cases setting with
  | help | version | tableRe | config | connection _ _ | debug | debugFile | output =>
      exact .error _
  | tolerant | noOldDefs | onlyBoth | keepOldTables | listTables | refs | saveQuotes
  | canonicalise => exact .ok ⟨h.shared, h.ownFirst, h.ownSecond, rfl⟩

theorem sameResult_switchAllOn (h : p.SameButPassword q) (settings : List Setting) :
    SameResult SameButPassword (p.switchAllOn settings) (q.switchAllOn settings) := by
  rw [switchAllOn, switchAllOn]
  induction settings generalizing p q with
  | nil => exact .ok h
  | cons setting settings ih =>
      rw [List.foldlM_cons, List.foldlM_cons]
      exact (sameResult_switchOn h setting).bind fun _ _ hnext => ih hnext

theorem sameResult_assign (h : p.SameButPassword q) (setting : Setting) (value : Option Text) :
    SameResult SameButPassword (p.assign setting value) (q.assign setting value) := by
  have hfirst := h.ownFirst
  have hsecond := h.ownSecond
  have hshared := h.shared
  rw [← h.rest]
  cases setting with
  | tableRe | config | debugFile | output => exact .ok ⟨hshared, hfirst, hsecond, rfl⟩
  | debug =>
      rw [assign, assign]
      cases value.mapM numberOf with
      | error refusal => exact .error refusal
      | ok number => exact .ok ⟨hshared, hfirst, hsecond, rfl⟩
  | connection field side =>
      match side with
      | none =>
          exact (sameResult_setConnection hshared field value).bind fun _ _ hset =>
            .ok ⟨hset, hfirst, hsecond, rfl⟩
      | some .first =>
          exact (sameResult_setConnection hfirst field value).bind fun _ _ hset =>
            .ok ⟨hshared, hset, hsecond, rfl⟩
      | some .second =>
          exact (sameResult_setConnection hsecond field value).bind fun _ _ hset =>
            .ok ⟨hshared, hfirst, hset, rfl⟩
  | tolerant | noOldDefs | onlyBoth | keepOldTables | listTables | refs | saveQuotes
  | canonicalise | help | version => exact .error _

/-- The settings whose values were lost are the same, and stay so. -/
theorem sameButPassword_lost (h : p.SameButPassword q) (lost : List Setting) :
    SameButPassword { p with lost := lost } { q with lost := lost } :=
  ⟨h.shared, h.ownFirst, h.ownSecond, by rw [← h.rest]⟩

theorem sameResult_set {rule : HyphenRule} (h : p.SameButPassword q) (setting : Setting)
    (value : Text) :
    SameResult SameButPassword (p.set rule setting value) (q.set rule setting value) := by
  have hlost : p.lost = q.lost := by rw [← h.rest]
  rw [set, set, hlost]
  split
  · exact sameResult_assign (sameButPassword_lost h _) setting none
  · exact sameResult_assign (sameButPassword_lost h _) setting (some value)

/-- Connections stay alike when each gets a password. -/
theorem sameButPassword_password {c d : Connection} (h : c.SameButPassword d) {first second : Text}
    (hfirst : first ≠ []) (hsecond : second ≠ []) :
    Connection.SameButPassword { c with password := some first }
      { d with password := some second } := by
  have hgives (c : Connection) {value : Text} (hvalue : value ≠ []) :
      Connection.givesPassword { c with password := some value } = true := by
    cases value with
    | nil => exact absurd rfl hvalue
    | cons => rfl
  constructor
  · rw [hgives c hfirst, hgives d hsecond]
  · rw [← h.rest]

theorem sameResult_set_password {rule : HyphenRule} (h : p.SameButPassword q) (side : Option Side)
    {first second : Text} (hfirst : rule.IsPassword first) (hsecond : rule.IsPassword second) :
    SameResult SameButPassword (p.set rule (.connection .password side) first)
      (q.set rule (.connection .password side) second) := by
  have hkept {value : Text} (hvalue : rule.IsPassword value) :
      ¬ (rule = .lost ∧ value = "--".toList) := by
    rintro ⟨rfl, rfl⟩
    exact hvalue.2.elim nofun (absurd rfl)
  rw [set, set, if_neg (hkept hfirst), if_neg (hkept hsecond)]
  have hrest := h.rest
  match side with
  | none =>
      refine .ok ⟨sameButPassword_password h.shared hfirst.1 hsecond.1, h.ownFirst, h.ownSecond, ?_⟩
      rw [← hrest]
  | some .first =>
      refine .ok ⟨h.shared, sameButPassword_password h.ownFirst hfirst.1 hsecond.1, h.ownSecond, ?_⟩
      rw [← hrest]
  | some .second =>
      refine .ok ⟨h.shared, h.ownFirst, sameButPassword_password h.ownSecond hfirst.1 hsecond.1, ?_⟩
      rw [← hrest]

end Preferences

/-! ## Arguments -/

namespace Draft

/-- Drafts that are the same but for passwords. -/
structure SameButPassword (d e : Draft) : Prop where
  preferences : d.preferences.SameButPassword e.preferences
  rest : { d with preferences := e.preferences } = e

variable {rule : HyphenRule} {d e : Draft}

theorem sameResult_apply (rule : HyphenRule) (h : d.SameButPassword e) (switches : List Setting)
    {setting : Setting} {first second : Text} (hset : ∀ p q : Preferences, p.SameButPassword q →
      SameResult Preferences.SameButPassword (p.set rule setting first)
        (q.set rule setting second)) :
    SameResult SameButPassword (d.apply rule switches (some (setting, first)))
      (e.apply rule switches (some (setting, second))) := by
  refine (Preferences.sameResult_switchAllOn h.preferences switches).bind fun p q hswitched => ?_
  refine (hset p q hswitched).bind fun _ _ hpreferences => .ok ⟨hpreferences, ?_⟩
  rw [← h.rest]

/-- What is asked for alike is added alike. -/
theorem sameResult_add (rule : HyphenRule) (h : d.SameButPassword e) (request : Request) :
    SameResult SameButPassword (d.add rule request) (e.add rule request) := by
  have hrest := h.rest
  match request with
  | .unclear => exact .error _
  | .stray =>
      refine .ok ⟨h.preferences, ?_⟩
      rw [← hrest]
  | .schema name =>
      have hschemas : d.schemas = e.schemas := by rw [← hrest]
      rw [add, add, addSchema, addSchema, hschemas]
      split
      · refine .ok ⟨h.preferences, ?_⟩
        rw [← hrest]
      · refine .ok ⟨h.preferences, ?_⟩
        rw [← hrest]
  | .settings switches none =>
      refine (Preferences.sameResult_switchAllOn h.preferences switches).bind fun _ _ hswitched =>
        .ok ⟨hswitched, ?_⟩
      rw [← hrest]
  | .settings switches (some (setting, value)) =>
      exact sameResult_apply rule h switches fun _ _ hswitched =>
        Preferences.sameResult_set hswitched setting value

/-- Requests that are the same but for passwords lead to drafts that are, unless one of the command
lines is refused. -/
theorem sameButPassword_of_foldlM {requests others : List Request}
    (hrequests : Request.SameButPasswords rule requests others) (h : d.SameButPassword e)
    {read found : Draft} (hread : requests.foldlM (add rule) d = .ok read)
    (hfound : others.foldlM (add rule) e = .ok found) : read.SameButPassword found := by
  induction hrequests generalizing d e with
  | nil =>
      obtain rfl := Except.ok.inj hread
      obtain rfl := Except.ok.inj hfound
      exact h
  | request request _ ih =>
      have hadd := sameResult_add rule h request
      rw [List.foldlM_cons] at hread hfound
      generalize d.add rule request = added, e.add rule request = other at hadd hread hfound
      cases hadd with
      | error refusal => cases hread
      | ok hnext => exact ih hnext hread hfound
  | password side hp hq _ ih =>
      have hadd := sameResult_apply rule h [] fun _ _ hswitched =>
        Preferences.sameResult_set_password hswitched side hp hq
      rw [List.foldlM_cons, add] at hread hfound
      generalize d.apply rule _ _ = added at hadd hread
      generalize e.apply rule _ _ = other at hadd hfound
      cases hadd with
      | error refusal => cases hread
      | ok hnext => exact ih hnext hread hfound
  | unclear hunclear =>
      rcases hunclear with rfl | rfl
      · cases hread
      · cases hfound

end Draft

/-- What a command line says that is not refused. -/
theorem Arguments.ofWords_eq_ok {rule : HyphenRule} {texts : List Text} {a : Arguments}
    (h : ofWords rule texts = .ok a) : ∃ words draft, Word.ofTexts texts = .ok words ∧
      (Request.ofWords words).foldlM (Draft.add rule) ⟨[], .default, false⟩ = .ok draft ∧
      draft.schemas = [a.first, a.second] ∧ draft.preferences = a.preferences := by
  rw [ofWords] at h
  cases hwords : Word.ofTexts texts with
  | error refusal =>
      rw [hwords] at h
      cases h
  | ok words =>
      rw [hwords] at h
      change ((Request.ofWords words).foldlM (Draft.add rule) ⟨[], .default, false⟩).bind _ = _ at h
      cases hdraft : (Request.ofWords words).foldlM (Draft.add rule) ⟨[], .default, false⟩ with
      | error refusal =>
          rw [hdraft] at h
          cases h
      | ok draft =>
          rw [hdraft, Except.bind] at h
          split at h
          · rename_i hschemas _
            obtain rfl := Except.ok.inj h
            exact ⟨words, draft, rfl, hdraft, hschemas, rfl⟩
          · cases h

/-- Two command lines that are the same but for passwords say the same but for passwords. -/
theorem Arguments.sameButPassword_of_ofWords {rule : HyphenRule} {words others : List Text}
    (h : SameButPasswords rule words others) {a b : Arguments}
    (hwords : ofWords rule words = .ok a) (hothers : ofWords rule others = .ok b) :
    a.SameButPassword b := by
  obtain ⟨recognised, draft, hrecognised, hdraft, hschemas, hpreferences⟩ := ofWords_eq_ok hwords
  obtain ⟨found, other, hfound, hother, hotherSchemas, hotherPreferences⟩ := ofWords_eq_ok hothers
  have hrequests := Request.sameButPasswords_ofWords
    (Word.sameButPasswords_of_ofTexts h hrecognised hfound)
  have hstart : Draft.SameButPassword ⟨[], .default, false⟩ ⟨[], .default, false⟩ :=
    ⟨⟨.refl _, .refl _, .refl _, rfl⟩, rfl⟩
  obtain ⟨hsame, hrest⟩ := Draft.sameButPassword_of_foldlM hrequests hstart hdraft hother
  have hnames : [a.first, a.second] = [b.first, b.second] := by
    rw [← hschemas, ← hotherSchemas, ← hrest]
  simp only [List.cons.injEq, and_true] at hnames
  refine ⟨hpreferences ▸ hotherPreferences ▸ hsame, ?_⟩
  rw [hnames.1, hnames.2]

namespace Program

/-- Whatever the program builds on, two command lines that are not refused and are the same but for
passwords end alike, write alike, and leave the same session but for what the client tools were
given. -/
theorem mainOn_of_sameButPasswords (platform : Platform) {words others : List Text}
    {a b : Arguments} (h : SameButPasswords platform.hyphens words others)
    (hwords : Arguments.ofWords platform.hyphens words = .ok a)
    (hothers : Arguments.ofWords platform.hyphens others = .ok b) (session : Session) :
    let ran := (mainOn platform words).run session
    let ranOther := (mainOn platform others).run session
    ran.1 = ranOther.1 ∧ ran.2.shownNotes = ranOther.2.shownNotes ∧
      ran.2.files = ranOther.2.files ∧ ran.2.SameButPassword ranOther.2 := by
  have hsame := Arguments.sameButPassword_of_ofWords h hwords hothers
  obtain ⟨hending, hlast⟩ :=
    parallel_mainOn platform hwords hothers hsame session session (.refl session)
  exact ⟨hending, hlast.shownNotes, hlast.files, hlast⟩

/-- A command line that compares two databases, with a password for both of them in a word of its
own and one for the first of them behind an equals sign. -/
def passwordWords (both first : Text) : List Text :=
  ["db:old", passwordName none, both, "db:new", passwordName (some .first) ++ "=" ++ first]

/-- What such a command line says. -/
def passwordArguments (both first : Text) : Arguments where
  first := some "db:old"
  second := some "db:new"
  preferences := { Preferences.default with
    shared := { Connection.none with password := some both }
    ownFirst := { Connection.none with password := some first } }

/-- Two hyphens are as good a password as any, where the reader of command lines keeps them. -/
theorem mainOn_passwordWords :
    let platform : Platform := ⟨.kept, Configuration.ofYaml⟩
    let words := passwordWords "secret" "--"
    let others := passwordWords "-1" "other"
    Arguments.ofWords .kept words = .ok (passwordArguments "secret" "--") ∧
      let ran := (mainOn platform words).run (.start ⟨[], 0, 0, 0, 0⟩ .empty [])
      let ranOther := (mainOn platform others).run (.start ⟨[], 0, 0, 0, 0⟩ .empty [])
      ran.1 = ranOther.1 ∧ ran.2.shownNotes = ranOther.2.shownNotes ∧
        ran.2.files = ranOther.2.files ∧ ran.2.SameButPassword ranOther.2 := by
  have hwords : Arguments.ofWords .kept (passwordWords "secret" "--")
      = .ok (passwordArguments "secret" "--") := by decide +kernel
  have hothers : Arguments.ofWords .kept (passwordWords "-1" "other")
      = .ok (passwordArguments "-1" "other") := by decide +kernel
  have hpassword (value : Text) (h : value ≠ []) : HyphenRule.kept.IsPassword value :=
    ⟨h, .inl rfl⟩
  have hsame : SameButPasswords .kept (passwordWords "secret" "--") (passwordWords "-1" "other") :=
    .word (by decide) (.next none (hpassword _ (by decide)) (hpassword _ (by decide))
      (.word (by decide) (.joined (some .first) (hpassword _ (by decide))
        (hpassword _ (by decide)) .nil)))
  exact ⟨hwords, mainOn_of_sameButPasswords ⟨.kept, Configuration.ofYaml⟩ hsame hwords hothers _⟩

end Program

end SchemaMigration
