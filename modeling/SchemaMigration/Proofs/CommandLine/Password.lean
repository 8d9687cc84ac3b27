import Mathlib.Data.List.Forall2
import SchemaMigration.CommandLine.Program
import SchemaMigration.Proofs.Source.Loading

/-!
# Passwords

A password is given to the client tools and shown nowhere. Arguments that are the same but for
passwords lead to the same end, notes and files; the client tools are run on the same commands but
for the arguments that give passwords.

## Main Definitions

* `Connection.SameButPassword`, `Arguments.SameButPassword` - the same settings but for passwords
* `Session.SameButPassword` - the same course of a session but for passwords given to client tools
* `Parallel`, `ParallelExcept` - parts of a session that keep two sessions alike
* `Program.parallel_mainOn` - nothing but those arguments depends on a password

## Design Notes

A password that is empty is as good as none, since the settings of one side count before those of
both only where they are given. So two connections are alike if both give a password or none does.

The two runs are told side by side, step by step, as the parts of the program are built from each
other. Only a source keeps a connection, so it is the only value of a step that may differ.
-/

namespace SchemaMigration

open Text

/-! ## Settings that are the same but for passwords -/

namespace Connection

/-- Whether a password is given that is not empty. -/
def givesPassword (connection : Connection) : Bool := (connection.text? .password).isSome

/-- The same settings but for the password, which both give or neither. -/
structure SameButPassword (c d : Connection) : Prop where
  givesPassword : c.givesPassword = d.givesPassword
  rest : { c with password := d.password } = d

/-- The same setting with its text, or two passwords. -/
def SameSetting (a b : ConnectionField × Text) : Prop :=
  a = b ∨ ∃ p q : Text, p ≠ [] ∧ q ≠ [] ∧ a = (.password, p) ∧ b = (.password, q)

/-- The same argument of a client tool, or two that give a password. -/
def SameArgument (a b : Text) : Prop :=
  a = b ∨ ∃ p q : Text, p ≠ [] ∧ q ≠ [] ∧
    a = "--password=".toList ++ p ∧ b = "--password=".toList ++ q

namespace SameButPassword

variable {c d own other : Connection}

theorem refl (c : Connection) : SameButPassword c c := ⟨rfl, rfl⟩

theorem text?_eq (h : SameButPassword c d) {field : ConnectionField} (hfield : field ≠ .password) :
    c.text? field = d.text? field := by
  rw [← h.rest]
  cases field with
  | password => exact absurd rfl hfield
  | host | port | user | socket => rfl

/-- A password that is given is given by a text that is not empty. -/
theorem text?_password (h : SameButPassword c d) :
    c.text? .password = .none ∧ d.text? .password = .none ∨
      ∃ p q : Text, p ≠ [] ∧ q ≠ [] ∧
        c.text? .password = some p ∧ d.text? .password = some q := by
  have hgiven : (c.text? .password).isSome = (d.text? .password).isSome := h.givesPassword
  cases hc : c.text? .password with
  | none => exact .inl ⟨rfl, by simpa [hc] using hgiven.symm⟩
  | some p =>
      obtain ⟨q, hq⟩ := Option.isSome_iff_exists.mp (by rw [← hgiven, hc]; rfl)
      refine .inr ⟨p, q, ?_, ?_, rfl, hq⟩
      · simpa using (Option.filter_eq_some_iff.mp hc).2
      · simpa using (Option.filter_eq_some_iff.mp hq).2

/-- Alike connections give the same settings but for the text of the password. -/
theorem given (h : SameButPassword c d) : List.Forall₂ SameSetting c.given d.given := by
  rw [Connection.given, Connection.given]
  induction ConnectionField.all with
  | nil => exact .nil
  | cons field fields ih =>
      by_cases hfield : field = .password
      · subst hfield
        rcases h.text?_password with ⟨hc, hd⟩ | ⟨p, q, hp, hq, hc, hd⟩
        · simpa [hc, hd] using ih
        · simpa [hc, hd, SameSetting, hp, hq] using ih
      · rw [List.filterMap_cons, List.filterMap_cons, h.text?_eq hfield]
        cases d.text? field with
        | none => exact ih
        | some text => exact .cons (.inl rfl) ih

theorem isSet (h : SameButPassword c d) : c.isSet = d.isSet := by
  have hgiven := h.given
  rw [Connection.isSet, Connection.isSet]
  generalize c.given = left, d.given = right at hgiven ⊢
  cases hgiven with
  | nil => rfl
  | cons => rfl

theorem arguments (h : SameButPassword c d) :
    List.Forall₂ SameArgument c.arguments d.arguments := by
  rw [Connection.arguments, Connection.arguments, List.forall₂_map_left_iff,
    List.forall₂_map_right_iff]
  refine h.given.imp ?_
  rintro _ _ (rfl | ⟨p, q, hp, hq, rfl, rfl⟩)
  · exact .inl rfl
  · exact .inr ⟨p, q, hp, hq, rfl, rfl⟩

/-- No report shows the password. -/
theorem summary (h : SameButPassword c d) : c.summary = d.summary := by
  have hgiven := h.given
  rw [Connection.summary, Connection.summary]
  generalize c.given = left, d.given = right at hgiven ⊢
  suffices hshown : left.filter (·.1 != .password) = right.filter (·.1 != .password) by
    rw [hshown]
  induction hgiven with
  | nil => rfl
  | cons hhead _ ih =>
      rcases hhead with rfl | ⟨p, q, -, -, rfl, rfl⟩
      · rw [List.filter_cons, List.filter_cons, ih]
      · simpa using ih

/-- The settings of one side count before those of both sides, whatever the passwords are. -/
theorem merged (h : SameButPassword c d) (hown : SameButPassword own other) :
    SameButPassword (c.merged own) (d.merged other) := by
  have hgives (c own : Connection) :
      (c.merged own).givesPassword = (own.givesPassword || c.givesPassword) := by
    simp only [Connection.givesPassword, Connection.text?, Connection.merged]
    cases hgiven : own.password.filter (! ·.isEmpty) with
    | none => simp
    | some p => simpa using (Option.filter_eq_some_iff.mp hgiven).2
  constructor
  · rw [hgives, hgives, h.givesPassword, hown.givesPassword]
  · rw [← h.rest, ← hown.rest]
    rfl

end SameButPassword

end Connection

/-! ## Sessions that are the same but for passwords -/

/-- The same run of a client tool but for arguments that give a password. -/
structure Run.SameButPassword (a b : Run) : Prop where
  input : a.input = b.input
  command : List.Forall₂ Connection.SameArgument a.command b.command

theorem Run.SameButPassword.refl (run : Run) : run.SameButPassword run :=
  ⟨rfl, List.forall₂_same.mpr fun _ _ => .inl rfl⟩

/-- The same course of a session but for passwords given to client tools. -/
structure Session.SameButPassword (s t : Session) : Prop where
  runs : List.Forall₂ Run.SameButPassword s.runs t.runs
  rest : { s with runs := t.runs } = t

namespace Session.SameButPassword

variable {s t : Session}

theorem refl (s : Session) : s.SameButPassword s :=
  ⟨List.forall₂_same.mpr fun run _ => .refl run, rfl⟩

theorem circumstances (h : s.SameButPassword t) : s.circumstances = t.circumstances := by
  rw [← h.rest]

theorem files (h : s.SameButPassword t) : s.files = t.files := by
  rw [← h.rest]

theorem outcomes (h : s.SameButPassword t) : s.outcomes = t.outcomes := by
  rw [← h.rest]

/-- The notes that are shown do not depend on passwords. -/
theorem shownNotes (h : s.SameButPassword t) : s.shownNotes = t.shownNotes := by
  rw [← h.rest]
  rfl

end Session.SameButPassword

/-! ## Parts of a session side by side -/

section

variable {α β γ δ ε : Type} {R : α → β → Prop} {Q : γ → δ → Prop}

/-- From two sessions that are the same but for passwords, two parts lead to such sessions, and to
values that are related. -/
def Parallel (R : α → β → Prop) (x : Interaction α) (y : Interaction β) : Prop :=
  ∀ s t : Session, s.SameButPassword t →
    R (x.run s).1 (y.run t).1 ∧ (x.run s).2.SameButPassword (y.run t).2

namespace Parallel

theorem mono {P : α → β → Prop} {x : Interaction α} {y : Interaction β} (h : Parallel R x y)
    (hmono : ∀ a b, R a b → P a b) : Parallel P x y :=
  fun s t hsame => ⟨hmono _ _ (h s t hsame).1, (h s t hsame).2⟩

theorem pure {a : α} {b : β} (h : R a b) :
    Parallel R (Pure.pure a : Interaction α) (Pure.pure b : Interaction β) :=
  fun _ _ hsame => ⟨h, hsame⟩

theorem bind {x : Interaction α} {y : Interaction β} {f : α → Interaction γ}
    {g : β → Interaction δ} (h : Parallel R x y) (hnext : ∀ a b, R a b → Parallel Q (f a) (g b)) :
    Parallel Q (x >>= f) (y >>= g) := by
  intro s t hsame
  obtain ⟨hvalue, hlast⟩ := h s t hsame
  exact hnext _ _ hvalue _ _ hlast

theorem get : Parallel Session.SameButPassword (MonadState.get : Interaction Session)
    (MonadState.get : Interaction Session) :=
  fun _ _ hsame => ⟨hsame, hsame⟩

theorem set {s t : Session} (h : s.SameButPassword t) :
    Parallel Eq (MonadStateOf.set s : Interaction PUnit) (MonadStateOf.set t) :=
  fun _ _ _ => ⟨rfl, h⟩

theorem note (note : Note) : Parallel Eq (Session.note note) (Session.note note) := by
  intro s t hsame
  refine ⟨rfl, hsame.runs, ?_⟩
  rw [← hsame.rest]
  rfl

theorem notes (journal : Journal) :
    Parallel Eq (Session.notes journal) (Session.notes journal) := by
  induction journal with
  | nil => exact .pure rfl
  | cons first journal ih => exact (note first).bind fun _ _ _ => ih

/-- A client tool answers alike to commands that are the same but for passwords. -/
theorem run {a b : Run} (h : a.SameButPassword b) :
    Parallel Eq (Session.run a) (Session.run b) := by
  intro s t hsame
  refine ⟨?_, ?_, ?_⟩
  · change s.outcomes.headD .missing = t.outcomes.headD .missing
    rw [hsame.outcomes]
  · exact List.rel_append hsame.runs (.cons h .nil)
  · rw [← hsame.rest]
    rfl

end Parallel

/-- Results that are the same error, or related values. -/
inductive SameResult (R : α → β → Prop) : Except ε α → Except ε β → Prop
  | error (e : ε) : SameResult R (.error e) (.error e)
  | ok {a : α} {b : β} (h : R a b) : SameResult R (.ok a) (.ok b)

theorem SameResult.bind {x : Except ε α} {y : Except ε β} {f : α → Except ε γ}
    {g : β → Except ε δ} (h : SameResult R x y) (hnext : ∀ a b, R a b → SameResult Q (f a) (g b)) :
    SameResult Q (x >>= f) (y >>= g) := by
  cases h with
  | error e => exact .error e
  | ok hvalue => exact hnext _ _ hvalue

/-- Two parts that may fail, of which both fail with one error or none does. -/
def ParallelExcept (R : α → β → Prop) (x : ExceptT ε Interaction α)
    (y : ExceptT ε Interaction β) : Prop :=
  Parallel (SameResult R) x.run y.run

namespace ParallelExcept

theorem pure {a : α} {b : β} (h : R a b) :
    ParallelExcept R (Pure.pure a : ExceptT ε Interaction α) (Pure.pure b) :=
  Parallel.pure (.ok h)

theorem throw (e : ε) :
    ParallelExcept R (MonadExcept.throw e : ExceptT ε Interaction α) (MonadExcept.throw e) :=
  Parallel.pure (.error e)

theorem bind {x : ExceptT ε Interaction α} {y : ExceptT ε Interaction β}
    {f : α → ExceptT ε Interaction γ} {g : β → ExceptT ε Interaction δ}
    (h : ParallelExcept R x y) (hnext : ∀ a b, R a b → ParallelExcept Q (f a) (g b)) :
    ParallelExcept Q (x >>= f) (y >>= g) := by
  rw [ParallelExcept, ExceptT.run_bind, ExceptT.run_bind]
  refine Parallel.bind h ?_
  rintro _ _ (e | hvalue)
  · exact .pure (.error e)
  · exact hnext _ _ hvalue

/-- What cannot fail goes on alike. -/
theorem lift {x : Interaction α} {y : Interaction β} (h : Parallel R x y) :
    ParallelExcept R (ExceptT.lift x : ExceptT ε Interaction α) (ExceptT.lift y) :=
  Parallel.bind h fun _ _ hvalue => .pure (.ok hvalue)

theorem get : ParallelExcept Session.SameButPassword
    (ExceptT.lift (MonadState.get : Interaction Session) : ExceptT ε Interaction Session)
    (ExceptT.lift MonadState.get) :=
  lift .get

end ParallelExcept

end

/-! ## Client tools -/

namespace Client

/-- No note shows a password. -/
theorem shownCommand_eq {a b : List Text} (h : List.Forall₂ Connection.SameArgument a b) :
    shownCommand a = shownCommand b := by
  rw [shownCommand, shownCommand]
  congr 1
  induction h with
  | nil => rfl
  | cons hhead _ ih =>
      rcases hhead with rfl | ⟨p, q, -, -, rfl, rfl⟩
      · rw [List.map_cons, List.map_cons, ih]
      · have hgives (p : Text) : startsWith "--password=".toList ("--password=".toList ++ p) :=
          List.isPrefixOf_iff_prefix.mpr (List.prefix_append _ p)
        simp only [List.map_cons, if_pos (hgives _), ih]

theorem parallel_output (program : Text) {a b : List Text} (input : Option Text)
    (h : List.Forall₂ Connection.SameArgument a b) :
    ParallelExcept Eq (output program a input) (output program b input) := by
  have hcommand : List.Forall₂ Connection.SameArgument (program :: a) (program :: b) :=
    .cons (.inl rfl) h
  have hrun : Run.SameButPassword ⟨program :: a, input⟩ ⟨program :: b, input⟩ := ⟨rfl, hcommand⟩
  rw [output, output, shownCommand_eq hcommand]
  refine (ParallelExcept.lift (.note _)).bind fun _ _ _ => ?_
  refine (ParallelExcept.lift (.run hrun)).bind fun outcome _ houtcome => ?_
  subst houtcome
  cases outcome with
  | missing | undecodable _ _ => exact .throw _
  | finished status output errors =>
      simp only
      split
      · exact .pure rfl
      · exact .throw _

variable {c d : Connection}

theorem parallel_databases (h : c.SameButPassword d) :
    ParallelExcept Eq (databases c) (databases d) :=
  (parallel_output _ _ h.arguments).bind fun _ _ hlisting => hlisting ▸ .pure rfl

theorem parallel_dump (name : Text) (h : c.SameButPassword d) :
    ParallelExcept Eq (dump name c) (dump name d) := by
  have harguments : List.Forall₂ Connection.SameArgument
      (dumpArguments ++ c.arguments ++ [name]) (dumpArguments ++ d.arguments ++ [name]) :=
    List.rel_append (List.rel_append (List.forall₂_same.mpr fun _ _ => .inl rfl) h.arguments)
      (.cons (.inl rfl) .nil)
  refine (parallel_output _ _ harguments).bind fun text _ htext => ?_
  subst htext
  simp only
  split
  · exact .throw _
  · refine ParallelExcept.get.bind fun s t hsame => ?_
    rw [hsame.circumstances]
    exact (ParallelExcept.lift (.note _)).bind fun _ _ _ => .pure rfl

end Client

/-! ## Sources -/

section

variable {c d : Connection}

theorem parallel_execute (database : List Text) (sql : Text) (h : c.SameButPassword d) :
    ParallelExcept Eq (execute c database sql) (execute d database sql) := by
  have harguments : List.Forall₂ Connection.SameArgument
      (c.arguments ++ database) (d.arguments ++ database) :=
    List.rel_append h.arguments (List.forall₂_same.mpr fun _ _ => .inl rfl)
  exact (Client.parallel_output _ _ harguments).bind fun _ _ _ => .pure rfl

namespace ParallelExcept

variable {α ε : Type}

theorem note (note : Note) : ParallelExcept Eq (Loading.note note) (Loading.note note) :=
  lift (.note note)

theorem ofExcept (describe : ε → SourceError) (result : Except ε α) :
    ParallelExcept Eq (Loading.ofExcept describe result) (Loading.ofExcept describe result) := by
  cases result with
  | error e => exact throw _
  | ok value => exact pure rfl

/-- What two parts came to is the same, be it an error. -/
theorem outcome {x y : Loading α} (h : ParallelExcept Eq x y) :
    ParallelExcept Eq (Loading.outcome x) (Loading.outcome y) := by
  refine lift (Parallel.mono h ?_)
  rintro _ _ (e | rfl)
  · rfl
  · rfl

theorem ensuring {x y : Loading α} {closing ending : Loading Unit} (h : ParallelExcept Eq x y)
    (hclosing : ParallelExcept Eq closing ending) :
    ParallelExcept Eq (Loading.ensuring x closing) (Loading.ensuring y ending) := by
  refine h.outcome.bind fun result _ hresult => hclosing.bind fun _ _ _ => ?_
  subst hresult
  exact ofExcept id result

/-- A file is read alike. -/
theorem fileText (path : Path) :
    ParallelExcept Eq (Loading.fileText path) (Loading.fileText path) := by
  refine get.bind fun s t hsame => ?_
  rw [hsame.files]
  refine (ofExcept .file _).bind fun octets _ hoctets => ?_
  subst hoctets
  exact ofExcept .encoding _

end ParallelExcept

theorem parallel_dumpScratch (name : Text) (h : c.SameButPassword d) :
    ParallelExcept Eq (dumpScratch name c) (dumpScratch name d) := by
  refine (Client.parallel_dump name h).outcome.bind fun result _ hresult => ?_
  subst hresult
  match result with
  | .ok text => exact .pure rfl
  | .error (.tool error) => exact .throw _
  | .error (.file _) | .error (.encoding _) | .error (.schema _) | .error (.dangerous _ _)
  | .error (.unknown _ _) => exact .throw _

theorem parallel_dumpOfScript (name script : Text) (h : c.SameButPassword d) :
    ParallelExcept Eq (dumpOfScript name script c) (dumpOfScript name script d) :=
  (parallel_execute [name] script h).bind fun _ _ _ => parallel_dumpScratch name h

theorem parallel_dropScratch (name : Text) (h : c.SameButPassword d) :
    ParallelExcept Eq (dropScratch name c) (dropScratch name d) :=
  (ParallelExcept.note _).bind fun _ _ _ => parallel_execute [] _ h

theorem parallel_canonicalise (path : Path) (h : c.SameButPassword d) :
    ParallelExcept Eq (canonicalise path c) (canonicalise path d) := by
  refine (ParallelExcept.fileText path).bind fun script _ hscript => ?_
  subst hscript
  cases dangerousCommand? script with
  | some command => exact .throw _
  | none =>
      refine ParallelExcept.get.bind fun s t hsame => ?_
      rw [hsame.circumstances]
      refine (ParallelExcept.note _).bind fun _ _ _ => ?_
      refine (parallel_execute [] _ h).bind fun _ _ _ => ?_
      exact (parallel_dumpOfScript _ script h).ensuring (parallel_dropScratch _ h)

/-- The same source but for the password of its connection. -/
structure Source.SameButPassword (a b : Source) : Prop where
  connection : a.connection.SameButPassword b.connection
  rest : { a with connection := b.connection } = b

theorem Source.parallel_ofArgument (argument : Text) (hasOwnConnection : Bool)
    (h : c.SameButPassword d) :
    ParallelExcept Source.SameButPassword (Source.ofArgument argument c hasOwnConnection)
      (Source.ofArgument argument d hasOwnConnection) := by
  rw [Source.ofArgument, Source.ofArgument]
  split
  · exact .pure ⟨h, rfl⟩
  · split
    · exact .pure ⟨h, rfl⟩
    · refine ParallelExcept.get.bind fun s t hsame => ?_
      rw [hsame.files]
      refine (ParallelExcept.ofExcept .file _).bind fun isFile _ hfile => ?_
      subst hfile
      split
      · exact .pure ⟨h, rfl⟩
      · refine (Client.parallel_databases h).outcome.bind fun names _ hnames => ?_
        subst hnames
        match names with
        | .ok names =>
            simp only
            split
            · exact .pure ⟨h, rfl⟩
            · exact .throw _
        | .error (.tool error) => exact .throw _
        | .error (.file _) | .error (.encoding _) | .error (.schema _) | .error (.dangerous _ _)
        | .error (.unknown _ _) => exact .throw _

theorem Source.parallel_text {a b : Source} (inCanonicalForm : Bool) (h : a.SameButPassword b) :
    ParallelExcept Eq (a.text inCanonicalForm) (b.text inCanonicalForm) := by
  rw [← h.rest, Source.text, Source.text]
  cases a.kind with
  | database => exact Client.parallel_dump _ h.connection
  | file =>
      simp only
      split
      · exact parallel_canonicalise _ h.connection
      · exact .fileText _

/-- The summary of a source does not show its password. -/
theorem Source.summary_eq {a b : Source} (h : a.SameButPassword b) : a.summary = b.summary := by
  rw [← h.rest, Source.summary, Source.summary, h.connection.summary]

theorem Source.parallel_schema {a b : Source} (options : Options) (inCanonicalForm : Bool)
    (h : a.SameButPassword b) :
    ParallelExcept Eq (a.schema options inCanonicalForm) (b.schema options inCanonicalForm) := by
  rw [Source.schema, Source.schema, Source.summary_eq h]
  refine (Source.parallel_text inCanonicalForm h).bind fun dump _ hdump => ?_
  subst hdump
  refine (ParallelExcept.lift (.notes _)).bind fun _ _ _ => ?_
  exact .ofExcept .schema _

end

/-! ## The program -/

/-- The same settings but for passwords. -/
structure Preferences.SameButPassword (p q : Preferences) : Prop where
  shared : p.shared.SameButPassword q.shared
  ownFirst : p.ownFirst.SameButPassword q.ownFirst
  ownSecond : p.ownSecond.SameButPassword q.ownSecond
  rest : { p with shared := q.shared, ownFirst := q.ownFirst, ownSecond := q.ownSecond } = q

/-- The same schemas, and the same settings but for passwords. -/
structure Arguments.SameButPassword (a b : Arguments) : Prop where
  preferences : a.preferences.SameButPassword b.preferences
  rest : { a with preferences := b.preferences } = b

namespace Program

variable {p q : Preferences}

/-- Behind a crash nothing happens. -/
theorem parallel_crash_bind {α β γ δ : Type} {R : γ → δ → Prop} (fault : Crash)
    (f : α → Program γ) (g : β → Program δ) :
    ParallelExcept R (crash fault >>= f) (crash fault >>= g) :=
  ParallelExcept.throw (Ending.crashed fault)

theorem parallel_openLog (h : p.SameButPassword q) :
    ParallelExcept Eq (openLog p) (openLog q) := by
  have hlog : openLog p = openLog q := by
    rw [← h.rest]
    rfl
  rw [hlog, openLog]
  split
  · exact parallel_crash_bind _ _ _
  refine ParallelExcept.get.bind fun s t hsame => ?_
  cases q.debugFile.filter (! ·.isEmpty) with
  | none => exact .lift (.set ⟨hsame.runs, by rw [← hsame.rest]⟩)
  | some path =>
      simp only [hsame.files]
      cases t.files.locateLog (.ofText path) with
      | error fault => exact .throw _
      | ok names => exact .lift (.set ⟨hsame.runs, by rw [← hsame.rest]⟩)

theorem parallel_refuseOptions (error : OptionsError) :
    ParallelExcept (α := Options) Eq (refuseOptions error) (refuseOptions error) := by
  rw [refuseOptions]
  cases error.message? with
  | none => exact .throw _
  | some reason => exact .throw _

theorem parallel_optionsOfFile (platform : Platform) (path : Path) :
    ParallelExcept Eq (optionsOfFile platform path) (optionsOfFile platform path) := by
  refine ParallelExcept.get.bind fun s t hsame => ?_
  rw [hsame.files]
  cases t.files.read path with
  | error fault => exact .throw _
  | ok octets =>
      simp only
      cases ofFile octets with
      | error fault => exact .throw _
      | ok text =>
          simp only
          match Options.default.ofDocument platform.reader path.text text with
          | .ok options => exact .pure rfl
          | .error (.options error) => exact parallel_refuseOptions error
          | .error (.yaml fault) => cases fault <;> exact .throw _

theorem parallel_options (platform : Platform) (h : p.SameButPassword q) :
    ParallelExcept Eq (Program.options platform p) (Program.options platform q) := by
  have hoptions : Program.options platform p = Program.options platform q := by
    rw [← h.rest]
    rfl
  rw [hoptions, Program.options]
  cases q.config.filter (! ·.isEmpty)
  case' none => simp only [pure_bind]
  case' some path =>
    refine (parallel_optionsOfFile platform _).bind fun base _ hbase => ?_
    subst hbase
    simp only
  -- the settings of the command line are the same on top of either base
  all_goals
    split
    · exact parallel_crash_bind _ _ _
    generalize override _ q = overridden
    cases overridden with
    | ok options => exact .pure rfl
    | error error => exact parallel_refuseOptions error

theorem parallel_load {α : Type} {x y : Loading α} (h : ParallelExcept Eq x y) :
    ParallelExcept Eq (load x) (load y) := by
  rw [load, load]
  refine (ParallelExcept.lift h).bind fun result _ hresult => ?_
  rcases hresult with e | rfl
  · cases e <;> exact .throw _
  · exact .pure rfl

theorem parallel_schema (name : Option Text) {own other : Connection} (options : Options)
    (h : p.SameButPassword q) (hown : own.SameButPassword other) :
    ParallelExcept Eq (Program.schema name own p options)
      (Program.schema name other q options) := by
  cases name with
  | none => exact .throw _
  | some name =>
      have hcanonical : p.canonicalise = q.canonicalise := by rw [← h.rest]
      simp only [Program.schema, hown.isSet, hcanonical]
      refine parallel_load ?_
      exact (Source.parallel_ofArgument name _ (h.shared.merged hown)).bind
        fun a b hsource => Source.parallel_schema options _ hsource

theorem parallel_report (comparison : SchemaComparison) :
    ParallelExcept Eq (report comparison) (report comparison) := by
  refine (ParallelExcept.lift (.notes _)).bind fun _ _ _ => ?_
  cases Event.breakage? (Report.events comparison) with
  | some breakage => exact parallel_crash_bind _ _ _
  | none =>
      refine ParallelExcept.get.bind fun s t hsame => ?_
      rw [hsame.circumstances]
      exact .pure rfl

theorem parallel_deliver (report : Text) (file : Option Text) :
    ParallelExcept Eq (deliver report file) (deliver report file) := by
  rw [deliver]
  cases file.filter (! ·.isEmpty) with
  | none => exact .pure rfl
  | some path =>
      refine ParallelExcept.get.bind fun s t hsame => ?_
      rw [hsame.files]
      cases t.files.write (.ofText path) (toUtf8 report) with
      | error fault => exact .throw _
      | ok files =>
          have hset : Session.SameButPassword { s with files } { t with files } :=
            ⟨hsame.runs, by rw [← hsame.rest]⟩
          refine (ParallelExcept.lift (.set hset)).bind fun _ _ _ => ?_
          exact (ParallelExcept.lift (.note _)).bind fun _ _ _ => .pure rfl

theorem parallel_compare (platform : Platform) {a b : Arguments} (h : a.SameButPassword b) :
    ParallelExcept Eq (compare platform a) (compare platform b) := by
  have hpreferences := h.preferences
  have hfirst : a.first = b.first := by rw [← h.rest]
  have hsecond : a.second = b.second := by rw [← h.rest]
  have houtput : a.preferences.output = b.preferences.output := by rw [← hpreferences.rest]
  rw [compare, compare, hfirst, hsecond, houtput]
  refine (parallel_openLog hpreferences).bind fun _ _ _ => ?_
  refine (parallel_options platform hpreferences).bind fun options _ hoptions => ?_
  subst hoptions
  refine (parallel_schema _ options hpreferences hpreferences.ownFirst).bind fun old _ hold => ?_
  subst hold
  refine (parallel_schema _ options hpreferences hpreferences.ownSecond).bind fun new _ hnew => ?_
  subst hnew
  refine (parallel_report _).bind fun report _ hreport => ?_
  subst hreport
  exact parallel_deliver report _

/-- Two command lines that say the same but for passwords lead to the same end. -/
theorem parallel_mainOn (platform : Platform) {words others : List Text} {a b : Arguments}
    (hwords : Arguments.ofWords platform.hyphens words = .ok a)
    (hothers : Arguments.ofWords platform.hyphens others = .ok b) (h : a.SameButPassword b) :
    Parallel Eq (mainOn platform words) (mainOn platform others) := by
  rw [mainOn, mainOn, hwords, hothers]
  refine Parallel.bind (parallel_compare platform h) ?_
  rintro _ _ (ending | rfl)
  · exact .pure rfl
  · exact .pure rfl

end Program

end SchemaMigration
