import SchemaMigration.Proofs.Source.Loading
import SchemaMigration.Source.Scratch

/-!
# Cleaning up

A script that is not refused gets a scratch database. As long as what the client tools write is
text, that database is dropped again if it was created, by the last run there is; and a dump is
returned only if every run succeeds. Where it is no text, the error is none of a tool, and a
database that was created by then may stay.

## Main Definitions

* `Outcome.IsDecodable`, `Outcome.Succeeds` - the output of a run is text, and its status is zero
* `Outcome.result` - what the outcome of a run means
* `Comes` - what a part of a session comes to, and the runs that it takes on the way
* `ScratchCourse` - the ways in which the canonical form of a script is looked for
* `scratchCourse_of_canonicalise` - there are no other ways
* `CleansUp` - what those of them have in common in which all output is text
* `cleansUp_of_canonicalise` - when the scratch database is cleaned up

## Design Notes

The client tools answer in order, so a run is told together with its outcome. What notes are taken,
and what becomes of the files of the session, does not matter here.
-/

namespace SchemaMigration

open Text

/-! ## Outcomes -/

namespace Outcome

/-- What a program writes is text, if it runs at all. -/
def IsDecodable : Outcome → Prop
  | undecodable _ _ => False
  | _ => True

/-- A program runs and ends with the status zero. -/
def Succeeds : Outcome → Prop
  | missing => False
  | finished status _ _ | undecodable status _ => status = 0

instance : (outcome : Outcome) → Decidable outcome.Succeeds
  | missing => inferInstanceAs (Decidable False)
  | finished status _ _ => inferInstanceAs (Decidable (status = 0))
  | undecodable status _ => inferInstanceAs (Decidable (status = 0))

/-- What the run of a program comes to. -/
def result (program : Text) : Outcome → Except SourceError Text
  | missing => .error (.tool ⟨.missing program, []⟩)
  | finished status output errors =>
    if status = 0 then .ok (output ++ errors)
    else .error (.tool ⟨.failed program status, output ++ errors⟩)
  | undecodable _ fault => .error (.encoding fault)

/-- The text that a run writes if it succeeds. -/
def text? : Outcome → Option Text
  | finished status output errors => if status = 0 then some (output ++ errors) else none
  | _ => none

variable {outcome : Outcome}

theorem result_eq_ok (program : Text) {text : Text} :
    outcome.result program = .ok text ↔ outcome.text? = some text := by
  cases outcome with
  | missing | undecodable _ _ => simp [result, text?]
  | finished status output errors => by_cases h : status = 0 <;> simp [result, text?, h]

/-- A run that gives a text succeeds. -/
theorem succeeds_of_text? {text : Text} (h : outcome.text? = some text) : outcome.Succeeds := by
  cases outcome with
  | missing | undecodable _ _ => cases h
  | finished status output errors =>
      by_cases hstatus : status = 0
      · exact hstatus
      · rw [text?, if_neg hstatus] at h
        cases h

/-- A run gives no text because it fails, or because its output is none. -/
theorem result_eq_error {program : Text} {error : SourceError}
    (h : outcome.result program = .error error) :
    (¬ outcome.Succeeds ∧ ∃ failure, error = .tool failure) ∨
      ¬ outcome.IsDecodable ∧ ∃ fault, error = .encoding fault := by
  cases outcome with
  | missing => exact .inl ⟨id, _, (Except.error.inj h).symm⟩
  | undecodable status fault => exact .inr ⟨id, fault, (Except.error.inj h).symm⟩
  | finished status output errors =>
      by_cases hstatus : status = 0
      · rw [result, if_pos hstatus] at h
        cases h
      · rw [result, if_neg hstatus] at h
        exact .inl ⟨hstatus, _, (Except.error.inj h).symm⟩

end Outcome

namespace Loading

variable {α β : Type} {session mid last : Session}

/-! ## Steps of a session -/

/-- A part of a session comes to a result. The runs that it takes are told with their outcomes,
which are the next ones of the session. -/
structure Comes (part : Loading α) (session : Session) (taken : List (Run × Outcome))
    (result : Except SourceError α) (last : Session) : Prop where
  run : part.run.run session = (result, last)
  runs : last.runs = session.runs ++ taken.map (·.1)
  answers : ∀ k run outcome, taken[k]? = some (run, outcome) →
    outcome = session.outcomes.getD k .missing
  outcomes : last.outcomes = session.outcomes.drop taken.length

section

variable {part : Loading α} {taken more : List (Run × Outcome)}

/-- A part that runs no client tool. -/
theorem comes_of_run {result : Except SourceError α} (h : part.run.run session = (result, last))
    (hruns : last.runs = session.runs) (houtcomes : last.outcomes = session.outcomes) :
    Comes part session [] result last where
  run := h
  runs := by rw [hruns, List.map_nil, List.append_nil]
  answers := by simp
  outcomes := houtcomes

theorem comes_pure (value : α) (session : Session) :
    Comes (pure value) session [] (.ok value) session := comes_of_run rfl rfl rfl

theorem comes_throw (error : SourceError) (session : Session) :
    Comes (throw error : Loading α) session [] (.error error) session := comes_of_run rfl rfl rfl

theorem comes_get (session : Session) :
    Comes (liftM (get : Interaction Session) : Loading Session) session [] (.ok session) session :=
  comes_of_run rfl rfl rfl

theorem comes_note (note : Note) (session : Session) :
    Comes (Loading.note note) session [] (.ok ()) ((Session.note note).run session).2 :=
  comes_of_run (run_note note session) rfl rfl

theorem comes_ofExcept (result : Except SourceError α) (session : Session) :
    Comes (ofExcept id result) session [] result session := by
  cases result with
  | ok value => exact comes_pure value session
  | error error => exact comes_throw error session

/-- What a part comes to is a value for what asks for it. -/
theorem Comes.outcome {result : Except SourceError α} (h : Comes part session taken result last) :
    Comes (Loading.outcome part) session taken (.ok result) last where
  run := by
    rw [Loading.outcome, ExceptT.run_lift, StateT.run_map, h.run]
    rfl
  runs := h.runs
  answers := h.answers
  outcomes := h.outcomes

/-- A part behind another one that did not fail takes its runs behind those of the first. -/
theorem Comes.bind {next : α → Loading β} {value : α} {result : Except SourceError β}
    (h : Comes part session taken (.ok value) mid)
    (hnext : Comes (next value) mid more result last) :
    Comes (part >>= next) session (taken ++ more) result last where
  run := by rw [run_bind_ok h.run, hnext.run]
  runs := by rw [hnext.runs, h.runs, List.map_append, List.append_assoc]
  answers := by
    intro k run outcome hk
    by_cases hlt : k < taken.length
    · rw [List.getElem?_append_left hlt] at hk
      exact h.answers k run outcome hk
    · rw [List.getElem?_append_right (by omega)] at hk
      have hanswer := hnext.answers _ run outcome hk
      rw [h.outcomes, List.getD_eq_getElem?_getD, List.getElem?_drop] at hanswer
      rw [hanswer, List.getD_eq_getElem?_getD]
      congr 2
      omega
  outcomes := by rw [hnext.outcomes, h.outcomes, List.drop_drop, List.length_append]

theorem Comes.bind_quiet {next : α → Loading β} {value : α} {result : Except SourceError β}
    (h : Comes part session taken (.ok value) mid) (hnext : Comes (next value) mid [] result last) :
    Comes (part >>= next) session taken result last :=
  List.append_nil taken ▸ h.bind hnext

/-- A part behind one that failed does not happen. -/
theorem Comes.bind_error {error : SourceError} (h : Comes part session taken (.error error) last)
    (next : α → Loading β) : Comes (part >>= next) session taken (.error error) last where
  run := by
    rw [ExceptT.run_bind, StateT.run_bind, h.run]
    rfl
  runs := h.runs
  answers := h.answers
  outcomes := h.outcomes

/-- What happens in any case happens behind the part, and its error counts. -/
theorem Comes.ensuring {closing : Loading Unit} {result : Except SourceError α}
    {closed : Except SourceError Unit} (h : Comes part session taken result mid)
    (hclosing : Comes closing mid more closed last) :
    Comes (ensuring part closing) session (taken ++ more) (closed.bind fun _ => result) last := by
  refine h.outcome.bind ?_
  cases closed with
  | error error => exact hclosing.bind_error _
  | ok value => exact hclosing.bind_quiet (comes_ofExcept result last)

end

/-- If what the client tools will write is text, so is what they write on the way. -/
theorem Comes.isDecodable {part : Loading α} {taken : List (Run × Outcome)}
    {result : Except SourceError α} (h : Comes part session taken result last)
    (hdecodable : ∀ outcome ∈ session.outcomes, outcome.IsDecodable) :
    ∀ outcome ∈ taken.map (·.2), outcome.IsDecodable := by
  rw [List.forall_mem_map]
  rintro ⟨run, outcome⟩ hmem
  obtain ⟨k, hk⟩ := List.getElem?_of_mem hmem
  rw [h.answers k run outcome hk, List.getD_eq_getElem?_getD]
  cases houtcome : session.outcomes[k]? with
  | none => trivial
  | some outcome => exact hdecodable outcome (List.mem_of_getElem? houtcome)

/-- The run of a client tool takes the next outcome. -/
theorem comes_answer (run : Run) (session : Session) : ∃ outcome last,
    Comes (liftM (Session.run run) : Loading Outcome) session [(run, outcome)] (.ok outcome)
      last := by
  refine ⟨session.outcomes.headD .missing, _, rfl, rfl, ?_, List.drop_one.symm⟩
  rintro (_ | k) other outcome hk
  · obtain ⟨-, rfl⟩ := Prod.mk.inj (Option.some.inj hk)
    cases session.outcomes <;> rfl
  · cases hk

end Loading

open Loading

/-! ## Client tools -/

theorem Client.comes_output (program : Text) (arguments : List Text) (input : Option Text)
    (session : Session) : ∃ outcome last, Comes (Client.output program arguments input) session
      [(⟨program :: arguments, input⟩, outcome)] (outcome.result program) last := by
  obtain ⟨outcome, last, hanswer⟩ := comes_answer ⟨program :: arguments, input⟩
    ((Session.note (.debug ("running " ++ shownCommand (program :: arguments)))).run session).2
  refine ⟨outcome, last, (comes_note _ session).bind (hanswer.bind_quiet ?_)⟩
  cases outcome with
  | missing | undecodable _ _ => exact comes_throw _ last
  | finished status output errors =>
      by_cases hstatus : status = 0
      · simp only [if_pos hstatus, Outcome.result]
        exact comes_pure _ last
      · simp only [if_neg hstatus, Outcome.result]
        exact comes_throw _ last

/-- What the dump of a database comes to. -/
def Outcome.dump (name : Text) (outcome : Outcome) : Except SourceError Text :=
  (outcome.result "mysqldump").bind fun text =>
    if occursIn "Unknown database" text then .error (.tool ⟨.unknownDatabase name, text⟩)
    else .ok text

/-- The run that dumps a database. -/
def dumpRun (name : Text) (connection : Connection) : Run :=
  ⟨"mysqldump" :: (Client.dumpArguments ++ connection.arguments ++ [name]), none⟩

theorem Client.comes_dump (name : Text) (connection : Connection) (session : Session) :
    ∃ outcome last, Comes (Client.dump name connection) session
      [(dumpRun name connection, outcome)] (outcome.dump name) last := by
  obtain ⟨outcome, mid, houtput⟩ := Client.comes_output "mysqldump"
    (dumpArguments ++ connection.arguments ++ [name]) none session
  cases hresult : outcome.result "mysqldump" with
  | error error =>
      rw [hresult] at houtput
      refine ⟨outcome, mid, ?_⟩
      rw [Outcome.dump, hresult]
      exact houtput.bind_error _
  | ok text =>
      rw [hresult] at houtput
      by_cases hunknown : occursIn "Unknown database" text = true
      · have hdump : outcome.dump name = .error (.tool ⟨.unknownDatabase name, text⟩) := by
          rw [Outcome.dump, hresult]
          exact if_pos hunknown
        refine ⟨outcome, mid, ?_⟩
        rw [hdump]
        refine houtput.bind_quiet ?_
        simp only [if_pos hunknown]
        exact (comes_throw _ mid).bind_error _
      · have hdump : outcome.dump name = .ok text := by
          rw [Outcome.dump, hresult]
          exact if_neg hunknown
        let taking : Note := .debug ("dump of " ++ name ++ " took " ++
          hundredths mid.circumstances.dumpTime ++ "s")
        refine ⟨outcome, ((Session.note taking).run mid).2, ?_⟩
        rw [hdump]
        refine houtput.bind_quiet ?_
        simp only [if_neg hunknown]
        exact (comes_get mid).bind ((comes_note _ mid).bind (comes_pure text _))

/-! ## The runs for a script -/

/-- The statement that creates a database. -/
def createText (name : Text) : Text := "CREATE DATABASE \x60" ++ name ++ "\x60;\n"

/-- The statement that drops a database. -/
def dropText (name : Text) : Text := "DROP DATABASE \x60" ++ name ++ "\x60;\n"

/-- The run that hands SQL to the server, or to one database of it. -/
def executeRun (connection : Connection) (database : List Text) (sql : Text) : Run :=
  ⟨"mysql" :: (connection.arguments ++ database), some sql⟩

theorem comes_execute (connection : Connection) (database : List Text) (sql : Text)
    (session : Session) : ∃ outcome last, Comes (execute connection database sql) session
      [(executeRun connection database sql, outcome)]
      ((outcome.result "mysql").map fun _ => ()) last := by
  obtain ⟨outcome, last, houtput⟩ := Client.comes_output "mysql"
    (connection.arguments ++ database) (some sql) session
  refine ⟨outcome, last, ?_⟩
  cases hresult : outcome.result "mysql" with
  | error error =>
      rw [hresult] at houtput
      exact houtput.bind_error _
  | ok text =>
      rw [hresult] at houtput
      exact houtput.bind_quiet (comes_pure () last)

/-- An error as it is told of the scratch database of a name. -/
def SourceError.ofScratch (name : Text) : SourceError → SourceError
  | tool error => .tool ⟨.scratch name, error.output⟩
  | error => error

/-- What the dump of the scratch database of a name comes to. -/
def Outcome.scratchDump (name : Text) (outcome : Outcome) : Except SourceError Text :=
  (outcome.dump name).mapError (.ofScratch name)

theorem comes_dumpScratch (name : Text) (connection : Connection) (session : Session) :
    ∃ outcome last, Comes (dumpScratch name connection) session
      [(dumpRun name connection, outcome)] (outcome.scratchDump name) last := by
  obtain ⟨outcome, last, hdump⟩ := Client.comes_dump name connection session
  refine ⟨outcome, last, hdump.outcome.bind_quiet ?_⟩
  rw [Outcome.scratchDump]
  cases outcome.dump name with
  | error error => cases error <;> exact comes_throw _ last
  | ok text => exact comes_pure text last

theorem comes_dropScratch (name : Text) (connection : Connection) (session : Session) :
    ∃ outcome last, Comes (dropScratch name connection) session
      [(executeRun connection [] (dropText name), outcome)]
      ((outcome.result "mysql").map fun _ => ()) last := by
  obtain ⟨outcome, last, hexecute⟩ := comes_execute connection [] (dropText name)
    ((Session.note (.info ("dropping temporary database " ++ name))).run session).2
  exact ⟨outcome, last, (comes_note _ session).bind hexecute⟩

/-- Where only the error of a first result counts, its value may be left out. -/
theorem bind_map_unit {ε α β : Type} (first : Except ε α) (second : Except ε β) :
    ((first.map fun _ => ()).bind fun _ => second) = first.bind fun _ => second := by
  cases first <;> rfl

/-- The ways in which the canonical form of a script is looked for, with the runs and their
outcomes, and what they come to. If the script or the dump of the scratch database fails, its error
counts unless the database cannot be dropped again. -/
inductive ScratchCourse (name script : Text) (connection : Connection) :
    List (Run × Outcome) → Except SourceError Text → Prop
  | uncreated {created : Outcome} {error : SourceError}
      (hcreated : created.result "mysql" = .error error) :
      ScratchCourse name script connection [(executeRun connection [] (createText name), created)]
        (.error error)
  | unloaded {created loaded dropped : Outcome} {text : Text} {error : SourceError}
      (hcreated : created.result "mysql" = .ok text)
      (hloaded : loaded.result "mysql" = .error error) :
      ScratchCourse name script connection [(executeRun connection [] (createText name), created),
          (executeRun connection [name] script, loaded),
          (executeRun connection [] (dropText name), dropped)]
        ((dropped.result "mysql").bind fun _ => .error error)
  | loaded {created loaded dumped dropped : Outcome} {text other : Text}
      (hcreated : created.result "mysql" = .ok text)
      (hloaded : loaded.result "mysql" = .ok other) :
      ScratchCourse name script connection [(executeRun connection [] (createText name), created),
          (executeRun connection [name] script, loaded), (dumpRun name connection, dumped),
          (executeRun connection [] (dropText name), dropped)]
        ((dropped.result "mysql").bind fun _ => dumped.scratchDump name)

section

variable {session : Session} {path : Path} {octets : List Nat} {script : Text}

/-- A script that is not refused takes one of these ways. -/
theorem scratchCourse_of_canonicalise (hoctets : session.files.read path = .ok octets)
    (hscript : ofFile octets = .ok script) (hnone : dangerousCommand? script = none)
    (connection : Connection) : ∃ taken result last,
      Comes (canonicalise path connection) session taken result last ∧
        ScratchCourse (scratchName session.circumstances) script connection taken result := by
  have hfile : Comes (fileText path) session [] (.ok script) session :=
    comes_of_run (fileText_of_read hoctets hscript) rfl rfl
  let name := scratchName session.circumstances
  let noted := ((Session.note (.info ("creating temporary database " ++ name))).run session).2
  obtain ⟨created, mid, hcreate⟩ := comes_execute connection [] (createText name) noted
  -- what happens behind the first run
  let behind := ensuring (dumpOfScript name script connection) (dropScratch name connection)
  have hwhole {taken : List (Run × Outcome)} {result : Except SourceError Text} {last : Session}
      (h : Comes (execute connection [] (createText name) >>= fun _ => behind) noted taken result
        last) : Comes (canonicalise path connection) session taken result last := by
    refine hfile.bind ?_
    simp only [hnone]
    exact (comes_get session).bind ((comes_note _ session).bind h)
  cases hcreated : created.result "mysql" with
  | error error =>
      rw [hcreated] at hcreate
      exact ⟨_, _, mid, hwhole (hcreate.bind_error _), .uncreated hcreated⟩
  | ok text =>
      rw [hcreated] at hcreate
      obtain ⟨loaded, filled, hload⟩ := comes_execute connection [name] script mid
      cases hloaded : loaded.result "mysql" with
      | error error =>
          rw [hloaded] at hload
          obtain ⟨dropped, last, hdrop⟩ := comes_dropScratch name connection filled
          have hpart : Comes (dumpOfScript name script connection) mid _ _ filled :=
            hload.bind_error _
          refine ⟨_, _, last, hwhole (hcreate.bind (hpart.ensuring hdrop)), ?_⟩
          rw [bind_map_unit]
          exact .unloaded hcreated hloaded
      | ok other =>
          rw [hloaded] at hload
          obtain ⟨dumped, read, hdump⟩ := comes_dumpScratch name connection filled
          obtain ⟨dropped, last, hdrop⟩ := comes_dropScratch name connection read
          have hpart : Comes (dumpOfScript name script connection) mid _ _ read := hload.bind hdump
          refine ⟨_, _, last, hwhole (hcreate.bind (hpart.ensuring hdrop)), ?_⟩
          rw [bind_map_unit]
          exact .loaded hcreated hloaded

/-! ## What all ways have in common -/

/-- The runs that a script takes if nothing fails. -/
def scratchRuns (name script : Text) (connection : Connection) : List Run :=
  [executeRun connection [] (createText name), executeRun connection [name] script,
    dumpRun name connection, executeRun connection [] (dropText name)]

/-- A scratch database is cleaned up: the runs are some of those for its name in their order,
beginning with the one that creates it. If that one succeeds, there is one that drops the database,
and it is the last; otherwise there is none. A text is returned just if all runs succeed and the
dump does not tell of an unknown database; then it is what the dump wrote. Whatever else happens is
an error of a tool. -/
structure CleansUp (name script : Text) (connection : Connection) (taken : List (Run × Outcome))
    (result : Except SourceError Text) : Prop where
  order : (taken.map (·.1)).Sublist (scratchRuns name script connection)
  drops : ∃ created,
    taken.head? = some (executeRun connection [] (createText name), created) ∧
    taken.countP (fun (run, _) => run.input = some (dropText name)) =
      (if created.Succeeds then 1 else 0) ∧
    (created.Succeeds → ∃ dropped,
      taken.getLast? = some (executeRun connection [] (dropText name), dropped))
  returns : ∀ text, result = .ok text ↔ ∃ created loaded dumped dropped,
    taken = (scratchRuns name script connection).zip [created, loaded, dumped, dropped] ∧
    created.Succeeds ∧ loaded.Succeeds ∧ dropped.Succeeds ∧
    dumped.text? = some text ∧ occursIn "Unknown database" text = false
  fails : (∀ text, result ≠ .ok text) → ∃ error, result = .error (.tool error)

/-- A script that drops a database is refused. -/
theorem ne_dropText (hnone : dangerousCommand? script = none) (name : Text) :
    script ≠ dropText name := by
  rintro rfl
  have hcommand : (dangerousCommand? (dropText name)).isSome = true := rfl
  rw [hnone] at hcommand
  cases hcommand

theorem createText_ne_dropText (name : Text) : createText name ≠ dropText name := by
  intro h
  have hfirst : 'C' = 'D' := congrArg (fun text : Text => text.headD ' ') h
  cases hfirst

/-- Telling an error in other words does not make a text of it. -/
theorem mapError_eq_ok {ε δ α : Type} {tell : ε → δ} {result : Except ε α} {value : α} :
    result.mapError tell = .ok value ↔ result = .ok value := by
  cases result with
  | error error =>
      constructor
      · intro h
        cases h
      · intro h
        cases h
  | ok other =>
      constructor
      · intro h
        rw [Except.ok.inj h]
      · intro h
        rw [Except.ok.inj h]
        rfl

theorem Outcome.scratchDump_eq_ok {name text : Text} {outcome : Outcome} :
    outcome.scratchDump name = .ok text ↔
      outcome.text? = some text ∧ occursIn "Unknown database" text = false := by
  rw [scratchDump, mapError_eq_ok, dump, ← result_eq_ok "mysqldump"]
  cases outcome.result "mysqldump" with
  | error error => simp [Except.bind]
  | ok other =>
      simp only [Except.bind, Except.ok.injEq]
      constructor
      · intro h
        split at h
        · cases h
        · rename_i hknown
          obtain rfl := Except.ok.inj h
          exact ⟨rfl, by simpa using hknown⟩
      · rintro ⟨rfl, hknown⟩
        rw [if_neg (by rw [hknown]; decide)]

/-! ## Output that is no text -/

/-- A result as client tools have it whose output is text: a text, or the failure of a tool. -/
def IsText (result : Except SourceError Text) : Prop :=
  (∃ text, result = .ok text) ∨ ∃ error, result = .error (.tool error)

namespace Outcome

variable {outcome : Outcome}

/-- An outcome leads to a result: to the error of an encoding only if its output is no text. -/
def LeadsTo (outcome : Outcome) (result : Except SourceError Text) : Prop :=
  IsText result ∨ ¬ outcome.IsDecodable ∧ ∃ fault, result = .error (.encoding fault)

theorem leadsTo_of_result {program : Text} {error : SourceError}
    (h : outcome.result program = .error error) : outcome.LeadsTo (.error error) := by
  rcases result_eq_error h with ⟨-, failure, rfl⟩ | ⟨hgarbled, fault, rfl⟩
  · exact .inl (.inr ⟨failure, rfl⟩)
  · exact .inr ⟨hgarbled, fault, rfl⟩

theorem leadsTo_scratchDump (name : Text) (outcome : Outcome) :
    outcome.LeadsTo (outcome.scratchDump name) := by
  rw [scratchDump, dump]
  cases hresult : outcome.result "mysqldump" with
  | ok text =>
      rw [Except.bind]
      split
      · exact .inl (.inr ⟨_, rfl⟩)
      · exact .inl (.inl ⟨text, rfl⟩)
  | error error =>
      rcases result_eq_error hresult with ⟨-, failure, rfl⟩ | ⟨hgarbled, fault, rfl⟩
      · exact .inl (.inr ⟨_, rfl⟩)
      · exact .inr ⟨hgarbled, fault, rfl⟩

/-- A run fails that leads to the error of a tool. -/
theorem not_succeeds {program : Text} {error : SourceError}
    (h : outcome.result program = .error error) (htext : IsText (.error error)) :
    ¬ outcome.Succeeds := by
  rcases result_eq_error h with ⟨hfailed, -⟩ | ⟨-, fault, rfl⟩
  · exact hfailed
  · rcases htext with ⟨text, htext⟩ | ⟨failure, hfailure⟩
    · cases htext
    · cases hfailure

end Outcome

/-- Whatever the way, one of the outcomes leads to the result. -/
theorem ScratchCourse.exists_leadsTo {name : Text} {connection : Connection}
    {taken : List (Run × Outcome)} {result : Except SourceError Text}
    (h : ScratchCourse name script connection taken result) :
    ∃ outcome ∈ taken.map (·.2), outcome.LeadsTo result := by
  cases h with
  | @uncreated created error hcreated =>
      exact ⟨created, by simp, Outcome.leadsTo_of_result hcreated⟩
  | @unloaded created loaded dropped text error hcreated hloaded =>
      cases hdropped : dropped.result "mysql" with
      | error failure => exact ⟨dropped, by simp, Outcome.leadsTo_of_result hdropped⟩
      | ok other => exact ⟨loaded, by simp, Outcome.leadsTo_of_result hloaded⟩
  | @loaded created loaded dumped dropped text other hcreated hloaded =>
      cases hdropped : dropped.result "mysql" with
      | error failure => exact ⟨dropped, by simp, Outcome.leadsTo_of_result hdropped⟩
      | ok last => exact ⟨dumped, by simp, Outcome.leadsTo_scratchDump name dumped⟩

/-! ## Cleaning up -/

/-- What is made of a result when the database is dropped: it stays, unless that fails. -/
theorem dropped_eq_ok {dropped : Outcome} {result : Except SourceError Text} {text : Text}
    (h : IsText ((dropped.result "mysql").bind fun _ => result)) :
    ((dropped.result "mysql").bind fun _ => result) = .ok text ↔
      dropped.Succeeds ∧ result = .ok text := by
  cases hdropped : dropped.result "mysql" with
  | error error =>
      rw [hdropped] at h
      constructor
      · intro hok
        cases hok
      · rintro ⟨hsucceeds, -⟩
        exact absurd hsucceeds (Outcome.not_succeeds hdropped h)
  | ok other =>
      have hsucceeds := Outcome.succeeds_of_text? ((Outcome.result_eq_ok _).mp hdropped)
      exact ⟨fun hok => ⟨hsucceeds, hok⟩, And.right⟩

/-- Every way cleans up on which no encoding fails. -/
theorem ScratchCourse.cleansUp {name : Text} {connection : Connection}
    {taken : List (Run × Outcome)} {result : Except SourceError Text}
    (h : ScratchCourse name script connection taken result)
    (hnone : dangerousCommand? script = none) (htext : IsText result) :
    CleansUp name script connection taken result := by
  -- of the runs for a script only the last one drops the database
  have hcreate : ¬ (executeRun connection [] (createText name)).input = some (dropText name) :=
    fun heq => createText_ne_dropText name (Option.some.inj heq)
  have hload : ¬ (executeRun connection [name] script).input = some (dropText name) :=
    fun heq => ne_dropText hnone name (Option.some.inj heq)
  have hdump : ¬ (dumpRun name connection).input = some (dropText name) := by simp [dumpRun]
  have hdrop : (executeRun connection [] (dropText name)).input = some (dropText name) := rfl
  have hfails : (∀ text, result ≠ .ok text) → ∃ error, result = .error (.tool error) :=
    fun hnever => htext.resolve_left fun ⟨text, hok⟩ => hnever text hok
  cases h with
  | @uncreated created error hcreated =>
      have hfailed := Outcome.not_succeeds hcreated htext
      refine ⟨?_, ⟨created, rfl, ?_, ?_⟩, fun text => ?_, hfails⟩
      · exact .cons_cons _ (List.nil_sublist _)
      · simp [hcreate, hfailed]
      · exact fun hsucceeds => absurd hsucceeds hfailed
      · simp [scratchRuns]
  | @unloaded created loaded dropped text error hcreated hloaded =>
      have hsucceeds := Outcome.succeeds_of_text? ((Outcome.result_eq_ok _).mp hcreated)
      refine ⟨?_, ⟨created, rfl, ?_, ?_⟩, fun text => ?_, hfails⟩
      · exact .cons_cons _ (.cons_cons _ (.cons _ (.cons_cons _ .slnil)))
      · simp [hcreate, hload, hdrop, hsucceeds]
      · exact fun _ => ⟨dropped, rfl⟩
      · rw [dropped_eq_ok htext]
        simp [scratchRuns]
  | @loaded created loaded dumped dropped text other hcreated hloaded =>
      have hsucceeds := Outcome.succeeds_of_text? ((Outcome.result_eq_ok _).mp hcreated)
      have hloadedSucceeds := Outcome.succeeds_of_text? ((Outcome.result_eq_ok _).mp hloaded)
      refine ⟨List.Sublist.refl _, ⟨created, rfl, ?_, ?_⟩, fun text => ?_, hfails⟩
      · simp [hcreate, hload, hdump, hdrop, hsucceeds]
      · exact fun _ => ⟨dropped, rfl⟩
      · rw [dropped_eq_ok htext, Outcome.scratchDump_eq_ok]
        constructor
        · rintro ⟨hdropped, hdumped, hknown⟩
          exact ⟨created, loaded, dumped, dropped, rfl, hsucceeds, hloadedSucceeds, hdropped,
            hdumped, hknown⟩
        · rintro ⟨_, _, _, _, htaken, -, -, hdropped, hdumped, hknown⟩
          simp only [scratchRuns, List.zip_cons_cons, List.cons.injEq, Prod.mk.injEq, true_and,
            List.zip_nil_left, and_true] at htaken
          obtain ⟨rfl, rfl, rfl, rfl⟩ := htaken
          exact ⟨hdropped, hdumped, hknown⟩

/-- A script that is no text takes no run, and its error is none of a tool. As long as what the
client tools write is text, the scratch database of a script that is not refused is cleaned up
whatever they answer; in general it is just if no encoding fails in the end. -/
theorem cleansUp_of_canonicalise (hoctets : session.files.read path = .ok octets)
    (connection : Connection) :
    (∀ fault, ofFile octets = .error fault →
      Comes (canonicalise path connection) session [] (.error (.encoding fault)) session) ∧
    ∀ script, ofFile octets = .ok script → dangerousCommand? script = none →
      ∃ taken result last, Comes (canonicalise path connection) session taken result last ∧
        ((∀ outcome ∈ taken.map (·.2), outcome.IsDecodable) →
          CleansUp (scratchName session.circumstances) script connection taken result) ∧
        (CleansUp (scratchName session.circumstances) script connection taken result ↔
          ∀ fault, result ≠ .error (.encoding fault)) := by
  refine ⟨fun fault hfault => ?_, fun script hscript hnone => ?_⟩
  · have hfile : Comes (fileText path) session [] (.error (.encoding fault)) session := by
      refine comes_of_run ?_ rfl rfl
      rw [run_fileText hoctets, hfault]
      rfl
    exact hfile.bind_error _
  obtain ⟨taken, result, last, hcomes, hcourse⟩ :=
    scratchCourse_of_canonicalise hoctets hscript hnone connection
  obtain ⟨outcome, houtcome, hleads⟩ := hcourse.exists_leadsTo
  refine ⟨taken, result, last, hcomes, fun hdecodable => ?_, fun hclean fault hfault => ?_,
    fun hnever => ?_⟩
  · exact hcourse.cleansUp hnone
      (hleads.resolve_right fun hgarbled => hgarbled.1 (hdecodable outcome houtcome))
  · subst hfault
    obtain ⟨error, herror⟩ := hclean.fails fun text hok => by cases hok
    cases herror
  · exact hcourse.cleansUp hnone
      (hleads.resolve_right fun ⟨_, fault, hfault⟩ => hnever fault hfault)

/-- Where the first run answers with what is no text, it is the only one: a database that it
created is not dropped. -/
theorem canonicalise_of_undecodable (hoctets : session.files.read path = .ok octets)
    (hscript : ofFile octets = .ok script) (hnone : dangerousCommand? script = none)
    (connection : Connection) {status : Int} {fault : Utf8Fault}
    (hfirst : session.outcomes.head? = some (.undecodable status fault)) : ∃ last,
      Comes (canonicalise path connection) session
        [(executeRun connection [] (createText (scratchName session.circumstances)),
          .undecodable status fault)] (.error (.encoding fault)) last := by
  obtain ⟨taken, result, last, hcomes, hcourse⟩ :=
    scratchCourse_of_canonicalise hoctets hscript hnone connection
  have hanswer {created : Outcome} {rest : List (Run × Outcome)}
      (htaken : taken = (executeRun connection []
        (createText (scratchName session.circumstances)), created) :: rest) :
      created = .undecodable status fault := by
    have hzero := hcomes.answers 0 _ created (by rw [htaken]; rfl)
    rw [hzero, List.getD_eq_getElem?_getD, ← List.head?_eq_getElem?, hfirst]
    rfl
  cases hcourse with
  | uncreated hcreated =>
      obtain rfl := hanswer rfl
      obtain rfl := Except.error.inj hcreated
      exact ⟨last, hcomes⟩
  | unloaded hcreated _ | loaded hcreated _ =>
      obtain rfl := hanswer rfl
      cases hcreated

end

/-- A session in which a table that is not closed is refused by the server. -/
def refusingSession : Session :=
  .start ⟨[], 3, 2, 1, 0⟩ ⟨[], [(["a.sql"], toUtf8 "CREATE TABLE t (\n  a int;\n")]⟩
    [.finished 0 [] [], .finished 1 [] "ERROR 1064", .finished 0 [] []]

/-- A session in which the server creates a database, and its tool writes what is no text. -/
def garblingSession : Session :=
  .start ⟨[], 3, 2, 1, 0⟩ ⟨[], [(["a.sql"], toUtf8 "CREATE TABLE t (\n  a int\n);\n")]⟩
    [.undecodable 0 ⟨.badStart, 0, 1, 0xFF⟩]

/-- Where the script fails, the last run drops the database; where the output of the first run is
no text, nothing drops it. -/
theorem cleansUp_of_canonicalise_refused :
    (∃ error last, (canonicalise (.ofText "a.sql") .none).run.run refusingSession
        = (.error (.tool error), last) ∧
      last.runs.getLast? = some (executeRun .none [] (dropText "test_mysqldiff-temp-3_2_1"))) ∧
    ∃ fault last, (canonicalise (.ofText "a.sql") .none).run.run garblingSession
        = (.error (.encoding fault), last) ∧
      last.runs = [executeRun .none [] (createText "test_mysqldiff-temp-3_2_1")] := by
  refine ⟨?_, _, _, rfl, rfl⟩
  have hoctets : refusingSession.files.read (.ofText "a.sql")
      = .ok (toUtf8 "CREATE TABLE t (\n  a int;\n") := by rfl
  have hscript : ofFile (toUtf8 "CREATE TABLE t (\n  a int;\n")
      = .ok "CREATE TABLE t (\n  a int;\n".toList := by rfl
  obtain ⟨taken, result, last, hcomes, hdecodable, -⟩ :=
    (cleansUp_of_canonicalise hoctets .none).2 _ hscript (by decide)
  have hclean := hdecodable (hcomes.isDecodable (by
    simp [refusingSession, Session.start, Outcome.IsDecodable]))
  -- the database was created, but the script failed
  obtain ⟨created, hhead, -, hlast⟩ := hclean.drops
  have hcreated : created = .finished 0 [] [] :=
    hcomes.answers 0 _ created (List.head?_eq_getElem? ▸ hhead)
  obtain ⟨dropped, hdropped⟩ := hlast (by rw [hcreated]; rfl)
  have hnever : ∀ text, result ≠ .ok text := by
    intro text htext
    obtain ⟨_, loaded, _, _, htaken, -, hloaded, -⟩ := (hclean.returns text).mp htext
    obtain rfl : loaded = .finished 1 [] "ERROR 1064" :=
      hcomes.answers 1 _ loaded (by rw [htaken]; rfl)
    cases hloaded
  obtain ⟨error, rfl⟩ := hclean.fails hnever
  refine ⟨error, last, hcomes.run, ?_⟩
  rw [hcomes.runs, List.getLast?_append, List.getLast?_map, hdropped]
  rfl

end SchemaMigration
