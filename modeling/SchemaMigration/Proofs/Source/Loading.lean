import SchemaMigration.Source.Client

/-!
# Parts of a session

What a part of a session does is told step by step: where the first step does not fail, the next
one goes on in the session that it leaves. No step takes back the run of a client tool.

## Main Definitions

* `Loading.run_bind_ok` - a part of a session behind another one that did not fail
* `Loading.run_fileText`, `Loading.fileText_of_read` - the text of a file
* `Loading.KeepsRuns` - a part of a session that takes back no run of a client tool
* `Client.runs_output` - the run of a client tool
-/

namespace SchemaMigration

open Text

namespace Loading

variable {α β : Type}

/-- A part of a session behind another one that did not fail. -/
theorem run_bind_ok {part : Loading α} {next : α → Loading β} {session last : Session} {value : α}
    (h : part.run.run session = (.ok value, last)) :
    (part >>= next).run.run session = (next value).run.run last := by
  rw [ExceptT.run_bind, StateT.run_bind, h]
  rfl

theorem run_get (session : Session) :
    (liftM (get : Interaction Session) : Loading Session).run.run session
      = (.ok session, session) := rfl

/-- A note is taken, and nothing else happens. -/
theorem run_note (note : Note) (session : Session) :
    (Loading.note note).run.run session = (.ok (), ((Session.note note).run session).2) := rfl

/-- What a file that can be read gives is decoded; reading it changes nothing. -/
theorem run_fileText {session : Session} {path : Path} {octets : List Nat}
    (hoctets : session.files.read path = .ok octets) :
    (fileText path).run.run session = ((ofFile octets).mapError .encoding, session) := by
  have hread : (ofExcept .file (session.files.read path)).run.run session
      = (.ok octets, session) := by
    rw [hoctets]
    rfl
  rw [fileText, run_bind_ok (run_get session), run_bind_ok hread]
  cases ofFile octets <;> rfl

/-- The text of a file. -/
theorem fileText_of_read {session : Session} {path : Path} {octets : List Nat} {script : Text}
    (hoctets : session.files.read path = .ok octets) (hscript : ofFile octets = .ok script) :
    (fileText path).run.run session = (.ok script, session) := by
  rw [run_fileText hoctets, hscript]
  rfl

/-! ## Runs of client tools -/

/-- A part of a session that takes back no run of a client tool. -/
def KeepsRuns (part : Loading α) : Prop :=
  ∀ session, session.runs <+: (part.run.run session).2.runs

/-- What follows a part of a session takes back no run of it. -/
theorem runs_prefix_bind {part : Loading α} {next : α → Loading β}
    (hnext : ∀ value, KeepsRuns (next value)) (session : Session) :
    (part.run.run session).2.runs <+: ((part >>= next).run.run session).2.runs := by
  rw [ExceptT.run_bind, StateT.run_bind]
  generalize part.run.run session = outcome
  obtain ⟨result, last⟩ := outcome
  cases result with
  | error error => exact List.prefix_rfl
  | ok value => exact hnext value last

theorem KeepsRuns.bind {part : Loading α} {next : α → Loading β} (hpart : KeepsRuns part)
    (hnext : ∀ value, KeepsRuns (next value)) : KeepsRuns (part >>= next) :=
  fun session => (hpart session).trans (runs_prefix_bind hnext session)

theorem keepsRuns_pure (value : α) : KeepsRuns (pure value) := fun _ => List.prefix_rfl

theorem keepsRuns_throw (error : SourceError) : KeepsRuns (throw error : Loading α) :=
  fun _ => List.prefix_rfl

theorem keepsRuns_get : KeepsRuns (ExceptT.lift (get : Interaction Session)) :=
  fun _ => List.prefix_rfl

theorem keepsRuns_note (note : Note) : KeepsRuns (Loading.note note) := fun _ => List.prefix_rfl

theorem keepsRuns_ofExcept {ε : Type} (describe : ε → SourceError) (result : Except ε α) :
    KeepsRuns (ofExcept describe result) := by
  cases result with
  | ok value => exact keepsRuns_pure value
  | error error => exact keepsRuns_throw (describe error)

theorem KeepsRuns.outcome {part : Loading α} (h : KeepsRuns part) : KeepsRuns (outcome part) := h

theorem KeepsRuns.ensuring {part : Loading α} {closing : Loading Unit} (hpart : KeepsRuns part)
    (hclosing : KeepsRuns closing) : KeepsRuns (ensuring part closing) :=
  hpart.outcome.bind fun result => hclosing.bind fun _ => keepsRuns_ofExcept id result

end Loading

namespace Client

open Loading

/-- A client tool is run once, whatever it answers. -/
theorem runs_output (program : Text) (arguments : List Text) (input : Option Text)
    (session : Session) : ((output program arguments input).run.run session).2.runs
      = session.runs ++ [⟨program :: arguments, input⟩] := by
  have hanswer (noted : Session) :
      (liftM (Session.run ⟨program :: arguments, input⟩) : Loading Outcome).run.run noted
        = (.ok (noted.outcomes.headD .missing), { noted with
            outcomes := noted.outcomes.tail
            runs := noted.runs ++ [⟨program :: arguments, input⟩] }) := rfl
  rw [output, run_bind_ok (run_note _ session), run_bind_ok (hanswer _)]
  cases List.headD _ Outcome.missing with
  | missing => rfl
  | undecodable status fault => rfl
  | finished status output errors =>
      by_cases hstatus : status = 0
      · simp only [if_pos hstatus]
        rfl
      · simp only [if_neg hstatus]
        rfl

theorem keepsRuns_output (program : Text) (arguments : List Text) (input : Option Text) :
    KeepsRuns (output program arguments input) := by
  intro session
  rw [runs_output]
  exact List.prefix_append _ _

theorem keepsRuns_dump (name : Text) (connection : Connection) :
    KeepsRuns (dump name connection) := by
  refine (keepsRuns_output _ _ _).bind fun text => ?_
  split
  · exact keepsRuns_throw _
  · exact keepsRuns_get.bind fun session => (keepsRuns_note _).bind fun _ => keepsRuns_pure text

end Client

end SchemaMigration
