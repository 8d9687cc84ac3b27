import SchemaMigration.Dump.Comment
import SchemaMigration.Proofs.Source.DatabaseCommand
import SchemaMigration.Proofs.Source.Loading

/-!
# Scripts that are refused

A script with a command that would change another database than the scratch one is refused before
any client tool is run; any other script is run. The script is searched as it stands, while its
statements are those of the decoded script. So a command in front of a statement is found as long
as decoding does not uncover it.

## Main Definitions

* `Refuses` - a script is refused, and nothing else happens
* `ShowsCommands` - decoding uncovers no command
* `runs_canonicalise` - what is not refused is run
* `canonicalise_refuses` - which scripts are refused
-/

namespace SchemaMigration

open Text Loading

variable {session : Session} {path : Path} {octets : List Nat} {script : Text}

/-- A script is refused: a command is named, and nothing else happens. -/
def Refuses (session : Session) (path : Path) (connection : Connection) : Prop :=
  ∃ command, (canonicalise path connection).run.run session
    = (.error (.dangerous path command), session)

/-- What begins with a command behind a semicolon of the decoded script begins with the same words
behind one of the script itself. -/
def ShowsCommands (script : Text) : Prop :=
  ∀ part ∈ parts (Dump.decode false script), LeadsCommand part →
    ∃ shown ∈ parts script, (words shown).take 2 = (words part).take 2

instance (script : Text) : Decidable (ShowsCommands script) :=
  inferInstanceAs (Decidable (∀ part ∈ parts (Dump.decode false script), LeadsCommand part →
    ∃ shown ∈ parts script, (words shown).take 2 = (words part).take 2))

/-- A command behind a semicolon of the decoded script is one behind a semicolon of the script: the
first two words tell. -/
theorem ShowsCommands.exists_part (h : ShowsCommands script) {part : Text}
    (hpart : part ∈ parts (Dump.decode false script)) (hleads : LeadsCommand part) :
    ∃ shown ∈ parts script, LeadsCommand shown := by
  obtain ⟨shown, hmem, hwords⟩ := h part hpart hleads
  refine ⟨shown, hmem, ?_⟩
  rw [leadsCommand_iff, ← commandWords_take, hwords, commandWords_take, ← leadsCommand_iff]
  exact hleads

theorem keepsRuns_execute (connection : Connection) (database : List Text) (sql : Text) :
    KeepsRuns (execute connection database sql) :=
  (Client.keepsRuns_output _ _ _).bind fun _ => keepsRuns_pure ()

theorem keepsRuns_dumpScratch (name : Text) (connection : Connection) :
    KeepsRuns (dumpScratch name connection) := by
  refine (Client.keepsRuns_dump name connection).outcome.bind fun result => ?_
  match result with
  | .ok text => exact keepsRuns_pure text
  | .error (.tool error) => exact keepsRuns_throw _
  | .error (.file _) | .error (.encoding _) | .error (.schema _) | .error (.dangerous _ _)
  | .error (.unknown _ _) => exact keepsRuns_throw _

theorem keepsRuns_dumpOfScript (name script : Text) (connection : Connection) :
    KeepsRuns (dumpOfScript name script connection) :=
  (keepsRuns_execute _ _ _).bind fun _ => keepsRuns_dumpScratch name connection

theorem keepsRuns_dropScratch (name : Text) (connection : Connection) :
    KeepsRuns (dropScratch name connection) :=
  (keepsRuns_note _).bind fun _ => keepsRuns_execute _ _ _

/-- A script with a command that is found is refused. -/
theorem refuses_of_dangerousCommand? {command : Text}
    (hoctets : session.files.read path = .ok octets) (hscript : ofFile octets = .ok script)
    (hcommand : dangerousCommand? script = some command) (connection : Connection) :
    Refuses session path connection := by
  refine ⟨command, ?_⟩
  rw [canonicalise, run_bind_ok (fileText_of_read hoctets hscript)]
  simp only [hcommand]
  rfl

/-- A script without one is run: the first client tool creates the scratch database. -/
theorem runs_canonicalise (hoctets : session.files.read path = .ok octets)
    (hscript : ofFile octets = .ok script) (hnone : dangerousCommand? script = none)
    (connection : Connection) :
    session.runs ++ [⟨"mysql" :: (connection.arguments ++ []),
        some ("CREATE DATABASE \x60" ++ scratchName session.circumstances ++ "\x60;\n")⟩]
      <+: ((canonicalise path connection).run.run session).2.runs := by
  rw [canonicalise, run_bind_ok (fileText_of_read hoctets hscript)]
  simp only [hnone]
  rw [run_bind_ok (run_get session), run_bind_ok (run_note _ session)]
  -- the first command is given to a tool at once; none of the rest takes that back
  refine List.IsPrefix.trans ?_ (runs_prefix_bind (fun _ => ?_) _)
  · refine List.IsPrefix.trans ?_ (runs_prefix_bind (fun _ => keepsRuns_pure ()) _)
    rw [Client.runs_output]
    exact List.prefix_rfl
  · exact (keepsRuns_dumpOfScript _ script connection).ensuring
      (keepsRuns_dropScratch _ connection)

theorem runs_canonicalise_ne (hoctets : session.files.read path = .ok octets)
    (hscript : ofFile octets = .ok script) (hnone : dangerousCommand? script = none)
    (connection : Connection) :
    ((canonicalise path connection).run.run session).2.runs ≠ session.runs := by
  intro hsame
  have hlength := (runs_canonicalise hoctets hscript hnone connection).length_le
  rw [hsame, List.length_append, List.length_singleton] at hlength
  omega

/-- A script is refused just if one of its parts begins with a command. -/
theorem refuses_iff (hoctets : session.files.read path = .ok octets)
    (hscript : ofFile octets = .ok script) (connection : Connection) :
    Refuses session path connection ↔ ∃ part ∈ parts script, LeadsCommand part := by
  rw [← isSome_dangerousCommand?_iff]
  cases hcommand : dangerousCommand? script with
  | some command => simp [refuses_of_dangerousCommand? hoctets hscript hcommand connection]
  | none =>
      have hruns := runs_canonicalise_ne hoctets hscript hcommand connection
      simp only [Option.isSome_none, Bool.false_eq_true, iff_false]
      rintro ⟨command, hrefused⟩
      exact hruns (by rw [hrefused])

/-- A script is refused just if one of its parts begins with a command that names the database to
be changed; any other script is run. As long as semicolons are the only delimiter and decoding
uncovers no command, a script is refused if a statement of the decoded script begins with one. -/
theorem canonicalise_refuses (hoctets : session.files.read path = .ok octets)
    (hscript : ofFile octets = .ok script) (connection : Connection) :
    (Refuses session path connection ↔ ∃ part ∈ parts script, LeadsCommand part) ∧
    (¬ Refuses session path connection →
      ((canonicalise path connection).run.run session).2.runs ≠ session.runs) ∧
    (Dump.KeepsSemicolons (lines (Dump.decode false script)) → ShowsCommands script →
      ∀ statement ∈ Dump.statements (Dump.decode false script), LeadsCommand statement →
        Refuses session path connection) := by
  have hrefuses := refuses_iff hoctets hscript connection
  refine ⟨hrefuses, ?_, ?_⟩
  · intro hnot
    rw [hrefuses, ← isSome_dangerousCommand?_iff] at hnot
    exact runs_canonicalise_ne hoctets hscript (by simpa using hnot) connection
  · intro hdelimiter hshown statement hstatement hleads
    obtain ⟨part, hpart, hcommand⟩ :=
      Dump.exists_part_of_mem_statements hdelimiter hstatement hleads
    exact hrefuses.mpr (hshown.exists_part hpart hcommand)

/-- A command in other letters, behind a comment and a table; the database is quoted, and another
comment follows. -/
def droppingScript : Text :=
  "-- header\nCREATE TABLE \x60t\x60 (\n  a int\n);\n drop\tDatabase \x60p\x60; # gone\n"

/-- A session with a script in a file. -/
def sessionWith (script : Text) : Session :=
  .start ⟨[], 0, 0, 0, 0⟩ ⟨[], [(["old.sql"], toUtf8 script)]⟩ []

/-- The script with a command behind a table is refused; a command behind nothing but a comment is
run, since the script does not show it. -/
theorem canonicalise_refuses_dropping :
    Refuses (sessionWith droppingScript) (.ofText "old.sql") .none ∧
      ((canonicalise (.ofText "old.sql") .none).run.run
        (sessionWith "-- header\nDROP DATABASE p;\n")).2.runs ≠ [] := by
  have hread (script : Text) : (sessionWith script).files.read (.ofText "old.sql")
      = .ok (toUtf8 script) := by
    rfl
  constructor
  · have hscript : ofFile (toUtf8 droppingScript) = .ok droppingScript := by decide +kernel
    exact (canonicalise_refuses (hread _) hscript .none).2.2 (by decide +kernel) (by decide +kernel)
      " drop\tDatabase p;" (by decide +kernel) (by decide)
  · have hscript : ofFile (toUtf8 "-- header\nDROP DATABASE p;\n")
        = .ok "-- header\nDROP DATABASE p;\n".toList := by decide +kernel
    have hrefused := canonicalise_refuses (hread _) hscript .none
    exact hrefused.2.1 (by rw [hrefused.1]; decide)

end SchemaMigration
