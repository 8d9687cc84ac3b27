import SchemaMigration.Proofs.Text.StringLiteral
import SchemaMigration.Routine.Parser
import SchemaMigration.View

/-!
# Signatures

Views and routines are compared by their signatures, which leave out the layout of their texts, and
for characteristics the case of letters. What stands between quotes is treated like everything else.
So literals that differ in more than that make signatures differ, and others do not.

## Main Definitions

* `exists_join_eq` - one of several texts that are joined
* `literals_of_signature_eq` - what equal signatures tell about literals, and when they are equal
-/

namespace SchemaMigration

open Text

/-- One of several texts that are joined stands between some texts. -/
theorem exists_join_eq (separator : Text) (front behind : List Text) :
    ∃ before after, ∀ piece,
      join separator (front ++ piece :: behind) = before ++ (piece ++ after) := by
  induction front with
  | nil =>
      cases behind with
      | nil => exact ⟨[], [], fun piece => by simp [join]⟩
      | cons next behind =>
          exact ⟨[], separator ++ join separator (next :: behind), fun piece => by simp [join]⟩
  | cons first front ih =>
      obtain ⟨before, after, hjoin⟩ := ih
      refine ⟨first ++ separator ++ before, after, fun piece => ?_⟩
      cases front with
      | nil => simpa [join] using hjoin piece
      | cons next front => simpa [join] using hjoin piece

/-- Views and routines of one signature have the same literals but for their layout, and in
characteristics but for the case of letters. Where a view or a routine has another literal in place
of one, the signature is the same just if the two are the same in that sense. -/
theorem literals_of_signature_eq (view view' : View) (routine routine' : Routine) :
    (view.signature = view'.signature →
      (literals view.select).map singleSpaced = (literals view'.select).map singleSpaced) ∧
    (routine.signature = routine'.signature →
      (literals routine.parameters).map singleSpaced
        = (literals routine'.parameters).map singleSpaced ∧
      (literals routine.options).map (upper ∘ singleSpaced)
        = (literals routine'.options).map (upper ∘ singleSpaced) ∧
      (literals routine.body).map singleSpaced = (literals routine'.body).map singleSpaced) ∧
    ∀ front behind literal literal' : Text, Dump.IsLiteral literal → Dump.IsLiteral literal' →
      ({ view with select := front ++ (literal ++ behind) }.signature
          = { view with select := front ++ (literal' ++ behind) }.signature ↔
        singleSpaced literal = singleSpaced literal') ∧
      ({ routine with parameters := front ++ (literal ++ behind) }.signature
          = { routine with parameters := front ++ (literal' ++ behind) }.signature ↔
        singleSpaced literal = singleSpaced literal') ∧
      ({ routine with body := front ++ (literal ++ behind) }.signature
          = { routine with body := front ++ (literal' ++ behind) }.signature ↔
        singleSpaced literal = singleSpaced literal') ∧
      ∀ items items' : List Text,
        { routine with
            characteristics := items ++ (front ++ (literal ++ behind)) :: items' }.signature
          = { routine with
            characteristics := items ++ (front ++ (literal' ++ behind)) :: items' }.signature ↔
        upper (singleSpaced literal) = upper (singleSpaced literal') := by
  refine ⟨fun h => ?_, fun h => ⟨?_, ?_, ?_⟩,
    fun front behind literal literal' hliteral hliteral' =>
      ⟨?_, ?_, ?_, fun items items' => ?_⟩⟩
  · have hselect := congrArg (literals ∘ View.Signature.select) h
    simpa [View.signature, literals_squash] using hselect
  · have hparameters := congrArg (literals ∘ Routine.Signature.parameters) h
    simpa [Routine.signature, literals_squash] using hparameters
  · have hoptions := congrArg (literals ∘ Routine.Signature.options) h
    simpa [Routine.signature, literals_upper, literals_squash] using hoptions
  · have hbody := congrArg (literals ∘ Routine.Signature.body) h
    simpa [Routine.signature, literals_squash] using hbody
  · simpa [View.signature] using squash_eq_squash_iff hliteral hliteral'
  · simpa [Routine.signature, Routine.options] using squash_eq_squash_iff hliteral hliteral'
  · simpa [Routine.signature, Routine.options] using squash_eq_squash_iff hliteral hliteral'
  · obtain ⟨before, after, hjoin⟩ := exists_join_eq " " items items'
    -- the text around the literal now also has the other characteristics
    have hitem (literal : Text) : join " " (items ++ (front ++ (literal ++ behind)) :: items')
        = (before ++ front) ++ (literal ++ (behind ++ after)) := by
      rw [hjoin]
      simp
    simp only [Routine.signature, Routine.options, Routine.Signature.mk.injEq, true_and, and_true,
      hitem]
    exact upper_squash_eq_iff hliteral hliteral'

/-- A view that selects a text. -/
def selectingView (literal : Text) : View where
  name := "v"
  columns := []
  select := "SELECT " ++ literal
  algorithm := "UNDEFINED"
  definer := "CURRENT_USER"
  security := "DEFINER"
  checkOption := []
  definition := "CREATE VIEW v AS SELECT " ++ literal

/-- A procedure with a comment. -/
def commentedProcedure (literal : Text) : Routine where
  name := "p"
  kind := .procedure
  parameters := []
  characteristics := ["COMMENT " ++ literal]
  body := "SELECT 1"
  definer := "CURRENT_USER"
  source := "p() COMMENT " ++ literal ++ " SELECT 1"

/-- Two views of one signature that select different texts, and two procedures with different
comments. -/
theorem literals_of_signature_eq_respelled :
    View.parse "CREATE VIEW v AS SELECT 'a  b'" = .ok (selectingView "'a  b'") ∧
    View.parse "CREATE VIEW v AS SELECT 'a b'" = .ok (selectingView "'a b'") ∧
    (selectingView "'a  b'").signature = (selectingView "'a b'").signature ∧
    literals (selectingView "'a  b'").select = ["'a  b'".toList] ∧
    literals (selectingView "'a b'").select = ["'a b'".toList] ∧
    (literals (selectingView "'a  b'").select).map singleSpaced
      = (literals (selectingView "'a b'").select).map singleSpaced ∧
    Routine.parse "CREATE PROCEDURE p() COMMENT 'a' SELECT 1" = .ok (commentedProcedure "'a'") ∧
    Routine.parse "CREATE PROCEDURE p() COMMENT 'A' SELECT 1" = .ok (commentedProcedure "'A'") ∧
    (commentedProcedure "'a'").signature = (commentedProcedure "'A'").signature := by
  have hspaced : Dump.IsLiteral "'a  b'" := ⟨'\x27', "a  b", .inl rfl, by decide, rfl⟩
  have hsingle : Dump.IsLiteral "'a b'" := ⟨'\x27', "a b", .inl rfl, by decide, rfl⟩
  have hlower : Dump.IsLiteral "'a'" := ⟨'\x27', "a", .inl rfl, by decide, rfl⟩
  have hupper : Dump.IsLiteral "'A'" := ⟨'\x27', "A", .inl rfl, by decide, rfl⟩
  obtain ⟨hviews, -, hexact⟩ := literals_of_signature_eq (selectingView "'a  b'")
    (selectingView "'a b'") (commentedProcedure "'a'") (commentedProcedure "'A'")
  -- a signature does not have the definition, in which each of the two keeps its literal
  have hview : (selectingView "'a  b'").signature = (selectingView "'a b'").signature :=
    (hexact "SELECT " [] _ _ hspaced hsingle).1.mpr (by decide)
  have hroutine : (commentedProcedure "'a'").signature = (commentedProcedure "'A'").signature :=
    ((hexact "COMMENT " [] _ _ hlower hupper).2.2.2 [] []).mpr (by decide +kernel)
  exact ⟨by decide +kernel, by decide +kernel, hview, by decide, by decide, hviews hview,
    by decide +kernel, by decide +kernel, hroutine⟩

end SchemaMigration
