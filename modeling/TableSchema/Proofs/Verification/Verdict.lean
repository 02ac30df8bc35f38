import TableSchema.Proofs.Text.BlankText
import TableSchema.Verification.Verdict

/-!
Verdicts by the kind of statement. The empty statement alone is rejected as such, and an update is
shown to the parser, once, unless it shows a sign of degeneration.
-/

namespace TableSchema

theorem Value.orElse_text_empty (sql : Option String) :
    (Value.ofText? sql).orElse (.text "") = .text (sql.getD "") := by
  cases sql with
  | none => rfl
  | some s =>
    unfold orElse
    split
    next => rfl
    next empty =>
      have nothing : s = "" := by simpa [ofText?, isTrue] using empty
      rw [nothing]
      rfl

namespace Verification.Verifier

variable (v : Verifier) {statement : String}

def unreading : Verifier where
  parse _ := .failed "unreadable"

theorem verify_text_outcome (s : String) :
    (v.verify (.text s)).outcome = .ok (v.judge (Text.strip s)) := by
  have same : (Value.text s).orElse (.text "") = .text s := Value.orElse_text_empty (some s)
  rw [verify, same]
  rfl

theorem judgeParsing_keeps (statement : String) (notes : Notes) (call : ParserCall)
    (answer : Parsing) :
    (judgeParsing statement notes call answer).parserCalls = [call] ∧
      (judgeParsing statement notes call answer).notes.placeholders = notes.placeholders := by
  cases answer with
  | failed message => exact ⟨rfl, rfl⟩
  | trees found =>
    unfold judgeParsing
    dsimp only
    split
    · split <;> exact ⟨rfl, rfl⟩
    · exact ⟨rfl, rfl⟩

theorem code_judgeParsing {statement : String} {notes : Notes} {call : ParserCall}
    {answer : Parsing} {r : Rejection}
    (h : (judgeParsing statement notes call answer).rejection = some r) :
    r.code ≠ .emptyStatement := by
  cases answer with
  | failed message =>
    obtain rfl := Option.some.inj h
    simp
  | trees found =>
    unfold judgeParsing at h
    dsimp only at h
    split at h
    · split at h
      · obtain rfl := Option.some.inj h
        simp
      · simp at h
    · obtain rfl := Option.some.inj h
      simp

theorem judge_empty_rejection :
    (v.judge "").rejection = some ⟨.emptyStatement, [.emptyStatement]⟩ := rfl

theorem code_judge (nonempty : statement ≠ "") {r : Rejection}
    (h : (v.judge statement).rejection = some r) : r.code ≠ .emptyStatement := by
  unfold judge at h
  rw [if_neg nonempty] at h
  dsimp only at h
  split at h
  · split at h
    · simp at h
    · obtain rfl := Option.some.inj h
      simp
  · split at h
    · exact code_judgeParsing h
    · obtain rfl := Option.some.inj h
      simp

section Parser

/-- The statement is one for the parser: it is not empty and no block, and no sign of degeneration
shows that it is an update gone wrong. -/
def AsksParser (s : String) : Prop :=
  s ≠ "" ∧ beginsWith "DO " s = false ∧
    ¬ (beginsWith "UPDATE" s = true ∧ updateProblems s.toList ≠ [])

instance (s : String) : Decidable (AsksParser s) :=
  inferInstanceAs (Decidable (_ ∧ _))

def callFor (s : String) : ParserCall :=
  ⟨parserText s, v.dialect⟩

theorem judge_of_asks (asks : AsksParser statement) :
    v.judge statement =
      judgeParsing statement
        { length := statement.length, placeholders := some (placeholders statement) }
        (v.callFor statement) (v.parse (v.callFor statement)) := by
  obtain ⟨nonempty, block, sound⟩ := asks
  have none : (if beginsWith "UPDATE" statement then updateProblems statement.toList else []) =
      [] := by
    by_cases update : beginsWith "UPDATE" statement = true
    · rw [if_pos update]
      exact not_not.1 fun problems => sound ⟨update, problems⟩
    · rw [if_neg update]
  unfold judge
  rw [if_neg nonempty, if_neg (by simp [block]), none]
  rfl

theorem judge_degenerate (nonempty : statement ≠ "") (block : beginsWith "DO " statement = false)
    (update : beginsWith "UPDATE" statement = true)
    (degenerate : updateProblems statement.toList ≠ []) :
    v.judge statement = ⟨statement, { length := statement.length },
      some ⟨.parseError, updateProblems statement.toList⟩, []⟩ := by
  unfold judge
  rw [if_neg nonempty, if_neg (by simp [block]), if_pos update]
  cases problems : updateProblems statement.toList with
  | nil => exact absurd problems degenerate
  | cons problem others => rfl

theorem judge_update (nonempty : statement ≠ "") (block : beginsWith "DO " statement = false)
    (update : beginsWith "UPDATE" statement = true) :
    (updateProblems statement.toList ≠ [] →
      (v.judge statement).rejection =
          some ⟨.parseError, updateProblems statement.toList⟩ ∧
        (v.judge statement).parserCalls = []) ∧
    (updateProblems statement.toList = [] →
      (v.judge statement).parserCalls = [⟨parserText statement, v.dialect⟩]) := by
  constructor
  · intro degenerate
    rw [judge_degenerate v nonempty block update degenerate]
    exact ⟨rfl, rfl⟩
  · intro none
    rw [judge_of_asks v ⟨nonempty, block, fun degenerate => degenerate.2 none⟩]
    exact (judgeParsing_keeps ..).1

theorem judge_parsed (nonempty : statement ≠ "") (block : beginsWith "DO " statement = false)
    (sound : beginsWith "UPDATE" statement = true → updateProblems statement.toList = []) :
    (v.judge statement).parserCalls = [⟨parserText statement, v.dialect⟩] ∧
      (v.judge statement).notes.placeholders = some (placeholders statement) := by
  rw [judge_of_asks v ⟨nonempty, block, fun degenerate => degenerate.2 (sound degenerate.1)⟩]
  exact judgeParsing_keeps ..

end Parser

end Verification.Verifier

end TableSchema
