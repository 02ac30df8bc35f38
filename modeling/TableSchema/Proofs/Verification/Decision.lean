import Mathlib.Data.List.TFAE
import TableSchema.Proofs.Verification.BlockShape
import TableSchema.Verification.Report

/-!
What the verifier decides and how it answers. Whichever way it comes to its verdict, the parts of
its answer agree with each other and with the log, and nothing about a statement matters but what is
left of it without the blanks around it.
-/

namespace TableSchema

namespace Verification

open Text

def Rejection.warning (r : Rejection) : LogEntry :=
  ⟨.warning, .verifier, "statement rejected by verifier: " ++ r.code.text⟩

section Trees

inductive WithEmpty : List (Option Tree) → List (Option Tree) → Prop
  | nil : WithEmpty [] []
  | keep {found found' : List (Option Tree)} (tree : Option Tree) :
    WithEmpty found found' → WithEmpty (tree :: found) (tree :: found')
  | put {found found' : List (Option Tree)} :
    WithEmpty found found' → WithEmpty found (none :: found')

inductive Parsing.PaddedTo : Parsing → Parsing → Prop
  | failed (message : String) : PaddedTo (.failed message) (.failed message)
  | trees {found found' : List (Option Tree)} :
    WithEmpty found found' → PaddedTo (.trees found) (.trees found')

/-- The tree is the one statement found, but for empty ones. -/
def Parsing.IsSingle (answer : Parsing) (tree : Tree) : Prop :=
  Parsing.PaddedTo (.trees [some tree]) answer

def Tree.IsEmptyUpdate (tree : Tree) : Prop :=
  tree.kind = "update" ∧ tree.assignments = 0

theorem WithEmpty.filterMap_eq {found found' : List (Option Tree)} (h : WithEmpty found found') :
    found'.filterMap id = found.filterMap id := by
  induction h with
  | nil => rfl
  | keep tree _ ih => rw [List.filterMap_cons, List.filterMap_cons, ih]
  | put _ ih => rw [List.filterMap_cons, ih]; rfl

theorem withEmpty_filterMap (found : List (Option Tree)) :
    WithEmpty ((found.filterMap id).map some) found := by
  induction found with
  | nil => exact .nil
  | cons tree found ih =>
    cases tree with
    | none => exact .put ih
    | some tree => exact .keep (some tree) ih

theorem isSingle_trees_iff (found : List (Option Tree)) (tree : Tree) :
    (Parsing.trees found).IsSingle tree ↔ found.filterMap id = [tree] := by
  constructor
  · rintro (_ | padded)
    exact padded.filterMap_eq
  · intro single
    have padded := withEmpty_filterMap found
    rw [single] at padded
    exact .trees padded

end Trees

namespace Verifier

variable {v v' : Verifier} {s : String} {notes : Notes} {call : ParserCall}
  {answer answer' : Parsing}

/-- The statement is a sound block, or the parser finds one statement in it that assigns something
if it is an update. -/
def Approves (v : Verifier) (s : String) : Prop :=
  (beginsWith "DO " s = true ∧ blockProblems s.toList = []) ∨
    (AsksParser s ∧ ∃ tree, (v.parse (v.callFor s)).IsSingle tree ∧ ¬ tree.IsEmptyUpdate)

structure IsVerdictOn (s : String) (calls : List ParserCall) (condition : Prop)
    (verdict : Verdict) : Prop where
  statement : verdict.statement = s
  calls : verdict.parserCalls = calls
  accepts : verdict.rejection = none ↔ condition
  problems : ∀ r, verdict.rejection = some r → r.problems ≠ []

theorem isVerdictOn_accepted {calls : List ParserCall} {condition : Prop} (h : condition) :
    IsVerdictOn s calls condition ⟨s, notes, none, calls⟩ :=
  ⟨rfl, rfl, iff_of_true rfl h, by simp⟩

theorem isVerdictOn_rejected {calls : List ParserCall} {condition : Prop} (h : ¬ condition)
    {r : Rejection} (problems : r.problems ≠ []) :
    IsVerdictOn s calls condition ⟨s, notes, some r, calls⟩ where
  statement := rfl
  calls := rfl
  accepts := iff_of_false (by simp) h
  problems := by
    intro _ same
    rwa [← Option.some.inj same]

theorem isVerdictOn_judgeParsing :
    IsVerdictOn s [call] (∃ tree, answer.IsSingle tree ∧ ¬ tree.IsEmptyUpdate)
      (judgeParsing s notes call answer) := by
  cases answer with
  | failed message =>
    refine isVerdictOn_rejected ?_ (by simp)
    rintro ⟨tree, single, -⟩
    cases single
  | trees found =>
    simp only [isSingle_trees_iff]
    unfold judgeParsing
    dsimp only
    split
    next tree single =>
      simp only [single, List.cons.injEq, and_true, exists_eq_left']
      by_cases empty : tree.kind = "update" ∧ tree.assignments = 0
      · rw [if_pos empty]
        exact isVerdictOn_rejected (not_not_intro empty) (by simp)
      · rw [if_neg empty]
        exact isVerdictOn_accepted empty
    next several =>
      refine isVerdictOn_rejected ?_ (by simp)
      rintro ⟨tree, single, -⟩
      exact several tree single

theorem isVerdictOn_judge_of_not_asks (h : ¬ AsksParser s) :
    IsVerdictOn s [] (beginsWith "DO " s = true ∧ blockProblems s.toList = []) (v.judge s) := by
  by_cases empty : s = ""
  · subst empty
    exact isVerdictOn_rejected (fun block => absurd block.1 (by decide)) (by simp)
  cases block : beginsWith "DO " s with
  | true =>
    rw [judge_block v block, blockVerdict]
    by_cases none : blockProblems s.toList = []
    · rw [if_pos none]
      exact isVerdictOn_accepted ⟨rfl, none⟩
    · rw [if_neg none]
      exact isVerdictOn_rejected (fun sound => none sound.2) none
  | false =>
    have degenerate : beginsWith "UPDATE" s = true ∧ updateProblems s.toList ≠ [] :=
      not_not.1 fun sound => h ⟨empty, block, sound⟩
    rw [judge_degenerate v empty block degenerate.1 degenerate.2]
    exact isVerdictOn_rejected (fun sound => absurd sound.1 (by decide)) degenerate.2

theorem isVerdictOn_judge (v : Verifier) (s : String) :
    IsVerdictOn s (if AsksParser s then [v.callFor s] else []) (v.Approves s) (v.judge s) := by
  by_cases asks : AsksParser s
  · have block : ¬ (beginsWith "DO " s = true ∧ blockProblems s.toList = []) := by
      simp [asks.2.1]
    rw [if_pos asks, Approves, or_iff_right block, and_iff_right asks, judge_of_asks v asks]
    exact isVerdictOn_judgeParsing
  · rw [if_neg asks, Approves, or_iff_left fun parsed => asks parsed.1]
    exact isVerdictOn_judge_of_not_asks asks

section Log

theorem judgeParsing_congr (padded : answer.PaddedTo answer') :
    judgeParsing s notes call answer' = judgeParsing s notes call answer := by
  cases padded with
  | failed message => rfl
  | trees padded => simp only [judgeParsing, padded.filterMap_eq]

theorem verifyText_of_padded (dialect : v'.dialect = v.dialect)
    (padded : ∀ call, (v.parse call).PaddedTo (v'.parse call)) (statement : String) :
    v'.verifyText statement = v.verifyText statement := by
  have judged (s : String) : v'.judge s = v.judge s := by
    simp only [judge, dialect, judgeParsing_congr (padded _)]
  unfold verifyText
  rw [judged]

theorem verifyText_eq (v : Verifier) (statement : String) :
    v.verifyText statement = ⟨.ok (v.judge (strip statement)),
      ((v.judge (strip statement)).rejection.map rejectionEvents).getD []⟩ := by
  unfold verifyText
  rw [Observed.emit_bind, Observed.events_pure, List.append_nil]
  rfl

theorem verifyText_congr (v : Verifier) {statement statement' : String}
    (same : strip statement' = strip statement) :
    v.verifyText statement' = v.verifyText statement := by
  rw [verifyText_eq, verifyText_eq, same]

theorem verify_ofText? (v : Verifier) (sql : Option String) :
    v.verify (.ofText? sql) = v.verifyText (sql.getD "") := by
  rw [verify, Value.orElse_text_empty]
  rfl

theorem entries_rejectionEvents (r : Rejection) :
    ((rejectionEvents r).filterMap Event.entry?).filter (fun e => false || e.level == .warning) =
      [r.warning] := by
  unfold rejectionEvents
  rw [List.filterMap_append, List.filter_append]
  refine List.append_left_eq_self.2 (List.filter_eq_nil_iff.2 fun entry told => ?_)
  obtain ⟨event, listed, same⟩ := List.mem_filterMap.1 told
  obtain ⟨problem, -, event⟩ := List.mem_filterMap.1 listed
  cases problem with
  | unparsable message =>
    obtain rfl := Option.some.inj event
    obtain rfl := Option.some.inj same
    exact Bool.false_ne_true
  | _ => simp at event

theorem entries_verifyText (v : Verifier) (statement : String) :
    (v.verifyText statement).entries false =
      ((v.judge (strip statement)).rejection.map Rejection.warning).toList := by
  rw [verifyText_eq, Observed.entries]
  cases (v.judge (strip statement)).rejection with
  | none => rfl
  | some r => exact entries_rejectionEvents r

end Log

end Verifier

section Report

structure Report.Coheres (report : Report) (s : String) (warnings : List LogEntry) : Prop where
  together : [report.accepted = true, report.problems = none, report.code = none,
    report.statement = some s, report.length = some s.length, report.verified = true,
    warnings = []].TFAE
  refused : report.accepted = false → report.statement = none ∧ report.length = none ∧
    report.verified = false ∧ (∃ problem others, report.problems = some (problem :: others)) ∧
    ∃ code, report.code = some code ∧
      warnings = [⟨.warning, .verifier, "statement rejected by verifier: " ++ code.text⟩]

theorem coheres_report {verdict : Verdict}
    (problems : ∀ r, verdict.rejection = some r → r.problems ≠ []) :
    verdict.report.Coheres verdict.statement (verdict.rejection.map Rejection.warning).toList := by
  unfold Verdict.report
  cases rejected : verdict.rejection with
  | none =>
    refine ⟨List.tfae_of_forall True _ ?_, fun refused => absurd refused (by simp)⟩
    simp
  | some r =>
    obtain ⟨problem, others, listed⟩ := List.exists_cons_of_ne_nil (problems r rejected)
    refine ⟨List.tfae_of_forall False _ ?_, fun _ => ⟨rfl, rfl, rfl, ?_, r.code, rfl, rfl⟩⟩
    · simp
    · exact ⟨problem.text, others.map Problem.text,
        congrArg (fun listed => some (listed.map Problem.text)) listed⟩

end Report

namespace Verifier

structure AnswersCoherently (v : Verifier) (sql : Option String) : Prop where
  answered : ∃ verdict, (v.verify (.ofText? sql)).outcome = .ok verdict ∧
    verdict.parserCalls =
      (if AsksParser (strip (sql.getD "")) then [v.callFor (strip (sql.getD ""))] else []) ∧
    (verdict.report.accepted = true ↔ v.Approves (strip (sql.getD ""))) ∧
    verdict.report.Coheres (strip (sql.getD "")) ((v.verify (.ofText? sql)).entries false)
  /-- Nothing matters but what is left without the blanks around it. -/
  stripped : ∀ sql' : Option String, strip (sql'.getD "") = strip (sql.getD "") →
    v.verify (.ofText? sql') = v.verify (.ofText? sql)
  padded : ∀ before after : String, IsBlankText before.toList → IsBlankText after.toList →
    v.verify (.text (before ++ sql.getD "" ++ after)) = v.verify (.ofText? sql)
  /-- Nor do empty statements that the parser finds besides. -/
  emptied : ∀ v' : Verifier, v'.dialect = v.dialect →
    (∀ call, (v.parse call).PaddedTo (v'.parse call)) →
    v'.verify (.ofText? sql) = v.verify (.ofText? sql)

theorem verify_coherent (v : Verifier) (sql : Option String) : v.AnswersCoherently sql := by
  obtain ⟨statement, calls, accepts, problems⟩ := isVerdictOn_judge v (strip (sql.getD ""))
  have coheres := coheres_report problems
  rw [statement] at coheres
  have entries := entries_verifyText v (sql.getD "")
  rw [← verify_ofText?] at entries
  refine ⟨⟨v.judge (strip (sql.getD "")), ?_, calls, ?_, ?_⟩, fun sql' same => ?_,
    fun before after blank blank' => ?_, fun v' dialect padded => ?_⟩
  · rw [verify_ofText?, verifyText_eq]
  · rw [← accepts]
    unfold Verdict.report
    cases (v.judge (strip (sql.getD ""))).rejection <;> simp
  · rw [entries]
    exact coheres
  · rw [verify_ofText?, verify_ofText?]
    exact v.verifyText_congr same
  · have text := verify_ofText? v (some (before ++ sql.getD "" ++ after))
    rw [verify_ofText?]
    exact text.trans (v.verifyText_congr (strip_padded blank blank' _))
  · rw [verify_ofText?, verify_ofText?]
    exact verifyText_of_padded dialect padded _

def findingUpdate (before behind assignments : Nat) : Verifier where
  parse _ := .trees (List.replicate before none ++ some ⟨"update", assignments⟩ ::
    List.replicate behind none)

theorem verify_coherent_of_findingUpdate :
    (findingUpdate 2 1 1).verify (.text "\u2028\x1fupdate t set a = $b\r\n") =
        (findingUpdate 0 0 1).verify (.text "update t set a = $b") ∧
      ∃ verdict, ((findingUpdate 0 0 1).verify (.text "update t set a = $b")).outcome =
          .ok verdict ∧
        verdict.parserCalls = [⟨"update t set a = :b", .text "postgres"⟩] ∧
        verdict.report.statement = some "update t set a = $b" ∧
        ((findingUpdate 0 0 1).verify (.text "update t set a = $b")).entries false = [] := by
  have found : WithEmpty [some ⟨"update", 1⟩] [none, none, some ⟨"update", 1⟩, none] :=
    .put (.put (.keep _ (.put .nil)))
  obtain ⟨⟨verdict, answer, calls, approved, coheres⟩, -, -, emptied⟩ :=
    verify_coherent (findingUpdate 0 0 1) (some "update t set a = $b")
  have padded := (verify_coherent (findingUpdate 2 1 1) (some "update t set a = $b")).padded
    "\u2028\x1f" "\r\n" (by decide) (by decide)
  have approves : (findingUpdate 0 0 1).Approves (strip "update t set a = $b") :=
    .inr ⟨by decide, ⟨"update", 1⟩, .trees (.keep _ .nil), by simp [Tree.IsEmptyUpdate]⟩
  have accepted := approved.2 approves
  refine ⟨padded.trans (emptied _ rfl fun _ => .trees found), verdict, answer, ?_, ?_, ?_⟩
  · rw [calls]
    decide
  · exact (coheres.together.out 0 3).1 accepted
  · exact (coheres.together.out 0 6).1 accepted

end Verifier

end Verification

end TableSchema
