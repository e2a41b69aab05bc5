import Lineage.Source.Grammar.Statement

/-!
The parse of a source text. The rules of the grammar refer to each other through a call; `rule` ties
the knot, with a depth that is more than any text of the given length can reach. Some rules remember
their outcome at each position, so that backtracking does not repeat their work.
-/

namespace Lineage.Source

namespace Grammar

/-- The rules that remember their outcomes. -/
def Rule.isRemembered : Rule → Bool
  | .expression | .starExpression | .disjunction | .conjunction | .inversion | .bitwiseOr | .factor
  | .awaitPrimary | .primary | .targetPrimary | .strings | .starTarget | .targetWithStarAtom
  | .deleteTarget | .arguments | .closedPattern | .starPattern | .simpleStatement | .block => true
  | _ => false

/-- The outcome of a rule among those remembered at a position. -/
def outcomeOf? (r : Rule) : List Remembered → Option (Option (r.Result × Nat))
  | [] => none
  | m :: rest => if h : m.rule = r then some (h ▸ m.outcome) else outcomeOf? r rest

/-- Runs a rule, or takes its outcome from memory. -/
def remembering (r : Rule) (p : Parser r.Result) : Parser r.Result := fun ts s =>
  match outcomeOf? r (s.memory.getD s.mark []) with
  | some (some (a, mark)) => (.ok a, { s with mark := mark })
  | some none => (.fail, s)
  | none =>
    let start := s.mark
    match p ts s with
    | (.ok a, s) =>
      (.ok a, { s with memory := s.memory.modify start (⟨r, some (a, s.mark)⟩ :: ·) })
    | (.fail, s) => (.fail, { s with memory := s.memory.modify start (⟨r, none⟩ :: ·) })
    | (.raise f, s) => (.raise f, s)

/-- The rules, given a way to call rules. -/
def body (named? : List Char → Option Nat) (c : Call) : (r : Rule) → Parser r.Result
  | .expression => expressionRule c
  | .starExpression => starExpressionRule c
  | .starExpressions => starExpressionsRule c
  | .namedExpression => namedExpressionRule c
  | .disjunction => disjunctionRule c
  | .conjunction => conjunctionRule c
  | .inversion => inversionRule c
  | .bitwiseOr => bitwiseOrRule c
  | .factor => factorRule c
  | .awaitPrimary => awaitPrimaryRule c
  | .primary => primaryRule c
  | .targetPrimary => targetPrimaryRule c
  | .strings => stringsRule named? c
  | .starTarget => starTargetRule c
  | .targetWithStarAtom => targetWithStarAtomRule c
  | .singleTarget => singleTargetRule c
  | .deleteTarget => deleteTargetRule c
  | .annotationTarget => annotationTargetRule c
  | .arguments => argumentsRule c
  | .pattern => patternRule c
  | .closedPattern => closedPatternRule c
  | .starPattern => starPatternRule
  | .simpleStatement => simpleStatementRule c
  | .elifStatement => elifStatementRule c
  | .block => blockRule c
  | .statements => statementsRule c

/-- The rules with calls nested at most `depth` deep. -/
def rule (named? : List Char → Option Nat) : Nat → Call
  | 0, _ => Parser.fail
  | depth + 1, r =>
    let p := body named? (rule named? depth) r
    if r.isRemembered then remembering r p else p

end Grammar

/-- The statements of a text. Between two tokens no more than sixty-four calls nest. -/
def parse (named? : List Char → Option Nat) (text : List Char) :
    Except SyntaxFault (List Stmt) :=
  let calls := Grammar.rule named? (64 * (text.length + 8))
  match Grammar.Parser.run (Grammar.file calls) (tokensFrom 1 text) with
  | .ok statements => .ok statements
  | .error raised => .error raised.fault

end Lineage.Source
