/-
# The grammar of mistakes

What is often written by mistake, and what is said about it.

* `Phrase.inMistakes` : the alternatives of the rules for mistakes.
-/
import ConfigAudit.Script.Python.Grammar

namespace ConfigAudit.Python

open Phrase Choice

/-! ## Wordings -/

/-- A colon is missing. -/
def colonWanted : String := "expected ':'"

/-- An equals sign stands where a comparison was meant. -/
def comparisonMeant : String := "invalid syntax. Maybe you meant '==' or ':=' instead of '='?"

/-- A generator needs brackets of its own. -/
def generatorBare : String := "Generator expression must be parenthesized"

/-- The statement after which a block has to come. -/
def blockWanted (what : String) (line : Nat) : String :=
  "expected an indented block after " ++ what ++ " on line " ++ toString line

/-! ## Forms -/

/-- A colon without a block behind it. -/
def bareColon : List Item := [":", .newline, .unless .indent]

/-- A line ends where a colon is missing. -/
def noColon (items : List Item) : Choice := blameHere colonWanted (items ++ [.newline])

/-- No block follows a statement, whose keyword stands at a place. -/
def noBlock (k : Nat) (what : String) (items : List Item) : Choice :=
  judge (items ++ bareColon) fun parts =>
    .complain (.here (blockWanted what (parts.getD k .nothing).line))

/-- A test that is followed by neither a colon nor a block. -/
def testMistakes (word : String) : List Choice := [
  noColon [word, namedExpression],
  noBlock 0 ("'" ++ word ++ "' statement") [word, namedExpression]]

/-- The contexts of a statement, without and with brackets. -/
def contextLists : List (List Item) := [
  [.option "async", "with",
    .sepBy "," (.seq [expression, .option (.seq ["as", starTarget])])],
  [.option "async", "with", "(",
    .sepBy "," (.seq [expressions, .option (.seq ["as", starTarget])]), .option ",", ")"]]

/-- What is called as a function, although it once was a statement. -/
def isOldStatement (e : Expr) : Bool := e.kind == .name "print" || e.kind == .name "exec"

/-- The arguments of a class or of its definition. -/
def argumentsItem : Item := .option (.seq ["(", .option Phrase.arguments, ")"])

/-- A name that something may be called. -/
def calledItem : Item := .option (.seq ["as", .name])

/-! ## Rules for parameters -/

/-- Several parameters in brackets. -/
def parametersInBrackets : Form → List Item
  | .definition => ["(", .some (plainParam .definition), .option ",", ")"]
  | .lambda => ["(", .sepBy "," (param .lambda), .option ",", ")"]

/-- What parameters are called. -/
def Form.parametersText : Form → String
  | .definition => "Function parameters"
  | .lambda => "Lambda expression parameters"

/-- The alternatives of the rules for mistakes in parameters. -/
def Phrase.inParameterMistakes : Phrase → List Choice
  | wrongParameters f => [
      blame 2 "non-default argument follows default argument"
        [.many (plainParam f), defaultBefore f, plainParam f],
      blame 1 (f.parametersText ++ " cannot be parenthesized")
        (.many (plainParam f) :: parametersInBrackets f),
      blame 0 "at least one argument must precede /" ["/", ","],
      blame 2 "/ may appear only once"
        [.either [slashPlain f, slashDefault f], .many (maybeParam f), "/"],
      blame 5 "/ must be ahead of *"
        [.option (.either [slashPlain f, slashDefault f]), .many (maybeParam f), "*",
          .either [",", plainParam f], .many (maybeParam f), "/"],
      blame 2 "expected comma between / and *" [.some (maybeParam f), "/", "*"]]
  | defaultBefore f => [
      pass [slashDefault f],
      pass [.some (defaultParam f)]]
  | wrongDefault => [
      blame 0 "expected default value expression" ["=", .ahead (.either [")", ","])]]
  | wrongStarRest .definition => [
      blame 0 "named arguments must follow bare *"
        ["*", .oneOf [[")"], [",", .either [")", "**"]]]]] ++ starMistakes .definition
  | wrongStarRest .lambda => [
      blameHere "named arguments must follow bare *"
        ["*", .oneOf [[":"], [",", .either [":", "**"]]]]] ++ starMistakes .lambda
  | wrongKeywordRest f => [
      blame 2 "var-keyword argument cannot have default value" ["**", param f, "="],
      blame 3 "arguments cannot follow var-keyword argument" ["**", param f, ",", param f],
      blame 3 "arguments cannot follow var-keyword argument"
        ["**", param f, ",", .either ["*", "**", "/"]]]
  | _ => []
where
  /-- Mistakes behind the first star. -/
  starMistakes (f : Form) : List Choice := [
    blame 2 "var-positional argument cannot have default value" ["*", param f, "="],
    blame 3 "* argument may appear only once"
      ["*", .either [plainParam f, ","], .many (maybeParam f), "*", .either [plainParam f, ","]]]

/-! ## Rules for expressions -/

/-- Values side by side. -/
def sideBySide : Choice :=
  ⟨true, [.unless (.oneOf [[.name, .string], [.anySoft]]), disjunction, plainExpression],
    fun _ isInside parts => match exprAt parts 1 with
      | some e =>
        if isOldStatement e || !isInside then .fail
        else .complain (.on e.line "invalid syntax. Perhaps you forgot a comma?")
      | none => .fail⟩

/-- Loops behind several arguments. -/
def loopsBehindArguments : Choice :=
  judge [args, loops] fun parts => match (exprAt parts 0).elim [] Expr.parts with
    | _ :: e :: rest => .complain (.on ((e :: rest).getLast (by simp)).line generatorBare)
    | _ => .fail

/-- Arguments without names behind arguments with names. -/
def latePositional : Choice :=
  judge [args, ",", args] fun parts =>
    let isSpread := (exprAt parts 0).any fun e => e.kind == .arguments true
    .complain (.here ("positional argument follows keyword argument" ++
      if isSpread then " unpacking" else ""))

/-- The alternatives of the rules for mistakes in expressions. -/
def Phrase.inExpressionMistakes : Phrase → List Choice
  | wrongArguments => [
      blame 0 "iterable argument unpacking follows keyword argument unpacking" [args, ",", "*"],
      blame 0 generatorBare
        [expression, loops, ",", .option (.oneOf [[args], [expression, loops]])],
      blame 0 comparisonMeant [.name, "=", expression, loops],
      loopsBehindArguments,
      blame 2 generatorBare [args, ",", expression, loops],
      latePositional]
  | wrongNamedArgument => [
      blameBy 0 [.either ["True", "False", "None"], "="] fun parts =>
        "cannot assign to " ++ String.join ((parts.getD 0 .nothing).tokens.map Token.text),
      blame 0 comparisonMeant [.name, "=", expression, loops],
      blame 1 "expression cannot contain assignment, perhaps you meant \"==\"?"
        [.unless (.seq [.name, "="]), expression, "="]]
  | wrongLegacy => [
      judge [.name, .unless "(", starExpressions] fun parts =>
        let name := (parts.getD 0 .nothing).text
        if name == "print" || name == "exec" then
          .complain (.on (parts.getD 0 .nothing).line
            ("Missing parentheses in call to '" ++ name ++ "'. Did you mean " ++ name ++ "(...)?"))
        else .fail]
  | wrongExpression => [
      sideBySide,
      blame 0 "expected 'else' after 'if' expression"
        [disjunction, "if", disjunction, .unless (.either ["else", ":"])]]
  | wrongNamed => [
      blameBy 0 [expression, ":=", expression] fun parts =>
        "cannot use assignment expressions with " ++ describeAt parts 0,
      blame 0 comparisonMeant [.name, "=", bitOr, .unless (.either ["=", ":="])],
      blameBy 1
        [.unless (.either [Phrase.list, tuple, generator, "True", "None", "False"]), bitOr, "=",
          bitOr, .unless (.either ["=", ":="])]
        fun parts => "cannot assign to " ++ describeAt parts 1 ++
          " here. Maybe you meant '==' instead of '='?"]
  | wrongLoop => [
      blame 1 "iterable unpacking cannot be used in comprehension"
        [.either ["[", "(", "\x7b"], starred, loops],
      blame 1 "did you forget parentheses around the comprehension target?"
        [.either ["[", "\x7b"], starNamedExpression, ",", starNamedExpressions, loops],
      blame 1 "did you forget parentheses around the comprehension target?"
        [.either ["[", "\x7b"], starNamedExpression, ",", loops]]
  | wrongDictLoop => [
      blame 1 "dict unpacking cannot be used in dict comprehension"
        ["\x7b", "**", bitOr, loops, "\x7d"]]
  | wrongGroup => [
      blame 1 "cannot use starred expression here" ["(", starred, ")"],
      blame 1 "cannot use double starred expression here" ["(", "**", expression, ")"]]
  | wrongPairs => [
      { pass [.sepBy "," pair, ",", wrongPair] with isMistake := true }] ++ pairMistakes
  | wrongPair => [
      blame 0 "':' expected after dictionary key" [expression, .unless ":"]] ++ pairMistakes
  | _ => []
where
  /-- Mistakes in the value of a pair. -/
  pairMistakes : List Choice := [
    blame 2 "cannot use a starred expression in a dictionary value"
      [expression, ":", "*", bitOr],
    blame 1 "expression expected after dictionary key and ':'"
      [expression, ":", .ahead (.either ["\x7d", ","])]]

/-! ## Rules for statements -/

/-- The alternatives of the rules for mistakes in simple statements. -/
def Phrase.inSimpleMistakes : Phrase → List Choice
  | wrongAssignment => [
      blameBy 0 [wrongAnnotated, ":", expression] fun parts =>
        "only single target (not " ++ describeAt parts 0 ++ ") can be annotated",
      blame 0 "only single target (not tuple) can be annotated"
        [starNamedExpression, ",", .many starNamedExpressions, ":", expression],
      blame 0 "illegal target for annotation" [expression, ":", expression],
      judge [.many (.seq [starTargets, "="]), starExpressions, "="] (blameTarget .assign 1),
      blame 1 "assignment to yield expression not possible"
        [.many (.seq [starTargets, "="]), yieldExpression, "="],
      blameBy 0 [starExpressions, augmentation, .either [yieldExpression, starExpressions]]
        fun parts => "'" ++ describeAt parts 0 ++
          "' is an illegal expression for augmented assignment"]
  | wrongAnnotated => [
      pass [Phrase.list],
      pass [tuple],
      pick 1 ["(", wrongAnnotated, ")"]]
  | wrongDelete => [judge ["del", starExpressions] (blameTarget .delete 1)]
  | wrongBlock => [blameHere "expected an indented block" [.newline, .unless .indent]]
  | wrongForTarget => [
      judge [.option "async", "for", starExpressions] (blameTarget .loop 2)]
  | wrongImportTargets => [
      blameHere "trailing comma not allowed without surrounding parentheses"
        [.sepBy "," importTarget, ",", .newline]]
  | _ => []

/-- The alternatives of the rules for mistakes in statements with blocks. -/
def Phrase.inCompoundMistakes : Phrase → List Choice
  | wrongWithItem => [
      judge [expression, "as", expression, .ahead (.either [",", ")", ":"])]
        (blameTarget .assign 2)]
  | wrongWith => contextLists.map noColon
  | wrongWithBlock => contextLists.map (noBlock 1 "'with' statement")
  | wrongTry => [
      noBlock 0 "'try' statement" ["try"],
      blameHere "expected 'except' or 'finally' block"
        ["try", ":", block, .unless (.either ["except", "finally"])],
      blameHere "cannot have both 'except' and 'except*' on the same 'try'"
        ["try", ":", .many block,
          .oneOf [[.some exceptPart, exceptGroupPart], [.some exceptGroupPart, exceptPart]],
          .many block]]
  | wrongExcept => [
      blame 2 "multiple exception types must be parenthesized"
        ["except", .option "*", expression, ",", expressions, calledItem, ":"],
      noColon ["except", .option "*", expression, calledItem],
      noColon ["except"],
      blameHere "expected one or more exception types"
        ["except", "*", .either [.newline, ":"]]]
  | wrongFinally => [noBlock 0 "'finally' statement" ["finally"]]
  | wrongExceptBlock => [
      noBlock 0 "'except' statement" ["except", expression, calledItem],
      noBlock 0 "'except' statement" ["except"]]
  | wrongExceptGroupBlock => [
      noBlock 0 "'except*' statement" ["except", "*", expression, calledItem]]
  | wrongMatch => [
      noColon [.soft "match", subject],
      noBlock 0 "'match' statement" [.soft "match", subject]]
  | wrongCase => [
      noColon [.soft "case", patterns, .option guard],
      noBlock 0 "'case' statement" [.soft "case", patterns, .option guard]]
  | wrongAsPattern => [
      blame 2 "cannot use '_' as a target" [orPattern, "as", .soft "_"],
      blame 3 "invalid pattern target" [orPattern, "as", .unless .name, expression]]
  | wrongClassPattern => [
      blame 2 "positional patterns follow keyword patterns" [namePath, "(", lateArguments]]
  | lateArguments => [
      pick 3 [.option (.seq [positionalPatterns, ","]), keywordPatterns, ",", positionalPatterns]]
  | wrongIf => testMistakes "if"
  | wrongElif => testMistakes "elif"
  | wrongElse => [noBlock 0 "'else' statement" ["else"]]
  | wrongWhile => testMistakes "while"
  | wrongFor => [
      noColon [.option "async", "for", starTargets, "in", starExpressions],
      noBlock 1 "'for' statement" [.option "async", "for", starTargets, "in", starExpressions]]
  | wrongFunction => [
      noBlock 1 "function definition"
        [.option "async", "def", .name, "(", .option (params .definition), ")",
          .option (.seq ["->", expression])]]
  | wrongClass => [
      noColon ["class", .name, argumentsItem],
      noBlock 0 "class definition" ["class", .name, argumentsItem]]
  | _ => []

/-- The alternatives of the rules for mistakes. -/
def Phrase.inMistakes (r : Phrase) : List Choice :=
  r.inParameterMistakes ++ r.inExpressionMistakes ++ r.inSimpleMistakes ++ r.inCompoundMistakes

end ConfigAudit.Python
