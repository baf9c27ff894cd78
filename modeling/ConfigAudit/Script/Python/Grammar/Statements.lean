/-
# The grammar of statements

* `Phrase.inStatements` : the alternatives of the rules for statements.
-/
import ConfigAudit.Script.Python.Grammar

namespace ConfigAudit.Python

open Phrase Choice

/-! ## Definitions and imports -/

/-- The definition of a function, whose name stands at a place. -/
def functionAt (k : Nat) (items : List Item) : Choice :=
  states (fun parts =>
    [.function (parts.getD k .nothing).text (Tree.list parts).allStatements]) items

/-- An import of modules. -/
def importOf (items : List Item) : Choice :=
  states (fun parts => [.importNames (Tree.list parts).allWords]) items

/-- An import from a module, with its points behind the first item. -/
def importFromOf (items : List Item) : Choice :=
  states (fun parts =>
    let points := (String.join ((parts.getD 1 .nothing).tokens.map Token.text)).length
    [.importFrom points ((Tree.list parts).allWords.headD "")]) items

/-- A name with points in it. -/
def dotted (items : List Item) : Choice :=
  ⟨false, items, fun _ _ parts =>
    .yield (.words (String.join ((Tree.list parts).tokens.map Token.meaning)))⟩

/-- The choice of what may follow an equals sign. -/
def valueItem : Item := .either [yieldExpression, starExpressions]

/-- A name that something may be called instead. -/
def newName : Item := .option (.seq ["as", .name])

/-- Contexts in brackets, with what is done in them. -/
def contexts : List Item := ["(", .sepBy "," withItem, .option ",", ")", ":", block]

/-! ## Rules -/

/-- The alternatives of the rules for statements. -/
def Phrase.inStatements : Phrase → List Choice
  | file => [pick 0 [.option statements, .finish]]
  | statements => [pass [.some statement]]
  | statement => [
      pass [compoundStatement],
      pass [simpleStatements]]
  | simpleStatements => [
      pass [simpleStatement, .unless ";", .newline],
      pass [.sepBy ";" simpleStatement, .option ";", .newline]]
  | simpleStatement => [
      simple [assignment],
      simple [starExpressions],
      simple ["return", .option starExpressions],
      importOf ["import", .sepBy "," moduleAlias],
      importFromOf ["from", .many (.either [".", "..."]), dottedName, "import", importTargets],
      importFromOf ["from", .some (.either [".", "..."]), "import", importTargets],
      simple ["raise", expression, .option (.seq ["from", expression])],
      simple ["raise"],
      simple ["pass"],
      simple ["del", deleteTargets, .ahead (.either [";", .newline])],
      mistake wrongDelete,
      simple [.ahead "yield", yieldExpression],
      simple ["assert", expression, .option (.seq [",", expression])],
      simple ["break"],
      simple ["continue"],
      simple ["global", .sepBy "," .name],
      simple ["nonlocal", .sepBy "," .name]]
  | compoundStatement => [
      pick 1 [.ahead (.either ["def", "@", "async"]), functionDefinition],
      pick 1 [.ahead "if", ifStatement],
      pick 1 [.ahead (.either ["class", "@"]), classDefinition],
      pick 1 [.ahead (.either ["with", "async"]), withStatement],
      pick 1 [.ahead (.either ["for", "async"]), forStatement],
      pick 1 [.ahead "try", tryStatement],
      pick 1 [.ahead "while", whileStatement],
      pass [matchStatement]]
  | block => [
      pick 2 [.newline, .indent, statements, .dedent],
      pass [simpleStatements],
      mistake wrongBlock]
  | assignment => [
      pass [.name, ":", expression, .option (.seq ["=", assignedValue])],
      pass [.oneOf [["(", singleTarget, ")"], [memberTarget]], ":", expression,
        .option (.seq ["=", assignedValue])],
      pass [.some (.seq [starTargets, "="]), valueItem, .unless "="],
      pass [singleTarget, augmentation, .cut, valueItem],
      mistake wrongAssignment]
  | assignedValue => [pass [valueItem]]
  | augmentation => [
      pass [.either ["+=", "-=", "*=", "@=", "/=", "%=", "&=", "|=", "^=", "<<=", ">>=", "**=",
        "//="]]]
  | importTargets => [
      pass ["(", .sepBy "," importTarget, .option ",", ")"],
      pass [.sepBy "," importTarget, .unless ","],
      pass ["*"],
      mistake wrongImportTargets]
  | importTarget => [pass [.name, newName]]
  | moduleAlias => [pick 0 [dottedName, newName]]
  | dottedName => [dotted [.name, .many (.seq [".", .name])]]
  | decorators => [pass [.some (.seq ["@", namedExpression, .newline])]]
  | classDefinition => [
      pick 1 [decorators, classBody],
      pass [classBody]]
  | classBody => [
      mistake wrongClass,
      compound ["class", .name, .option (.seq ["(", .option Phrase.arguments, ")"]), ":", block]]
  | functionDefinition => [
      pick 1 [decorators, functionBody],
      pass [functionBody]]
  | functionBody => [
      mistake wrongFunction,
      functionAt 1 ["def", .name, .demand "(", .option (params .definition), ")",
        .option (.seq ["->", expression]), .demand ":", block],
      functionAt 2 ["async", "def", .name, .demand "(", .option (params .definition), ")",
        .option (.seq ["->", expression]), .demand ":", block]]
  | ifStatement => [
      mistake wrongIf,
      compound ["if", namedExpression, ":", block, elifPart],
      compound ["if", namedExpression, ":", block, .option elsePart]]
  | elifPart => [
      mistake wrongElif,
      compound ["elif", namedExpression, ":", block, elifPart],
      compound ["elif", namedExpression, ":", block, .option elsePart]]
  | elsePart => [
      mistake wrongElse,
      pick 2 ["else", .demand ":", block]]
  | whileStatement => [
      mistake wrongWhile,
      compound ["while", namedExpression, ":", block, .option elsePart]]
  | forStatement => [
      mistake wrongFor,
      compound ["for", starTargets, "in", .cut, starExpressions, ":", block, .option elsePart],
      compound ["async", "for", starTargets, "in", .cut, starExpressions, ":", block,
        .option elsePart],
      mistake wrongForTarget]
  | withStatement => [
      mistake wrongWithBlock,
      compound ("with" :: contexts),
      compound ["with", .sepBy "," withItem, ":", block],
      compound ("async" :: "with" :: contexts),
      compound ["async", "with", .sepBy "," withItem, ":", block],
      mistake wrongWith]
  | withItem => [
      pass [expression, "as", starTarget, .ahead (.either [",", ")", ":"])],
      mistake wrongWithItem,
      pass [expression]]
  | tryStatement => [
      mistake wrongTry,
      compound ["try", .demand ":", block, finallyPart],
      compound ["try", .demand ":", block, .some exceptPart, .option elsePart, .option finallyPart],
      compound ["try", .demand ":", block, .some exceptGroupPart, .option elsePart,
        .option finallyPart]]
  | exceptPart => [
      mistake wrongExceptBlock,
      compound ["except", expression, newName, ":", block],
      compound ["except", ":", block],
      mistake wrongExcept]
  | exceptGroupPart => [
      mistake wrongExceptGroupBlock,
      compound ["except", "*", expression, newName, ":", block],
      mistake wrongExcept]
  | finallyPart => [
      mistake wrongFinally,
      pick 2 ["finally", .demand ":", block]]
  | matchStatement => [
      compound [.soft "match", subject, ":", .newline, .indent, .some casePart, .dedent],
      mistake wrongMatch]
  | subject => [
      pass [starNamedExpression, ",", .option starNamedExpressions],
      pass [namedExpression]]
  | casePart => [
      mistake wrongCase,
      compound [.soft "case", patterns, .option guard, ":", block]]
  | guard => [pass ["if", namedExpression]]
  | _ => []

end ConfigAudit.Python
