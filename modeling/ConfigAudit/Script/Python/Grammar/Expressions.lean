/-
# The grammar of expressions

* `Phrase.inExpressions` : the alternatives of the rules for expressions.
-/
import ConfigAudit.Script.Python.Grammar

namespace ConfigAudit.Python

open Phrase Choice

/-! ## Operators -/

/-- Operators with a value on both sides, which may be repeated. -/
def repeated (operand : Phrase) (operators : List String) : Choice :=
  let rest : Item := .many (.seq [.either (operators.map Item.ofText), operand])
  ⟨false, [operand, rest], fun line _ parts => .yield (match (Tree.list parts).exprs with
    | [e] => .expr e
    | es => .expr ⟨.operation, line, es⟩)⟩

/-- Comparisons, which may be repeated. -/
def comparisons : Choice :=
  ⟨false, [bitOr, .many comparisonRest], fun line _ parts =>
    let operators := (Tree.list parts).tokens
    .yield (match (Tree.list parts).exprs with
      | [e] => .expr e
      | es => .expr ⟨.comparison (operators.head?.any fun t => t.label == .word "in"), line, es⟩)⟩

/-- A value with members, calls and items behind it. -/
def trailers : Choice :=
  ⟨false, [atom, .many trailer], fun line _ parts =>
    .yield (match (parts.getD 1 .nothing).exprs.getLast? with
      | some last => .expr ⟨last.kind, line, []⟩
      | none => parts.getD 0 .nothing)⟩

/-! ## Numbers -/

/-- How many digits a whole number may have. -/
def maxDigits : Nat := 4300

/-- The digits of a decimal whole number that has too many of them. -/
def tooManyDigits? (text : String) : Option Nat :=
  let digits := text.toList.filter (· != '_')
  if digits.all Char.isDigit && maxDigits < digits.length then some digits.length else none

/-- A number. -/
def numeral : Choice :=
  ⟨false, [.number], fun line _ parts => match tooManyDigits? (parts.getD 0 .nothing).text with
    | some n => .complain (.on line ("Exceeds the limit (" ++ toString maxDigits ++
        " digits) for integer string conversion: value has " ++ toString n ++
        " digits; use sys.set_int_max_str_digits() to increase the limit - Consider hexadecimal " ++
        "for huge integer literals to avoid decimal conversion limits."))
    | none => .yield (.expr ⟨.literal, line, []⟩)⟩

/-! ## Arguments -/

/-- Whether an argument has a name, or brings names with it. -/
def Expr.isNamed (e : Expr) : Bool := e.kind == .keyword || e.kind == .spread

/-- The arguments of a call; those with names are left out. -/
def argumentList (items : List Item) : Choice :=
  ⟨false, items, fun line _ parts =>
    let es := (Tree.list parts).exprs
    .yield (.expr ⟨.arguments (es.any fun e => e.kind == .spread), line,
      es.filter fun e => !e.isNamed⟩)⟩

/-! ## Rules -/

/-- The alternatives of the rules for expressions. -/
def Phrase.inExpressions : Phrase → List Choice
  | expressions => [
      node .tuple [expression, .some (.seq [",", expression]), .option ","],
      node .tuple [expression, ","],
      pass [expression]]
  | expression => [
      mistake wrongExpression,
      mistake wrongLegacy,
      node .conditional [disjunction, "if", disjunction, "else", expression],
      pass [disjunction],
      pass [Phrase.lambda]]
  | plainExpression => [
      node .conditional [disjunction, "if", disjunction, "else", expression],
      pass [disjunction],
      pass [Phrase.lambda]]
  | yieldExpression => [
      node .yielded ["yield", "from", expression],
      node .yielded ["yield", .option starExpressions]]
  | starExpressions => [
      node .tuple [starExpression, .some (.seq [",", starExpression]), .option ","],
      node .tuple [starExpression, ","],
      pass [starExpression]]
  | starExpression => [
      node .starred ["*", bitOr],
      pass [expression]]
  | starNamedExpressions => [pass [.sepBy "," starNamedExpression, .option ","]]
  | starNamedExpression => [
      node .starred ["*", bitOr],
      pass [namedExpression]]
  | assignmentExpression => [node .named [.name, ":=", .cut, expression]]
  | namedExpression => [
      pass [assignmentExpression],
      mistake wrongNamed,
      pick 0 [expression, .unless ":="]]
  | disjunction => [repeated conjunction ["or"]]
  | conjunction => [repeated inversion ["and"]]
  | inversion => [
      node .operation ["not", inversion],
      pass [Phrase.comparison]]
  | Phrase.comparison => [comparisons]
  | comparisonRest => [
      pass [.either ["==", "!=", "<=", "<", ">=", ">"], bitOr],
      pass ["not", "in", bitOr],
      pass ["in", bitOr],
      pass ["is", "not", bitOr],
      pass ["is", bitOr]]
  | bitOr => [repeated bitXor ["|"]]
  | bitXor => [repeated bitAnd ["^"]]
  | bitAnd => [repeated shift ["&"]]
  | shift => [repeated sum ["<<", ">>"]]
  | sum => [repeated term ["+", "-"]]
  | term => [repeated factor ["*", "/", "//", "%", "@"]]
  | factor => [
      node .operation [.either ["+", "-", "~"], factor],
      pass [power]]
  | power => [
      node .operation [awaited, "**", factor],
      pass [awaited]]
  | awaited => [
      node .awaited ["await", primary],
      pass [primary]]
  | primary => [trailers]
  | trailer => [
      node .member [".", .name],
      node .call [generator],
      node .call ["(", .option Phrase.arguments, ")"],
      node .item ["[", slices, "]"]]
  | slices => [
      pick 0 [slice, .unless ","],
      node .tuple [.sepBy "," (.either [slice, starred]), .option ","]]
  | slice => [
      pass [.option expression, ":", .option expression, .option (.seq [":", .option expression])],
      pass [namedExpression]]
  | atom => [
      nodeBy (fun parts => .name (parts.getD 0 .nothing).text) [.name],
      node (.constant "True") ["True"],
      node (.constant "False") ["False"],
      node (.constant "None") ["None"],
      pass [texts],
      numeral,
      pick 1 [.ahead "(", .either [tuple, group, generator]],
      pick 1 [.ahead "[", .either [Phrase.list, listLoop]],
      pick 1 [.ahead "\x7b", .either [dict, Phrase.set, dictLoop, setLoop]],
      node .ellipsis ["..."]]
  | texts => [pass [.literals]]
  | group => [
      pick 1 ["(", .either [yieldExpression, namedExpression], ")"],
      mistake wrongGroup]
  | Phrase.lambda => [node .lambda ["lambda", .option (params .lambda), ":", expression]]
  | Phrase.list => [node .list ["[", .option starNamedExpressions, "]"]]
  | tuple => [
      node .tuple
        ["(", .option (.seq [starNamedExpression, ",", .option starNamedExpressions]), ")"]]
  | Phrase.set => [node .set ["\x7b", starNamedExpressions, "\x7d"]]
  | dict => [
      node .dict ["\x7b", .option pairs, "\x7d"],
      { pass ["\x7b", wrongPairs, "\x7d"] with isMistake := true }]
  | pairs => [pass [.sepBy "," pair, .option ","]]
  | pair => [
      pass ["**", bitOr],
      pass [keyValue]]
  | keyValue => [pass [expression, ":", expression]]
  | loops => [pass [.some loop]]
  | loop => [
      pass ["async", "for", starTargets, "in", .cut, disjunction, .many (.seq ["if", disjunction])],
      pass ["for", starTargets, "in", .cut, disjunction, .many (.seq ["if", disjunction])],
      mistake wrongForTarget]
  | listLoop => [
      node .listLoop ["[", namedExpression, loops, "]"],
      mistake wrongLoop]
  | setLoop => [
      node .setLoop ["\x7b", namedExpression, loops, "\x7d"],
      mistake wrongLoop]
  | generator => [
      node .generator
        ["(", .oneOf [[assignmentExpression], [expression, .unless ":="]], loops, ")"],
      mistake wrongLoop]
  | dictLoop => [
      node .dictLoop ["\x7b", keyValue, loops, "\x7d"],
      mistake wrongDictLoop]
  | Phrase.arguments => [
      pick 0 [args, .option ",", .ahead ")"],
      mistake wrongArguments]
  | args => [
      argumentList [.sepBy "," argument, .option (.seq [",", namedArgs])],
      argumentList [namedArgs]]
  | argument => [
      pick 0 [starred],
      pick 0 [.oneOf [[assignmentExpression], [expression, .unless ":="]], .unless "="]]
  | namedArgs => [
      pass [.sepBy "," namedOrStarred, ",", .sepBy "," namedOrSpread],
      pass [.sepBy "," namedOrStarred],
      pass [.sepBy "," namedOrSpread]]
  | namedOrStarred => [
      mistake wrongNamedArgument,
      node .keyword [.name, "=", expression],
      pass [starred]]
  | namedOrSpread => [
      mistake wrongNamedArgument,
      node .keyword [.name, "=", expression],
      node .spread ["**", expression]]
  | starred => [node .starred ["*", expression]]
  | _ => []

end ConfigAudit.Python
