import TapeMachine.Literal.Quotation
/-!
# The grammar of expressions

The rules by which lexemes make an expression. Each form is given by the readers of its parts; where a part is
a rule of its own, the form takes it from outside, and `run` ties the rules together. Behind the forms stand the
common mistakes that are looked for where a form is missing. Square brackets close a tag of markup, so there are
neither lists nor subscripts.

* `Literal.Grammar.body` : what each rule looks for;
* `Literal.Grammar.run` : the rules tied together;
* `Literal.Grammar.whole`, `Literal.Grammar.interpolation` : an expression that is a whole text, and one in a
  quotation.
-/

namespace TapeMachine.Literal.Grammar

open TapeMachine.Literal.Parser

/-! ## 1. Words -/

/-- The words that are no names. -/
def keywords : List String :=
  ["False", "None", "True", "and", "as", "assert", "async", "await", "break", "class", "continue", "def", "del",
   "elif", "else", "except", "finally", "for", "from", "global", "if", "import", "in", "is", "lambda", "nonlocal",
   "not", "or", "pass", "raise", "return", "try", "while", "with", "yield"]

/-- A name. -/
def name : Parser String :=
  ofToken fun
    | .word text => if keywords.contains text then none else some text
    | _ => none

/-- A name that might become a word of the notation: one of three words, or a start of one. -/
def softName : Parser Unit :=
  ofToken fun
    | .word text => if ["_", "case", "match"].any (text.toList.isPrefixOf ·.toList) then some () else none
    | _ => none

/-- One of the words for a constant. -/
def constant : Parser String :=
  ofToken fun
    | .word text => if ["True", "False", "None"].contains text then some text else none
    | _ => none

/-- A number that is not too long. -/
def number : Parser Expression := do
  let n ← ofToken fun
    | .number n => some n
    | _ => none
  match n with
  | .overlong digits => complain (.overlong digits)
  | n => return .number n

/-- A quotation as it is written. -/
def quotation : Parser (List Char) :=
  ofToken fun
    | .quotation cs => some cs
    | _ => none

/-- One of several marks. -/
def anyMark (texts : List String) : Parser Unit :=
  firstOf (texts.map mark)

/-- The end of a parameter: a comma, or the colon ahead. -/
def endOfParameter : Parser Unit :=
  firstOf [mark ",", ahead (mark ":")]

/-- Whether a name was once a word of the notation. -/
def isLegacy : Expression → Bool
  | .name text => text = "print" || text = "exec"
  | _ => false

/-- Parts with commas between them, and perhaps one behind them. They make a tuple unless there is one part
without a comma. -/
def tupled (p : Parser Expression) : Parser Expression := do
  let first ← p
  let others ← many (do mark ","; p)
  let comma ← optional (mark ",")
  return if others.isEmpty && comma.isNone then first else .tuple (first :: others)

/-- Operands with operators between them, from left to right. -/
def chained (operand : Parser Expression) (operators : List String)
    (make : Expression → Expression → Expression) : Parser Expression := do
  grown (fun left => do anyMark operators; return make left (← operand)) (← operand)

/-- Operands with a word between them. -/
def joinedBy (word : String) (operand : Parser Expression) : Parser Expression := do
  let first ← operand
  let others ← many (do keyword word; operand)
  return if others.isEmpty then first else .operation

section Forms

variable (rule : Rule → Parser Expression)

/-! ## 2. Names of values -/

/-- A name that is given to a value. -/
def assignment : Parser Expression := do
  let _ ← name
  mark ":="
  let _ ← rule .expression
  return .assignment

/-- An expression to which no name is given. -/
def unnamed : Parser Expression := do
  let e ← rule .expression
  notAhead (mark ":=")
  return e

/-- An expression, or a name that is given to a value. -/
def named : Parser Expression :=
  firstOf [assignment rule, probing (do let _ ← rule .wrongNaming), unnamed rule]

/-- An expression, a name that is given to a value, or the items of something. -/
def starNamed : Parser Expression :=
  firstOf [do mark "*"; return .starred (← rule .bitOr), named rule]

/-- Items with commas between them, and perhaps one behind them. -/
def starNameds : Parser (List Expression) := do
  let items ← separated (starNamed rule)
  let _ ← optional (mark ",")
  return items

/-- All items of a value. -/
def starred : Parser Expression := do
  mark "*"
  return .starred (← rule .expression)

/-! ## 3. Comprehensions -/

/-- Targets with commas between them, and perhaps one behind them. -/
def starTargets : Parser Unit :=
  firstOf [
    do let _ ← rule .starTarget; notAhead (mark ","),
    do let _ ← separated (rule .starTarget); let _ ← optional (mark ",")]

/-- Values where something stands that is no target. -/
def wrongForTarget : Parser Unit := do
  let _ ← optional (keyword "async")
  keyword "for"
  match (← tupled (rule .starExpression)).wrongTarget? with
  | some e => complain (.assigned e.word)
  | none => refused

/-- What follows the word `in` of a clause. -/
def clauseTail : Parser Unit := do
  let _ ← rule .disjunction
  let _ ← many (do keyword "if"; rule .disjunction)

/-- A clause of a comprehension. -/
def forClause : Parser Unit :=
  let fromFor : Parser Unit := do
    keyword "for"
    starTargets rule
    keyword "in"
    sealed (clauseTail rule)
  firstOf [do keyword "async"; fromFor, fromFor, probing (wrongForTarget rule)]

/-- The clauses of a comprehension. -/
def forClauses : Parser Unit := do
  let _ ← many1 (forClause rule)

/-- A comprehension of unpacked items, or one without parentheses around its items. -/
def wrongComprehension : Parser Unit :=
  firstOf [
    do anyMark ["(", "\x7b"]; let _ ← starred rule; forClauses rule; complain .starredComprehension,
    do mark "\x7b"; let _ ← starNamed rule; mark ","; let _ ← starNameds rule; forClauses rule; complain .bareTarget,
    do mark "\x7b"; let _ ← starNamed rule; mark ","; forClauses rule; complain .bareTarget]

/-- A comprehension between parentheses. -/
def generator : Parser Expression :=
  firstOf [
    do
      mark "("
      let _ ← firstOf [assignment rule, unnamed rule]
      forClauses rule
      mark ")"
      return .generator,
    probing (wrongComprehension rule)]

/-! ## 4. Parentheses -/

/-- A value that is asked for or handed on. -/
def yielding : Parser Expression :=
  firstOf [
    do keyword "yield"; keyword "from"; let _ ← rule .expression; return .yielded,
    do keyword "yield"; let _ ← optional (tupled (rule .starExpression)); return .yielded]

/-- A tuple in parentheses. -/
def tuple : Parser Expression := do
  mark "("
  let items ← optional (do
    let first ← starNamed rule
    mark ","
    return first :: ((← optional (starNameds rule)).getD []))
  mark ")"
  return .tuple (items.getD [])

/-- Unpacked items alone in parentheses. -/
def wrongGroup : Parser Unit :=
  firstOf [
    do mark "("; let _ ← starred rule; mark ")"; complain .starredGroup,
    do mark "("; mark "**"; let _ ← rule .expression; mark ")"; complain .doubleStarredGroup]

/-- An expression in parentheses. -/
def group : Parser Expression :=
  firstOf [
    do
      mark "("
      let e ← firstOf [yielding rule, named rule]
      mark ")"
      return e,
    probing (wrongGroup rule)]

/-! ## 5. Braces -/

/-- A key and its value. -/
def keyed : Parser Expression := do
  let key ← rule .expression
  mark ":"
  return .entry key (← rule .expression)

/-- An entry of a dictionary, or all entries of another one. -/
def entry : Parser Expression :=
  firstOf [do mark "**"; return .entries (← rule .bitOr), keyed rule]

/-- A value of a dictionary that is missing or unpacked. -/
def wrongValue : List (Parser Unit) :=
  [do let _ ← rule .expression; mark ":"; mark "*"; let _ ← rule .bitOr; complain .starredValue,
   do let _ ← rule .expression; mark ":"; ahead (anyMark ["\x7d", ","]); complain .missingValue]

/-- An entry without a colon, or with a wrong value. -/
def wrongEntry : Parser Unit :=
  firstOf ((do let _ ← rule .expression; notAhead (mark ":"); complain .missingColon) :: wrongValue rule)

/-- Entries of which the last one or the first one is wrong. -/
def wrongEntries : Parser Unit :=
  firstOf ((do let _ ← separated (entry rule); mark ","; wrongEntry rule) :: wrongValue rule)

/-- A dictionary. -/
def dictionary : Parser Expression :=
  firstOf [
    do
      mark "\x7b"
      let entries ← optional (do
        let entries ← separated (entry rule)
        let _ ← optional (mark ",")
        return entries)
      mark "\x7d"
      return .dictionary (entries.getD []),
    do mark "\x7b"; wrongEntries rule; mark "\x7d"; return .dictionary []]

/-- A set. -/
def set : Parser Expression := do
  mark "\x7b"
  let items ← starNameds rule
  mark "\x7d"
  return .set items

/-- A comprehension of entries. -/
def dictionaryComprehension : Parser Expression :=
  firstOf [
    do mark "\x7b"; let _ ← keyed rule; forClauses rule; mark "\x7d"; return .dictionaryComprehension,
    probing (do
      mark "\x7b"
      mark "**"
      let _ ← rule .bitOr
      forClauses rule
      mark "\x7d"
      complain .doubleStarredComprehension)]

/-- A comprehension of items. -/
def setComprehension : Parser Expression :=
  firstOf [
    do mark "\x7b"; let _ ← named rule; forClauses rule; mark "\x7d"; return .setComprehension,
    probing (wrongComprehension rule)]

/-! ## 6. Calls -/

/-- An argument that has a name. -/
def namedArgument : Parser ArgumentKind := do
  let _ ← name
  mark "="
  let _ ← rule .expression
  return .named

/-- An argument whose name is none. -/
def wrongArgument : Parser Unit :=
  firstOf [
    do let word ← constant; mark "="; complain (.assigned word),
    do let _ ← namedArgument rule; forClauses rule; complain .singleEquals,
    do
      notAhead (do let _ ← name; mark "=")
      let _ ← rule .expression
      mark "="
      complain .assignedArgument]

/-- An argument with a name, or unpacked items. -/
def namedOrStarred : Parser ArgumentKind :=
  firstOf [probing (wrongArgument rule), namedArgument rule, do let _ ← starred rule; return .positional]

/-- An argument with a name, or unpacked entries. -/
def namedOrSpread : Parser ArgumentKind :=
  firstOf [
    probing (wrongArgument rule), namedArgument rule,
    do mark "**"; let _ ← rule .expression; return .spread]

/-- Arguments from the first one with a name on. -/
def namedArguments : Parser (List ArgumentKind) :=
  firstOf [
    do
      let first ← separated (namedOrStarred rule)
      mark ","
      return first ++ (← separated (namedOrSpread rule)),
    separated (namedOrStarred rule),
    separated (namedOrSpread rule)]

/-- An argument without a name. -/
def positionalArgument : Parser ArgumentKind := do
  firstOf [
    do let _ ← starred rule,
    do let _ ← firstOf [assignment rule, unnamed rule]; notAhead (mark "=")]
  return .positional

/-- Arguments. -/
def argumentKinds : Parser (List ArgumentKind) :=
  firstOf [
    do
      let first ← separated (positionalArgument rule)
      return first ++ ((← optional (do mark ","; namedArguments rule)).getD []),
    namedArguments rule]

/-- Arguments in an order that is not allowed, or a comprehension among them without parentheses. -/
def wrongArguments : Parser Unit :=
  let comprehension : Parser Unit := do
    let _ ← rule .expression
    forClauses rule
  firstOf [
    do let _ ← argumentKinds rule; mark ","; mark "*"; complain .spreadAfterNamed,
    do
      comprehension
      mark ","
      let _ ← optional (firstOf [do let _ ← argumentKinds rule, comprehension])
      complain .bareGenerator,
    do let _ ← namedArgument rule; forClauses rule; complain .singleEquals,
    do
      let kinds ← argumentKinds rule
      forClauses rule
      if kinds.count .positional ≤ 1 then refused else complain .bareGenerator,
    do let _ ← argumentKinds rule; mark ","; comprehension; complain .bareGenerator,
    do
      let kinds ← argumentKinds rule
      mark ","
      let _ ← argumentKinds rule
      complain (if kinds.contains .spread then .positionalAfterSpread else .positionalAfterNamed)]

/-- What stands between the parentheses of a call. -/
def arguments : Parser Expression :=
  firstOf [
    do
      let kinds ← argumentKinds rule
      let _ ← optional (mark ",")
      ahead (mark ")")
      return .arguments kinds,
    probing (wrongArguments rule)]

/-! ## 7. Functions -/

/-- A parameter without a default. -/
def plainParameter : Parser Unit := do
  let _ ← name
  endOfParameter

/-- The default of a parameter. -/
def defaultValue : Parser Unit :=
  firstOf [
    do mark "="; let _ ← rule .expression,
    probing (do mark "="; ahead (anyMark [")", ","]); complain .missingDefault)]

/-- A parameter with a default. -/
def defaultParameter : Parser Unit := do
  let _ ← name
  defaultValue rule
  endOfParameter

/-- A parameter with or without a default. -/
def parameter : Parser Unit := do
  let _ ← name
  let _ ← optional (defaultValue rule)
  endOfParameter

/-- Parameters without defaults that take no names, up to the slash behind them. -/
def slashPlain : Parser Unit := do
  let _ ← many1 plainParameter
  mark "/"
  endOfParameter

/-- Parameters that take no names, the last ones with defaults, up to the slash behind them. -/
def slashDefault : Parser Unit := do
  let _ ← many plainParameter
  let _ ← many1 (defaultParameter rule)
  mark "/"
  endOfParameter

/-- A parameter for all other entries in a wrong place. -/
def wrongSpreadParameter : Parser Unit :=
  let start : Parser Unit := do
    mark "**"
    let _ ← name
  firstOf [
    do start; mark "="; complain .spreadDefault,
    do start; mark ","; let _ ← name; complain .afterSpread,
    do start; mark ","; anyMark ["*", "**", "/"]; complain .afterSpread]

/-- A parameter for all other entries. -/
def spreadParameter : Parser Unit :=
  firstOf [probing wrongSpreadParameter, do mark "**"; plainParameter]

/-- Wrong parameters behind a star. -/
def wrongStarParameters : Parser Unit :=
  firstOf [
    do
      mark "*"
      firstOf [mark ":", do mark ","; anyMark [":", "**"]]
      complain .bareStar,
    do mark "*"; let _ ← name; mark "="; complain .starredDefault,
    do
      mark "*"
      firstOf [plainParameter, mark ","]
      let _ ← many (parameter rule)
      mark "*"
      firstOf [plainParameter, mark ","]
      complain .secondStar]

/-- The parameters from a star on. -/
def starParameters : Parser Unit :=
  firstOf [
    probing (wrongStarParameters rule),
    do
      mark "*"
      plainParameter
      let _ ← many (parameter rule)
      let _ ← optional spreadParameter,
    do
      mark "*"
      mark ","
      let _ ← many1 (parameter rule)
      let _ ← optional spreadParameter,
    spreadParameter]

/-- Parameters in a wrong order. -/
def wrongParameters : Parser Unit :=
  let slashed : Parser Unit := firstOf [slashPlain, slashDefault rule]
  firstOf [
    do
      let _ ← many plainParameter
      firstOf [slashDefault rule, do let _ ← many1 (defaultParameter rule)]
      plainParameter
      complain .unorderedParameters,
    do
      let _ ← many plainParameter
      mark "("
      let _ ← separated name
      let _ ← optional (mark ",")
      mark ")"
      complain .groupedParameters,
    do mark "/"; mark ","; complain .nothingBeforeSlash,
    do
      slashed
      let _ ← many (parameter rule)
      mark "/"
      complain .secondSlash,
    do
      let _ ← optional slashed
      let _ ← many (parameter rule)
      mark "*"
      firstOf [mark ",", plainParameter]
      let _ ← many (parameter rule)
      mark "/"
      complain .slashAfterStar,
    do
      let _ ← many1 (parameter rule)
      mark "/"
      mark "*"
      complain .slashStar]

/-- The parameters of a function. -/
def parameters : Parser Unit :=
  let tail : Parser Unit := do
    let _ ← many (defaultParameter rule)
    let _ ← optional (starParameters rule)
  firstOf [
    probing (wrongParameters rule),
    do
      slashPlain
      let _ ← many plainParameter
      tail,
    do slashDefault rule; tail,
    do
      let _ ← many1 plainParameter
      tail,
    do
      let _ ← many1 (defaultParameter rule)
      let _ ← optional (starParameters rule),
    starParameters rule]

/-- A function without a name. -/
def lambda : Parser Expression := do
  keyword "lambda"
  let _ ← optional (parameters rule)
  mark ":"
  let _ ← rule .expression
  return .lambda

/-! ## 8. Atoms and what follows them -/

/-- An expression of one lexeme, or one between parentheses or braces. -/
def atom : Parser Expression :=
  firstOf [
    .name <$> name,
    .constant <$> constant,
    rule .quotations,
    number,
    do ahead (mark "("); firstOf [tuple rule, group rule, generator rule],
    do
      ahead (mark "\x7b")
      firstOf [dictionary rule, set rule, dictionaryComprehension rule, setComprehension rule],
    do mark "..."; return .ellipsis]

/-- A part of a value, or a call of it. -/
def follow (e : Expression) : Parser Expression :=
  firstOf [
    do mark "."; let _ ← name; return .attribute,
    do let _ ← generator rule; return .call e false,
    do
      mark "("
      let arguments ← optional (rule .arguments)
      mark ")"
      return .call e arguments.isNone]

/-- Whether a part or a call follows. -/
def followAhead : Parser Unit :=
  anyMark ["(", "[", "."]

/-! ## 9. Operators -/

/-- Quotations side by side. -/
def quotations (inner : List Char → Except Complaint Unit) : Parser Expression := do
  ofExcept (joined inner (← many1 quotation))

/-- A value with powers, or a sign in front of it. -/
def factor : Parser Expression :=
  firstOf [
    do anyMark ["+", "-"]; return .sign (← rule .factor),
    do mark "~"; let _ ← rule .factor; return .operation,
    do
      let base ← rule .awaitPrimary
      match ← optional (do mark "**"; rule .factor) with
      | some _ => return .operation
      | none => return base]

/-- A comparison with one more value; whether it asks for what is in that value. -/
def compared : Parser Bool :=
  firstOf [
    do anyMark ["==", "!=", "<=", "<", ">=", ">"]; let _ ← rule .bitOr; return false,
    do keyword "not"; keyword "in"; let _ ← rule .bitOr; return false,
    do keyword "in"; let _ ← rule .bitOr; return true,
    do keyword "is"; keyword "not"; let _ ← rule .bitOr; return false,
    do keyword "is"; let _ ← rule .bitOr; return false]

/-- Values with comparisons between them. -/
def comparison : Parser Expression := do
  let left ← rule .bitOr
  match ← many (compared rule) with
  | [] => return left
  | isIn :: _ => return .comparison left isIn

/-- A choice between two values. -/
def conditional : Parser Expression := do
  let _ ← rule .disjunction
  keyword "if"
  let _ ← rule .disjunction
  keyword "else"
  let _ ← rule .expression
  return .conditional

/-- The forms of an expression. -/
def plainForms : List (Parser Expression) :=
  [conditional rule, rule .disjunction, lambda rule]

/-- Two expressions side by side in brackets, or a choice without a second value. -/
def wrongExpression : Parser Unit :=
  firstOf [
    do
      notAhead (firstOf [
        do let _ ← name; let _ ← quotation,
        softName])
      let left ← rule .disjunction
      let _ ← withoutProbing (firstOf (plainForms rule))
      if isLegacy left || (← level) = 0 then refused else complain .forgottenComma,
    do
      let _ ← rule .disjunction
      keyword "if"
      let _ ← rule .disjunction
      notAhead (firstOf [keyword "else", mark ":"])
      complain .forgottenElse]

/-- A name that was once a word of the notation, with what it is about behind it. -/
def wrongCall : Parser Unit := do
  let text ← name
  notAhead (mark "(")
  let _ ← tupled (rule .starExpression)
  if isLegacy (.name text) then complain (.forgottenParentheses text) else refused

/-- A value in the place of a name. -/
def wrongNaming : Parser Expression :=
  let noMore : Parser Unit := notAhead (anyMark ["=", ":="])
  firstOf [
    do
      let e ← rule .expression
      mark ":="
      let _ ← rule .expression
      complain (.named e.word),
    do
      let _ ← name
      mark "="
      let _ ← rule .bitOr
      noMore
      complain .singleEquals,
    do
      notAhead (firstOf [
        do let _ ← tuple rule,
        do let _ ← generator rule,
        do let _ ← constant])
      let e ← rule .bitOr
      mark "="
      let _ ← rule .bitOr
      noMore
      complain (.assignedHere e.word)]

/-! ## 10. Targets -/

/-- Several targets in parentheses, or a target with a comma behind it. -/
def targetTuple : Parser Unit :=
  firstOf [
    do
      let _ ← rule .starTarget
      let _ ← many1 (do mark ","; rule .starTarget)
      let _ ← optional (mark ","),
    do let _ ← rule .starTarget; mark ","]

/-- A target that is no part of a value. -/
def targetAtom : Parser Expression :=
  firstOf [
    .name <$> name,
    do mark "("; let e ← rule .starTargetAtom; mark ")"; return e,
    do mark "("; let _ ← optional (targetTuple rule); mark ")"; return .tuple []]

/-- The value of which a target is a part: a part or a call follows it. -/
def targetPrimary : Parser Expression := do
  let first ← atom rule
  ahead followAhead
  grown (fun e => do
    let e ← follow rule e
    ahead followAhead
    return e) first

end Forms

/-! ## 11. The rules -/

/-- What a rule looks for. -/
def body (inner : List Char → Except Complaint Unit) (rule : Rule → Parser Expression) :
    Rule → Parser Expression
  | .expression =>
      firstOf (probing (wrongExpression rule) :: probing (wrongCall rule) :: plainForms rule)
  | .starExpression => firstOf [do mark "*"; return .starred (← rule .bitOr), rule .expression]
  | .wrongNaming => wrongNaming rule
  | .disjunction => joinedBy "or" (rule .conjunction)
  | .conjunction => joinedBy "and" (rule .inversion)
  | .inversion => firstOf [do keyword "not"; let _ ← rule .inversion; return .operation, comparison rule]
  | .bitOr => chained (rule .bitXor) ["|"] fun _ _ => .operation
  | .bitXor => chained (rule .bitAnd) ["^"] fun _ _ => .operation
  | .bitAnd => chained (rule .shift) ["&"] fun _ _ => .operation
  | .shift => chained (rule .sum) ["<<", ">>"] fun _ _ => .operation
  | .sum => chained (rule .term) ["+", "-"] .sum
  | .term => chained (rule .factor) ["*", "/", "//", "%", "@"] fun _ _ => .operation
  | .factor => factor rule
  | .awaitPrimary => firstOf [do keyword "await"; let _ ← rule .primary; return .awaited, rule .primary]
  | .primary => do grown (follow rule) (← atom rule)
  | .quotations => quotations inner
  | .arguments => arguments rule
  | .starTarget => firstOf [do mark "*"; notAhead (mark "*"); rule .starTarget, rule .starTargetAtom]
  | .starTargetAtom =>
      firstOf [
        do
          let _ ← rule .targetPrimary
          mark "."
          let _ ← name
          notAhead followAhead
          return .attribute,
        targetAtom rule]
  | .targetPrimary => targetPrimary rule

/-- The rules tied together, to a depth. -/
def run (inner : List Char → Except Complaint Unit) : Nat → Rule → Parser Expression
  | 0, _ => missing
  | depth + 1, rule => remembered rule (body inner (run inner depth) rule)

/-- An expression that is a whole text. -/
def whole (rule : Rule → Parser Expression) : Parser Expression := do
  let e ← tupled (rule .expression)
  let _ ← many (token .newline)
  token .finish
  return e

/-- An expression in a quotation, whatever follows it. -/
def interpolation (rule : Rule → Parser Expression) : Parser Expression :=
  tupled (rule .starExpression)

end TapeMachine.Literal.Grammar
