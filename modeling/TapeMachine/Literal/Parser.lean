import Std.Data.HashMap
import TapeMachine.Literal.Expression
import TapeMachine.Literal.Lexeme
/-!
# Reading by rules

An expression is read by rules that look for a part at a place among the lexemes. A rule that does not find
its part goes back and lets another one try. What a rule has found at a place is remembered. When a text is no
expression, the rules are tried once more, and then some of them look for common mistakes and complain.

* `Literal.Rule`, `Literal.Progress`, `Literal.Outcome` : rules, how far reading is, and what comes out;
* `Literal.Parser` : readers of a part;
* `Literal.Parser.firstOf`, `many`, `grown`, `sealed`, `remembered` : readers made of others.
-/

namespace TapeMachine.Literal

/-- The rules whose results are remembered, or which stand inside their own parts. -/
inductive Rule where
  | expression
  | starExpression
  | wrongNaming
  | disjunction
  | conjunction
  | inversion
  | bitOr
  | bitXor
  | bitAnd
  | shift
  | sum
  | term
  | factor
  | awaitPrimary
  | primary
  | quotations
  | arguments
  | starTarget
  | starTargetAtom
  | targetPrimary
  deriving BEq, Hashable, DecidableEq, Repr

/-- How far reading is. -/
structure Progress where
  place : Nat := 0
  /-- The number of lexemes that have been looked at. -/
  reach : Nat := 0
  /-- Whether there is a look for mistakes. -/
  isProbing : Bool := false
  known : Std.HashMap (Rule × Nat) (Option (Expression × Nat)) := {}

/-- A complaint of this text, or one of an expression in one of its quotations. -/
structure Complaint where
  fault : Fault
  isOwn : Bool := true

/-- What comes out of reading a part. -/
inductive Outcome (α : Type) where
  | found (a : α) (progress : Progress)
  | missing (progress : Progress)
  /-- The part is missing, and the rule tries nothing else. -/
  | refused (progress : Progress)
  | complaint (e : Complaint) (progress : Progress)
  /-- The lexemes end before the text does. -/
  | stuck

/-- A reader of a part. -/
def Parser (α : Type) : Type :=
  Array Lexeme → Progress → Outcome α

namespace Parser

variable {α β : Type}

instance : Monad Parser where
  pure a := fun _ progress => .found a progress
  bind p f := fun lexemes progress =>
    match p lexemes progress with
    | .found a progress => f a lexemes progress
    | .missing progress => .missing progress
    | .refused progress => .refused progress
    | .complaint e progress => .complaint e progress
    | .stuck => .stuck

/-! ## 1. Single lexemes -/

/-- Nothing is found. -/
def missing : Parser α :=
  fun _ progress => .missing progress

/-- Nothing is found, and the rule tries nothing else. -/
def refused : Parser α :=
  fun _ progress => .refused progress

/-- A complaint ends the reading. -/
def complain (fault : Fault) : Parser α :=
  fun _ progress => .complaint { fault } progress

/-- A result, or a complaint that ends the reading. -/
def ofExcept (x : Except Complaint α) : Parser α :=
  fun _ progress =>
    match x with
    | .ok a => .found a progress
    | .error e => .complaint e progress

/-- The next lexeme. -/
def next : Parser Lexeme :=
  fun lexemes progress =>
    match lexemes[progress.place]? with
    | some lexeme =>
        .found lexeme
          { progress with place := progress.place + 1, reach := max progress.reach (progress.place + 1) }
    | none => .stuck

/-- The next token, if it is one of those that are looked for. -/
def ofToken (f : Token → Option α) : Parser α := do
  match f (← next).token with
  | some a => return a
  | none => missing

/-- A token. -/
def token (t : Token) : Parser Unit :=
  ofToken fun found => if found = t then some () else none

/-- A mark. -/
def mark (text : String) : Parser Unit :=
  token (.mark text)

/-- A word of the notation. -/
def keyword (text : String) : Parser Unit :=
  token (.word text)

/-- The number of open brackets behind the latest lexeme. -/
def level : Parser Nat :=
  fun lexemes progress =>
    .found (((lexemes[progress.place - 1]?).map (·.level)).getD 0) progress

/-! ## 2. Readers made of others -/

/-- The first part that is found at this place. -/
def firstOf : List (Parser α) → Parser α
  | [] => missing
  | p :: ps => fun lexemes progress =>
      match p lexemes progress with
      | .missing behind => firstOf ps lexemes { behind with place := progress.place }
      | .refused behind => .missing behind
      | outcome => outcome

/-- From here on the rule tries nothing else. -/
def sealed (p : Parser α) : Parser α :=
  fun lexemes progress =>
    match p lexemes progress with
    | .missing behind => .refused behind
    | outcome => outcome

/-- A part that may be missing. -/
def optional (p : Parser α) : Parser (Option α) :=
  firstOf [some <$> p, pure none]

/-- Parts one after the other, at most as many as the bound says. -/
def manyUpTo (bound : Nat) (p : Parser α) : Parser (List α) :=
  match bound with
  | 0 => pure []
  | bound + 1 => do
      match ← optional p with
      | some a => return a :: (← manyUpTo bound p)
      | none => return []

/-- Parts one after the other. -/
def many (p : Parser α) : Parser (List α) :=
  fun lexemes progress => manyUpTo (lexemes.size + 1 - progress.place) p lexemes progress

/-- Parts one after the other, at least one. -/
def many1 (p : Parser α) : Parser (List α) := do
  return (← p) :: (← many p)

/-- Parts with commas between them, at least one. -/
def separated (p : Parser α) : Parser (List α) := do
  return (← p) :: (← many (do mark ","; p))

/-- A part that grows as long as more can be added to it, at most as often as the bound says. -/
def growUpTo (bound : Nat) (step : α → Parser α) (a : α) : Parser α :=
  match bound with
  | 0 => pure a
  | bound + 1 => do
      match ← optional (step a) with
      | some b => growUpTo bound step b
      | none => return a

/-- A part that grows as long as more can be added to it. -/
def grown (step : α → Parser α) (a : α) : Parser α :=
  fun lexemes progress => growUpTo (lexemes.size + 1 - progress.place) step a lexemes progress

/-- Looks whether a part follows, and goes back. -/
def ahead (p : Parser α) : Parser Unit :=
  fun lexemes progress =>
    match p lexemes progress with
    | .found _ behind => .found () { behind with place := progress.place }
    | .missing behind | .refused behind => .missing behind
    | .complaint e behind => .complaint e behind
    | .stuck => .stuck

/-- Looks whether a part does not follow, and goes back. -/
def notAhead (p : Parser α) : Parser Unit :=
  fun lexemes progress =>
    match p lexemes progress with
    | .found _ behind => .missing behind
    | .missing behind | .refused behind => .found () { behind with place := progress.place }
    | .complaint e behind => .complaint e behind
    | .stuck => .stuck

/-- A look for a mistake. It finds nothing; at most it complains. -/
def probing (p : Parser Unit) : Parser α :=
  fun lexemes progress =>
    if progress.isProbing then
      match p lexemes progress with
      | .found _ behind | .missing behind | .refused behind => .missing behind
      | .complaint e behind => .complaint e behind
      | .stuck => .stuck
    else .missing progress

/-- A part in which there is no look for mistakes. -/
def withoutProbing (p : Parser α) : Parser α :=
  fun lexemes progress =>
    match p lexemes { progress with isProbing := false } with
    | .found a behind => .found a { behind with isProbing := progress.isProbing }
    | .missing behind => .missing { behind with isProbing := progress.isProbing }
    | .refused behind => .refused { behind with isProbing := progress.isProbing }
    | .complaint e behind => .complaint e behind
    | .stuck => .stuck

/-- What a rule finds at a place is remembered. -/
def remembered (rule : Rule) (p : Parser Expression) : Parser Expression :=
  fun lexemes progress =>
    let key := (rule, progress.place)
    match progress.known[key]? with
    | some (some (e, place)) => .found e { progress with place := place }
    | some none => .missing progress
    | none =>
        match p lexemes progress with
        | .found e behind =>
            .found e { behind with known := behind.known.insert key (some (e, behind.place)) }
        | .missing behind | .refused behind =>
            .missing { behind with known := behind.known.insert key none }
        | .complaint e behind => .complaint e behind
        | .stuck => .stuck

end Parser

end TapeMachine.Literal
