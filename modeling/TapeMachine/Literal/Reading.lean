import TapeMachine.Literal.Grammar
import TapeMachine.Text.Lines
/-!
# Reading expressions

A text is cut into lexemes and the lexemes are read by the rules of the grammar. If they are no expression, they
are read once more with a look for common mistakes; if there is none, the complaint is a general one. What is
wrong with the lexemes further on in the text is told instead of a complaint, if it is loud, or if a bracket was
left open on an earlier line.

* `Literal.Source.overrule` : the complaint that is told;
* `Literal.readSource` : reading lexemes by one rule;
* `Literal.readExpression` : the expression that a text is.
-/

namespace TapeMachine.Literal

namespace Source

/-- The complaint about lexemes that end too early. -/
def stuck (source : Source) : Complaint :=
  match source.fault with
  | some fault => { fault, isOwn := !fault.isLoud }
  | none => { fault := .endsEarly }

/-- The complaint that is told where reading has complained behind `reach` lexemes. A bracket that was left open is
told even where the end of the text has been seen, if the complaint is a general one. -/
def overrule (source : Source) (reach : Nat) (isGeneral : Bool) (e : Complaint) : Complaint :=
  match source.fault with
  | none => e
  | some fault =>
      if fault.isLoud then { fault, isOwn := false }
      else match source.opened, source.lexemes[reach - 1]? with
        | o :: _, some latest =>
            if o.line < latest.line && (isGeneral || !latest.seesEnd) then { fault := .unclosed o.bracket }
            else e
        | _, _ => e

/-- The complaint where there is no common mistake, and `reach` lexemes were looked at before there was a look
for mistakes. -/
def generalFault (source : Source) (reach : Nat) : Fault :=
  match source.lexemes[reach - 1]? with
  | some ⟨.indent, _, _, _⟩ => .unexpectedIndent
  | some ⟨.dedent, _, _, _⟩ => .unexpectedUnindent
  | _ => .noExpression

end Source

/-- The greatest number of rules that stand in one another at one place. -/
def rulesAtPlace : Nat := 30

/-- The expression that lexemes make by a rule. -/
def readSource (inner : List Char → Except Complaint Unit)
    (start : (Rule → Parser Expression) → Parser Expression) (source : Source) : Except Complaint Expression :=
  let lexemes := source.lexemes.toArray
  let parser := start (Grammar.run inner (rulesAtPlace * (lexemes.size + 2)))
  match parser lexemes {} with
  | .found e _ => .ok e
  | .complaint e behind => .error (source.overrule behind.reach false e)
  | .stuck => .error source.stuck
  | .missing first | .refused first =>
      match parser lexemes { reach := first.reach, isProbing := true } with
      | .complaint e behind => .error (source.overrule behind.reach false e)
      | .stuck => .error source.stuck
      | .found _ behind | .missing behind | .refused behind =>
          match source.generalFault first.reach with
          | .noExpression => .error (source.overrule behind.reach true { fault := .noExpression })
          | fault => .error { fault }

/-- A complaint about an expression in a quotation, as one about the text around it. -/
def Complaint.outside (e : Complaint) : Complaint :=
  { fault := if e.isOwn then .inside e.fault else e.fault, isOwn := false }

/-- Checks an expression in a quotation. It may hold quotations itself, in which there are fewer characters. -/
def checkInner : Nat → List Char → Except Complaint Unit
  | 0, _ => .ok ()
  | fuel + 1, cs =>
      let source := Source.ofText ('(' :: (cs ++ [')', '\n']))
      match readSource (checkInner fuel) Grammar.interpolation source with
      | .ok _ => .ok ()
      | .error e => .error e.outside

/-- The expression that a text is. Blanks in front of it do not matter. -/
def readExpression (cs : List Char) : Except Fault Expression :=
  if cs.contains '\x00' then .error .zeroCharacter
  else
    let cs := Text.unifyNewlines (cs.dropWhile fun c => c = ' ' || c = '\t')
    (readSource (checkInner cs.length) Grammar.whole (Source.ofText cs)).mapError (·.fault)

end TapeMachine.Literal
