import TapeMachine.Workspace.Timestamp
/-!
# Moments as standard texts

The standard text of a moment is a date, and perhaps any character and a time of day behind it. The date is a
year with a month and a day, or a year with a week and perhaps a day of the week; the time has hours and perhaps
minutes, seconds and a fraction. All of it may be written with separators or without. A zone may follow, which
does not change the clock.

* `IsoTime.dateLength` : where the date ends;
* `IsoTime.readDate`, `IsoTime.readClock` : the two parts;
* `Timestamp.ofIso` : the moment of a text.
-/

namespace TapeMachine.IsoTime

/-! ## 1. Dates -/

/-- A number of some decimal digits, and what follows it. -/
def number (count : Nat) (cs : List Char) : Option (Nat × List Char) :=
  let digits := (cs.take count).takeWhile Char.isDigit
  if digits.length < count then none
  else some (digits.foldl (fun n c => 10 * n + (c.toNat - '0'.toNat)) 0, cs.drop count)

/-- The number of characters of the date that a text starts with. Where a week without separators is followed by
digits, the time of day has an even number of them; where a hyphen and two digits follow a week, they are hours. -/
def dateLength (cs : List Char) : Nat :=
  if cs.length = 7 then 7
  else if cs[4]? = some '-' then
    if cs[5]? = some 'W' then
      if cs[8]? = some '-' && !(cs[10]?.any Char.isDigit) then 10 else 8
    else 10
  else if cs[4]? = some 'W' then
    let digits := ((cs.drop 7).takeWhile Char.isDigit).length
    if digits < 2 then 7 + digits else if digits % 2 = 0 then 8 else 7
  else 8

/-- What follows a hyphen, if there must be one. -/
def skipHyphen (isDashed : Bool) (cs : List Char) : Option (List Char) :=
  match isDashed, cs with
  | true, '-' :: rest => some rest
  | true, _ => none
  | false, cs => some cs

/-- The start of the day that a date says. -/
def readDate (cs : List Char) : Option Timestamp := do
  let (year, rest) ← number 4 cs
  let isDashed := rest.head? = some '-'
  let rest := if isDashed then rest.tail else rest
  match rest with
  | 'W' :: rest =>
      let (week, rest) ← number 2 rest
      if rest.isEmpty then Timestamp.ofWeek? year week 1
      else
        let (dayOfWeek, _) ← number 1 (← skipHyphen isDashed rest)
        Timestamp.ofWeek? year week dayOfWeek
  | rest =>
      let (month, rest) ← number 2 rest
      let (dayOfMonth, _) ← number 2 (← skipHyphen isDashed rest)
      return { year, month, dayOfMonth }

/-! ## 2. Times of day -/

/-- Hours, minutes and seconds as far as they are said, the microseconds, and whether that is all of the text. -/
structure Clock where
  parts : List Nat
  micros : Nat := 0
  isWhole : Bool := true

/-- The microseconds of a fraction, of which six digits count, and whether nothing follows it. -/
def readFraction (cs : List Char) : Option (Nat × Bool) := do
  let count := min 6 cs.length
  let (n, rest) ← number count cs
  return (n * Nat.pow 10 (6 - count), (rest.dropWhile Char.isDigit).isEmpty)

/-- A clock with more parts in front. -/
def Clock.push (part : Nat) (clock : Clock) : Clock :=
  { clock with parts := part :: clock.parts }

/-- At most so many more parts of a clock, and its fraction. Whether the parts have separators is said by what
follows the first one. -/
def clockFrom (isSeparated : Option Bool) : Nat → List Char → Option Clock
  | 0, cs => do
      let (micros, isWhole) ← readFraction cs
      return { parts := [], micros, isWhole }
  | count + 1, cs => do
      let (part, rest) ← number 2 cs
      match rest with
      | [] => return { parts := [part] }
      | [_] => return { parts := [part], isWhole := false }
      | c :: more =>
          let isSeparated := isSeparated.getD (c = ':')
          if isSeparated && c = ':' then return (← clockFrom (some true) count more).push part
          else if c = '.' || c = ',' then return (← clockFrom none 0 more).push part
          else if isSeparated then none
          else return (← clockFrom (some false) count rest).push part

/-- The clock that a text is, if it has any parts. -/
def readClock (cs : List Char) : Option Clock :=
  clockFrom none 3 cs

/-- Whether a character starts a zone. -/
def startsZone (c : Char) : Bool :=
  c = '+' || c = '-' || c = 'Z'

/-- Whether a text is a zone: the letter for none, or a difference of less than a day. -/
def isZone : List Char → Bool
  | ['Z'] => true
  | c :: cs => c ≠ 'Z' && (readClock cs).any fun clock =>
      clock.isWhole &&
        (clock.parts.getD 0 0 * 60 + clock.parts.getD 1 0) * 60 + clock.parts.getD 2 0 < 86400
  | [] => false

/-- The clock of a text, which a zone may follow. In front of a zone other characters may stand. -/
def readTime (cs : List Char) : Option Clock := do
  let zone := cs.dropWhile (!startsZone ·)
  let clock ← readClock (cs.takeWhile (!startsZone ·))
  if zone.isEmpty then
    if clock.isWhole then return clock else none
  else if isZone zone then return clock
  else none

/-- The moment of a text, with numbers that may be out of range. -/
def read (cs : List Char) : Option Timestamp := do
  let length := dateLength cs
  let day ← readDate (cs.take length)
  let rest := cs.drop length
  if rest.isEmpty then return day
  else
    let clock ← readTime rest.tail
    return { day with
      hour := clock.parts.getD 0 0
      minute := clock.parts.getD 1 0
      second := clock.parts.getD 2 0
      micros := clock.micros }

end TapeMachine.IsoTime

namespace TapeMachine

/-- The moment of a standard text. -/
def Timestamp.ofIso (s : String) : Except TimeError Timestamp :=
  match IsoTime.read s.toList with
  | some t => t.check
  | none => .error (.malformed s)

end TapeMachine
