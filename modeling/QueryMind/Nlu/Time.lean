import QueryMind.Nlu.Vocabulary

namespace QueryMind.Nlu
open Lib Lib.Calendar Lib.Pattern
set_option autoImplicit true

/-- What date arithmetic raises. -/
inductive DateError
  | overflowError
  | valueError
  | assertionError
  deriving DecidableEq, Repr

def maxYear : Nat := 9999

/-- The dates that Python's `date` holds. -/
structure Valid (d : Date) : Prop where
  proper : d.Proper
  year_le : d.year ≤ maxYear

instance (d : Date) : Decidable (Valid d) :=
  decidable_of_iff (d.Proper ∧ d.year ≤ maxYear) ⟨fun h => ⟨h.1, h.2⟩, fun h => ⟨h.1, h.2⟩⟩

def date (y m d : Nat) : Except DateError Date :=
  if Valid ⟨y, m, d⟩ then .ok ⟨y, m, d⟩ else .error .valueError

/-- A sum of a date and some days, within the years that `date` holds. -/
def inRange (d : Date) : Except DateError Date :=
  if 1 ≤ d.year ∧ d.year ≤ maxYear then .ok d else .error .overflowError

def plusDays (d : Date) (n : Nat) : Except DateError Date := inRange (d.later n)

def minusDays (d : Date) (n : Nat) : Except DateError Date := inRange (d.earlier n)

def monthNames : List (String × Nat) :=
  [("january", 1), ("jan", 1), ("february", 2), ("feb", 2), ("march", 3), ("mar", 3),
    ("april", 4), ("apr", 4), ("may", 5), ("june", 6), ("jun", 6), ("july", 7), ("jul", 7),
    ("august", 8), ("aug", 8), ("september", 9), ("sep", 9), ("sept", 9), ("october", 10),
    ("oct", 10), ("november", 11), ("nov", 11), ("december", 12), ("dec", 12)]

def relativePhrases : List (String × TimePeriod) :=
  [("today", .today), ("yesterday", .yesterday), ("this week", .thisWeek),
    ("last week", .lastWeek), ("this month", .thisMonth), ("last month", .lastMonth),
    ("this quarter", .thisQuarter), ("last quarter", .lastQuarter), ("this year", .thisYear),
    ("last year", .lastYear)]

section
variable (w : DigitClass)

def digits (n : Nat) : Pattern Unit := classes (List.replicate n w.isDigit)

def oneOrTwoDigits : Pattern Unit := (digits w 2).or (digits w 1)

def monthName : Pattern Unit := anyOf (monthNames.map fun m => literal m.1.toList)

def dateToken : Pattern Unit := anyOf
  [do digits w 4; literal ['-']; digits w 2; literal ['-']; digits w 2,
    do monthName; blanks; oneOrTwoDigits w; upTo 1 (literal [',']); blanks; digits w 4,
    do monthName; blanks; digits w 4,
    do oneOrTwoDigits w; literal ['/']; oneOrTwoDigits w; literal ['/']; digits w 4,
    digits w 4]

def betweenPattern : Pattern (List Char × List Char) := do
  literal "between".toList
  blanks
  let start ← group (dateToken w)
  blanks
  literal "and".toList
  blanks
  let stop ← group (dateToken w)
  pure (start, stop)

def beforePattern : Pattern (List Char) := do
  literal "before".toList
  blanks
  group (dateToken w)

def afterPattern : Pattern (List Char) := do
  literal "after".toList
  blanks
  group (dateToken w)

/-- The pieces of a `strptime` format. -/
inductive Directive
  | fullMonth
  | shortMonth
  | month
  | day
  | year
  | space
  | text (c : Char)
  deriving DecidableEq, Repr

/-- Month names by length, as `strptime` tries them, and their abbreviations. -/
def fullMonths : List (String × Nat) :=
  [("september", 9), ("february", 2), ("november", 11), ("december", 12), ("january", 1),
    ("october", 10), ("august", 8), ("march", 3), ("april", 4), ("june", 6), ("july", 7),
    ("may", 5)]

def shortMonths : List (String × Nat) :=
  [("jan", 1), ("feb", 2), ("mar", 3), ("apr", 4), ("may", 5), ("jun", 6), ("jul", 7),
    ("aug", 8), ("sep", 9), ("oct", 10), ("nov", 11), ("dec", 12)]

def charRange (a b : Char) (c : Char) : Bool := a ≤ c && c ≤ b

def readMonth (names : List (String × Nat)) (d : Date) : Pattern Date :=
  anyOf (names.map fun m => do
    classes (m.1.toList.map fun x y => y.toLower == x)
    pure { d with month := m.2 })

def Directive.read (d : Date) : Directive → Pattern Date
  | .fullMonth => readMonth fullMonths d
  | .shortMonth => readMonth shortMonths d
  | .month => do
    let m ← group (anyOf [classes [charRange '1' '1', charRange '0' '2'],
      classes [charRange '0' '0', charRange '1' '9'], classes [charRange '1' '9']])
    pure { d with month := w.toNat m }
  | .day => do
    let n ← group (anyOf [classes [charRange '3' '3', charRange '0' '1'],
      classes [charRange '1' '2', w.isDigit], classes [charRange '0' '0', charRange '1' '9'],
      classes [charRange '1' '9'], classes [charRange ' ' ' ', charRange '1' '9']])
    pure { d with day := w.toNat n }
  | .year => do
    let y ← group (digits w 4)
    pure { d with year := w.toNat y }
  | .space => do
    blanks
    pure d
  | .text c => do
    literal [c]
    pure d

def readFormat : List Directive → Date → Pattern Date
  | [], d => pure d
  | x :: xs, d => do
    let d ← x.read w d
    readFormat xs d

/-- `datetime.strptime`, where it raises no `ValueError`. -/
def strptime (token : List Char) (format : List Directive) : Option Date :=
  match first (readFormat w format ⟨1900, 1, 1⟩) ⟨[], token⟩ with
  | some (d, ⟨_, []⟩) => if Valid d then some d else none
  | _ => none

def dateFormats : List (List Directive) :=
  [[.year, .text '-', .month, .text '-', .day],
    [.fullMonth, .space, .day, .text ',', .space, .year],
    [.fullMonth, .space, .day, .space, .year],
    [.shortMonth, .space, .day, .text ',', .space, .year],
    [.shortMonth, .space, .day, .space, .year],
    [.fullMonth, .space, .year],
    [.shortMonth, .space, .year],
    [.month, .text '/', .day, .text '/', .year],
    [.year]]

def monthOnlyFormats : List (List Directive) :=
  [[.fullMonth, .space, .year], [.shortMonth, .space, .year]]

def yearOnlyFormats : List (List Directive) := [[.year]]

def parseDateToken (token : List Char) : Option Date :=
  dateFormats.findSome? fun format => (strptime w token format).map fun parsed =>
    if format ∈ monthOnlyFormats then ⟨parsed.year, parsed.month, 1⟩
    else if format ∈ yearOnlyFormats then ⟨parsed.year, 1, 1⟩
    else parsed

end

def weekBounds (reference : Date) : Except DateError (Date × Date) := do
  let start ← minusDays reference reference.weekday
  let stop ← plusDays start 6
  return (start, stop)

def monthBounds (year month : Nat) : Except DateError (Date × Date) := do
  let start ← date year month 1
  let stop ← date year month (daysInMonth year month)
  return (start, stop)

def quarterOf (month : Nat) : Nat := (month - 1) / 3 + 1

def quarterBounds (year quarter : Nat) : Except DateError (Date × Date) := do
  let startMonth := (quarter - 1) * 3 + 1
  let start ← date year startMonth 1
  let bounds ← monthBounds year (startMonth + 2)
  return (start, bounds.2)

def yearBounds (year : Nat) : Except DateError (Date × Date) := do
  let start ← date year 1 1
  let stop ← date year 12 31
  return (start, stop)

def boundsFor (today : Date) : TimePeriod → Except DateError (Date × Date)
  | .today => return (today, today)
  | .yesterday => do
    let yesterday ← minusDays today 1
    return (yesterday, yesterday)
  | .thisWeek => weekBounds today
  | .lastWeek => do
    let reference ← minusDays today 7
    weekBounds reference
  | .thisMonth => monthBounds today.year today.month
  | .lastMonth =>
    if today.month = 1 then monthBounds (today.year - 1) 12
    else monthBounds today.year (today.month - 1)
  | .thisQuarter => quarterBounds today.year (quarterOf today.month)
  | .lastQuarter =>
    let quarter := quarterOf today.month - 1
    if quarter = 0 then quarterBounds (today.year - 1) 4 else quarterBounds today.year quarter
  | .thisYear => yearBounds today.year
  | .lastYear => yearBounds (today.year - 1)
  | _ => .error .assertionError

section
variable (w : DigitClass)

def betweenExpression (question : List Char) : Option TimeExpression := do
  let m ← search (betweenPattern w) question
  let start ← parseDateToken w m.value.1
  let stop ← parseDateToken w m.value.2
  return ⟨.between, some start, some stop, .ofList m.text⟩

def beforeExpression (question : List Char) : Option TimeExpression := do
  let m ← search (beforePattern w) question
  let stop ← parseDateToken w m.value
  return ⟨.before, none, some stop, .ofList m.text⟩

def afterExpression (question : List Char) : Option TimeExpression := do
  let m ← search (afterPattern w) question
  let start ← parseDateToken w m.value
  return ⟨.after, some start, none, .ofList m.text⟩

def relativeExpression (today : Date) (question : List Char) :
    List (String × TimePeriod) → Except DateError (Option TimeExpression)
  | [] => .ok none
  | (phrase, period) :: phrases =>
    match search (phrasePattern w.toWordClass phrase) question with
    | some m => do
      let bounds ← boundsFor today period
      return some ⟨period, some bounds.1, some bounds.2, .ofList m.text⟩
    | none => relativeExpression today question phrases

def extractTime (today : Date) (question : String) : Except DateError (Option TimeExpression) :=
  let text := question.toList
  match (betweenExpression w text).or ((beforeExpression w text).or (afterExpression w text)) with
  | some expression => .ok (some expression)
  | none => relativeExpression w today text (byLength relativePhrases)

end

end QueryMind.Nlu
