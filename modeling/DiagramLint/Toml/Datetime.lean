import DiagramLint.Text.Digits

/-!
# TOML dates and times

A date is `year-month-day`, a time is `hour:minute` with optional seconds and an
optional fraction of them.  A date may be followed by a time, behind a `T` or a
single space, and that by an offset: `Z`, or a sign, hours and minutes.  The parts
must exist in the calendar and on the clock; a minute may have a leap second.

Only whether a text is such a value matters here, so the readers return what
follows and nothing else.
-/

namespace DiagramLint.Toml

/-- A number of exactly `count` digits, and what follows it. -/
def fixedDigits? (count : Nat) (t : Text) : Option (Nat × Text) :=
  let digits := t.take count
  if digits.length = count ∧ digits.all Char.isDigit then
    some (Text.digitsValue 10 digits, t.drop count)
  else none

/-- What follows a given character. -/
def afterChar? (c : Char) (t : Text) : Option Text := Text.after? [c] t

def daysInMonth (year month : Nat) : Nat :=
  if month = 2 then
    if year % 4 = 0 ∧ (year % 100 ≠ 0 ∨ year % 400 = 0) then 29 else 28
  else if month = 4 ∨ month = 6 ∨ month = 9 ∨ month = 11 then 30
  else 31

def afterDate? (t : Text) : Option Text := do
  let (year, t) ← fixedDigits? 4 t
  let t ← afterChar? '-' t
  let (month, t) ← fixedDigits? 2 t
  let t ← afterChar? '-' t
  let (day, t) ← fixedDigits? 2 t
  guard (1 ≤ month ∧ month ≤ 12 ∧ 1 ≤ day ∧ day ≤ daysInMonth year month)
  return t

/-- What follows the fraction of a second, if there is one. -/
def afterFraction? (t : Text) : Option Text :=
  match t with
  | '.' :: d :: t => if d.isDigit then some (t.dropWhile Char.isDigit) else none
  | '.' :: [] => none
  | t => some t

/-- What follows the seconds, if there are any. -/
def afterSeconds? (t : Text) : Option Text :=
  match t with
  | ':' :: t => do
      let (second, t) ← fixedDigits? 2 t
      guard (second ≤ 60)
      afterFraction? t
  | t => some t

def afterHourMinute? (t : Text) : Option Text := do
  let (hour, t) ← fixedDigits? 2 t
  let t ← afterChar? ':' t
  let (minute, t) ← fixedDigits? 2 t
  guard (hour ≤ 23 ∧ minute ≤ 59)
  return t

def afterTime? (t : Text) : Option Text := (afterHourMinute? t).bind afterSeconds?

/-- What follows an offset, if there is one. -/
def afterOffset? (t : Text) : Option Text :=
  match t with
  | 'Z' :: t => some t
  | 'z' :: t => some t
  | '+' :: t => afterHourMinute? t
  | '-' :: t => afterHourMinute? t
  | t => some t

/-- What follows a date, or a date with a time. -/
def afterDateTime? (t : Text) : Option Text := do
  match ← afterDate? t with
  | 'T' :: t => (afterTime? t).bind afterOffset?
  | 't' :: t => (afterTime? t).bind afterOffset?
  | ' ' :: d :: t =>
      if d.isDigit then (afterTime? (d :: t)).bind afterOffset? else return ' ' :: d :: t
  | t => return t

/-- What follows a date, a time, or both. -/
def afterMoment? (t : Text) : Option Text := (afterDateTime? t).or (afterTime? t)

end DiagramLint.Toml
