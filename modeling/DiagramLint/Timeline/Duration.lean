/-!
# Durations

A duration is a count of units, written in decimal digits with the unit's letter
behind them: minutes, hours, days or weeks.  Counts and minutes both stay below
`2 ^ 64`; a conversion that would leave that range has no result
(`TimeUnit.toMinutes?_eq_some_iff`).
-/

namespace DiagramLint

/-- Counts and durations in minutes are below this bound. -/
def durationBound : Nat := Nat.pow 2 64

inductive TimeUnit where
  | minutes
  | hours
  | days
  | weeks
  deriving DecidableEq, Repr

namespace TimeUnit

/-- The unit that a letter stands for. -/
def ofChar? : Char → Option TimeUnit
  | 'm' => some minutes
  | 'h' => some hours
  | 'd' => some days
  | 'w' => some weeks
  | _ => none

/-- The number of minutes in one unit. -/
def factor : TimeUnit → Nat
  | minutes => 1
  | hours => 60
  | days => 24 * 60
  | weeks => 7 * 24 * 60

/-- A count of units in minutes, unless that is out of range. -/
def toMinutes? (u : TimeUnit) (count : Nat) : Option Nat :=
  if count * u.factor < durationBound then some (count * u.factor) else none

theorem factor_pos (u : TimeUnit) : 0 < u.factor := by
  cases u <;> decide

theorem toMinutes?_eq_some_iff {u : TimeUnit} {count n : Nat} :
    u.toMinutes? count = some n ↔ n = count * u.factor ∧ n < durationBound := by
  unfold toMinutes?
  split
  · rename_i h
    constructor
    · intro hn
      obtain rfl := Option.some.inj hn
      exact ⟨rfl, h⟩
    · rintro ⟨rfl, -⟩; rfl
  · rename_i h
    constructor
    · intro hn; cases hn
    · rintro ⟨rfl, hlt⟩; exact absurd hlt h

end TimeUnit

end DiagramLint
