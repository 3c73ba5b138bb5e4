/-!
# Dates

Days of the Gregorian calendar, extended to all years, are counted from the
first day of the year zero.
-/

namespace ProbeLifecycle.Calendar

def isLeapYear (year : Nat) : Bool :=
  year % 4 = 0 && (year % 100 != 0 || year % 400 = 0)

def monthLengths (year : Nat) : List Nat :=
  [31, if isLeapYear year then 29 else 28, 31, 30, 31, 30, 31, 31, 30, 31, 30,
    31]

def daysBeforeYear (year : Nat) : Nat :=
  365 * year + (year + 3) / 4 - (year + 99) / 100 + (year + 399) / 400

def dayNumber? (year month day : Nat) : Option Nat :=
  if month = 0 ∨ day = 0 then none
  else
    match (monthLengths year)[month - 1]? with
    | none => none
    | some length =>
        if day ≤ length then
          some (daysBeforeYear year +
            ((monthLengths year).take (month - 1)).foldl (· + ·) 0 + (day - 1))
        else none

example : dayNumber? 2000 3 1 = some 730545 := by decide

end ProbeLifecycle.Calendar
