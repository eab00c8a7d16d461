import PeerTelemetry.Toml.Scanner
import PeerTelemetry.Number.Numeral
import PeerTelemetry.Toml.Table

/-!
# Dates and times

A date, a time of day, or both with an optional offset from universal time. No setting
is a date, so nothing is computed with one; but a date that the calendar does not have
makes the document unreadable, and has to be noticed.
-/

namespace PeerTelemetry.Toml

open Scanner

/-- Exactly `n` digits, and the number they denote. -/
def fixedDigits (n : Nat) : Scanner Nat := fun s =>
  let digits := s.take n
  if digits.length = n ∧ digits.all Char.isDigit then some (ofDecimal digits, s.drop n) else none

/-- Two digits within bounds. -/
def twoDigits (low high : Nat) : Scanner Nat := do
  let n ← fixedDigits 2
  if low ≤ n ∧ n ≤ high then return n else failure

/-- Whether a year has a leap day. -/
def isLeapYear (year : Nat) : Bool := year % 4 = 0 && (year % 100 ≠ 0 || year % 400 = 0)

/-- The number of days of a month. -/
def daysOfMonth (year month : Nat) : Nat :=
  if month = 2 then if isLeapYear year then 29 else 28
  else if month = 4 ∨ month = 6 ∨ month = 9 ∨ month = 11 then 30
  else 31

/-- A date of the calendar. -/
def fullDate : Scanner Unit := do
  let year ← fixedDigits 4
  char '-'
  let month ← twoDigits 1 12
  char '-'
  let _ ← twoDigits 1 (daysOfMonth year month)

/-- A time of day. A minute may have a leap second. -/
def timeOfDay : Scanner Unit := do
  let _ ← twoDigits 0 23
  char ':'
  let _ ← twoDigits 0 59
  char ':'
  let _ ← twoDigits 0 60
  let _ ← attempt (do
    char '.'
    takeWhile1 Char.isDigit)

/-- An offset from universal time. -/
def timeOffset : Scanner Unit :=
  (do let _ ← charWhere fun c => c = 'Z' ∨ c = 'z') <|>
  (do let _ ← charWhere fun c => c = '+' ∨ c = '-'
      let _ ← twoDigits 0 23
      char ':'
      let _ ← twoDigits 0 59)

/-- The time that follows a date. -/
def timeBehindDate : Scanner Unit := do
  let _ ← charWhere fun c => c = 'T' ∨ c = 't' ∨ c = ' '
  timeOfDay
  let _ ← attempt timeOffset

/-- **A date, a time, or both.** -/
def datetime : Scanner Value := do
  let text ← takenBy
    ((do fullDate
         let _ ← attempt timeBehindDate) <|>
     timeOfDay)
  return .datetime (String.ofList text)

end PeerTelemetry.Toml
