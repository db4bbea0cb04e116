import Placard.Toml.Text
import Placard.Toml.Value

set_option relaxedAutoImplicit false
set_option autoImplicit false

/-!
# TOML dates and times

A date, a time of day, or a date and a time with an optional distance from universal time. They are
kept as text in one form: `T` between date and time, `Z` for universal time, at most nine digits
behind the point and no zero at their end.

## Main definitions

* `Placard.Toml.moment`: a date, a time or both.
-/

namespace Placard.Toml

open Reader

/-- Two digits that write a number from `least` to `greatest`. -/
def twoDigits (least greatest : Nat) : Reader (List Char) := do
  let digits ← exactly (one Char.isDigit) 2
  let n := ofDigits 10 digits
  if least ≤ n ∧ n ≤ greatest then pure digits else failure

/-- The number of days of a month. -/
def daysOf (year month : Nat) : Nat :=
  if month = 2 then
    if year % 4 = 0 ∧ (year % 100 ≠ 0 ∨ year % 400 = 0) then 29 else 28
  else if month = 4 ∨ month = 6 ∨ month = 9 ∨ month = 11 then 30
  else 31

/-- A date: year, month and day. -/
def date : Reader (List Char) := do
  let year ← exactly (one Char.isDigit) 4
  char '-'
  let month ← twoDigits 1 12
  char '-'
  let day ← twoDigits 1 (daysOf (ofDigits 10 year) (ofDigits 10 month))
  pure (year ++ '-' :: month ++ '-' :: day)

/-- The digits of a second behind the point, cut after the ninth, with no zero at the end. -/
def secondFraction : Reader (List Char) := do
  char '.'
  let digits ← span1 Char.isDigit
  let kept := ((digits.take 9).reverse.dropWhile (· == '0')).reverse
  pure (if kept.isEmpty then [] else '.' :: kept)

/-- A time of day: hour, minute and second. -/
def time : Reader (List Char) := do
  let hour ← twoDigits 0 23
  char ':'
  let minute ← twoDigits 0 59
  char ':'
  let second ← twoDigits 0 60
  let part ← optional secondFraction
  pure (hour ++ ':' :: minute ++ ':' :: second ++ part.getD [])

/-- The distance from universal time. A distance of nothing has a plus sign. -/
def zone : Reader (List Char) :=
  (do
    let _ ← one fun c => c == 'Z' || c == 'z'
    pure ['Z'])
  <|> do
    let mark ← one fun c => c == '+' || c == '-'
    let hour ← twoDigits 0 23
    char ':'
    let minute ← twoDigits 0 59
    let distance := hour ++ ':' :: minute
    pure ((if distance == "00:00".toList then '+' else mark) :: distance)

/-- What may follow a date: a time of day, and the distance from universal time. -/
def timeOfDate : Reader (List Char) := do
  let _ ← one fun c => c == 'T' || c == 't' || c == ' '
  let clock ← time
  let distance ← optional zone
  pure ('T' :: clock ++ distance.getD [])

/-- A date, a time of day, or both. -/
def moment : Reader Value := do
  let text ←
    (do
      let day ← date
      let clock ← optional timeOfDate
      pure (day ++ clock.getD []))
    <|> time
  pure (.moment (String.ofList text))

end Placard.Toml
