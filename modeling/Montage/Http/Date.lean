import Montage.Files.Path
import Montage.Number.Numeral

/-! # Dates in headers

A date is a day, a month, a year and a time of day, with the name of the day before it and a zone after
it if there are any. The parts may come in some other orders as well, and the day, the month and the
year may be put together by dashes.
-/

namespace Montage.Http.Date

/-- The names of days. -/
def dayNames : List String := ["mon", "tue", "wed", "thu", "fri", "sat", "sun"]

/-- The short names of months. -/
def monthNames : List String :=
  ["jan", "feb", "mar", "apr", "may", "jun", "jul", "aug", "sep", "oct", "nov", "dec"]

/-- The long names of months. -/
def longMonthNames : List String :=
  ["january", "february", "march", "april", "may", "june", "july", "august", "september", "october",
    "november", "december"]

/-- Whether one point in time, given from the year down, is no later than another. -/
def isNoLater : List Int → List Int → Bool
  | [], _ => true
  | _ :: _, [] => false
  | a :: rest, b :: others => decide (a < b) || (a == b && isNoLater rest others)

/-- A word in lower case. -/
def lowered (word : List Char) : String := String.ofList (word.map Char.toLower)

/-- The number of a month by its name. -/
def month? (word : List Char) : Option Int :=
  let name := lowered word
  ((monthNames.findIdx? (· == name)).or (longMonthNames.findIdx? (· == name))).map (· + 1)

/-- The words of a text between its blanks. -/
def words (s : List Char) : List (List Char) :=
  (Path.splitAt ' ' (s.map fun c => if Text.isBlank c then ' ' else c)).filter (· != [])

/-- A word without the comma at its end. -/
def dropComma (word : List Char) : List Char :=
  if word.getLast? = some ',' then word.dropLast else word

/-- The words without the name of the day. -/
def dropDay : List (List Char) → List (List Char)
  | [] => []
  | first :: rest =>
    if first.getLast? = some ',' ∨ dayNames.contains (lowered first) then rest
    else (first.reverse.takeWhile (· != ',')).reverse :: rest

/-- The words with those taken apart that dashes put together. -/
def splitDashes (found : List (List Char)) : List (List Char) :=
  match found with
  | [date, time, zone] =>
    match Path.splitAt '-' date with
    | [day, month, year] => [day, month, year, time, zone]
    | _ => found
  | _ => found

/-- The words with a zone, which may be missing or follow the time without a blank. -/
def splitZone (found : List (List Char)) : List (List Char) :=
  match found with
  | [day, month, year, time] =>
    let mark := if time.contains '+' then '+' else '-'
    let clock := time.takeWhile (· != mark)
    if clock = [] ∨ clock = time then [day, month, year, time, []]
    else [day, month, year, clock, time.drop clock.length]
  | _ => found

/-- The hours, minutes and seconds of a time of day. -/
def time? (text : List Char) : Option (List (List Char)) :=
  let parts := Path.splitAt ':' text
  let parts := if parts.length = 1 ∧ text.contains '.' then Path.splitAt '.' text else parts
  match parts with
  | [hours, minutes] => some [hours, minutes, ['0']]
  | [_, _, _] => some parts
  | _ => none

/-- A year that may be written with two digits, which stand for the years from 1969 to 2068. -/
def fullYear (year : Int) : Int :=
  if 100 ≤ year then year else if 68 < year then year + 1900 else year + 2000

/-- Reads a date: its year, month, day, hours, minutes and seconds. -/
def read? (header : String) : Option (List Int) := do
  match splitZone (splitDashes (dropDay (words header.toList))) with
  | day :: month :: year :: clock :: zone :: _ =>
    if day = [] ∨ month = [] ∨ year = [] then none
    else
      let (day, month) := if (month? month).isSome then (day, month) else (month, day)
      let month ← month? month
      let (year, clock) := if (year.drop 1).contains ':' then (clock, year) else (year, clock)
      let year := dropComma year
      let year := if ((year.head?.map Text.isDigitForm).getD false) then year else zone
      let clock ← time? (dropComma clock)
      let year ← Numeral.readSigned? year
      let day ← Numeral.readSigned? (dropComma day)
      let clock ← clock.mapM Numeral.readSigned?
      return fullYear year :: month :: day :: clock
  | _ => none

end Montage.Http.Date
