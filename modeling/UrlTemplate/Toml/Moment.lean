import UrlTemplate.Text.Numeral

/-!
# Dates and times in TOML

A moment is a date, a time of day, or a date and a time with an optional offset from universal time.
-/

namespace UrlTemplate.Toml

/-- Reads a number of exactly `width` digits. -/
def digits? (width : Nat) (cs : List Char) : Option (Nat × List Char) := do
  let n ← Text.natural? (cs.take width)
  if (cs.take width).length = width then return (n, cs.drop width) else none

/-- The rest of a text behind a given first character. -/
def behind? (mark : Char) : List Char → Option (List Char)
  | c :: rest => if c = mark then some rest else none
  | [] => none

/-- The number of days of a month. -/
def daysIn (year month : Nat) : Nat :=
  if month = 2 then
    if (year % 4 = 0 ∧ year % 100 ≠ 0) ∨ year % 400 = 0 then 29 else 28
  else if month ∈ [4, 6, 9, 11] then 30
  else 31

/-- Reads a date that exists. -/
def date? (cs : List Char) : Option (List Char) := do
  let (year, cs) ← digits? 4 cs
  let (month, cs) ← digits? 2 (← behind? '-' cs)
  let (day, cs) ← digits? 2 (← behind? '-' cs)
  if 1 ≤ year ∧ 1 ≤ month ∧ month ≤ 12 ∧ 1 ≤ day ∧ day ≤ daysIn year month then return cs else none

/-- Reads hours and minutes. -/
def hourMinute? (cs : List Char) : Option (List Char) := do
  let (hour, cs) ← digits? 2 cs
  let (minute, cs) ← digits? 2 (← behind? ':' cs)
  if hour < 24 ∧ minute < 60 then return cs else none

/-- Reads a time of day with an optional fraction of a second. -/
def time? (cs : List Char) : Option (List Char) := do
  let cs ← hourMinute? cs
  let (second, cs) ← digits? 2 (← behind? ':' cs)
  if 60 ≤ second then none
  match cs with
  | '.' :: d :: rest => if d.isDigit then return rest.dropWhile Char.isDigit else none
  | cs => return cs

/-- Reads an offset from universal time. -/
def offset? : List Char → Option (List Char)
  | c :: rest =>
    if c = 'Z' ∨ c = 'z' then some rest
    else if c = '+' ∨ c = '-' then hourMinute? rest
    else none
  | [] => none

/-- Whether the whole text is a time of day. -/
def isTime (cs : List Char) : Bool :=
  time? cs = some []

/-- Whether the whole text is a time of day with an optional offset. -/
def isOffsetTime (cs : List Char) : Bool :=
  match time? cs with
  | some [] => true
  | some rest => offset? rest = some []
  | none => false

/-- Whether the whole text is a date, or a date and a time joined by a letter T. -/
def isDate (cs : List Char) : Bool :=
  match date? cs with
  | some [] => true
  | some (c :: rest) => (c = 'T' || c = 't') && isOffsetTime rest
  | none => false

/-- Whether the whole text is a date alone, behind which a time may follow after a blank. -/
def isPlainDate (cs : List Char) : Bool :=
  date? cs = some []

end UrlTemplate.Toml
