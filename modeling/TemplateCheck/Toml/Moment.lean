/-!
# Dates and times

A moment is a date, a time of day, or both; with both there may be the distance from universal
time.

* `Date`, `Time`, `Offset`, `Moment` — the parts and the whole;
* `Moment.text` — how a moment is written;
* `Moment.ofChars?` — the moment that a text stands for.
-/

namespace TemplateCheck.Toml

/-! ### Parts -/

/-- A day. -/
structure Date where
  year : Nat
  month : Nat
  day : Nat
deriving Repr, DecidableEq

/-- A time of day; the seconds may be left out. -/
structure Time where
  hour : Nat
  minute : Nat
  second : Option Nat
  /-- Billionths of a second, if a fraction is written. -/
  nano : Option Nat
deriving Repr, DecidableEq

/-- The distance from universal time. -/
inductive Offset where
  | zero
  | minutes (n : Int)
deriving Repr, DecidableEq

/-- A date, a time, or both. -/
structure Moment where
  date : Option Date
  time : Option Time
  offset : Option Offset
deriving Repr, DecidableEq

/-! ### Text -/

/-- A number with at least so many digits. -/
def padded (width n : Nat) : String :=
  let digits := toString n
  String.ofList (List.replicate (width - digits.length) '0') ++ digits

/-- A day as text. -/
def Date.text (d : Date) : String :=
  s!"{padded 4 d.year}-{padded 2 d.month}-{padded 2 d.day}"

/-- A fraction without the noughts at its end, but with one digit at least. -/
def fractionText (nano : Nat) : String :=
  let digits := (padded 9 nano).toList
  let kept := (digits.reverse.dropWhile (· == '0')).reverse
  if kept.isEmpty then "0" else String.ofList kept

/-- A time of day as text. -/
def Time.text (t : Time) : String :=
  let second := (t.second.map fun s => ":" ++ padded 2 s).getD ""
  let fraction := (t.nano.map fun n => "." ++ fractionText n).getD ""
  s!"{padded 2 t.hour}:{padded 2 t.minute}{second}{fraction}"

/-- A distance from universal time as text. -/
def Offset.text : Offset → String
  | .zero => "Z"
  | .minutes n =>
    let sign := if n < 0 then "-" else "+"
    s!"{sign}{padded 2 (n.natAbs / 60)}:{padded 2 (n.natAbs % 60)}"

/-- A moment as text. -/
def Moment.text (m : Moment) : String :=
  let date := (m.date.map Date.text).getD ""
  let between := if m.date.isSome && m.time.isSome then "T" else ""
  let time := (m.time.map Time.text).getD ""
  date ++ between ++ time ++ (m.offset.map Offset.text).getD ""

/-! ### Reading -/

/-- The number that so many digits at the front of a text stand for. -/
def number? (width : Nat) (cs : List Char) : Option (Nat × List Char) :=
  let digits := cs.take width
  if digits.length = width ∧ digits.all Char.isDigit then
    some (digits.foldl (fun n c => n * 10 + (c.toNat - '0'.toNat)) 0, cs.drop width)
  else none

/-- The text behind a character, which has to be there. -/
def behind? (c : Char) : List Char → Option (List Char)
  | d :: cs => if c = d then some cs else none
  | [] => none

/-- Has a year a day more than others? -/
def isLeap (year : Nat) : Bool :=
  year % 4 == 0 && (year % 100 != 0 || year % 400 == 0)

/-- The number of days of a month. -/
def daysOf (year month : Nat) : Nat :=
  if month = 2 then if isLeap year then 29 else 28
  else if month = 4 ∨ month = 6 ∨ month = 9 ∨ month = 11 then 30
  else 31

/-- The day at the front of a text. -/
def date? (cs : List Char) : Option (Date × List Char) := do
  let (year, cs) ← number? 4 cs
  let (month, cs) ← number? 2 (← behind? '-' cs)
  let (day, cs) ← number? 2 (← behind? '-' cs)
  if 1 ≤ month ∧ month ≤ 12 ∧ 1 ≤ day ∧ day ≤ daysOf year month then
    return (⟨year, month, day⟩, cs)
  else none

/-- The billionths of a second that the digits of a fraction stand for; what is less is left
out. -/
def nanoOf (digits : List Char) : Nat :=
  let kept := digits.take 9
  (kept ++ List.replicate (9 - kept.length) '0').foldl
    (fun n c => n * 10 + (c.toNat - '0'.toNat)) 0

/-- The seconds at the front of a text, with their fraction, if they are there. -/
def seconds? (hour minute : Nat) (cs : List Char) : Option (Time × List Char) :=
  match cs with
  | ':' :: cs => do
    let (second, cs) ← number? 2 cs
    if 60 < second then none
    else
      match cs with
      | '.' :: cs =>
        let digits := cs.takeWhile Char.isDigit
        if digits.isEmpty then none
        else some (⟨hour, minute, some second, some (nanoOf digits)⟩, cs.dropWhile Char.isDigit)
      | cs => some (⟨hour, minute, some second, none⟩, cs)
  | cs => some (⟨hour, minute, none, none⟩, cs)

/-- The time of day at the front of a text. A minute may have 61 seconds. -/
def time? (cs : List Char) : Option (Time × List Char) := do
  let (hour, cs) ← number? 2 cs
  let (minute, cs) ← number? 2 (← behind? ':' cs)
  if hour ≤ 23 ∧ minute ≤ 59 then seconds? hour minute cs else none

/-- The distance from universal time that a whole text stands for. -/
def offset? : List Char → Option Offset
  | ['Z'] => some .zero
  | ['z'] => some .zero
  | c :: cs => do
    let (hours, cs) ← number? 2 cs
    let (minutes, cs) ← number? 2 (← behind? ':' cs)
    let n : Int := hours * 60 + minutes
    if 23 < hours ∨ 59 < minutes ∨ !cs.isEmpty then none
    else if c = '+' then some (.minutes n)
    else if c = '-' then some (.minutes (-n))
    else none
  | [] => none

/-- The moment that a whole text stands for. -/
def Moment.ofChars? (cs : List Char) : Option Moment :=
  match date? cs with
  | some (date, []) => some ⟨some date, none, none⟩
  | some (date, c :: cs) =>
    if c = 'T' ∨ c = 't' ∨ c = ' ' then
      match time? cs with
      | some (time, []) => some ⟨some date, some time, none⟩
      | some (time, cs) => (offset? cs).map fun offset => ⟨some date, some time, some offset⟩
      | none => none
    else none
  | none =>
    match time? cs with
    | some (time, []) => some ⟨none, some time, none⟩
    | _ => none

end TemplateCheck.Toml
