import DocScribe.Number.Digits

/-!
# Times and spans as text

Moments are written as date and time of day in universal time, spans in hours, minutes and seconds
with a decimal fraction, or in the largest unit below a second that keeps a whole part.
-/

namespace DocScribe.Log

/-- A day of the calendar. -/
structure Date where
  year : Int
  month : Nat
  day : Nat

/-- The date `days` days after 1 January 1970. Years are counted from March, so that the leap day is
the last of its year, and in cycles of 400 years. -/
def Date.ofDays (days : Int) : Date :=
  let shifted := days + 719468
  let cycle := shifted.fdiv 146097
  let dayOfCycle := (shifted.fmod 146097).toNat
  let yearOfCycle :=
    (dayOfCycle - dayOfCycle / 1460 + dayOfCycle / 36524 - dayOfCycle / 146096) / 365
  let dayOfYear := dayOfCycle - (365 * yearOfCycle + yearOfCycle / 4 - yearOfCycle / 100)
  let m := (5 * dayOfYear + 2) / 153
  let month := if m < 10 then m + 3 else m - 9
  { year := yearOfCycle + cycle * 400 + (if month ≤ 2 then 1 else 0)
    month := month
    day := dayOfYear - (153 * m + 2) / 5 + 1 }

/-- A moment given in seconds since 1970, such as `2026-01-02T15:04:05Z`. -/
def timestamp (seconds : Int) : Text :=
  let date := Date.ofDays (seconds.fdiv 86400)
  let s := (seconds.fmod 86400).toNat
  let sign : Text := if date.year < 0 then "-" else ""
  sign ++ Number.padded 4 date.year.natAbs ++ 0x2d :: Number.padded 2 date.month ++
    0x2d :: Number.padded 2 date.day ++ 0x54 :: Number.padded 2 (s / 3600) ++
    0x3a :: Number.padded 2 (s / 60 % 60) ++ 0x3a :: Number.padded 2 (s % 60) ++ [0x5a]

/-- `n / 10^places` in decimal without trailing zeros. -/
def fraction (n places : Nat) : Text :=
  let digits := Number.padded places (n % Nat.pow 10 places)
  let kept := (digits.reverse.dropWhile (· == 0x30)).reverse
  let whole := Number.decimal (n / Nat.pow 10 places)
  if kept.isEmpty then whole else whole ++ 0x2e :: kept

/-- A span given in nanoseconds, such as `1h1m1s` or `1.5ms`. -/
def span (nanoseconds : Int) : Text :=
  let n := nanoseconds.natAbs
  let sign : Text := if nanoseconds < 0 then "-" else ""
  if n == 0 then "0s"
  else if n < 1000 then sign ++ Number.decimal n ++ ("ns" : Text)
  else if n < 1000000 then sign ++ fraction n 3 ++ ("µs" : Text)
  else if n < 1000000000 then sign ++ fraction n 6 ++ ("ms" : Text)
  else
    let minutes := n / 60000000000
    let seconds := fraction (n % 60000000000) 9 ++ ("s" : Text)
    if minutes == 0 then sign ++ seconds
    else if minutes < 60 then sign ++ Number.decimal minutes ++ 0x6d :: seconds
    else
      sign ++ Number.decimal (minutes / 60) ++ 0x68 :: Number.decimal (minutes % 60) ++
        0x6d :: seconds

end DocScribe.Log
