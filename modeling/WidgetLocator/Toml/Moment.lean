import WidgetLocator.Text.Number

/-! TOML dates and times, alone or together. They are kept as texts in one spelling: a capital `T`
between date and time, no zeros at the end of a fraction, which has nine digits at most, and a capital
`Z` or a signed distance for the offset. -/

namespace WidgetLocator.Toml

open Text

def isField (count low high : Nat) (cs : List Char) : Bool :=
  cs.length == count && cs.all Char.isDigit && low ≤ decimalValue cs && decimalValue cs ≤ high

def isLeapYear (year : Nat) : Bool := year % 4 == 0 && (year % 100 != 0 || year % 400 == 0)

def daysOf (year month : Nat) : Nat :=
  if month = 2 then (if isLeapYear year then 29 else 28)
  else if month = 4 || month = 6 || month = 9 || month = 11 then 30
  else 31

def isDate (cs : List Char) : Bool :=
  match cs.splitOn '-' with
  | [year, month, day] =>
    isField 4 0 9999 year && isField 2 1 12 month &&
      isField 2 1 (daysOf (decimalValue year) (decimalValue month)) day
  | _ => false

def fractionText? : List Char → Option (List Char)
  | [] => some []
  | point :: digits =>
    let kept := ((digits.take 9).reverse.dropWhile (· == '0')).reverse
    if digits.isEmpty || !digits.all Char.isDigit then none
    else some (if kept.isEmpty then [] else point :: kept)

/-- A time of day, which may be a leap second. -/
def timeText? (cs : List Char) : Option (List Char) :=
  let whole := cs.takeWhile (· != '.')
  match whole.splitOn ':' with
  | [hour, minute, second] =>
    if isField 2 0 23 hour && isField 2 0 59 minute && isField 2 0 60 second then
      (fractionText? (cs.dropWhile (· != '.'))).map (whole ++ ·)
    else none
  | _ => none

def isOffsetMark (c : Char) : Bool := c == 'Z' || c == 'z' || isSign c

/-- The offset of a time from universal time, which may be left out. No offset is negative and zero. -/
def offsetText? : List Char → Option (List Char)
  | [] => some []
  | mark :: cs =>
    if !isSign mark then (if cs.isEmpty then some ['Z'] else none)
    else
      match cs.splitOn ':' with
      | [hour, minute] =>
        if isField 2 0 23 hour && isField 2 0 59 minute then
          some ((if decimalValue hour = 0 && decimalValue minute = 0 then '+' else mark) :: cs)
        else none
      | _ => none

def momentText? (cs : List Char) : Option (List Char) :=
  let date := cs.take 10
  if isDate date then
    match cs.drop 10 with
    | [] => some date
    | delimiter :: cs => do
      guard (delimiter == 'T' || delimiter == 't' || delimiter == ' ')
      let time ← timeText? (cs.takeWhile (!isOffsetMark ·))
      return date ++ 'T' :: time ++ (← offsetText? (cs.dropWhile (!isOffsetMark ·)))
  else timeText? cs

def isMomentChar (c : Char) : Bool := c.isAlphanum || c == ':' || c == '.' || isSign c

/-- Reads a date or a time. Between a date and a time there may be a space, which after a date alone
does not belong to it. -/
def readMoment (cs : List Char) : Option (String × List Char) := do
  let word := cs.takeWhile isMomentChar
  let rest := cs.dropWhile isMomentChar
  let time := rest.tail.takeWhile isMomentChar
  match rest.head?, momentText? (word ++ ' ' :: time) with
  | some ' ', some text => return (String.ofList text, rest.tail.dropWhile isMomentChar)
  | _, _ => return (String.ofList (← momentText? word), rest)

end WidgetLocator.Toml
