import PrintProxy.Value

/-!
# Texts of values

How a value is shown to a person, and how an option on the command line is
turned into a value: `true` and `false` are booleans, a 32-bit decimal is an
integer and everything else is a keyword.
-/

namespace PrintProxy

/-- Date, `T`, time of day and the distance from universal time. -/
def DateTime.render (moment : DateTime) : String :=
  let year := Numeral.padded 4 moment.year.toNat
  let month := Numeral.padded 2 moment.month.toNat
  let day := Numeral.padded 2 moment.day.toNat
  let hour := Numeral.padded 2 moment.hour.toNat
  let minutes := Numeral.padded 2 moment.minutes.toNat
  let seconds := Numeral.padded 2 moment.seconds.toNat
  let deciSeconds := Numeral.decimal moment.deciSeconds.toNat
  let direction := String.singleton (Char.ofNat moment.utcDirection.toNat)
  let utcHours := Numeral.padded 2 moment.utcHours.toNat
  let utcMinutes := Numeral.padded 2 moment.utcMinutes.toNat
  s!"{year}-{month}-{day}T{hour}:{minutes}:{seconds}.{deciSeconds}{direction}" ++
    s!"{utcHours}:{utcMinutes}"

namespace Value

def render : Value → String
  | integer number | enum number => Numeral.signed number.toInt
  | boolean truth => if truth then "true" else "false"
  | rangeOfInteger least greatest =>
      Numeral.signed least.toInt ++ ".." ++ Numeral.signed greatest.toInt
  | resolution crossFeed feed units =>
      Numeral.signed crossFeed.toInt ++ "x" ++ Numeral.signed feed.toInt ++
        (if units = 3 then "dpi" else "dpcm")
  | dateTime moment => moment.render
  | text _ content => content
  | noValue => ""
  | other tag octets => tag.name ++ ": " ++ octets.toHex

/-- The value that a text stands for. -/
def ofText (content : String) : Value :=
  if content = "true" then .boolean true
  else if content = "false" then .boolean false
  else
    match Numeral.readInt32? content with
    | some number => .integer number
    | none => .keyword content

end Value

end PrintProxy
