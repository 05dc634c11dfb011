import NotebookKernel.Message.Answer
import NotebookKernel.Text.Hex

/-!
# Stamps of new messages

The identifier of a new message is sixteen random bytes of which six bits are fixed, in
five groups of hexadecimal digits. Its date is a moment to the microsecond in the civil
calendar.
-/

namespace NotebookKernel

/-- Decimal digits, with zeros in front up to a width. -/
def padded (width n : Nat) : String :=
  let ds := Nat.toDigits 10 n
  String.ofList (List.replicate (width - ds.length) '0' ++ ds)

/-- A day in the calendar. -/
structure CivilDate where
  year : Nat
  month : Nat
  day : Nat
  deriving DecidableEq, Repr

namespace CivilDate

/-- The date so many days after the first of March of the year 0. Years that begin in March end
with the leap day, and their months repeat a cycle of 153 days in five. -/
def ofMarchDays (days : Nat) : CivilDate :=
  let era := days / 146097
  let dayOfEra := days % 146097
  let yearOfEra :=
    (dayOfEra - dayOfEra / 1460 + dayOfEra / 36524 - dayOfEra / 146096) / 365
  let dayOfYear := dayOfEra - (365 * yearOfEra + yearOfEra / 4 - yearOfEra / 100)
  let cycle := (5 * dayOfYear + 2) / 153
  let day := dayOfYear - (153 * cycle + 2) / 5 + 1
  let month := if cycle < 10 then cycle + 3 else cycle - 9
  let year := 400 * era + yearOfEra + if month ≤ 2 then 1 else 0
  ⟨year, month, day⟩

/-- The date so many days after the first of January 1970. -/
def ofEpochDays (days : Nat) : CivilDate := ofMarchDays (days + 719468)

def text (d : CivilDate) : String :=
  padded 4 d.year ++ "-" ++ padded 2 d.month ++ "-" ++ padded 2 d.day

end CivilDate

/-- The text of a moment, given in microseconds after the beginning of 1970. -/
def momentText (micros : Nat) : String :=
  let seconds := micros / 1000000
  let time := seconds % 86400
  (CivilDate.ofEpochDays (seconds / 86400)).text ++ "T" ++ padded 2 (time / 3600) ++ ":" ++
    padded 2 (time / 60 % 60) ++ ":" ++ padded 2 (time % 60) ++ "." ++
    padded 6 (micros % 1000000) ++ "Z"

/-- Fix the bits that tell how the identifier was made: at random. -/
def markRandom (bytes : Bytes) : Bytes :=
  bytes.mapIdx fun i b =>
    if i = 6 then 0x40 ||| (b &&& 0x0F) else if i = 8 then 0x80 ||| (b &&& 0x3F) else b

/-- The identifier made of sixteen random bytes. -/
def randomId (bytes : Bytes) : String :=
  let ds := Hex.encode (markRandom bytes)
  "-".intercalate
    ([ds.take 8, (ds.drop 8).take 4, (ds.drop 12).take 4, (ds.drop 16).take 4, ds.drop 20].map
      String.ofList)

/-- Stamps for the messages of one moment. Each takes its own sixteen bytes. -/
def Stamp.atMoment (micros : Nat) (random : Bytes) (n : Nat) : Stamp :=
  ⟨randomId ((random.drop (16 * n)).take 16), momentText micros⟩

end NotebookKernel
