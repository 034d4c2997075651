import CodeScan.Text.Hex
import CodeScan.Timestamp

/-!
# Sessions

Two things in a report come from outside: its identifier and its time.  A session supplies both.
Identifiers are numbered, and every report takes the next one.
-/

namespace CodeScan

/-- The clock and the identifiers of a run. -/
structure Session where
  now : Timestamp
  /-- The identifiers in the order in which they are given out, counted from zero. -/
  identifier : Nat → Text

namespace Session

/-- Sixteen random bytes as an identifier of version four: the version and the variant are set, and
dashes stand after 8, 12, 16 and 20 digits. -/
def randomIdentifier (bytes : List UInt8) : Text :=
  let marked := bytes.mapIdx fun i b =>
    if i = 6 then b % 0x10 + 0x40 else if i = 8 then b % 0x40 + 0x80 else b
  let digits := marked.flatMap fun b => Text.hex 2 b.toNat
  let group (first count : Nat) : Text := (digits.drop first).take count
  Text.join "-" [group 0 8, group 8 4, group 12 4, group 16 4, group 20 12]

/-- A session with a fixed supply of identifiers. -/
def ofList (now : Timestamp) (identifiers : List Text) : Session :=
  ⟨now, fun n => identifiers.getD n []⟩

end Session

end CodeScan
