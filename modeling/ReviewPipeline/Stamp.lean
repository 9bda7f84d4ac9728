import ReviewPipeline.Text.Digits

/-!
# Clock and Identifiers

Operations take two things from outside their arguments: the time, and the random part of the
identifiers they make. Both are given to an operation in a `Stamp`, so that what it does is a
function of what it is given.
-/

namespace ReviewPipeline

/-- What one operation takes from the clock and from the source of randomness. -/
structure Stamp where
  /-- The time, in milliseconds since the first of January 1970. -/
  now : Int
  /-- The random number from which an identifier is built. -/
  seed : Nat
  deriving DecidableEq, Repr

/-- An identifier: its kind, and the first twelve characters of a random one, which are eight
hexadecimal digits, a dash and three more digits. The eight are those of the last 32 bits of the
random number; the three are those of the bits before, counted from 400 on, so that a number of 32
bits leads to 400. -/
def Stamp.identifier (stamp : Stamp) (kind : String) : String :=
  kind ++ "_" ++ String.ofList (Text.fixedWidth 16 8 stamp.seed) ++ "-"
    ++ String.ofList (Text.fixedWidth 16 3 (stamp.seed / 4294967296 + 1024))

end ReviewPipeline
