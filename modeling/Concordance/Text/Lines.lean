/-!
# Lines of a byte sequence

A line ends with a line feed, which is not part of it. What follows the last
line feed is a line as well unless it is empty, so a final line feed adds no
empty line. Only line feeds end lines; a carriage return before one stays
in the line.
-/

namespace Concordance.Text

/-- The lines of a byte sequence, without their line feeds. -/
def byteLines : List UInt8 → List (List UInt8)
  | [] => []
  | b :: rest =>
    if b == 0x0A then [] :: byteLines rest
    else match rest with
      | [] => [[b]]
      | _ :: _ =>
        match byteLines rest with
        | line :: lines => (b :: line) :: lines
        | [] => [[b]]

/-- What stands before the last line feed of a byte sequence, with it. -/
def endedPart (bytes : List UInt8) : List UInt8 :=
  (bytes.reverse.dropWhile (· != 0x0A)).reverse

end Concordance.Text
