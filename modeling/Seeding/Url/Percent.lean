/-
**Percent signs in URLs.**

A percent sign and two hexadecimal digits stand for a byte. Any other character, a percent sign
without its digits too, stands for its own bytes in UTF-8.
-/
import Seeding.Text.Digits

namespace Seeding.Url

/-- The bytes that a text stands for. -/
def percentDecoded : List Char → List UInt8
  | '%' :: high :: low :: rest =>
    match Text.hexValue? high, Text.hexValue? low with
    | some first, some second => UInt8.ofNat (first * 16 + second) :: percentDecoded rest
    | _, _ => String.utf8EncodeChar '%' ++ percentDecoded (high :: low :: rest)
  | character :: rest => String.utf8EncodeChar character ++ percentDecoded rest
  | [] => []

end Seeding.Url
