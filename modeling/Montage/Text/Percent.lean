import Montage.Text.Hex
import Montage.Text.Utf8

/-! # Percent-coded text

An octet may be written as a percent sign and two hexadecimal digits. Runs of ASCII stand for octets
and are decoded as UTF-8; other characters stand for themselves and end a run. A percent sign without
two digits stands for itself.
-/

namespace Montage.Text.Percent

/-- Reads a text of which `pending` has been started: what is found, characters and faults. -/
def scan (pending : Option Utf8.Pending) : List Char → List (Option Char)
  | [] => Utf8.finish pending
  | c :: rest =>
    if c = '%' then
      match rest with
      | a :: b :: more =>
        match hexValue? a, hexValue? b with
        | some high, some low =>
          let (found, next) := Utf8.step pending (UInt8.ofNat (high * 16 + low))
          found ++ scan next more
        | _, _ =>
          let (found, next) := Utf8.step pending 0x25
          found ++ scan next (a :: b :: more)
      | more =>
        let (found, next) := Utf8.step pending 0x25
        found ++ scan next more
    else if c.toNat < 0x80 then
      let (found, next) := Utf8.step pending (UInt8.ofNat c.toNat)
      found ++ scan next rest
    else Utf8.finish pending ++ (some c :: scan none rest)

/-- The text with its escapes decoded, each fault a replacement character. -/
def decode (s : List Char) : List Char := Utf8.replaceFaults (scan none s)

/-- The text with its escapes decoded; `none` if they are not UTF-8. -/
def decode? (s : List Char) : Option (List Char) := Utf8.refuseFaults (scan none s)

/-- A character as escapes of its octets. -/
def escape (c : Char) : List Char :=
  (String.utf8EncodeChar c).flatMap fun octet =>
    ['%', hexCapital (octet.toNat / 16), hexCapital (octet.toNat % 16)]

/-- The text with escapes for all characters but those that are kept. -/
def encode (isKept : Char → Bool) (s : List Char) : List Char :=
  s.flatMap fun c => if isKept c then [c] else escape c

end Montage.Text.Percent
