import Federation.Text.Bytes

/-!
# Percent-encoding

A character that may not stand in a part of an address is written as the bytes of its UTF-8 form,
each as a percent sign and two upper case digits.  Which characters these are depends on the part;
characters beyond ASCII always belong to them.

Decoding takes every percent sign that two hexadecimal digits follow for the byte they denote and
leaves all else.
-/

namespace Federation.Percent

/-- Encodes the characters of a set. -/
def encode (mustEncode : Char → Bool) (cs : List Char) : List Char :=
  cs.flatMap fun c =>
    if mustEncode c then
      (Text.bytes (String.ofList [c])).flatMap fun b =>
        ['%', Text.upperHexDigit (b.toNat / 16), Text.upperHexDigit (b.toNat % 16)]
    else [c]

/-- Control characters and everything beyond ASCII. -/
def isControl (c : Char) : Bool := c < ' ' || '~' < c

/-- What may not stand in a path. -/
def isPathReserved (c : Char) : Bool :=
  isControl c || [' ', '"', '<', '>', '\x60', '#', '?', '\x7b', '\x7d'].contains c

/-- What may not stand in a user name or a password. -/
def isUserinfoReserved (c : Char) : Bool :=
  isPathReserved c || ['/', ':', ';', '=', '@', '[', '\\', ']', '^', '|'].contains c

/-- Decodes bytes. -/
def decode : List Char → List UInt8
  | [] => []
  | '%' :: a :: b :: rest =>
    match Text.hexValue? a, Text.hexValue? b with
    | some high, some low => UInt8.ofNat (16 * high + low) :: decode rest
    | _, _ => 0x25 :: decode (a :: b :: rest)
  | c :: rest => Text.bytes (String.ofList [c]) ++ decode rest
termination_by cs => cs.length

end Federation.Percent
