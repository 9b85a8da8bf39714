/-!
# Decoding with replacement

Bytes are read as UTF-8.  Whatever is no character becomes U+FFFD, once for each longest stretch that
starts a character and is not continued as one, and once for each byte that starts none.

The reader goes from byte to byte.  Inside a character it knows the bits so far, how many bytes are
missing, and between which bounds the next one must lie; the bounds of the second byte keep out the
overlong forms, the surrogates and what lies beyond U+10FFFF.
-/

namespace ExprGateway.Utf8

/-- What stands for bytes that are no character. -/
def replacement : Char := '\ufffd'

/-- A character that has begun. -/
structure Open where
  /-- The bits of the bytes so far. -/
  bits : Nat
  /-- How many bytes are missing. -/
  missing : Nat
  /-- The bounds of the next byte. -/
  low : Nat
  high : Nat

/-- The reader between two bytes. -/
structure Reader where
  /-- The characters so far, the last one first. -/
  output : List Char
  current : Option Open

/-- What a byte starts: a character by itself, a longer one, or none. -/
def lead (n : Nat) : Char ⊕ Option Open :=
  if n < 0x80 then .inl (Char.ofNat n)
  else if n < 0xc2 then .inr none
  else if n < 0xe0 then .inr (some ⟨n - 0xc0, 1, 0x80, 0xbf⟩)
  else if n < 0xf0 then
    .inr (some ⟨n - 0xe0, 2, if n = 0xe0 then 0xa0 else 0x80, if n = 0xed then 0x9f else 0xbf⟩)
  else if n < 0xf5 then
    .inr (some ⟨n - 0xf0, 3, if n = 0xf0 then 0x90 else 0x80, if n = 0xf4 then 0x8f else 0xbf⟩)
  else .inr none

/-- Reads a byte where a character may start. -/
def begin (output : List Char) (n : Nat) : Reader :=
  match lead n with
  | .inl c => ⟨c :: output, none⟩
  | .inr none => ⟨replacement :: output, none⟩
  | .inr (some o) => ⟨output, some o⟩

/-- Reads a byte.  One that does not continue the current character ends it and is read again. -/
def Reader.read (r : Reader) (byte : UInt8) : Reader :=
  let n := byte.toNat
  match r.current with
  | none => begin r.output n
  | some o =>
    if o.low ≤ n && n ≤ o.high then
      let bits := o.bits * 64 + (n - 0x80)
      if o.missing = 1 then ⟨Char.ofNat bits :: r.output, none⟩
      else ⟨r.output, some ⟨bits, o.missing - 1, 0x80, 0xbf⟩⟩
    else begin (replacement :: r.output) n

/-- The characters at the end of the bytes, the last one first. -/
def Reader.finish (r : Reader) : List Char :=
  match r.current with
  | none => r.output
  | some _ => replacement :: r.output

/-- The characters of bytes. -/
def decodeChars (bytes : List UInt8) : List Char :=
  (bytes.foldl Reader.read ⟨[], none⟩).finish.reverse

/-- The text of bytes. -/
def decode (bytes : List UInt8) : String := String.ofList (decodeChars bytes)

/-! ## Texts by their bytes -/

/-- As many of the first characters as fit into a number of bytes. -/
def takeBytes : Nat → List Char → List Char
  | _, [] => []
  | n, c :: rest => if c.utf8Size ≤ n then c :: takeBytes (n - c.utf8Size) rest else []

/-- What stands behind a number of bytes, a character that the cut goes through apart. -/
def dropBytes : Nat → List Char → List Char
  | _, [] => []
  | n, c :: rest => if n = 0 then c :: rest else dropBytes (n - c.utf8Size) rest

/-- How many bytes characters have. -/
def size (cs : List Char) : Nat := cs.foldl (fun n c => n + c.utf8Size) 0

end ExprGateway.Utf8
