import MailSearch.Json.Reader

/-! Percent escapes: a byte as a percent sign and two hexadecimal digits. -/

namespace MailSearch.Url

def isHexDigit (c : Char) : Bool := (Json.hexValue? c).isSome

/-- Puts the digits of escapes into capitals, and counts the escapes. -/
def capitalEscapes : List Char → List Char × Nat
  | [] => ([], 0)
  | c :: rest =>
    match c, rest with
    | '%', a :: b :: later =>
      if isHexDigit a && isHexDigit b then
        let (chars, count) := capitalEscapes later
        ('%' :: a.toUpper :: b.toUpper :: chars, count + 1)
      else
        let (chars, count) := capitalEscapes (a :: b :: later)
        ('%' :: chars, count)
    | c, rest =>
      let (chars, count) := capitalEscapes rest
      (c :: chars, count)

def capitalHex (digit : Nat) : Char := (Nat.digitChar digit).toUpper

def escapeByte (byte : UInt8) : List Char :=
  ['%', capitalHex (byte.toNat / 16), capitalHex (byte.toNat % 16)]

def escapeChar (c : Char) : List Char := (String.utf8EncodeChar c).flatMap escapeByte

/-- Escapes what is not allowed. Percent signs are kept where all of them begin an escape, and escaped
where one does not. -/
def escaped (allowed : Char → Bool) (chars : List Char) : List Char :=
  let (capitals, count) := capitalEscapes chars
  let isEscaped := count == capitals.count '%'
  capitals.flatMap fun c => if (isEscaped && c == '%') || allowed c then [c] else escapeChar c

/-- Characters without a meaning of their own. -/
def isUnreserved (c : Char) : Bool := c.isAlphanum || ['.', '_', '-', '~'].contains c

/-- The byte that an escape with these digits stands for. -/
def escapedByte? (high low : Char) : Option Nat := do
  return 16 * (← Json.hexValue? high) + (← Json.hexValue? low)

/-- Whether an escape stands for a control character. -/
def escapesControl : List Char → Bool
  | [] => false
  | '%' :: a :: b :: rest =>
    (escapedByte? a b).any (fun byte => byte < 0x20 || byte == 0x7F) || escapesControl (a :: b :: rest)
  | _ :: rest => escapesControl rest

/-- Writes unreserved characters in the place of their escapes, and the digits of other escapes in
capitals. -/
def withoutNeedlessEscapes : List Char → List Char
  | [] => []
  | c :: rest =>
    match c, rest with
    | '%', a :: b :: later =>
      match escapedByte? a b with
      | some byte =>
        if isUnreserved (Char.ofNat byte) then Char.ofNat byte :: withoutNeedlessEscapes later
        else '%' :: a.toUpper :: b.toUpper :: withoutNeedlessEscapes later
      | none => '%' :: withoutNeedlessEscapes (a :: b :: later)
    | c, rest => c :: withoutNeedlessEscapes rest

/-- Puts letters of ASCII into lower case, except the digits of escapes. -/
def lowerOutsideEscapes : List Char → List Char
  | '%' :: a :: b :: rest => '%' :: a :: b :: lowerOutsideEscapes rest
  | c :: rest => c.toLower :: lowerOutsideEscapes rest
  | [] => []

/-- Characters that may stand in a path. -/
def isPathChar (c : Char) : Bool :=
  isUnreserved c ||
    ['!', '$', '&', Char.ofNat 0x27, '(', ')', '*', '+', ',', ';', '=', ':', '@', '/'].contains c

end MailSearch.Url
