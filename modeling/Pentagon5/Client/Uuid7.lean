import Mathlib.Data.List.Basic
import Pentagon5.Ecma.Pattern
import Pentagon5.Python.Uuid

/-!
# UUIDv7 in the TypeScript client

The pattern that the client and the shared schema check identifiers against, and the client's
generator.
-/

namespace Pentagon5.Client

open Ecma Python

/-- `[0-9a-f]`. -/
def hexClass : List ℕ := (Str.ofString "0123456789abcdef").codes

/-- `[89ab]`. -/
def variantClass : List ℕ := (Str.ofString "89ab").codes

/-- `/^[0-9a-f]{8}-[0-9a-f]{4}-7[0-9a-f]{3}-[89ab][0-9a-f]{3}-[0-9a-f]{12}$/`. -/
def uuidV7Pattern : RegularExpression ℕ :=
  oneOf hexClass ^ 8 * (.char 45 * (oneOf hexClass ^ 4 * (.char 45 * (.char 55 *
    (oneOf hexClass ^ 3 * (.char 45 * (oneOf variantClass * (oneOf hexClass ^ 3 *
      (.char 45 * oneOf hexClass ^ 12)))))))))

/-- The loop over `bytes[5]` to `bytes[0]`: the low bytes of `timestamp`, in two's complement. -/
def timestampBytes : ℕ → ℤ → List UInt8
  | 0, _ => []
  | index + 1, timestamp =>
    timestampBytes index (timestamp / 256) ++ [UInt8.ofNat (timestamp % 256).toNat]

/-- `byte.toString(16).padStart(2, "0")`. -/
def byteHex (byte : UInt8) : List ℕ :=
  ((Nat.toDigits 16 byte.toNat).leftpad 2 '0').map Char.toNat

/-- `createUuidV7`; an error is the text of its `TypeError`. -/
def createUuidV7 (now : ℤ) (random : List UInt8) : Except String Str :=
  if random.length ≠ 10 then .error "UUIDv7 requires 10 random bytes"
  else
    let bytes := timestampBytes 6 now ++ random
    let bytes := bytes.modify 6 fun byte => 0x70 ||| (byte &&& 0x0f)
    let bytes := bytes.modify 8 fun byte => 0x80 ||| (byte &&& 0x3f)
    .ok ⟨UUID.hyphenate (bytes.flatMap byteHex)⟩

/-- The bits of the random bytes that version and variant leave, as a number. -/
def keptBits : List UInt8 → ℕ
  | [] => 0
  | [_] => 0
  | first :: second :: rest =>
    let low := rest.foldl (fun n byte => 256 * n + byte.toNat) 0 % 2 ^ 62
    (first.toNat % 16 * 256 + second.toNat) * 2 ^ 62 + low

end Pentagon5.Client
