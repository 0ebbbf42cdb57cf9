import Mathlib.Logic.Basic

/-! Password validation of `tools::Crypto`. Hashing, base64 and integer parsing
are library functions and enter as parameters. -/

namespace FixProxy

namespace Crypto

inductive Method where
  | undefined | hmacSha256 | hmacSha256Ts
  deriving DecidableEq, Repr

/-- Library functions used by `validate`. -/
structure Library where
  /-- base64 encoding of the HMAC/SHA256 digest of a message under a secret -/
  sign : String → String → String
  /-- `utils::from_chars<int64_t>` -/
  fromChars : String → BitVec 64

/-- The text before the first period, if there is one. -/
def timestamp (rawData : String) : Option String :=
  if '.' ∈ rawData.toList then some (String.ofList (rawData.toList.takeWhile (· ≠ '.'))) else none

/-- Milliseconds as nanoseconds. Both are 64-bit counts, so the scaling wraps. -/
def millisecondsToNanoseconds (count : BitVec 64) : BitVec 64 := count * 1000000#64

def validate (library : Library) (method : Method) (timestampTolerance now : BitVec 64)
    (password secret rawData : String) : Bool :=
  match method with
  | .undefined => password == secret
  | .hmacSha256 => library.sign secret rawData == password
  | .hmacSha256Ts =>
    match timestamp rawData with
    | none => false
    | some text =>
      let sendingTimeUtc := millisecondsToNanoseconds (library.fromChars text)
      let diff := if sendingTimeUtc.slt now then now - sendingTimeUtc else sendingTimeUtc - now
      if timestampTolerance.slt diff then false
      else library.sign secret rawData == password

end Crypto
end FixProxy
