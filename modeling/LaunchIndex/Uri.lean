import LaunchIndex.Environment
import LaunchIndex.Value.Name

/-! Database addresses: the absolute name of the file, percent-encoded byte by byte, between a
scheme and the access mode. Letters, digits and a few marks stand for themselves, so no part
of a name can be taken for the mode or for a further parameter. -/

namespace LaunchIndex.Uri

/-- The bytes that stand for themselves. -/
def isPlain (b : UInt8) : Bool :=
  let n := b.toNat
  (48 ≤ n && n ≤ 57) || (65 ≤ n && n ≤ 90) || (97 ≤ n && n ≤ 122) ||
    n == 45 || n == 46 || n == 47 || n == 95 || n == 126

def hexDigit (n : Nat) : CodePoint :=
  CodePoint.ofNat (if n < 10 then 48 + n else 55 + n)

def escapeByte (b : UInt8) : Text :=
  if isPlain b then [CodePoint.ofNat b.toNat]
  else [CodePoint.ofChar '%', hexDigit (b.toNat / 16), hexDigit (b.toNat % 16)]

def escape (bytes : Text.Bytes) : Text := bytes.flatMap escapeByte

/-- The address of a file for one access mode. -/
def ofPath (e : Environment) (mode path : Text) : Outcome Text :=
  match Text.Utf8.encodeName? (e.absolute path) with
  | .error run => .error (.unencodable run)
  | .ok bytes =>
    .ok (Text.ofString "file://" ++ escape bytes ++ Text.ofString "?mode=" ++ mode)

/-- The address of a file whose name may be of any kind. -/
def ofValue (e : Environment) (mode : Text) (path : Value) : Outcome Text :=
  path.fileName.bind (ofPath e mode)

end LaunchIndex.Uri
