import SignedUpgrade.Failure.Basic
import SignedUpgrade.Text.Base64
import SignedUpgrade.Text.Blank

/-!
# The trusted key

Installers are accepted only if they are signed with one publisher key, whose bytes are compared as
they are.

* `TrustedKey` — the bytes of the key;
* `TrustedKey.parse` — reads a key from base64 text, with or without the armour lines around it;
* `TrustedKey.accepts` — whether a signer's key is the trusted one.
-/

namespace SignedUpgrade

open Text

/-- The public key that an installer's signer must have. -/
structure TrustedKey where
  bytes : Bytes
  deriving DecidableEq, Repr, Inhabited

namespace TrustedKey

/-- Whether a line is armour, that is, begins with five hyphens. -/
def isArmour (line : List Char) : Bool :=
  ['-', '-', '-', '-', '-'].isPrefixOf line

/-- What is left of a text for the decoder: its lines, each trimmed, without armour and put
together. -/
def body (text : List Char) : List Char :=
  (((lines text).map trim).filter (!isArmour ·)).flatten

/-- The key that a text writes in base64. -/
def parse (text : String) : Except Failure TrustedKey :=
  match Base64.decode (Utf8.encodeChars (body text.toList)) with
  | .error fault => .error (.invalidPublicKey fault.message)
  | .ok [] => .error (.invalidPublicKey "key is empty")
  | .ok bytes => .ok ⟨bytes⟩

/-- The base64 text of a key. -/
def toBase64 (key : TrustedKey) : String :=
  Base64.encodeString key.bytes

/-- Whether a signer's key is exactly this one. -/
def accepts (key : TrustedKey) (candidate : Bytes) : Bool :=
  key.bytes == candidate

/-- A form for logs, which shows no more than the length of the key. -/
def summary (key : TrustedKey) : String :=
  "TrustedPublicKey \x7b len: " ++ toString key.bytes.length ++ " \x7d"

end TrustedKey

end SignedUpgrade
