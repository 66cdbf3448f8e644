import UrlTemplate.Digest.Sha2
import UrlTemplate.Text.Base64
import UrlTemplate.Text.Percent

/-!
# Digests

A digest turns a text into a short text that does not reveal it. A service may have one, and it may
fail. `Algorithm` names the digests at hand: SHA-2 hashes of the UTF-8 bytes, written in base64.
-/

namespace UrlTemplate

/-- Why a digest gave no answer. A failure is known by its message. -/
inductive DigestError
  /-- The digest is not ready. -/
  | unavailable (message : String)
  /-- Any other failure. -/
  | failed (message : String)
deriving DecidableEq, Repr

/-- A digest facility. -/
structure Digest where
  digest : String → Except DigestError String

/-- The hash algorithms at hand. -/
inductive Algorithm
  | sha256
  | sha384
  | sha512
deriving DecidableEq, Repr

namespace Algorithm

/-- All algorithms. -/
def all : List Algorithm := [.sha256, .sha384, .sha512]

/-- The name by which settings and requests choose an algorithm. -/
def name : Algorithm → String
  | .sha256 => "sha256"
  | .sha384 => "sha384"
  | .sha512 => "sha512"

/-- The algorithm of a name. -/
def ofName? (name : String) : Option Algorithm :=
  all.find? (·.name = name)

/-- The hash of some bytes. -/
def hash : Algorithm → List UInt8 → List UInt8
  | .sha256 => Sha2.sha256.hash
  | .sha384 => Sha2.sha384.hash
  | .sha512 => Sha2.sha512.hash

/-- The digest of a text. -/
def digestText (a : Algorithm) (s : String) : String :=
  String.ofList (Base64.encode (a.hash (Text.bytes s)))

/-- The digest facility that an algorithm provides; it never fails. -/
def toDigest (a : Algorithm) : Digest :=
  ⟨fun s => .ok (a.digestText s)⟩

/-- The message for a name that is no algorithm. -/
def unsupported (name : String) : String :=
  "Unsupported digest algorithm: " ++ name

end Algorithm

end UrlTemplate
