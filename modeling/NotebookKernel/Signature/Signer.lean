import NotebookKernel.Text.Hex
import NotebookKernel.Signature.Sha256

/-!
# Signing messages

A signature is the lowercase hexadecimal HMAC-SHA256 of the concatenated parts. A
kernel without a key neither signs nor checks.
-/

namespace NotebookKernel

namespace Hmac

def blockSize : Nat := 64

/-- A key of exactly one block: a long key is hashed, a short one filled with zeros. -/
def blockKey (key : Bytes) : Bytes :=
  let k := if blockSize < key.length then Sha256.digest key else key
  k ++ List.replicate (blockSize - k.length) 0

def mac (key message : Bytes) : Bytes :=
  let k := blockKey key
  Sha256.digest (k.map (· ^^^ 0x5C) ++ Sha256.digest (k.map (· ^^^ 0x36) ++ message))

end Hmac

/-- What a kernel signs with: nothing, or a key. -/
inductive Signer where
  | unsigned
  | keyed (key : Bytes)
  deriving DecidableEq

namespace Signer

/-- An empty key disables signing. -/
def ofKey (key : Bytes) : Signer := if key = [] then .unsigned else .keyed key

def isEnabled : Signer → Bool
  | .unsigned => false
  | .keyed _ => true

/-- The signature over the parts, empty when signing is disabled. -/
def sign (s : Signer) (parts : List Bytes) : Bytes :=
  match s with
  | .unsigned => []
  | .keyed key => Utf8.encode (Hex.encode (Hmac.mac key parts.flatten))

/-- The characters of a signature frame; bytes beyond ASCII are no digits. -/
def signatureDigits (signature : Bytes) : List Char := signature.map fun b => Char.ofNat b.toNat

/-- Does the signature belong to the parts? Digits of either case are accepted. -/
def verify (s : Signer) (signature : Bytes) (parts : List Bytes) : Bool :=
  match s with
  | .unsigned => true
  | .keyed key =>
      match Hex.decode? (signatureDigits signature) with
      | none => false
      | some bs => bs == Hmac.mac key parts.flatten

/-- A description that does not show the key. -/
def describe (s : Signer) : String :=
  "Signer \x7b enabled: " ++ (if s.isEnabled then "true" else "false") ++ " \x7d"

end Signer

end NotebookKernel
