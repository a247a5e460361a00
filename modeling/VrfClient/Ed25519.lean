import VrfClient.Curve.Point
import VrfClient.Hash.Sha2

/-!
Ed25519 signatures. A secret is 32 bytes; its hash gives a scalar, whose multiple of the base point
is the public key, and a nonce key that makes signing deterministic. Verification is the strict,
cofactorless one: the scalar must be reduced, the key must be a reduced encoding, neither the key nor
the commitment may have small order, and the recomputed commitment must have exactly the signature's
first 32 bytes. -/

namespace VrfClient.Ed25519

open Curve

/-- The order of the base point. -/
def order : Nat := 2 ^ 252 + 27742317777372353535851937790883648493

/-- The secret scalar: low three bits clear, bit 254 set, bit 255 clear. -/
def clamp (n : Nat) : Nat := n % 2 ^ 254 / 8 * 8 + 2 ^ 254

/-- Scalar and nonce key of a secret. -/
def expand (secret : Octets 32) : Nat × Bytes :=
  let h := (sha512 secret.bytes).bytes
  (clamp (Bytes.toNatLE (h.take 32)), h.drop 32)

/-- The public key of a secret. -/
def publicKey (secret : Octets 32) : Octets 32 := (Point.base.smul (expand secret).1).compress

/-- A hash as a scalar. -/
def scalarHash (message : Bytes) : Nat := Bytes.toNatLE (sha512 message).bytes % order

/-- The challenge that ties commitment, key and message together. -/
def challenge (commitment key : Octets 32) (message : Bytes) : Nat :=
  scalarHash (commitment.bytes ++ key.bytes ++ message)

/-- The signature of a message under a secret whose public key is `key`. -/
def sign (secret key : Octets 32) (message : Bytes) : Octets 64 :=
  let (scalar, nonceKey) := expand secret
  let r := scalarHash (nonceKey ++ message)
  let commitment := (Point.base.smul r).compress
  let s := (r + challenge commitment key message * scalar) % order
  commitment.append (Octets.ofNatLE 32 s)

/-- The first half of a signature. -/
def commitment (signature : Octets 64) : Octets 32 :=
  ⟨signature.bytes.take 32, by simp [signature.length_bytes]⟩

/-- The second half of a signature, as a number. -/
def response (signature : Octets 64) : Nat := Bytes.toNatLE (signature.bytes.drop 32)

/-- Whether `signature` is valid for `message` under `key`. -/
def verify (key : Octets 32) (message : Bytes) (signature : Octets 64) : Bool :=
  let r := commitment signature
  if response signature ≥ order || Point.hasSmallOrder r || !Point.isReduced key ||
      Point.hasSmallOrder key then false
  else match Point.decompress? key with
    | none => false
    | some a =>
      let recomputed := (Point.base.smul (response signature)).add
        (a.neg.smul (challenge r key message))
      recomputed.compress = r

end VrfClient.Ed25519
