import WorkloadIdentity.Certificate.TrustPool

/-!
Private keys that can sign: RSA keys, keys on one of three elliptic curves, and Ed25519 keys.
Whether a key can be used is read off its structure and the range and relations of its numbers.
-/

namespace WorkloadIdentity

/-- What a private key signs with. -/
inductive SigningKey where
  | rsa (modulus : Nat)
  | ecdsa (curve : Oid)
  | ed25519
deriving DecidableEq, Repr

namespace SigningKey

open Der Certificate.Canonical

/-! ### RSA -/

/-- The fewest and the most bits of a modulus. -/
def minModulusBits : Nat := 2048
def maxModulusBits : Nat := 8192

/-- The numbers of an RSA key. -/
structure RsaNumbers where
  modulus : Nat
  publicExponent : Nat
  privateExponent : Nat
  prime1 : Nat
  prime2 : Nat
  exponent1 : Nat
  exponent2 : Nat
  coefficient : Nat
deriving DecidableEq, Repr

/-- The modulus has a size that is allowed, and the other numbers fit to it. -/
def RsaNumbers.isValid (k : RsaNumbers) : Bool :=
  Nat.pow 2 (minModulusBits - 1) ≤ k.modulus && k.modulus < Nat.pow 2 maxModulusBits &&
    k.modulus == k.prime1 * k.prime2 &&
    k.publicExponent * k.privateExponent % (k.prime1 - 1) == 1 &&
    k.publicExponent * k.privateExponent % (k.prime2 - 1) == 1 &&
    k.exponent1 == k.privateExponent % (k.prime1 - 1) &&
    k.exponent2 == k.privateExponent % (k.prime2 - 1) &&
    k.coefficient * k.prime2 % k.prime1 == 1

def rsaNumbers : Reading RsaNumbers :=
  within Certificate.Canonical.sequence do
    guard ((← natural) = 0)
    let modulus ← natural
    let publicExponent ← natural
    let privateExponent ← natural
    let prime1 ← natural
    let prime2 ← natural
    let exponent1 ← natural
    let exponent2 ← natural
    return { modulus, publicExponent, privateExponent, prime1, prime2, exponent1, exponent2,
             coefficient := ← natural }

def ofRsa? (content : Bytes) : Option SigningKey := do
  let numbers ← whole content rsaNumbers
  guard numbers.isValid
  return .rsa numbers.modulus

/-! ### Elliptic curves -/

/-- A curve by its identifier, with the order of its group. -/
structure Curve where
  oid : Oid
  order : Nat

/-- The curves with prime fields of 256, 384 and 521 bits. -/
def curves : List Curve := [
  ⟨[1, 2, 840, 10045, 3, 1, 7],
    0xffffffff00000000ffffffffffffffffbce6faada7179e84f3b9cac2fc632551⟩,
  ⟨[1, 3, 132, 0, 34],
    0xffffffffffffffffffffffffffffffffffffffffffffffffc7634d81f4372ddf581a0db248b0a77aecec196accc52973⟩,
  ⟨[1, 3, 132, 0, 35],
    0x1fffffffffffffffffffffffffffffffffffffffffffffffffffffffffffffffffffa51868783bf2f966b7fcc0148f709a5d03bb5c9b8899c47aebb6fb71e91386409⟩]

/-- A key on a curve: its number, and the curve if it names one. -/
def ecNumber : Reading (Nat × Option Bytes) :=
  within Certificate.Canonical.sequence do
    guard ((← natural) = 1)
    let secret ← content octetString
    let curve ←
      if (← get).head? = some 0xA0 then some <$> within (field 0) (content identifier)
      else pure none
    if !(← atEnd) then
      within (field 1) do
        let _ ← content bitString
    return (number secret, curve)

/-- A key on a curve, of which `outer` is named beside the key. Where none is named, it is the
first curve that the number is in range for. -/
def ofEc? (outer : Option Bytes) (content : Bytes) : Option SigningKey := do
  let (secret, inner) ← whole content ecNumber
  let fits (c : Curve) : Bool :=
    (outer.all (· == c.oid.content)) && (inner.all (· == c.oid.content)) &&
      0 < secret && secret < c.order
  let curve ← curves.find? fits
  return .ecdsa curve.oid

/-! ### Any kind -/

def rsaOid : Oid := [1, 2, 840, 113549, 1, 1, 1]
def ecOid : Oid := [1, 2, 840, 10045, 2, 1]
def ed25519Oid : Oid := [1, 3, 101, 112]

/-- How many bytes an Ed25519 key has. -/
def ed25519Size : Nat := 32

/-- The kind of a key with its parameters, and the key. -/
def general : Reading (Bytes × Bytes × Bytes) :=
  within Certificate.Canonical.sequence do
    guard ((← natural) ≤ 1)
    let (kind, parameters) ← within Certificate.Canonical.sequence do
      let kind ← content identifier
      let parameters ← get
      set ([] : Bytes)
      return (kind, parameters)
    let key ← content octetString
    set ([] : Bytes)
    return (kind, parameters, key)

def ofGeneral? (text : Bytes) : Option SigningKey := do
  let (kind, parameters, key) ← whole text general
  if kind == rsaOid.content then ofRsa? key
  else if kind == ecOid.content then
    let curve ← whole parameters (content identifier)
    ofEc? (some curve) key
  else if kind == ed25519Oid.content && parameters.isEmpty then do
    let seed ← whole key (content octetString)
    guard (seed.length = ed25519Size)
    return .ed25519
  else none

/-- The key that can be used to sign, if it is one. -/
def ofEncoded (key : EncodedKey) : Except CertificateFault SigningKey :=
  let found :=
    match key.form with
    | .rsa => ofRsa? key.content
    | .general => ofGeneral? key.content
    | .ec => ofEc? none key.content
  match found with
  | some key => .ok key
  | none => .error .unsupportedKey

end SigningKey

end WorkloadIdentity
