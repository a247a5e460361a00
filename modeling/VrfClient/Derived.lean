import VrfClient.Address
import VrfClient.Curve.Point
import VrfClient.Hash.Sha2

/-!
Addresses derived from seeds. The hash of the seeds, the owning program and a fixed marker is an
address if it is no point of the curve, so that no secret key can belong to it. One more seed, a
single byte called the bump, is lowered from 255 until that is the case; the first address found is
the canonical one. -/

namespace VrfClient.Derived

/-- Ends every hashed payload. -/
def marker : Bytes := Bytes.ofText "ProgramDerivedAddress"

def maxSeeds : Nat := 16

def maxSeedLength : Nat := 32

/-- Why seeds give no address. -/
inductive Refusal where
  | tooManySeeds (count : Nat)
  | seedTooLong (length : Nat)
  | onCurve
deriving DecidableEq

def Refusal.message : Refusal → String
  | .tooManySeeds n => s!"Too many seeds: {n} > {maxSeeds}"
  | .seedTooLong n => s!"Seed exceeds {maxSeedLength} bytes: {n}"
  | .onCurve => "Invalid seeds, address must fall off the curve"

/-- What is hashed: the seeds without separators, the program and the marker. -/
def payload (seeds : List Bytes) (program : Address) : Bytes :=
  seeds.flatten ++ program.bytes ++ marker

/-- The address of exactly these seeds. -/
def create (seeds : List Bytes) (program : Address) : Except Refusal Address :=
  if maxSeeds < seeds.length then .error (.tooManySeeds seeds.length)
  else match seeds.find? fun s => maxSeedLength < s.length with
    | some s => .error (.seedTooLong s.length)
    | none =>
      let candidate := sha256 (payload seeds program)
      if Curve.Point.onCurve candidate then .error .onCurve else .ok candidate

/-- The bumps in the order in which they are tried. -/
def bumps : List Nat := (List.range 256).reverse

/-- The address with one bump, if there is one. -/
def withBump? (seeds : List Bytes) (program : Address) (bump : Nat) : Option (Address × Nat) :=
  match create (seeds ++ [[UInt8.ofNat bump]]) program with
  | .ok a => some (a, bump)
  | .error _ => none

/-- The canonical address of the seeds, with its bump. -/
def find? (seeds : List Bytes) (program : Address) : Option (Address × Nat) :=
  bumps.findSome? (withBump? seeds program)

/-- The canonical address of a label and a seed. -/
def ofLabel? (label : String) (seed : Bytes) (program : Address) : Option (Address × Nat) :=
  find? [Bytes.ofText label, seed] program

end VrfClient.Derived
