import VrfClient.Bytes

/-!
The two hash functions of the Secure Hash Standard that this library needs, as two settings of one
construction: pad the message to whole blocks, then fold each block into eight words of state.
A block enters as sixteen words; each round uses up the oldest word and appends a new one, so the
message schedule is a sliding window. A digest always has eight words' worth of bytes, whatever the
message (`length_digest`). -/

namespace VrfClient.Sha2

/-- What distinguishes one member of the family from another: the word size in bytes, the round
constants, the starting state and the rotation amounts (the small triples end in a shift). -/
structure Variant where
  wordBytes : Nat
  rounds : List Nat
  start : List Nat
  bigA : Nat × Nat × Nat
  bigE : Nat × Nat × Nat
  small0 : Nat × Nat × Nat
  small1 : Nat × Nat × Nat

/-- Bits in a word. -/
abbrev Variant.width (v : Variant) : Nat := 8 * v.wordBytes

/-- A machine word of the variant. -/
abbrev Variant.Word (v : Variant) : Type := BitVec v.width

/-- The eight words of chaining state. -/
structure State (w : Nat) where
  a : BitVec w
  b : BitVec w
  c : BitVec w
  d : BitVec w
  e : BitVec w
  f : BitVec w
  g : BitVec w
  h : BitVec w

/-- Three rotations, added without carry. -/
def bigSigma {w : Nat} (r : Nat × Nat × Nat) (x : BitVec w) : BitVec w :=
  x.rotateRight r.1 ^^^ x.rotateRight r.2.1 ^^^ x.rotateRight r.2.2

/-- Two rotations and a shift, added without carry. -/
def smallSigma {w : Nat} (r : Nat × Nat × Nat) (x : BitVec w) : BitVec w :=
  x.rotateRight r.1 ^^^ x.rotateRight r.2.1 ^^^ (x >>> r.2.2)

/-- Each bit of `x` chooses between the bits of `y` and `z`. -/
def choose {w : Nat} (x y z : BitVec w) : BitVec w := (x &&& y) ^^^ (~~~x &&& z)

/-- Each bit is the one that most of the three arguments hold. -/
def majority {w : Nat} (x y z : BitVec w) : BitVec w := (x &&& y) ^^^ (x &&& z) ^^^ (y &&& z)

/-- The word that joins the window: it depends on its sixteen predecessors. -/
def nextWord (v : Variant) (window : List v.Word) : v.Word :=
  smallSigma v.small1 (window.getD 14 0) + window.getD 9 0 +
    smallSigma v.small0 (window.getD 1 0) + window.getD 0 0

/-- One round: mix the oldest word of the window and the round constant into the state, and slide
the window by one. -/
def round (v : Variant) (st : State v.width × List v.Word) (k : Nat) :
    State v.width × List v.Word :=
  let s := st.1
  let t1 := s.h + bigSigma v.bigE s.e + choose s.e s.f s.g + BitVec.ofNat v.width k + st.2.getD 0 0
  let t2 := bigSigma v.bigA s.a + majority s.a s.b s.c
  (⟨t1 + t2, s.a, s.b, s.c, s.d + t1, s.e, s.f, s.g⟩, st.2.tail ++ [nextWord v st.2])

/-- Word-wise sum of two states. -/
def State.add {w : Nat} (s t : State w) : State w :=
  ⟨s.a + t.a, s.b + t.b, s.c + t.c, s.d + t.d, s.e + t.e, s.f + t.f, s.g + t.g, s.h + t.h⟩

/-- The first `n` big-endian words of a block. -/
def words (v : Variant) : Nat → Bytes → List v.Word
  | 0, _ => []
  | n + 1, bs => BitVec.ofNat v.width (Bytes.toNatBE (bs.take v.wordBytes)) ::
      words v n (bs.drop v.wordBytes)

/-- All rounds over one block, added to the state before it. -/
def compress (v : Variant) (s : State v.width) (block : Bytes) : State v.width :=
  s.add (v.rounds.foldl (round v) (s, words v 16 block)).1

/-- Fold `count` blocks into the state. -/
def absorb (v : Variant) : Nat → State v.width → Bytes → State v.width
  | 0, s, _ => s
  | count + 1, s, bs =>
    absorb v count (compress v s (bs.take (16 * v.wordBytes))) (bs.drop (16 * v.wordBytes))

/-- The message, a one bit, zeros up to a block boundary, and its length in bits in two words. -/
def pad (v : Variant) (message : Bytes) : Bytes :=
  let block := 16 * v.wordBytes
  let used := (message.length + 1 + 2 * v.wordBytes) % block
  message ++ 0x80 :: List.replicate ((block - used) % block) 0 ++
    Bytes.ofNatBE (2 * v.wordBytes) (8 * message.length)

/-- The starting state. -/
def initial (v : Variant) : State v.width :=
  let word := fun i => BitVec.ofNat v.width (v.start.getD i 0)
  ⟨word 0, word 1, word 2, word 3, word 4, word 5, word 6, word 7⟩

/-- The state as bytes, each word big-endian. -/
def State.toBytes (wordBytes : Nat) {w : Nat} (s : State w) : Bytes :=
  [s.a, s.b, s.c, s.d, s.e, s.f, s.g, s.h].flatMap fun x => Bytes.ofNatBE wordBytes x.toNat

/-- The hash of a message. -/
def digest (v : Variant) (message : Bytes) : Bytes :=
  let padded := pad v message
  (absorb v (padded.length / (16 * v.wordBytes)) (initial v) padded).toBytes v.wordBytes

theorem State.length_toBytes (n : Nat) {w : Nat} (s : State w) :
    (s.toBytes n).length = 8 * n := by
  simp only [State.toBytes, List.flatMap_cons, List.flatMap_nil, List.length_append,
    List.length_nil, Bytes.length_ofNatBE]
  omega

theorem length_digest (v : Variant) (message : Bytes) :
    (digest v message).length = 8 * v.wordBytes := State.length_toBytes _ _

/-- Words of 32 bits and 64 rounds. -/
def narrow : Variant where
  wordBytes := 4
  rounds := [
    0x428a2f98, 0x71374491, 0xb5c0fbcf, 0xe9b5dba5, 0x3956c25b, 0x59f111f1, 0x923f82a4, 0xab1c5ed5,
    0xd807aa98, 0x12835b01, 0x243185be, 0x550c7dc3, 0x72be5d74, 0x80deb1fe, 0x9bdc06a7, 0xc19bf174,
    0xe49b69c1, 0xefbe4786, 0x0fc19dc6, 0x240ca1cc, 0x2de92c6f, 0x4a7484aa, 0x5cb0a9dc, 0x76f988da,
    0x983e5152, 0xa831c66d, 0xb00327c8, 0xbf597fc7, 0xc6e00bf3, 0xd5a79147, 0x06ca6351, 0x14292967,
    0x27b70a85, 0x2e1b2138, 0x4d2c6dfc, 0x53380d13, 0x650a7354, 0x766a0abb, 0x81c2c92e, 0x92722c85,
    0xa2bfe8a1, 0xa81a664b, 0xc24b8b70, 0xc76c51a3, 0xd192e819, 0xd6990624, 0xf40e3585, 0x106aa070,
    0x19a4c116, 0x1e376c08, 0x2748774c, 0x34b0bcb5, 0x391c0cb3, 0x4ed8aa4a, 0x5b9cca4f, 0x682e6ff3,
    0x748f82ee, 0x78a5636f, 0x84c87814, 0x8cc70208, 0x90befffa, 0xa4506ceb, 0xbef9a3f7, 0xc67178f2]
  start := [
    0x6a09e667, 0xbb67ae85, 0x3c6ef372, 0xa54ff53a, 0x510e527f, 0x9b05688c, 0x1f83d9ab, 0x5be0cd19]
  bigA := (2, 13, 22)
  bigE := (6, 11, 25)
  small0 := (7, 18, 3)
  small1 := (17, 19, 10)

/-- Words of 64 bits and 80 rounds. -/
def wide : Variant where
  wordBytes := 8
  rounds := [
    0x428a2f98d728ae22, 0x7137449123ef65cd, 0xb5c0fbcfec4d3b2f, 0xe9b5dba58189dbbc,
    0x3956c25bf348b538, 0x59f111f1b605d019, 0x923f82a4af194f9b, 0xab1c5ed5da6d8118,
    0xd807aa98a3030242, 0x12835b0145706fbe, 0x243185be4ee4b28c, 0x550c7dc3d5ffb4e2,
    0x72be5d74f27b896f, 0x80deb1fe3b1696b1, 0x9bdc06a725c71235, 0xc19bf174cf692694,
    0xe49b69c19ef14ad2, 0xefbe4786384f25e3, 0x0fc19dc68b8cd5b5, 0x240ca1cc77ac9c65,
    0x2de92c6f592b0275, 0x4a7484aa6ea6e483, 0x5cb0a9dcbd41fbd4, 0x76f988da831153b5,
    0x983e5152ee66dfab, 0xa831c66d2db43210, 0xb00327c898fb213f, 0xbf597fc7beef0ee4,
    0xc6e00bf33da88fc2, 0xd5a79147930aa725, 0x06ca6351e003826f, 0x142929670a0e6e70,
    0x27b70a8546d22ffc, 0x2e1b21385c26c926, 0x4d2c6dfc5ac42aed, 0x53380d139d95b3df,
    0x650a73548baf63de, 0x766a0abb3c77b2a8, 0x81c2c92e47edaee6, 0x92722c851482353b,
    0xa2bfe8a14cf10364, 0xa81a664bbc423001, 0xc24b8b70d0f89791, 0xc76c51a30654be30,
    0xd192e819d6ef5218, 0xd69906245565a910, 0xf40e35855771202a, 0x106aa07032bbd1b8,
    0x19a4c116b8d2d0c8, 0x1e376c085141ab53, 0x2748774cdf8eeb99, 0x34b0bcb5e19b48a8,
    0x391c0cb3c5c95a63, 0x4ed8aa4ae3418acb, 0x5b9cca4f7763e373, 0x682e6ff3d6b2b8a3,
    0x748f82ee5defb2fc, 0x78a5636f43172f60, 0x84c87814a1f0ab72, 0x8cc702081a6439ec,
    0x90befffa23631e28, 0xa4506cebde82bde9, 0xbef9a3f7b2c67915, 0xc67178f2e372532b,
    0xca273eceea26619c, 0xd186b8c721c0c207, 0xeada7dd6cde0eb1e, 0xf57d4f7fee6ed178,
    0x06f067aa72176fba, 0x0a637dc5a2c898a6, 0x113f9804bef90dae, 0x1b710b35131c471b,
    0x28db77f523047d84, 0x32caab7b40c72493, 0x3c9ebe0a15c9bebc, 0x431d67c49c100d4c,
    0x4cc5d4becb3e42b6, 0x597f299cfc657e2a, 0x5fcb6fab3ad6faec, 0x6c44198c4a475817]
  start := [
    0x6a09e667f3bcc908, 0xbb67ae8584caa73b, 0x3c6ef372fe94f82b, 0xa54ff53a5f1d36f1,
    0x510e527fade682d1, 0x9b05688c2b3e6c1f, 0x1f83d9abfb41bd6b, 0x5be0cd19137e2179]
  bigA := (28, 34, 39)
  bigE := (14, 18, 41)
  small0 := (1, 8, 7)
  small1 := (19, 61, 6)

end VrfClient.Sha2

namespace VrfClient

/-- The 32-byte hash. -/
def sha256 (message : Bytes) : Octets 32 :=
  ⟨Sha2.digest Sha2.narrow message, Sha2.length_digest _ _⟩

/-- The 64-byte hash. -/
def sha512 (message : Bytes) : Octets 64 :=
  ⟨Sha2.digest Sha2.wide message, Sha2.length_digest _ _⟩

end VrfClient
