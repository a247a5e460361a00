import VrfClient.Keypair
import VrfClient.Proofs.Fields
import Mathlib.Data.List.Forall2

/-!
What a signer is loaded from. A byte string gives a key pair exactly if it is a secret followed by the public key
of this secret (`ofBytes_eq_ok_iff`), and a document does exactly if it is an array of numbers and truth values
that stand for such bytes (`ofJson_eq_ok_iff`). Documents of other kinds have bytes too, but never those of a key
pair: the only one with the right length, the number 64, stands for zeros, and zeros are not the public key of
the secret of zeros. -/

namespace VrfClient

/-- A traversal succeeds with what each item gives. -/
theorem mapM_eq_ok_iff {ε α β : Type} {f : α → Except ε β} : ∀ {xs : List α} {ys : List β},
    xs.mapM f = .ok ys ↔ List.Forall₂ (fun x y => f x = .ok y) xs ys
  | [], ys => by
    rw [List.forall₂_nil_left_iff]
    exact ⟨fun h => (Except.ok.inj h).symm, fun h => h ▸ rfl⟩
  | x :: xs, ys => by
    simp only [List.mapM_cons, bind_eq_ok, mapM_eq_ok_iff, List.forall₂_cons_left_iff]
    constructor
    · rintro ⟨y, hy, zs, hzs, h⟩
      exact ⟨y, zs, hy, hzs, (Except.ok.inj h).symm⟩
    · rintro ⟨y, zs, hy, hzs, rfl⟩
      exact ⟨y, hy, zs, hzs, rfl⟩

namespace Keypair

/-! ### Bytes -/

/-- The bytes are a secret and, behind it, the public key of the secret. -/
structure Matching (bs : Bytes) (secret : Octets 32) : Prop where
  length_eq : bs.length = 64
  secret_eq : secret.bytes = bs.take 32
  key_eq : (Ed25519.publicKey secret).bytes = bs.drop 32

variable {bs : Bytes} {pair : Keypair}

theorem ofBytes_of_length_ne (h : bs.length ≠ 64) : ofBytes bs = .error (.wrongLength bs.length) := by
  simp only [ofBytes, byteLength, ne_eq, h, not_false_eq_true, if_true]
  rfl

theorem ofSecretBytes_take {secret : Octets 32} (h : secret.bytes = bs.take 32) :
    ofSecretBytes (bs.take 32) = .ok (ofSecret secret) := by
  rw [ofSecretBytes, ← h, Octets.ofBytes?_bytes]

/-- Of bytes of the right length only the second half can be wrong. -/
theorem ofBytes_of_length {secret : Octets 32} (hlength : bs.length = 64) (hsecret : secret.bytes = bs.take 32) :
    ofBytes bs = if (Ed25519.publicKey secret).bytes = bs.drop 32 then .ok (ofSecret secret)
      else .error .mismatch := by
  simp only [ofBytes, byteLength, hlength, ofSecretBytes_take hsecret, ne_eq, not_true_eq_false,
    if_false]
  by_cases hkey : (Ed25519.publicKey secret).bytes = bs.drop 32
  · simp [ofSecret, hkey, bind, Except.bind, pure, Except.pure]
  · simp [ofSecret, hkey, bind, Except.bind, throw, throwThe, MonadExceptOf.throw]

/-- The first half of 64 bytes as a secret. -/
theorem exists_secret (h : bs.length = 64) : ∃ secret : Octets 32, secret.bytes = bs.take 32 :=
  ⟨⟨bs.take 32, List.length_take_of_le (by omega)⟩, rfl⟩

theorem ofBytes_eq_ok_iff : ofBytes bs = .ok pair ↔ ∃ secret, Matching bs secret ∧ pair = ofSecret secret := by
  constructor
  · intro h
    by_cases hlength : bs.length = 64
    · obtain ⟨secret, hsecret⟩ := exists_secret hlength
      rw [ofBytes_of_length hlength hsecret] at h
      split at h
      · rename_i hkey
        exact ⟨secret, ⟨hlength, hsecret, hkey⟩, (Except.ok.inj h).symm⟩
      · cases h
    · rw [ofBytes_of_length_ne hlength] at h
      cases h
  · rintro ⟨secret, h, rfl⟩
    rw [ofBytes_of_length h.length_eq h.secret_eq, if_pos h.key_eq]

theorem ofBytes_eq_mismatch (hlength : bs.length = 64) (h : ∀ secret, ¬ Matching bs secret) :
    ofBytes bs = .error .mismatch := by
  obtain ⟨secret, hsecret⟩ := exists_secret hlength
  rw [ofBytes_of_length hlength hsecret, if_neg fun hkey => h secret ⟨hlength, hsecret, hkey⟩]

/-- The secret of zeros has another public key than zeros. -/
theorem publicKey_zero_ne : Ed25519.publicKey (Octets.zero 32) ≠ Octets.zero 32 := by decide +kernel

theorem not_matching_zeros (secret : Octets 32) : ¬ Matching (List.replicate 64 0) secret := by
  intro h
  obtain rfl : secret = Octets.zero 32 := Octets.bytes_inj.1 h.secret_eq
  exact publicKey_zero_ne (Octets.bytes_inj.1 h.key_eq)

/-! ### Documents -/

/-- The items that stand for a byte: a number below 256 for itself, a truth value for one or zero. -/
inductive ItemByte : Json → UInt8 → Prop
  | number {n : Nat} : n < 256 → ItemByte (.int n) (UInt8.ofNat n)
  | yes : ItemByte (.bool true) 1
  | no : ItemByte (.bool false) 0

/-- The document is an array whose items stand for these bytes. -/
def Lists (v : Json) (bs : Bytes) : Prop := ∃ items, v = .arr items ∧ List.Forall₂ ItemByte items bs

theorem byteOfItem_eq_ok_iff {v : Json} {b : UInt8} : byteOfItem v = .ok b ↔ ItemByte v b := by
  constructor
  · intro h
    cases v with
    | int i =>
      simp only [byteOfItem] at h
      split at h
      · rename_i hi
        obtain ⟨n, rfl⟩ := Int.eq_ofNat_of_zero_le hi.1
        obtain rfl := Except.ok.inj h
        exact .number (by omega)
      · cases h
    | bool b =>
      obtain rfl := Except.ok.inj h
      cases b
      · exact .no
      · exact .yes
    | _ => cases h
  · rintro (hn | _ | _)
    · rw [byteOfItem, if_pos (by omega)]
      rfl
    · rfl
    · rfl

/-- A number of zero bytes is no key pair, whatever the number. -/
theorem ofCount_ne_ok (n : Int) : ofCount n ≠ .ok pair := by
  unfold ofCount
  split
  · simp
  split
  · simp
  split
  · simp
  split
  · rw [byteLength, ofBytes_eq_mismatch (by simp) not_matching_zeros]
    simp
  · simp

theorem ofJson_eq_ok_iff {v : Json} :
    ofJson v = .ok pair ↔ ∃ bs secret, Lists v bs ∧ Matching bs secret ∧ pair = ofSecret secret := by
  have hitems : ∀ {items : List Json} {bs : Bytes},
      items.mapM byteOfItem = .ok bs ↔ List.Forall₂ ItemByte items bs := by
    intro items bs
    simp only [mapM_eq_ok_iff, byteOfItem_eq_ok_iff]
  constructor
  · intro h
    cases v with
    | arr items =>
      obtain ⟨bs, hbs, hpair⟩ := bind_eq_ok.1 h
      obtain ⟨secret, hmatching, rfl⟩ := ofBytes_eq_ok_iff.1 hpair
      exact ⟨bs, secret, ⟨items, rfl, hitems.1 hbs⟩, hmatching, rfl⟩
    | obj members =>
      cases members with
      | nil => cases h
      | cons m ms => cases h
    | int n => exact absurd h (ofCount_ne_ok n)
    | bool b => exact absurd h (ofCount_ne_ok _)
    | _ => cases h
  · rintro ⟨bs, secret, ⟨items, rfl, hbs⟩, hmatching, rfl⟩
    exact bind_eq_ok.2 ⟨bs, hitems.2 hbs, ofBytes_eq_ok_iff.2 ⟨secret, hmatching, rfl⟩⟩

theorem ofFile_eq {text : String} {v : Json} (h : Json.parse text = .ok v) : ofFile text = ofJson v := by
  rw [ofFile, h]
  rfl

/-! ### Signers -/

/-- Only matching signers are loaded. From bytes: exactly from a secret with its own public key behind it, and the
signer then has this key and signs as the secret alone does; other bytes are refused for their length or their
halves. From a file: exactly from an array that lists such bytes; every other document, and every text that is
none, gives no signer. -/
theorem only_matching_signers :
    (∀ bs, ((∃ pair, ofBytes bs = .ok pair) ↔ ∃ secret, Matching bs secret) ∧
      (bs.length ≠ 64 → ofBytes bs = .error (.wrongLength bs.length)) ∧
      (bs.length = 64 → (∀ secret, ¬ Matching bs secret) → ofBytes bs = .error .mismatch)) ∧
    (∀ bs pair, ofBytes bs = .ok pair → pair.signer.publicKey = bs.drop 32 ∧
      ∃ seeded, ofSecretBytes (bs.take 32) = .ok seeded ∧
        ∀ message, pair.signer.sign message = seeded.signer.sign message) ∧
    (∀ text v pair, Json.parse text = .ok v → (ofFile text = .ok pair ↔
      ∃ bs, Lists v bs ∧ ofBytes bs = .ok pair)) ∧
    ∀ text fault, Json.parse text = .error fault → ofFile text = .error (.document fault) := by
  refine ⟨fun bs => ⟨?_, ofBytes_of_length_ne, ofBytes_eq_mismatch⟩, fun bs pair h => ?_, ?_, ?_⟩
  · constructor
    · rintro ⟨pair, h⟩
      obtain ⟨secret, hmatching, -⟩ := ofBytes_eq_ok_iff.1 h
      exact ⟨secret, hmatching⟩
    · rintro ⟨secret, hmatching⟩
      exact ⟨_, ofBytes_eq_ok_iff.2 ⟨secret, hmatching, rfl⟩⟩
  · obtain ⟨secret, hmatching, rfl⟩ := ofBytes_eq_ok_iff.1 h
    exact ⟨hmatching.key_eq, _, ofSecretBytes_take hmatching.secret_eq, fun _ => rfl⟩
  · intro text v pair hparse
    simp only [ofFile_eq hparse, ofJson_eq_ok_iff, ofBytes_eq_ok_iff]
    constructor
    · rintro ⟨bs, secret, hlists, hmatching, rfl⟩
      exact ⟨bs, hlists, secret, hmatching, rfl⟩
    · rintro ⟨bs, hlists, secret, hmatching, rfl⟩
      exact ⟨bs, secret, hlists, hmatching, rfl⟩
  · intro text fault hparse
    rw [ofFile, hparse]
    rfl

theorem matching_append (secret : Octets 32) :
    Matching (secret.bytes ++ (Ed25519.publicKey secret).bytes) secret where
  length_eq := by simp [Octets.length_bytes]
  secret_eq := by rw [List.take_left' secret.length_bytes]
  key_eq := by rw [List.drop_left' secret.length_bytes]

/-- A secret of zeros with its public key is loaded, and signs under this key; the file that holds just the number
64, which has 64 zero bytes, gives no signer. -/
theorem only_matching_signers_sample :
    (∃ pair, ofBytes ((Octets.zero 32).bytes ++ (Ed25519.publicKey (Octets.zero 32)).bytes) = .ok pair ∧
      pair.signer.publicKey = (Ed25519.publicKey (Octets.zero 32)).bytes) ∧
    Json.parse "64" = .ok (.int 64) ∧ ∀ pair, ofFile "64" ≠ .ok pair := by
  have hzeros := matching_append (Octets.zero 32)
  obtain ⟨pair, hpair⟩ := (only_matching_signers.1 _).1.2 ⟨_, hzeros⟩
  have hparse : Json.parse "64" = .ok (.int 64) := by
    have hletters : ("64" : String).toList = ['6', '4'] := by decide +kernel
    rw [Json.parse, hletters]
    rfl
  refine ⟨⟨pair, hpair, ?_⟩, hparse, fun pair h => ?_⟩
  · exact (only_matching_signers.2.1 _ _ hpair).1.trans hzeros.key_eq.symm
  · obtain ⟨bs, ⟨items, hitems, -⟩, -⟩ := (only_matching_signers.2.2.1 _ _ _ hparse).1 h
    cases hitems

end Keypair

end VrfClient
