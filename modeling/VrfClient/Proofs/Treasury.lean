import VrfClient.Proofs.NetworkConfig
import VrfClient.Proofs.SignedRequest

/-!
The treasury alone. A request needs no more of the configuration account than its header, and reads no
further: `decodeTreasury` gives what `decode` would give, refuses only what `decode` refuses, and is a
function of the first `minLength` bytes (`decodeTreasury_take`). So the account that a request pays does not
depend on the fields behind the header, even where `decode` refuses them. -/

namespace VrfClient

namespace NetworkConfig

/-! ### The header -/

/-- Data passes the checks if it is long enough and starts with the discriminator. -/
theorem checkHeader_eq_ok_iff {data : Bytes} :
    checkHeader data = .ok () ↔ minLength ≤ data.length ∧ discriminator <+: data := by
  constructor
  · intro h
    obtain ⟨authority, treasury, rest, rfl⟩ := exists_headed_of_checkHeader h
    refine ⟨?_, List.prefix_append _ _⟩
    simp only [headed, List.length_append, length_discriminator, authority.length_bytes,
      treasury.length_bytes, minLength]
    omega
  · rintro ⟨hlong, hstart⟩
    have htake : data.take Wire.discriminatorLength = discriminator := by
      rw [← length_discriminator]
      exact (List.prefix_iff_eq_take.1 hstart).symm
    rw [checkHeader, if_neg (Nat.not_lt.2 hlong), htake, if_neg (not_not_intro rfl)]

/-- What stands behind the first `minLength` bytes is not checked. -/
theorem checkHeader_append {front : Bytes} (h : minLength ≤ front.length) (rest : Bytes) :
    checkHeader (front ++ rest) = checkHeader front := by
  have hlong : ¬ (front ++ rest).length < minLength := by
    rw [List.length_append]
    omega
  have htake : (front ++ rest).take Wire.discriminatorLength = front.take Wire.discriminatorLength := by
    refine List.take_append_of_le_length ?_
    unfold minLength at h
    omega
  rw [checkHeader, checkHeader, if_neg hlong, if_neg (Nat.not_lt.2 h), htake]

/-! ### The treasury -/

/-- A treasury is read where a header with it stands in front. -/
theorem decodeTreasury_eq_ok_iff {data : Bytes} {treasury : Address} :
    decodeTreasury data = .ok treasury ↔ ∃ authority rest, data = headed authority treasury rest := by
  constructor
  · intro h
    obtain ⟨⟨⟩, hheader, h⟩ := bind_eq_ok.1 h
    obtain ⟨authority, treasury', rest, rfl⟩ := exists_headed_of_checkHeader hheader
    rw [addressAt_treasury] at h
    cases h
    exact ⟨authority, rest, rfl⟩
  · rintro ⟨authority, rest, rfl⟩
    rw [decodeTreasury, checkHeader_headed, ok_bind, addressAt_treasury, pure_eq_ok]

/-- A treasury is read exactly from data that passes the checks. -/
theorem exists_decodeTreasury_eq_ok_iff {data : Bytes} :
    (∃ treasury, decodeTreasury data = .ok treasury) ↔
      minLength ≤ data.length ∧ discriminator <+: data := by
  rw [← checkHeader_eq_ok_iff]
  constructor
  · rintro ⟨treasury, h⟩
    obtain ⟨authority, rest, rfl⟩ := decodeTreasury_eq_ok_iff.1 h
    exact checkHeader_headed authority treasury rest
  · intro h
    exact ⟨_, by rw [decodeTreasury, h, ok_bind, pure_eq_ok]⟩

/-- The whole configuration has the treasury that is read alone. -/
theorem decodeTreasury_of_decode {data : Bytes} {c : NetworkConfig} (h : decode data = .ok c) :
    decodeTreasury data = .ok c.treasury := by
  obtain ⟨fee, -, -, -, rest, rfl⟩ := exists_layout_of_decode h
  rw [layout, headed_append]
  exact decodeTreasury_eq_ok_iff.2 ⟨_, _, rfl⟩

/-- Data whose treasury is refused is refused as a configuration, for the same fault. -/
theorem decode_of_decodeTreasury {data : Bytes} {fault : DecodeError}
    (h : decodeTreasury data = .error fault) : decode data = .error fault := by
  cases hheader : checkHeader data with
  | ok _ =>
    rw [decodeTreasury, hheader] at h
    cases h
  | error fault' =>
    rw [decodeTreasury, hheader] at h
    rw [decode, hheader]
    cases h
    rfl

/-- The first `minLength` bytes are all that is read for the treasury. -/
theorem decodeTreasury_take {data : Bytes} (h : minLength ≤ data.length) :
    decodeTreasury data = decodeTreasury (data.take minLength) := by
  have hfront : minLength ≤ (data.take minLength).length := by
    rw [List.length_take]
    omega
  have htreasury : treasuryOffset + 32 ≤ (data.take minLength).length := hfront
  conv => lhs; rw [← List.take_append_drop minLength data]
  rw [decodeTreasury, decodeTreasury, checkHeader_append hfront, addressAt, addressAt,
    Bytes.slice_append_of_le htreasury]

/-- Data with the same first `minLength` bytes has the same treasury, or is refused alike. -/
theorem decodeTreasury_congr {data data' : Bytes} (h : minLength ≤ data.length)
    (h' : minLength ≤ data'.length) (hfront : data.take minLength = data'.take minLength) :
    decodeTreasury data = decodeTreasury data' := by
  rw [decodeTreasury_take h, decodeTreasury_take h', hfront]

end NetworkConfig

namespace Client

open Plan

variable {τ α : Type} {env : Env} {signer : Signer} {form : SeedForm} {config : Address}
  {x : List (Exchange Ledger.service)}

/-! ### The account that a request pays -/

/-- Where the configuration account has an address, finding the treasury is one question. -/
theorem treasury_eq_ask {bump : Nat} (hc : env.configAccount? = some (config, bump)) :
    ∃ note, treasury (τ := τ) env = .tell note (.ask (.accountData config) fun answer =>
      .done (treasuryOutcome config answer)) := by
  refine ⟨.log .debug .address s!"Config account {config.text} (bump {bump})", ?_⟩
  unfold treasury configData configAddress
  rw [hc]
  show Plan.tell _ (Plan.ask _ _) = _
  congr 2
  funext answer
  match answer with
  | .error e => rfl
  | .ok none => rfl
  | .ok (some data) => rfl

/-- What follows the treasury learns of the configuration account no more than the treasury. -/
theorem reaches_treasury_bind_congr {data data' : Bytes}
    (htreasury : NetworkConfig.decodeTreasury data = NetworkConfig.decodeTreasury data')
    {f : Address → Plan Ledger.service τ α} {r : Except Error α}
    (h : Reaches (treasury env >>= f) (⟨.accountData config, .ok (some data)⟩ :: x) r) :
    Reaches (treasury env >>= f) (⟨.accountData config, .ok (some data')⟩ :: x) r := by
  cases hc : env.configAccount? with
  | none =>
    unfold treasury configData configAddress at h
    rw [hc] at h
    cases h
  | some found =>
    obtain ⟨note, hasked⟩ := treasury_eq_ask (τ := τ) hc
    rw [hasked] at h ⊢
    cases h with
    | tell h =>
      cases h with
      | ask h =>
        change Reaches (done (treasuryOutcome found.1 (.ok (some data))) >>= f) x r at h
        -- The plan goes on with the outcome, in which the data is no longer seen.
        have hsame : treasuryOutcome found.1 (.ok (some data)) =
            treasuryOutcome found.1 (.ok (some data')) :=
          congrArg (Except.mapError Error.decode) htreasury
        rw [hsame] at h
        exact .tell (.ask h)

/-- A request is built alike for configuration accounts with one treasury. -/
theorem reaches_build_congr {data data' : Bytes}
    (htreasury : NetworkConfig.decodeTreasury data = NetworkConfig.decodeTreasury data')
    {r : Except Error Transaction}
    (h : Reaches (τ := τ) (build env signer form) (⟨.accountData config, .ok (some data)⟩ :: x) r) :
    Reaches (τ := τ) (build env signer form) (⟨.accountData config, .ok (some data')⟩ :: x) r := by
  unfold build at h ⊢
  by_cases hkey : signer.publicKey.length = 32
  · have hpayer : (⟨signer.publicKey, hkey⟩ : Octets 32).bytes = signer.publicKey := rfl
    rw [reaches_exactly_bind hpayer] at h ⊢
    exact reaches_treasury_bind_congr htreasury h
  · rw [reaches_exactly_bind_wrong hkey] at h
    cases h.1

/-- The treasury that is read alone is that of the configuration; it is refused only where the configuration
is, for the same fault, and read exactly from data of at least 72 bytes that starts with the discriminator.
Data that agrees on its first 72 bytes gives the same treasury, and the same request. -/
theorem treasury_alone_agrees :
    (∀ (data : Bytes) (c : NetworkConfig), NetworkConfig.decode data = .ok c →
      NetworkConfig.decodeTreasury data = .ok c.treasury) ∧
    (∀ (data : Bytes) (fault : DecodeError), NetworkConfig.decodeTreasury data = .error fault →
      NetworkConfig.decode data = .error fault) ∧
    (∀ data : Bytes, (∃ treasury, NetworkConfig.decodeTreasury data = .ok treasury) ↔
      72 ≤ data.length ∧ Wire.account "NetworkState" <+: data) ∧
    ∀ data data' : Bytes, 72 ≤ data.length → 72 ≤ data'.length → data.take 72 = data'.take 72 →
      NetworkConfig.decodeTreasury data = NetworkConfig.decodeTreasury data' ∧
      ∀ (env : Env) (signer : Signer) (form : SeedForm) (config : Address)
        (x : List (Exchange Ledger.service)) (r : Except Error Transaction),
        Reaches (τ := τ) (build env signer form) (⟨.accountData config, .ok (some data)⟩ :: x) r →
        Reaches (τ := τ) (build env signer form) (⟨.accountData config, .ok (some data')⟩ :: x) r := by
  refine ⟨fun data c => NetworkConfig.decodeTreasury_of_decode,
    fun data fault => NetworkConfig.decode_of_decodeTreasury,
    fun data => NetworkConfig.exists_decodeTreasury_eq_ok_iff, ?_⟩
  intro data data' hlong hlong' hfront
  have htreasury := NetworkConfig.decodeTreasury_congr hlong hlong' hfront
  exact ⟨htreasury, fun env signer form config x r => reaches_build_congr htreasury⟩

end Client

/-! ### An instance -/

namespace Sample

open Plan Client

/-- Building the request of the sample asks for the configuration, and gives a transaction. -/
theorem exists_reaches_build : ∃ x tx, Reaches (τ := Rat) (build env signer (.address seed))
    (⟨.accountData config, .ok (some configData)⟩ :: x) (.ok tx) := by
  have hc : env.configAccount?.map Prod.fst = some config := by
    rw [configAccount_eq]
    rfl
  have hsign : ∀ message, (signer.sign message).length = 64 := fun message => Octets.length_bytes _
  let buildable := Buildable.ofView env signer seed address configView hc rfl hsign configView_config
    decodeTreasury_configData (0 : Rat) ()
  exact ⟨_, _, buildable.reaches resolve_eq randomnessAccount_eq⟩

end Sample

namespace Client

open Plan NetworkConfig

/-- A configuration of 72 bytes and no more is none, but it has the treasury that the whole one has, and
with other bytes behind it the same request is built. -/
theorem treasury_alone_agrees_sample :
    (∃ bs, encode ⟨Octets.zero 32, Sample.key, 5, []⟩ = .ok bs ∧
      decode bs = .ok ⟨Octets.zero 32, Sample.key, 5, []⟩ ∧ decodeTreasury bs = .ok Sample.key) ∧
    (decodeTreasury [1, 2] = .error (.configTooShort 2) ∧ decode [1, 2] = .error (.configTooShort 2)) ∧
    ((72 ≤ Sample.configData.length ∧ 72 ≤ (Sample.configData ++ [7]).length ∧
      Sample.configData.take 72 = (Sample.configData ++ [7]).take 72) ∧
      decodeTreasury (Sample.configData ++ [7]) = .ok Sample.key) ∧
    ∃ x tx, Reaches (τ := Rat) (build Sample.env Sample.signer (.address Sample.seed))
      (⟨.accountData Sample.config, .ok (some Sample.configData)⟩ :: x) (.ok tx) ∧
      Reaches (τ := Rat) (build Sample.env Sample.signer (.address Sample.seed))
        (⟨.accountData Sample.config, .ok (some (Sample.configData ++ [7]))⟩ :: x) (.ok tx) := by
  have hfits : Fits ⟨Octets.zero 32, Sample.key, 5, []⟩ := ⟨by decide, by decide, by decide⟩
  have hwritten := encode_eq_ok_iff.2 ⟨hfits, rfl⟩
  have hread := decode_eq_ok_iff.2 ⟨_, hwritten, List.prefix_rfl⟩
  have hlong : 72 ≤ Sample.configData.length := by decide +kernel
  have hlong' : 72 ≤ (Sample.configData ++ [7]).length := by decide +kernel
  have hfront : Sample.configData.take 72 = (Sample.configData ++ [7]).take 72 := by decide +kernel
  obtain ⟨hwhole, hrefused, -, hbehind⟩ := treasury_alone_agrees (τ := Rat)
  obtain ⟨hsame, hbuild⟩ := hbehind _ _ hlong hlong' hfront
  obtain ⟨x, tx, hreached⟩ := Sample.exists_reaches_build
  refine ⟨⟨_, hwritten, hread, hwhole _ _ hread⟩, ⟨rfl, hrefused [1, 2] _ rfl⟩,
    ⟨⟨hlong, hlong', hfront⟩, hsame.symm.trans Sample.decodeTreasury_configData⟩, x, tx, hreached, ?_⟩
  exact hbuild _ _ _ _ _ _ hreached

end Client

end VrfClient
