import VrfClient.Plan
import VrfClient.Json.Basic

/-!
The five questions that the client puts to a ledger: the data of an account, a recent block hash, the
submission of a transaction, the signatures of the transactions that touched an address, newest first,
and the transaction of a signature, null if the ledger does not know it. -/

namespace VrfClient.Ledger

/-- A question to a ledger. -/
inductive Call where
  | accountData (address : Address)
  | latestBlockhash
  | send (transaction : Bytes)
  | signatures (address : Address)
  | transaction (signature : String)
deriving DecidableEq

/-- What a question is answered with. A submission is answered with a signature. -/
@[reducible] def Call.Reply : Call → Type
  | .accountData _ => Option Bytes
  | .latestBlockhash => Octets 32
  | .send _ => String
  | .signatures _ => List String
  | .transaction _ => Json

/-- A ledger as a service. -/
abbrev service : Service := ⟨Call, Call.Reply⟩

/-- An operation over a ledger. -/
abbrev Action (τ α : Type) := Plan service τ α

variable {τ : Type}

def accountData (address : Address) : Action τ (Option Bytes) :=
  Plan.call (S := service) (.accountData address)

def latestBlockhash : Action τ (Octets 32) := Plan.call (S := service) .latestBlockhash

def send (transaction : Bytes) : Action τ String := Plan.call (S := service) (.send transaction)

def signatures (address : Address) : Action τ (List String) :=
  Plan.call (S := service) (.signatures address)

def transaction (signature : String) : Action τ Json :=
  Plan.call (S := service) (.transaction signature)

end VrfClient.Ledger
