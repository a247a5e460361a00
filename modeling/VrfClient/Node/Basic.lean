import VrfClient.Ledger.Basic
import VrfClient.Json.Reader

/-!
A ledger reached through a node. Each question to the ledger becomes a request to the node at one
commitment level; a failed request is reported as a failure of transport, named after the request, and
nothing is retried. The history of an address comes in pages, newest first, and is asked for until a
page is short. -/

namespace VrfClient.Node

/-- A request to a node. -/
inductive Call where
  | accountInfo (address : Address) (commitment : String)
  | latestBlockhash (commitment : String)
  | sendRaw (transaction : Bytes) (skipConfirmation : Bool) (preflight : String)
  | signaturesFor (address : Address) (before : Option Signature) (limit : Nat) (commitment : String)
  | transaction (signature : Signature) (encoding commitment : String) (maxVersion : Nat)
deriving DecidableEq

/-- What a request is answered with. A transaction comes as text. -/
@[reducible] def Call.Reply : Call → Type
  | .accountInfo .. => Option Bytes
  | .latestBlockhash _ => Octets 32
  | .sendRaw .. => Signature
  | .signaturesFor .. => List Signature
  | .transaction .. => Option String

/-- A node as a service. -/
abbrev service : Service := ⟨Call, Call.Reply⟩

/-- An operation over a node. -/
abbrev Action (τ α : Type) := Plan service τ α

/-- The commitment level that a client uses who does not say. -/
def defaultCommitment : String := "confirmed"

/-- The longest page of a history. -/
def pageLimit : Nat := 1000

/-- No history has more signatures than there are signatures. -/
def pageBudget : Nat := 2 ^ 512

variable {τ : Type}

/-- Make a request; a node failure of transport is reported under the request's name. -/
def ask (name : String) (c : Call) : Action τ c.Reply :=
  .ask c fun r => .done (match r with
    | .error (.node f) => .error (if f.isTransport then .transport (.failed name f) else .node f)
    | r => r)

/-- The data of an account. -/
def accountData (commitment : String) (address : Address) : Action τ (Option Bytes) :=
  ask s!"getAccountInfo {address.text}" (.accountInfo address commitment)

/-- A recent block hash. -/
def latestBlockhash (commitment : String) : Action τ (Octets 32) :=
  ask "getLatestBlockhash" (.latestBlockhash commitment)

/-- Submit a transaction and wait until it is confirmed. -/
def send (commitment : String) (transaction : Bytes) : Action τ String := do
  let signature : Signature ← ask "sendTransaction" (.sendRaw transaction false commitment)
  return signature.text

/-- Pages of a history older than `before`, at most as many as the budget says. -/
def collect (commitment : String) (address : Address) :
    Nat → Option Signature → Action τ (List Signature)
  | 0, _ => return []
  | budget + 1, before => do
    let page : List Signature ← ask s!"getSignaturesForAddress {address.text}"
      (.signaturesFor address before pageLimit commitment)
    if page.length < pageLimit then return page
    else return page ++ (← collect commitment address budget page.getLast?)

/-- The signatures of every transaction that touched an address, newest first. -/
def signatures (commitment : String) (address : Address) : Action τ (List String) := do
  let found ← collect commitment address pageBudget none
  Plan.log .debug .transport s!"Found {found.length} signature(s) for {address.text}"
  return found.map Signature.text

/-- The transaction of a signature, null if the node does not know it. -/
def transaction (commitment : String) (signature : String) : Action τ Json := do
  let s ← Plan.lift ((Signature.ofText signature).mapError .badSignature)
  let reply : Option String ← ask s!"getTransaction {signature}"
    (.transaction s "jsonParsed" commitment 0)
  match reply with
  | none => return .null
  | some text => Plan.lift ((Json.parse text).mapError .document)

/-- The answer to a question to the ledger. -/
def answer (commitment : String) : (c : Ledger.Call) → Action τ c.Reply
  | .accountData address => accountData commitment address
  | .latestBlockhash => latestBlockhash commitment
  | .send tx => send commitment tx
  | .signatures address => signatures commitment address
  | .transaction signature => transaction commitment signature

/-- An operation over a ledger as one over a node. -/
def through {α : Type} (commitment : String) : Ledger.Action τ α → Action τ α
  | .done r => .done r
  | .ask c k => (answer commitment c).handle fun r => through commitment (k r)
  | .tell n p => .tell n (through commitment p)
  | .now k => .now fun t => through commitment (k t)
  | .sleep d p => .sleep d (through commitment p)

end VrfClient.Node
