import VrfClient.Ledger.Basic
import VrfClient.Run

/-!
A ledger held in memory. Accounts change when told to, and by a schedule: an item whose time has come
is applied, and dropped, before the next account is read. Calls of one method are counted from one, and
a fault assigned to a method strikes on the counts that it lists, or on all. -/

namespace VrfClient.Ledger.Simulated

/-- The methods of a ledger. -/
inductive Method where
  | accountData
  | latestBlockhash
  | send
  | signatures
  | transaction
deriving DecidableEq

/-- The method of a question. -/
def methodOf : Call → Method
  | .accountData _ => .accountData
  | .latestBlockhash => .latestBlockhash
  | .send _ => .send
  | .signatures _ => .signatures
  | .transaction _ => .transaction

/-- An error, and the counts on which it strikes; none means every call. -/
structure Fault where
  error : Error
  calls : Option (List Nat)

/-- Whether a fault strikes on a call with this count. -/
def Fault.strikes (f : Fault) (count : Nat) : Bool :=
  match f.calls with
  | none => true
  | some cs => cs.contains count

/-- A change of one account at a time; no data means that the account goes. -/
structure Edit (τ : Type) where
  time : τ
  address : Address
  data : Option Bytes

/-- The contents of the ledger, the faults assigned to it, and what it has counted. -/
structure State (τ : Type) where
  accounts : List (Address × Bytes)
  history : List (Address × List String)
  transactions : List (String × Json)
  blockhash : Octets 32
  schedule : List (Edit τ)
  faults : List (Method × Fault)
  counts : List (Method × Nat)
  sent : Nat

/-- A list of pairs with one key set to a value. -/
def put {κ ν : Type} [DecidableEq κ] (pairs : List (κ × ν)) (key : κ) (value : ν) : List (κ × ν) :=
  (key, value) :: pairs.filter fun p => p.1 ≠ key

/-- A list of pairs without a key. -/
def remove {κ ν : Type} [DecidableEq κ] (pairs : List (κ × ν)) (key : κ) : List (κ × ν) :=
  pairs.filter fun p => p.1 ≠ key

/-- The value of a key. -/
def get? {κ ν : Type} [DecidableEq κ] (pairs : List (κ × ν)) (key : κ) : Option ν :=
  (pairs.find? fun p => p.1 = key).map Prod.snd

namespace State

variable {τ : Type}

/-- A ledger with nothing in it. -/
def empty : State τ := ⟨[], [], [], Octets.zero 32, [], [], [], 0⟩

/-- The ledger after an account was set or removed. -/
def setAccount (s : State τ) (address : Address) (data : Option Bytes) : State τ :=
  { s with accounts := match data with
      | some bs => put s.accounts address bs
      | none => remove s.accounts address }

/-- The ledger with another history of an address. -/
def setHistory (s : State τ) (address : Address) (signatures : List String) : State τ :=
  { s with history := put s.history address signatures }

/-- The ledger after a transaction, now the newest of an address. -/
def addTransaction (s : State τ) (address : Address) (signature : String) (tx : Json) : State τ :=
  { s with
    history := put s.history address (signature :: (get? s.history address).getD [])
    transactions := put s.transactions signature tx }

/-- The ledger with a fault assigned to a method, or with none. -/
def setFault (s : State τ) (method : Method) (fault : Option Fault) : State τ :=
  { s with faults := match fault with
      | some f => put s.faults method f
      | none => remove s.faults method }

/-- The ledger after every edit whose time has come, in schedule order. -/
def advance [Clock τ] (s : State τ) (t : τ) : State τ :=
  let due := s.schedule.filter fun e => !Clock.isAfter e.time t
  let later := s.schedule.filter fun e => Clock.isAfter e.time t
  due.foldl (fun s e => s.setAccount e.address e.data) { s with schedule := later }

/-- The count of the next call of a method. -/
def count (s : State τ) (method : Method) : Nat := (get? s.counts method).getD 0 + 1

/-- The fault that strikes the next call of a method. -/
def fault? (s : State τ) (method : Method) : Option Error :=
  (get? s.faults method).bind fun f => if f.strikes (s.count method) then some f.error else none

/-- The answer of a call that no fault strikes. -/
def answer [Clock τ] (s : State τ) (t : τ) : (call : Call) → call.Reply × State τ
  | .accountData address => let s := s.advance t; (get? s.accounts address, s)
  | .latestBlockhash => (s.blockhash, s)
  | .send _ => (s!"sig{s.sent + 1}", { s with sent := s.sent + 1 })
  | .signatures address => ((get? s.history address).getD [], s)
  | .transaction signature => ((get? s.transactions signature).getD .null, s)

end State

/-- The simulated ledger as a model: count, then fail or answer. -/
def model {τ : Type} [Clock τ] : Model service τ (State τ) where
  answer call t s :=
    let method := methodOf call
    let counted := { s with counts := put s.counts method (s.count method) }
    match s.fault? method with
    | some e => (.error e, counted)
    | none => let (r, s) := counted.answer t call; (.ok r, s)

end VrfClient.Ledger.Simulated
