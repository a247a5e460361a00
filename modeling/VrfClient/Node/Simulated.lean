import VrfClient.Node.Basic
import VrfClient.Run

/-!
A node held in memory. Every address has the same history; a page starts after the signature that it is
asked to precede and holds no more than the node is willing to give. Calls of one method are counted,
and a fault assigned to a method strikes on the counts that it lists, or on all. -/

namespace VrfClient.Node.Simulated

/-- The methods of a node. -/
inductive Method where
  | accountInfo
  | latestBlockhash
  | sendRaw
  | signaturesFor
  | transaction
deriving DecidableEq

/-- The method of a request. -/
def methodOf : Call → Method
  | .accountInfo .. => .accountInfo
  | .latestBlockhash _ => .latestBlockhash
  | .sendRaw .. => .sendRaw
  | .signaturesFor .. => .signaturesFor
  | .transaction .. => .transaction

/-- A failure, and the counts on which it strikes; none means every call. -/
structure Assigned where
  fault : NodeFault
  calls : Option (List Nat)

/-- The contents of the node, the faults assigned to it, and what it has counted. -/
structure State where
  accounts : List (Address × Bytes)
  transactions : List (Signature × String)
  blockhash : Octets 32
  history : List Signature
  pageSize : Nat
  faults : List (Method × Assigned)
  counts : List Method

/-- The part of a history that is older than a signature. -/
def older (history : List Signature) : Option Signature → List Signature
  | none => history
  | some s => (history.dropWhile fun h => h ≠ s).drop 1

namespace State

/-- The fault that strikes the latest call of a method. -/
def fault? (s : State) (method : Method) : Option NodeFault := do
  let assigned ← s.faults.lookup method
  match assigned.calls with
  | none => some assigned.fault
  | some cs => if cs.contains (s.counts.count method) then some assigned.fault else none

/-- The answer of a request that no fault strikes. A submission is answered with the first signature
in the submitted bytes, which must be there. -/
def answer (s : State) : (call : Call) → Except Error call.Reply
  | .accountInfo address _ => .ok (s.accounts.lookup address)
  | .latestBlockhash _ => .ok s.blockhash
  | .sendRaw tx .. =>
    let found := tx.slice 1 64
    match Octets.ofBytes? 64 found with
    | some signature => .ok signature
    | none => .error (.wrongLength 64 found.length)
  | .signaturesFor _ before limit _ => .ok ((older s.history before).take (min limit s.pageSize))
  | .transaction signature .. => .ok (s.transactions.lookup signature)

end State

/-- The simulated node as a model: count, then fail or answer. -/
def model {τ : Type} : Model service τ State where
  answer call _ s :=
    let s := { s with counts := methodOf call :: s.counts }
    match s.fault? (methodOf call) with
    | some f => (.error (.node f), s)
    | none => (s.answer call, s)

end VrfClient.Node.Simulated
