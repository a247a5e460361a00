import VrfClient.Derived
import VrfClient.Text.Quoted

/-!
Where the oracle lives: the cluster to talk to, the address of the program, and the labels from which
its accounts are derived. An environment is built for a named cluster, or read from variables. -/

namespace VrfClient

/-- The clusters. -/
inductive Network where
  | devnet
  | mainnet
  | localnet
deriving DecidableEq

namespace Network

def all : List Network := [.devnet, .mainnet, .localnet]

def name : Network → String
  | .devnet => "devnet"
  | .mainnet => "mainnet"
  | .localnet => "localnet"

/-- The cluster of a name, which must be spelled exactly. -/
def ofName? (s : String) : Option Network := all.find? fun n => n.name == s

/-- The public node of a cluster. -/
def rpcUrl : Network → String
  | .devnet => "https://api.devnet.solana.com"
  | .mainnet => "https://api.mainnet-beta.solana.com"
  | .localnet => "http://127.0.0.1:8899"

end Network

/-- A deployment of the oracle program, and the node through which it is reached. -/
structure Env where
  rpcUrl : String
  program : Address
  configLabel : String
  randomnessLabel : String

namespace Env

/-- Why an environment cannot be built. -/
inductive Fault where
  | unknownNetwork (name : String)
  /-- No cluster was named where one has to be. -/
  | noNetwork
  | badProgram (text : String)
deriving DecidableEq

def Fault.message : Fault → String
  | .unknownNetwork name => s!"{Text.quoted name} is not a valid Network"
  | .noNetwork => "[] is not a valid Network"
  | .badProgram text => s!"program id is not a valid pubkey: {Text.quoted text}"

/-- The deployed program, the same on every public cluster. -/
def defaultProgram : String := "VRFzZoJdhFWL8rkvu87LpKM3RbcVezpMEc6X5GVDr7y"

/-- The label of the configuration account. -/
def defaultConfigLabel : String := "orao-vrf-network-configuration"

/-- The label of randomness accounts. -/
def defaultRandomnessLabel : String := "orao-vrf-randomness-request"

/-- The program that a text names. -/
def readProgram (text : String) : Except Fault Address :=
  match Address.ofText text with
  | .ok a => .ok a
  | .error _ => .error (.badProgram text)

/-- The cluster that a text names. -/
def readNetwork (name : String) : Except Fault Network :=
  match Network.ofName? name with
  | some n => .ok n
  | none => .error (.unknownNetwork name)

/-- The environment of a cluster and a program. -/
def forNetwork (network : Network) (program : String) : Except Fault Env := do
  return ⟨network.rpcUrl, ← readProgram program, defaultConfigLabel, defaultRandomnessLabel⟩

/-- The environment of a client that is told nothing. -/
def standard : Except Fault Env := forNetwork .devnet defaultProgram

/-- The same environment with another program. -/
def withProgram (env : Env) (program : Address) : Env := { env with program }

/-- The node of a variable, unless it is unset or empty. -/
def withNode (env : Env) (url : Option String) : Env :=
  match url with
  | some url => if url.isEmpty then env else { env with rpcUrl := url }
  | none => env

/-- The variables that describe an environment. -/
def networkVariable : String := "SOLVRF_NETWORK"

def nodeVariable : String := "SOLVRF_RPC_URL"

def programVariable : String := "SOLVRF_PROGRAM_ID"

/-- The environment that variables describe. An unset network or program has its default; an empty one
is taken as it stands. -/
def ofVariables (variableOf : String → Option String) : Except Fault Env := do
  let network ← readNetwork ((variableOf networkVariable).getD Network.devnet.name)
  let env ← forNetwork network ((variableOf programVariable).getD defaultProgram)
  return env.withNode (variableOf nodeVariable)

/-- How an environment is shown. -/
def text (env : Env) : String := s!"Env({env.rpcUrl}, program={env.program.text})"

/-- The configuration account, with its bump. -/
def configAccount? (env : Env) : Option (Address × Nat) :=
  Derived.find? [Bytes.ofText env.configLabel] env.program

/-- The randomness account of a seed. -/
def randomnessAccount? (env : Env) (seed : Seed) : Option Address :=
  (Derived.ofLabel? env.randomnessLabel seed.bytes env.program).map Prod.fst

end Env

end VrfClient
