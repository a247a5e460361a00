import VrfClient.Error

/-!
Operations as plans. A plan says what to ask next, given the answers so far; it asks no one itself.
What may be asked is a `Service`, and each question has its own kind of answer, or an error. Besides
asking, a plan reads the clock, sleeps, and tells what a user or a log should learn. Who answers is
decided by whoever runs the plan. -/

namespace VrfClient

/-- How much a log record matters. -/
inductive Level where
  | debug
  | info
  | warning
deriving DecidableEq

/-- The part of the client that a log record comes from. -/
inductive Channel where
  | address
  | verify
  | requestor
  | transport
  | commandLine
deriving DecidableEq

/-- What a plan tells without expecting an answer. -/
inductive Note where
  | log (level : Level) (channel : Channel) (text : String)
  /-- A line for the user. -/
  | out (line : String)
  /-- A line for the user about a failure. -/
  | err (line : String)
  /-- Log records below this level are not wanted. -/
  | verbosity (level : Level)
  /-- The environment that is used from here on. -/
  | connected (env : Env)

/-- A set of questions, each with its kind of answer. -/
structure Service where
  Call : Type
  Reply : Call → Type

/-- An operation over a service, with instants in `τ` and a result in `α`. -/
inductive Plan (S : Service) (τ α : Type) where
  | done (result : Except Error α)
  | ask (call : S.Call) (next : Except Error (S.Reply call) → Plan S τ α)
  | tell (note : Note) (next : Plan S τ α)
  | now (next : τ → Plan S τ α)
  | sleep (duration : τ) (next : Plan S τ α)

namespace Plan

variable {S : Service} {τ α β : Type}

/-- Go on with whatever the outcome of a plan is. -/
def handle : Plan S τ α → (Except Error α → Plan S τ β) → Plan S τ β
  | .done r, f => f r
  | .ask c k, f => .ask c fun r => (k r).handle f
  | .tell n p, f => .tell n (p.handle f)
  | .now k, f => .now fun t => (k t).handle f
  | .sleep d p, f => .sleep d (p.handle f)

/-- Go on with the value of a plan; an error ends it. -/
def bind (p : Plan S τ α) (f : α → Plan S τ β) : Plan S τ β :=
  p.handle fun r => match r with
    | .ok a => f a
    | .error e => .done (.error e)

instance : Monad (Plan S τ) where
  pure a := .done (.ok a)
  bind := bind

/-- End with an error. -/
def fail (e : Error) : Plan S τ α := .done (.error e)

/-- A result that needs no one. -/
def lift (r : Except Error α) : Plan S τ α := .done r

/-- A value that must be there. -/
def require (e : Error) (a : Option α) : Plan S τ α :=
  match a with
  | some a => .done (.ok a)
  | none => fail e

/-- Ask, and end with the error if there is no answer. -/
def call (c : S.Call) : Plan S τ (S.Reply c) := .ask c .done

/-- Tell one thing. -/
def note (n : Note) : Plan S τ Unit := .tell n (.done (.ok ()))

/-- Write one log record. -/
def log (level : Level) (channel : Channel) (text : String) : Plan S τ Unit :=
  note (.log level channel text)

/-- Read the clock. -/
def clock : Plan S τ τ := .now fun t => .done (.ok t)

/-- Wait. -/
def wait (duration : τ) : Plan S τ Unit := .sleep duration (.done (.ok ()))

end Plan

end VrfClient
