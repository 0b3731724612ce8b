import Keyring.Program.Sweep

/-!
Operations as trees of requests. A program that works on a state of type `σ` is a tree whose nodes
ask a question, and go on as the answer says; change the state; or tell an observer something. The
tree is finite on every path but for its fetch loops, each of which is one node.
-/

namespace Keyring

/-- A program on a state of type `σ` with a result of type `α`. -/
inductive Program (σ α : Type) : Type where
  | done (a : α)
  | ask (q : Request) (next : q.Reply → Program σ α)
  /-- A fetch loop, which ends with all its keys or with the failure of one of its requests. -/
  | gather (s : Sweep) (next : Except Failure (List Key) → Program σ α)
  | tell (s : Signal) (next : Program σ α)
  | read (next : σ → Program σ α)
  | write (s : σ) (next : Program σ α)

namespace Program

variable {σ α β : Type}

def bind : Program σ α → (α → Program σ β) → Program σ β
  | done a, f => f a
  | ask q next, f => ask q fun r => (next r).bind f
  | gather s next, f => gather s fun r => (next r).bind f
  | tell s next, f => tell s (next.bind f)
  | read next, f => read fun s => (next s).bind f
  | write s next, f => write s (next.bind f)

instance : Monad (Program σ) where
  pure := done
  bind := bind

def tellAll : List Signal → Program σ Unit
  | [] => done ()
  | s :: rest => tell s (tellAll rest)

end Program

abbrev Attempt (σ α : Type) : Type :=
  ExceptT Failure (Program σ) α

namespace Attempt

variable {σ α : Type}

def request (q : Request) : Attempt σ q.Answer :=
  ExceptT.mk (.ask q .done)

def gather (s : Sweep) : Attempt σ (List Key) :=
  ExceptT.mk (.gather s .done)

def get : Attempt σ σ :=
  ExceptT.mk (.read fun s => .done (.ok s))

def set (s : σ) : Attempt σ Unit :=
  ExceptT.mk (.write s (.done (.ok ())))

def tellAll (signals : List Signal) : Attempt σ Unit :=
  ExceptT.lift (Program.tellAll signals)

def notice (n : Log.Notice) : Attempt σ Unit :=
  tellAll [.notice n]

def metric (m : Metric) : Attempt σ Unit :=
  tellAll [.metric m]

def settle (r : Except Failure α) : Attempt σ α :=
  ExceptT.mk (.done r)

def outcome (a : Attempt σ α) : Attempt σ (Except Failure α) :=
  ExceptT.mk (a.run.bind fun r => .done (.ok r))

end Attempt

end Keyring
