namespace Keyring

/-- What became of a pending rotation output. -/
inductive OutputFate where
  | resolved
  | deferred
  | failed
  deriving DecidableEq, Repr

/-- How a finish run ended. -/
inductive FinishLabel where
  | noop
  | completed
  | incomplete
  deriving DecidableEq, Repr

/-- One measurement. -/
inductive Metric where
  /-- Keys were added to a history. -/
  | keysAppended (count : Nat)
  /-- A fetch request was answered by a batch of this size. -/
  | batchFetched (size : Nat)
  | pageUploaded (success : Bool)
  | outputHandled (fate : OutputFate)
  /-- A finish run came through this many rounds. -/
  | roundsUsed (count : Nat)
  | finishEnded (label : FinishLabel)
  deriving DecidableEq, Repr

def OutputFate.name : OutputFate → String
  | .resolved => "resolved"
  | .deferred => "deferred"
  | .failed => "failed"

def FinishLabel.name : FinishLabel → String
  | .noop => "noop"
  | .completed => "completed"
  | .incomplete => "incomplete"

namespace Metric

def labelled (name label value : String) : String :=
  name ++ "\x7b" ++ label ++ "=" ++ value ++ "\x7d"

/-- The counter that a measurement adds to, and how much. -/
def counter? : Metric → Option (String × Nat)
  | keysAppended n => some ("groupkey_keys_appended_total", n)
  | batchFetched _ => some ("groupkey_key_fetch_calls_total", 1)
  | pageUploaded success =>
    let result := if success then "success" else "failed"
    some (labelled "groupkey_page_uploads_total" "result" result, 1)
  | outputHandled fate => some (labelled "groupkey_rotation_outputs_total" "result" fate.name, 1)
  | roundsUsed _ => none
  | finishEnded label => some (labelled "groupkey_rotation_finish_total" "outcome" label.name, 1)

/-- The histogram that a measurement enters, and its value there. -/
def sample? : Metric → Option (String × Nat)
  | batchFetched n => some ("groupkey_key_fetch_batch_size", n)
  | roundsUsed n => some ("groupkey_rotation_rounds", n)
  | _ => none

/-- Changes the entry under a name, or makes one from `start`. -/
def update {α : Type} (name : String) (start : α) (change : α → α) :
    List (String × α) → List (String × α)
  | [] => [(name, change start)]
  | (n, a) :: rest =>
    if n = name then (n, change a) :: rest else (n, a) :: update name start change rest

def totals (ms : List Metric) : List (String × Nat) :=
  (ms.filterMap counter?).foldl (fun acc c => update c.1 0 (· + c.2) acc) []

/-- The values in every histogram, in the order of measurement. -/
def samples (ms : List Metric) : List (String × List Nat) :=
  (ms.filterMap sample?).foldl (fun acc s => update s.1 [] (· ++ [s.2]) acc) []

def counterDescriptions : List (String × String) := [
  ("groupkey_keys_appended_total",
    "Total number of key generations appended to local key stores"),
  ("groupkey_key_fetch_calls_total",
    "Total number of fetch requests sent to the key server"),
  ("groupkey_page_uploads_total",
    "Total number of follow-up key pages uploaded, labeled by result (success, failed)"),
  ("groupkey_rotation_outputs_total",
    "Total number of pending rotation outputs processed, " ++
      "labeled by result (resolved, deferred, failed)"),
  ("groupkey_rotation_finish_total",
    "Total number of rotation finish runs, labeled by outcome (noop, completed, incomplete)")]

def histogramDescriptions : List (String × String) := [
  ("groupkey_key_fetch_batch_size",
    "Number of keys returned by a single fetch request"),
  ("groupkey_rotation_rounds",
    "Number of catch-up rounds used by a finished rotation")]

end Metric

end Keyring
