import Keyring.Key.Basic
import Keyring.Log.Notice
import Keyring.Metric

namespace Keyring

/-- A notice or a measurement. -/
inductive Signal where
  | notice (n : Log.Notice)
  | metric (m : Metric)
  deriving DecidableEq, Repr

namespace Signal

def notice? : Signal → Option Log.Notice
  | notice n => some n
  | metric _ => none

def metric? : Signal → Option Metric
  | notice _ => none
  | metric m => some m

/-- The notices about keys that enter a history, from a position on. -/
def indexed (position : Nat) : List Key → List Signal
  | [] => []
  | k :: rest => notice (.keyIndexed k.id position) :: indexed (position + 1) rest

/-- The signals of keys that have entered a history at a position. -/
def appended (position : Nat) (keys : List Key) : List Signal :=
  indexed position keys ++ [metric (.keysAppended keys.length)]

end Signal

end Keyring
