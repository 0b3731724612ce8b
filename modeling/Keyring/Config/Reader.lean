import Keyring.Config.Basic
import Keyring.Duration.Text
import Keyring.Text.Decimal

namespace Keyring.Config

/-- What a format has to say about its values. -/
structure Form (ν : Type) where
  text? : ν → Option String
  natural? : ν → Option Nat
  bool? : ν → Option Bool
  /-- One of several names. -/
  choice? : ν → Option String
  /-- The fields of a record with these field names, if it is one. -/
  fields? : List String → ν → Option (List (String × ν))

variable {ν : Type}

/-- The value of a field, if it is there. -/
def part {α : Type} (fields : List (String × ν)) (name : String) (reader : ν → Option α)
    (fallback : α) : Option α :=
  match fields.lookup name with
  | some v => reader v
  | none => some fallback

namespace Form

def word64? (f : Form ν) (v : ν) : Option UInt64 := do
  let n ← f.natural? v
  if n ≤ Decimal.max64 then some n.toUInt64 else none

def word32? (f : Form ν) (v : ν) : Option UInt32 := do
  let n ← f.natural? v
  if n ≤ Decimal.max32 then some n.toUInt32 else none

def boundary? (f : Form ν) (v : ν) : Option Page.Boundary := do
  Page.Boundary.ofName? (← f.choice? v)

def duration? (f : Form ν) (v : ν) : Option Duration := do
  Duration.parse (← f.text? v)

def paging? (f : Form ν) (v : ν) : Option Paging := do
  let fs ← f.fields? ["page_size", "fetch_batch_threshold", "page_boundary"] v
  return {
    pageSize := ← part fs "page_size" f.word64? ({} : Paging).pageSize
    fetchThreshold := ← part fs "fetch_batch_threshold" f.word64? ({} : Paging).fetchThreshold
    boundary := ← part fs "page_boundary" f.boundary? ({} : Paging).boundary }

def finishLimits? (f : Form ν) (v : ν) : Option FinishLimits := do
  let fs ← f.fields? ["max_rounds", "finish_timeout"] v
  return {
    maxRounds := ← part fs "max_rounds" f.word32? ({} : FinishLimits).maxRounds
    timeout := ← part fs "finish_timeout" f.duration? ({} : FinishLimits).timeout }

def rankLimits? (f : Form ν) (v : ν) : Option RankLimits := do
  let fs ← f.fields? ["invite", "join_requests", "rotation"] v
  return {
    invite := ← part fs "invite" f.word32? ({} : RankLimits).invite
    joinRequests := ← part fs "join_requests" f.word32? ({} : RankLimits).joinRequests
    rotation := ← part fs "rotation" f.word32? ({} : RankLimits).rotation }

def storeSettings? (f : Form ν) (v : ν) : Option StoreSettings := do
  let fs ← f.fields? ["namespace"] v
  return { space := ← part fs "namespace" f.text? ({} : StoreSettings).space }

def logSettings? (f : Form ν) (v : ν) : Option LogSettings := do
  let fs ← f.fields? ["level", "json_format", "with_timestamp", "with_target"] v
  return {
    level := ← part fs "level" f.text? ({} : LogSettings).level
    asJson := ← part fs "json_format" f.bool? ({} : LogSettings).asJson
    withTimestamp := ← part fs "with_timestamp" f.bool? ({} : LogSettings).withTimestamp
    withTarget := ← part fs "with_target" f.bool? ({} : LogSettings).withTarget }

/-- The configuration that a value of the format stands for. -/
def config? (f : Form ν) (v : ν) : Option Config := do
  let fs ← f.fields? ["keys", "rotation", "ranks", "store", "logging"] v
  return {
    keys := ← part fs "keys" f.paging? {}
    rotation := ← part fs "rotation" f.finishLimits? {}
    ranks := ← part fs "ranks" f.rankLimits? {}
    store := ← part fs "store" f.storeSettings? {}
    logging := ← part fs "logging" f.logSettings? {} }

end Form

end Keyring.Config
