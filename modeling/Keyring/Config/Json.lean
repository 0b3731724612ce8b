import Keyring.Config.Reader
import Keyring.Json.Fields
import Keyring.Json.Printer

namespace Keyring.Config

def jsonForm : Form Json where
  text? j := j.asText.toOption
  natural? j := (j.asNat Decimal.max64).toOption
  bool? j := j.asBool.toOption
  choice? j := j.asChoice.toOption
  fields? names j :=
    let e := j.entries true names
    if e.whole then some e.fields else none

def ofJson (j : Json) : Except ReadError Config :=
  match jsonForm.config? j with
  | some c => .ok c
  | none => .error .malformed

def LogSettings.ofJson (j : Json) : Except ReadError LogSettings :=
  match jsonForm.logSettings? j with
  | some s => .ok s
  | none => .error .malformed

def toJson (c : Config) : Json :=
  .record [
    ("keys", .record [
      ("page_size", .natural c.keys.pageSize.toNat),
      ("fetch_batch_threshold", .natural c.keys.fetchThreshold.toNat),
      ("page_boundary", c.keys.boundary.toJson)]),
    ("rotation", .record [
      ("max_rounds", .natural c.rotation.maxRounds.toNat),
      ("finish_timeout", .text c.rotation.timeout.render)]),
    ("ranks", .record [
      ("invite", .natural c.ranks.invite.toNat),
      ("join_requests", .natural c.ranks.joinRequests.toNat),
      ("rotation", .natural c.ranks.rotation.toNat)]),
    ("store", .record [("namespace", .text c.store.space)]),
    ("logging", .record [
      ("level", .text c.logging.level),
      ("json_format", .bool c.logging.asJson),
      ("with_timestamp", .bool c.logging.withTimestamp),
      ("with_target", .bool c.logging.withTarget)])]

end Keyring.Config
