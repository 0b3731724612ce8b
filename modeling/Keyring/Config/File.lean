import Keyring.Config.Reader
import Keyring.Toml.Printer
import Keyring.Toml.Reader

namespace Keyring.Config

/-- The first fields of a record that is written as an array. -/
def positional (names : List String) (items : List Toml) : List (String × Toml) :=
  names.zip items

/-- TOML as a format of configurations. A date counts as a record without fields. -/
def tomlForm : Form Toml where
  text?
    | .text s => some s
    | _ => none
  natural?
    | .integer n => n.toNat?
    | _ => none
  bool?
    | .bool b => some b
    | _ => none
  choice?
    | .text s => some s
    | .table _ [(name, .table _ [])] => some name
    | .table _ [(name, .array [])] => some name
    | _ => none
  fields? names
    | .table _ es => some es
    | .array items => some (positional names items)
    | .tables items => some (positional names items)
    | .moment _ => some []
    | _ => none

/-- The configuration of a text, without a check of its values. -/
def ofToml (text : String) : Except Fault Config :=
  match (Toml.read? text).bind fun es => tomlForm.config? (.table .header es) with
  | some c => .ok c
  | none => .error (.syntaxError "malformed text")

/-- The content of a file; `none` stands for a file that is not there. -/
abbrev Content := Option ByteArray

def textOf (file : Content) : Except Fault String :=
  match file with
  | none => .error (.fileRead "no such file")
  | some bytes =>
    match String.fromUTF8? bytes with
    | some s => .ok s
    | none => .error (.fileRead "not a text")

def load (file : Content) : Except Fault Config := do
  let c ← ofToml (← textOf file)
  c.validate
  return c

/-- The sections of a configuration as they are written. -/
def sections (c : Config) : List (String × List (String × Toml.Plain)) := [
  ("keys", [
    ("page_size", .natural c.keys.pageSize.toNat),
    ("fetch_batch_threshold", .natural c.keys.fetchThreshold.toNat),
    ("page_boundary", .text c.keys.boundary.name)]),
  ("rotation", [
    ("max_rounds", .natural c.rotation.maxRounds.toNat),
    ("finish_timeout", .text c.rotation.timeout.render)]),
  ("ranks", [
    ("invite", .natural c.ranks.invite.toNat),
    ("join_requests", .natural c.ranks.joinRequests.toNat),
    ("rotation", .natural c.ranks.rotation.toNat)]),
  ("store", [("namespace", .text c.store.space)]),
  ("logging", [
    ("level", .text c.logging.level),
    ("json_format", .bool c.logging.asJson),
    ("with_timestamp", .bool c.logging.withTimestamp),
    ("with_target", .bool c.logging.withTarget)])]

def toToml (c : Config) : Except Fault String :=
  match Toml.document? c.sections with
  | some s => .ok s
  | none => .error (.unwritable "number exceeds 64 bits with a sign")

/-- Writes a configuration to a file, which stays as it is if that is impossible. -/
def save (c : Config) (file : Content) : Content × Except Fault Unit :=
  match c.toToml with
  | .ok s => (some s.toUTF8, .ok ())
  | .error e => (file, .error e)

end Keyring.Config
