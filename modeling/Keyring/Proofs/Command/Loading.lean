import Keyring.Command.Run
import Keyring.Proofs.Config.Environment
import Keyring.Proofs.Group.RoundTrip
import Keyring.Proofs.Group.Sized

namespace Keyring.Config

open Keyring.Group

/-- The configurations that can be loaded. -/
inductive Loaded (c : Config) : Prop
  | environment {wording : String → String} {env : Environment}
    (h : ofEnvironment wording env = .ok c)
  | file {content : Content} (h : load content = .ok c)
  | command {host : Command.Host} {path : Option String} (h : Command.loadConfig host path = .ok c)

variable {c : Config}

theorem check_of_eq_ok {ε : Type} {r : Except ε Config} {check : Config → Except ε Unit}
    (h : (do let c ← r; check c; return c) = .ok c) : check c = .ok () := by
  obtain ⟨c', -, h⟩ := Json.exists_of_bind_eq_ok h
  obtain ⟨⟨⟩, hcheck, h⟩ := Json.exists_of_bind_eq_ok h
  exact Except.ok.inj h ▸ hcheck

theorem validate_of_loadConfig {host : Command.Host} {path : Option String}
    (h : Command.loadConfig host path = .ok c) : c.validate = .ok () := by
  let complain (e : Fault) : Command.Complaint := ⟨e.message, none⟩
  have hstart : ∃ start, (do
      let c ← (applyEnvironment host.wording host.environment start).mapError complain
      c.validate.mapError complain
      return c) = .ok c := by
    cases path with
    | none => exact ⟨{}, h⟩
    | some p =>
        obtain ⟨start, -, h⟩ := Json.exists_of_bind_eq_ok h
        exact ⟨start, h⟩
  obtain ⟨start, h⟩ := hstart
  have hvalid := check_of_eq_ok h
  cases hcheck : c.validate with
  | ok u => rfl
  | error e =>
      rw [hcheck] at hvalid
      exact nomatch hvalid

theorem Loaded.valid (h : Loaded c) : c.Valid := by
  rw [← validate_eq_ok_iff]
  cases h with
  | environment h => exact check_of_eq_ok h
  | file h =>
      obtain ⟨text, -, h⟩ := Json.exists_of_bind_eq_ok h
      exact check_of_eq_ok h
  | command h => exact validate_of_loadConfig h

/-- What can be relied on with a configuration whose page size is in use. -/
structure Dependable (c : Config) : Prop where
  valid : c.Valid
  span : ∀ count index b, ∃ s, Page.spanAt count index c.keys.pageSize b = .ok s
  page : ∀ keys index b, ∃ page, Page.ofKeys keys index c.keys.pageSize b = .ok page
  count : ∀ count b, ∃ n, Page.count count c.keys.pageSize b = .ok n
  plan : ∀ log keys inclusive,
    (Command.perform c log (some (.pagePlan keys none inclusive))).complaint = none
  transfer : ∀ {S : Type} (w : World S) (fuel : Nat) (g : Group) (s : S) kind userId recipientKey,
    g.config = c →
      ((transferring kind userId recipientKey).run w fuel g s).ending =
        .finished (.error .invalidPageSize) →
      ∃ q, .called q (.error .invalidPageSize) ∈
        ((transferring kind userId recipientKey).run w fuel g s).trace
  simulated : ∀ (fuel : Nat) (g : Group) (s : Memory.State) kind userId recipientKey,
    g.config = c →
      ((transferring kind userId recipientKey).run Memory.world fuel g s).ending ≠
        .finished (.error .invalidPageSize)

theorem Valid.dependable (h : c.Valid) : c.Dependable where
  valid := h
  span count index b := ⟨_, if_neg h.pageSize⟩
  page keys index b := by
    rw [Page.ofKeys, Page.spanAt, if_neg h.pageSize]
    exact ⟨_, rfl⟩
  count count b := ⟨_, dif_neg h.pageSize⟩
  plan log keys inclusive := by
    rw [Command.perform]
    dsimp only [Option.getD_none]
    rw [dif_neg h.pageSize]
  transfer w fuel g s kind userId recipientKey hconfig hend := by
    subst hconfig
    rw [run_transferring] at hend ⊢
    exact (transferring_passesOn h.pageSize kind userId recipientKey).answered hend
  simulated fuel g s kind userId recipientKey hconfig := by
    subst hconfig
    rw [run_transferring]
    exact (transferring_passesOn h.pageSize kind userId recipientKey).ending_ne Memory.world_never s

theorem overridden_and_dependable (wording : String → String)
    (bytes : String → Option ByteArray) (c : Config) :
    Overridden wording (Environment.ofBytes bytes) c ∧ (Loaded c → c.Dependable) :=
  ⟨overridden wording _ c, fun h => h.valid.dependable⟩

/-- A page size in the environment, and a log level that is no text. -/
def sevenPerPage (name : String) : Option ByteArray :=
  if name = "GROUPKEY_KEYS_PAGE_SIZE" then some "7".toUTF8
  else if name = "GROUPKEY_LOG_LEVEL" then some ⟨#[255]⟩
  else none

theorem ofBytes_sevenPerPage : Environment.ofBytes sevenPerPage =
    fun name => if name = "GROUPKEY_KEYS_PAGE_SIZE" then some "7" else none := by
  funext name
  rw [Environment.ofBytes, sevenPerPage]
  split
  · have hseven : String.fromUTF8? "7".toUTF8 = some "7" := dif_pos ("7" : String).isValidUTF8
    exact hseven
  · split
    · decide
    · rfl

theorem dependable_sevenPerPage :
    (∀ wording, ofEnvironment wording (.ofBytes sevenPerPage) =
        .ok { keys := { pageSize := 7 } }) ∧
      Dependable { keys := { pageSize := 7 } } := by
  have hloaded : ∀ wording,
      ofEnvironment wording (.ofBytes sevenPerPage) = .ok { keys := { pageSize := 7 } } := by
    intro wording
    rw [ofBytes_sevenPerPage]
    rfl
  exact ⟨hloaded, (overridden_and_dependable id sevenPerPage _).2 (.environment (hloaded id))⟩

end Keyring.Config
