import Keyring.Proofs.Concurrency.System
import Keyring.Proofs.Group.Fetch
import Keyring.Proofs.Program.Requests

/-!
Operations that others may interrupt. An operation is safe if, whenever it waits, the member's
history is a prefix of the server's log that reaches as far as the member has fetched, whatever
others have done to the log meanwhile, as long as the log itself only grows.
-/

namespace Keyring

/-- Whether a list of keys can become the log of a server that has another one. -/
structure Grows (log log' : List Key) : Prop where
  prefix_log : log <+: log'
  chronicle : Chronicle log'

theorem Grows.trans {log log' log'' : List Key} (h : Grows log log') (h' : Grows log' log'') :
    Grows log log'' :=
  ⟨h.prefix_log.trans h'.prefix_log, h'.chronicle⟩

/-- What an operation has to reckon with: the server's log, and that log as it was when the member's
last fetch loop came to its end. -/
structure View where
  seen : Option (List Key)
  log : List Key

/-- Whether a group's history is one that a server with a log can have given. -/
structure Within (g : Group) (log : List Key) : Prop where
  sound : g.record.history.Sound
  keys_ne_nil : g.record.history.keys ≠ []
  keys_within : g.record.history.keys <+: log

theorem Within.mono {g : Group} {log log' : List Key} (h : Within g log) (hlog : log <+: log') :
    Within g log' :=
  ⟨h.sound, h.keys_ne_nil, h.keys_within.trans hlog⟩

theorem Within.of_history_eq {g g' : Group} {log : List Key} (h : Within g log)
    (heq : g'.record.history = g.record.history) : Within g' log := by
  obtain ⟨hsound, hne, hheld⟩ := h
  constructor
  · rwa [heq]
  · rwa [heq]
  · rwa [heq]

/-- Whether a group's history is within the log, and reaches as far as the member has fetched. -/
structure UpToDate (v : View) (g : Group) : Prop where
  within : Within g v.log
  seen_within : ∀ log, v.seen = some log → log <+: g.record.history.keys

theorem UpToDate.of_history_eq {v : View} {g g' : Group} (h : UpToDate v g)
    (heq : g'.record.history = g.record.history) : UpToDate v g' := by
  refine ⟨h.within.of_history_eq heq, ?_⟩
  rw [heq]
  exact h.seen_within

theorem UpToDate.grows {v : View} {g : Group} (h : UpToDate v g) {log : List Key}
    (hlog : Grows v.log log) : UpToDate ⟨v.seen, log⟩ g :=
  ⟨h.within.mono hlog.prefix_log, h.seen_within⟩

/-- Whether what a fetch loop has gathered follows a group's history in a log, and the loop goes on
from there. -/
structure Sweep.GoesOn (s : Sweep) (g : Group) (log : List Key) : Prop where
  gathered_within : g.record.history.keys ++ s.gathered <+: log
  cursor_eq : ∃ last, (g.record.history.keys ++ s.gathered).getLast? = some last ∧
    s.cursor = last.cursor

namespace Program

variable {α β : Type}

/-- Whether a program on a group ends with `Q`, and leaves the group up to date whenever it waits,
whatever happens to the log meanwhile. -/
def Safe (Q : α → View → Group → Prop) : Program Group α → View → Group → Prop
  | done a, v, g => Q a v g
  | ask q next, v, g => UpToDate v g ∧ q.isFetch = false ∧
      ∀ log, Grows v.log log → ∀ r, (next r).Safe Q ⟨v.seen, log⟩ g
  | gather s next, v, g => UpToDate v g ∧ s.GoesOn g v.log ∧ ∀ log, Grows v.log log →
      (∀ keys, g.record.history.keys ++ keys = log → (next (.ok keys)).Safe Q ⟨some log, log⟩ g) ∧
      ∀ e, (next (.error e)).Safe Q ⟨v.seen, log⟩ g
  | tell _ next, v, g => next.Safe Q v g
  | read next, v, g => (next g).Safe Q v g
  | write g' next, v, g => g.record.history.keys <+: g'.record.history.keys ∧ next.Safe Q v g'

def Waits : Program Group α → Prop
  | ask .. | gather .. => True
  | _ => False

variable {Q Q' : α → View → Group → Prop} {v : View} {g : Group}

theorem Safe.mono {p : Program Group α} (h : p.Safe Q v g)
    (hQ : ∀ a v g, Q a v g → Q' a v g) : p.Safe Q' v g := by
  induction p generalizing v g with
  | done a => exact hQ a v g h
  | ask q next ih => exact ⟨h.1, h.2.1, fun log hlog r => ih r (h.2.2 log hlog r)⟩
  | gather s next ih =>
      refine ⟨h.1, h.2.1, fun log hlog => ⟨fun keys hkeys => ?_, fun e => ?_⟩⟩
      · exact ih _ ((h.2.2 log hlog).1 keys hkeys)
      · exact ih _ ((h.2.2 log hlog).2 e)
  | tell s next ih => exact ih h
  | read next ih => exact ih g h
  | write g' next ih => exact ⟨h.1, ih h.2⟩

theorem safe_bind {R : β → View → Group → Prop} {p : Program Group α} {f : α → Program Group β}
    (h : p.Safe (fun a => (f a).Safe R) v g) : (p.bind f).Safe R v g := by
  induction p generalizing v g with
  | done a => exact h
  | ask q next ih => exact ⟨h.1, h.2.1, fun log hlog r => ih r (h.2.2 log hlog r)⟩
  | gather s next ih =>
      refine ⟨h.1, h.2.1, fun log hlog => ⟨fun keys hkeys => ?_, fun e => ?_⟩⟩
      · exact ih _ ((h.2.2 log hlog).1 keys hkeys)
      · exact ih _ ((h.2.2 log hlog).2 e)
  | tell s next ih => exact ih h
  | read next ih => exact ih g h
  | write g' next ih => exact ⟨h.1, ih h.2⟩

theorem safe_tellAll {Q : Unit → View → Group → Prop} (signals : List Signal) (h : Q () v g) :
    (tellAll signals).Safe Q v g := by
  induction signals with
  | nil => exact h
  | cons s rest ih => exact ih

theorem Safe.upToDate {p : Program Group α} (h : p.Safe Q v g) (hp : p.Waits) : UpToDate v g := by
  cases p with
  | ask q next => exact h.1
  | gather s next => exact h.1
  | _ => exact hp.elim

theorem Safe.grows {p : Program Group α} (h : p.Safe Q v g) (hp : p.Waits) {log : List Key}
    (hlog : Grows v.log log) : p.Safe Q ⟨v.seen, log⟩ g := by
  cases p with
  | ask q next =>
      exact ⟨h.1.grows hlog, h.2.1, fun log' hlog' => h.2.2 log' (hlog.trans hlog')⟩
  | gather s next =>
      obtain ⟨hdate, hgoes, hnext⟩ := h
      refine ⟨hdate.grows hlog, ⟨hgoes.gathered_within.trans hlog.prefix_log, hgoes.cursor_eq⟩, ?_⟩
      exact fun log' hlog' => hnext log' (hlog.trans hlog')
  | _ => exact hp.elim

theorem Safe.settle {p : Program Group α} (h : p.Safe Q v g) :
    g.record.history.keys <+: (p.settle g).2.record.history.keys ∧
      (p.settle g).1.Safe Q v (p.settle g).2 ∧
      ((p.settle g).1.Waits ∨ ∃ a, (p.settle g).1 = .done a) := by
  induction p generalizing g with
  | done a => exact ⟨List.prefix_refl _, h, .inr ⟨a, rfl⟩⟩
  | ask q next ih => exact ⟨List.prefix_refl _, h, .inl trivial⟩
  | gather s next ih => exact ⟨List.prefix_refl _, h, .inl trivial⟩
  | tell s next ih => exact ih h
  | read next ih => exact ih g h
  | write g' next ih =>
      obtain ⟨hkeys, hnext⟩ := h
      obtain ⟨hkeys', hrest⟩ := ih hnext
      exact ⟨hkeys.trans hkeys', hrest⟩

end Program

end Keyring
