import Keyring.Proofs.Concurrency.Safe

namespace Keyring

namespace Attempt

variable {α β : Type}

/-- Whether an attempt on a group is safe, with `Q` for its result. -/
def Upholds (a : Attempt Group α) (Q : α → View → Group → Prop) (v : View) (g : Group) : Prop :=
  Program.Safe (fun
    | .ok x => Q x
    | .error _ => UpToDate) a.run v g

section Rules

variable {Q : α → View → Group → Prop} {v : View} {g : Group}

theorem upholds_get {Q : Group → View → Group → Prop} (h : Q g v g) :
    (get : Attempt Group Group).Upholds Q v g :=
  h

theorem upholds_set {Q : Unit → View → Group → Prop} {g' : Group}
    (hkeys : g.record.history.keys <+: g'.record.history.keys) (h : Q () v g') :
    (set g' : Attempt Group Unit).Upholds Q v g :=
  ⟨hkeys, h⟩

theorem upholds_bind {R : β → View → Group → Prop} {a : Attempt Group α} {f : α → Attempt Group β}
    (h : a.Upholds (fun x => (f x).Upholds R) v g) : (a >>= f).Upholds R v g := by
  unfold Upholds at h ⊢
  rw [run_bind]
  refine Program.safe_bind (h.mono fun r v g hr => ?_)
  cases r with
  | ok x => exact hr
  | error e => exact hr

theorem upholds_tellAll {Q : Unit → View → Group → Prop} {signals : List Signal} (h : Q () v g) :
    (tellAll signals).Upholds Q v g :=
  Program.safe_bind (Program.safe_tellAll signals h)

theorem upholds_request {q : Request} (hq : q.isFetch = false) (hg : UpToDate v g)
    {Q : q.Answer → View → Group → Prop}
    (h : ∀ log, Grows v.log log → ∀ x, Q x ⟨v.seen, log⟩ g) : (request q).Upholds Q v g := by
  refine ⟨hg, hq, fun log hlog r => ?_⟩
  cases r with
  | ok x => exact h log hlog x
  | error e => exact hg.grows hlog

theorem upholds_gather {s : Sweep} (hs : s.GoesOn g v.log) (hg : UpToDate v g)
    {Q : List Key → View → Group → Prop}
    (h : ∀ keys, Chronicle (g.record.history.keys ++ keys) →
      Q keys ⟨some (g.record.history.keys ++ keys), g.record.history.keys ++ keys⟩ g) :
    (gather s).Upholds Q v g := by
  refine ⟨hg, hs, fun log hlog => ⟨fun keys hkeys => ?_, fun e => ?_⟩⟩
  · subst hkeys
    exact h keys hlog.chronicle
  · exact hg.grows hlog

end Rules

/-- Whether an attempt keeps a group up to date. -/
def Sustains (a : Attempt Group α) : Prop :=
  ∀ v g, UpToDate v g → a.Upholds (fun _ => UpToDate) v g

namespace Sustains

theorem pure (x : α) : Sustains (Pure.pure x) :=
  fun _ _ h => h

theorem throw (e : Failure) : Sustains (MonadExcept.throw e : Attempt Group α) :=
  fun _ _ h => h

theorem bind {a : Attempt Group α} {f : α → Attempt Group β} (ha : Sustains a)
    (hf : ∀ x, Sustains (f x)) : Sustains (a >>= f) := by
  intro v g h
  refine upholds_bind ((ha v g h).mono fun r v g hr => ?_)
  cases r with
  | ok x => exact hf x v g hr
  | error e => exact hr

theorem get : Sustains Attempt.get :=
  fun _ _ h => h

theorem settle (r : Except Failure α) : Sustains (Attempt.settle r) := by
  intro v g h
  cases r with
  | ok x => exact h
  | error e => exact h

theorem tellAll (signals : List Signal) : Sustains (Attempt.tellAll signals) :=
  fun _ _ h => upholds_tellAll h

theorem notice (n : Log.Notice) : Sustains (Attempt.notice n) :=
  tellAll _

theorem metric (m : Metric) : Sustains (Attempt.metric m) :=
  tellAll _

theorem request {q : Request} (hq : q.isFetch = false) : Sustains (Attempt.request q) :=
  fun _ _ h => upholds_request hq h fun _ hlog _ => h.grows hlog

theorem outcome_request {q : Request} (hq : q.isFetch = false) :
    Sustains (Attempt.outcome (Attempt.request q)) :=
  fun _ _ h => ⟨h, hq, fun _ hlog _ => h.grows hlog⟩

theorem mapM {f : α → Attempt Group β} (hf : ∀ x, Sustains (f x)) (xs : List α) :
    Sustains (xs.mapM f) := by
  induction xs with
  | nil => exact pure _
  | cons x rest ih =>
      rw [List.mapM_cons]
      exact (hf x).bind fun _ => ih.bind fun _ => pure _

theorem tryCatch {a : Attempt Group α} {f : Failure → Attempt Group α} (ha : Sustains a)
    (hf : ∀ e, Sustains (f e)) : Sustains (MonadExcept.tryCatch a f) := by
  intro v g h
  unfold Upholds
  rw [run_tryCatch]
  refine Program.safe_bind ((ha v g h).mono fun r v g hr => ?_)
  cases r with
  | ok x => exact hr
  | error e => exact hf e v g hr

theorem modify {f : Group → Group} (hf : ∀ g, (f g).record.history = g.record.history) :
    Sustains (do let g ← Attempt.get; Attempt.set (f g)) := by
  intro v g h
  refine upholds_bind (upholds_get (upholds_set ?_ (h.of_history_eq (hf g))))
  rw [hf]

end Sustains

end Attempt

namespace Group

open Attempt

theorem sustains_persist : Sustains persist :=
  Sustains.get.bind fun _ => (Sustains.notice _).bind fun _ => .request rfl

theorem sustains_modifyRecord {f : Record → Record} (hf : ∀ r, (f r).history = r.history) :
    Sustains (modifyRecord f) :=
  .modify fun g => hf g.record

theorem sustains_setPhase (phase : Rotation.Phase) : Sustains (setPhase phase) :=
  .modify fun _ => rfl

section Transfers

theorem sustains_sealFor (recipientKey : String) (page : Page) :
    Sustains (sealFor recipientKey page) :=
  (Sustains.request rfl).bind fun _ => .pure _

theorem sustains_upload (kind : Transfer.Kind) (sessionId recipient : String)
    (page : SealedPage) : Sustains (upload kind sessionId recipient page) :=
  Sustains.get.bind fun _ => (Sustains.outcome_request rfl).bind fun _ => .pure _

theorem sustains_transfer (paging : Config.Paging) (kind : Transfer.Kind)
    (recipient recipientKey : String) : Sustains (transfer paging kind recipient recipientKey) := by
  refine Sustains.get.bind fun g => (Sustains.settle _).bind fun first => ?_
  refine (sustains_sealFor _ _).bind fun opening => (Sustains.request rfl).bind fun sessionId => ?_
  cases Transfer.Session.ofId sessionId with
  | notRequired => exact (Sustains.notice _).bind fun _ => .pure _
  | opened id =>
      dsimp only
      split
      case' isTrue => refine (Sustains.notice _).bind fun _ => ?_
      all_goals
        exact (Sustains.mapM (sustains_sealFor _) _).bind fun _ =>
          (Sustains.mapM (sustains_upload _ _ _) _).bind fun _ =>
            (Sustains.tellAll _).bind fun _ => (Sustains.notice _).bind fun _ => .pure _

end Transfers

section Fetches

theorem upholds_append {keys : List Key} {g : Group} (hsound : g.record.history.Sound)
    (hne : g.record.history.keys ≠ []) (hc : Chronicle (g.record.history.keys ++ keys)) :
    (append keys).Upholds (fun _ => UpToDate)
      ⟨some (g.record.history.keys ++ keys), g.record.history.keys ++ keys⟩ g := by
  have hwithin : Within (g.withHistory (g.record.history.extend keys))
      (g.record.history.keys ++ keys) :=
    ⟨hsound.extend hc, fun h => hne (List.append_eq_nil_iff.mp h).1, List.prefix_refl _⟩
  refine upholds_bind (upholds_get (upholds_bind ?_))
  rw [hsound.append_eq hc]
  refine upholds_bind (upholds_tellAll (upholds_bind ?_))
  refine upholds_set (List.prefix_append _ _) ⟨hwithin, ?_⟩
  intro log hlog
  obtain rfl := Option.some.inj hlog
  exact List.prefix_refl _

theorem sustains_fetchNew (token : String) (threshold : UInt64) :
    Sustains (fetchNew token threshold) := by
  intro v g h
  obtain ⟨hsound, hne, hheld⟩ := h.within
  have hlast := List.getLast?_eq_some_getLast hne
  refine upholds_bind (upholds_get (upholds_bind ?_))
  rw [History.cursor_eq hlast]
  refine upholds_bind (upholds_gather ⟨?_, _, ?_, rfl⟩ h ?_)
  · simpa [Sweep.gathered] using hheld
  · simpa [Sweep.gathered] using hlast
  · intro keys hc
    simp only [hsound.filter_new hc, Nat.lt_irrefl, if_false]
    exact upholds_append hsound hne hc

theorem sustains_fetch : Sustains fetch := by
  refine Sustains.get.bind fun g => (sustains_fetchNew _ _).bind fun added => ?_
  split
  · exact sustains_persist.bind fun _ => .pure _
  · exact .pure _

end Fetches

section Rotations

theorem sustains_prepare : Sustains prepare := by
  refine Sustains.get.bind fun g => (Sustains.settle _).bind fun _ => ?_
  split
  · exact (Sustains.settle _).bind fun _ => (Sustains.request rfl).bind fun _ =>
      (Sustains.notice _).bind fun _ => (sustains_setPhase _).bind fun _ => .pure _
  · exact (Sustains.settle _).bind fun _ => (Sustains.request rfl).bind fun _ =>
      (Sustains.notice _).bind fun _ => (sustains_setPhase _).bind fun _ => .pure _
  · exact .throw _

theorem sustains_publish : Sustains publish := by
  intro v g h
  refine upholds_bind (upholds_get ?_)
  split
  · refine upholds_bind (upholds_request rfl h fun log hlog _ => ?_)
    exact upholds_bind (upholds_tellAll (upholds_set (List.prefix_refl _)
      ((h.grows hlog).of_history_eq rfl)))
  · exact h

theorem sustains_resolve (round : Nat) (output : Rotation.Output) (preKey : Key) :
    Sustains (resolve round output preKey) := by
  apply Sustains.get.bind
  intro g
  refine Sustains.bind (Sustains.tryCatch (Sustains.request rfl) fun e => ?_) fun key => ?_
  · exact (Sustains.metric _).bind fun _ => .throw _
  · exact (Sustains.request rfl).bind fun _ => (Sustains.notice _).bind fun _ => .metric _

theorem sustains_resolveKnown (round resolved : Nat) (deferred outputs : List Rotation.Output) :
    Sustains (resolveKnown round resolved deferred outputs) := by
  induction outputs generalizing resolved deferred with
  | nil => exact .pure _
  | cons output rest ih =>
      apply Sustains.get.bind
      intro g
      split
      · exact (sustains_resolve _ _ _).bind fun _ => ih _ _
      · exact (Sustains.notice _).bind fun _ => (Sustains.metric _).bind fun _ => ih _ _

theorem sustains_finishRound (round left : Nat) (pending : List Rotation.Output) :
    Sustains (finishRound round left pending) :=
  (sustains_resolveKnown _ _ _ _).bind fun _ => Sustains.get.bind fun _ =>
    (sustains_fetchNew _ _).bind fun _ => (Sustains.notice _).bind fun _ => .pure _

theorem sustains_catchUp (round resolved left : Nat) (pending : List Rotation.Output) :
    Sustains (catchUp round resolved left pending) := by
  induction left generalizing round resolved pending with
  | zero => exact (sustains_finishRound _ _ _).bind fun _ => .pure _
  | succ left ih =>
      apply (sustains_finishRound _ _ _).bind
      intro result
      dsimp only
      split
      · exact .pure _
      · exact ih _ _ _

theorem sustains_finishPending : Sustains finishPending := by
  refine Sustains.get.bind fun g => (Sustains.request rfl).bind fun pending => ?_
  split
  · exact (Sustains.notice _).bind fun _ => (Sustains.metric _).bind fun _ => .pure _
  · refine (Sustains.notice _).bind fun _ => (sustains_catchUp _ _ _ _).bind fun result => ?_
    apply (Sustains.metric _).bind
    intro _
    split
    case' isTrue =>
      refine Sustains.bind (sustains_modifyRecord ?keeps) fun _ => ?_
      case keeps => exact fun _ => rfl
    all_goals
      exact (Sustains.notice _).bind fun _ => sustains_persist.bind fun _ =>
        (Sustains.metric _).bind fun _ => .pure _

theorem sustains_finish : Sustains finish := by
  apply Sustains.get.bind
  intro g
  split
  case' h_1 | h_2 =>
    refine (sustains_setPhase _).bind fun _ => Sustains.bind (Sustains.tryCatch ?pending ?failed)
      fun _ => (sustains_setPhase _).bind fun _ => .pure _
    case pending => exact sustains_finishPending
    case failed => exact fun e => (sustains_setPhase _).bind fun _ => .throw _
  · exact .throw _

theorem sustains_finishExpired : Sustains finishExpired := by
  have habandon : Sustains abandonFinish := by
    apply Sustains.get.bind
    intro g
    split
    · exact (sustains_setPhase _).bind fun _ => .notice _
    · exact .pure _
  exact habandon.bind fun _ => Sustains.get.bind fun _ => (Sustains.notice _).bind fun _ => .throw _

end Rotations

/-- Every operation keeps a group up to date, whatever happens to the log while it waits. -/
theorem sustains_action {α : Type} (op : Operation α) : Sustains op.action := by
  cases op with
  | persist => exact sustains_persist
  | fetch => exact sustains_fetch
  | invite userId recipientKey =>
      exact Sustains.get.bind fun _ => (Sustains.settle _).bind fun _ =>
        (sustains_transfer _ _ _ _).bind fun _ => .settle _
  | listJoins cursor =>
      exact Sustains.get.bind fun _ => (Sustains.settle _).bind fun _ => .request rfl
  | accept userId recipientKey =>
      exact Sustains.get.bind fun _ => (Sustains.settle _).bind fun _ =>
        (sustains_transfer _ _ _ _).bind fun _ => .settle _
  | reject userId =>
      exact Sustains.get.bind fun _ => (Sustains.settle _).bind fun _ =>
        (Sustains.request rfl).bind fun _ => .notice _
  | leave =>
      exact Sustains.get.bind fun _ => (Sustains.request rfl).bind fun _ => .notice _
  | prepare => exact sustains_prepare
  | publish => exact sustains_publish
  | rotate => exact sustains_prepare.bind fun _ => sustains_publish
  | finish => exact sustains_finish
  | finishInTime => exact sustains_finish

end Group

end Keyring
