import Keyring.Proofs.Group.Phases

namespace Keyring

/-- The highest rank that may send a history to a new member. -/
def Config.RankLimits.transfer (limits : Config.RankLimits) : Transfer.Kind → UInt32
  | .invite => limits.invite
  | .acceptJoinRequest => limits.joinRequests

namespace Request

variable {limits : Config.RankLimits} {limit : UInt32} {q : Request}

/-- The highest rank that may make a request, if it takes a rank. -/
def rankLimit? (limits : Config.RankLimits) : Request → Option UInt32
  | openTransfer _ kind .. | uploadPage _ kind .. => some (limits.transfer kind)
  | listJoins .. | rejectJoin .. => some limits.joinRequests
  | prepareRotation .. | publishRotation .. => some limits.rotation
  | _ => none

theorem rankLimit?_of_sends {kind : Transfer.Kind} (hsends : q.sends kind)
    (hlimit : q.rankLimit? limits = some limit) : limit = limits.transfer kind := by
  cases q with
  | openTransfer token k groupId userId keyCount rank payload =>
      obtain rfl := of_decide_eq_true hsends
      exact (Option.some.inj hlimit).symm
  | uploadPage token k groupId sessionId userId index payload =>
      obtain rfl := of_decide_eq_true hsends
      exact (Option.some.inj hlimit).symm
  | sealPage payload keyCount recipientKey => exact nomatch hlimit
  | _ => exact nomatch hsends

end Request

namespace Group

open Attempt Rotation

variable {S α : Type} {w : World S} {fuel : Nat} {g g' g₀ : Group} {es : List Episode}

section Prepared

variable {P : Prop} {calls : List Event}

theorem Publishes.isSome_of_calls {ending : Ending (Except Failure Unit)}
    (h : Publishes g ending calls g') (hcalls : calls ≠ []) : g.phase.artifact?.isSome := by
  cases h with
  | refused => exact absurd rfl hcalls
  | published hphase => rw [hphase]; rfl
  | failed hphase => rw [hphase]; rfl
  | dropped hphase => rw [hphase]; rfl

variable (hrank : g.record.rank ≤ g.config.ranks.rotation → P)
  (hprepared : g.phase.artifact?.isSome → P)

include hrank hprepared

theorem Prepares.entitled {ending : Ending (Except Failure Artifact)}
    (h : Prepares g ending calls g') (hsome : g'.phase.artifact?.isSome) : P := by
  cases h with
  | prepared hmay => exact hrank hmay.rank
  | _ => exact hprepared hsome

omit hrank in
theorem Publishes.entitled {ending : Ending (Except Failure Unit)}
    (h : Publishes g ending calls g') (hsome : g'.phase.artifact?.isSome) : P := by
  cases h with
  | published hphase => exact nomatch hsome
  | _ => exact hprepared hsome

theorem Rotates.entitled {ending : Ending (Except Failure Unit)} (h : Rotates g ending calls g')
    (hsome : g'.phase.artifact?.isSome) : P := by
  cases h with
  | unprepared halt h => exact h.entitled hrank hprepared hsome
  | prepared h h' => exact h'.entitled (h.entitled hrank hprepared) hsome

theorem Operation.Conforms.entitled {op : Operation α} {ending : Ending (Except Failure α)}
    (h : op.Conforms g ending calls g') (hsome : g'.phase.artifact?.isSome) : P := by
  cases op with
  | prepare => exact Prepares.entitled hrank hprepared h hsome
  | publish => exact Publishes.entitled hprepared h hsome
  | rotate => exact Rotates.entitled hrank hprepared h hsome
  | finish => exact hprepared (Finishes.artifact?_eq h ▸ hsome)
  | finishInTime => exact hprepared (FinishesInTime.artifact?_eq h ▸ hsome)
  | _ => exact hprepared (h.1 ▸ hsome)

end Prepared

namespace Operation

/-- What an operation checks before anything else: the action for which it takes a rank, and the
highest rank that may do it. -/
def gate? (limits : Config.RankLimits) : {α : Type} → Operation α → Option (String × UInt32)
  | _, .invite .. => some ("invite members", limits.invite)
  | _, .listJoins _ => some ("list join requests", limits.joinRequests)
  | _, .accept .. => some ("accept join requests", limits.joinRequests)
  | _, .reject _ => some ("reject join requests", limits.joinRequests)
  | _, .prepare | _, .rotate => some ("rotate keys", limits.rotation)
  | _, _ => none

theorem run_denied (action : String) {limit : Group → UInt32} (f : Group → Action α)
    (hrank : limit g < g.record.rank) (s : S) :
    (do
      let g ← Attempt.get
      Attempt.settle (g.record.requireRank action (limit g))
      f g : Action α).run.run w fuel g s =
      ⟨.finished (.error (.permissionDenied action g.record.rank (limit g))), g, s, []⟩ := by
  have hdenied : g.record.requireRank action (limit g) =
      .error (.permissionDenied action g.record.rank (limit g)) :=
    if_neg (UInt32.not_le.mpr hrank)
  show (Attempt.settle (g.record.requireRank action (limit g)) >>= fun _ => f g).run.run w fuel g s
    = _
  rw [hdenied]
  rfl

theorem run_of_gate (op : Operation α) {action : String} {limit : UInt32}
    (hgate : op.gate? g.config.ranks = some (action, limit)) (hrank : limit < g.record.rank)
    (s : S) :
    op.run w fuel g s =
      ⟨.finished (.error (.permissionDenied action g.record.rank limit)), g, s, []⟩ := by
  cases op with
  | invite userId recipientKey =>
      obtain ⟨rfl, rfl⟩ := Prod.mk.inj (Option.some.inj hgate)
      exact run_denied _ _ hrank s
  | listJoins cursor =>
      obtain ⟨rfl, rfl⟩ := Prod.mk.inj (Option.some.inj hgate)
      exact run_denied _ _ hrank s
  | accept userId recipientKey =>
      obtain ⟨rfl, rfl⟩ := Prod.mk.inj (Option.some.inj hgate)
      exact run_denied _ _ hrank s
  | reject userId =>
      obtain ⟨rfl, rfl⟩ := Prod.mk.inj (Option.some.inj hgate)
      exact run_denied _ _ hrank s
  | prepare =>
      obtain ⟨rfl, rfl⟩ := Prod.mk.inj (Option.some.inj hgate)
      exact run_denied _ _ hrank s
  | rotate =>
      obtain ⟨rfl, rfl⟩ := Prod.mk.inj (Option.some.inj hgate)
      have hprepare : Group.prepare.run.run w fuel g s = _ := run_denied _ _ hrank s
      show (Group.prepare >>= fun _ => Group.publish).run.run w fuel g s = _
      rw [Attempt.run_bind, Program.run_bind, hprepare]
      rfl
  | _ => exact nomatch hgate

/-- A request that takes a rank is made by an operation that checks it, or by one that does nothing
unless a rotation is prepared. -/
theorem gate_of_asks (op : Operation α) {limits : Config.RankLimits} {limit : UInt32} {q : Request}
    (hask : op.asks q) (hlimit : q.rankLimit? limits = some limit) :
    (∃ action, op.gate? limits = some (action, limit)) ∨
      limit = limits.rotation ∧ ∀ {g ending calls g'}, op.Conforms g ending calls g' →
        calls ≠ [] → g.phase.artifact?.isSome := by
  cases op with
  | invite userId recipientKey =>
      exact .inl ⟨_, congrArg _ (congrArg _ (Request.rankLimit?_of_sends hask hlimit).symm)⟩
  | accept userId recipientKey =>
      exact .inl ⟨_, congrArg _ (congrArg _ (Request.rankLimit?_of_sends hask hlimit).symm)⟩
  | publish =>
      -- Publishing checks no rank, but it publishes only what is prepared.
      cases q with
      | publishRotation token groupId artifact =>
          exact .inr ⟨(Option.some.inj hlimit).symm, Publishes.isSome_of_calls⟩
      | _ => exact nomatch hask
  | listJoins cursor | reject userId | prepare | rotate =>
      cases q
      all_goals first
        | exact absurd hask Bool.false_ne_true
        | exact .inl ⟨_, congrArg _ (congrArg _ (Option.some.inj hlimit))⟩
  | _ =>
      cases q
      all_goals first
        | exact absurd hask Bool.false_ne_true
        | exact absurd hlimit nofun

theorem calls_permitted (op : Operation α)
    (hprepared : g.phase.artifact?.isSome → g.record.rank ≤ g.config.ranks.rotation) (s : S)
    {e : Event} (he : e ∈ (op.run w fuel g s).calls) {q : Request} (hq : e.request? = some q)
    {limit : UInt32} (hlimit : q.rankLimit? g.config.ranks = some limit) :
    g.record.rank ≤ limit := by
  obtain ⟨q', hq', hask⟩ := op.calls_asked g s e he
  obtain rfl := Option.some.inj (hq.symm.trans hq')
  rcases op.gate_of_asks hask hlimit with ⟨action, hgate⟩ | ⟨rfl, hpublish⟩
  · -- A check that fails comes before the first request.
    by_contra hrank
    rw [op.run_of_gate hgate (UInt32.not_le.mp hrank)] at he
    exact nomatch he
  · exact hprepared (hpublish (op.run_conforms w fuel g s) (List.ne_nil_of_mem he))

end Operation

/-- No rotation is prepared by a member whose rank does not allow it. -/
def Entitled (g : Group) : Prop :=
  g.phase.artifact?.isSome → g.record.rank ≤ g.config.ranks.rotation

theorem Life.entitled (hphase : g₀.phase = .idle) (h : Life g₀ es g) : Entitled g := by
  refine h.invariant (fun w fuel op g s hentitled => ?_) (fun hprepared => ?_)
  · have hfixed := op.run_fixed w fuel g s
    unfold Entitled
    rw [hfixed.rank, hfixed.config]
    exact (op.run_conforms w fuel g s).entitled id hentitled
  · rw [hphase] at hprepared
    exact nomatch hprepared

/-- Over the life of a group a member makes no request that takes a rank without having it, and an
operation for which the rank does not suffice is denied and does nothing. -/
theorem ranks_gate (hfresh : Fresh g₀) (h : Life g₀ es g) : ∀ e ∈ es,
    (∀ call ∈ e.calls, ∀ q, call.request? = some q →
      ∀ limit, q.rankLimit? g₀.config.ranks = some limit → g₀.record.rank ≤ limit) ∧
    ∀ action limit, e.op.gate? g₀.config.ranks = some (action, limit) → limit < g₀.record.rank →
      e.ending = .finished (.error (.permissionDenied action g₀.record.rank limit)) ∧
        e.calls = [] ∧ e.after = e.before := by
  refine h.forall_episodes ?_
  intro S α es g h w fuel op s
  rw [← h.fixed.config, ← h.fixed.rank]
  refine ⟨?_, ?_⟩
  · intro call hcall q hq limit hlimit
    exact op.calls_permitted (h.entitled hfresh.phase_eq) s hcall hq hlimit
  · intro action limit hgate hrank
    have hrun : op.run w fuel g s = _ := op.run_of_gate hgate hrank s
    exact ⟨congrArg Run.ending hrun, congrArg Run.calls hrun, congrArg Run.state hrun⟩

/-- A member of a rank that may list join requests and may not rotate keys. -/
def deputy : Group :=
  { sampleMember with record := { sampleMember.record with rank := 2 } }

theorem ranks_gate_deputy : ∃ e e' g joins, Fresh deputy ∧ Life deputy [e, e'] g ∧
    e.op.gate? deputy.config.ranks = some ("list join requests", 2) ∧
    e.calls = [.called (.listJoins "token" "group" 2 none) (.ok joins)] ∧
    deputy.record.rank ≤ 2 ∧
    e'.op.gate? deputy.config.ranks = some ("rotate keys", 1) ∧
    e'.ending = .finished (.error (.permissionDenied "rotate keys" 2 1)) ∧
    e'.calls = [] ∧ e'.after = e'.before := by
  let e := Operation.episode Memory.world 4 (.listJoins none) deputy {}
  let e' := Operation.rotate.episode Memory.world 4 deputy {}
  have hlife : Life deputy [e, e'] _ :=
    (Life.start.step Memory.world 4 (.listJoins none) {}).step Memory.world 4 .rotate {}
  have hfresh : Fresh deputy := .made _ _ _
  have hgates := ranks_gate hfresh hlife
  have hlisted := (hgates e (by simp)).1 _ List.mem_cons_self _ rfl 2 rfl
  have hdenied := (hgates e' (by simp)).2 "rotate keys" 1 rfl (by decide)
  exact ⟨e, e', _, _, hfresh, hlife, rfl, rfl, hlisted, rfl, hdenied⟩

end Group

end Keyring
