import Keyring.Proofs.Memory.Following

namespace Keyring.Memory

/-- Two simulations without time limits, with the same server and engine, and with these stores. -/
structure State.Alike (store store' : Store) (s s' : State) : Prop where
  server_eq : s'.server = s.server
  engine_eq : s'.engine = s.engine
  untimed : s.clock.deadline = none
  untimed' : s'.clock.deadline = none
  store_eq : s.store = store
  store_eq' : s'.store = store'

section Answers

variable {store store' : Store} {s s' : State}

theorem State.behind_untimed {α : Type} {stop : Clock → Bool × Clock} (hstop : Clock.Passes stop)
    (h : s.clock.deadline = none) (reply : State → α × State) :
    ∃ clock : Clock, clock.deadline = none ∧ s.behind stop reply =
      (some (reply { s with clock }).1, (reply { s with clock }).2) := by
  obtain ⟨hpassed, hdeadline⟩ := hstop s.clock h
  refine ⟨(stop s.clock).2, hdeadline, ?_⟩
  rcases hs : stop s.clock with ⟨r, clock⟩
  rw [hs] at hpassed
  obtain rfl : r = true := hpassed
  simp only [behind, hs]

theorem State.Alike.answer (h : State.Alike store store' s s') {q : Request}
    (hq : (q.party == .store) = false) :
    (world.answer q s').1 = (world.answer q s).1 ∧
      State.Alike store store' (world.answer q s).2 (world.answer q s').2 := by
  obtain ⟨server, engine, _, clock⟩ := s
  obtain ⟨_, _, _, clock'⟩ := s'
  obtain ⟨rfl, rfl, huntimed, huntimed', rfl, rfl⟩ := h
  cases q with
  | readStore key => exact nomatch hq
  | writeStore key text => exact nomatch hq
  | fetchKeys token groupId cursor =>
      have hanswered : ∀ s : State, s.clock.deadline = none → ∃ clock : Clock,
          clock.deadline = none ∧ world.answer (.fetchKeys token groupId cursor) s =
            (some (s.server.fetch cursor).2,
              { s with server := (s.server.fetch cursor).1, clock }) :=
        fun s hs => State.behind_untimed (State.passes_fetchStop s) hs
          fun s => ((s.server.fetch cursor).2, { s with server := (s.server.fetch cursor).1 })
      obtain ⟨c, hc, hanswer⟩ := hanswered ⟨_, _, _, clock⟩ huntimed
      obtain ⟨c', hc', hanswer'⟩ := hanswered ⟨_, _, _, clock'⟩ huntimed'
      rw [hanswer, hanswer']
      exact ⟨rfl, rfl, rfl, hc, hc', rfl, rfl⟩
  | _ => exact ⟨rfl, rfl, rfl, huntimed, huntimed', rfl, rfl⟩

theorem pending_fetchKeys (token groupId : String) (cursor : Cursor) (s : State) :
    (world.answer (.fetchKeys token groupId cursor) s).2.server.pending = s.server.pending := by
  have hfetch : ∀ server : Server, (server.fetch cursor).1.pending = server.pending := by
    intro server
    unfold Server.fetch
    split
    · rfl
    · dsimp only
      split
      · rfl
      · rfl
  simp only [world, State.answer, State.behind]
  split
  · rfl
  · exact hfetch _

theorem answer_writeStore_untimed (h : s.clock.deadline = none) (key text : String) :
    ∃ clock : Clock, clock.deadline = none ∧ world.answer (.writeStore key text) s =
      (some (.ok ()), { s with clock, store := s.store.set key text }) :=
  State.behind_untimed Clock.passes_pass h
    fun s => ((.ok () : Except Failure Unit), { s with store := s.store.set key text })

end Answers

end Keyring.Memory
