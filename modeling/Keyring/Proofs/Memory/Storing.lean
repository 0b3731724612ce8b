import Keyring.Memory.Faults
import Keyring.Memory.World
import Keyring.Proofs.Program.Requests

namespace Keyring

/-- A world that keeps one text under a key of the store. -/
structure Storing {S : Type} (w : World S) (key : String) (stored : S → Option String) : Prop where
  other : ∀ {q} (s), q.isWrite = false → stored (w.answer q s).2 = stored s
  accepted : ∀ {text s answer s'}, w.answer (.writeStore key text) s = (some (.ok answer), s') →
    stored s' = some text
  refused : ∀ {text s e s'}, w.answer (.writeStore key text) s = (some (.error e), s') →
    stored s' = stored s
  dropped : ∀ {text s s'}, w.answer (.writeStore key text) s = (none, s') →
    stored s' = stored s ∨ stored s' = some text
  read : ∀ {s text s'}, w.answer (.readStore key) s = (some (.ok text), s') → text = stored s
  started : ∀ limit s, stored (w.startTimer limit s) = stored s
  stopped : ∀ s, stored (w.stopTimer s) = stored s

namespace Memory

theorem State.store_behind {α : Type} (stop : Clock → Bool × Clock) {reply : State → α × State}
    (hreply : ∀ t, (reply t).2.store = t.store) (s : State) :
    (s.behind stop reply).2.store = s.store := by
  unfold behind
  rcases stop s.clock with ⟨_ | _, clock⟩
  · rfl
  · exact hreply _

theorem State.store_answer {q : Request} (hq : q.isWrite = false) (s : State) :
    (s.answer q).2.store = s.store := by
  cases q with
  | fetchKeys token groupId cursor => exact store_behind _ (fun _ => rfl) s
  | readStore key => exact store_behind _ (fun _ => rfl) s
  | writeStore key text => exact nomatch hq
  | _ => rfl

theorem answer_writeStore (key text : String) (s : State) :
    ∃ clock, world.answer (.writeStore key text) s = (none, { s with clock }) ∨
      world.answer (.writeStore key text) s =
        (some (.ok ()), { s with clock, store := s.store.set key text }) := by
  simp only [world, State.answer, State.behind]
  rcases s.clock.pass with ⟨_ | _, clock⟩
  · exact ⟨clock, .inl rfl⟩
  · exact ⟨clock, .inr rfl⟩

theorem answer_readStore (key : String) (s : State) :
    ∃ clock, world.answer (.readStore key) s = (none, { s with clock }) ∨
      world.answer (.readStore key) s = (some (.ok (s.store.get? key)), { s with clock }) := by
  simp only [world, State.answer, State.behind]
  rcases s.clock.giveWay with ⟨_ | _, clock⟩
  · exact ⟨clock, .inl rfl⟩
  · exact ⟨clock, .inr rfl⟩

theorem storing_world (key : String) : Storing world key fun s => s.store.get? key where
  other s hq := congrArg (Store.get? · key) (s.store_answer hq)
  accepted := by
    intro text s answer s' h
    obtain ⟨clock, hanswer | hanswer⟩ := answer_writeStore key text s
    · exact nomatch hanswer.symm.trans h
    · obtain rfl := (Prod.mk.inj (hanswer.symm.trans h)).2
      exact Assoc.lookup_put_self key text s.store.entries
  refused := by
    intro text s e s' h
    obtain ⟨clock, hanswer | hanswer⟩ := answer_writeStore key text s
    · exact nomatch hanswer.symm.trans h
    · exact nomatch hanswer.symm.trans h
  dropped := by
    intro text s s' h
    obtain ⟨clock, hanswer | hanswer⟩ := answer_writeStore key text s
    · obtain rfl := (Prod.mk.inj (hanswer.symm.trans h)).2
      exact .inl rfl
    · exact nomatch hanswer.symm.trans h
  read := by
    intro s text s' h
    obtain ⟨clock, hanswer | hanswer⟩ := answer_readStore key s
    · exact nomatch hanswer.symm.trans h
    · have hreply := (Prod.mk.inj (hanswer.symm.trans h)).1
      simpa using hreply.symm
  started _ _ := rfl
  stopped _ := rfl

section Faults

variable {S : Type} {w : World S}

theorem answer_withFaults (q : Request) (s : Faults × S) :
    ∃ faults, (withFaults w).answer q s = (some (.error (injected q)), (faults, s.2)) ∨
      (withFaults w).answer q s = ((w.answer q s.2).1, (faults, (w.answer q s.2).2)) := by
  simp only [withFaults]
  rcases s.1.strike q.name with ⟨faults, _ | _⟩
  · exact ⟨faults, .inr rfl⟩
  · exact ⟨faults, .inl rfl⟩

theorem answer_of_withFaults {q : Request} {s s' : Faults × S} {r : Option q.Reply}
    (h : (withFaults w).answer q s = (r, s')) (hr : r ≠ some (.error (injected q)) ∨ s'.2 ≠ s.2) :
    w.answer q s.2 = (r, s'.2) := by
  obtain ⟨faults, hanswer | hanswer⟩ := answer_withFaults (w := w) q s
  · obtain ⟨rfl, rfl⟩ := Prod.mk.inj (hanswer.symm.trans h)
    exact hr.elim (absurd rfl) (absurd rfl)
  · obtain ⟨rfl, rfl⟩ := Prod.mk.inj (hanswer.symm.trans h)
    rfl

theorem storing_withFaults {key : String} {stored : S → Option String}
    (h : Storing w key stored) : Storing (withFaults w) key fun s => stored s.2 where
  other := by
    intro q s hq
    obtain ⟨faults, hanswer | hanswer⟩ := answer_withFaults (w := w) q s
    · rw [hanswer]
    · rw [hanswer]
      exact h.other s.2 hq
  accepted hanswer := h.accepted (answer_of_withFaults hanswer (.inl (by simp)))
  refused := by
    intro text s e s' hanswer
    by_cases hsame : s'.2 = s.2
    · rw [hsame]
    · exact h.refused (answer_of_withFaults hanswer (.inr hsame))
  dropped hanswer := h.dropped (answer_of_withFaults hanswer (.inl (by simp)))
  read hanswer := h.read (answer_of_withFaults hanswer (.inl (by simp)))
  started _ s := h.started _ s.2
  stopped s := h.stopped s.2

end Faults

end Memory

end Keyring
