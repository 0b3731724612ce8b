import Mathlib.Data.List.Chain
import Keyring.Proofs.Program.Recorded

namespace Keyring

variable {S σ : Type} {w : World S} {token groupId : String}

namespace FetchCall

/-- Whether a call brings more keys than a threshold, and another call asks for those after the last
of them. -/
def LeadsTo (threshold : Nat) (c next : FetchCall) : Prop :=
  ∃ batch last, c.reply = some (.ok batch) ∧ threshold < batch.length ∧
    batch.getLast? = some last ∧ next.cursor = last.cursor

/-- Whether a call fails, or brings no keys, or no more than a threshold. -/
def Final (threshold : Nat) (c : FetchCall) : Prop :=
  (∃ e, c.reply = some (.error e)) ∨
    ∃ batch, c.reply = some (.ok batch) ∧ (batch = [] ∨ batch.length ≤ threshold)

/-- Whether a world that is in one state when the first of some calls is made answers each as it was
answered, and is in another state after the last one. -/
def Answered (w : World S) (token groupId : String) : S → List FetchCall → S → Prop
  | s, [], s' => s = s'
  | s, c :: rest, s' => ∃ s₁, w.answer (.fetchKeys token groupId c.cursor) s = (c.reply, s₁) ∧
      Answered w token groupId s₁ rest s'

end FetchCall

/-- The calls of a fetch loop that comes to an end: the first goes on from where the loop starts, any
other from the end of the batch before, and the loop ends with the first call that does not bring
more keys than the threshold. -/
structure Swept (w : World S) (token groupId : String) (threshold : Nat) (start : Cursor) (s s' : S)
    (calls : List FetchCall) : Prop where
  answered : FetchCall.Answered w token groupId s calls s'
  starts : calls.head?.map FetchCall.cursor = some start
  linked : calls.IsChain (FetchCall.LeadsTo threshold)
  ended : ∃ c, calls.getLast? = some c ∧ c.Final threshold

namespace Swept

variable {threshold : Nat} {start : Cursor} {s s' : S} {c : FetchCall} {calls rest : List FetchCall}

theorem ne_nil (h : Swept w token groupId threshold start s s' calls) :
    calls ≠ [] := by
  rintro rfl
  exact nomatch h.starts

theorem cons_iff :
    Swept w token groupId threshold start s s' (c :: rest) ↔
      c.cursor = start ∧ ∃ s₁, w.answer (.fetchKeys token groupId start) s = (c.reply, s₁) ∧
        ((rest = [] ∧ s₁ = s' ∧ c.Final threshold) ∨
          ∃ batch last, c.reply = some (.ok batch) ∧ threshold < batch.length ∧
            batch.getLast? = some last ∧
              Swept w token groupId threshold last.cursor s₁ s' rest) := by
  constructor
  · rintro ⟨⟨s₁, hanswer, hrest⟩, hstarts, hlinked, last, hlast, hfinal⟩
    obtain rfl : c.cursor = start := by simpa using hstarts
    refine ⟨rfl, s₁, hanswer, ?_⟩
    cases rest with
    | nil =>
        obtain rfl : c = last := by simpa using hlast
        exact .inl ⟨rfl, hrest, hfinal⟩
    | cons next rest =>
        obtain ⟨⟨batch, key, hreply, hmore, hkey, hnext⟩, hlinked⟩ :=
          List.isChain_cons_cons.mp hlinked
        rw [List.getLast?_cons_cons] at hlast
        exact .inr ⟨batch, key, hreply, hmore, hkey, hrest, by simp [hnext], hlinked, last, hlast,
          hfinal⟩
  · rintro ⟨rfl, s₁, hanswer, ⟨rfl, rfl, hfinal⟩ | ⟨batch, last, hreply, hmore, hlast, h⟩⟩
    · exact ⟨⟨s₁, hanswer, rfl⟩, rfl, .singleton _, c, rfl, hfinal⟩
    · obtain ⟨hrest, hstarts, hlinked, final, hfinal⟩ := h
      cases rest with
      | nil => exact nomatch hstarts
      | cons next rest =>
          have hnext : next.cursor = last.cursor := by simpa using hstarts
          refine ⟨⟨s₁, hanswer, hrest⟩, rfl, ?_, final, ?_⟩
          · exact List.isChain_cons_cons.mpr
              ⟨⟨batch, last, hreply, hmore, hlast, hnext⟩, hlinked⟩
          · rwa [List.getLast?_cons_cons]

end Swept

namespace Sweep

variable {sweep : Sweep}

theorem ensures_of_swept {fuel : Nat} {g : σ} {before : List Event} {s s' : S}
    {calls : List FetchCall} {Q : List Key → σ → List Event × S → Prop}
    {X : Halt → σ → List Event × S → Prop}
    (h : Swept w sweep.token sweep.groupId sweep.threshold.toNat sweep.cursor s s' calls)
    (hfuel : calls.length ≤ fuel)
    (hbrought : (∀ c ∈ calls, ∃ batch, c.reply = some (.ok batch)) →
      Q (sweep.gathered ++ calls.flatMap FetchCall.keys) g
        (before ++ calls.map (FetchCall.event sweep.token sweep.groupId), s'))
    (hfailed : ∀ c ∈ calls, ∀ e, c.reply = some (.error e) →
      X (.failed e) g (before ++ calls.map (FetchCall.event sweep.token sweep.groupId), s')) :
    Attempt.Ensures w.recorded fuel (Attempt.gather sweep) Q X g (before, s) := by
  induction calls generalizing fuel sweep before s with
  | nil => exact absurd rfl h.ne_nil
  | cons c rest ih =>
      obtain ⟨fuel, rfl⟩ : ∃ n, fuel = n + 1 := ⟨fuel - 1, by simp at hfuel; omega⟩
      obtain ⟨cursor, reply⟩ := c
      obtain ⟨rfl, s₁, hanswer, hrest⟩ := Swept.cons_iff.mp h
      have hrequest : w.answer sweep.request s = (reply, s₁) := hanswer
      rw [Attempt.ensures_gather_succ, Attempt.ensures_request, World.recorded_answer, hrequest]
      rcases hrest with ⟨rfl, rfl, ⟨e, rfl⟩ | ⟨batch, rfl, hfinal⟩⟩ |
        ⟨batch, last, rfl, hmore, hlast, hrest⟩
      · exact hfailed _ List.mem_cons_self e rfl
      · have hend := hbrought (by simp)
        simp only [take_of_final hfinal]
        simpa [FetchCall.keys, FetchCall.event, request] using hend
      · simp only [take_of_more hmore hlast]
        refine ih ?_ (by simpa using hfuel) ?_ ?_
        · exact hrest
        · intro hall
          have hend := hbrought (List.forall_mem_cons.mpr ⟨⟨batch, rfl⟩, hall⟩)
          simpa [FetchCall.keys, gathered, FetchCall.event, request] using hend
        · intro c hc e hreply
          have hend := hfailed c (List.mem_cons_of_mem _ hc) e hreply
          simpa [FetchCall.event, request] using hend

/-- A fetch loop only comes to an end if the answers bring one within its requests. -/
theorem exists_swept {fuel : Nat} {s : S} {result : Except Failure (List Key)}
    (h : (sweep.run w fuel s).1 = .finished result) :
    ∃ calls s', calls.length ≤ fuel ∧
      Swept w sweep.token sweep.groupId sweep.threshold.toNat sweep.cursor s s' calls := by
  induction fuel generalizing sweep s with
  | zero => cases h
  | succ fuel ih =>
      have hsingle : ∀ reply s', w.answer sweep.request s = (reply, s') →
          FetchCall.Final sweep.threshold.toNat ⟨sweep.cursor, reply⟩ →
          ∃ calls s', calls.length ≤ fuel + 1 ∧
            Swept w sweep.token sweep.groupId sweep.threshold.toNat sweep.cursor s s' calls :=
        fun reply s' hanswer hfinal => ⟨[⟨sweep.cursor, reply⟩], s', by simp,
          Swept.cons_iff.mpr ⟨rfl, s', hanswer, .inl ⟨rfl, rfl, hfinal⟩⟩⟩
      rw [run] at h
      rcases hanswer : w.answer sweep.request s with ⟨_ | e | batch, s₁⟩
      · simp only [hanswer] at h
        cases h
      · exact hsingle _ s₁ hanswer (.inl ⟨e, rfl⟩)
      · rcases sweep.take_cases batch with ⟨hfinal, -⟩ | ⟨last, hmore, hlast, htake⟩
        · exact hsingle _ s₁ hanswer (.inr ⟨batch, rfl, hfinal⟩)
        · simp only [hanswer, htake] at h
          obtain ⟨calls, s', hfuel, hswept⟩ := ih h
          exact ⟨⟨sweep.cursor, some (.ok batch)⟩ :: calls, s', by simpa using hfuel,
            Swept.cons_iff.mpr ⟨rfl, s₁, hanswer, .inr ⟨batch, _, rfl, hmore, hlast, hswept⟩⟩⟩

end Sweep

end Keyring
