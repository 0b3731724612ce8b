namespace Keyring.Machine

variable {σ α : Type} {push : σ → α → Option σ} {s s' : σ} {a : α} {as bs : List α}
  {P Q : σ → Prop}

/-- Where a machine comes to that takes a list. -/
def pushAll (push : σ → α → Option σ) (s : σ) (as : List α) : Option σ :=
  as.foldlM push s

@[simp] theorem pushAll_nil (push : σ → α → Option σ) (s : σ) : pushAll push s [] = some s :=
  rfl

theorem pushAll_cons (h : push s a = some s') (as : List α) :
    pushAll push s (a :: as) = pushAll push s' as := by
  rw [pushAll, List.foldlM_cons, h]
  rfl

theorem pushAll_append (h : pushAll push s as = some s') (bs : List α) :
    pushAll push s (as ++ bs) = pushAll push s' bs := by
  rw [pushAll] at h
  rw [pushAll, List.foldlM_append, h]
  rfl

theorem pushAll_congr (h : push s a = push s' a) (as : List α) :
    pushAll push s (a :: as) = pushAll push s' (a :: as) := by
  rw [pushAll, pushAll, List.foldlM_cons, List.foldlM_cons, h]

/-- A machine takes a list, and what then holds of it. -/
def Leads (push : σ → α → Option σ) (s : σ) (as : List α) (P : σ → Prop) : Prop :=
  ∃ s', pushAll push s as = some s' ∧ P s'

theorem Leads.nil (h : P s) : Leads push s [] P :=
  ⟨s, rfl, h⟩

theorem Leads.cons (h : push s a = some s') (hrest : Leads push s' as P) :
    Leads push s (a :: as) P := by
  obtain ⟨s₁, has, h₁⟩ := hrest
  exact ⟨s₁, (pushAll_cons h as).trans has, h₁⟩

theorem Leads.append (h : Leads push s as P) (hnext : ∀ s', P s' → Leads push s' bs Q) :
    Leads push s (as ++ bs) Q := by
  obtain ⟨s₁, has, h₁⟩ := h
  obtain ⟨s₂, hbs, h₂⟩ := hnext s₁ h₁
  exact ⟨s₂, (pushAll_append has bs).trans hbs, h₂⟩

end Keyring.Machine
