import Keyring.Config.Basic

namespace Keyring.Config

/-- What is required of the settings of a configuration. -/
structure Valid (c : Config) : Prop where
  pageSize : c.keys.pageSize ≠ 0
  fetchThreshold : c.keys.fetchThreshold ≠ 0
  maxRounds : c.rotation.maxRounds ≠ 0
  timeout : c.rotation.timeout.nanoseconds ≠ 0
  space : c.store.space ≠ ""
  level : c.logging.level ∈ levelNames

theorem validate_eq_ok_iff_requirements (c : Config) :
    c.validate = .ok () ↔ ∀ r ∈ c.requirements, r.1 = true := by
  unfold validate
  cases hfind : c.requirements.find? (!·.1) with
  | none => simpa using hfind
  | some r =>
      obtain ⟨hr, -⟩ := List.find?_eq_some_iff_append.mp hfind
      have hmem := List.mem_of_find?_eq_some hfind
      simp only [reduceCtorEq, false_iff]
      exact fun hall => by simp [hall r hmem] at hr

theorem validate_eq_ok_iff (c : Config) : c.validate = .ok () ↔ c.Valid := by
  rw [validate_eq_ok_iff_requirements]
  simp only [requirements, List.forall_mem_cons, decide_eq_true_eq, List.contains_iff_mem]
  constructor
  · rintro ⟨hsize, hthreshold, hrounds, htimeout, hspace, hlevel, -⟩
    exact ⟨hsize, hthreshold, hrounds, htimeout, hspace, hlevel⟩
  · rintro ⟨hsize, hthreshold, hrounds, htimeout, hspace, hlevel⟩
    exact ⟨hsize, hthreshold, hrounds, htimeout, hspace, hlevel, by simp⟩

theorem pageSize_ne_zero {c : Config} (h : c.validate = .ok ()) : c.keys.pageSize ≠ 0 :=
  ((validate_eq_ok_iff c).mp h).pageSize

end Keyring.Config
