import Meowbox.Lib.Pool

/-!
# One call after the other

Runs of a pool in which a call begins only when every call before it has ended. The store may still
change from outside between two instructions, within `rely`, and an instruction is performed only
where it meets `G`.

* `Reach.sequential`: what a call that begins where `J` holds leaves at its end whatever happens, is
  so whenever no call is under way.
-/

namespace Interleaved

variable {σ ε θ ι α : Type} {ρ : ι → Type}

namespace Pool

/-- Every call has ended. -/
def Idle (s : Pool σ ι ρ α) : Prop := ∀ p ∈ s.calls, p.next? = none

instance (s : Pool σ ι ρ α) : Decidable (Idle s) :=
  inferInstanceAs (Decidable (∀ p ∈ s.calls, _))

/-- The steps of a sequential run. -/
def Sequentially (S : Service σ ε θ ι ρ α) (rely : σ → σ → Prop) (G : σ → ι → Prop)
    (s : Pool σ ι ρ α) : Event ε θ → Prop
  | .outside change => rely s.store (S.outside change s.store)
  | .call _ => s.Idle
  | .advance i => ∀ instr ∈ s.issued (.advance i : Event ε θ), G s.store instr

instance (S : Service σ ε θ ι ρ α) (rely : σ → σ → Prop) (G : σ → ι → Prop)
    [∀ x y, Decidable (rely x y)] [∀ x i, Decidable (G x i)] (s : Pool σ ι ρ α) (a : Event ε θ) :
    Decidable (Sequentially S rely G s a) := by
  cases a with
  | outside change => exact inferInstanceAs (Decidable (rely _ _))
  | call request => exact inferInstanceAs (Decidable s.Idle)
  | advance i => exact inferInstanceAs (Decidable (∀ instr ∈ s.issued _, G s.store instr))

end Pool

/-- What a service does to a store when it answers under the guard `G`. -/
def answered (S : Service σ ε θ ι ρ α) (G : σ → ι → Prop) (i : ι) (x : σ) (r : ρ i) (y : σ) : Prop :=
  G x i ∧ S.answer i x = (r, y)

variable {S : Service σ ε θ ι ρ α} {rely : σ → σ → Prop} {G : σ → ι → Prop} {ok : σ → ι → Prop}
  {J : σ → Prop} {s₀ s : Pool σ ι ρ α}

/-- All calls but the one numbered `k` have ended; that one will leave `J`, or `J` holds already. -/
def Leaves (S : Service σ ε θ ι ρ α) (rely : σ → σ → Prop) (G ok : σ → ι → Prop) (J : σ → Prop)
    (s : Pool σ ι ρ α) (k : Nat) : Prop :=
  (∀ j p, s.calls[j]? = some p → j ≠ k → p.next? = none) ∧
    (s.calls[k]? = none → J s.store) ∧
    ∀ p, s.calls[k]? = some p → Safe rely (answered S G) ok (fun x _ => J x) p s.store

theorem Leaves.idle (hrefl : ∀ x, rely x x) {k : Nat} (h : Leaves S rely G ok J s k)
    (hidle : s.Idle) : J s.store := by
  obtain ⟨-, hnone, hsome⟩ := h
  cases hk : s.calls[k]? with
  | none => exact hnone hk
  | some p =>
    cases p with
    | done a => exact hsome _ hk _ (hrefl _)
    | ask i next => exact absurd (hidle _ (List.mem_of_getElem? hk)) (by simp [Prog.next?])

/-- A change from outside. -/
theorem Leaves.outside (htrans : ∀ x y z, rely x y → rely y z → rely x z)
    (hJ : ∀ x y, J x → rely x y → J y) {k : Nat} (h : Leaves S rely G ok J s k) {y : σ}
    (hy : rely s.store y) : Leaves S rely G ok J { s with store := y } k := by
  obtain ⟨hdone, hnone, hsome⟩ := h
  refine ⟨hdone, fun hk => hJ _ _ (hnone hk) hy, fun p hk => ?_⟩
  have hsafe := hsome p hk
  cases p with
  | done a => exact fun z hz => hsafe z (htrans _ _ _ hy hz)
  | ask i next => exact fun z hz => hsafe z (htrans _ _ _ hy hz)

/-- **The rule.** -/
theorem Reach.sequential (hrefl : ∀ x, rely x x)
    (htrans : ∀ x y z, rely x y → rely y z → rely x z)
    (hJ : ∀ x y, J x → rely x y → J y)
    (hprog : ∀ request x, J x →
      Safe rely (answered S G) ok (fun y _ => J y) (S.program request) x)
    (h0 : J s₀.store) (hcalls : s₀.calls = [])
    (hs : Stepping.Reach (Pool.step S) (Pool.Sequentially S rely G) s₀ s) :
    s.Idle → J s.store := by
  suffices h : ∃ k, Leaves S rely G ok J s k by
    obtain ⟨k, hk⟩ := h
    exact hk.idle hrefl
  induction hs with
  | init =>
    refine ⟨0, fun j p hp => ?_, fun _ => h0, fun p hp => ?_⟩
    · rw [hcalls] at hp
      exact absurd hp (by simp)
    · rw [hcalls] at hp
      exact absurd hp (by simp)
  | @step s s' a _ hok hstep ih =>
    obtain ⟨k, hk⟩ := ih
    cases a with
    | outside change =>
      cases hstep
      have hchg : rely s.store (S.outside change s.store) := hok
      exact ⟨k, hk.outside htrans hJ hchg⟩
    | call request =>
      cases hstep
      have hidle : s.Idle := hok
      have hnow := hk.idle hrefl hidle
      refine ⟨s.calls.length, fun j p hp hj => ?_, fun hnone => ?_, fun p hp => ?_⟩
      · rcases List.mem_append.mp (List.mem_of_getElem? hp) with hold | hnew
        · exact hidle p hold
        · rw [List.getElem?_append] at hp
          split at hp
          · exact hidle p (List.mem_of_getElem? hp)
          · rw [List.getElem?_singleton] at hp
            split at hp
            · omega
            · exact absurd hp (by simp)
      · exact absurd hnone (by simp)
      · simp only [List.getElem?_concat_length, Option.some.injEq] at hp
        exact hp ▸ hprog request _ hnow
    | advance j =>
      obtain ⟨hdone, hnone, hsome⟩ := hk
      simp only [Pool.step] at hstep
      split at hstep
      · rename_i i next hj
        cases hstep
        have hg : G s.store i := hok i (by
          simp only [Pool.issued, hj, Option.bind_some, Prog.next?, Option.mem_def])
        -- the other calls have ended, so it is the last that goes on
        have heq : j = k := Decidable.byContradiction fun hne =>
          absurd (hdone j _ hj hne) (by simp [Prog.next?])
        subst heq
        have hlt : j < s.calls.length := (List.getElem?_eq_some_iff.mp hj).1
        refine ⟨j, fun m p hp hm => ?_, fun hnone => ?_, fun p hp => ?_⟩
        · rw [List.getElem?_set_ne (Ne.symm hm)] at hp
          exact hdone m p hp hm
        · rw [List.getElem?_set_self hlt] at hnone
          exact absurd hnone (by simp)
        · rw [List.getElem?_set_self hlt] at hp
          cases hp
          exact (hsome _ hj s.store (hrefl _)).2 _ _ ⟨hg, rfl⟩
      · exact absurd hstep (by simp)
      · exact absurd hstep (by simp)

end Interleaved
