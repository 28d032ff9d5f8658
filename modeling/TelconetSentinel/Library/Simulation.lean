import Mathlib.Tactic

namespace TelconetSentinel.Simulation

variable {σ τ Call Out : Type*}

def outputs (step : σ → Call → Out × σ) : σ → List Call → List Out
  | _, [] => []
  | s, c :: calls => (step s c).1 :: outputs step (step s c).2 calls

def AllAlong (step : σ → Call → Out × σ) (p : σ → Call → Prop) : σ → List Call → Prop
  | _, [] => True
  | s, c :: calls => p s c ∧ AllAlong step p (step s c).2 calls

def final (step : σ → Call → Out × σ) (s : σ) (calls : List Call) :
    σ := calls.foldl (fun s c => (step s c).2) s

theorem final_concat (step : σ → Call → Out × σ) (s : σ) (calls : List Call) (c : Call) :
    final step s (calls ++ [c]) = (step (final step s calls) c).2 := by
  rw [final, List.foldl_append]
  rfl

theorem final_append (step : σ → Call → Out × σ) (s : σ) (calls calls' : List Call) :
    final step s (calls ++ calls') = final step (final step s calls) calls' := List.foldl_append

variable {step : σ → Call → Out × σ} {step' : τ → Call → Out × τ} (R : σ → τ → Prop) (p : σ → Call → Prop)

/-- Two machines that agree exactly on the calls with `p`, and stay related there, give the same answers
exactly to the sequences whose calls all have `p`. -/
theorem outputs_eq_iff (admitted : Call → Prop)
    (hgood : ∀ s t c, admitted c → R s t → p s c → (step s c).1 = (step' t c).1 ∧
      R (step s c).2 (step' t c).2)
    (hbad : ∀ s t c, admitted c → R s t → ¬ p s c → (step s c).1 ≠ (step' t c).1) {s : σ} {t : τ} (h : R s t)
    (calls : List Call) (hcalls : ∀ c ∈ calls, admitted c) :
    outputs step s calls = outputs step' t calls ↔ AllAlong step p s calls := by
  induction calls generalizing s t with
  | nil => exact ⟨fun _ => trivial, fun _ => rfl⟩
  | cons c calls ih =>
    rw [List.forall_mem_cons] at hcalls
    rw [outputs, outputs, AllAlong, List.cons_eq_cons]
    by_cases hp : p s c
    · obtain ⟨hout, hnext⟩ := hgood s t c hcalls.1 h hp
      rw [ih hnext hcalls.2]
      exact ⟨fun hrest => ⟨hp, hrest.2⟩, fun hrest => ⟨hout, hrest.2⟩⟩
    · exact ⟨fun hsame => absurd hsame.1 (hbad s t c hcalls.1 h hp), fun hsame => absurd hsame.1 hp⟩

theorem allAlong_of_forall (hp : ∀ s c, p s c) (s : σ) (calls : List Call) : AllAlong step p s calls := by
  induction calls generalizing s with
  | nil => trivial
  | cons c calls ih => exact ⟨hp s c, ih _⟩

theorem outputs_eq (admitted : Call → Prop)
    (hstep : ∀ s t c, admitted c → R s t → (step s c).1 = (step' t c).1 ∧ R (step s c).2 (step' t c).2)
    {s : σ} {t : τ} (h : R s t) (calls : List Call) (hcalls : ∀ c ∈ calls, admitted c) :
    outputs step s calls = outputs step' t calls :=
  (outputs_eq_iff R (fun _ _ => True) admitted (fun s t c hc hR _ => hstep s t c hc hR)
    (fun _ _ _ _ _ hn => absurd trivial hn) h calls hcalls).mpr
    (allAlong_of_forall _ (fun _ _ => trivial) s calls)

end TelconetSentinel.Simulation
