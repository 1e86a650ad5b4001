import Mathlib.Data.List.Basic
import Mathlib.Tactic.Common

/-!
# Runs of a partial step function

A machine takes labels one after another and answers each with outputs; a
label that has no meaning in a state gives `none`, and so does every run that
meets one. The choices of an environment are in the labels, so a statement
about every list of labels is one about every interleaving.
-/

namespace Support.Runs

section
variable {σ ι τ : Type} {step : σ → ι → Option (σ × List τ)}

/-- The state after the labels, and all outputs on the way. -/
def run (step : σ → ι → Option (σ × List τ)) : σ → List ι → Option (σ × List τ)
  | s, [] => some (s, [])
  | s, i :: is => do
    let (s, out) ← step s i
    let (s, rest) ← run step s is
    return (s, out ++ rest)

/-- Every label of the run is allowed in the state that takes it. -/
def Guarded (step : σ → ι → Option (σ × List τ)) (G : σ → ι → Prop) : σ → List ι → Prop
  | _, [] => True
  | s, i :: is => G s i ∧ match step s i with
    | some (s', _) => Guarded step G s' is
    | none => True

instance decidableGuarded {G : σ → ι → Prop} [∀ s, DecidablePred (G s)] (s : σ) :
    (is : List ι) → Decidable (Guarded step G s is)
  | [] => isTrue trivial
  | i :: is =>
    @instDecidableAnd _ _ inferInstance <|
      match step s i with
      | some (s', _) => decidableGuarded s' is
      | none => isTrue trivial

theorem Guarded.tail {G : σ → ι → Prop} (hg : Guarded step G s (i :: is))
    (h : step s i = some (s', out)) : Guarded step G s' is := by
  have hrest := hg.2
  rw [h] at hrest
  exact hrest

theorem Guarded.mono {G G' : σ → ι → Prop} (h : ∀ s i, G s i → G' s i)
    (hg : Guarded step G s is) : Guarded step G' s is := by
  induction is generalizing s with
  | nil => trivial
  | cons i is ih =>
    refine ⟨h s i hg.1, ?_⟩
    split
    case h_1 s' out hone => exact ih (hg.tail hone)
    case h_2 => trivial

theorem Guarded.and_forall {G : σ → ι → Prop} {H : ι → Prop} (hg : Guarded step G s is)
    (h : ∀ i ∈ is, H i) : Guarded step (fun s i => G s i ∧ H i) s is := by
  induction is generalizing s with
  | nil => trivial
  | cons i is ih =>
    obtain ⟨hi, his⟩ := List.forall_mem_cons.mp h
    refine ⟨⟨hg.1, hi⟩, ?_⟩
    split
    case h_1 s' out hone => exact ih (hg.tail hone) his
    case h_2 => trivial

theorem of_result {P : σ → List τ → Prop} {r : σ × List τ} (h : some r = some (s, out))
    (hr : P r.1 r.2) : P s out := by
  cases h
  exact hr

theorem state_of_result {P : σ → Prop} {r : σ × List τ} (h : some r = some (s, out))
    (hr : P r.1) : P s :=
  of_result (P := fun s _ => P s) h hr

@[simp] theorem run_nil (s : σ) : run step s [] = some (s, []) := rfl

theorem run_cons_eq_some : run step s (i :: is) = some (t, outs) ↔
    ∃ s' out rest, step s i = some (s', out) ∧ run step s' is = some (t, rest) ∧
      outs = out ++ rest := by
  simp only [run, Option.bind_eq_bind, Option.bind_eq_some_iff, Option.pure_def, Option.some.injEq]
  constructor
  · rintro ⟨⟨s', out⟩, hstep, ⟨t', rest⟩, hrun, heq⟩
    cases heq
    exact ⟨s', out, rest, hstep, hrun, rfl⟩
  · rintro ⟨s', out, rest, hstep, hrun, rfl⟩
    exact ⟨(s', out), hstep, (t, rest), hrun, rfl⟩

theorem run_concat (hrun : run step s is = some (t, outs)) (hstep : step t i = some (u, out)) :
    run step s (is ++ [i]) = some (u, outs ++ out) := by
  induction is generalizing s outs with
  | nil =>
    cases hrun
    refine run_cons_eq_some.mpr ⟨u, out, [], hstep, rfl, ?_⟩
    rw [List.append_nil, List.nil_append]
  | cons j is ih =>
    obtain ⟨s', first, rest, hone, hrest, rfl⟩ := run_cons_eq_some.mp hrun
    exact run_cons_eq_some.mpr ⟨s', first, rest ++ out, hone, ih hrest, List.append_assoc ..⟩

theorem run_append_eq_some : run step s (is ++ js) = some (u, outs) ↔
    ∃ t out rest, run step s is = some (t, out) ∧ run step t js = some (u, rest) ∧
      outs = out ++ rest := by
  induction is generalizing s outs with
  | nil =>
    constructor
    · intro h
      exact ⟨s, [], outs, rfl, h, rfl⟩
    · rintro ⟨t, out, rest, hnil, hrest, rfl⟩
      cases hnil
      exact hrest
  | cons i is ih =>
    simp only [List.cons_append, run_cons_eq_some, ih]
    constructor
    · rintro ⟨s', out, _, hone, ⟨t, first, rest, hrun, hrest, rfl⟩, rfl⟩
      exact ⟨t, out ++ first, rest, ⟨s', out, first, hone, hrun, rfl⟩, hrest,
        (List.append_assoc ..).symm⟩
    · rintro ⟨t, _, rest, ⟨s', out, first, hone, hrun, rfl⟩, hrest, rfl⟩
      exact ⟨s', out, first ++ rest, hone, ⟨t, first, rest, hrun, hrest, rfl⟩,
        List.append_assoc ..⟩

/-- A property of the state and the labels so far, kept by every allowed step. -/
theorem Guarded.history {G : σ → ι → Prop} {P : List ι → σ → Prop}
    (hstep : ∀ s past i s' out, P past s → G s i → step s i = some (s', out) → P (past ++ [i]) s')
    (hg : Guarded step G s is) (past : List ι) (h0 : P past s)
    (hrun : run step s is = some (t, outs)) : P (past ++ is) t := by
  induction is generalizing s past outs with
  | nil =>
    cases hrun
    rwa [List.append_nil]
  | cons i is ih =>
    obtain ⟨s', out, rest, hone, hrest, -⟩ := run_cons_eq_some.mp hrun
    rw [List.append_cons]
    exact ih (hg.tail hone) (past ++ [i]) (hstep s past i s' out h0 hg.1 hone) hrest

/-- What is seen of a run, at each label in the state that takes it. -/
def observed (step : σ → ι → Option (σ × List τ)) (see : σ → ι → List ω) : σ → List ι → List ω
  | _, [] => []
  | s, i :: is => see s i ++ match step s i with
    | some (s', _) => observed step see s' is
    | none => []

theorem observed_cons {see : σ → ι → List ω} (h : step s i = some (s', out)) :
    observed step see s (i :: is) = see s i ++ observed step see s' is := by
  rw [observed, h]

/-- A property of the state, of what has been seen so far and of the outputs so
far, kept by every allowed step. -/
theorem Guarded.reports {G : σ → ι → Prop} {see : σ → ι → List ω} {P : σ → List ω → List τ → Prop}
    (hstep : ∀ s seen past i s' out, P s seen past → G s i → step s i = some (s', out) →
      P s' (seen ++ see s i) (past ++ out))
    (hg : Guarded step G s is) (seen : List ω) (past : List τ) (h0 : P s seen past)
    (hrun : run step s is = some (t, outs)) :
    P t (seen ++ observed step see s is) (past ++ outs) := by
  induction is generalizing s seen past outs with
  | nil =>
    cases hrun
    rwa [observed, List.append_nil, List.append_nil]
  | cons i is ih =>
    obtain ⟨s', out, rest, hone, hrest, rfl⟩ := run_cons_eq_some.mp hrun
    rw [observed_cons hone, ← List.append_assoc, ← List.append_assoc]
    exact ih (hg.tail hone) (seen ++ see s i) (past ++ out)
      (hstep s seen past i s' out h0 hg.1 hone) hrest

/-- The same for a property that does not look at the outputs. -/
theorem Guarded.observes {G : σ → ι → Prop} {see : σ → ι → List ω} {P : σ → List ω → Prop}
    (hstep : ∀ s seen i s' out, P s seen → G s i → step s i = some (s', out) →
      P s' (seen ++ see s i))
    (hg : Guarded step G s is) (seen : List ω) (h0 : P s seen)
    (hrun : run step s is = some (t, outs)) : P t (seen ++ observed step see s is) :=
  hg.reports (P := fun s seen _ => P s seen)
    (fun s seen _ i s' out hp => hstep s seen i s' out hp) seen [] h0 hrun

/-- What is seen of the outputs of a step. -/
def seenOut (step : σ → ι → Option (σ × List τ)) (f : τ → Option ω) (s : σ) (i : ι) : List ω :=
  ((step s i).map fun result => result.2.filterMap f).getD []

theorem seenOut_of_step {f : τ → Option ω} (h : step s i = some (s', out)) :
    seenOut step f s i = out.filterMap f := by
  rw [seenOut, h]
  rfl

theorem filterMap_outs (f : τ → Option ω) (hrun : run step s is = some (t, outs)) :
    outs.filterMap f = observed step (seenOut step f) s is := by
  induction is generalizing s outs with
  | nil =>
    cases hrun
    rfl
  | cons i is ih =>
    obtain ⟨s', out, rest, hone, hrest, rfl⟩ := run_cons_eq_some.mp hrun
    rw [List.filterMap_append, observed_cons hone, seenOut_of_step hone, ih hrest]

/-- A channel that a step takes from the front of and adds to at the end, or
loses some of: what comes out is part of what went in, in the same order. -/
theorem Guarded.inOrder {G : σ → ι → Prop} {P : σ → Prop} {C : σ → List ω}
    {T A : σ → ι → List ω}
    (hstep : ∀ s i s' out, P s → G s i → step s i = some (s', out) →
      P s' ∧ (T s i ++ C s').Sublist (C s ++ A s i))
    (hg : Guarded step G s is) (h0 : P s) (hrun : run step s is = some (t, outs)) :
    (observed step T s is ++ C t).Sublist (C s ++ observed step A s is) := by
  induction is generalizing s outs with
  | nil =>
    cases hrun
    rw [observed, observed, List.nil_append, List.append_nil]
  | cons i is ih =>
    obtain ⟨s', out, rest, hone, hrest, -⟩ := run_cons_eq_some.mp hrun
    obtain ⟨hp, hchannel⟩ := hstep s i s' out h0 hg.1 hone
    rw [observed_cons hone, observed_cons hone, List.append_assoc, ← List.append_assoc (C s)]
    refine ((ih (hg.tail hone) hp hrest).append_left (T s i)).trans ?_
    rw [← List.append_assoc]
    exact hchannel.append_right _

/-- What holds at the start and is kept by every allowed step holds at the end
of every guarded run. The property sees the outputs so far. -/
theorem Guarded.invariant {G : σ → ι → Prop} {P : σ → List τ → Prop}
    (hstep : ∀ s past i s' out, P s past → G s i → step s i = some (s', out) →
      P s' (past ++ out))
    (hg : Guarded step G s is) (past : List τ) (h0 : P s past)
    (hrun : run step s is = some (t, outs)) : P t (past ++ outs) := by
  induction is generalizing s past outs with
  | nil =>
    cases hrun
    simpa using h0
  | cons i is ih =>
    obtain ⟨s', out, rest, hone, hrest, rfl⟩ := run_cons_eq_some.mp hrun
    rw [← List.append_assoc]
    exact ih (hg.tail hone) (past ++ out) (hstep s past i s' out h0 hg.1 hone) hrest

/-- The same for a property of the state alone. -/
theorem Guarded.keeps {G : σ → ι → Prop} {P : σ → Prop}
    (hstep : ∀ s i s' out, P s → G s i → step s i = some (s', out) → P s')
    (hg : Guarded step G s is) (h0 : P s) (hrun : run step s is = some (t, outs)) : P t :=
  hg.invariant (P := fun s _ => P s) (fun s _ i s' out hp => hstep s i s' out hp) [] h0 hrun

theorem guarded_true (s : σ) (is : List ι) : Guarded step (fun _ _ => True) s is := by
  induction is generalizing s with
  | nil => trivial
  | cons i is ih =>
    refine ⟨trivial, ?_⟩
    split
    · exact ih _
    · trivial

/-- A guard on the labels alone. -/
theorem guarded_of_forall {G : σ → ι → Prop} (h : ∀ i ∈ is, ∀ s, G s i) :
    Guarded step G s is := by
  induction is generalizing s with
  | nil => trivial
  | cons i is ih =>
    refine ⟨h i List.mem_cons_self s, ?_⟩
    split
    · exact ih fun j hj => h j (List.mem_cons_of_mem i hj)
    · trivial

theorem invariant {P : σ → List τ → Prop}
    (hstep : ∀ s past i s' out, P s past → step s i = some (s', out) → P s' (past ++ out))
    (h0 : P s []) (hrun : run step s is = some (t, outs)) : P t outs :=
  (guarded_true s is).invariant (fun s past i s' out hp _ => hstep s past i s' out hp) [] h0 hrun

theorem keeps {P : σ → Prop} (hstep : ∀ s i s' out, P s → step s i = some (s', out) → P s')
    (h0 : P s) (hrun : run step s is = some (t, outs)) : P t :=
  (guarded_true s is).keeps (fun s i s' out hp _ => hstep s i s' out hp) h0 hrun

/-- A run is no longer than what every step uses up of a measure. -/
theorem length_le {P : σ → Prop} {μ : σ → Nat}
    (hstep : ∀ s i s' out, P s → step s i = some (s', out) → P s' ∧ μ s' < μ s)
    (h0 : P s) (hrun : run step s is = some (t, outs)) : is.length + μ t ≤ μ s := by
  induction is generalizing s outs with
  | nil =>
    cases hrun
    exact Nat.le_of_eq (Nat.zero_add _)
  | cons i is ih =>
    obtain ⟨s', out, rest, hone, hrest, -⟩ := run_cons_eq_some.mp hrun
    obtain ⟨hp, hlt⟩ := hstep s i s' out h0 hone
    have := ih hp hrest
    rw [List.length_cons]
    omega

/-- Where every allowed label has a meaning, so has every guarded run. -/
theorem Guarded.exists_run {G : σ → ι → Prop}
    (hstep : ∀ s i, G s i → ∃ s' out, step s i = some (s', out))
    (hg : Guarded step G s is) : ∃ t outs, run step s is = some (t, outs) := by
  induction is generalizing s with
  | nil => exact ⟨s, [], rfl⟩
  | cons i is ih =>
    obtain ⟨s', out, hone⟩ := hstep s i hg.1
    obtain ⟨t, rest, hrest⟩ := ih (hg.tail hone)
    exact ⟨t, out ++ rest, run_cons_eq_some.mpr ⟨s', out, rest, hone, hrest, rfl⟩⟩

end

end Support.Runs
