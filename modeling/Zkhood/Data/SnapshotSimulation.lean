import Zkhood.Data.SnapshotHistory

/-!
# Two cells side by side

When the works of two cells do the same to the value, the runs of one are runs
of the other, and their responses are alike. A request which one of the cells
always refuses may be missing from the other: a refusal leaves the cell as it
is, so the steps of such requests can be erased from a trace.
-/

universe u v w x y z

namespace SnapshotCell

variable {ι : Type u} {σ : Type v} {ρ : Type w} {ε : Type x} {ρ' : Type y} {ε' : Type z}

/-- The left work does to the value what the right one does, with results which are alike, but
refuses every copy for the requests which are not kept. -/
structure Simulates (Kept : ι → Prop) (Alike : ι → Except ε (ρ × σ) → Except ε' (ρ' × σ) → Prop)
    (left : ι → σ → Except ε (ρ × σ)) (right : ι → σ → Except ε' (ρ' × σ)) : Prop where
  refused : ∀ request, ¬Kept request → ∀ value, (left request value).toOption = none
  alike : ∀ request, Kept request → ∀ value,
    Alike request (left request value) (right request value)
  stored : ∀ request result result', Alike request result result' →
    result.toOption.map Prod.snd = result'.toOption.map Prod.snd

/-- Two requests have come equally far, on the same copy, with results which are alike. -/
inductive Phase.Corresponds (Alike : Except ε (ρ × σ) → Except ε' (ρ' × σ) → Prop) :
    Phase σ ρ ε → Phase σ ρ' ε' → Prop where
  | received : Phase.Corresponds Alike .received .received
  | snapshotted (snapshot : σ) :
      Phase.Corresponds Alike (.snapshotted snapshot) (.snapshotted snapshot)
  | executed (snapshot : σ) {result : Except ε (ρ × σ)} {result' : Except ε' (ρ' × σ)}
      (alike : Alike result result') :
      Phase.Corresponds Alike (.executed snapshot result) (.executed snapshot result')
  | responded (snapshot : σ) {result : Except ε (ρ × σ)} {result' : Except ε' (ρ' × σ)}
      (alike : Alike result result') :
      Phase.Corresponds Alike (.responded snapshot result) (.responded snapshot result')

theorem Phase.Corresponds.eq {phase phase' : Phase σ ρ ε}
    (same : Phase.Corresponds Eq phase phase') : phase = phase' := by
  cases same with
  | received => rfl
  | snapshotted snapshot => rfl
  | executed snapshot alike => rw [alike]
  | responded snapshot alike => rw [alike]

/-- The right cell is in the state of the left one without the requests which are not kept. -/
structure State.Matches (Kept : ι → Prop)
    (Alike : ι → Except ε (ρ × σ) → Except ε' (ρ' × σ) → Prop)
    (left : State ι σ ρ ε) (right : State ι σ ρ' ε') : Prop where
  stored : left.stored = right.stored
  log : left.log = right.log
  kept : ∀ request, Kept request →
    Phase.Corresponds (Alike request) (left.phase request) (right.phase request)
  erased : ∀ request, ¬Kept request → right.phase request = .received

variable {Kept : ι → Prop} {Alike : ι → Except ε (ρ × σ) → Except ε' (ρ' × σ) → Prop}
  {left : ι → σ → Except ε (ρ × σ)} {right : ι → σ → Except ε' (ρ' × σ)} {init : σ}
  {state next : State ι σ ρ ε} {state' : State ι σ ρ' ε'}

theorem matches_start (Kept : ι → Prop)
    (Alike : ι → Except ε (ρ × σ) → Except ε' (ρ' × σ) → Prop) (init : σ) :
    (start init : State ι σ ρ ε).Matches Kept Alike (start init : State ι σ ρ' ε') where
  stored := rfl
  log := rfl
  kept _ _ := .received
  erased _ _ := rfl

variable [DecidableEq ι] {label : Step ι} {trace : List (Step ι)}

/-- Matching states match after the same request moves to alike phases. -/
theorem State.Matches.advance (same : state.Matches Kept Alike state') {request : ι}
    (is_kept : Kept request) {phase : Phase σ ρ ε} {phase' : Phase σ ρ' ε'}
    (alike : Phase.Corresponds (Alike request) phase phase') :
    (state.advance request phase).Matches Kept Alike (state'.advance request phase') where
  stored := same.stored
  log := same.log
  kept other other_kept := by
    rw [phase_advance, phase_advance]
    split
    · rename_i mine
      exact mine ▸ alike
    · exact same.kept other other_kept
  erased other other_erased := by
    have differs : other ≠ request := fun mine => other_erased (mine ▸ is_kept)
    rw [phase_advance_of_ne _ _ differs]
    exact same.erased other other_erased

/-- A step of a request which is not kept leaves the match as it is. -/
theorem State.Matches.erase (same : state.Matches Kept Alike state') (inv : Inv left init state)
    (simulates : Simulates Kept Alike left right) (stepped : Stepped left state label next)
    (is_erased : ¬Kept label.request) : next.Matches Kept Alike state' := by
  have quiet : next.stored = state.stored ∧ next.log = state.log := by
    cases stepped with
    | succeed request snapshot response value waiting =>
        have refused := simulates.refused request is_erased snapshot
        rw [← inv.results request snapshot _ (Or.inl waiting)] at refused
        cases refused
    | _ => exact ⟨rfl, rfl⟩
  refine ⟨quiet.1.trans same.stored, quiet.2.trans same.log, ?_, same.erased⟩
  intro request is_kept
  have differs : request ≠ label.request := fun mine => is_erased (mine ▸ is_kept)
  rw [stepped.frame differs]
  exact same.kept request is_kept

/-- A step of a kept request is a step of the other cell. -/
theorem State.Matches.step (same : state.Matches Kept Alike state')
    (simulates : Simulates Kept Alike left right) (stepped : Stepped left state label next)
    (is_kept : Kept label.request) :
    ∃ next', SnapshotCell.step right state' label = some next' ∧
      next.Matches Kept Alike next' := by
  have alike := same.kept label.request is_kept
  cases stepped with
  | snapshot request waiting =>
      rw [Step.request, waiting] at alike
      generalize phase : state'.phase request = reached at alike
      cases alike
      refine ⟨state'.advance request (.snapshotted state'.stored), ?_, ?_⟩
      · simp only [SnapshotCell.step, phase]
      · rw [same.stored]
        exact same.advance is_kept (.snapshotted _)
  | execute request snapshot waiting =>
      rw [Step.request, waiting] at alike
      generalize phase : state'.phase request = reached at alike
      cases alike
      refine ⟨state'.advance request (.executed snapshot (right request snapshot)), ?_, ?_⟩
      · simp only [SnapshotCell.step, phase]
      · exact same.advance is_kept (.executed snapshot (simulates.alike request is_kept snapshot))
  | succeed request snapshot response value waiting =>
      rw [Step.request, waiting] at alike
      generalize phase : state'.phase request = reached at alike
      cases alike with
      | @executed _ _ result' alike =>
          have stores := simulates.stored request _ _ alike
          cases result' with
          | error failure => cases stores
          | ok answer =>
              rcases answer with ⟨response', value'⟩
              cases stores
              have advanced := same.advance is_kept (.responded snapshot alike)
              refine ⟨{ state'.advance request (.responded snapshot (.ok (response', value))) with
                stored := value
                log := state'.log ++ [request] }, ?_, ?_⟩
              · simp only [SnapshotCell.step, phase]
              · exact ⟨rfl, congrArg (· ++ [request]) same.log, advanced.kept, advanced.erased⟩
  | fail request snapshot failure waiting =>
      rw [Step.request, waiting] at alike
      generalize phase : state'.phase request = reached at alike
      cases alike with
      | @executed _ _ result' alike =>
          have stores := simulates.stored request _ _ alike
          cases result' with
          | ok answer => cases stores
          | error failure' =>
              refine ⟨state'.advance request (.responded snapshot (.error failure')), ?_, ?_⟩
              · simp only [SnapshotCell.step, phase]
              · exact same.advance is_kept (.responded snapshot alike)

/-- Without the steps of the requests which are not kept, a run is a run of the other cell. -/
theorem Simulates.reaches [DecidablePred Kept] (simulates : Simulates Kept Alike left right)
    (reaches : Reaches left init trace state) :
    ∃ state', Reaches right init (trace.filter fun label => Kept label.request) state' ∧
      state.Matches Kept Alike state' := by
  refine Trace.run_induction (fun trace (state : State ι σ ρ ε) => ∃ state' : State ι σ ρ' ε',
    Reaches right init (trace.filter fun label => Kept label.request) state' ∧
      state.Matches Kept Alike state')
    ⟨start init, rfl, matches_start Kept Alike init⟩ ?_ reaches
  rintro front before label after reaches_front ⟨state', reaches', same⟩ stepped
  rw [List.filter_append]
  by_cases is_kept : Kept label.request
  · rcases same.step simulates (step_cases stepped) is_kept with ⟨next', stepped', later⟩
    rw [List.filter_cons_of_pos (by simpa using is_kept), List.filter_nil]
    exact ⟨next', Trace.run_concat_eq_some_iff.mpr ⟨state', reaches', stepped'⟩, later⟩
  · rw [List.filter_cons_of_neg (by simpa using is_kept), List.filter_nil, List.append_nil]
    exact ⟨state', reaches', same.erase (inv_of_reaches reaches_front) simulates
      (step_cases stepped) is_kept⟩

end SnapshotCell
