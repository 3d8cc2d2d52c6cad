import Zkhood.Data.SnapshotCell

/-!
# The history of a cell

Every request which has stored worked on the end of a chain of requests which
had stored before it. So the log is a tree which grows from the initial value,
and a property which the work of every request keeps holds of every value that
was ever stored or copied.

The tree is a single branch exactly if every store was fresh: then no request
stored over what it had not seen.

A request which has copied the cell can take its other two steps alone, so the
requests can finish in any order.
-/

universe u v w x

namespace SnapshotCell

variable {ι : Type u} {σ : Type v} {ρ : Type w} {ε : Type x}

namespace State

variable {state : State ι σ ρ ε} {first last : σ}

theorem chain_append {front back : List ι} :
    state.Chain first (front ++ back) last ↔
      ∃ middle, state.Chain first front middle ∧ state.Chain middle back last := by
  induction front generalizing first with
  | nil => simp [Chain]
  | cons request rest ih =>
      constructor
      · rintro ⟨response, next, held, later⟩
        rcases ih.mp later with ⟨middle, linked, ended⟩
        exact ⟨middle, ⟨response, next, held, linked⟩, ended⟩
      · rintro ⟨middle, ⟨response, next, held, linked⟩, ended⟩
        exact ⟨response, next, held, ih.mpr ⟨middle, linked, ended⟩⟩

theorem chain_concat {front : List ι} {request : ι} :
    state.Chain first (front ++ [request]) last ↔
      ∃ snapshot response, state.Chain first front snapshot ∧
        state.phase request = .responded snapshot (.ok (response, last)) := by
  rw [chain_append]
  constructor
  · rintro ⟨snapshot, linked, response, next, held, rfl⟩
    exact ⟨snapshot, response, linked, held⟩
  · rintro ⟨snapshot, response, linked, held⟩
    exact ⟨snapshot, linked, response, last, held, rfl⟩

/-- What holds at the start of a chain and is kept by the work of each request holds at its end. -/
theorem Chain.induction {work : ι → σ → Except ε (ρ × σ)} {init : σ} (motive : σ → Prop)
    (inv : Inv work init state)
    (kept : ∀ request value response next, motive value →
      work request value = .ok (response, next) → motive next)
    {chain : List ι} (linked : state.Chain first chain last) (start : motive first) :
    motive last := by
  induction chain generalizing first with
  | nil => exact linked ▸ start
  | cons request rest ih =>
      rcases linked with ⟨response, next, held, later⟩
      exact ih later (kept request first response next start
        (inv.results request first _ (Or.inr held)).symm)

end State

variable [DecidableEq ι] {work : ι → σ → Except ε (ρ × σ)} {init : σ} {state : State ι σ ρ ε}
  {trace : List (Step ι)}

/-- What holds of the initial value and is kept by the work of every request holds of the stored
value and of every copy. -/
theorem value_induction (motive : σ → Prop) (start : motive init)
    (kept : ∀ request value response next, motive value →
      work request value = .ok (response, next) → motive next)
    (reaches : Reaches work init trace state) :
    motive state.stored ∧ ∀ request snapshot, state.Holds request snapshot → motive snapshot := by
  have inv := inv_of_reaches reaches
  have supported : ∀ value, state.Supports init value → motive value := by
    rintro value ⟨chain, -, linked⟩
    exact linked.induction motive inv kept start
  exact ⟨supported _ inv.stored,
    fun request snapshot holds => supported _ (inv.held request snapshot holds)⟩

/-- Every logged request worked on the end of a chain of requests which were logged before it. -/
theorem exists_chain_of_log (reaches : Reaches work init trace state) {front back : List ι}
    {request : ι} (split : state.log = front ++ request :: back) :
    ∃ chain snapshot response next, chain.Sublist front ∧ state.Chain init chain snapshot ∧
      state.phase request = .responded snapshot (.ok (response, next)) := by
  revert front back request
  refine Trace.run_induction (fun _ (state : State ι σ ρ ε) => ∀ {front back request},
    state.log = front ++ request :: back → ∃ chain snapshot response next,
      chain.Sublist front ∧ state.Chain init chain snapshot ∧
        state.phase request = .responded snapshot (.ok (response, next))) ?_ ?_ reaches
  · intro front back request split
    simp [start] at split
  · intro _ before label after reaches_before ih stepped front back request split
    have outcome := step_cases stepped
    have lifted : ∀ {earlier later}, before.log = earlier ++ request :: later →
        earlier = front → ∃ chain snapshot response next, chain.Sublist front ∧
          after.Chain init chain snapshot ∧
            after.phase request = .responded snapshot (.ok (response, next)) := by
      rintro earlier later logged rfl
      rcases ih logged with ⟨chain, snapshot, response, next, ordered, linked, held⟩
      exact ⟨chain, snapshot, response, next, ordered,
        linked.mono fun _ _ _ held => outcome.responded held, outcome.responded held⟩
    cases outcome with
    | succeed storing snapshot response value waiting =>
        rcases List.eq_nil_or_concat back with rfl | ⟨rest, last, rfl⟩
        · change before.log ++ [storing] = front ++ [request] at split
          rcases List.append_inj' split rfl with ⟨rfl, same⟩
          cases same
          rcases (inv_of_reaches reaches_before).held request snapshot (Or.inr ⟨_, waiting⟩) with
            ⟨chain, ordered, linked⟩
          exact ⟨chain, snapshot, response, value, ordered,
            linked.mono fun _ _ _ held => (step_cases stepped).responded held,
            phase_advance_self before _ _⟩
        · rw [List.concat_eq_append, ← List.cons_append, ← List.append_assoc] at split
          exact lifted (List.append_inj' split rfl).1 rfl
    | _ => exact lifted split rfl

/-- The stored value is what the last logged request stored. -/
theorem stored_eq_of_log (reaches : Reaches work init trace state) :
    (state.log = [] → state.stored = init) ∧
      ∀ front request, state.log = front ++ [request] →
        ∃ snapshot response, state.phase request = .responded snapshot (.ok (response,
          state.stored)) := by
  refine Trace.run_induction (fun _ (state : State ι σ ρ ε) =>
    (state.log = [] → state.stored = init) ∧
      ∀ front request, state.log = front ++ [request] →
        ∃ snapshot response, state.phase request = .responded snapshot (.ok (response,
          state.stored))) ⟨fun _ => rfl, by simp [start]⟩ ?_ reaches
  rintro _ before label after - ⟨unlogged, last_logged⟩ stepped
  have stepped := step_cases stepped
  have kept : after.stored = before.stored → after.log = before.log →
      (after.log = [] → after.stored = init) ∧
        ∀ front request, after.log = front ++ [request] → ∃ snapshot response,
          after.phase request = .responded snapshot (.ok (response, after.stored)) := by
    intro same_stored same_log
    rw [same_stored, same_log]
    refine ⟨unlogged, fun front request split => ?_⟩
    rcases last_logged front request split with ⟨snapshot, response, held⟩
    exact ⟨snapshot, response, stepped.responded held⟩
  cases stepped with
  | succeed storing snapshot response value waiting =>
      refine ⟨fun empty => by simp at empty, ?_⟩
      intro front request split
      cases (List.append_inj' split rfl).2
      exact ⟨snapshot, response, phase_advance_self before _ _⟩
  | _ => exact kept rfl rfl

theorem responded_of_run {next : State ι σ ρ ε} {request : ι} {snapshot : σ}
    {result : Except ε (ρ × σ)} (held : state.phase request = .responded snapshot result)
    (executed : Trace.run (step work) state trace = some next) :
    next.phase request = .responded snapshot result :=
  Trace.run_induction (fun _ reached => reached.phase request = .responded snapshot result) held
    (fun _ _ _ _ _ held stepped => (step_cases stepped).responded held) executed

theorem log_prefix_of_run {next : State ι σ ρ ε}
    (executed : Trace.run (step work) state trace = some next) : state.log <+: next.log := by
  refine Trace.run_induction (fun _ (reached : State ι σ ρ ε) => state.log <+: reached.log)
    (List.prefix_refl _) ?_ executed
  intro _ before label after _ grown stepped
  have outcome := step_cases stepped
  cases outcome with
  | succeed request => exact grown.trans (List.prefix_append _ _)
  | _ => exact grown

/-- The stores of a run are fresh exactly if its log is one chain. -/
theorem freshStores_iff_chain_log (reaches : Reaches work init trace state) :
    FreshStores work init trace ↔ state.Chain init state.log state.stored := by
  refine ⟨chain_of_freshStores reaches, ?_⟩
  rintro linked front request back before snapshot response value rfl reaches_front waiting
  rw [Reaches, Trace.run_append, reaches_front, Option.bind_some] at reaches
  have later := reaches
  rw [Trace.run, Option.bind_eq_some_iff] at later
  rcases later with ⟨after, stepped, finished⟩
  have logged : after.log = before.log ++ [request] ∧
      after.phase request = .responded snapshot (.ok (response, value)) := by
    simp only [step, waiting, Option.some.injEq] at stepped
    subst stepped
    exact ⟨rfl, phase_advance_self before _ _⟩
  rcases log_prefix_of_run finished with ⟨rest, split⟩
  rw [← split, logged.1, List.append_assoc, State.chain_append] at linked
  rcases linked with ⟨middle, before_linked, _, _, held, -⟩
  rw [responded_of_run logged.2 finished] at held
  cases held
  -- the end of the chain before the request is what the last request before it stored
  rcases stored_eq_of_log reaches_front with ⟨unlogged, last_logged⟩
  rcases List.eq_nil_or_concat before.log with empty | ⟨earlier, last, is_log⟩
  · rw [empty] at before_linked
    exact (unlogged empty).trans before_linked
  · rw [List.concat_eq_append] at is_log
    rcases last_logged earlier last is_log with ⟨_, _, stored⟩
    rw [is_log, State.chain_concat] at before_linked
    rcases before_linked with ⟨_, _, -, held⟩
    rw [responded_of_run stored reaches] at held
    cases held
    rfl

section Alone

variable {next : State ι σ ρ ε} {label : Step ι}

/-- A request which starts from this state by itself has this result, and disturbs no other. -/
def Finishes (work : ι → σ → Except ε (ρ × σ)) (state : State ι σ ρ ε) (request : ι)
    (trace : List (Step ι)) (snapshot : σ) (result : Except ε (ρ × σ)) : Prop :=
  ∃ next, Trace.run (step work) state trace = some next ∧
    next.phase request = .responded snapshot result ∧
    ∀ other, other ≠ request → next.phase other = state.phase other

theorem Finishes.cons {request : ι} {snapshot : σ} {result : Except ε (ρ × σ)}
    (stepped : step work state label = some next) (mine : label.request = request)
    (finishes : Finishes work next request trace snapshot result) :
    Finishes work state request (label :: trace) snapshot result := by
  rcases finishes with ⟨final, executed, responded, frame⟩
  refine ⟨final, ?_, responded, ?_⟩
  · rw [Trace.run, stepped, Option.bind_some, executed]
  · intro other differs
    rw [frame other differs, (step_cases stepped).frame (mine ▸ differs)]

theorem finishes_of_executed {request : ι} {snapshot : σ} {result : Except ε (ρ × σ)}
    (waiting : state.phase request = .executed snapshot result) :
    Finishes work state request [.store request] snapshot result := by
  cases result with
  | error failure =>
      have stepped : step work state (.store request) =
          some (state.advance request (.responded snapshot (.error failure))) := by
        simp only [step, waiting]
      exact Finishes.cons stepped rfl ⟨_, rfl, phase_advance_self _ _ _, fun _ _ => rfl⟩
  | ok reached =>
      rcases reached with ⟨response, value⟩
      have stepped : step work state (.store request) =
          some { state.advance request (.responded snapshot (.ok (response, value))) with
            stored := value
            log := state.log ++ [request] } := by
        simp only [step, waiting]
      exact Finishes.cons stepped rfl ⟨_, rfl, phase_advance_self state _ _, fun _ _ => rfl⟩

theorem finishes_of_snapshotted {request : ι} {snapshot : σ}
    (waiting : state.phase request = .snapshotted snapshot) :
    Finishes work state request [.execute request, .store request] snapshot
      (work request snapshot) := by
  have stepped : step work state (.execute request) =
      some (state.advance request (.executed snapshot (work request snapshot))) := by
    simp only [step, waiting]
  exact (finishes_of_executed (phase_advance_self _ _ _)).cons stepped rfl

end Alone

/-- Two requests copy the cell, and then the second one finishes before the first. -/
theorem exists_run_of_two (work : Bool → σ → Except ε (ρ × σ)) (init : σ) :
    ∃ state : State Bool σ ρ ε,
      Reaches work init [.snapshot false, .snapshot true, .execute true, .store true,
        .execute false, .store false] state ∧
      ∀ request, state.phase request = .responded init (work request init) := by
  let copied : State Bool σ ρ ε :=
    ((start init).advance false (.snapshotted init)).advance true (.snapshotted init)
  have second : Finishes work copied true [.execute true, .store true] init (work true init) :=
    finishes_of_snapshotted (phase_advance_self _ _ _)
  rcases second with ⟨between, second, second_responded, frame⟩
  have first : Finishes work between false [.execute false, .store false] init (work false init) :=
    finishes_of_snapshotted (frame false (by decide))
  rcases first with ⟨state, first, first_responded, frame⟩
  refine ⟨state, ?_, ?_⟩
  · change Trace.run (step work) copied
      ([.execute true, .store true] ++ [.execute false, .store false]) = some state
    rw [Trace.run_append, second]
    exact first
  · intro request
    cases request with
    | false => exact first_responded
    | true => rw [frame true (by decide), second_responded]

end SnapshotCell
