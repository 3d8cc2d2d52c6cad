import Zkhood.Data.Trace

/-!
# A cell which is read, worked on and replaced

A shared cell holds one value. A request copies it, works on its copy without
holding the cell, and replaces the stored value if the work succeeds. The three
steps are atomic, and the steps of different requests interleave freely.

Every stored value, and every copy which a request still holds, was produced by
a chain of successful requests in which each one worked on what its predecessor
stored. The chain is all successful requests when every successful request finds
the cell as it copied it; then the requests are serializable in the order in
which they stored. That is so in particular when no two requests overlap.
-/

universe u v w x

namespace SnapshotCell

variable {ι : Type u} {σ : Type v} {ρ : Type w} {ε : Type x}

/-- How far a request has come. -/
inductive Phase (σ : Type v) (ρ : Type w) (ε : Type x) where
  | received
  | snapshotted (snapshot : σ)
  | executed (snapshot : σ) (result : Except ε (ρ × σ))
  | responded (snapshot : σ) (result : Except ε (ρ × σ))

/-- The cell, the requests, and those which have stored, in the order in which they did. -/
structure State (ι : Type u) (σ : Type v) (ρ : Type w) (ε : Type x) where
  stored : σ
  phase : ι → Phase σ ρ ε
  log : List ι

/-- An atomic step of one request. -/
inductive Step (ι : Type u) where
  | snapshot (request : ι)
  | execute (request : ι)
  | store (request : ι)
deriving DecidableEq

/-- The request which takes the step. -/
def Step.request : Step ι → ι
  | snapshot request => request
  | execute request => request
  | store request => request

/-- A cell which no request has copied yet. -/
def start (init : σ) : State ι σ ρ ε := ⟨init, fun _ => .received, []⟩

variable [DecidableEq ι]

/-- One request moves to its next phase. -/
def State.advance (state : State ι σ ρ ε) (request : ι) (phase : Phase σ ρ ε) :
    State ι σ ρ ε :=
  { state with phase := fun other => if other = request then phase else state.phase other }

/-- Take a step, if the request has come as far as it needs. -/
def step (work : ι → σ → Except ε (ρ × σ)) (state : State ι σ ρ ε) :
    Step ι → Option (State ι σ ρ ε)
  | .snapshot request =>
      match state.phase request with
      | .received => some (state.advance request (.snapshotted state.stored))
      | _ => none
  | .execute request =>
      match state.phase request with
      | .snapshotted snapshot =>
          some (state.advance request (.executed snapshot (work request snapshot)))
      | _ => none
  | .store request =>
      match state.phase request with
      | .executed snapshot (.ok (response, next)) =>
          some { state.advance request (.responded snapshot (.ok (response, next))) with
            stored := next
            log := state.log ++ [request] }
      | .executed snapshot (.error failure) =>
          some (state.advance request (.responded snapshot (.error failure)))
      | _ => none

/-- The steps of the trace, taken one after another, lead from the start to the state. -/
def Reaches (work : ι → σ → Except ε (ρ × σ)) (init : σ) (trace : List (Step ι))
    (state : State ι σ ρ ε) : Prop :=
  Trace.run (step work) (start init) trace = some state

section Steps

variable {work : ι → σ → Except ε (ρ × σ)} {state next : State ι σ ρ ε} {label : Step ι}

/-- What a step can do. -/
inductive Stepped (work : ι → σ → Except ε (ρ × σ)) (state : State ι σ ρ ε) :
    Step ι → State ι σ ρ ε → Prop where
  | snapshot (request : ι) (waiting : state.phase request = .received) :
      Stepped work state (.snapshot request) (state.advance request (.snapshotted state.stored))
  | execute (request : ι) (snapshot : σ) (waiting : state.phase request = .snapshotted snapshot) :
      Stepped work state (.execute request)
        (state.advance request (.executed snapshot (work request snapshot)))
  | succeed (request : ι) (snapshot : σ) (response : ρ) (next : σ)
      (waiting : state.phase request = .executed snapshot (.ok (response, next))) :
      Stepped work state (.store request)
        { state.advance request (.responded snapshot (.ok (response, next))) with
          stored := next
          log := state.log ++ [request] }
  | fail (request : ι) (snapshot : σ) (failure : ε)
      (waiting : state.phase request = .executed snapshot (.error failure)) :
      Stepped work state (.store request)
        (state.advance request (.responded snapshot (.error failure)))

/-- Every step is one of these. -/
theorem step_cases (stepped : step work state label = some next) :
    Stepped work state label next := by
  cases label with
  | snapshot request =>
      simp only [step] at stepped
      split at stepped
      · rename_i waiting
        cases stepped
        exact .snapshot request waiting
      · cases stepped
  | execute request =>
      simp only [step] at stepped
      split at stepped
      · rename_i snapshot waiting
        cases stepped
        exact .execute request snapshot waiting
      · cases stepped
  | store request =>
      simp only [step] at stepped
      split at stepped
      · rename_i snapshot response value waiting
        cases stepped
        exact .succeed request snapshot response value waiting
      · rename_i snapshot failure waiting
        cases stepped
        exact .fail request snapshot failure waiting
      · cases stepped

omit [DecidableEq ι] in
@[simp]
theorem phase_start (init : σ) (request : ι) :
    (start init : State ι σ ρ ε).phase request = .received := rfl

theorem phase_advance (state : State ι σ ρ ε) (request other : ι) (phase : Phase σ ρ ε) :
    (state.advance request phase).phase other =
      if other = request then phase else state.phase other := rfl

@[simp]
theorem phase_advance_self (state : State ι σ ρ ε) (request : ι) (phase : Phase σ ρ ε) :
    (state.advance request phase).phase request = phase := by
  rw [phase_advance, if_pos rfl]

theorem phase_advance_of_ne (state : State ι σ ρ ε) {request other : ι} (phase : Phase σ ρ ε)
    (differs : other ≠ request) :
    (state.advance request phase).phase other = state.phase other := by
  rw [phase_advance, if_neg differs]

theorem Stepped.responded {request : ι} {snapshot : σ} {result : Except ε (ρ × σ)}
    (stepped : Stepped work state label next)
    (held : state.phase request = .responded snapshot result) :
    next.phase request = .responded snapshot result := by
  have differs : ∀ other, (∀ snapshot result, state.phase other ≠ .responded snapshot result) →
      request ≠ other := by
    rintro _ unfinished rfl
    exact unfinished snapshot result held
  cases stepped with
  | snapshot other waiting =>
      rw [phase_advance_of_ne _ _ (differs other (by simp [waiting]))]
      exact held
  | execute other _ waiting =>
      rw [phase_advance_of_ne _ _ (differs other (by simp [waiting]))]
      exact held
  | succeed other _ _ _ waiting =>
      change (state.advance other _).phase request = _
      rw [phase_advance_of_ne _ _ (differs other (by simp [waiting]))]
      exact held
  | fail other _ _ waiting =>
      rw [phase_advance_of_ne _ _ (differs other (by simp [waiting]))]
      exact held

end Steps

namespace State

omit [DecidableEq ι]

/-- A request has stored and has its response. -/
def Succeeded (state : State ι σ ρ ε) (request : ι) : Prop :=
  ∃ snapshot response next, state.phase request = .responded snapshot (.ok (response, next))

/-- A request works on a copy of the cell. -/
def Holds (state : State ι σ ρ ε) (request : ι) (snapshot : σ) : Prop :=
  state.phase request = .snapshotted snapshot ∨
    ∃ result, state.phase request = .executed snapshot result

/-- Successful requests, each of which worked on what the one before it stored. -/
def Chain (state : State ι σ ρ ε) (first : σ) : List ι → σ → Prop
  | [], last => first = last
  | request :: rest, last => ∃ response next,
      state.phase request = .responded first (.ok (response, next)) ∧ state.Chain next rest last

/-- Running the requests one after another gives each its response. -/
def Replays (work : ι → σ → Except ε (ρ × σ)) (state : State ι σ ρ ε) (first : σ) :
    List ι → σ → Prop
  | [], last => first = last
  | request :: rest, last => ∃ response next, work request first = .ok (response, next) ∧
      (∃ snapshot stored, state.phase request = .responded snapshot (.ok (response, stored))) ∧
      Replays work state next rest last

/-- A serial order of the successful requests explains every response and the stored value. -/
def Serializable (work : ι → σ → Except ε (ρ × σ)) (init : σ) (state : State ι σ ρ ε) : Prop :=
  ∃ order : List ι, order.Nodup ∧ (∀ request, request ∈ order ↔ state.Succeeded request) ∧
    state.Replays work init order state.stored

theorem Chain.concat {state : State ι σ ρ ε} {first snapshot next : σ} {chain : List ι}
    {request : ι} {response : ρ} (supported : state.Chain first chain snapshot)
    (stored : state.phase request = .responded snapshot (.ok (response, next))) :
    state.Chain first (chain ++ [request]) next := by
  induction chain generalizing first with
  | nil =>
      cases supported
      exact ⟨response, next, stored, rfl⟩
  | cons earlier rest ih =>
      rcases supported with ⟨other, value, held, later⟩
      exact ⟨other, value, held, ih later⟩

theorem Chain.mono {state next : State ι σ ρ ε}
    (kept : ∀ request snapshot result, state.phase request = .responded snapshot result →
      next.phase request = .responded snapshot result)
    {first last : σ} {chain : List ι} (linked : state.Chain first chain last) :
    next.Chain first chain last := by
  induction chain generalizing first with
  | nil => exact linked
  | cons request rest ih =>
      rcases linked with ⟨response, value, held, later⟩
      exact ⟨response, value, kept request first _ held, ih later⟩

/-- A value is the end of a chain from the initial one, in the order of the log. -/
def Supports (state : State ι σ ρ ε) (init value : σ) : Prop :=
  ∃ chain : List ι, chain.Sublist state.log ∧ state.Chain init chain value

end State

section Invariant

variable {work : ι → σ → Except ε (ρ × σ)} {init : σ} {state next : State ι σ ρ ε}
  {label : Step ι} {trace : List (Step ι)}

/-- A step leaves the phases of the other requests alone. -/
theorem Stepped.frame (stepped : Stepped work state label next) {other : ι}
    (differs : other ≠ label.request) : next.phase other = state.phase other := by
  cases stepped <;> exact phase_advance_of_ne state _ differs

theorem Stepped.log_sublist (stepped : Stepped work state label next) :
    state.log.Sublist next.log := by
  cases stepped with
  | succeed request => exact List.sublist_append_left _ _
  | _ => exact List.Sublist.refl _

theorem Stepped.supports {value : σ} (stepped : Stepped work state label next)
    (supported : state.Supports init value) : next.Supports init value := by
  rcases supported with ⟨chain, ordered, linked⟩
  exact ⟨chain, ordered.trans stepped.log_sublist,
    linked.mono fun _ _ _ held => stepped.responded held⟩

/-- What holds in every state of every run. -/
structure Inv (work : ι → σ → Except ε (ρ × σ)) (init : σ) (state : State ι σ ρ ε) : Prop where
  results : ∀ request snapshot result,
    state.phase request = .executed snapshot result ∨
      state.phase request = .responded snapshot result → result = work request snapshot
  nodup : state.log.Nodup
  mem_log : ∀ request, request ∈ state.log ↔ state.Succeeded request
  stored : state.Supports init state.stored
  held : ∀ request snapshot, state.Holds request snapshot → state.Supports init snapshot

omit [DecidableEq ι] in
theorem inv_start (work : ι → σ → Except ε (ρ × σ)) (init : σ) :
    Inv work init (start init : State ι σ ρ ε) where
  results := by simp
  nodup := List.nodup_nil
  mem_log := by simp [start, State.Succeeded]
  stored := ⟨[], List.Sublist.refl _, rfl⟩
  held := by simp [State.Holds]

theorem Inv.results_step (inv : Inv work init state) (stepped : Stepped work state label next) :
    ∀ request snapshot result, next.phase request = .executed snapshot result ∨
      next.phase request = .responded snapshot result → result = work request snapshot := by
  intro request snapshot result reached
  by_cases mine : request = label.request
  · subst mine
    cases stepped with
    | snapshot other waiting => simp [Step.request] at reached
    | execute other held waiting =>
        simp [Step.request] at reached
        rw [← reached.1, ← reached.2, Step.request]
    | succeed other held response value waiting =>
        simp [Step.request] at reached
        rw [← reached.1, ← reached.2]
        exact inv.results other held _ (Or.inl waiting)
    | fail other held failure waiting =>
        simp [Step.request] at reached
        rw [← reached.1, ← reached.2]
        exact inv.results other held _ (Or.inl waiting)
  · rw [stepped.frame mine] at reached
    exact inv.results request snapshot result reached

theorem Inv.nodup_step (inv : Inv work init state) (stepped : Stepped work state label next) :
    next.log.Nodup := by
  cases stepped with
  | succeed request snapshot response value waiting =>
      refine List.nodup_append.mpr ⟨inv.nodup, by simp, ?_⟩
      rintro earlier earlier_mem other other_mem rfl
      rw [List.mem_singleton.mp other_mem] at earlier_mem
      rcases (inv.mem_log request).mp earlier_mem with ⟨_, _, _, finished⟩
      rw [waiting] at finished
      cases finished
  | _ => exact inv.nodup

theorem Inv.mem_log_step (inv : Inv work init state) (stepped : Stepped work state label next) :
    ∀ request, request ∈ next.log ↔ next.Succeeded request := by
  intro request
  by_cases mine : request = label.request
  · subst mine
    have unfinished : ∀ other, (∀ snapshot result, state.phase other ≠ .responded snapshot result) →
        other ∉ state.log := by
      intro other waiting other_mem
      rcases (inv.mem_log other).mp other_mem with ⟨snapshot, response, value, finished⟩
      exact waiting snapshot _ finished
    cases stepped with
    | snapshot other waiting =>
        have absent := unfinished other (by simp [waiting])
        simpa [Step.request, State.Succeeded, State.advance] using absent
    | execute other snapshot waiting =>
        have absent := unfinished other (by simp [waiting])
        simpa [Step.request, State.Succeeded, State.advance] using absent
    | succeed other snapshot response value waiting =>
        simp [Step.request, State.Succeeded]
    | fail other snapshot failure waiting =>
        have absent := unfinished other (by simp [waiting])
        simpa [Step.request, State.Succeeded, State.advance] using absent
  · have logged : request ∈ next.log ↔ request ∈ state.log := by
      cases stepped with
      | succeed other => simpa using fun same : request = other => absurd same mine
      | _ => exact Iff.rfl
    rw [logged, inv.mem_log, State.Succeeded, State.Succeeded, stepped.frame mine]

theorem Inv.stored_step (inv : Inv work init state) (stepped : Stepped work state label next) :
    next.Supports init next.stored := by
  cases stepped with
  | succeed request snapshot response value waiting =>
      rcases inv.held request snapshot (Or.inr ⟨_, waiting⟩) with ⟨chain, ordered, linked⟩
      have kept : Stepped work state _ _ := .succeed request snapshot response value waiting
      refine ⟨chain ++ [request], ordered.append (List.Sublist.refl _), ?_⟩
      apply State.Chain.concat (linked.mono fun _ _ _ held => kept.responded held)
      exact phase_advance_self state request _
  | snapshot request waiting =>
      have kept : Stepped work state _ _ := .snapshot request waiting
      exact kept.supports inv.stored
  | execute request snapshot waiting =>
      exact (Stepped.execute request snapshot waiting).supports inv.stored
  | fail request snapshot failure waiting =>
      have kept : Stepped work state _ _ := .fail request snapshot failure waiting
      exact kept.supports inv.stored

theorem Inv.held_step (inv : Inv work init state) (stepped : Stepped work state label next) :
    ∀ request snapshot, next.Holds request snapshot → next.Supports init snapshot := by
  intro request snapshot holds
  apply stepped.supports
  by_cases mine : request = label.request
  · subst mine
    cases stepped with
    | snapshot other waiting =>
        simp [State.Holds, Step.request] at holds
        exact holds ▸ inv.stored
    | execute other held waiting =>
        simp [State.Holds, Step.request] at holds
        exact inv.held other snapshot (Or.inl (holds ▸ waiting))
    | succeed other held response value waiting => simp [State.Holds, Step.request] at holds
    | fail other held failure waiting => simp [State.Holds, Step.request] at holds
  · rw [State.Holds, stepped.frame mine] at holds
    exact inv.held request snapshot holds

/-- Every step keeps the invariant. -/
theorem Inv.step (inv : Inv work init state) (stepped : Stepped work state label next) :
    Inv work init next where
  results := inv.results_step stepped
  nodup := inv.nodup_step stepped
  mem_log := inv.mem_log_step stepped
  stored := inv.stored_step stepped
  held := inv.held_step stepped

/-- The invariant holds in every state of every run. -/
theorem inv_of_reaches (reaches : Reaches work init trace state) : Inv work init state :=
  Trace.run_induction (fun _ state => Inv work init state) (inv_start work init)
    (fun _ _ _ _ _ inv stepped => inv.step (step_cases stepped)) reaches

/-- A step of a request which has not succeeded leaves the cell alone. -/
theorem Stepped.stored_eq (stepped : Stepped work state label next)
    (unsuccessful : ¬next.Succeeded label.request) : next.stored = state.stored := by
  cases stepped with
  | succeed request snapshot response value waiting =>
      exact absurd ⟨snapshot, response, value, phase_advance_self state request _⟩ unsuccessful
  | _ => rfl

theorem succeeded_of_run {request : ι} (succeeded : state.Succeeded request)
    (executed : Trace.run (step work) state trace = some next) : next.Succeeded request := by
  refine Trace.run_induction (fun _ reached => reached.Succeeded request) succeeded ?_ executed
  rintro _ before _ after - ⟨snapshot, response, value, held⟩ stepped
  exact ⟨snapshot, response, value, (step_cases stepped).responded held⟩

/-- The requests which take their store step, in the order in which they do. -/
def storeOrder (trace : List (Step ι)) : List ι :=
  trace.filterMap fun label =>
    match label with
    | .store request => some request
    | _ => none

/-- The requests are logged in the order of their store steps. -/
theorem log_sublist_storeOrder (reaches : Reaches work init trace state) :
    state.log.Sublist (storeOrder trace) := by
  refine Trace.run_induction (fun trace (state : State ι σ ρ ε) =>
    state.log.Sublist (storeOrder trace)) (List.Sublist.refl _) ?_ reaches
  intro front before label after _ ordered stepped
  rw [storeOrder, List.filterMap_append]
  have stepped := step_cases stepped
  cases stepped with
  | succeed request => exact ordered.append (List.Sublist.refl _)
  | _ => exact ordered.trans (List.sublist_append_left _ _)

end Invariant

section Fresh

variable {work : ι → σ → Except ε (ρ × σ)} {init : σ} {state : State ι σ ρ ε}
  {trace : List (Step ι)}

/-- Every successful request finds the cell as it copied it. -/
def FreshStores (work : ι → σ → Except ε (ρ × σ)) (init : σ) (trace : List (Step ι)) : Prop :=
  ∀ front request back before snapshot response next, trace = front ++ .store request :: back →
    Reaches work init front before →
    before.phase request = .executed snapshot (.ok (response, next)) → before.stored = snapshot

omit [DecidableEq ι] in
/-- When a request copies the cell, every request which did so before has finished. -/
def NoOverlap (trace : List (Step ι)) : Prop :=
  ∀ front request back, trace = front ++ .snapshot request :: back →
    ∀ other, Step.snapshot other ∈ front → Step.store other ∈ front

/-- If every store is fresh, the chain of the stored value is the whole log. -/
theorem chain_of_freshStores (reaches : Reaches work init trace state)
    (fresh : FreshStores work init trace) : state.Chain init state.log state.stored := by
  suffices general : ∀ front reached, Reaches work init front reached →
      (∃ back, trace = front ++ back) → reached.Chain init reached.log reached.stored from
    general trace state reaches ⟨[], by simp⟩
  intro front reached executed
  refine Trace.run_induction (fun front (reached : State ι σ ρ ε) =>
    (∃ back, trace = front ++ back) → reached.Chain init reached.log reached.stored) ?_ ?_ executed
  · exact fun _ => rfl
  · rintro front before label after reaches_front ih stepped ⟨back, split⟩
    have linked := ih ⟨label :: back, by simp [split]⟩
    have stepped := step_cases stepped
    have kept := linked.mono fun _ _ _ held => stepped.responded held
    cases stepped with
    | succeed request snapshot response value waiting =>
        have stored : before.stored = snapshot :=
          fresh front request back before snapshot response value (by simp [split]) reaches_front
            waiting
        apply State.Chain.concat kept
        rw [stored]
        exact phase_advance_self before request _
    | _ => exact kept

omit [DecidableEq ι] in
/-- A chain is a serial run of its requests. -/
theorem replays_of_chain (inv : Inv work init state) {first last : σ} {chain : List ι}
    (linked : state.Chain first chain last) : state.Replays work first chain last := by
  induction chain generalizing first with
  | nil => exact linked
  | cons request rest ih =>
      rcases linked with ⟨response, value, held, later⟩
      exact ⟨response, value, (inv.results request first _ (Or.inr held)).symm,
        ⟨first, value, held⟩, ih later⟩

/-- If every store is fresh, the requests are serializable in the order of the log. -/
theorem serializable_of_freshStores (reaches : Reaches work init trace state)
    (fresh : FreshStores work init trace) : state.Serializable work init := by
  have inv := inv_of_reaches reaches
  exact ⟨state.log, inv.nodup, inv.mem_log,
    replays_of_chain inv (chain_of_freshStores reaches fresh)⟩

/-- A copy was held before the step, or was made by it. -/
theorem Stepped.holds {next : State ι σ ρ ε} {label : Step ι} {request : ι} {snapshot : σ}
    (stepped : Stepped work state label next) (holds : next.Holds request snapshot) :
    (state.Holds request snapshot ∧ label ≠ .store request) ∨
      (label = .snapshot request ∧ snapshot = state.stored) := by
  by_cases mine : request = label.request
  · subst mine
    cases stepped with
    | snapshot other waiting =>
        simp [State.Holds, Step.request] at holds
        exact Or.inr ⟨rfl, holds.symm⟩
    | execute other held waiting =>
        simp [State.Holds, Step.request] at holds
        subst holds
        exact Or.inl ⟨Or.inl waiting, by simp⟩
    | succeed other held response value waiting => simp [State.Holds, Step.request] at holds
    | fail other held failure waiting => simp [State.Holds, Step.request] at holds
  · rw [State.Holds, stepped.frame mine] at holds
    refine Or.inl ⟨holds, ?_⟩
    rintro rfl
    exact mine rfl

theorem responded_of_mem_trace (reaches : Reaches work init trace state) :
    ∀ request, Step.store request ∈ trace →
      ∃ snapshot result, state.phase request = .responded snapshot result := by
  refine Trace.run_induction (fun trace (state : State ι σ ρ ε) =>
    ∀ request, Step.store request ∈ trace →
      ∃ snapshot result, state.phase request = .responded snapshot result) (by simp) ?_ reaches
  intro front before label after _ ih stepped request request_mem
  have stepped := step_cases stepped
  rcases List.mem_append.mp request_mem with earlier | last
  · rcases ih request earlier with ⟨snapshot, result, held⟩
    exact ⟨snapshot, result, stepped.responded held⟩
  · rw [← List.mem_singleton.mp last] at stepped
    cases stepped with
    | succeed _ snapshot response value waiting =>
        exact ⟨snapshot, _, phase_advance_self before request _⟩
    | fail _ snapshot failure waiting =>
        exact ⟨snapshot, _, phase_advance_self before request _⟩

theorem mem_trace_of_holds (reaches : Reaches work init trace state) :
    ∀ request snapshot, state.Holds request snapshot → Step.snapshot request ∈ trace := by
  refine Trace.run_induction (fun trace (state : State ι σ ρ ε) =>
    ∀ request snapshot, state.Holds request snapshot → Step.snapshot request ∈ trace)
    (by simp [State.Holds]) ?_ reaches
  intro front before label after _ ih stepped request snapshot holds
  rcases (step_cases stepped).holds holds with ⟨held, -⟩ | ⟨rfl, -⟩
  · exact List.mem_append_left _ (ih request snapshot held)
  · simp

omit [DecidableEq ι] in
theorem NoOverlap.of_append {front back : List (Step ι)} (apart : NoOverlap (front ++ back)) :
    NoOverlap front := by
  rintro before request after rfl
  exact apart before request (after ++ back) (by simp)

/-- Without overlap, no request holds a copy while another one starts. -/
theorem not_holds_of_noOverlap {request other : ι} {snapshot : σ}
    (reaches : Reaches work init trace state) (apart : NoOverlap (trace ++ [.snapshot request])) :
    ¬state.Holds other snapshot := by
  intro holds
  have started := mem_trace_of_holds reaches other snapshot holds
  have finished := apart trace request [] (by simp) other started
  rcases responded_of_mem_trace reaches other finished with ⟨_, _, responded⟩
  rcases holds with held | ⟨_, held⟩
  · rw [responded] at held
    cases held
  · rw [responded] at held
    cases held

/-- Without overlap at most one copy is held, and it is the stored value. -/
theorem holds_stored_of_noOverlap (reaches : Reaches work init trace state)
    (apart : NoOverlap trace) :
    (∀ request snapshot, state.Holds request snapshot → state.stored = snapshot) ∧
      ∀ request other snapshot held, state.Holds request snapshot → state.Holds other held →
        request = other := by
  revert apart
  refine Trace.run_induction (fun trace (state : State ι σ ρ ε) => NoOverlap trace →
    (∀ request snapshot, state.Holds request snapshot → state.stored = snapshot) ∧
      ∀ request other snapshot held, state.Holds request snapshot → state.Holds other held →
        request = other) (by simp [State.Holds]) ?_ reaches
  intro front before label after reaches_front ih stepped apart
  have stepped := step_cases stepped
  rcases ih apart.of_append with ⟨current, unique⟩
  cases label with
  | snapshot request =>
      have kept : after.stored = before.stored := by cases stepped; rfl
      have only : ∀ other snapshot, after.Holds other snapshot →
          other = request ∧ snapshot = before.stored := by
        intro other snapshot holds
        rcases stepped.holds holds with ⟨held, -⟩ | ⟨same, copied⟩
        · exact absurd held (not_holds_of_noOverlap reaches_front apart)
        · cases same
          exact ⟨rfl, copied⟩
      constructor
      · intro other snapshot holds
        rw [kept, (only other snapshot holds).2]
      · intro other third snapshot held holds holds'
        rw [(only other snapshot holds).1, (only third held holds').1]
  | execute request =>
      have kept : after.stored = before.stored := by cases stepped; rfl
      have earlier : ∀ other snapshot, after.Holds other snapshot →
          before.Holds other snapshot := by
        intro other snapshot holds
        rcases stepped.holds holds with ⟨held, -⟩ | ⟨impossible, -⟩
        · exact held
        · cases impossible
      constructor
      · intro other snapshot holds
        rw [kept, current other snapshot (earlier other snapshot holds)]
      · intro other third snapshot held holds holds'
        exact unique other third snapshot held (earlier other snapshot holds)
          (earlier third held holds')
  | store request =>
      have waiting : ∃ copied, before.Holds request copied := by
        cases stepped with
        | succeed _ copied _ _ held => exact ⟨copied, Or.inr ⟨_, held⟩⟩
        | fail _ copied _ held => exact ⟨copied, Or.inr ⟨_, held⟩⟩
      have idle : ∀ other snapshot, ¬after.Holds other snapshot := by
        intro other snapshot holds
        rcases stepped.holds holds with ⟨held, differs⟩ | ⟨impossible, -⟩
        · rcases waiting with ⟨copied, mine⟩
          exact differs (by rw [unique request other copied snapshot mine held])
        · cases impossible
      exact ⟨fun other snapshot holds => absurd holds (idle other snapshot),
        fun other third snapshot held holds => absurd holds (idle other snapshot)⟩

/-- Without overlap, every request finds the cell as it copied it. -/
theorem freshStores_of_noOverlap (apart : NoOverlap trace) : FreshStores work init trace := by
  rintro front request back before snapshot response next rfl reaches waiting
  exact (holds_stored_of_noOverlap reaches apart.of_append).1 request snapshot (Or.inr ⟨_, waiting⟩)

/-- The three steps of a request, one after another. -/
def requestSteps (request : ι) : List (Step ι) :=
  [.snapshot request, .execute request, .store request]

omit [DecidableEq ι] in
/-- Requests which are handled one after another do not overlap. -/
theorem noOverlap_flatMap_requestSteps (requests : List ι) :
    NoOverlap (requests.flatMap requestSteps) := by
  induction requests with
  | nil => simp [NoOverlap]
  | cons first rest ih =>
      intro front request back split other other_mem
      rw [List.flatMap_cons, requestSteps] at split
      match front with
      | [] => simp at other_mem
      | [_] => simp at split
      | [_, _] => simp at split
      | _ :: _ :: _ :: later =>
          simp only [List.cons_append, List.nil_append, List.cons.injEq] at split
          rcases split with ⟨rfl, rfl, rfl, split⟩
          simp only [List.mem_cons, Step.snapshot.injEq, reduceCtorEq, false_or,
            Step.store.injEq] at other_mem ⊢
          rcases other_mem with rfl | started
          · exact Or.inl rfl
          · exact Or.inr (ih later request back split other started)

variable (work) in
/-- A request which runs alone works on the stored value. -/
theorem run_requestSteps {request : ι} (waiting : state.phase request = .received) :
    ∃ next, Trace.run (step work) state (requestSteps request) = some next ∧
      next.phase request = .responded state.stored (work request state.stored) ∧
      (∀ other, other ≠ request → next.phase other = state.phase other) ∧
      next.stored = (match work request state.stored with
        | .ok (_, value) => value
        | .error _ => state.stored) := by
  cases outcome : work request state.stored with
  | error failure =>
      refine ⟨(((state.advance request (.snapshotted state.stored)).advance request
        (.executed state.stored (.error failure))).advance request
        (.responded state.stored (.error failure))), ?_, ?_, ?_, rfl⟩
      · simp [requestSteps, Trace.run, step, waiting, outcome]
      · simp
      · intro other differs
        simp [phase_advance_of_ne _ _ differs]
  | ok reached =>
      rcases reached with ⟨response, value⟩
      refine ⟨{ (((state.advance request (.snapshotted state.stored)).advance request
        (.executed state.stored (.ok (response, value)))).advance request
        (.responded state.stored (.ok (response, value)))) with
          stored := value, log := state.log ++ [request] }, ?_, ?_, ?_, rfl⟩
      · simp [requestSteps, Trace.run, step, waiting, outcome, State.advance]
      · exact phase_advance_self _ request _
      · intro other differs
        change (State.advance _ request _).phase other = _
        simp [phase_advance_of_ne _ _ differs]

end Fresh

end SnapshotCell
