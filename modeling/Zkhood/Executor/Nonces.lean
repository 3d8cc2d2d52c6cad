import Zkhood.Executor.Transfer

/-!
# No transaction is executed twice

REVM checks a transaction's nonce against the current state: the journal over
the layered database. The overlay carries every sender's nonce from batch to
batch and shadows the base, so a nonce which was used once stays below the
current nonce for good, whatever the bases report.

`NonceDiscipline` and `SendersSurvive` collect what is assumed of REVM, the first
for one EVM, the second for a sequence of batches.
-/

namespace Zkhood

variable {ε : Type}

/-- The transactions of the successful batches of a sequence, each batch on the overlay left by
the last successful one. -/
def executedTxs (runtime : Runtime ε) (overlay : OverlayState) : List (Batch ε) → List TxEnv
  | [] => []
  | batch :: rest =>
      match batchStep runtime overlay batch with
      | some next => batch.txs ++ executedTxs runtime next rest
      | none => executedTxs runtime overlay rest

/-- The nonce of an account in the current state. -/
def currentNonce (revm : Revm ε) (database : DatabaseRef ε) (evm : revm.Evm)
    (address : Address) : U64 :=
  match (revm.finalize evm).get? address with
  | some account => account.info.nonce
  | none =>
      match database.basicRef address with
      | .ok (some info) => info.nonce
      | _ => 0

/-- An account is flagged selfdestructed in the current state. -/
def Revm.Destroyed (revm : Revm ε) (evm : revm.Evm) (address : Address) : Prop :=
  ∃ account, (revm.finalize evm).get? address = some account ∧ account.isSelfdestructed

/-- What REVM does with nonces. -/
structure NonceDiscipline (revm : Revm ε) : Prop where
  /-- A fresh EVM has an empty journal. -/
  fresh : ∀ database chainId address,
    (revm.finalize (revm.build database chainId)).get? address = none
  /-- A transaction only succeeds with the caller's nonce. -/
  matching : ∀ database chainId txs evm tx next, revm.Reaches database chainId txs evm →
    revm.txStep evm tx = some next → tx.nonce = currentNonce revm database evm tx.caller
  /-- It leaves the caller's nonce one higher. -/
  raised : ∀ database chainId txs evm tx next, revm.Reaches database chainId txs evm →
    revm.txStep evm tx = some next →
    (currentNonce revm database next tx.caller).toNat = tx.nonce.toNat + 1
  /-- The callers are present in the finalized state. -/
  present : ∀ database chainId txs evm tx, revm.Reaches database chainId txs evm → tx ∈ txs →
    ∃ account, (revm.finalize evm).get? tx.caller = some account
  /-- No step lowers the nonce of an account which is not destroyed. -/
  monotone : ∀ database chainId txs evm tx next address, revm.Reaches database chainId txs evm →
    revm.txStep evm tx = some next → ¬revm.Destroyed next address →
    (currentNonce revm database evm address).toNat ≤
      (currentNonce revm database next address).toNat

/-- No account which has sent a transaction is flagged selfdestructed later on. -/
def SendersSurvive (runtime : Runtime ε) (senders : List Address) (overlay : OverlayState) :
    List (Batch ε) → Prop
  | [] => True
  | batch :: rest =>
      (∀ front back evm, batch.txs = front ++ back →
        runtime.Reaches (overlay.layerOver batch.base) batch.ctx.chainId front evm →
        ∀ address ∈ senders ++ front.map TxEnv.caller, ¬runtime.Destroyed evm address) ∧
      match batchStep runtime overlay batch with
      | some next => SendersSurvive runtime (senders ++ batch.txs.map TxEnv.caller) next rest
      | none => SendersSurvive runtime senders overlay rest

/-- What a transaction must not share with another one. -/
def TxEnv.replayKey (tx : TxEnv) : Address × U64 := (tx.caller, tx.nonce)

section Batch

variable {revm : Revm ε} {database : DatabaseRef ε} {chainId : U64}

/-- Every listed transaction is below its caller's current nonce, and no two share caller and
nonce. -/
structure Spent (revm : Revm ε) (database : DatabaseRef ε) (evm : revm.Evm)
    (txs : List TxEnv) : Prop where
  nodup : (txs.map TxEnv.replayKey).Nodup
  below : ∀ tx ∈ txs, tx.nonce.toNat < (currentNonce revm database evm tx.caller).toNat

/-- One more transaction is spent, and none of the others becomes executable again. -/
theorem Spent.step (discipline : NonceDiscipline revm) {spent front : List TxEnv} {tx : TxEnv}
    {evm next : revm.Evm} (reaches : revm.Reaches database chainId front evm)
    (stepped : revm.txStep evm tx = some next)
    (survive : ∀ address ∈ (spent ++ [tx]).map TxEnv.caller, ¬revm.Destroyed next address)
    (before : Spent revm database evm spent) : Spent revm database next (spent ++ [tx]) := by
  have matching := discipline.matching database chainId front evm tx next reaches stepped
  have raised := discipline.raised database chainId front evm tx next reaches stepped
  constructor
  · rw [List.map_append, List.nodup_append]
    refine ⟨before.nodup, List.nodup_singleton _, ?_⟩
    intro key key_mem other other_mem same
    rcases List.mem_map.mp key_mem with ⟨earlier, earlier_mem, rfl⟩
    simp only [List.map_cons, List.map_nil, List.mem_singleton] at other_mem
    subst other_mem
    have below := before.below earlier earlier_mem
    simp only [TxEnv.replayKey, Prod.mk.injEq] at same
    rw [same.1, ← matching, same.2] at below
    exact absurd below (Nat.lt_irrefl _)
  · intro other other_mem
    rcases List.mem_append.mp other_mem with earlier | last
    · exact (before.below other earlier).trans_le
        (discipline.monotone database chainId front evm tx next other.caller reaches stepped
          (survive other.caller (List.mem_map_of_mem other_mem)))
    · rw [List.mem_singleton.mp last, raised]
      omega

/-- A batch adds its transactions to the spent ones. -/
theorem Spent.run (discipline : NonceDiscipline revm) {spent txs : List TxEnv}
    {evm : revm.Evm} (reaches : revm.Reaches database chainId txs evm)
    (survive : ∀ front back reached, txs = front ++ back →
      revm.Reaches database chainId front reached →
      ∀ address ∈ spent.map TxEnv.caller ++ front.map TxEnv.caller,
        ¬revm.Destroyed reached address)
    (before : Spent revm database (revm.build database chainId) spent) :
    Spent revm database evm (spent ++ txs) := by
  suffices general : ∀ front final, revm.Reaches database chainId front final →
      (∃ back, txs = front ++ back) → Spent revm database final (spent ++ front) from
    general txs evm reaches ⟨[], by simp⟩
  intro front final executed
  refine Trace.run_induction
    (fun front reached => (∃ back, txs = front ++ back) →
      Spent revm database reached (spent ++ front)) ?_ ?_ executed
  · intro _
    simpa using before
  · rintro front reached tx next reaches_front ih stepped ⟨back, split⟩
    have earlier := ih ⟨tx :: back, by simp [split]⟩
    have reaches_next : revm.Reaches database chainId (front ++ [tx]) next :=
      Trace.run_concat_eq_some_iff.mpr ⟨reached, reaches_front, stepped⟩
    rw [← List.append_assoc]
    refine earlier.step discipline reaches_front stepped ?_
    intro address address_mem
    apply survive (front ++ [tx]) back next split reaches_next address
    simpa [List.map_append, List.append_assoc] using address_mem

end Batch

/-- What the overlay holds about the callers of executed transactions. -/
def Shadowed (overlay : OverlayState) (spent : List TxEnv) : Prop :=
  ∀ tx ∈ spent, ∃ info, (overlay.view tx.caller).info = some info ∧
    (overlay.view tx.caller).destroyed = false ∧ tx.nonce.toNat < info.nonce.toNat

section Run

variable {runtime : Runtime ε}

/-- Over an overlay which shadows them, spent transactions are spent in the next batch too. -/
theorem spent_build (discipline : NonceDiscipline runtime.toRevm) {overlay : OverlayState}
    {spent : List TxEnv} (nodup : (spent.map TxEnv.replayKey).Nodup)
    (shadowed : Shadowed overlay spent) (base : DatabaseRef ε) (chainId : U64) :
    Spent runtime.toRevm (overlay.layerOver base)
      (runtime.build (overlay.layerOver base) chainId) spent := by
  refine ⟨nodup, ?_⟩
  intro tx tx_mem
  rcases shadowed tx tx_mem with ⟨info, written, alive, below⟩
  rw [currentNonce, discipline.fresh, OverlayState.basicRef_layerOver, AddressView.basic, written,
    alive]
  exact below

/-- The merged overlay shadows the nonces of the batch's callers. -/
theorem shadowed_merge {overlay : OverlayState} {spent txs : List TxEnv}
    {base : DatabaseRef ε} {evm : runtime.Evm} {commitment : Hash}
    (shadowed : Shadowed overlay spent)
    (present : ∀ tx ∈ txs, ∃ account, (runtime.finalize evm).get? tx.caller = some account)
    (survive : ∀ tx ∈ spent ++ txs, ¬runtime.Destroyed evm tx.caller)
    (after : Spent runtime.toRevm (overlay.layerOver base) evm (spent ++ txs)) :
    Shadowed ((overlay.applyEvmState (runtime.finalize evm)).setCommitment commitment)
      (spent ++ txs) := by
  intro tx tx_mem
  have below := after.below tx tx_mem
  rw [OverlayState.view_setCommitment, OverlayState.view_applyEvmState]
  cases held : (runtime.finalize evm).get? tx.caller with
  | some account =>
      have alive : ¬account.isSelfdestructed := fun dead =>
        survive tx tx_mem ⟨account, held, dead⟩
      rw [currentNonce, held] at below
      exact ⟨account.info, by simp [Account.mergeView, alive],
        by simp [Account.mergeView, alive], below⟩
  | none =>
      rcases List.mem_append.mp tx_mem with earlier | executed
      · exact shadowed tx earlier
      · rcases present tx executed with ⟨account, found⟩
        rw [held] at found
        cases found

end Run

/-- The general form, after transactions whose nonces the overlay holds. -/
theorem Shadowed.nodup_executedTxs {runtime : Runtime ε}
    (discipline : NonceDiscipline runtime.toRevm) {overlay : OverlayState} {spent : List TxEnv}
    (shadowed : Shadowed overlay spent) (nodup : (spent.map TxEnv.replayKey).Nodup)
    (batches : List (Batch ε))
    (survive : SendersSurvive runtime (spent.map TxEnv.caller) overlay batches) :
    ((spent ++ executedTxs runtime overlay batches).map TxEnv.replayKey).Nodup := by
  induction batches generalizing overlay spent with
  | nil => simpa [executedTxs] using nodup
  | cons batch rest ih =>
      rcases survive with ⟨survive, later⟩
      rw [executedTxs]
      cases stepped : batchStep runtime overlay batch with
      | none =>
          rw [stepped] at later
          exact ih shadowed nodup later
      | some next =>
          rw [stepped] at later
          rcases batchStep_eq_some stepped with ⟨diff, batch_diff, rfl⟩
          rcases batchDiff_eq_some batch_diff with ⟨evm, reaches, rfl⟩
          have after := Spent.run discipline reaches survive
            (spent_build discipline nodup shadowed batch.base batch.ctx.chainId)
          have survivors : ∀ tx ∈ spent ++ batch.txs, ¬runtime.Destroyed evm tx.caller := by
            intro tx tx_mem
            apply survive batch.txs [] evm (by simp) reaches
            rw [← List.map_append]
            exact List.mem_map_of_mem tx_mem
          have present : ∀ tx ∈ batch.txs,
              ∃ account, (runtime.finalize evm).get? tx.caller = some account :=
            fun tx tx_mem => discipline.present _ _ _ evm tx reaches tx_mem
          rw [← List.append_assoc]
          exact ih (shadowed_merge shadowed present survivors after) after.nodup
            (by rw [List.map_append]; exact later)

theorem shadowed_nil (overlay : OverlayState) : Shadowed overlay [] := by
  simp [Shadowed]

/-- In a sequence of batches, no two transactions of successful batches have the same caller and
nonce. -/
theorem nodup_replayKey_executedTxs (runtime : Runtime ε)
    (discipline : NonceDiscipline runtime.toRevm) (overlay : OverlayState)
    (batches : List (Batch ε)) (survive : SendersSurvive runtime [] overlay batches) :
    ((executedTxs runtime overlay batches).map TxEnv.replayKey).Nodup :=
  (shadowed_nil overlay).nodup_executedTxs discipline List.nodup_nil batches survive

section Transfer

theorem currentNonce_transferRevm (evm : TransferEvm) (address : Address) :
    currentNonce transferRevm evm.database evm address = (evm.account address).nonce := by
  rw [currentNonce, TransferEvm.account]
  change (match evm.journal.get? address with
    | some account => account.info.nonce
    | none => _) = _
  cases evm.journal.get? address with
  | some account => rfl
  | none =>
      cases evm.database.basicRef address with
      | error failure => exact failure.elim
      | ok answer => cases answer <;> rfl

theorem nonceDiscipline_transferRevm : NonceDiscipline transferRevm where
  fresh _ _ _ := rfl
  matching := by
    intro database chainId txs (evm : TransferEvm) tx (next : TransferEvm) reaches stepped
    rcases transferRevm_txStep stepped with ⟨target, matching, -, -⟩
    rw [← (transferRevm_reaches reaches).1, currentNonce_transferRevm, matching]
  raised := by
    intro database chainId txs (evm : TransferEvm) tx (next : TransferEvm) reaches stepped
    rcases transferRevm_txStep stepped with ⟨target, matching, limited, rfl⟩
    rw [← (transferRevm_reaches reaches).1, ← TransferEvm.database_transfer evm tx target,
      currentNonce_transferRevm, TransferEvm.nonce_transfer, if_pos rfl, ← matching]
    bv_omega
  present := by
    intro database chainId txs evm tx reaches tx_mem
    exact Option.isSome_iff_exists.mp ((transferRevm_reaches reaches).2.2 tx tx_mem)
  monotone := by
    intro database chainId txs (evm : TransferEvm) tx (next : TransferEvm) address reaches stepped _
    rcases transferRevm_txStep stepped with ⟨target, matching, limited, rfl⟩
    have before := currentNonce_transferRevm evm address
    have after := currentNonce_transferRevm (evm.transfer tx target) address
    rw [TransferEvm.database_transfer, TransferEvm.nonce_transfer] at after
    rw [← (transferRevm_reaches reaches).1, before, after]
    split
    · rename_i same
      rw [← same, ← matching]
      bv_omega
    · exact Nat.le_refl _

theorem sendersSurvive_transferRuntime (keccak256 : Bytes → Hash) (senders : List Address)
    (overlay : OverlayState) (batches : List (Batch Infallible)) :
    SendersSurvive (transferRuntime keccak256) senders overlay batches := by
  induction batches generalizing senders overlay with
  | nil => trivial
  | cons batch rest ih =>
      constructor
      · rintro front back evm - reaches address - ⟨account, held, dead⟩
        exact (transferRevm_reaches reaches).2.1 address account held dead
      · split
        · exact ih _ _
        · exact ih _ _

end Transfer

/-- Four batches over a base which always reports nonce 0; the third repeats a transaction of the
first and fails. -/
def replayBatches : List (Batch Infallible) :=
  let base := (fundedProvider [(0x11, 100)]).databaseRef
  [{ base, ctx := testnetContext,
     txs := [transferTx 0x11 0x22 30 0, transferTx 0x11 0x33 30 1] },
    { base, ctx := testnetContext, txs := [transferTx 0x11 0x22 10 2] },
    { base, ctx := testnetContext, txs := [transferTx 0x11 0x22 30 0] },
    { base, ctx := testnetContext, txs := [transferTx 0x22 0x44 5 0] }]

/-- The replayed transaction is not among the four which were executed. -/
theorem nodup_replayKey_replayBatches :
    (executedTxs (transferRuntime Keccak.hash) OverlayState.new replayBatches).length = 4 ∧
      ((executedTxs (transferRuntime Keccak.hash) OverlayState.new replayBatches).map
        TxEnv.replayKey).Nodup :=
  ⟨by decide +kernel,
    nodup_replayKey_executedTxs (transferRuntime Keccak.hash) nonceDiscipline_transferRevm
      OverlayState.new replayBatches (sendersSurvive_transferRuntime Keccak.hash [] _ _)⟩

end Zkhood
