import Zkhood.Overlay.Invariant
import Zkhood.Overlay.IterationOrder

/-!
# What an overlay stands for

A `Ledger` says what an overlay is for. Every address is untouched, gone, or
held with an account and the slots which were written to it. A ledger cannot
hold an account which is gone, nor slots of an account which it does not hold.

The overlay refines it: the maps of every reachable overlay are those of one
ledger, merges are done entry by entry, and reads are answered by the entries.
Conversely the reads determine the ledger, and the ledger the maps. So an
overlay hides nothing: two reachable overlays with one commitment which no batch
tells apart are equal.
-/

namespace Zkhood

/-- What is shown above every answer is the same only if it is the same. -/
theorem eq_of_elim_ok {α : Type} {left right : Option α} {first second : α}
    (differ : first ≠ second)
    (same : ∀ answer : Except Infallible α, left.elim answer .ok = right.elim answer .ok) :
    left = right := by
  have shown := same (.ok first)
  have shown' := same (.ok second)
  cases left with
  | none =>
      cases right with
      | none => rfl
      | some value => exact absurd (Except.ok.inj (shown.trans shown'.symm)) differ
  | some value =>
      cases right with
      | none => exact absurd (Except.ok.inj (shown.symm.trans shown')) differ
      | some value' => rw [Except.ok.inj shown]

/-- What the rollup holds of an address. -/
inductive LedgerEntry where
  | untouched
  | gone
  | held (info : AccountInfo) (slots : U256 → Option U256)

namespace LedgerEntry

/-- The slots which an entry holds. -/
def slots : LedgerEntry → U256 → Option U256
  | held _ slots => slots
  | untouched | gone => fun _ => none

/-- An account which a batch reports replaces the entry, except for the slots it leaves alone. -/
def merge (entry : LedgerEntry) (account : Account) : LedgerEntry :=
  if account.isSelfdestructed then gone
  else held account.info fun slot => (account.present? slot).or (entry.slots slot)

/-- The views which are possible for an address. -/
def view : LedgerEntry → AddressView
  | untouched => AddressView.untouched
  | gone => { info := none, slots := fun _ => none, destroyed := true }
  | held info slots => { info := some info, slots, destroyed := false }

theorem view_merge (entry : LedgerEntry) (account : Account) :
    (entry.merge account).view = account.mergeView entry.view := by
  by_cases dead : account.isSelfdestructed
  · simp [merge, Account.mergeView, dead, view]
  · cases entry <;> simp [merge, Account.mergeView, dead, view, slots, AddressView.untouched]

variable {ε : Type}

/-- The account which an entry shows above a base answer. -/
def basic (entry : LedgerEntry) (answer : Except ε (Option AccountInfo)) :
    Except ε (Option AccountInfo) :=
  match entry with
  | untouched => answer
  | gone => .ok none
  | held info _ => .ok (some info)

/-- The slot which an entry shows above a base answer. -/
def slot (entry : LedgerEntry) (index : U256) (answer : Except ε U256) : Except ε U256 :=
  match entry with
  | untouched => answer
  | gone => .ok 0
  | held _ slots => (slots index).elim answer .ok

theorem basic_view (entry : LedgerEntry) (answer : Except ε (Option AccountInfo)) :
    entry.view.basic answer = entry.basic answer := by
  cases entry <;> rfl

theorem slot_view (entry : LedgerEntry) (index : U256) (answer : Except ε U256) :
    entry.view.slot index answer = entry.slot index answer := by
  cases entry with
  | untouched => rfl
  | gone => rfl
  | held info slots =>
      simp only [view, AddressView.slot, slot]
      cases slots index <;> rfl

/-- Two entries which answer alike over every base are equal. -/
theorem eq_of_reads {left right : LedgerEntry}
    (basic : ∀ answer : Except Infallible (Option AccountInfo),
      left.basic answer = right.basic answer)
    (slot : ∀ index, ∀ answer : Except Infallible U256,
      left.slot index answer = right.slot index answer) : left = right := by
  have absent := basic (.ok none)
  have present := basic (.ok (some AccountInfo.default))
  cases left with
  | untouched =>
      cases right with
      | untouched => rfl
      | gone => cases present
      | held info slots => cases absent
  | gone =>
      cases right with
      | untouched => cases present
      | gone => rfl
      | held info slots => cases absent
  | held info slots =>
      cases right with
      | untouched => cases absent
      | gone => cases absent
      | held info' slots' =>
          cases absent
          congr 1
          funext index
          exact eq_of_elim_ok (by decide : (0 : U256) ≠ 1) (slot index)

end LedgerEntry

/-- The code map after some writes. -/
def recordCode (code : B256 → Option Bytecode) (writes : List (B256 × Bytecode)) :
    B256 → Option Bytecode :=
  writes.foldl (fun code write => Function.update code write.1 (some write.2)) code

theorem getElem?_insertMany_eq_recordCode (code : HashMap B256 Bytecode)
    (writes : List (B256 × Bytecode)) :
    (fun codeHash => (code.insertMany writes)[codeHash]?) =
      recordCode (fun codeHash => code[codeHash]?) writes := by
  induction writes generalizing code with
  | nil => rfl
  | cons write rest ih =>
      rw [Std.ExtTreeMap.insertMany_cons, ih, recordCode, recordCode, List.foldl_cons]
      congr 1
      funext codeHash
      rw [Std.ExtTreeMap.getElem?_insert, Function.update_apply]
      by_cases same : codeHash = write.1
      · rw [if_pos same, if_pos (by simpa using same.symm)]
      · rw [if_neg same, if_neg (by simpa using Ne.symm same)]

/-- The rollup's private state. -/
@[ext]
structure Ledger where
  entry : Address → LedgerEntry
  code : B256 → Option Bytecode
  commitment : Hash

namespace Ledger

/-- The ledger in which no address has an entry. -/
def new : Ledger := ⟨fun _ => .untouched, fun _ => none, 0⟩

/-- Every account of a state replaces the entry of its address. -/
def applyEvmState (self : Ledger) (state : EvmState) : Ledger :=
  { self with
    entry := fun address =>
      (state.get? address).elim (self.entry address) (self.entry address).merge
    code := recordCode self.code (codeWrites [state]) }

/-- What a call does to the ledger. -/
def call (self : Ledger) : OverlayCall → Ledger
  | .applyEvmState state => self.applyEvmState state
  | .setCommitment commitment => { self with commitment }

/-- What a sequence of calls does to the ledger. -/
def calls (self : Ledger) (calls : List OverlayCall) : Ledger :=
  calls.foldl call self

/-- The answers of the ledger where it has them, and else the base's. -/
def layerOver {ε : Type} (self : Ledger) (base : DatabaseRef ε) : DatabaseRef ε where
  basicRef address := (self.entry address).basic (base.basicRef address)
  codeByHashRef codeHash := (self.code codeHash).elim (base.codeByHashRef codeHash) .ok
  storageRef address index := (self.entry address).slot index (base.storageRef address index)
  blockHashRef number := base.blockHashRef number

end Ledger

/-- The maps of an overlay are those of a ledger. -/
structure OverlayState.Represents (overlay : OverlayState) (ledger : Ledger) : Prop where
  view : ∀ address, overlay.view address = (ledger.entry address).view
  code : (fun codeHash => overlay.code[codeHash]?) = ledger.code
  commitment : overlay.commitment = ledger.commitment

namespace OverlayState.Represents

variable {overlay other : OverlayState} {ledger ledger' : Ledger}

/-- Every call keeps the representation. -/
theorem call (represents : overlay.Represents ledger) (call : OverlayCall) :
    (overlay.call call).Represents (ledger.call call) := by
  cases call with
  | setCommitment commitment => exact ⟨represents.view, represents.code, rfl⟩
  | applyEvmState state =>
      refine ⟨?_, ?_, (overlay.commitment_applyEvmState state).trans represents.commitment⟩
      · intro address
        change (overlay.applyEvmState state).view address = _
        rw [view_applyEvmState, represents.view]
        simp only [Ledger.call, Ledger.applyEvmState]
        cases state.get? address with
        | none => rfl
        | some account => exact (LedgerEntry.view_merge _ account).symm
      · change (fun codeHash => (overlay.applyEvmState state).code[codeHash]?) = _
        simp only [code_applyEvmState]
        rw [getElem?_insertMany_eq_recordCode, represents.code]
        rfl

theorem calls (represents : overlay.Represents ledger) (calls : List OverlayCall) :
    (overlay.calls calls).Represents (ledger.calls calls) := by
  induction calls generalizing overlay ledger with
  | nil => exact represents
  | cons call rest ih => exact ih (represents.call call)

theorem new : OverlayState.new.Represents Ledger.new where
  view address := OverlayState.view_new address
  code := by
    funext codeHash
    simp [OverlayState.new, Ledger.new]
  commitment := rfl

/-- An overlay answers as the ledger which it represents. -/
theorem layerOver_eq {ε : Type} (represents : overlay.Represents ledger) (base : DatabaseRef ε) :
    overlay.layerOver base = ledger.layerOver base := by
  ext1
  · funext address
    rw [basicRef_layerOver, represents.view, LedgerEntry.basic_view]
    rfl
  · funext codeHash
    rw [codeByHashRef_layerOver, congrFun represents.code codeHash]
    rfl
  · funext address index
    rw [storageRef_layerOver, represents.view, LedgerEntry.slot_view]
    rfl
  · rfl

/-- A ledger has one representation. -/
theorem eq (represents : overlay.Represents ledger) (represents' : other.Represents ledger) :
    overlay = other := by
  have rollup : SameRollupState overlay other :=
    sameRollupState_iff.mpr fun address =>
      (represents.view address).trans (represents'.view address).symm
  have code : overlay.code = other.code := by
    apply Std.ExtTreeMap.ext_getElem?
    exact fun codeHash => congrFun (represents.code.trans represents'.code.symm) codeHash
  exact OverlayState.ext rollup.accounts rollup.storage code rollup.destroyed
    (represents.commitment.trans represents'.commitment.symm)

/-- The reads of an overlay determine its ledger. -/
theorem ledger_eq (represents : overlay.Represents ledger) (represents' : other.Represents ledger')
    (same : overlay.ReadsSame other) (commitment : overlay.commitment = other.commitment) :
    ledger = ledger' := by
  have answers (base : DatabaseRef Infallible) :
      ledger.layerOver base = ledger'.layerOver base := by
    rw [← represents.layerOver_eq, ← represents'.layerOver_eq]
    exact same Infallible base
  have base (info : Except Infallible (Option AccountInfo)) (code : Except Infallible Bytecode)
      (value : Except Infallible U256) :=
    answers ⟨fun _ => info, fun _ => code, fun _ _ => value, fun _ => .ok 0⟩
  ext1
  · funext address
    apply LedgerEntry.eq_of_reads
    · intro answer
      exact congrFun (congrArg DatabaseRef.basicRef
        (base answer (.ok Bytecode.default) (.ok 0))) address
    · intro index answer
      exact congrFun (congrFun (congrArg DatabaseRef.storageRef
        (base (.ok none) (.ok Bytecode.default) answer)) address) index
  · funext codeHash
    apply eq_of_elim_ok (by decide : Bytecode.default ≠ ⟨[0]⟩)
    intro answer
    exact congrFun (congrArg DatabaseRef.codeByHashRef (base (.ok none) answer (.ok 0))) codeHash
  · exact represents.commitment.symm.trans (commitment.trans represents'.commitment)

end OverlayState.Represents

/-- The overlay refines the ledger, and neither hides anything from the batches: after any calls
the overlay reads as the ledger after the same calls, and two overlays are equal exactly if their
ledgers are, which is so exactly if they have one commitment and read the same over every base. -/
theorem overlay_refines_ledger (left right : List OverlayCall) :
    let overlay := OverlayState.new.calls left
    let other := OverlayState.new.calls right
    let ledger := Ledger.new.calls left
    let ledger' := Ledger.new.calls right
    (∀ (ε : Type) (base : DatabaseRef ε), overlay.layerOver base = ledger.layerOver base) ∧
    overlay.commitment = ledger.commitment ∧
    (overlay = other ↔ ledger = ledger') ∧
    (overlay = other ↔ overlay.ReadsSame other ∧ overlay.commitment = other.commitment) := by
  intro overlay other ledger ledger'
  have represents : overlay.Represents ledger := OverlayState.Represents.new.calls left
  have represents' : other.Represents ledger' := OverlayState.Represents.new.calls right
  refine ⟨fun ε base => represents.layerOver_eq base, represents.commitment, ?_, ?_⟩
  · constructor
    · intro same
      rw [← same] at represents'
      exact represents.ledger_eq represents' (fun _ _ => rfl) rfl
    · intro same
      exact represents.eq (same ▸ represents')
  · constructor
    · intro same
      rw [← same]
      exact ⟨fun _ _ => rfl, rfl⟩
    · rintro ⟨reads, commitment⟩
      exact represents.eq (represents.ledger_eq represents' reads commitment ▸ represents')

end Zkhood
