import Zkhood.Data.Records
import Zkhood.Executor

/-!
# The rendering of a transaction

An instance of the `txDebug` parameter for concrete batches: the derived `Debug`
rendering of a transaction, with what the model keeps in `rest` at its defaults
and `rest` itself behind it. Commas separate the fields and occur in none of
them, so the rendering is injective.
-/

namespace Zkhood

/-- The `Debug` rendering of a transaction's target. -/
def TxKind.debug : TxKind → String
  | create => "Create"
  | call target => "Call(0x" ++ hexString (target.toBeBytes 20) ++ ")"

/-- The `Debug` rendering of an optional chain id. -/
def debugChainId : Option U64 → String
  | none => "None"
  | some chainId => "Some(" ++ toString chainId.toNat ++ ")"

namespace TxEnv

/-- The pieces of the rendering between its commas. -/
def debugFields (tx : TxEnv) : List String :=
  ["TxEnv \x7b tx_type: 0",
    " caller: 0x" ++ hexString (tx.caller.toBeBytes 20),
    " gas_limit: " ++ toString tx.gasLimit.toNat,
    " gas_price: " ++ toString tx.gasPrice.toNat,
    " kind: " ++ tx.kind.debug,
    " value: " ++ toString tx.value.toNat,
    " data: 0x" ++ hexString tx.data,
    " nonce: " ++ toString tx.nonce.toNat,
    " chain_id: " ++ debugChainId tx.chainId,
    " access_list: AccessList([])",
    " gas_priority_fee: None",
    " blob_hashes: []",
    " max_fee_per_blob_gas: 0",
    " authorization_list: [] \x7d" ++ hexString tx.rest]

/-- The rendering, as the commitment's `format!` writes it. -/
def debug (tx : TxEnv) : String := ",".intercalate tx.debugFields

/-- The bytes of the rendering. -/
def debugBytes (tx : TxEnv) : Bytes := tx.debug.toUTF8.data.toList

end TxEnv

theorem digitChar_inj : ∀ left < 16, ∀ right < 16,
    Nat.digitChar left = Nat.digitChar right → left = right := by
  decide

/-- Two digits a byte determine the bytes. -/
theorem hexString_injective : Function.Injective hexString := by
  intro left right same
  refine Records.flatMap_injective (by decide : 0 < 2) (fun _ => rfl) ?_
    (String.ofList_injective same)
  intro left right digits
  rw [hexDigits, hexDigits, List.cons.injEq, List.cons.injEq] at digits
  have left_lt := left.toNat_lt
  have right_lt := right.toNat_lt
  have high := digitChar_inj _ (by omega) _ (by omega) digits.1
  have low := digitChar_inj _ (by omega) _ (by omega) digits.2.1
  apply UInt8.toNat_inj.mp
  omega

theorem comma_notMem_hexString (bytes : Bytes) : ',' ∉ (hexString bytes).toList := by
  have digits : ∀ digit < 16, Nat.digitChar digit ≠ ',' := by decide
  rw [hexString, String.toList_ofList]
  intro comma_mem
  rcases List.mem_flatMap.mp comma_mem with ⟨byte, -, digit_mem⟩
  have byte_lt := byte.toNat_lt
  simp only [hexDigits, List.mem_cons, List.not_mem_nil, or_false] at digit_mem
  rcases digit_mem with high | low
  · exact digits _ (by omega) high.symm
  · exact digits _ (by omega) low.symm

theorem toString_injective : Function.Injective fun value : ℕ => toString value := by
  intro left right same
  simp only [Nat.toString_eq_ofList_toDigits] at same
  rw [← Nat.ofDigitChars_ten_toDigits (n := left), String.ofList_injective same,
    Nat.ofDigitChars_ten_toDigits]

theorem comma_notMem_toDigits (value : ℕ) : ',' ∉ Nat.toDigits 10 value := by
  intro comma_mem
  exact absurd (Nat.isDigit_of_mem_toDigits (by decide) (by decide) comma_mem) (by decide)

theorem TxKind.debug_injective : Function.Injective TxKind.debug := by
  intro left right same
  cases left with
  | create =>
      cases right with
      | create => rfl
      | call target =>
          have letters := congrArg String.toList same
          simp [TxKind.debug] at letters
  | call target =>
      cases right with
      | create =>
          have letters := congrArg String.toList same
          simp [TxKind.debug] at letters
      | call other =>
          rw [TxKind.debug, TxKind.debug, String.append_left_inj, String.append_right_inj] at same
          rw [BitVec.toBeBytes_inj (by norm_num) (hexString_injective same)]

theorem TxKind.comma_notMem_debug (kind : TxKind) : ',' ∉ kind.debug.toList := by
  cases kind with
  | create => simp [TxKind.debug]
  | call target => simp [TxKind.debug, comma_notMem_hexString]

theorem debugChainId_injective : Function.Injective debugChainId := by
  intro left right same
  cases left with
  | none =>
      cases right with
      | none => rfl
      | some chainId =>
          have letters := congrArg String.toList same
          simp [debugChainId] at letters
  | some chainId =>
      cases right with
      | none =>
          have letters := congrArg String.toList same
          simp [debugChainId] at letters
      | some other =>
          rw [debugChainId, debugChainId, String.append_left_inj, String.append_right_inj] at same
          rw [BitVec.eq_of_toNat_eq (toString_injective same)]

theorem comma_notMem_debugChainId (chainId : Option U64) : ',' ∉ (debugChainId chainId).toList := by
  cases chainId with
  | none => simp [debugChainId]
  | some chainId => simp [debugChainId, comma_notMem_toDigits]

namespace TxEnv

theorem comma_notMem_debugFields (tx : TxEnv) :
    ∀ field ∈ tx.debugFields.map String.toList, ',' ∉ field := by
  simp [debugFields, comma_notMem_hexString, comma_notMem_toDigits, TxKind.comma_notMem_debug,
    comma_notMem_debugChainId]

theorem debugFields_injective : Function.Injective debugFields := by
  rintro ⟨caller, kind, value, gasLimit, gasPrice, chainId, nonce, data, rest⟩
    ⟨caller', kind', value', gasLimit', gasPrice', chainId', nonce', data', rest'⟩ same
  simp only [debugFields, List.cons.injEq, String.append_right_inj, hexString_injective.eq_iff,
    toString_injective.eq_iff, TxKind.debug_injective.eq_iff, debugChainId_injective.eq_iff,
    BitVec.toNat_inj, true_and, and_true] at same
  rcases same with ⟨callers, rfl, rfl, rfl, rfl, rfl, rfl, rfl, rfl⟩
  rw [BitVec.toBeBytes_inj (by norm_num) callers]

/-- The rendering determines the transaction. -/
theorem debug_injective : Function.Injective debug := by
  intro left right same
  have split : ∀ tx : TxEnv, tx.debug.toList.splitOn ',' = tx.debugFields.map String.toList := by
    intro tx
    rw [debug, String.toList_intercalate]
    exact List.splitOn_intercalate ',' tx.comma_notMem_debugFields (List.cons_ne_nil _ _)
  have fields := split left
  rw [same, split right] at fields
  have mapped := List.map_injective_iff.mpr fun _ _ => String.toList_injective
  exact debugFields_injective (mapped fields.symm)

theorem debugBytes_injective : Function.Injective debugBytes := by
  intro left right same
  have arrays := Array.toList_inj.mp same
  exact debug_injective (String.toByteArray_inj.mp (ByteArray.ext arrays))

end TxEnv

end Zkhood
