import Mathlib.Data.Nat.Digits.Defs
import Mathlib.Data.List.Basic
import Mathlib.Tactic.Common

/-! UUIDs and their canonical text. The adapter keys its buffers by the text of
a session id, so its sessions are apart only because that text is injective. -/
namespace CapillaryActions.Python

instance neZero_two_pow_128 : NeZero (2 ^ 128) := ⟨by decide⟩

/-- A 128-bit identifier. Versions and variants are not looked at. -/
structure UUID where
  int : Fin (2 ^ 128)
  deriving DecidableEq, Repr

/-- The last `width` hexadecimal digits of a number, most significant first. -/
def hexDigits : Nat → Nat → List Char
  | 0, _ => []
  | width + 1, n => hexDigits width (n / 16) ++ [Nat.digitChar (n % 16)]

@[simp] theorem hexDigits_length (width n : Nat) : (hexDigits width n).length = width := by
  induction width generalizing n with
  | zero => rfl
  | succ width ih => simp [hexDigits, ih]

theorem digitChar_inj {m n : Nat} (hm : m < 16) (hn : n < 16)
    (h : Nat.digitChar m = Nat.digitChar n) : m = n := by
  have hAll : ∀ a b : Fin 16, Nat.digitChar a = Nat.digitChar b → a = b := by decide
  exact congrArg Fin.val (hAll ⟨m, hm⟩ ⟨n, hn⟩ h)

theorem digitChar_ne_dash {n : Nat} (hn : n < 16) : Nat.digitChar n ≠ '-' := by
  have hAll : ∀ a : Fin 16, Nat.digitChar a ≠ '-' := by decide
  exact hAll ⟨n, hn⟩

/-- Numbers below `16 ^ width` are determined by their digits. -/
theorem hexDigits_inj {width m n : Nat} (hm : m < 16 ^ width) (hn : n < 16 ^ width)
    (h : hexDigits width m = hexDigits width n) : m = n := by
  induction width generalizing m n with
  | zero => simp at hm hn; omega
  | succ width ih =>
      have hInit := List.append_inj_left' h rfl
      have hLast := List.append_inj_right' h rfl
      simp only [List.cons.injEq, and_true] at hLast
      have hDiv := ih (by rw [pow_succ] at hm; omega) (by rw [pow_succ] at hn; omega) hInit
      have hMod := digitChar_inj (Nat.mod_lt m (by omega)) (Nat.mod_lt n (by omega)) hLast
      omega

theorem dash_not_mem_hexDigits (width n : Nat) : '-' ∉ hexDigits width n := by
  induction width generalizing n with
  | zero => simp [hexDigits]
  | succ width ih =>
      simp only [hexDigits, List.mem_append, List.mem_singleton, not_or]
      exact ⟨ih _, (digitChar_ne_dash (Nat.mod_lt n (by omega))).symm⟩

/-- All 32 digits, without separators. -/
def UUID.hex (id : UUID) : List Char := hexDigits 32 id.int

/-- `str(id)`: the digits in groups of 8, 4, 4, 4 and 12. -/
def UUID.str (id : UUID) : String :=
  String.ofList (id.hex.take 8 ++ '-' :: (id.hex.drop 8).take 4 ++ '-' :: (id.hex.drop 12).take 4 ++
    '-' :: (id.hex.drop 16).take 4 ++ '-' :: id.hex.drop 20)

example : (UUID.mk 0x12345678123456781234567812345678).str =
    "12345678-1234-5678-1234-567812345678" := by decide

/-- Dropping the dashes recovers the digits. -/
theorem UUID.filter_str (id : UUID) : id.str.toList.filter (· ≠ '-') = id.hex := by
  have hKeep : ∀ digits : List Char, (∀ c ∈ digits, c ∈ id.hex) →
      digits.filter (· ≠ '-') = digits := by
    intro digits hDigits
    rw [List.filter_eq_self]
    intro c hMem
    have hNe : c ≠ '-' := by
      rintro rfl
      exact dash_not_mem_hexDigits _ _ (hDigits _ hMem)
    simpa using hNe
  have hTake : ∀ start count, ((id.hex.drop start).take count).filter (· ≠ '-') =
      (id.hex.drop start).take count := fun start count =>
    hKeep _ fun c hMem => List.mem_of_mem_drop (List.mem_of_mem_take hMem)
  have hFirst := hTake 0 8
  have hLast := hKeep (id.hex.drop 20) fun c hMem => List.mem_of_mem_drop hMem
  rw [List.drop_zero] at hFirst
  rw [UUID.str, String.toList_ofList]
  simp only [List.filter_append, List.filter_cons, hFirst, hTake, hLast]
  simp only [ne_eq, not_true_eq_false, decide_false, Bool.false_eq_true, if_false]
  conv_rhs => rw [← List.take_append_drop 8 id.hex, ← List.take_append_drop 4 (id.hex.drop 8),
    List.drop_drop, ← List.take_append_drop 4 (id.hex.drop (8 + 4)), List.drop_drop,
    ← List.take_append_drop 4 (id.hex.drop (8 + 4 + 4)), List.drop_drop]
  simp

theorem UUID.str_injective : Function.Injective UUID.str := by
  intro first second h
  have hHex : first.hex = second.hex := by rw [← first.filter_str, ← second.filter_str, h]
  have hLt : ∀ id : UUID, id.int.val < 16 ^ 32 := fun id => by
    have := id.int.isLt
    omega
  have hInt := hexDigits_inj (hLt first) (hLt second) hHex
  cases first
  cases second
  exact congrArg UUID.mk (Fin.ext hInt)

@[simp] theorem UUID.str_inj {first second : UUID} : first.str = second.str ↔ first = second :=
  UUID.str_injective.eq_iff

end CapillaryActions.Python
