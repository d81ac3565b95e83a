import Mathlib.Data.List.Basic
import Mathlib.Data.List.Infix
import Mathlib.Algebra.Group.Nat.Basic
import Mathlib.Algebra.Group.Int

/-!
# Panics, checked arithmetic and bounded loops

The Rust code is modelled as it runs in its debug profile, the profile its
tests run in: an index out of range, an `unwrap` of nothing and an integer sum
past the type's range all panic.  `u64` and `usize` are both 64 bits wide on
the x86-64 hosts the tool targets, so one checked sum serves both.  A panic of
straight-line code is `none`; a loop whose termination is in question runs on
a fuel budget and ends in `Exec`, which keeps a panic apart from a run that
has not finished yet.
-/

namespace NegativaMl

/-- How a run of modelled code with a loop budget ends: it returns, it panics,
or the budget ran out first. -/
inductive Exec (α : Type) where
  | done : α → Exec α
  | panic : Exec α
  | fuelOut : Exec α
  deriving Repr, DecidableEq

namespace Exec

variable {α β : Type}

def bind : Exec α → (α → Exec β) → Exec β
  | done a, f => f a
  | panic, _ => panic
  | fuelOut, _ => fuelOut

instance : Monad Exec where
  pure := done
  bind := bind

/-- Straight-line code inside a loop: its panic is the run's panic. -/
def ofOption : Option α → Exec α
  | some a => done a
  | none => panic

@[simp] theorem done_bind (a : α) (f : α → Exec β) : (done a >>= f) = f a := rfl

@[simp] theorem panic_bind (f : α → Exec β) : (panic >>= f) = panic := rfl

@[simp] theorem fuelOut_bind (f : α → Exec β) : (fuelOut >>= f) = fuelOut := rfl

@[simp] theorem pure_eq (a : α) : (pure a : Exec α) = done a := rfl

@[simp] theorem ofOption_some (a : α) : ofOption (some a) = done a := rfl

@[simp] theorem ofOption_none : ofOption (none : Option α) = panic := rfl

theorem bind_eq_done {x : Exec α} {f : α → Exec β} {b : β} :
    (x >>= f) = done b ↔ ∃ a, x = done a ∧ f a = done b := by
  cases x <;> simp

theorem bind_eq_fuelOut {x : Exec α} {f : α → Exec β} :
    (x >>= f) = fuelOut ↔ x = fuelOut ∨ ∃ a, x = done a ∧ f a = fuelOut := by
  cases x <;> simp

theorem ofOption_eq_done {o : Option α} {a : α} : ofOption o = done a ↔ o = some a := by
  cases o <;> simp

theorem ofOption_ne_fuelOut (o : Option α) : ofOption o ≠ fuelOut := by
  cases o <;> simp

end Exec

/-- `a + b` on `u64` or `usize` with the debug profile's overflow check. -/
def checkedAdd (a b : Nat) : Option Nat :=
  if a + b < 2 ^ 64 then some (a + b) else none

@[simp] theorem checkedAdd_eq_some {a b c : Nat} :
    checkedAdd a b = some c ↔ a + b < 2 ^ 64 ∧ a + b = c := by
  unfold checkedAdd
  by_cases h : a + b < 2 ^ 64
  · rw [if_pos h, Option.some.injEq]
    exact ⟨fun hc => ⟨h, hc⟩, And.right⟩
  · rw [if_neg h]
    exact ⟨nofun, fun hc => absurd hc.1 h⟩

theorem checkedAdd_of_lt {a b : Nat} (h : a + b < 2 ^ 64) : checkedAdd a b = some (a + b) :=
  checkedAdd_eq_some.mpr ⟨h, rfl⟩

/-- A chain of checked sums unfolds to nested overflow tests. -/
theorem checkedAdd_bind {α : Type} (a b : Nat) (f : Nat → Option α) :
    (checkedAdd a b).bind f = if a + b < 2 ^ 64 then f (a + b) else none := by
  unfold checkedAdd; split <;> rfl

/-- `a - b` on `u64` or `usize`, which panics below zero. -/
def checkedSub (a b : Nat) : Option Nat :=
  if b ≤ a then some (a - b) else none

/-- `data[lo..hi]`, which panics unless `lo ≤ hi ≤ data.len()`. -/
def slice {α : Type} (data : List α) (lo hi : Nat) : Option (List α) :=
  if lo ≤ hi ∧ hi ≤ data.length then some ((data.drop lo).take (hi - lo)) else none

/-- `data[lo..]`, which panics unless `lo ≤ data.len()`. -/
def sliceFrom {α : Type} (data : List α) (lo : Nat) : Option (List α) :=
  if lo ≤ data.length then some (data.drop lo) else none

theorem slice_of_le {α : Type} {data : List α} {lo hi : Nat} (hlo : lo ≤ hi)
    (hhi : hi ≤ data.length) : slice data lo hi = some ((data.drop lo).take (hi - lo)) :=
  if_pos ⟨hlo, hhi⟩

theorem slice_of_length_lt {α : Type} {data : List α} {lo hi : Nat} (h : data.length < hi) :
    slice data lo hi = none :=
  if_neg fun hin => absurd hin.2 (Nat.not_le.mpr h)

theorem sliceFrom_of_le {α : Type} {data : List α} {lo : Nat} (h : lo ≤ data.length) :
    sliceFrom data lo = some (data.drop lo) :=
  if_pos h

/-- `x as i64` for a `u64` `x`: the same 64 bits read in two's complement. -/
def asI64 (x : Nat) : Int :=
  if x < 2 ^ 63 then x else x - 2 ^ 64

/-- `x as u64` for an `i64` `x`: the same 64 bits read unsigned. -/
def asU64 (x : Int) : Nat :=
  (x % 2 ^ 64).toNat

/-- `a - b` on `i64` with the debug profile's overflow check. -/
def checkedSubI64 (a b : Int) : Option Int :=
  if -2 ^ 63 ≤ a - b ∧ a - b < 2 ^ 63 then some (a - b) else none

/-- `a + b` on `i64` with the debug profile's overflow check. -/
def checkedAddI64 (a b : Int) : Option Int :=
  if -2 ^ 63 ≤ a + b ∧ a + b < 2 ^ 63 then some (a + b) else none

theorem asI64_of_lt {x : Nat} (h : x < 2 ^ 63) : asI64 x = x :=
  if_pos h

theorem asU64_of_lt {x : Nat} (h : x < 2 ^ 64) : asU64 x = x := by
  rw [asU64, Int.emod_eq_of_lt (Int.ofNat_nonneg x) (by omega), Int.toNat_ofNat]

theorem checkedSubI64_of_lt {a b : Int} (hlo : -2 ^ 63 ≤ a - b) (hhi : a - b < 2 ^ 63) :
    checkedSubI64 a b = some (a - b) :=
  if_pos ⟨hlo, hhi⟩

theorem checkedAddI64_of_lt {a b : Int} (hlo : -2 ^ 63 ≤ a + b) (hhi : a + b < 2 ^ 63) :
    checkedAddI64 a b = some (a + b) :=
  if_pos ⟨hlo, hhi⟩

theorem checkedSub_of_le {a b : Nat} (h : b ≤ a) : checkedSub a b = some (a - b) :=
  if_pos h

/-- `str::contains`: `needle` occurs in `haystack`. -/
def strContains (haystack needle : String) : Bool :=
  decide (needle.toList <:+: haystack.toList)

/-- `uN::from_ne_bytes` on the little-endian host. -/
def fromNeBytes : List UInt8 → Nat
  | [] => 0
  | b :: bs => b.toNat + 256 * fromNeBytes bs

@[simp] theorem fromNeBytes_nil : fromNeBytes [] = 0 := rfl

@[simp] theorem fromNeBytes_cons (b : UInt8) (bs : List UInt8) :
    fromNeBytes (b :: bs) = b.toNat + 256 * fromNeBytes bs := rfl

/-- The low byte of a little-endian number is its first byte. -/
theorem ofNat_fromNeBytes_cons (b : UInt8) (bs : List UInt8) :
    UInt8.ofNat (fromNeBytes (b :: bs)) = b := by
  apply UInt8.toNat.inj
  show (b.toNat + 256 * fromNeBytes bs) % 256 = b.toNat
  have hlt : b.toNat < 256 := b.toNat_lt_size
  omega

/-- Dropping the low byte of a little-endian number is a shift by eight bits. -/
theorem fromNeBytes_cons_div (b : UInt8) (bs : List UInt8) :
    fromNeBytes (b :: bs) / 256 = fromNeBytes bs := by
  have hlt : b.toNat < 256 := b.toNat_lt_size
  rw [fromNeBytes_cons]
  omega

/-- The low `k` bytes of a little-endian number are the number mod `256 ^ k`. -/
theorem fromNeBytes_take : ∀ (k : Nat) (bytes : List UInt8),
    fromNeBytes (bytes.take k) = fromNeBytes bytes % 256 ^ k
  | 0, _ => (Nat.mod_one _).symm
  | _ + 1, [] => by simp
  | k + 1, b :: bytes => by
    have hb : b.toNat < 256 := b.toNat_lt_size
    have hmod := Nat.mod_lt (fromNeBytes bytes) (Nat.pos_pow_of_pos k (by decide : 0 < 256))
    rw [List.take_succ_cons, fromNeBytes_cons, fromNeBytes_cons, fromNeBytes_take k bytes,
      Nat.pow_succ, Nat.mul_comm _ 256]
    conv_rhs => rw [← Nat.mod_add_div (fromNeBytes bytes) (256 ^ k), Nat.mul_add, ← Nat.add_assoc,
      ← Nat.mul_assoc, Nat.add_mul_mod_self_left]
    exact (Nat.mod_eq_of_lt (by omega)).symm

theorem fromNeBytes_eq_zero_iff : ∀ {bytes : List UInt8}, fromNeBytes bytes = 0 ↔ ∀ b ∈ bytes, b = 0
  | [] => by simp
  | b :: bytes => by
    have hb : b = 0 ↔ b.toNat = 0 := ⟨fun h => h ▸ rfl, fun h => UInt8.toNat.inj h⟩
    rw [fromNeBytes_cons, List.forall_mem_cons, ← fromNeBytes_eq_zero_iff, hb]
    omega

/-- `CStr::from_bytes_until_nul`: the bytes before the first NUL, or an error
when there is none. -/
def fromBytesUntilNul (bytes : List UInt8) : Option (List UInt8) :=
  if 0 ∈ bytes then some (bytes.takeWhile (· != 0)) else none

theorem fromBytesUntilNul_eq_some {bytes name : List UInt8}
    (h : fromBytesUntilNul bytes = some name) : 0 ∈ bytes ∧ name = bytes.takeWhile (· != 0) := by
  unfold fromBytesUntilNul at h
  split at h
  · exact ⟨‹_›, (Option.some.inj h).symm⟩
  · cases h

theorem fromBytesUntilNul_append {name rest : List UInt8} (hname : 0 ∉ name) :
    fromBytesUntilNul (name ++ 0 :: rest) = some name := by
  rw [fromBytesUntilNul, if_pos (by simp), List.takeWhile_append_of_pos
    fun a ha => bne_iff_ne.mpr fun (h : a = 0) => hname (h ▸ ha)]
  simp

end NegativaMl
