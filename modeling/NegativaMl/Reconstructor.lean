import NegativaMl.Locator

/-!
# Rewriting the library copy

`Reconstructor::rewrite` reads the copied library, sets every byte of every
span to `0x01` and writes the bytes back.  A span with `start ≥ end` is an
empty range, and an index past the end of the file panics.  So `rewrite`
returns exactly when every non-empty span ends inside the file, and then
changes exactly the bytes some span covers: the length and every other byte
stay as they were.  Hence the order of the spans does not matter.
-/

namespace NegativaMl

def ElementSpan.Contains (span : ElementSpan) (index : Nat) : Prop :=
  span.start ≤ index ∧ index < span.end

instance (span : ElementSpan) (index : Nat) : Decidable (span.Contains index) :=
  inferInstanceAs (Decidable (_ ∧ _))

/-- `data` with the byte at every index that `mark` selects set to `0x01`. -/
def markBytes (data : List UInt8) (mark : Nat → Bool) : List UInt8 :=
  data.mapIdx fun index byte => if mark index then 1 else byte

section MarkBytes

variable {data : List UInt8} {mark other : Nat → Bool}

@[simp] theorem length_markBytes : (markBytes data mark).length = data.length := by
  simp [markBytes]

theorem getElem?_markBytes (index : Nat) :
    (markBytes data mark)[index]? = data[index]?.map fun byte => if mark index then 1 else byte := by
  simp [markBytes]

theorem markBytes_false : markBytes data (fun _ => false) = data :=
  List.ext_getElem? fun index => by simp [getElem?_markBytes]

theorem markBytes_markBytes :
    markBytes (markBytes data mark) other = markBytes data fun index => mark index || other index :=
  List.ext_getElem? fun index => by
    simp only [getElem?_markBytes, Option.map_map]
    cases mark index <;> cases other index <;> rfl

theorem set_eq_markBytes {index : Nat} (h : index < data.length) :
    data.set index 1 = markBytes data (· == index) :=
  List.ext_getElem? fun k => by
    rw [List.getElem?_set, getElem?_markBytes]
    by_cases hk : index = k
    · subst hk
      simp [h]
    · simp [hk, Ne.symm hk]

end MarkBytes

namespace Reconstructor

/-- `for i in start..end { so_data[i] = 0x01; }`, as the `count = end - start`
steps from `index = start`. -/
def rewriteRange : List UInt8 → Nat → Nat → Option (List UInt8)
  | soData, _, 0 => some soData
  | soData, index, count + 1 =>
    if index < soData.length then rewriteRange (soData.set index 1) (index + 1) count else none

/-- `Reconstructor::rewrite`, on the bytes of the library copy. -/
def rewrite : List UInt8 → List ElementSpan → Option (List UInt8)
  | soData, [] => some soData
  | soData, span :: spans => do
    let soData ← rewriteRange soData span.start (span.end - span.start)
    rewrite soData spans

theorem rewriteRange_eq (soData : List UInt8) (index count : Nat) :
    rewriteRange soData index count =
      if count = 0 ∨ index + count ≤ soData.length then
        some (markBytes soData fun k => decide (index ≤ k ∧ k < index + count))
      else none := by
  induction count generalizing soData index with
  | zero =>
    have hnone : (fun k => decide (index ≤ k ∧ k < index + 0)) = fun _ => false :=
      funext fun k => decide_eq_false (by omega)
    rw [rewriteRange, if_pos (Or.inl rfl), hnone, markBytes_false]
  | succ count ih =>
    by_cases hindex : index < soData.length
    · rw [rewriteRange, if_pos hindex, ih, List.length_set, set_eq_markBytes hindex,
        markBytes_markBytes]
      by_cases hfit : index + (count + 1) ≤ soData.length
      · rw [if_pos (by omega), if_pos (Or.inr hfit)]
        congr 2
        funext k
        rw [Bool.eq_iff_iff]
        simp only [Bool.or_eq_true, beq_iff_eq, decide_eq_true_eq]
        omega
      · rw [if_neg (by omega), if_neg (by omega)]
    · rw [rewriteRange, if_neg hindex, if_neg (by omega)]

/-- `rewrite` returns exactly when every non-empty span ends inside the file,
and then sets exactly the bytes some span covers. -/
theorem rewrite_eq (soData : List UInt8) (spans : List ElementSpan) :
    rewrite soData spans =
      if ∀ span ∈ spans, span.start < span.end → span.end ≤ soData.length then
        some (markBytes soData fun index => spans.any fun span => decide (span.Contains index))
      else none := by
  induction spans generalizing soData with
  | nil => simp [rewrite, markBytes_false]
  | cons span spans ih =>
    simp only [rewrite, rewriteRange_eq, List.forall_mem_cons, Option.bind_eq_bind]
    by_cases hfit : span.start < span.end → span.end ≤ soData.length
    · rw [if_pos (by omega), Option.some_bind, ih, length_markBytes, markBytes_markBytes]
      by_cases hrest : ∀ span ∈ spans, span.start < span.end → span.end ≤ soData.length
      · rw [if_pos hrest, if_pos ⟨hfit, hrest⟩]
        congr 2
        funext k
        simp only [List.any_cons, ElementSpan.Contains]
        congr 1
        exact decide_eq_decide.mpr (by omega)
      · rw [if_neg hrest, if_neg fun h => hrest h.2]
    · rw [if_neg (by omega), if_neg fun h => hfit h.1]
      rfl

/-- The order of the spans does not matter to `rewrite`: it sets the bytes
their union covers, and it panics exactly when one of them overruns the
file. -/
theorem rewrite_perm {soData : List UInt8} {spans spans' : List ElementSpan}
    (h : spans.Perm spans') : rewrite soData spans = rewrite soData spans' := by
  have hany : ∀ f : ElementSpan → Bool, spans.any f = spans'.any f := fun f =>
    Bool.eq_iff_iff.mpr (by simp only [List.any_eq_true, h.mem_iff])
  simp only [rewrite_eq, h.mem_iff, hany]

theorem rewrite_swapped_spans :
    ([⟨2, 3⟩, ⟨0, 1⟩] : List ElementSpan).Perm [⟨0, 1⟩, ⟨2, 3⟩] ∧
      rewrite [7, 7, 7, 7] [⟨2, 3⟩, ⟨0, 1⟩] = rewrite [7, 7, 7, 7] [⟨0, 1⟩, ⟨2, 3⟩] :=
  ⟨List.Perm.swap _ _ _, rewrite_perm (List.Perm.swap _ _ _)⟩

end Reconstructor

end NegativaMl
