import NegativaMl.Locator
import Mathlib.Order.Bounds.Defs

/-!
# Which spans the locator marks deletable

The deletion rule of `locate_deletable_file_spans`, stated once over the
locator's tables: in each region, every element whose capability is not the
best fit for the target is deletable, and so is every best-fit cubin that holds
no used kernel, unless the library is a `libcublas` and the cubin holds the
internal-constants symbol.  A best-fit element that is not a cubin is always
kept.  The loop computes exactly this selection, in region and element order,
on every locator; `KernelLocator.new` builds every locator's kernel table by
handing out the extracted cubin files in order, one per cubin element.
-/

namespace NegativaMl

/-- `max ({c | c ≤ target} ∪ {0})` over the capabilities of a region's elements. -/
def Region.bestCapability (region : Region) (targetCap : Nat) : Nat :=
  ((region.elements.map fun element => element.header.capability).filter
    (· ≤ targetCap)).foldl max 0

theorem Region.findMostFitCapability_eq_bestCapability (region : Region) (targetCap : Nat) :
    region.findMostFitCapability targetCap = region.bestCapability targetCap := by
  suffices h : ∀ (elements : List Element) (start : Nat),
      elements.foldl (fun mostFitCap e =>
        if e.header.capability ≤ targetCap ∧ e.header.capability > mostFitCap then
          e.header.capability
        else mostFitCap) start =
      ((elements.map fun element => element.header.capability).filter
        (· ≤ targetCap)).foldl max start from h region.elements 0
  intro elements
  induction elements with
  | nil => simp
  | cons element elements ih =>
    intro start
    by_cases hle : element.header.capability ≤ targetCap
    · rw [List.foldl_cons, List.map_cons, List.filter_cons_of_pos (by simpa using hle),
        List.foldl_cons, ih]
      congr 1
      split_ifs <;> omega
    · simp [hle, ih]

/-- `find_most_fit_capability` picks the greatest of 0 and the capabilities of
the region's elements that do not exceed the target. -/
theorem Region.findMostFitCapability_isGreatest (region : Region) (targetCap : Nat) :
    IsGreatest (insert 0 {c | ∃ element ∈ region.elements,
        element.header.capability = c ∧ c ≤ targetCap})
      (region.findMostFitCapability targetCap) := by
  have hmax : (0 :: (region.elements.map fun element => element.header.capability).filter
      (· ≤ targetCap)).max? = some (region.bestCapability targetCap) := rfl
  obtain ⟨hmem, hle⟩ := List.max?_eq_some_iff'.mp hmax
  rw [findMostFitCapability_eq_bestCapability]
  refine ⟨?_, ?_⟩
  · refine (List.mem_cons.mp hmem).imp id fun hfit => ?_
    obtain ⟨hcap, hfits⟩ := List.mem_filter.mp hfit
    obtain ⟨element, helement, hcap⟩ := List.mem_map.mp hcap
    exact ⟨element, helement, hcap, of_decide_eq_true hfits⟩
  · rintro c (rfl | ⟨element, helement, rfl, hc⟩)
    · exact hle 0 (List.mem_cons_self _ _)
    · exact hle _ (List.mem_cons_of_mem _
        (List.mem_filter.mpr ⟨List.mem_map_of_mem _ helement, decide_eq_true hc⟩))

/-- The rule as the specification states it, for an element with kernel set
`kernels` in a region whose best-fit capability is `best`. -/
def SelectedForDeletion (soPath : String) (usedKernels : Finset String) (best : Nat)
    (element : Element) (kernels : Finset String) : Prop :=
  element.header.capability ≠ best ∨
    (element.header.capability = best ∧ element.header.fileType = 2 ∧
      Disjoint usedKernels kernels ∧
      ¬ (strContains soPath "libcublas" = true ∧ cublasInternalConstant ∈ kernels))

instance (soPath : String) (usedKernels : Finset String) (best : Nat) (element : Element)
    (kernels : Finset String) :
    Decidable (SelectedForDeletion soPath usedKernels best element kernels) :=
  inferInstanceAs (Decidable (_ ∨ _))

namespace KernelLocator

/-- The spans of the rows (element, span, kernels) that the rule selects, in
row order. -/
def selectRows (soPath : String) (usedKernels : Finset String) (best : Nat)
    (rows : List (Element × ElementSpan × Finset String)) : List ElementSpan :=
  (rows.filter fun (element, _, kernels) =>
    decide (SelectedForDeletion soPath usedKernels best element kernels)).map fun (_, span, _) => span

/-- The spans the rule selects, region by region and element by element. -/
def selectedSpans (locator : KernelLocator) (usedKernels : Finset String) (targetCap : Nat) :
    List ElementSpan :=
  (locator.gpuCode.regions.zip (locator.elementSpan.zip locator.elementKernels)).flatMap
    fun (region, spans, kernels) =>
      selectRows locator.soPath usedKernels (region.bestCapability targetCap)
        (region.elements.zip (spans.zip kernels))

theorem deletableSpans_eq {locator : KernelLocator} {usedKernels : Finset String}
    {best i j : Nat} {element : Element} {span : ElementSpan} {kernels : Finset String}
    (hspan : locator.getElementSpan i j = some span)
    (hkernels : locator.getElementKernels i j = some kernels) :
    locator.deletableSpans usedKernels best i j element =
      some (if SelectedForDeletion locator.soPath usedKernels best element kernels then [span]
        else []) := by
  unfold deletableSpans SelectedForDeletion
  by_cases hcap : element.header.capability = best
  · by_cases hcubin : element.header.fileType = 2
    · by_cases hdisjoint : Disjoint usedKernels kernels
      · by_cases hkeep : strContains locator.soPath "libcublas" = true ∧
            cublasInternalConstant ∈ kernels <;>
          simp [hcap, hcubin, hkernels, hspan, hdisjoint, hkeep]
      · simp [hcap, hcubin, hkernels, hdisjoint]
    · simp [hcap, hcubin]
  · simp [hcap, hspan]

theorem mem_selectRows {soPath : String} {usedKernels : Finset String} {best : Nat}
    {rows : List (Element × ElementSpan × Finset String)} {span : ElementSpan} :
    span ∈ selectRows soPath usedKernels best rows ↔
      ∃ (j : Nat) (element : Element) (kernels : Finset String),
        rows[j]? = some (element, span, kernels) ∧
        SelectedForDeletion soPath usedKernels best element kernels := by
  simp only [selectRows, List.mem_map, List.mem_filter, decide_eq_true_eq]
  constructor
  · rintro ⟨⟨element, _, kernels⟩, ⟨hmem, hselected⟩, rfl⟩
    obtain ⟨j, hj⟩ := List.mem_iff_getElem?.mp hmem
    exact ⟨j, element, kernels, hj, hselected⟩
  · rintro ⟨j, element, kernels, hj, hselected⟩
    exact ⟨(element, span, kernels), ⟨List.mem_iff_getElem?.mpr ⟨j, hj⟩, hselected⟩, rfl⟩

/-- A span is selected exactly when it is the span of an element that the rule
selects with the element's own kernel set. -/
theorem mem_selectedSpans {locator : KernelLocator} {usedKernels : Finset String}
    {targetCap : Nat} {span : ElementSpan} :
    span ∈ locator.selectedSpans usedKernels targetCap ↔
      ∃ i j region element kernels, locator.gpuCode.regions[i]? = some region ∧
        region.elements[j]? = some element ∧ locator.getElementSpan i j = some span ∧
        locator.getElementKernels i j = some kernels ∧
        SelectedForDeletion locator.soPath usedKernels (region.bestCapability targetCap) element
          kernels := by
  simp only [selectedSpans, List.mem_flatMap, mem_selectRows]
  constructor
  · rintro ⟨⟨region, spans, kernels⟩, hmem, j, element, kernelSet, hrow, hselected⟩
    obtain ⟨i, hi⟩ := List.mem_iff_getElem?.mp hmem
    simp only [List.getElem?_zip_eq_some] at hi hrow
    obtain ⟨hregion, hspans, hkernels⟩ := hi
    obtain ⟨helement, hspan, hkernelSet⟩ := hrow
    have hj := (List.getElem?_eq_some_iff.mp helement).1
    refine ⟨i, j, region, element, kernelSet, hregion, helement, ?_, ?_, hselected⟩
    · rw [getElementSpan, lookup_of_lt hregion hj, hspans, Option.some_bind, hspan]
    · rw [getElementKernels, lookup_of_lt hregion hj, hkernels, Option.some_bind, hkernelSet]
  · rintro ⟨i, j, region, element, kernelSet, hregion, helement, hspan, hkernelSet, hselected⟩
    have hj := (List.getElem?_eq_some_iff.mp helement).1
    obtain ⟨spans, hspans, -⟩ := row_of_shape locator.elementSpan_shape hregion
    obtain ⟨kernels, hkernels, -⟩ := row_of_shape locator.elementKernels_shape hregion
    rw [getElementSpan, lookup_of_lt hregion hj, hspans, Option.some_bind] at hspan
    rw [getElementKernels, lookup_of_lt hregion hj, hkernels, Option.some_bind] at hkernelSet
    refine ⟨(region, spans, kernels), List.mem_iff_getElem?.mpr ⟨i, ?_⟩, j, element, kernelSet,
      ?_, hselected⟩ <;> simp only [List.getElem?_zip_eq_some]
    · exact ⟨hregion, hspans, hkernels⟩
    · exact ⟨helement, hspan, hkernelSet⟩

theorem drop_eq_cons_of_getElem? {α : Type} {l : List α} {n : Nat} {a : α}
    (h : l[n]? = some a) : l.drop n = a :: l.drop (n + 1) := by
  obtain ⟨hn, rfl⟩ := List.getElem?_eq_some_iff.mp h
  exact List.drop_eq_getElem_cons hn

theorem getElem?_of_drop_eq_cons {α : Type} {l rest : List α} {n : Nat} {a : α}
    (h : l.drop n = a :: rest) : l[n]? = some a ∧ l.drop (n + 1) = rest := by
  have hget : l[n]? = some a := by simpa [h] using (List.getElem?_drop l n 0).symm
  rw [drop_eq_cons_of_getElem? hget, List.cons.injEq] at h
  exact ⟨hget, h.2⟩

theorem locateInRegion_eq {locator : KernelLocator} (usedKernels : Finset String)
    (targetCap : Nat) {i : Nat} {region : Region} {spans : List ElementSpan}
    {kernels : List (Finset String)} (hi : locator.gpuCode.regions[i]? = some region)
    (hspans : locator.elementSpan[i]? = some spans)
    (hkernels : locator.elementKernels[i]? = some kernels) :
    ∀ (j : Nat) (elements : List Element), region.elements.drop j = elements →
      locator.locateInRegion usedKernels (region.bestCapability targetCap) i j elements =
        some (selectRows locator.soPath usedKernels (region.bestCapability targetCap)
          (elements.zip ((spans.drop j).zip (kernels.drop j))))
  | j, [], _ => by simp [locateInRegion, selectRows]
  | j, element :: elements, hdrop => by
    obtain ⟨hget, hrest⟩ := getElem?_of_drop_eq_cons hdrop
    have hj := (List.getElem?_eq_some_iff.mp hget).1
    obtain ⟨spanRow, span, hspanRow, hspan, hgetSpan⟩ :=
      lookup_of_shape locator.elementSpan_shape hi hj
    obtain ⟨kernelRow, kernelSet, hkernelRow, hkernelSet, hgetKernels⟩ :=
      lookup_of_shape locator.elementKernels_shape hi hj
    rw [hspans, Option.some.injEq] at hspanRow
    rw [hkernels, Option.some.injEq] at hkernelRow
    subst hspanRow hkernelRow
    simp only [locateInRegion, deletableSpans_eq hgetSpan hgetKernels,
      locateInRegion_eq usedKernels targetCap hi hspans hkernels (j + 1) elements hrest,
      drop_eq_cons_of_getElem? hspan, drop_eq_cons_of_getElem? hkernelSet, List.zip_cons_cons,
      selectRows, List.filter_cons, Option.some_bind, Option.bind_eq_bind, Option.pure_def]
    by_cases hselected : SelectedForDeletion locator.soPath usedKernels
      (region.bestCapability targetCap) element kernelSet <;> simp [hselected]

theorem locateFrom_eq (locator : KernelLocator) (usedKernels : Finset String) (targetCap : Nat) :
    ∀ (i : Nat) (regions : List Region), locator.gpuCode.regions.drop i = regions →
      locator.locateFrom usedKernels targetCap i regions =
        some ((regions.zip ((locator.elementSpan.drop i).zip
          (locator.elementKernels.drop i))).flatMap fun (region, spans, kernels) =>
            selectRows locator.soPath usedKernels (region.bestCapability targetCap)
              (region.elements.zip (spans.zip kernels)))
  | i, [], _ => by simp [locateFrom]
  | i, region :: regions, hdrop => by
    obtain ⟨hi, hrest⟩ := getElem?_of_drop_eq_cons hdrop
    obtain ⟨spans, hspans, -⟩ := row_of_shape locator.elementSpan_shape hi
    obtain ⟨kernels, hkernels, -⟩ := row_of_shape locator.elementKernels_shape hi
    have hregion := locateInRegion_eq usedKernels targetCap hi hspans hkernels 0 region.elements rfl
    simp only [List.drop_zero] at hregion
    simp only [locateFrom, Region.findMostFitCapability_eq_bestCapability, hregion,
      locateFrom_eq locator usedKernels targetCap (i + 1) regions hrest,
      drop_eq_cons_of_getElem? hspans, drop_eq_cons_of_getElem? hkernels, List.zip_cons_cons,
      List.flatMap_cons, Option.some_bind, Option.bind_eq_bind, Option.pure_def]

/-- `locate_deletable_file_spans` never panics and returns exactly the spans
the deletion rule selects, in region and element order. -/
theorem locateDeletableFileSpans_eq_selectedSpans (locator : KernelLocator)
    (usedKernels : Finset String) (targetCap : Nat) :
    locator.locateDeletableFileSpans usedKernels targetCap =
      some (locator.selectedSpans usedKernels targetCap) := by
  simpa using locateFrom_eq locator usedKernels targetCap 0 locator.gpuCode.regions rfl

end KernelLocator

end NegativaMl
