import NegativaMl.FatBinary
import Mathlib.Data.Finset.Basic
import Mathlib.Data.List.Infix

/-!
# The kernel locator

`KernelLocator::new` parses the section, then walks its regions and elements
a second time to record each element's file span and, for each cubin, the
kernel set that `cuobjdump` reports for the next extracted cubin file.  The
walk recomputes element positions on its own: it starts each region at the
`header_size` the region declares, where the parser started at the constant
16.  `locate_deletable_file_spans` then keeps, per region, only the elements
of the best-fitting capability that are not cubins or that hold a used kernel.

The external tools are parameters: `cubinPaths` is what `extract_all_cubins`
returned and `extractCubinKernels` stands for `extract_cubin_kernels` on one
file, `none` being a panic inside it.  A `KernelLocator` carries the shape of
its span and kernel tables, which `KernelLocator.new` establishes, so no
locator with a ragged table can be built.
-/

namespace NegativaMl

/-- `ElementSpan`: the file range `[start, end)` of an element's payload. -/
structure ElementSpan where
  start : Nat
  «end» : Nat
  deriving Repr, DecidableEq

def cublasInternalConstant : String := "_ZN6cublas8internal15deviceConstantsE"

structure KernelLocator where
  soPath : String
  gpuCode : GPUCode
  elementSpan : List (List ElementSpan)
  elementKernels : List (List (Finset String))
  elementSpan_shape :
    elementSpan.map List.length = gpuCode.regions.map fun region => region.elements.length
  elementKernels_shape :
    elementKernels.map List.length = gpuCode.regions.map fun region => region.elements.length

namespace KernelLocator

/-! ## Construction -/

/-- The span of one element in the inner loop of `KernelLocator::new`, for a
region at file offset `offset`: `innerOffset` sums `offset + size` of the
elements before it.  Also returns the next `innerOffset`. -/
def elementSpanStep (offset headerSize innerOffset : Nat) (element : Element) :
    Option (ElementSpan × Nat) := do
  let start ← checkedAdd (← checkedAdd (← checkedAdd element.header.offset innerOffset) offset)
    headerSize
  let stop ← checkedAdd start element.header.size
  let innerOffset ← checkedAdd innerOffset
    (← checkedAdd element.header.offset element.header.size)
  pure (⟨start, stop⟩, innerOffset)

/-- The kernel set of one element in the inner loop of `KernelLocator::new`:
empty for a non-cubin, else the kernels of the next extracted cubin file.
Also returns the next cubin index. -/
def elementKernelsStep (cubinPaths : List String)
    (extractCubinKernels : String → Option (Finset String)) (element : Element)
    (cubinPathIndex : Nat) : Option (Finset String × Nat) :=
  if element.header.fileType ≠ 2 then some (∅, cubinPathIndex)
  else do
    let kernelNames ← extractCubinKernels (← cubinPaths[cubinPathIndex]?)
    pure (kernelNames, ← checkedAdd cubinPathIndex 1)

/-- The inner loop of `KernelLocator::new` over the elements of one region. -/
def elementPass (cubinPaths : List String) (extractCubinKernels : String → Option (Finset String))
    (offset headerSize : Nat) :
    List Element → Nat → Nat → Option (List ElementSpan × List (Finset String) × Nat)
  | [], _, cubinPathIndex => some ([], [], cubinPathIndex)
  | element :: elements, innerOffset, cubinPathIndex => do
    let (span, innerOffset) ← elementSpanStep offset headerSize innerOffset element
    let (kernels, cubinPathIndex) ←
      elementKernelsStep cubinPaths extractCubinKernels element cubinPathIndex
    let (spans, kernelSets, cubinPathIndex) ← elementPass cubinPaths extractCubinKernels offset
      headerSize elements innerOffset cubinPathIndex
    pure (span :: spans, kernels :: kernelSets, cubinPathIndex)

/-- The outer loop of `KernelLocator::new` over the regions, from file offset
`offset`. -/
def regionPass (cubinPaths : List String) (extractCubinKernels : String → Option (Finset String)) :
    List Region → Nat → Nat → Option (List (List ElementSpan) × List (List (Finset String)))
  | [], _, _ => some ([], [])
  | region :: regions, offset, cubinPathIndex => do
    let (spans, kernels, cubinPathIndex) ← elementPass cubinPaths extractCubinKernels offset
      region.header.headerSize region.elements 0 cubinPathIndex
    let offset ← checkedAdd offset (← region.size)
    let (elementSpan, elementKernels) ←
      regionPass cubinPaths extractCubinKernels regions offset cubinPathIndex
    pure (spans :: elementSpan, kernels :: elementKernels)

section Passes

variable {cubinPaths : List String} {extractCubinKernels : String → Option (Finset String)}

theorem elementSpanStep_eq_some {offset headerSize innerOffset next : Nat} {element : Element}
    {span : ElementSpan} :
    elementSpanStep offset headerSize innerOffset element = some (span, next) ↔
      element.header.offset + innerOffset + offset + headerSize + element.header.size < 2 ^ 64 ∧
      innerOffset + element.advance < 2 ^ 64 ∧
      span = ⟨element.header.offset + innerOffset + offset + headerSize,
        element.header.offset + innerOffset + offset + headerSize + element.header.size⟩ ∧
      next = innerOffset + element.advance := by
  simp only [elementSpanStep, Option.bind_eq_bind, Option.bind_eq_some, checkedAdd_eq_some,
    Option.pure_def, Option.some.injEq, Prod.mk.injEq, Element.advance, and_assoc,
    exists_and_left, exists_eq_left']
  constructor
  · rintro ⟨-, -, -, hend, -, hinner, rfl, rfl⟩
    exact ⟨hend, hinner, rfl, rfl⟩
  · rintro ⟨hend, hinner, rfl, rfl⟩
    exact ⟨by omega, by omega, by omega, hend, by omega, hinner, rfl, rfl⟩

theorem elementKernelsStep_eq_some {element : Element} {cubinPathIndex next : Nat}
    {kernels : Finset String} :
    elementKernelsStep cubinPaths extractCubinKernels element cubinPathIndex =
        some (kernels, next) ↔
      if element.header.fileType ≠ 2 then kernels = ∅ ∧ next = cubinPathIndex
      else cubinPaths[cubinPathIndex]?.bind extractCubinKernels = some kernels ∧
        cubinPathIndex + 1 < 2 ^ 64 ∧ next = cubinPathIndex + 1 := by
  unfold elementKernelsStep
  split_ifs with hcubin
  · simp [eq_comm]
  · rcases hpath : cubinPaths[cubinPathIndex]? with _ | path
    · simp [hpath]
    rcases hkernels : extractCubinKernels path with _ | kernelNames
    · simp [hpath, hkernels]
    by_cases hnext : cubinPathIndex + 1 < 2 ^ 64
    · simp [hpath, hkernels, checkedAdd_of_lt hnext, hnext, eq_comm, -Nat.reducePow]
    · simp [hpath, hkernels, checkedAdd, hnext, -Nat.reducePow]

theorem elementPass_cons_eq_some {offset headerSize innerOffset cubinPathIndex : Nat}
    {element : Element} {elements : List Element}
    {result : List ElementSpan × List (Finset String) × Nat} :
    elementPass cubinPaths extractCubinKernels offset headerSize (element :: elements) innerOffset
        cubinPathIndex = some result ↔
      ∃ span nextInner kernels nextIndex spans kernelSets next,
        elementSpanStep offset headerSize innerOffset element = some (span, nextInner) ∧
        elementKernelsStep cubinPaths extractCubinKernels element cubinPathIndex =
          some (kernels, nextIndex) ∧
        elementPass cubinPaths extractCubinKernels offset headerSize elements nextInner nextIndex =
          some (spans, kernelSets, next) ∧
        (span :: spans, kernels :: kernelSets, next) = result := by
  simp only [elementPass, Option.bind_eq_bind, Option.bind_eq_some, Prod.exists, Option.pure_def,
    Option.some.injEq, exists_and_left]

theorem regionPass_cons_eq_some {offset cubinPathIndex : Nat} {region : Region}
    {regions : List Region} {result : List (List ElementSpan) × List (List (Finset String))} :
    regionPass cubinPaths extractCubinKernels (region :: regions) offset cubinPathIndex =
        some result ↔
      ∃ spans kernels nextIndex elementSpan elementKernels,
        elementPass cubinPaths extractCubinKernels offset region.header.headerSize
          region.elements 0 cubinPathIndex = some (spans, kernels, nextIndex) ∧
        offset + region.stride < 2 ^ 64 ∧
        regionPass cubinPaths extractCubinKernels regions (offset + region.stride) nextIndex =
          some (elementSpan, elementKernels) ∧
        (spans :: elementSpan, kernels :: elementKernels) = result := by
  simp only [regionPass, Option.bind_eq_bind, Option.bind_eq_some, Prod.exists, Option.pure_def,
    Option.some.injEq, checkedAdd_eq_some, Region.size_eq_some, and_assoc, exists_and_left,
    exists_eq_left']
  exact ⟨fun ⟨spans, kernels, nextIndex, hpass, _, hnext, rest⟩ =>
      ⟨spans, kernels, nextIndex, hpass, hnext, rest⟩,
    fun ⟨spans, kernels, nextIndex, hpass, hnext, rest⟩ =>
      ⟨spans, kernels, nextIndex, hpass, by omega, hnext, rest⟩⟩

/-- The number of cubins (`file_type == 2`) among some elements. -/
def cubinCount (elements : List Element) : Nat :=
  elements.countP fun element => element.header.fileType = 2

@[simp] theorem cubinCount_nil : cubinCount [] = 0 := rfl

theorem cubinCount_cons (element : Element) (elements : List Element) :
    cubinCount (element :: elements) =
      cubinCount elements + if element.header.fileType = 2 then 1 else 0 := by
  simp [cubinCount, List.countP_cons]

theorem elementPass_shape {offset headerSize : Nat} :
    ∀ {elements : List Element} {innerOffset cubinPathIndex next : Nat}
      {spans : List ElementSpan} {kernels : List (Finset String)},
      elementPass cubinPaths extractCubinKernels offset headerSize elements innerOffset
        cubinPathIndex = some (spans, kernels, next) →
      spans.length = elements.length ∧ kernels.length = elements.length ∧
        next = cubinPathIndex + cubinCount elements ∧
        (cubinPathIndex ≤ cubinPaths.length → next ≤ cubinPaths.length)
  | [], _, _, _, _, _, h => by cases h; simp [cubinCount]
  | element :: elements, innerOffset, cubinPathIndex, next, spans, kernels, h => by
    obtain ⟨span, nextInner, kernelSet, nextIndex, restSpans, restKernels, restNext, -, hkernels,
      hrest, h⟩ := elementPass_cons_eq_some.mp h
    cases h
    obtain ⟨hspans, hkernelSets, rfl, hbound⟩ := elementPass_shape hrest
    rw [elementKernelsStep_eq_some] at hkernels
    refine ⟨by simp [hspans], by simp [hkernelSets], ?_⟩
    split_ifs at hkernels with hcubin
    · obtain ⟨-, rfl⟩ := hkernels
      exact ⟨by rw [cubinCount_cons, if_neg hcubin]; rfl, hbound⟩
    · obtain ⟨hpath, -, rfl⟩ := hkernels
      have hlt : cubinPathIndex < cubinPaths.length := by
        rcases hget : cubinPaths[cubinPathIndex]? with _ | path
        · simp [hget] at hpath
        · exact (List.getElem?_eq_some_iff.mp hget).1
      rw [cubinCount_cons, if_pos (not_not.mp hcubin)]
      exact ⟨by omega, fun _ => hbound hlt⟩

theorem elementPass_span {offset headerSize : Nat} :
    ∀ {elements : List Element} {innerOffset cubinPathIndex next : Nat}
      {spans : List ElementSpan} {kernels : List (Finset String)} {j : Nat} {element : Element},
      elementPass cubinPaths extractCubinKernels offset headerSize elements innerOffset
        cubinPathIndex = some (spans, kernels, next) →
      elements[j]? = some element →
      spans[j]? = some
        ⟨element.header.offset + (innerOffset + ((elements.take j).map Element.advance).sum) +
            offset + headerSize,
          element.header.offset + (innerOffset + ((elements.take j).map Element.advance).sum) +
            offset + headerSize + element.header.size⟩
  | [], _, _, _, _, _, _, _, _, hj => by simp at hj
  | first :: elements, innerOffset, cubinPathIndex, next, spans, kernels, j, element, h, hj => by
    obtain ⟨span, nextInner, kernelSet, nextIndex, restSpans, restKernels, restNext, hspan, -,
      hrest, h⟩ := elementPass_cons_eq_some.mp h
    cases h
    obtain ⟨-, -, rfl, rfl⟩ := elementSpanStep_eq_some.mp hspan
    cases j with
    | zero => obtain rfl : element = first := by simpa using hj.symm
              simp
    | succ j =>
      rw [List.getElem?_cons_succ, elementPass_span hrest (by simpa using hj)]
      simp [Element.advance, Nat.add_assoc]

theorem elementPass_kernels {offset headerSize : Nat} :
    ∀ {elements : List Element} {innerOffset cubinPathIndex next : Nat}
      {spans : List ElementSpan} {kernels : List (Finset String)} {j : Nat} {element : Element},
      elementPass cubinPaths extractCubinKernels offset headerSize elements innerOffset
        cubinPathIndex = some (spans, kernels, next) →
      elements[j]? = some element →
      kernels[j]? = if element.header.fileType ≠ 2 then some ∅
        else cubinPaths[cubinPathIndex + cubinCount (elements.take j)]?.bind extractCubinKernels
  | [], _, _, _, _, _, _, _, _, hj => by simp at hj
  | first :: elements, innerOffset, cubinPathIndex, next, spans, kernels, j, element, h, hj => by
    obtain ⟨span, nextInner, kernelSet, nextIndex, restSpans, restKernels, restNext, -, hkernels,
      hrest, h⟩ := elementPass_cons_eq_some.mp h
    cases h
    rw [elementKernelsStep_eq_some] at hkernels
    cases j with
    | zero =>
      obtain rfl : element = first := by simpa using hj.symm
      simp only [List.getElem?_cons_zero, List.take_zero, cubinCount_nil, Nat.add_zero]
      split_ifs at hkernels ⊢
      · rw [hkernels.1]
      · exact hkernels.1.symm
    | succ j =>
      rw [List.getElem?_cons_succ, elementPass_kernels hrest (by simpa using hj),
        List.take_succ_cons, cubinCount_cons]
      split_ifs at hkernels with hcubin
      · simp [hcubin, hkernels.2]
      · simp [not_not.mp hcubin, hkernels.2.2, Nat.add_assoc, Nat.add_comm 1]

theorem regionPass_shape :
    ∀ {regions : List Region} {offset cubinPathIndex : Nat}
      {elementSpan : List (List ElementSpan)} {elementKernels : List (List (Finset String))},
      regionPass cubinPaths extractCubinKernels regions offset cubinPathIndex =
        some (elementSpan, elementKernels) →
      elementSpan.map List.length = regions.map (fun region => region.elements.length) ∧
      elementKernels.map List.length = regions.map (fun region => region.elements.length) ∧
      (cubinPathIndex ≤ cubinPaths.length →
        cubinPathIndex + (regions.map fun region => cubinCount region.elements).sum ≤
          cubinPaths.length)
  | [], _, _, _, _, h => by cases h; simp
  | region :: regions, offset, cubinPathIndex, elementSpan, elementKernels, h => by
    obtain ⟨spans, kernels, nextIndex, restSpan, restKernels, hpass, -, hrest, h⟩ :=
      regionPass_cons_eq_some.mp h
    cases h
    obtain ⟨hspans, hkernels, rfl, hbound⟩ := elementPass_shape hpass
    obtain ⟨hrestSpan, hrestKernels, hrestBound⟩ := regionPass_shape hrest
    refine ⟨by simp [hspans, hrestSpan], by simp [hkernels, hrestKernels], fun hle => ?_⟩
    have := hrestBound (hbound hle)
    simp only [List.map_cons, List.sum_cons]
    omega

theorem regionPass_span :
    ∀ {regions : List Region} {offset cubinPathIndex : Nat}
      {elementSpan : List (List ElementSpan)} {elementKernels : List (List (Finset String))}
      {i j : Nat} {region : Region} {element : Element},
      regionPass cubinPaths extractCubinKernels regions offset cubinPathIndex =
        some (elementSpan, elementKernels) →
      regions[i]? = some region → region.elements[j]? = some element →
      elementSpan[i]?.bind (·[j]?) = some
        ⟨offset + ((regions.take i).map Region.stride).sum + region.header.headerSize +
            ((region.elements.take j).map Element.advance).sum + element.header.offset,
          offset + ((regions.take i).map Region.stride).sum + region.header.headerSize +
            ((region.elements.take j).map Element.advance).sum + element.header.offset +
            element.header.size⟩
  | [], _, _, _, _, _, _, _, _, _, hi, _ => by simp at hi
  | first :: regions, offset, cubinPathIndex, elementSpan, elementKernels, i, j, region, element,
      h, hi, hj => by
    obtain ⟨spans, kernels, nextIndex, restSpan, restKernels, hpass, -, hrest, h⟩ :=
      regionPass_cons_eq_some.mp h
    cases h
    cases i with
    | zero =>
      obtain rfl : region = first := by simpa using hi.symm
      simp only [List.getElem?_cons_zero, Option.some_bind, elementPass_span hpass hj,
        List.take_zero, List.map_nil, List.sum_nil]
      congr 2 <;> omega
    | succ i =>
      simp only [List.getElem?_cons_succ, regionPass_span hrest (by simpa using hi) hj,
        List.take_succ_cons, List.map_cons, List.sum_cons, Nat.add_assoc]

theorem regionPass_kernels :
    ∀ {regions : List Region} {offset cubinPathIndex : Nat}
      {elementSpan : List (List ElementSpan)} {elementKernels : List (List (Finset String))}
      {i j : Nat} {region : Region} {element : Element},
      regionPass cubinPaths extractCubinKernels regions offset cubinPathIndex =
        some (elementSpan, elementKernels) →
      regions[i]? = some region → region.elements[j]? = some element →
      elementKernels[i]?.bind (·[j]?) =
        if element.header.fileType ≠ 2 then some ∅
        else cubinPaths[cubinPathIndex + ((regions.take i).map fun r => cubinCount r.elements).sum +
          cubinCount (region.elements.take j)]?.bind extractCubinKernels
  | [], _, _, _, _, _, _, _, _, _, hi, _ => by simp at hi
  | first :: regions, offset, cubinPathIndex, elementSpan, elementKernels, i, j, region, element,
      h, hi, hj => by
    obtain ⟨spans, kernels, nextIndex, restSpan, restKernels, hpass, -, hrest, h⟩ :=
      regionPass_cons_eq_some.mp h
    cases h
    cases i with
    | zero =>
      obtain rfl : region = first := by simpa using hi.symm
      simp only [List.getElem?_cons_zero, Option.some_bind, elementPass_kernels hpass hj,
        List.take_zero, List.map_nil, List.sum_nil, Nat.add_zero]
    | succ i =>
      obtain ⟨-, -, rfl, -⟩ := elementPass_shape hpass
      simp only [List.getElem?_cons_succ, regionPass_kernels hrest (by simpa using hi) hj,
        List.take_succ_cons, List.map_cons, List.sum_cons, Nat.add_assoc]

end Passes

/-- `KernelLocator::new`: `soData` is the file that `so_path` names and
`cubinPaths` what `extract_all_cubins` returned for it. -/
def new (soPath : String) (soData : List UInt8) (gpuCodeStartOffset gpuCodeSize : Nat)
    (cubinPaths : List String) (extractCubinKernels : String → Option (Finset String))
    (fuel : Nat) : Exec KernelLocator := do
  let gpuCodeEnd ← Exec.ofOption (checkedAdd gpuCodeStartOffset gpuCodeSize)
  let gpuCodeData ← Exec.ofOption (slice soData gpuCodeStartOffset gpuCodeEnd)
  let gpuCode ← GPUCode.new fuel gpuCodeData
  match h : regionPass cubinPaths extractCubinKernels gpuCode.regions gpuCodeStartOffset 0 with
  | some (elementSpan, elementKernels) =>
    .done ⟨soPath, gpuCode, elementSpan, elementKernels, (regionPass_shape h).1,
      (regionPass_shape h).2.1⟩
  | none => .panic

/-- What `KernelLocator::new` did when it returned. -/
theorem new_sound {soPath : String} {soData : List UInt8} {gpuCodeStartOffset gpuCodeSize : Nat}
    {cubinPaths : List String} {extractCubinKernels : String → Option (Finset String)}
    {fuel : Nat} {locator : KernelLocator}
    (h : new soPath soData gpuCodeStartOffset gpuCodeSize cubinPaths extractCubinKernels fuel =
      .done locator) :
    locator.soPath = soPath ∧
      slice soData gpuCodeStartOffset (gpuCodeStartOffset + gpuCodeSize) ≠ none ∧
      gpuCodeStartOffset + gpuCodeSize < 2 ^ 64 ∧
      GPUCode.new fuel ((soData.drop gpuCodeStartOffset).take gpuCodeSize) = .done locator.gpuCode ∧
      regionPass cubinPaths extractCubinKernels locator.gpuCode.regions gpuCodeStartOffset 0 =
        some (locator.elementSpan, locator.elementKernels) := by
  obtain ⟨gpuCodeEnd, hend, hrest⟩ := Exec.bind_eq_done.mp h
  obtain ⟨hlt, rfl⟩ := checkedAdd_eq_some.mp (Exec.ofOption_eq_done.mp hend)
  obtain ⟨gpuCodeData, hslice, hrest⟩ := Exec.bind_eq_done.mp hrest
  obtain ⟨gpuCode, hgpu, hmatch⟩ := Exec.bind_eq_done.mp hrest
  replace hslice := Exec.ofOption_eq_done.mp hslice
  have hdata : gpuCodeData = (soData.drop gpuCodeStartOffset).take gpuCodeSize := by
    unfold slice at hslice
    split_ifs at hslice
    cases hslice
    simp
  subst hdata
  split at hmatch
  · rename_i elementSpan elementKernels hpass
    cases hmatch
    exact ⟨rfl, by simp [hslice], hlt, hgpu, hpass⟩
  · cases hmatch

theorem new_complete {soPath : String} {soData gpuCodeData : List UInt8}
    {gpuCodeStartOffset gpuCodeSize : Nat} {cubinPaths : List String}
    {extractCubinKernels : String → Option (Finset String)} {fuel : Nat} {gpuCode : GPUCode}
    {elementSpan : List (List ElementSpan)} {elementKernels : List (List (Finset String))}
    (hlt : gpuCodeStartOffset + gpuCodeSize < 2 ^ 64)
    (hslice : slice soData gpuCodeStartOffset (gpuCodeStartOffset + gpuCodeSize) = some gpuCodeData)
    (hgpu : GPUCode.new fuel gpuCodeData = .done gpuCode)
    (hpass : regionPass cubinPaths extractCubinKernels gpuCode.regions gpuCodeStartOffset 0 =
      some (elementSpan, elementKernels)) :
    ∃ locator, new soPath soData gpuCodeStartOffset gpuCodeSize cubinPaths extractCubinKernels
        fuel = .done locator ∧ locator.soPath = soPath ∧ locator.gpuCode = gpuCode ∧
      locator.elementSpan = elementSpan ∧ locator.elementKernels = elementKernels := by
  refine ⟨⟨soPath, gpuCode, elementSpan, elementKernels, (regionPass_shape hpass).1,
    (regionPass_shape hpass).2.1⟩, ?_, rfl, rfl, rfl, rfl⟩
  simp only [new, checkedAdd_of_lt hlt, hslice, hgpu, Exec.ofOption_some, Exec.done_bind]
  split
  · rename_i h
    rw [hpass] at h
    cases h
    rfl
  · rename_i h
    rw [hpass] at h
    cases h

/-! ## Lookups and the deletion rule -/

/-- The bounds check against the parsed regions and the table lookup that
`get_element_span` and `get_element_kernels` share. -/
def lookup {α : Type} (locator : KernelLocator) (table : List (List α))
    (regionIndex elementIndex : Nat) : Option α :=
  match locator.gpuCode.regions[regionIndex]? with
  | none => none
  | some region =>
    if elementIndex ≥ region.elements.length then none
    else table[regionIndex]?.bind (·[elementIndex]?)

def getElementSpan (locator : KernelLocator) (regionIndex elementIndex : Nat) :
    Option ElementSpan :=
  locator.lookup locator.elementSpan regionIndex elementIndex

def getElementKernels (locator : KernelLocator) (regionIndex elementIndex : Nat) :
    Option (Finset String) :=
  locator.lookup locator.elementKernels regionIndex elementIndex

/-- A table of the locator's shape has a row for each region, as long as the
region's element list. -/
theorem row_of_shape {α : Type} {locator : KernelLocator} {table : List (List α)}
    (hshape : table.map List.length =
      locator.gpuCode.regions.map fun region => region.elements.length)
    {i : Nat} {region : Region} (hi : locator.gpuCode.regions[i]? = some region) :
    ∃ row, table[i]? = some row ∧ row.length = region.elements.length := by
  have h := congrArg (·[i]?) hshape
  simp only [List.getElem?_map, hi, Option.map_some'] at h
  rcases hrow : table[i]? with _ | row
  · simp [hrow] at h
  · exact ⟨row, rfl, by simpa [hrow] using h⟩

/-- Inside the regions, a lookup in a table of the locator's shape passes its
bounds check and finds the table's entry. -/
theorem lookup_of_shape {α : Type} {locator : KernelLocator} {table : List (List α)}
    (hshape : table.map List.length =
      locator.gpuCode.regions.map fun region => region.elements.length)
    {i j : Nat} {region : Region} (hi : locator.gpuCode.regions[i]? = some region)
    (hj : j < region.elements.length) :
    ∃ row x, table[i]? = some row ∧ row[j]? = some x ∧ locator.lookup table i j = some x := by
  obtain ⟨row, hrow, hlength⟩ := row_of_shape hshape hi
  obtain ⟨x, hx⟩ : ∃ x, row[j]? = some x := ⟨row.get ⟨j, by omega⟩, by simp⟩
  exact ⟨row, x, hrow, hx, by simp [lookup, hi, Nat.not_le.mpr hj, hrow, hx]⟩

theorem lookup_of_lt {α : Type} {locator : KernelLocator} {table : List (List α)} {i j : Nat}
    {region : Region} (hi : locator.gpuCode.regions[i]? = some region)
    (hj : j < region.elements.length) :
    locator.lookup table i j = table[i]?.bind (·[j]?) := by
  simp [lookup, hi, Nat.not_le.mpr hj]

theorem lookup_eq_some {α : Type} {locator : KernelLocator} {table : List (List α)} {i j : Nat}
    {x : α} (h : locator.lookup table i j = some x) :
    ∃ region element, locator.gpuCode.regions[i]? = some region ∧
      region.elements[j]? = some element := by
  unfold lookup at h
  split at h
  · cases h
  · next region hi =>
    split at h
    · cases h
    · exact ⟨region, region.elements.get ⟨j, by omega⟩, hi, by simp⟩

/-- The body of the inner loop of `locate_deletable_file_spans`, for element
`j` of region `i`. -/
def deletableSpans (locator : KernelLocator) (detectedKernels : Finset String)
    (mostFitCap i j : Nat) (element : Element) : Option (List ElementSpan) :=
  if element.header.capability ≠ mostFitCap then (locator.getElementSpan i j).map ([·])
  else if element.header.fileType ≠ 2 then some []
  else do
    let elementKernels ← locator.getElementKernels i j
    if Disjoint detectedKernels elementKernels then
      if strContains locator.soPath "libcublas" ∧ cublasInternalConstant ∈ elementKernels then
        some []
      else (locator.getElementSpan i j).map ([·])
    else some []

/-- The inner loop of `locate_deletable_file_spans` over region `i`, from
element `j` on. -/
def locateInRegion (locator : KernelLocator) (detectedKernels : Finset String)
    (mostFitCap i : Nat) : Nat → List Element → Option (List ElementSpan)
  | _, [] => some []
  | j, element :: elements => do
    let spans ← locator.deletableSpans detectedKernels mostFitCap i j element
    let rest ← locator.locateInRegion detectedKernels mostFitCap i (j + 1) elements
    pure (spans ++ rest)

/-- The outer loop of `locate_deletable_file_spans`, from region `i` on. -/
def locateFrom (locator : KernelLocator) (detectedKernels : Finset String)
    (computeCapability : Nat) : Nat → List Region → Option (List ElementSpan)
  | _, [] => some []
  | i, region :: regions => do
    let spans ← locator.locateInRegion detectedKernels
      (region.findMostFitCapability computeCapability) i 0 region.elements
    let rest ← locator.locateFrom detectedKernels computeCapability (i + 1) regions
    pure (spans ++ rest)

def locateDeletableFileSpans (locator : KernelLocator) (detectedKernels : Finset String)
    (computeCapability : Nat) : Option (List ElementSpan) :=
  locator.locateFrom detectedKernels computeCapability 0 locator.gpuCode.regions

end KernelLocator

end NegativaMl
