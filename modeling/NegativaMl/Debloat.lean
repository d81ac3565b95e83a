import NegativaMl.LocatorSelection
import NegativaMl.LocatorTables
import NegativaMl.Reconstructor

/-!
# Locating and rewriting a library, end to end

The `locate` command builds a `KernelLocator` for a library and writes the
spans `locate_deletable_file_spans` returns to a span file; `reconstruct`
reads them back and hands them to `Reconstructor::rewrite`.  Here the library
is a file `pre ++ serialize images ++ post` whose `.nv_fatbin` section is a
well-formed fat binary at offset `pre.length`.  On every such file the two
steps return, keep the file's length, write `0x01` over every byte of the
payload of every element the deletion rule selects, and leave every other
byte as it was: the bytes around the section, every header, and every kept
payload.
-/

namespace NegativaMl

/-- `locate` for one library followed by `reconstruct` on its span file; the
span file holds the spans `locate` computed. -/
def locateThenReconstruct (soPath : String) (soData : List UInt8)
    (gpuCodeOffset gpuCodeSize : Nat) (cubinPaths : List String)
    (extractCubinKernels : String → Option (Finset String)) (fuel : Nat)
    (detectedKernels : Finset String) (targetComputeCapability : Nat) : Exec (List UInt8) := do
  let locator ← KernelLocator.new soPath soData gpuCodeOffset gpuCodeSize cubinPaths
    extractCubinKernels fuel
  let spans ← Exec.ofOption
    (locator.locateDeletableFileSpans detectedKernels targetComputeCapability)
  Exec.ofOption (Reconstructor.rewrite soData spans)

/-- Where the payload of `element`, element `j` of the region `image`, starts
inside the region. -/
def RegionImage.payloadStart (image : RegionImage) (j : Nat) (element : ElementImage) : Nat :=
  RegionHeader.size + ((image.elements.take j).map fun element => element.bytes.length).sum +
    element.headerBytes.length

/-- The kernels the locator records for `element`, element `j` of region `i`,
when the cubin files are `cubinPaths` and `extractCubinKernels` lists a file's
kernels: none for a non-cubin. -/
def GPUCode.kernelsOf (gpuCode : GPUCode) (cubinPaths : List String)
    (extractCubinKernels : String → Finset String) (i j : Nat) (element : Element) :
    Finset String :=
  if element.header.fileType ≠ 2 then ∅
  else ((cubinPaths[gpuCode.cubinsBefore i j]?).map extractCubinKernels).getD ∅

/-- Byte `index` of the file lies in the payload of an element that the
deletion rule selects, the section being laid out from `images` at file offset
`sectionOffset`. -/
def DeletedByte (soPath : String) (usedKernels : Finset String) (targetCap : Nat)
    (cubinPaths : List String) (extractCubinKernels : String → Finset String)
    (images : List RegionImage) (sectionOffset index : Nat) : Prop :=
  ∃ i j image element, images[i]? = some image ∧ image.elements[j]? = some element ∧
    SelectedForDeletion soPath usedKernels (image.region.bestCapability targetCap)
      element.element
      ((GPUCode.mk (images.map RegionImage.region)).kernelsOf cubinPaths extractCubinKernels i j
        element.element) ∧
    sectionOffset + (serialize (images.take i)).length + image.payloadStart j element ≤ index ∧
    index < sectionOffset + (serialize (images.take i)).length + image.payloadStart j element +
      element.payload.length

/-! ## The layout of a well-formed section -/

section Layout

variable {images : List RegionImage}

theorem serialize_length_take_succ {i : Nat} {image : RegionImage}
    (hi : images[i]? = some image) :
    (serialize (images.take (i + 1))).length =
      (serialize (images.take i)).length + image.bytes.length := by
  simpa [serialize, List.map_take, Function.comp_def] using
    sum_map_take_succ (f := fun image : RegionImage => image.bytes.length) hi

theorem GPUCode.regionOffset_images (i : Nat) :
    (GPUCode.mk (images.map RegionImage.region)).regionOffset i =
      (serialize (images.take i)).length := by
  simp [GPUCode.regionOffset, serialize, ← List.map_take, Function.comp_def,
    RegionImage.stride_region]

theorem RegionImage.advance_take (image : RegionImage) (j : Nat) :
    ((image.region.elements.take j).map Element.advance).sum =
      ((image.elements.take j).map fun element => element.bytes.length).sum := by
  simp [RegionImage.region, ← List.map_take, Function.comp_def, ElementImage.advance_element]

theorem payload_end_le {i j : Nat} {image : RegionImage} {element : ElementImage}
    (hi : images[i]? = some image) (hj : image.elements[j]? = some element) :
    (serialize (images.take i)).length + image.payloadStart j element + element.payload.length ≤
      (serialize images).length := by
  have hregion := serialize_length_take_succ hi
  have hfront := sum_map_take_le (fun image : RegionImage => image.bytes.length) images (i + 1)
  have helement := sum_map_take_succ (f := fun element : ElementImage => element.bytes.length) hj
  have helements := sum_map_take_le (fun element : ElementImage => element.bytes.length)
    image.elements (j + 1)
  simp only [serialize, List.length_flatten, List.map_map, Function.comp_def, ← List.map_take]
    at hregion hfront ⊢
  simp only [RegionImage.payloadStart, RegionImage.bytes, ElementImage.bytes, List.length_append,
    List.length_flatten, List.map_map, Function.comp_def, image.header_length] at *
  omega

theorem serialize_contained :
    (GPUCode.mk (images.map RegionImage.region)).Contained (serialize images).length := by
  refine ⟨fun region hregion => ?_, ?_⟩
  · obtain ⟨image, -, rfl⟩ := List.mem_map.mp hregion
    simp [Region.stride, RegionImage.region, image.headerSize_eq, image.fatSize_eq,
      Function.comp_def, ElementImage.advance_element, Nat.add_comm]
  · simp [serialize, Function.comp_def, RegionImage.stride_region]

theorem cubinTotal_le_serialize :
    (GPUCode.mk (images.map RegionImage.region)).cubinTotal ≤ (serialize images).length := by
  induction images with
  | nil => simp [GPUCode.cubinTotal]
  | cons image images ih =>
    have hcount : KernelLocator.cubinCount image.region.elements ≤ image.bytes.length :=
      (List.countP_le_length _).trans (by simpa [RegionImage.region] using image.elements_length_le)
    simp only [GPUCode.cubinTotal, List.map_cons, List.sum_cons, serialize, List.flatten_cons,
      List.length_append] at ih ⊢
    omega

/-- Of blocks of sizes `f a` laid end to end, a position lies in at most one. -/
theorem eq_of_mem_block {α : Type} {f : α → Nat} {l : List α} {j j' x : Nat} {a a' : α}
    (hj : l[j]? = some a) (hj' : l[j']? = some a')
    (hx : ((l.take j).map f).sum ≤ x ∧ x < ((l.take j).map f).sum + f a)
    (hx' : ((l.take j').map f).sum ≤ x ∧ x < ((l.take j').map f).sum + f a') : j = j' := by
  have hsucc := sum_map_take_succ (f := f) hj
  have hsucc' := sum_map_take_succ (f := f) hj'
  rcases Nat.lt_trichotomy j j' with hlt | heq | hgt
  · have := sum_map_take_mono f l (show j + 1 ≤ j' from hlt)
    omega
  · exact heq
  · have := sum_map_take_mono f l (show j' + 1 ≤ j from hgt)
    omega

theorem length_serialize (images : List RegionImage) :
    (serialize images).length = (images.map fun image => image.bytes.length).sum := by
  simp [serialize, List.length_flatten, Function.comp_def]

theorem RegionImage.length_bytes (image : RegionImage) :
    image.bytes.length =
      RegionHeader.size + (image.elements.map fun element => element.bytes.length).sum := by
  simp [RegionImage.bytes, List.length_flatten, Function.comp_def, image.header_length]

/-- A byte of an element's payload lies in its region's bytes, and inside the
region in its element's bytes. -/
theorem mem_blocks_of_payload {sectionOffset index i j : Nat} {image : RegionImage}
    {element : ElementImage} (hj : image.elements[j]? = some element)
    (hin : sectionOffset + (serialize (images.take i)).length + image.payloadStart j element ≤
        index ∧ index < sectionOffset + (serialize (images.take i)).length +
          image.payloadStart j element + element.payload.length) :
    (((images.take i).map fun image => image.bytes.length).sum ≤ index - sectionOffset ∧
      index - sectionOffset <
        ((images.take i).map fun image => image.bytes.length).sum + image.bytes.length) ∧
    (((image.elements.take j).map fun element => element.bytes.length).sum ≤
        index - sectionOffset - ((images.take i).map fun image => image.bytes.length).sum -
          RegionHeader.size ∧
      index - sectionOffset - ((images.take i).map fun image => image.bytes.length).sum -
          RegionHeader.size <
        ((image.elements.take j).map fun element => element.bytes.length).sum +
          element.bytes.length) := by
  have hsucc := sum_map_take_succ (f := fun element : ElementImage => element.bytes.length) hj
  have hle := sum_map_take_le (fun element : ElementImage => element.bytes.length)
    image.elements (j + 1)
  have hlen : element.bytes.length = element.headerBytes.length + element.payload.length :=
    List.length_append _ _
  rw [length_serialize, RegionImage.payloadStart] at hin
  rw [image.length_bytes]
  beta_reduce at hsucc
  omega

/-- A byte of the section lies in the payload of at most one element. -/
theorem payload_unique {sectionOffset index i j i' j' : Nat} {image image' : RegionImage}
    {element element' : ElementImage}
    (hi : images[i]? = some image) (hj : image.elements[j]? = some element)
    (hi' : images[i']? = some image') (hj' : image'.elements[j']? = some element')
    (hin : sectionOffset + (serialize (images.take i)).length + image.payloadStart j element ≤
        index ∧ index < sectionOffset + (serialize (images.take i)).length +
          image.payloadStart j element + element.payload.length)
    (hin' : sectionOffset + (serialize (images.take i')).length + image'.payloadStart j' element' ≤
        index ∧ index < sectionOffset + (serialize (images.take i')).length +
          image'.payloadStart j' element' + element'.payload.length) :
    i = i' ∧ j = j' := by
  obtain ⟨hregion, helement⟩ := mem_blocks_of_payload hj hin
  obtain ⟨hregion', helement'⟩ := mem_blocks_of_payload hj' hin'
  obtain rfl : i = i' := eq_of_mem_block hi hi' hregion hregion'
  obtain rfl : image = image' := Option.some.inj (hi.symm.trans hi')
  exact ⟨rfl, eq_of_mem_block hj hj' helement helement'⟩

end Layout

/-! ## The locator on a well-formed section -/

section Locate

variable {pre post : List UInt8} {images : List RegionImage} {soPath : String}
  {cubinPaths : List String} {extractCubinKernels : String → Finset String} {fuel : Nat}
  {locator : KernelLocator}

theorem slice_serialize :
    slice (pre ++ serialize images ++ post) pre.length (pre.length + (serialize images).length) =
      some (serialize images) := by
  rw [slice_of_le (Nat.le_add_right _ _) (by simp), List.append_assoc, List.drop_left,
    Nat.add_sub_cancel_left, List.take_left]

/-- `KernelLocator::new` returns on a library whose section is well formed,
with the section's regions. -/
theorem new_serialize_returns (soPath : String) (extractCubinKernels : String → Finset String)
    (hlen : (pre ++ serialize images ++ post).length < 2 ^ 64)
    (hfuel : (serialize images).length < fuel)
    (hpaths : (GPUCode.mk (images.map RegionImage.region)).cubinTotal ≤ cubinPaths.length) :
    ∃ locator, KernelLocator.new soPath (pre ++ serialize images ++ post) pre.length
        (serialize images).length cubinPaths (fun path => some (extractCubinKernels path)) fuel =
        .done locator ∧
      locator.soPath = soPath ∧ locator.gpuCode = ⟨images.map RegionImage.region⟩ := by
  have hsection : pre.length + (serialize images).length < 2 ^ 64 := by
    simp only [List.length_append] at hlen
    omega
  have hcount : (GPUCode.mk (images.map RegionImage.region)).cubinTotal ≤
      (serialize images).length := cubinTotal_le_serialize
  exact KernelLocator.new_returns_of_contained hsection slice_serialize
    (GPUCode.new_serialize (by omega) hfuel) serialize_contained hpaths (by omega)
    (fun _ _ => rfl)

theorem images_of_regions (hgpuCode : locator.gpuCode = ⟨images.map RegionImage.region⟩)
    {i j : Nat} {region : Region} {element : Element}
    (hregion : locator.gpuCode.regions[i]? = some region)
    (helement : region.elements[j]? = some element) :
    ∃ image elementImage, images[i]? = some image ∧ image.elements[j]? = some elementImage ∧
      region = image.region ∧ element = elementImage.element := by
  simp only [hgpuCode, List.getElem?_map, Option.map_eq_some'] at hregion
  obtain ⟨image, hi, rfl⟩ := hregion
  simp only [RegionImage.region, List.getElem?_map, Option.map_eq_some'] at helement
  obtain ⟨elementImage, hj, rfl⟩ := helement
  exact ⟨image, elementImage, hi, hj, rfl, rfl⟩

section Images

variable (h : KernelLocator.new soPath (pre ++ serialize images ++ post) pre.length
    (serialize images).length cubinPaths (fun path => some (extractCubinKernels path)) fuel =
      .done locator)
  (hgpuCode : locator.gpuCode = ⟨images.map RegionImage.region⟩)
  {i j : Nat} {image : RegionImage} {element : ElementImage}
  (hi : images[i]? = some image) (hj : image.elements[j]? = some element)
include h hgpuCode hi hj

theorem getElementSpan_images :
    locator.getElementSpan i j = some
      ⟨pre.length + (serialize (images.take i)).length + image.payloadStart j element,
        pre.length + (serialize (images.take i)).length + image.payloadStart j element +
          element.payload.length⟩ := by
  have hregion : locator.gpuCode.regions[i]? = some image.region := by simp [hgpuCode, hi]
  have helement : image.region.elements[j]? = some element.element := by
    simp [RegionImage.region, hj]
  rw [KernelLocator.getElementSpan_of_new h hregion helement, hgpuCode,
    GPUCode.regionOffset_images, RegionImage.advance_take]
  simp only [RegionImage.region, image.headerSize_eq, ElementImage.element, element.offset_eq,
    element.size_eq, RegionImage.payloadStart, Nat.add_assoc]

theorem getElementKernels_images :
    locator.getElementKernels i j = some
      ((GPUCode.mk (images.map RegionImage.region)).kernelsOf cubinPaths extractCubinKernels i j
        element.element) := by
  have hregion : locator.gpuCode.regions[i]? = some image.region := by simp [hgpuCode, hi]
  have helement : image.region.elements[j]? = some element.element := by
    simp [RegionImage.region, hj]
  obtain ⟨kernels, hlookup, hkernels⟩ := KernelLocator.getElementKernels_of_new h hregion helement
  rw [hlookup, ← hgpuCode, GPUCode.kernelsOf]
  split_ifs at hkernels ⊢
  · exact hkernels
  · rcases hpath : cubinPaths[locator.gpuCode.cubinsBefore i j]? with _ | path
    · simp [hpath] at hkernels
    · simpa [hpath, eq_comm] using hkernels

end Images

theorem deletedByte_iff
    (h : KernelLocator.new soPath (pre ++ serialize images ++ post) pre.length
      (serialize images).length cubinPaths (fun path => some (extractCubinKernels path)) fuel =
        .done locator)
    (hsoPath : locator.soPath = soPath)
    (hgpuCode : locator.gpuCode = ⟨images.map RegionImage.region⟩)
    {usedKernels : Finset String} {targetCap index : Nat} :
    DeletedByte soPath usedKernels targetCap cubinPaths extractCubinKernels images pre.length
        index ↔
      ∃ span ∈ locator.selectedSpans usedKernels targetCap, span.Contains index := by
  constructor
  · rintro ⟨i, j, image, element, hi, hj, hselected, hcontains⟩
    refine ⟨_, KernelLocator.mem_selectedSpans.mpr ⟨i, j, image.region, element.element, _,
      by simp [hgpuCode, hi], by simp [RegionImage.region, hj],
      getElementSpan_images h hgpuCode hi hj, getElementKernels_images h hgpuCode hi hj,
      by rwa [hsoPath]⟩, hcontains⟩
  · rintro ⟨span, hspan, hcontains⟩
    obtain ⟨i, j, region, element, kernels, hregion, helement, hgetSpan, hgetKernels, hselected⟩ :=
      KernelLocator.mem_selectedSpans.mp hspan
    obtain ⟨image, elementImage, hi, hj, rfl, rfl⟩ := images_of_regions hgpuCode hregion helement
    rw [getElementSpan_images h hgpuCode hi hj, Option.some.injEq] at hgetSpan
    rw [getElementKernels_images h hgpuCode hi hj, Option.some.injEq] at hgetKernels
    subst hgetSpan hgetKernels
    rw [hsoPath] at hselected
    exact ⟨i, j, image, elementImage, hi, hj, hselected, hcontains⟩

theorem selectedSpans_fit
    (h : KernelLocator.new soPath (pre ++ serialize images ++ post) pre.length
      (serialize images).length cubinPaths (fun path => some (extractCubinKernels path)) fuel =
        .done locator)
    (hgpuCode : locator.gpuCode = ⟨images.map RegionImage.region⟩)
    (usedKernels : Finset String) (targetCap : Nat) :
    ∀ span ∈ locator.selectedSpans usedKernels targetCap, span.start < span.end →
      span.end ≤ (pre ++ serialize images ++ post).length := by
  intro span hspan _
  obtain ⟨i, j, region, element, -, hregion, helement, hgetSpan, -, -⟩ :=
    KernelLocator.mem_selectedSpans.mp hspan
  obtain ⟨image, elementImage, hi, hj, rfl, rfl⟩ := images_of_regions hgpuCode hregion helement
  rw [getElementSpan_images h hgpuCode hi hj, Option.some.injEq] at hgetSpan
  subst hgetSpan
  have := payload_end_le hi hj
  simp only [List.length_append]
  omega

end Locate

/-! ## Locate, then reconstruct -/

/-- On a library whose `.nv_fatbin` section is a well-formed fat binary and
whose every cubin element has a cubin file, `locate` followed by `reconstruct`
returns an image of the same length that holds `0x01` at every byte of the
payload of every element the deletion rule selects and equals the library at
every other byte. -/
theorem locateThenReconstruct_blanks_deleted_payloads (soPath : String) (pre post : List UInt8)
    (images : List RegionImage) (cubinPaths : List String)
    (extractCubinKernels : String → Finset String) (usedKernels : Finset String)
    (targetCap fuel : Nat)
    (hlen : (pre ++ serialize images ++ post).length < 2 ^ 64)
    (hfuel : (serialize images).length < fuel)
    (hpaths : (GPUCode.mk (images.map RegionImage.region)).cubinTotal ≤ cubinPaths.length) :
    ∃ rewritten, locateThenReconstruct soPath (pre ++ serialize images ++ post) pre.length
        (serialize images).length cubinPaths (fun path => some (extractCubinKernels path)) fuel
        usedKernels targetCap = .done rewritten ∧
      rewritten.length = (pre ++ serialize images ++ post).length ∧
      ∀ index,
        (DeletedByte soPath usedKernels targetCap cubinPaths extractCubinKernels images pre.length
            index →
          rewritten[index]? = (pre ++ serialize images ++ post)[index]?.map fun _ => 1) ∧
        (¬ DeletedByte soPath usedKernels targetCap cubinPaths extractCubinKernels images
            pre.length index →
          rewritten[index]? = (pre ++ serialize images ++ post)[index]?) := by
  obtain ⟨locator, hnew, hsoPath, hgpuCode⟩ :=
    new_serialize_returns soPath extractCubinKernels hlen hfuel hpaths
  have hspans : locator.locateDeletableFileSpans usedKernels targetCap =
      some (locator.selectedSpans usedKernels targetCap) := by
    simpa using KernelLocator.locateFrom_eq locator usedKernels targetCap 0 locator.gpuCode.regions
      rfl
  have hrewrite := Reconstructor.rewrite_eq (pre ++ serialize images ++ post)
    (locator.selectedSpans usedKernels targetCap)
  rw [if_pos (selectedSpans_fit hnew hgpuCode usedKernels targetCap)] at hrewrite
  refine ⟨markBytes (pre ++ serialize images ++ post) fun index =>
      (locator.selectedSpans usedKernels targetCap).any fun span => decide (span.Contains index),
    ?_, length_markBytes, fun index => ⟨fun hdeleted => ?_, fun hkept => ?_⟩⟩
  · simp only [locateThenReconstruct, hnew, Exec.done_bind, hspans, Exec.ofOption_some, hrewrite]
  · have hmark : ((locator.selectedSpans usedKernels targetCap).any
        fun span => decide (span.Contains index)) = true := by
      simpa [List.any_eq_true] using (deletedByte_iff hnew hsoPath hgpuCode).mp hdeleted
    simp only [getElem?_markBytes, hmark, if_true]
  · have hmark : ((locator.selectedSpans usedKernels targetCap).any
        fun span => decide (span.Contains index)) = false :=
      Bool.eq_false_iff.mpr fun hany => hkept ((deletedByte_iff hnew hsoPath hgpuCode).mpr
        (by simpa [List.any_eq_true] using hany))
    simp [getElem?_markBytes, hmark]

theorem sampleRegion_locate_then_reconstruct :
    ([0x7f, 0x45, 0x4c, 0x46] ++ serialize [sampleRegion] ++ [0, 0]).length < 2 ^ 64 ∧
    (serialize [sampleRegion]).length < 89 ∧
    (GPUCode.mk ([sampleRegion].map RegionImage.region)).cubinTotal ≤
      ["demo.sm_70.cubin"].length ∧
    ∃ rewritten, locateThenReconstruct "libdemo.so"
        ([0x7f, 0x45, 0x4c, 0x46] ++ serialize [sampleRegion] ++ [0, 0])
        [0x7f, 0x45, 0x4c, 0x46].length (serialize [sampleRegion]).length ["demo.sm_70.cubin"]
        (fun _ => some {"vecAdd"}) 89 {"vecAdd"} 75 = .done rewritten ∧
      rewritten.length = ([0x7f, 0x45, 0x4c, 0x46] ++ serialize [sampleRegion] ++ [0, 0]).length ∧
      ∀ index,
        (DeletedByte "libdemo.so" {"vecAdd"} 75 ["demo.sm_70.cubin"] (fun _ => {"vecAdd"})
            [sampleRegion] [0x7f, 0x45, 0x4c, 0x46].length index →
          rewritten[index]? =
            ([0x7f, 0x45, 0x4c, 0x46] ++ serialize [sampleRegion] ++ [0, 0])[index]?.map
              fun _ => 1) ∧
        (¬ DeletedByte "libdemo.so" {"vecAdd"} 75 ["demo.sm_70.cubin"] (fun _ => {"vecAdd"})
            [sampleRegion] [0x7f, 0x45, 0x4c, 0x46].length index →
          rewritten[index]? = ([0x7f, 0x45, 0x4c, 0x46] ++ serialize [sampleRegion] ++ [0, 0])[index]?) :=
  ⟨by decide, by decide, by decide,
    locateThenReconstruct_blanks_deleted_payloads "libdemo.so" [0x7f, 0x45, 0x4c, 0x46] [0, 0]
      [sampleRegion] ["demo.sm_70.cubin"] (fun _ => {"vecAdd"}) {"vecAdd"} 75 89 (by decide)
      (by decide) (by decide)⟩

/-! ## What debloating keeps -/

/-- Debloating never touches what the deletion rule keeps.  On a library
whose `.nv_fatbin` section is a well-formed fat binary, take an element the
rule keeps: of its region's best-fit capability, and not a cubin, or a cubin
holding a used kernel, or in `libcublas` a cubin holding the internal
constants.  After `locate` and `reconstruct`, every byte of its payload is
the byte it was. -/
theorem locateThenReconstruct_keeps_kept_payloads (soPath : String) (pre post : List UInt8)
    (images : List RegionImage) (cubinPaths : List String)
    (extractCubinKernels : String → Finset String) (usedKernels : Finset String)
    (targetCap fuel : Nat)
    (hlen : (pre ++ serialize images ++ post).length < 2 ^ 64)
    (hfuel : (serialize images).length < fuel)
    (hpaths : (GPUCode.mk (images.map RegionImage.region)).cubinTotal ≤ cubinPaths.length)
    {i j : Nat} {image : RegionImage} {element : ElementImage}
    (hi : images[i]? = some image) (hj : image.elements[j]? = some element)
    (hkept : ¬ SelectedForDeletion soPath usedKernels (image.region.bestCapability targetCap)
      element.element
      ((GPUCode.mk (images.map RegionImage.region)).kernelsOf cubinPaths extractCubinKernels i j
        element.element)) :
    ∃ rewritten, locateThenReconstruct soPath (pre ++ serialize images ++ post) pre.length
        (serialize images).length cubinPaths (fun path => some (extractCubinKernels path)) fuel
        usedKernels targetCap = .done rewritten ∧
      ∀ k < element.payload.length,
        rewritten[pre.length + (serialize (images.take i)).length +
            image.payloadStart j element + k]? =
          (pre ++ serialize images ++ post)[pre.length + (serialize (images.take i)).length +
            image.payloadStart j element + k]? := by
  obtain ⟨locator, hnew, hsoPath, hgpuCode⟩ :=
    new_serialize_returns soPath extractCubinKernels hlen hfuel hpaths
  have hspans : locator.locateDeletableFileSpans usedKernels targetCap =
      some (locator.selectedSpans usedKernels targetCap) := by
    simpa using KernelLocator.locateFrom_eq locator usedKernels targetCap 0 locator.gpuCode.regions
      rfl
  have hrewrite := Reconstructor.rewrite_eq (pre ++ serialize images ++ post)
    (locator.selectedSpans usedKernels targetCap)
  rw [if_pos (selectedSpans_fit hnew hgpuCode usedKernels targetCap)] at hrewrite
  refine ⟨markBytes (pre ++ serialize images ++ post) fun index =>
      (locator.selectedSpans usedKernels targetCap).any fun span => decide (span.Contains index),
    by simp only [locateThenReconstruct, hnew, Exec.done_bind, hspans, Exec.ofOption_some,
      hrewrite], fun k hk => ?_⟩
  -- no selected payload covers the byte: it would be this element's, which the rule keeps
  have hmark : ((locator.selectedSpans usedKernels targetCap).any fun span => decide
      (span.Contains (pre.length + (serialize (images.take i)).length +
        image.payloadStart j element + k))) = false := by
    refine Bool.eq_false_iff.mpr fun hany => ?_
    obtain ⟨i', j', image', element', hi', hj', hselected, hin⟩ :=
      (deletedByte_iff hnew hsoPath hgpuCode).mpr (by simpa [List.any_eq_true] using hany)
    obtain ⟨rfl, rfl⟩ := payload_unique hi' hj' hi hj hin ⟨by omega, by omega⟩
    obtain rfl : image' = image := Option.some.inj (hi'.symm.trans hi)
    obtain rfl : element' = element := Option.some.inj (hj'.symm.trans hj)
    exact hkept hselected
  simp [getElem?_markBytes, hmark]

/-- At compute capability 7.5 the `sm_80` PTX of the sample is deleted, and
the payload of its `sm_70` cubin, which holds the used kernel `vecAdd`,
survives. -/
theorem sampleRegion_keeps_used_cubin :
    ([0x7f, 0x45, 0x4c, 0x46] ++ serialize [sampleRegion] ++ [0, 0]).length < 2 ^ 64 ∧
      (serialize [sampleRegion]).length < 89 ∧
      (GPUCode.mk ([sampleRegion].map RegionImage.region)).cubinTotal ≤
        ["demo.sm_70.cubin"].length ∧
      [sampleRegion][0]? = some sampleRegion ∧ sampleRegion.elements[0]? = some sampleCubin ∧
      ¬ SelectedForDeletion "libdemo.so" {"vecAdd"} (sampleRegion.region.bestCapability 75)
        sampleCubin.element
        ((GPUCode.mk ([sampleRegion].map RegionImage.region)).kernelsOf ["demo.sm_70.cubin"]
          (fun _ => {"vecAdd"}) 0 0 sampleCubin.element) ∧
      ∃ rewritten, locateThenReconstruct "libdemo.so"
          ([0x7f, 0x45, 0x4c, 0x46] ++ serialize [sampleRegion] ++ [0, 0])
          [0x7f, 0x45, 0x4c, 0x46].length (serialize [sampleRegion]).length ["demo.sm_70.cubin"]
          (fun _ => some {"vecAdd"}) 89 {"vecAdd"} 75 = .done rewritten ∧
        ∀ k < sampleCubin.payload.length,
          rewritten[[0x7f, 0x45, 0x4c, 0x46].length + (serialize ([sampleRegion].take 0)).length +
              sampleRegion.payloadStart 0 sampleCubin + k]? =
            ([0x7f, 0x45, 0x4c, 0x46] ++ serialize [sampleRegion] ++ [0, 0])[
              [0x7f, 0x45, 0x4c, 0x46].length + (serialize ([sampleRegion].take 0)).length +
                sampleRegion.payloadStart 0 sampleCubin + k]? :=
  have hkept : ¬ SelectedForDeletion "libdemo.so" {"vecAdd"}
      (sampleRegion.region.bestCapability 75) sampleCubin.element
      ((GPUCode.mk ([sampleRegion].map RegionImage.region)).kernelsOf ["demo.sm_70.cubin"]
        (fun _ => {"vecAdd"}) 0 0 sampleCubin.element) := by decide
  ⟨by decide, by decide, by decide, rfl, rfl, hkept,
    locateThenReconstruct_keeps_kept_payloads "libdemo.so" [0x7f, 0x45, 0x4c, 0x46] [0, 0]
      [sampleRegion] ["demo.sm_70.cubin"] (fun _ => {"vecAdd"}) {"vecAdd"} 75 89 (by decide)
      (by decide) (by decide) rfl rfl hkept⟩

end NegativaMl
