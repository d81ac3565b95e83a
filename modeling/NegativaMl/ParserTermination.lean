import NegativaMl.FatBinary

/-!
# When `GPUCode::new` finishes

The region loop always moves its cursor: `Region::size()` is `fat_size + 16`.
The element loop moves its cursor by the `offset + size` the element header
declares, and nothing checks that this is positive.  A header that declares
`offset = size = 0` below `fat_size` is therefore read again and again, and the
loop never ends.  That is the only way `GPUCode::new` can run forever: on every
other slice each loop moves its cursor forward on every pass, every read must
end inside the slice, and so `|data| + 1` passes of each loop suffice for it
to return or to panic.
-/

namespace NegativaMl

/-- From cursor `elementOffset` on, the element loop comes to a header below
`fatSize` whose `offset + size` is 0, and reads it forever. -/
inductive Region.ElementsStall (regionData : List UInt8) (fatSize : Nat) : Nat → Prop
  | stall {elementOffset : Nat} {header : ElementHeader} : elementOffset < fatSize →
      Region.nextElement regionData elementOffset = some (header, elementOffset) →
      Region.ElementsStall regionData fatSize elementOffset
  | read {elementOffset next : Nat} {header : ElementHeader} : elementOffset < fatSize →
      Region.nextElement regionData elementOffset = some (header, next) →
      Region.ElementsStall regionData fatSize next →
      Region.ElementsStall regionData fatSize elementOffset

/-- From `offset` on, the region loop comes to a region whose element loop
stalls. -/
inductive GPUCode.RegionsStall (gpuCodeData : List UInt8) : Nat → Prop
  | stall {offset : Nat} {header : RegionHeader} : offset < gpuCodeData.length →
      RegionHeader.read (gpuCodeData.drop offset) = some header →
      Region.ElementsStall (gpuCodeData.drop offset) header.fatSize RegionHeader.size →
      GPUCode.RegionsStall gpuCodeData offset
  | read {offset size next : Nat} {region : Region} : offset < gpuCodeData.length →
      Region.ReadAt gpuCodeData offset region → region.size = some size →
      checkedAdd offset size = some next → GPUCode.RegionsStall gpuCodeData next →
      GPUCode.RegionsStall gpuCodeData offset

/-! ## A stall exhausts every budget -/

theorem Region.elementLoop_of_stall {regionData : List UInt8} {fatSize elementOffset : Nat}
    (h : Region.ElementsStall regionData fatSize elementOffset) :
    ∀ (fuel : Nat) (elements : List Element),
      Region.elementLoop regionData fatSize fuel elementOffset elements = .fuelOut := by
  induction h with
  | stall hlt hnext =>
    intro fuel
    induction fuel with
    | zero => intro _; rfl
    | succ fuel ih => intro elements; simp [Region.elementLoop, hlt, hnext, ih]
  | read hlt hnext _ ih =>
    intro fuel elements
    cases fuel with
    | zero => rfl
    | succ fuel => simp [Region.elementLoop, hlt, hnext, ih]

/-- On a region it reads, `Region::new` returns that region or runs out of
budget. -/
theorem Region.new_of_readAt {gpuCodeData : List UInt8} {startOffset : Nat} {region : Region}
    (h : Region.ReadAt gpuCodeData startOffset region) (fuel : Nat) :
    Region.new fuel gpuCodeData startOffset = .done region ∨
      Region.new fuel gpuCodeData startOffset = .fuelOut := by
  by_cases hfuel : region.elements.length < fuel
  · exact .inl (Region.new_complete h hfuel)
  · suffices hloop : ∀ {elementOffset : Nat} {read : List Element},
        Region.ElementsFrom (gpuCodeData.drop startOffset) region.header.fatSize elementOffset
          read → ∀ (fuel : Nat) (elements : List Element), fuel ≤ read.length →
        Region.elementLoop (gpuCodeData.drop startOffset) region.header.fatSize fuel
          elementOffset elements = .fuelOut by
      right
      simp [Region.new, sliceFrom_of_le h.start_le, h.header_eq,
        hloop h.elements_from fuel [] (by omega)]
    intro elementOffset read hread
    induction hread with
    | stop => intro fuel _ hle; simp at hle; subst hle; rfl
    | read hlt hnext _ ih =>
      intro fuel elements hle
      cases fuel with
      | zero => rfl
      | succ fuel => simp [Region.elementLoop, hlt, hnext, ih fuel _ (by simpa using hle)]

theorem GPUCode.regionLoop_of_stall {gpuCodeData : List UInt8} {offset : Nat}
    (h : GPUCode.RegionsStall gpuCodeData offset) :
    ∀ (regionFuel fuel : Nat) (regions : List Region),
      GPUCode.regionLoop regionFuel gpuCodeData fuel offset regions = .fuelOut := by
  induction h with
  | stall hlt hheader hstall =>
    intro regionFuel fuel regions
    cases fuel with
    | zero => rfl
    | succ fuel =>
      simp [GPUCode.regionLoop, hlt, Region.new, sliceFrom_of_le (Nat.le_of_lt hlt), hheader,
        Region.elementLoop_of_stall hstall]
  | read hlt hread hsize hnext _ ih =>
    intro regionFuel fuel regions
    cases fuel with
    | zero => rfl
    | succ fuel =>
      rcases Region.new_of_readAt hread regionFuel with hnew | hnew <;>
        simp [GPUCode.regionLoop, hlt, hnew, hsize, hnext, ih]

/-! ## Without a stall, `|data| + 1` passes suffice -/

theorem Region.elementLoop_ne_fuelOut {regionData : List UInt8} {fatSize : Nat} :
    ∀ (fuel elementOffset : Nat) (elements : List Element),
      ¬ Region.ElementsStall regionData fatSize elementOffset →
      regionData.length - elementOffset < fuel →
      Region.elementLoop regionData fatSize fuel elementOffset elements ≠ .fuelOut
  | 0, _, _, _, hfuel => absurd hfuel (Nat.not_lt_zero _)
  | fuel + 1, elementOffset, elements, hnot, hfuel => by
    simp only [Region.elementLoop]
    split_ifs with hlt
    · rcases hstep : Region.nextElement regionData elementOffset with _ | ⟨header, next⟩
      · simp
      obtain ⟨hread, -, rfl⟩ := Region.nextElement_eq_some.mp hstep
      have hinside := (ElementHeader.read_eq_some.mp hread).1
      have hmoved : header.offset + elementOffset + header.size ≠ elementOffset :=
        fun heq => hnot (.stall hlt (heq ▸ hstep))
      exact Region.elementLoop_ne_fuelOut fuel _ _ (fun hrest => hnot (.read hlt hstep hrest))
        (by omega)
    · simp

theorem Region.new_ne_fuelOut {gpuCodeData : List UInt8} {offset : Nat}
    (hlt : offset < gpuCodeData.length) (hnot : ¬ GPUCode.RegionsStall gpuCodeData offset) :
    Region.new (gpuCodeData.length + 1) gpuCodeData offset ≠ .fuelOut := by
  simp only [Region.new, sliceFrom_of_le (Nat.le_of_lt hlt), Exec.ofOption_some, Exec.done_bind]
  rcases hheader : RegionHeader.read (gpuCodeData.drop offset) with _ | header
  · simp
  have hloop := Region.elementLoop_ne_fuelOut (gpuCodeData.length + 1) RegionHeader.size []
    (fun hstall => hnot (.stall hlt hheader hstall)) (by simp [RegionHeader.size]; omega)
  intro h
  obtain h | ⟨_, -, h⟩ := Exec.bind_eq_fuelOut.mp (by simpa using h)
  · exact hloop h
  · cases h

theorem GPUCode.regionLoop_ne_fuelOut {gpuCodeData : List UInt8} :
    ∀ (fuel offset : Nat) (regions : List Region),
      ¬ GPUCode.RegionsStall gpuCodeData offset → gpuCodeData.length - offset < fuel →
      GPUCode.regionLoop (gpuCodeData.length + 1) gpuCodeData fuel offset regions ≠ .fuelOut
  | 0, _, _, _, hfuel => absurd hfuel (Nat.not_lt_zero _)
  | fuel + 1, offset, regions, hnot, hfuel => by
    simp only [GPUCode.regionLoop]
    split_ifs with hlt
    · intro h
      obtain hnew | ⟨region, hnew, h⟩ := Exec.bind_eq_fuelOut.mp h
      · exact Region.new_ne_fuelOut hlt hnot hnew
      obtain h | ⟨size, hsize, h⟩ := Exec.bind_eq_fuelOut.mp h
      · exact Exec.ofOption_ne_fuelOut _ h
      obtain h | ⟨next, hnext, h⟩ := Exec.bind_eq_fuelOut.mp h
      · exact Exec.ofOption_ne_fuelOut _ h
      have hsize := Exec.ofOption_eq_done.mp hsize
      have hnext := Exec.ofOption_eq_done.mp hnext
      obtain ⟨-, rfl⟩ := Region.size_eq_some.mp hsize
      obtain ⟨-, rfl⟩ := checkedAdd_eq_some.mp hnext
      have hread := Region.new_sound hnew
      refine GPUCode.regionLoop_ne_fuelOut fuel _ _
        (fun hrest => hnot (.read hlt hread hsize hnext hrest)) ?_ h
      simp only [Region.stride, RegionHeader.size]
      omega
    · simp

/-- `GPUCode::new` runs forever exactly on a slice where the element loop
stalls: there every budget runs out, and on every other slice it returns or
panics within `|data| + 1` passes of each loop. -/
theorem GPUCode.new_terminates_unless_stalls (gpuCodeData : List UInt8) :
    (GPUCode.RegionsStall gpuCodeData 0 → ∀ fuel, GPUCode.new fuel gpuCodeData = .fuelOut) ∧
      (¬ GPUCode.RegionsStall gpuCodeData 0 →
        GPUCode.new (gpuCodeData.length + 1) gpuCodeData ≠ .fuelOut) := by
  refine ⟨fun hstall fuel => ?_, fun hnot h => ?_⟩
  · simp [GPUCode.new, GPUCode.regionLoop_of_stall hstall]
  · obtain h | ⟨_, -, h⟩ := Exec.bind_eq_fuelOut.mp h
    · exact GPUCode.regionLoop_ne_fuelOut _ 0 [] hnot (by omega) h
    · cases h

/-- One region of `fat_size` 48 whose one element header, a cubin's, declares
`offset = size = 0`. -/
def zeroAdvanceSection : List UInt8 :=
  [0x50, 0xed, 0x55, 0xba, 1, 0, 16, 0, 48, 0, 0, 0, 0, 0, 0, 0] ++ [2, 0] ++
    List.replicate 30 0

/-- On it no budget lets `GPUCode::new` return or panic. -/
theorem GPUCode.new_zeroAdvanceSection_never_finishes :
    ¬ ∃ fuel, GPUCode.new fuel zeroAdvanceSection ≠ .fuelOut := by
  rintro ⟨fuel, hfinish⟩
  have hstall : GPUCode.RegionsStall zeroAdvanceSection 0 :=
    .stall (by decide) rfl (.stall (by decide) rfl)
  exact hfinish (by simp [GPUCode.new, GPUCode.regionLoop_of_stall hstall])

end NegativaMl
