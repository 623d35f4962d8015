import ChromiumContent.Base.CommandLine

/-!
# `RenderWidgetCompositor::GetGpuMemoryPolicy`

The visible byte limit is a `size_t`, here a `BitVec` of `width` bits, so every product wraps
modulo `2 ^ width`.  With `--force-gpu-mem-available-mb` the limit is the switch's value times
`1024 * 1024`, which wraps as soon as the value reaches `2 ^ (width - 20)` megabytes.  On Android
the limit is a tier of the estimated physical memory, clamped to `[8, 256]` MiB; it is exact
while the memory sizes are far below `2 ^ width`.
-/

namespace ChromiumContent

/-- `gpu::MemoryAllocation::PriorityCutoff`. -/
inductive PriorityCutoff
  | cutoffAllowNothing
  | cutoffAllowRequiredOnly
  | cutoffAllowNiceToHave
  | cutoffAllowEverything
  deriving DecidableEq, Repr

/-- The `cc::ManagedMemoryPolicy` fields `GetGpuMemoryPolicy` writes. -/
structure ManagedMemoryPolicy (width : Nat) where
  /-- `bytes_limit_when_visible`, a `size_t`. -/
  bytesLimitWhenVisible : BitVec width
  /-- `priority_cutoff_when_visible`. -/
  priorityCutoffWhenVisible : PriorityCutoff
  deriving DecidableEq, Repr

/-- What `base::SysInfo` reports on Android, as `size_t` values. -/
structure SysInfo (width : Nat) where
  /-- `DalvikHeapSizeMB()`. -/
  dalvikHeapSizeMB : BitVec width
  /-- `AmountOfPhysicalMemoryMB()`. -/
  amountOfPhysicalMemoryMB : BitVec width
  /-- `IsLowEndDevice()`. -/
  isLowEndDevice : Bool
  deriving DecidableEq, Repr

/-- `switches::kForceGpuMemAvailableMb`. -/
def kForceGpuMemAvailableMb : String := "force-gpu-mem-available-mb"

variable {width : Nat}

/-- `std::max` on `size_t`. -/
def sizeMax (a b : BitVec width) : BitVec width := if a < b then b else a

/-- `std::min` on `size_t`. -/
def sizeMin (a b : BitVec width) : BitVec width := if b < a then b else a

theorem sizeMax_toNat (a b : BitVec width) : (sizeMax a b).toNat = max a.toNat b.toNat := by
  unfold sizeMax
  split <;> rename_i less <;> rw [BitVec.lt_def] at less <;> omega

theorem sizeMin_toNat (a b : BitVec width) : (sizeMin a b).toNat = min a.toNat b.toNat := by
  unfold sizeMin
  split <;> rename_i less <;> rw [BitVec.lt_def] at less <;> omega

theorem literal_toNat {n : Nat} (fits : n < 2 ^ width) : (BitVec.ofNat width n).toNat = n := by
  rw [BitVec.toNat_ofNat, Nat.mod_eq_of_lt fits]

/-- Scaling megabytes to bytes does not wrap while the bytes fit in a `size_t`. -/
theorem mul_mebibyte_toNat (x : BitVec width) (wide : 1024 < 2 ^ width)
    (fits : x.toNat * 2 ^ 20 < 2 ^ width) : (x * 1024 * 1024).toNat = x.toNat * 2 ^ 20 := by
  simp only [BitVec.toNat_mul, BitVec.ofNat_eq_ofNat, literal_toNat wide]
  rw [Nat.mod_eq_of_lt (show x.toNat * 1024 < 2 ^ width by omega),
    Nat.mod_eq_of_lt (show x.toNat * 1024 * 1024 < 2 ^ width by omega)]
  omega

/-- The estimate of physical memory in MB, from the Dalvik heap size and the reported memory. -/
def physicalMemoryMb (sysInfo : SysInfo width) : BitVec width :=
  if 256 ≤ sysInfo.dalvikHeapSizeMB then sysInfo.dalvikHeapSizeMB * 4
  else sizeMax (sysInfo.dalvikHeapSizeMB * 4) (sysInfo.amountOfPhysicalMemoryMB * 4 / 3)

/-- The limit in MB before scaling: a tier of the physical memory, or 8 on low-end devices. -/
def limitMb (sysInfo : SysInfo width) : BitVec width :=
  let physicalMemoryMb := physicalMemoryMb sysInfo
  if !sysInfo.isLowEndDevice then
    if 1536 ≤ physicalMemoryMb then physicalMemoryMb / 8
    else if 1152 ≤ physicalMemoryMb then physicalMemoryMb / 8
    else if 768 ≤ physicalMemoryMb then physicalMemoryMb / 10
    else physicalMemoryMb / 12
  else 8

/-- The Android branch, after the override check. -/
def androidGpuMemoryPolicy (sysInfo : SysInfo width) (actual : ManagedMemoryPolicy width) :
    ManagedMemoryPolicy width :=
  let actual :=
    if actual.bytesLimitWhenVisible = 0 then
      let bytes := limitMb sysInfo * 1024 * 1024
      let bytes := sizeMax bytes (8 * 1024 * 1024)
      { actual with bytesLimitWhenVisible := sizeMin bytes (256 * 1024 * 1024) }
    else actual
  { actual with priorityCutoffWhenVisible := .cutoffAllowEverything }

/-- `GetGpuMemoryPolicy`. -/
def getGpuMemoryPolicy (platform : Platform) (commandLine : CommandLine) (sysInfo : SysInfo width)
    (policy : ManagedMemoryPolicy width) : ManagedMemoryPolicy width :=
  let actual := { policy with bytesLimitWhenVisible := 0 }
  if commandLine.hasSwitch kForceGpuMemAvailableMb then
    let (converted, stored) :=
      stringToSizeT width (commandLine.getSwitchValueASCII kForceGpuMemAvailableMb)
    let actual := match stored with
      | some value => { actual with bytesLimitWhenVisible := BitVec.ofNat width value }
      | none => actual
    if converted then
      { actual with bytesLimitWhenVisible := actual.bytesLimitWhenVisible * (1024 * 1024) }
    else actual
  else
    match platform with
    | .android => androidGpuMemoryPolicy sysInfo actual
    | .chromeOS | .mac | .otherDesktop =>
        { actual with
          bytesLimitWhenVisible := 512 * 1024 * 1024
          priorityCutoffWhenVisible := .cutoffAllowNiceToHave }

/-- With the override switch accepted as `N`, the limit is `N * 2 ^ 20` modulo `2 ^ width`. -/
theorem getGpuMemoryPolicy_override (platform : Platform) (commandLine : CommandLine)
    (sysInfo : SysInfo width) (policy : ManagedMemoryPolicy width) (megabytes : Nat)
    (accepted : stringToSizeT width
      (commandLine.getSwitchValueASCII kForceGpuMemAvailableMb) = (true, some megabytes))
    (present : commandLine.hasSwitch kForceGpuMemAvailableMb) :
    (getGpuMemoryPolicy platform commandLine sysInfo policy).bytesLimitWhenVisible.toNat =
      megabytes * 2 ^ 20 % 2 ^ width := by
  simp only [getGpuMemoryPolicy, present, accepted, if_true, BitVec.toNat_mul,
    BitVec.ofNat_eq_ofNat, BitVec.toNat_ofNat]
  rw [Nat.mul_mod, ← Nat.mul_mod 1024 1024, ← Nat.mul_mod, ← Nat.mul_mod]
  norm_num

/-- `--force-gpu-mem-available-mb=17592186044416` on a 64-bit `size_t`: `StringToSizeT` accepts
`2 ^ 44`, and the limit wraps to `0` bytes instead of `2 ^ 64`. -/
theorem forceGpuMemAvailableMb_wraps (platform : Platform) (sysInfo : SysInfo 64)
    (policy : ManagedMemoryPolicy 64) :
    stringToSizeT 64 "17592186044416" = (true, some (2 ^ 44)) ∧
      (getGpuMemoryPolicy platform (.ofSwitches [(kForceGpuMemAvailableMb, "17592186044416")])
        sysInfo policy).bytesLimitWhenVisible.toNat = 0 ∧
      2 ^ 44 * 2 ^ 20 ≠ 0 := by
  refine ⟨by decide, ?_, by norm_num⟩
  rw [getGpuMemoryPolicy_override platform _ sysInfo policy (2 ^ 44) (by decide) (by decide)]
  norm_num

/-! ## The Android limit

The clamp to `[8, 256]` MiB comes after every product has wrapped.  While the reported sizes stay
below `2 ^ (width - 20)` MB nothing wraps, and the limit is the clamped tier computed over exact
integers. -/

/-- On Android without the override, every priority is allowed, and the limit is the tier in bytes,
as `size_t` computes it, clamped to `[8, 256]` MiB. -/
theorem getGpuMemoryPolicy_android_toNat (commandLine : CommandLine) (sysInfo : SysInfo width)
    (policy : ManagedMemoryPolicy width)
    (absent : commandLine.hasSwitch kForceGpuMemAvailableMb = false) (wide : 29 ≤ width) :
    let actual := getGpuMemoryPolicy .android commandLine sysInfo policy
    actual.priorityCutoffWhenVisible = .cutoffAllowEverything ∧
      actual.bytesLimitWhenVisible.toNat =
        min (max (limitMb sysInfo * 1024 * 1024).toNat (8 * 2 ^ 20)) (256 * 2 ^ 20) := by
  have big : 2 ^ 29 ≤ 2 ^ width := Nat.pow_le_pow_right (by norm_num) wide
  have eight : (8 : BitVec width).toNat = 8 := literal_toNat (show 8 < 2 ^ width by omega)
  have most : (256 : BitVec width).toNat = 256 := literal_toNat (show 256 < 2 ^ width by omega)
  have low := mul_mebibyte_toNat (8 : BitVec width) (by omega) (by rw [eight]; omega)
  have high := mul_mebibyte_toNat (256 : BitVec width) (by omega) (by rw [most]; omega)
  rw [eight] at low
  rw [most] at high
  simp only [getGpuMemoryPolicy, absent, Bool.false_eq_true, androidGpuMemoryPolicy, ↓reduceIte,
    sizeMin_toNat, sizeMax_toNat, low, high, and_self]

/-- The physical-memory estimate over exact integers. -/
def exactPhysicalMemoryMb (dalvikHeapSizeMB amountOfPhysicalMemoryMB : Nat) : Nat :=
  if 256 ≤ dalvikHeapSizeMB then dalvikHeapSizeMB * 4
  else max (dalvikHeapSizeMB * 4) (amountOfPhysicalMemoryMB * 4 / 3)

/-- The memory tier over exact integers, or 8 on a low-end device. -/
def exactLimitMb (physicalMemoryMb : Nat) (isLowEndDevice : Bool) : Nat :=
  if !isLowEndDevice then
    if 1536 ≤ physicalMemoryMb then physicalMemoryMb / 8
    else if 1152 ≤ physicalMemoryMb then physicalMemoryMb / 8
    else if 768 ≤ physicalMemoryMb then physicalMemoryMb / 10
    else physicalMemoryMb / 12
  else 8

/-- The Android limit in bytes over exact integers: the tier clamped to `[8, 256]` MiB. -/
def exactAndroidBytesLimit (sysInfo : SysInfo width) : Nat :=
  let physicalMemoryMb :=
    exactPhysicalMemoryMb sysInfo.dalvikHeapSizeMB.toNat sysInfo.amountOfPhysicalMemoryMB.toNat
  min (max (exactLimitMb physicalMemoryMb sysInfo.isLowEndDevice * 2 ^ 20) (8 * 2 ^ 20))
    (256 * 2 ^ 20)

theorem physicalMemoryMb_toNat (sysInfo : SysInfo width)
    (dalvikFits : sysInfo.dalvikHeapSizeMB.toNat * 4 < 2 ^ width)
    (physicalFits : sysInfo.amountOfPhysicalMemoryMB.toNat * 4 < 2 ^ width)
    (wide : 256 < 2 ^ width) :
    (physicalMemoryMb sysInfo).toNat =
      exactPhysicalMemoryMb sysInfo.dalvikHeapSizeMB.toNat sysInfo.amountOfPhysicalMemoryMB.toNat := by
  have four : (4 : BitVec width).toNat = 4 := literal_toNat (show 4 < 2 ^ width by omega)
  have three : (3 : BitVec width).toNat = 3 := literal_toNat (show 3 < 2 ^ width by omega)
  have bound : (256 : BitVec width).toNat = 256 := literal_toNat wide
  unfold physicalMemoryMb exactPhysicalMemoryMb
  simp only [BitVec.le_def, bound]
  split_ifs <;> simp only [sizeMax_toNat, BitVec.toNat_mul, BitVec.toNat_udiv, four, three,
    Nat.mod_eq_of_lt dalvikFits, Nat.mod_eq_of_lt physicalFits]

theorem limitMb_toNat (sysInfo : SysInfo width) (wide : 1536 < 2 ^ width) :
    (limitMb sysInfo).toNat =
      exactLimitMb (physicalMemoryMb sysInfo).toNat sysInfo.isLowEndDevice := by
  have tier : ∀ n : Nat, n ≤ 1536 → (BitVec.ofNat width n).toNat = n :=
    fun _ small => literal_toNat (by omega)
  unfold limitMb exactLimitMb
  simp only [BitVec.le_def, BitVec.ofNat_eq_ofNat, tier 1536 le_rfl, tier 1152 (by norm_num),
    tier 768 (by norm_num)]
  split_ifs <;> simp only [BitVec.toNat_udiv, BitVec.ofNat_eq_ofNat, tier 8 (by norm_num),
    tier 10 (by norm_num), tier 12 (by norm_num)]

/-- While the reported sizes stay below `2 ^ (width - 20)` MB, nothing wraps: the limit on
Android is the clamped tier of the estimate computed over exact integers. -/
theorem getGpuMemoryPolicy_android_exact (commandLine : CommandLine) (sysInfo : SysInfo width)
    (policy : ManagedMemoryPolicy width)
    (absent : commandLine.hasSwitch kForceGpuMemAvailableMb = false) (wide : 29 ≤ width)
    (dalvikFits : sysInfo.dalvikHeapSizeMB.toNat * 2 ^ 20 < 2 ^ width)
    (physicalFits : sysInfo.amountOfPhysicalMemoryMB.toNat * 2 ^ 20 < 2 ^ width) :
    (getGpuMemoryPolicy .android commandLine sysInfo policy).bytesLimitWhenVisible.toNat =
      exactAndroidBytesLimit sysInfo := by
  have big : 2 ^ 29 ≤ 2 ^ width := Nat.pow_le_pow_right (by norm_num) wide
  have physical := physicalMemoryMb_toNat sysInfo (by omega) (by omega) (by omega)
  have limit := limitMb_toNat sysInfo (by omega)
  have fits : (limitMb sysInfo).toNat * 2 ^ 20 < 2 ^ width := by
    rw [limit, physical]
    unfold exactLimitMb exactPhysicalMemoryMb
    split_ifs <;> omega
  rw [(getGpuMemoryPolicy_android_toNat commandLine sysInfo policy absent wide).2,
    mul_mebibyte_toNat _ (by omega) fits, limit, physical]
  rfl

/-- A 2 GB phone with a 192 MB Dalvik heap, as the source's comment lists: the limit is
`170` MiB, the tier of its estimated `1365` MB. -/
theorem getGpuMemoryPolicy_android_exact_phone :
    let sysInfo : SysInfo 64 := ⟨192, 1024, false⟩
    (CommandLine.ofSwitches []).hasSwitch kForceGpuMemAvailableMb = false ∧ 29 ≤ 64 ∧
      sysInfo.dalvikHeapSizeMB.toNat * 2 ^ 20 < 2 ^ 64 ∧
      sysInfo.amountOfPhysicalMemoryMB.toNat * 2 ^ 20 < 2 ^ 64 ∧
      (getGpuMemoryPolicy .android (.ofSwitches []) sysInfo
        ⟨0, .cutoffAllowNothing⟩).bytesLimitWhenVisible.toNat = exactAndroidBytesLimit sysInfo ∧
      exactAndroidBytesLimit sysInfo = 170 * 2 ^ 20 :=
  ⟨by decide, by norm_num, by decide, by decide,
    getGpuMemoryPolicy_android_exact _ _ _ (by decide) (by norm_num) (by decide) (by decide),
    by decide⟩

end ChromiumContent
