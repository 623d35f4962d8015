import ChromiumContent.Base.CommandLine

/-!
# Integer switches of `RenderWidgetCompositor::Initialize`

`GetSwitchValueAsInt` stores a switch's value through `result` when `StringToInt` accepts it and
it lies in `[min_value, max_value]`, and leaves `result` alone otherwise.  `Initialize` calls it at
five sites.  The untiled-layer and slow-down sites pass the setting itself, so a rejected value
keeps the setting; the tile-size sites pass a temporary that starts at `0` and then store the
temporary, so a rejected value makes the tile `0` wide or high.
-/

namespace ChromiumContent

/-- `gfx::Size`. -/
structure Size where
  /-- `width()`. -/
  width : Int
  /-- `height()`. -/
  height : Int
  deriving DecidableEq, Repr

/-- The `cc::LayerTreeSettings` fields that `Initialize` sets from integer switches. -/
structure LayerTreeSettings where
  /-- `default_tile_size`. -/
  defaultTileSize : Size
  /-- `max_untiled_layer_size`. -/
  maxUntiledLayerSize : Size
  /-- `initial_debug_state.slow_down_raster_scale_factor`. -/
  slowDownRasterScaleFactor : Int
  deriving DecidableEq, Repr

/-- `switches::kDefaultTileWidth`. -/
def kDefaultTileWidth : String := "default-tile-width"

/-- `switches::kDefaultTileHeight`. -/
def kDefaultTileHeight : String := "default-tile-height"

/-- `switches::kMaxUntiledLayerWidth`. -/
def kMaxUntiledLayerWidth : String := "max-untiled-layer-width"

/-- `switches::kMaxUntiledLayerHeight`. -/
def kMaxUntiledLayerHeight : String := "max-untiled-layer-height"

/-- `cc::switches::kSlowDownRasterScaleFactor`. -/
def kSlowDownRasterScaleFactor : String := "slow-down-raster-scale-factor"

/-- What `GetSwitchValueAsInt` returns, what `*result` holds afterwards, and its warning. -/
structure SwitchValue where
  /-- The return value. -/
  parsed : Bool
  /-- `*result` afterwards. -/
  result : Int
  /-- The `LOG(WARNING)` line, on failure. -/
  warning : Option String
  deriving DecidableEq, Repr

/-- `GetSwitchValueAsInt`. -/
def getSwitchValueAsInt (commandLine : CommandLine) (switchString : String)
    (minValue maxValue result : Int) : SwitchValue :=
  let stringValue := commandLine.getSwitchValueASCII switchString
  let failed : SwitchValue :=
    ⟨false, result, some ("Failed to parse switch " ++ switchString ++ ": " ++ stringValue)⟩
  match stringToInt stringValue with
  | some intValue => if minValue ≤ intValue ∧ intValue ≤ maxValue then ⟨true, intValue, none⟩
      else failed
  | none => failed

/-- The value the switch spells, when `StringToInt` accepts it within `[minValue, maxValue]`. -/
def acceptedSwitchValue (commandLine : CommandLine) (switchString : String)
    (minValue maxValue : Int) : Option Int :=
  (stringToInt (commandLine.getSwitchValueASCII switchString)).filter
    fun intValue => minValue ≤ intValue ∧ intValue ≤ maxValue

/-- `GetSwitchValueAsInt` stores the accepted value and reports success, or leaves `*result`
untouched, reports failure and logs a warning naming the switch and its value. -/
theorem getSwitchValueAsInt_spec (commandLine : CommandLine) (switchString : String)
    (minValue maxValue result : Int) :
    getSwitchValueAsInt commandLine switchString minValue maxValue result =
      match acceptedSwitchValue commandLine switchString minValue maxValue with
      | some intValue => ⟨true, intValue, none⟩
      | none => ⟨false, result, some ("Failed to parse switch " ++ switchString ++ ": " ++
          commandLine.getSwitchValueASCII switchString)⟩ := by
  unfold getSwitchValueAsInt acceptedSwitchValue
  cases parsed : stringToInt (commandLine.getSwitchValueASCII switchString) with
  | none => simp [parsed]
  | some intValue => by_cases inRange : minValue ≤ intValue ∧ intValue ≤ maxValue <;>
      simp [parsed, Option.filter, inRange]

/-- One integer-switch site of `Initialize`: with the switch present, the value that
`GetSwitchValueAsInt` leaves in a variable that started at `start`; without it, `current`. -/
def switchSetting (commandLine : CommandLine) (switchString : String)
    (minValue maxValue start current : Int) : Int :=
  if commandLine.hasSwitch switchString then
    (getSwitchValueAsInt commandLine switchString minValue maxValue start).result
  else current

/-- A site is the accepted value, or `start` when the present switch is rejected, or `current`
when the switch is absent. -/
theorem switchSetting_eq (commandLine : CommandLine) (switchString : String)
    (minValue maxValue start current : Int) :
    switchSetting commandLine switchString minValue maxValue start current =
      if commandLine.hasSwitch switchString then
        (acceptedSwitchValue commandLine switchString minValue maxValue).getD start
      else current := by
  unfold switchSetting
  rw [getSwitchValueAsInt_spec]
  cases acceptedSwitchValue commandLine switchString minValue maxValue <;> rfl

/-- The display facts `CalculateDefaultTileSize` reads. -/
structure DisplayInfo where
  /-- `gfx::DeviceDisplayInfo::GetPhysicalDisplayWidth()`, on Android. -/
  physicalDisplayWidth : Int
  /-- `GetPhysicalDisplayHeight()`, on Android. -/
  physicalDisplayHeight : Int
  /-- `GetDisplayWidth()`, on Android. -/
  displayWidth : Int
  /-- `GetDisplayHeight()`, on Android. -/
  displayHeight : Int
  /-- `widget->screen_info().deviceScaleFactor >= 2.0f`, on Chrome OS. -/
  highDeviceScaleFactor : Bool
  deriving DecidableEq, Repr

/-- The Android branch of `CalculateDefaultTileSize`.  `display_width * display_height` is an
`int` product, which wraps to 32 bits. -/
def androidDefaultTileSize (info : DisplayInfo) : Int :=
  let realSizeSupported := !(info.physicalDisplayWidth = 0 || info.physicalDisplayHeight = 0)
  let displayWidth := if realSizeSupported then info.physicalDisplayWidth else info.displayWidth
  let displayHeight :=
    if realSizeSupported then info.physicalDisplayHeight else info.displayHeight
  let portraitWidth := min displayWidth displayHeight
  let landscapeWidth := max displayWidth displayHeight
  if realSizeSupported then
    let size : Int := if 768 < portraitWidth ∨ 1280 < landscapeWidth then 384 else 256
    let size := if 1200 < portraitWidth ∨ 1920 < landscapeWidth then 512 else size
    let size := if size = 256 ∧ portraitWidth = 768 then size + 32 else size
    if size = 384 ∧ portraitWidth = 1200 then size + 32 else size
  else
    let numTiles := ((displayWidth * displayHeight).bmod (2 ^ 32)).tdiv (256 * 256)
    let size : Int := if 16 < numTiles then 384 else 256
    if 40 ≤ numTiles then 512 else size

/-- `CalculateDefaultTileSize`. -/
def calculateDefaultTileSize (platform : Platform) (info : DisplayInfo) : Size :=
  let defaultTileSize : Int :=
    match platform with
    | .android => androidDefaultTileSize info
    | .chromeOS => if info.highDeviceScaleFactor then 512 else 256
    | .mac | .otherDesktop => 256
  ⟨defaultTileSize, defaultTileSize⟩

theorem androidDefaultTileSize_ge (info : DisplayInfo) : 256 ≤ androidDefaultTileSize info := by
  unfold androidDefaultTileSize
  dsimp only
  split_ifs <;> omega

/-- The computed default tile is square and at least 256 wide on every platform and display. -/
theorem calculateDefaultTileSize_ge (platform : Platform) (info : DisplayInfo) :
    (calculateDefaultTileSize platform info).height = (calculateDefaultTileSize platform info).width ∧
      256 ≤ (calculateDefaultTileSize platform info).width := by
  refine ⟨rfl, ?_⟩
  cases platform with
  | android => exact androidDefaultTileSize_ge info
  | chromeOS => simp only [calculateDefaultTileSize]; split <;> omega
  | mac | otherDesktop => simp [calculateDefaultTileSize]

/-- The integer switches of `Initialize`, applied to the settings it starts from. -/
def initializeIntegerSwitches (platform : Platform) (info : DisplayInfo)
    (commandLine : CommandLine) (defaults : LayerTreeSettings) : LayerTreeSettings :=
  let defaultTileSize := calculateDefaultTileSize platform info
  let tileWidth := switchSetting commandLine kDefaultTileWidth 1 intMax 0 defaultTileSize.width
  let tileHeight := switchSetting commandLine kDefaultTileHeight 1 intMax 0 defaultTileSize.height
  let maxUntiledLayerWidth := defaults.maxUntiledLayerSize.width
  let maxUntiledLayerWidth := switchSetting commandLine kMaxUntiledLayerWidth 1 intMax
    maxUntiledLayerWidth maxUntiledLayerWidth
  let maxUntiledLayerHeight := defaults.maxUntiledLayerSize.height
  let maxUntiledLayerHeight := switchSetting commandLine kMaxUntiledLayerHeight 1 intMax
    maxUntiledLayerHeight maxUntiledLayerHeight
  let slowDownRasterScaleFactor := switchSetting commandLine kSlowDownRasterScaleFactor 0 intMax
    defaults.slowDownRasterScaleFactor defaults.slowDownRasterScaleFactor
  ⟨⟨tileWidth, tileHeight⟩, ⟨maxUntiledLayerWidth, maxUntiledLayerHeight⟩,
    slowDownRasterScaleFactor⟩

/-- A present tile-width switch that `GetSwitchValueAsInt` rejects makes the tile `0` wide. -/
theorem initializeIntegerSwitches_tileWidth_rejected (platform : Platform) (info : DisplayInfo)
    (commandLine : CommandLine) (defaults : LayerTreeSettings)
    (present : commandLine.hasSwitch kDefaultTileWidth)
    (rejected : acceptedSwitchValue commandLine kDefaultTileWidth 1 intMax = none) :
    (initializeIntegerSwitches platform info commandLine defaults).defaultTileSize.width = 0 := by
  simp only [initializeIntegerSwitches, switchSetting_eq, present, rejected, if_true,
    Option.getD_none]

/-- `--default-tile-width=0`: the switch is rejected, since `0` is below `min_value`, and the tile
width becomes `0` instead of the computed default of at least 256. -/
theorem defaultTileWidth_zero_switch (platform : Platform) (info : DisplayInfo)
    (defaults : LayerTreeSettings) :
    acceptedSwitchValue (.ofSwitches [(kDefaultTileWidth, "0")]) kDefaultTileWidth 1 intMax =
        none ∧
      256 ≤ (calculateDefaultTileSize platform info).width ∧
      (initializeIntegerSwitches platform info (.ofSwitches [(kDefaultTileWidth, "0")])
        defaults).defaultTileSize.width = 0 :=
  ⟨by decide, (calculateDefaultTileSize_ge platform info).2,
    initializeIntegerSwitches_tileWidth_rejected platform info _ defaults (by decide) (by decide)⟩

end ChromiumContent
