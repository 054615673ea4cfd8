import LedStrip.Pack.Source

/-!
# The effect pack that comes with the library

Four effects written as scripts, each with its description, its panel as data and, except for one, its panel as a script.
Every text is given line by line.
-/

namespace LedStrip
namespace Bundled

/-- The effects of the pack. -/
def manifestLines : List String :=
  ["\x7b",
   "  \"effects\": [\"blink\", \"chase\", \"rainbow\", \"wave\"]",
   "\x7d"]

/-- Functions that the effects share. -/
def runtimeLines : List String :=
  ["// Shared effect runtime: color conversion and machine helpers.",
   "//",
   "// Colors are tagged maps:",
   "//   #\x7b mode: \"rgb\", r, g, b \x7d   channels 0-255",
   "//   #\x7b mode: \"hsv\", h, s, v \x7d   h in degrees, s and v in 0-1",
   "// Frames are blobs of led_count * 3 bytes laid out R,G,B per LED.",
   "",
   "fn as_float(x) \x7b",
   "    if type_of(x) == \"f64\" \x7b x \x7d else \x7b x.to_float() \x7d",
   "\x7d",
   "",
   "// Whole part of a number; fractions are truncated",
   "fn as_int(x) \x7b",
   "    if type_of(x) == \"f64\" \x7b x.to_int() \x7d else \x7b x \x7d",
   "\x7d",
   "",
   "// 0-1 intensity to a byte, clamped",
   "fn to_byte(f) \x7b",
   "    let n = (f * 255.0).round().to_int();",
   "    if n < 0 \x7b 0 \x7d else if n > 255 \x7b 255 \x7d else \x7b n \x7d",
   "\x7d",
   "",
   "// HSV (h 0-360, s/v 0-1) to [r, g, b]",
   "fn hsv_to_rgb(h, s, v) \x7b",
   "    let hh = ((as_float(h) % 360.0) + 360.0) % 360.0;",
   "    let c = as_float(v) * as_float(s);",
   "    let x = c * (1.0 - ((hh / 60.0) % 2.0 - 1.0).abs());",
   "    let m = as_float(v) - c;",
   "",
   "    let r = 0.0;",
   "    let g = 0.0;",
   "    let b = 0.0;",
   "    if hh < 60.0 \x7b",
   "        r = c; g = x;",
   "    \x7d else if hh < 120.0 \x7b",
   "        r = x; g = c;",
   "    \x7d else if hh < 180.0 \x7b",
   "        g = c; b = x;",
   "    \x7d else if hh < 240.0 \x7b",
   "        g = x; b = c;",
   "    \x7d else if hh < 300.0 \x7b",
   "        r = x; b = c;",
   "    \x7d else \x7b",
   "        r = c; b = x;",
   "    \x7d",
   "    [to_byte(r + m), to_byte(g + m), to_byte(b + m)]",
   "\x7d",
   "",
   "fn color_field(color, mode, field) \x7b",
   "    let value = color[field];",
   "    if type_of(value) != \"i64\" && type_of(value) != \"f64\" \x7b",
   "        throw mode + \" color missing '\" + field + \"'\";",
   "    \x7d",
   "    as_float(value)",
   "\x7d",
   "",
   "// RGB channel in 0-255, rounded",
   "fn rgb_channel(color, field) \x7b",
   "    let n = color_field(color, \"rgb\", field);",
   "    if n < 0.0 || n > 255.0 \x7b",
   "        throw \"channel '\" + field + \"' out of range: \" + n;",
   "    \x7d",
   "    n.round().to_int()",
   "\x7d",
   "",
   "// Tagged color to [r, g, b]. `kind` is accepted in place of `mode`.",
   "fn to_rgb(color) \x7b",
   "    if type_of(color) != \"map\" \x7b",
   "        throw \"expected a color map, got \" + type_of(color);",
   "    \x7d",
   "    let mode = if \"mode\" in color \x7b color.mode \x7d else \x7b color.kind \x7d;",
   "    if type_of(mode) != \"string\" \x7b",
   "        throw \"missing color mode\";",
   "    \x7d",
   "    if mode == \"hsv\" \x7b",
   "        return hsv_to_rgb(",
   "            color_field(color, mode, \"h\"),",
   "            color_field(color, mode, \"s\"),",
   "            color_field(color, mode, \"v\")",
   "        );",
   "    \x7d",
   "    if mode == \"rgb\" \x7b",
   "        return [rgb_channel(color, \"r\"), rgb_channel(color, \"g\"), rgb_channel(color, \"b\")];",
   "    \x7d",
   "    throw \"invalid color kind: \" + mode;",
   "\x7d",
   "",
   "// Config lookup where zero or absence means `fallback`",
   "fn config_or(config, key, fallback) \x7b",
   "    let value = config[key];",
   "    if value == () || value == 0 || value == 0.0 \x7b fallback \x7d else \x7b value \x7d",
   "\x7d",
   "",
   "// Config lookup where only absence means `fallback`",
   "fn config_present_or(config, key, fallback) \x7b",
   "    let value = config[key];",
   "    if value == () \x7b fallback \x7d else \x7b value \x7d",
   "\x7d",
   "",
   "fn config_color_or(config, fallback) \x7b",
   "    let color = config.color;",
   "    if color == () \x7b fallback \x7d else \x7b to_rgb(color) \x7d",
   "\x7d",
   "",
   "// Machine description returned by every create_effect",
   "fn create_base_machine(config, default_speed, state) \x7b",
   "    #\x7b",
   "        led_count: as_int(config_or(config, \"ledCount\", 20)),",
   "        speed: as_int(config_or(config, \"speed\", default_speed)),",
   "        state: state",
   "    \x7d",
   "\x7d",
   "",
   "fn make_blank(led_count) \x7b",
   "    blob(led_count * 3, 0)",
   "\x7d",
   "",
   "// Call on a frame: `buf.paint_led(i, rgb)`",
   "fn paint_led(index, rgb) \x7b",
   "    let o = index * 3;",
   "    this[o] = rgb[0];",
   "    this[o + 1] = rgb[1];",
   "    this[o + 2] = rgb[2];",
   "\x7d",
   "",
   "fn paint_all(led_count, rgb) \x7b",
   "    for i in 0..led_count \x7b",
   "        this.paint_led(i, rgb);",
   "    \x7d",
   "\x7d"]

/-! ### Blink -/

/-- What Blink is called. -/
def blinkAboutLines : List String :=
  ["\x7b",
   "  \"id\": \"blink\",",
   "  \"name\": \"Blink\",",
   "  \"description\": \"All LEDs toggle on and off in unison\"",
   "\x7d"]

/-- How Blink computes its frames. -/
def blinkLogicLines : List String :=
  ["// Blink: every LED toggles between the color and off on each tick.",
   "",
   "fn create_effect(config) \x7b",
   "    let state = #\x7b",
   "        color: config_color_or(config, [217, 70, 239]),",
   "        on: false",
   "    \x7d;",
   "    create_base_machine(config, 200, state)",
   "\x7d",
   "",
   "fn on_tick(led_count) \x7b",
   "    this.on = !this.on;",
   "    let buf = make_blank(led_count);",
   "    if this.on \x7b",
   "        buf.paint_all(led_count, this.color);",
   "    \x7d",
   "    buf",
   "\x7d",
   "",
   "fn on_reset() \x7b",
   "    this.on = false;",
   "\x7d",
   "",
   "fn on_set_config(key, value) \x7b",
   "    if key == \"color\" \x7b",
   "        this.color = to_rgb(value);",
   "    \x7d",
   "\x7d"]

/-- The panel of Blink as data. -/
def blinkPanelLines : List String :=
  ["\x7b",
   "  \"root\": \"main\",",
   "  \"elements\": \x7b",
   "    \"main\": \x7b",
   "      \"type\": \"Stack\",",
   "      \"props\": \x7b \"direction\": \"vertical\", \"gap\": \"md\" \x7d,",
   "      \"children\": [\"color-card\", \"speed-card\"]",
   "    \x7d,",
   "    \"color-card\": \x7b \"type\": \"Card\", \"props\": \x7b \"title\": \"Color\" \x7d, \"children\": [\"color\"] \x7d,",
   "    \"color\": \x7b",
   "      \"type\": \"ColorHSV\",",
   "      \"props\": \x7b",
   "        \"label\": \"Color\",",
   "        \"hue\": \x7b \"$bindState\": \"/effect/hue\" \x7d,",
   "        \"saturation\": \x7b \"$bindState\": \"/effect/saturation\" \x7d,",
   "        \"brightness\": \x7b \"$bindState\": \"/effect/brightness\" \x7d,",
   "        \"accentColor\": null",
   "      \x7d",
   "    \x7d,",
   "    \"speed-card\": \x7b \"type\": \"Card\", \"props\": \x7b \"title\": null \x7d, \"children\": [\"speed\"] \x7d,",
   "    \"speed\": \x7b",
   "      \"type\": \"CupertinoSlider\",",
   "      \"props\": \x7b",
   "        \"label\": \"Blink interval\",",
   "        \"min\": 50,",
   "        \"max\": 1000,",
   "        \"step\": 10,",
   "        \"unit\": \"ms\",",
   "        \"value\": \x7b \"$bindState\": \"/effect/speed\" \x7d,",
   "        \"minLabel\": \"Fast\",",
   "        \"maxLabel\": \"Slow\"",
   "      \x7d",
   "    \x7d",
   "  \x7d,",
   "  \"state\": \x7b",
   "    \"effect\": \x7b \"hue\": 292, \"saturation\": 71, \"brightness\": 94, \"speed\": 200 \x7d",
   "  \x7d,",
   "  \"bridge\": \x7b \"colorKeys\": [\"hue\", \"saturation\", \"brightness\"] \x7d,",
   "  \"speed\": \x7b \"min\": 50, \"max\": 1000, \"default\": 200 \x7d",
   "\x7d"]

/-! ### Chase -/

/-- What Chase is called. -/
def chaseAboutLines : List String :=
  ["\x7b",
   "  \"id\": \"chase\",",
   "  \"name\": \"Chase\",",
   "  \"description\": \"Evenly spaced points chase around the strip\"",
   "\x7d"]

/-- How Chase computes its frames. -/
def chaseLogicLines : List String :=
  ["// Chase: evenly spaced LEDs run around the strip.",
   "",
   "fn create_effect(config) \x7b",
   "    let state = #\x7b",
   "        color: config_color_or(config, [251, 191, 36]),",
   "        chase_count: as_int(config_or(config, \"chaseCount\", 2)),",
   "        position: 0",
   "    \x7d;",
   "    create_base_machine(config, 80, state)",
   "\x7d",
   "",
   "fn on_tick(led_count) \x7b",
   "    let buf = make_blank(led_count);",
   "    let count = if this.chase_count < 1 \x7b 1 \x7d else \x7b this.chase_count \x7d;",
   "    let gap = led_count / count;",
   "    for i in 0..count \x7b",
   "        buf.paint_led((this.position + gap * i) % led_count, this.color);",
   "    \x7d",
   "    this.position = (this.position + 1) % led_count;",
   "    buf",
   "\x7d",
   "",
   "fn on_reset() \x7b",
   "    this.position = 0;",
   "\x7d",
   "",
   "fn on_set_config(key, value) \x7b",
   "    if key == \"color\" \x7b",
   "        this.color = to_rgb(value);",
   "    \x7d else if key == \"chaseCount\" \x7b",
   "        let n = as_int(value);",
   "        if n < 1 \x7b",
   "            throw \"chaseCount must be at least 1\";",
   "        \x7d",
   "        this.chase_count = n;",
   "    \x7d",
   "\x7d"]

/-- The panel of Chase as data. -/
def chasePanelLines : List String :=
  ["\x7b",
   "  \"root\": \"main\",",
   "  \"elements\": \x7b",
   "    \"main\": \x7b",
   "      \"type\": \"Stack\",",
   "      \"props\": \x7b \"direction\": \"vertical\", \"gap\": \"md\" \x7d,",
   "      \"children\": [\"color-card\", \"points-card\", \"speed-card\"]",
   "    \x7d,",
   "    \"color-card\": \x7b \"type\": \"Card\", \"props\": \x7b\x7d, \"children\": [\"color\"] \x7d,",
   "    \"color\": \x7b",
   "      \"type\": \"ColorHSV\",",
   "      \"props\": \x7b",
   "        \"label\": \"Color\",",
   "        \"hue\": \x7b \"$bindState\": \"/effect/hue\" \x7d,",
   "        \"saturation\": \x7b \"$bindState\": \"/effect/saturation\" \x7d,",
   "        \"brightness\": \x7b \"$bindState\": \"/effect/brightness\" \x7d",
   "      \x7d",
   "    \x7d,",
   "    \"points-card\": \x7b \"type\": \"Card\", \"props\": \x7b \"title\": \"Chase Points\" \x7d, \"children\": [\"points\"] \x7d,",
   "    \"points\": \x7b",
   "      \"type\": \"CupertinoSlider\",",
   "      \"props\": \x7b",
   "        \"label\": \"Points\",",
   "        \"min\": 1,",
   "        \"max\": 5,",
   "        \"value\": \x7b \"$bindState\": \"/effect/chaseCount\" \x7d",
   "      \x7d",
   "    \x7d,",
   "    \"speed-card\": \x7b \"type\": \"Card\", \"props\": \x7b \"title\": \"Speed\" \x7d, \"children\": [\"speed\", \"speed-hint\"] \x7d,",
   "    \"speed\": \x7b",
   "      \"type\": \"CupertinoSlider\",",
   "      \"props\": \x7b",
   "        \"label\": \"Speed\",",
   "        \"min\": 30,",
   "        \"max\": 300,",
   "        \"step\": 10,",
   "        \"unit\": \"ms\",",
   "        \"value\": \x7b \"$bindState\": \"/effect/speed\" \x7d,",
   "        \"minLabel\": \"Fast\",",
   "        \"maxLabel\": \"Slow\"",
   "      \x7d",
   "    \x7d,",
   "    \"speed-hint\": \x7b",
   "      \"type\": \"Text\",",
   "      \"props\": \x7b \"text\": \"Lower is faster\", \"variant\": \"hint\" \x7d",
   "    \x7d",
   "  \x7d,",
   "  \"state\": \x7b",
   "    \"effect\": \x7b \"hue\": 43, \"saturation\": 85, \"brightness\": 98, \"chaseCount\": 2, \"speed\": 80 \x7d",
   "  \x7d,",
   "  \"bridge\": \x7b \"colorKeys\": [\"hue\", \"saturation\", \"brightness\"] \x7d,",
   "  \"speed\": \x7b \"min\": 30, \"max\": 300, \"default\": 80 \x7d",
   "\x7d"]

/-- The panel of Chase as a script. -/
def chasePanelScriptLines : List String :=
  ["// Chase control panel in script form.",
   "",
   "exports.state = #\x7b",
   "    effect: #\x7b hue: 43, saturation: 85, brightness: 98, chaseCount: 2, speed: 80 \x7d",
   "\x7d;",
   "exports.bridge = #\x7b colorKeys: [\"hue\", \"saturation\", \"brightness\"] \x7d;",
   "exports.speed = #\x7b min: 30, max: 300, \"default\": 80 \x7d;",
   "",
   "fn render(state) \x7b",
   "    let points = state.effect.chaseCount;",
   "    let spacing = if points == () || points < 1 \x7b \"\" \x7d else \x7b \"Lighting \" + points + \" points\" \x7d;",
   "",
   "    ui::stack(#\x7b direction: \"vertical\", gap: \"md\" \x7d, [",
   "        ui::card(#\x7b title: \"Color\" \x7d, [",
   "            ui::color_hsv(#\x7b",
   "                label: \"Color\",",
   "                hue: ui::bind(\"/effect/hue\"),",
   "                saturation: ui::bind(\"/effect/saturation\"),",
   "                brightness: ui::bind(\"/effect/brightness\")",
   "            \x7d)",
   "        ]),",
   "        ui::card(#\x7b title: \"Chase Points\" \x7d, [",
   "            ui::slider(#\x7b label: \"Points\", min: 1, max: 5, value: ui::bind(\"/effect/chaseCount\") \x7d),",
   "            ui::text(#\x7b text: spacing, variant: \"hint\" \x7d)",
   "        ]),",
   "        ui::card(#\x7b title: \"Speed\" \x7d, [",
   "            ui::slider(#\x7b",
   "                label: \"Speed\",",
   "                min: 30,",
   "                max: 300,",
   "                step: 10,",
   "                unit: \"ms\",",
   "                value: ui::bind(\"/effect/speed\"),",
   "                minLabel: \"Fast\",",
   "                maxLabel: \"Slow\"",
   "            \x7d)",
   "        ])",
   "    ])",
   "\x7d"]

/-! ### Rainbow -/

/-- What Rainbow is called. -/
def rainbowAboutLines : List String :=
  ["\x7b",
   "  \"name\": \"Rainbow\",",
   "  \"description\": \"A rotating rainbow spread across every LED\"",
   "\x7d"]

/-- How Rainbow computes its frames. -/
def rainbowLogicLines : List String :=
  ["// Rainbow: each LED's hue is spread along the strip and rotates every tick.",
   "",
   "fn create_effect(config) \x7b",
   "    let state = #\x7b",
   "        hue_step: as_float(config_or(config, \"hueStep\", 10)),",
   "        hue_spread: as_float(config_or(config, \"hueSpread\", 18)),",
   "        saturation: as_float(config_present_or(config, \"saturation\", 1)),",
   "        brightness: as_float(config_present_or(config, \"brightness\", 1)),",
   "        offset: 0.0",
   "    \x7d;",
   "    create_base_machine(config, 100, state)",
   "\x7d",
   "",
   "fn on_tick(led_count) \x7b",
   "    let buf = make_blank(led_count);",
   "    for i in 0..led_count \x7b",
   "        let hue = (as_float(i) * this.hue_spread + this.offset) % 360.0;",
   "        buf.paint_led(i, hsv_to_rgb(hue, this.saturation, this.brightness));",
   "    \x7d",
   "    this.offset = (this.offset + this.hue_step) % 360.0;",
   "    buf",
   "\x7d",
   "",
   "fn on_reset() \x7b",
   "    this.offset = 0.0;",
   "\x7d",
   "",
   "fn on_set_config(key, value) \x7b",
   "    switch key \x7b",
   "        \"hueStep\" => \x7b this.hue_step = as_float(value); \x7d,",
   "        \"hueSpread\" => \x7b this.hue_spread = as_float(value); \x7d,",
   "        \"saturation\" => \x7b this.saturation = as_float(value); \x7d,",
   "        \"brightness\" => \x7b this.brightness = as_float(value); \x7d,",
   "    \x7d",
   "\x7d"]

/-- The panel of Rainbow as data. -/
def rainbowPanelLines : List String :=
  ["\x7b",
   "  \"root\": \"main\",",
   "  \"elements\": \x7b",
   "    \"main\": \x7b",
   "      \"type\": \"Stack\",",
   "      \"props\": \x7b \"direction\": \"vertical\", \"gap\": \"lg\" \x7d,",
   "      \"children\": [\"speed-card\", \"shape-card\"]",
   "    \x7d,",
   "    \"speed-card\": \x7b \"type\": \"Card\", \"props\": \x7b \"title\": \"Speed Control\" \x7d, \"children\": [\"speed\"] \x7d,",
   "    \"speed\": \x7b",
   "      \"type\": \"CupertinoSlider\",",
   "      \"props\": \x7b",
   "        \"label\": \"Speed\",",
   "        \"min\": 20,",
   "        \"max\": 500,",
   "        \"step\": 10,",
   "        \"unit\": \"ms\",",
   "        \"value\": \x7b \"$bindState\": \"/effect/speed\" \x7d,",
   "        \"minLabel\": \"Fast\",",
   "        \"maxLabel\": \"Slow\"",
   "      \x7d",
   "    \x7d,",
   "    \"shape-card\": \x7b",
   "      \"type\": \"Card\",",
   "      \"props\": \x7b \"title\": \"Shape\" \x7d,",
   "      \"children\": [\"hue-step\", \"hue-spread\", \"saturation\", \"brightness\"]",
   "    \x7d,",
   "    \"hue-step\": \x7b",
   "      \"type\": \"CupertinoSlider\",",
   "      \"props\": \x7b \"label\": \"Hue step\", \"min\": 1, \"max\": 60, \"unit\": \"°\", \"value\": \x7b \"$bindState\": \"/effect/hueStep\" \x7d \x7d",
   "    \x7d,",
   "    \"hue-spread\": \x7b",
   "      \"type\": \"CupertinoSlider\",",
   "      \"props\": \x7b \"label\": \"Hue spread\", \"min\": 0, \"max\": 60, \"unit\": \"°\", \"value\": \x7b \"$bindState\": \"/effect/hueSpread\" \x7d \x7d",
   "    \x7d,",
   "    \"saturation\": \x7b",
   "      \"type\": \"CupertinoSlider\",",
   "      \"props\": \x7b \"label\": \"Saturation\", \"min\": 0, \"max\": 100, \"step\": 5, \"unit\": \"%\", \"value\": \x7b \"$bindState\": \"/effect/saturation\" \x7d \x7d",
   "    \x7d,",
   "    \"brightness\": \x7b",
   "      \"type\": \"CupertinoSlider\",",
   "      \"props\": \x7b \"label\": \"Brightness\", \"min\": 0, \"max\": 100, \"step\": 5, \"unit\": \"%\", \"value\": \x7b \"$bindState\": \"/effect/brightness\" \x7d \x7d",
   "    \x7d",
   "  \x7d,",
   "  \"state\": \x7b",
   "    \"effect\": \x7b \"speed\": 100, \"hueStep\": 10, \"hueSpread\": 18, \"saturation\": 100, \"brightness\": 100 \x7d",
   "  \x7d,",
   "  \"bridge\": \x7b \"scaleKeys\": \x7b \"saturation\": 0.01, \"brightness\": 0.01 \x7d \x7d,",
   "  \"speed\": \x7b \"min\": 20, \"max\": 500, \"default\": 100 \x7d",
   "\x7d"]

/-- The panel of Rainbow as a script. -/
def rainbowPanelScriptLines : List String :=
  ["// Rainbow control panel in script form.",
   "",
   "exports.state = #\x7b",
   "    effect: #\x7b speed: 100, hueStep: 10, hueSpread: 18, saturation: 100, brightness: 100 \x7d",
   "\x7d;",
   "exports.bridge = #\x7b scaleKeys: #\x7b saturation: 0.01, brightness: 0.01 \x7d \x7d;",
   "exports.speed = #\x7b min: 20, max: 500, \"default\": 100 \x7d;",
   "",
   "fn percent_slider(label, key) \x7b",
   "    ui::slider(#\x7b label: label, min: 0, max: 100, step: 5, unit: \"%\", value: ui::bind(\"/effect/\" + key) \x7d)",
   "\x7d",
   "",
   "fn render(state) \x7b",
   "    ui::stack(#\x7b direction: \"vertical\", gap: \"lg\" \x7d, [",
   "        ui::card(#\x7b title: \"Speed Control\" \x7d, [",
   "            ui::slider(#\x7b label: \"Speed\", min: 20, max: 500, step: 10, unit: \"ms\", value: ui::bind(\"/effect/speed\") \x7d)",
   "        ]),",
   "        ui::card(#\x7b title: \"Shape\" \x7d, [",
   "            ui::slider(#\x7b label: \"Hue step\", min: 1, max: 60, unit: \"°\", value: ui::bind(\"/effect/hueStep\") \x7d),",
   "            ui::slider(#\x7b label: \"Hue spread\", min: 0, max: 60, unit: \"°\", value: ui::bind(\"/effect/hueSpread\") \x7d),",
   "            percent_slider(\"Saturation\", \"saturation\"),",
   "            percent_slider(\"Brightness\", \"brightness\")",
   "        ])",
   "    ])",
   "\x7d"]

/-! ### Wave -/

/-- What Wave is called. -/
def waveAboutLines : List String :=
  ["\x7b",
   "  \"id\": \"wave\",",
   "  \"name\": \"Wave\",",
   "  \"description\": \"A band of adjacent LEDs slides along the strip\"",
   "\x7d"]

/-- How Wave computes its frames. -/
def waveLogicLines : List String :=
  ["// Wave: a band of adjacent LEDs slides along the strip.",
   "",
   "fn create_effect(config) \x7b",
   "    let state = #\x7b",
   "        color: config_color_or(config, [52, 211, 153]),",
   "        wave_width: as_int(config_or(config, \"waveWidth\", 5)),",
   "        position: 0",
   "    \x7d;",
   "    create_base_machine(config, 100, state)",
   "\x7d",
   "",
   "fn on_tick(led_count) \x7b",
   "    let buf = make_blank(led_count);",
   "    for i in 0..this.wave_width \x7b",
   "        buf.paint_led((this.position + i) % led_count, this.color);",
   "    \x7d",
   "    this.position = (this.position + 1) % led_count;",
   "    buf",
   "\x7d",
   "",
   "fn on_reset() \x7b",
   "    this.position = 0;",
   "\x7d",
   "",
   "fn on_set_config(key, value) \x7b",
   "    if key == \"color\" \x7b",
   "        this.color = to_rgb(value);",
   "    \x7d else if key == \"waveWidth\" \x7b",
   "        let n = as_int(value);",
   "        if n < 1 \x7b",
   "            throw \"waveWidth must be at least 1\";",
   "        \x7d",
   "        this.wave_width = n;",
   "    \x7d",
   "\x7d"]

/-- The panel of Wave as data. -/
def wavePanelLines : List String :=
  ["\x7b",
   "  \"root\": \"main\",",
   "  \"elements\": \x7b",
   "    \"main\": \x7b",
   "      \"type\": \"Stack\",",
   "      \"props\": \x7b \"direction\": \"vertical\" \x7d,",
   "      \"children\": [\"color\", \"width\", \"speed\"]",
   "    \x7d,",
   "    \"color\": \x7b",
   "      \"type\": \"ColorHSV\",",
   "      \"props\": \x7b",
   "        \"label\": \"Wave color\",",
   "        \"hue\": \x7b \"$bindState\": \"/effect/hue\" \x7d,",
   "        \"saturation\": \x7b \"$bindState\": \"/effect/saturation\" \x7d,",
   "        \"brightness\": \x7b \"$bindState\": \"/effect/brightness\" \x7d",
   "      \x7d",
   "    \x7d,",
   "    \"width\": \x7b",
   "      \"type\": \"CupertinoSlider\",",
   "      \"props\": \x7b \"label\": \"Wave width\", \"min\": 1, \"max\": 10, \"value\": \x7b \"$bindState\": \"/effect/waveWidth\" \x7d \x7d",
   "    \x7d,",
   "    \"speed\": \x7b",
   "      \"type\": \"CupertinoSlider\",",
   "      \"props\": \x7b \"label\": \"Speed\", \"min\": 20, \"max\": 400, \"step\": 10, \"unit\": \"ms\", \"value\": \x7b \"$bindState\": \"/effect/speed\" \x7d \x7d",
   "    \x7d",
   "  \x7d,",
   "  \"state\": \x7b",
   "    \"effect\": \x7b \"hue\": 158, \"saturation\": 75, \"brightness\": 83, \"waveWidth\": 5, \"speed\": 100 \x7d",
   "  \x7d,",
   "  \"bridge\": \x7b \"colorKeys\": [\"hue\", \"saturation\", \"brightness\"] \x7d",
   "\x7d"]

/-- The panel of Wave as a script. -/
def wavePanelScriptLines : List String :=
  ["// Wave control panel in script form.",
   "",
   "exports.state = #\x7b",
   "    effect: #\x7b hue: 158, saturation: 75, brightness: 83, waveWidth: 5, speed: 100 \x7d",
   "\x7d;",
   "exports.bridge = #\x7b colorKeys: [\"hue\", \"saturation\", \"brightness\"] \x7d;",
   "exports.speed = #\x7b min: 20, max: 400, \"default\": 100 \x7d;",
   "",
   "fn render(state) \x7b",
   "    let width = state.effect.waveWidth;",
   "    let hint = if width == () || width < 1 \x7b \"\" \x7d else \x7b \"Band of \" + width + \" LEDs\" \x7d;",
   "",
   "    ui::stack(#\x7b direction: \"vertical\", gap: \"md\" \x7d, [",
   "        ui::color_hsv(#\x7b",
   "            label: \"Wave color\",",
   "            hue: ui::bind(\"/effect/hue\"),",
   "            saturation: ui::bind(\"/effect/saturation\"),",
   "            brightness: ui::bind(\"/effect/brightness\")",
   "        \x7d),",
   "        ui::slider(#\x7b label: \"Wave width\", min: 1, max: 10, value: ui::bind(\"/effect/waveWidth\") \x7d),",
   "        ui::text(#\x7b text: hint, variant: \"hint\" \x7d),",
   "        ui::slider(#\x7b label: \"Speed\", min: 20, max: 400, step: 10, unit: \"ms\", value: ui::bind(\"/effect/speed\") \x7d)",
   "    ])",
   "\x7d"]

/-! ### The whole pack -/

/-- Texts under their names. -/
def effects : Entries String := Entries.ofList
  [(Resource.manifest, Text.ofLines manifestLines),
   (Resource.runtime, Text.ofLines runtimeLines),
   (Resource.about "blink", Text.ofLines blinkAboutLines),
   (Resource.logic "blink", Text.ofLines blinkLogicLines),
   (Resource.panelSpec "blink", Text.ofLines blinkPanelLines),
   (Resource.about "chase", Text.ofLines chaseAboutLines),
   (Resource.logic "chase", Text.ofLines chaseLogicLines),
   (Resource.panelSpec "chase", Text.ofLines chasePanelLines),
   (Resource.panelScript "chase", Text.ofLines chasePanelScriptLines),
   (Resource.about "rainbow", Text.ofLines rainbowAboutLines),
   (Resource.logic "rainbow", Text.ofLines rainbowLogicLines),
   (Resource.panelSpec "rainbow", Text.ofLines rainbowPanelLines),
   (Resource.panelScript "rainbow", Text.ofLines rainbowPanelScriptLines),
   (Resource.about "wave", Text.ofLines waveAboutLines),
   (Resource.logic "wave", Text.ofLines waveLogicLines),
   (Resource.panelSpec "wave", Text.ofLines wavePanelLines),
   (Resource.panelScript "wave", Text.ofLines wavePanelScriptLines)]

end Bundled
end LedStrip
