import LedStrip.Loader.Load
import LedStrip.Pack.Bundled.Effects
import LedStrip.Script.Equality

/-!
# The scripts of the bundled effects, read

What the parser makes of the logic of the bundled effects.  Every text is parsed once, by
computation (`parse_scripts`); from there on the scripts are the syntax trees below.
Loops have names of their own, so that what they do can be said apart from the rest.
-/

namespace LedStrip
namespace Bundled

open Script (Expr Function Program)

/-! ### What the effects share -/

namespace Runtime

def asFloat : Function :=
  ⟨"as_float", ["x"], .block
    [.ifElse
       (.binary .eq (.call "type_of" [.var "x"]) (.str "f64"))
       (.block [.var "x"])
       (.block [.chain (.var "x") [.method "to_float" []]])]⟩

def asInt : Function :=
  ⟨"as_int", ["x"], .block
    [.ifElse
       (.binary .eq (.call "type_of" [.var "x"]) (.str "f64"))
       (.block [.chain (.var "x") [.method "to_int" []]])
       (.block [.var "x"])]⟩

def toByte : Function :=
  ⟨"to_byte", ["f"], .block
    [.declare
       "n"
       false
       (.chain (.binary .mul (.var "f") (.float 255)) [.method "round" [], .method "to_int" []]),
     .ifElse
       (.binary .lt (.var "n") (.int 0))
       (.block [.int 0])
       (.ifElse (.binary .gt (.var "n") (.int 255)) (.block [.int 255]) (.block [.var "n"]))]⟩

def hsvToRgb : Function :=
  ⟨"hsv_to_rgb", ["h", "s", "v"], .block
    [.declare
       "hh"
       false
       (.binary
          .rem
          (.binary .add (.binary .rem (.call "as_float" [.var "h"]) (.float 360)) (.float 360))
          (.float 360)),
     .declare "c" false (.binary .mul (.call "as_float" [.var "v"]) (.call "as_float" [.var "s"])),
     .declare
       "x"
       false
       (.binary
          .mul
          (.var "c")
          (.binary
             .sub
             (.float 1)
             (.chain
                (.binary
                   .sub
                   (.binary .rem (.binary .div (.var "hh") (.float 60)) (.float 2))
                   (.float 1))
                [.method "abs" []]))),
     .declare "m" false (.binary .sub (.call "as_float" [.var "v"]) (.var "c")),
     .declare "r" false (.float 0),
     .declare "g" false (.float 0),
     .declare "b" false (.float 0),
     .ifElse
       (.binary .lt (.var "hh") (.float 60))
       (.block [.assign (.var "r") [] none (.var "c"), .assign (.var "g") [] none (.var "x")])
       (.ifElse
          (.binary .lt (.var "hh") (.float 120))
          (.block [.assign (.var "r") [] none (.var "x"), .assign (.var "g") [] none (.var "c")])
          (.ifElse
             (.binary .lt (.var "hh") (.float 180))
             (.block [.assign (.var "g") [] none (.var "c"), .assign (.var "b") [] none (.var "x")])
             (.ifElse
                (.binary .lt (.var "hh") (.float 240))
                (.block
                   [.assign (.var "g") [] none (.var "x"), .assign (.var "b") [] none (.var "c")])
                (.ifElse
                   (.binary .lt (.var "hh") (.float 300))
                   (.block
                      [.assign (.var "r") [] none (.var "x"),
                       .assign (.var "b") [] none (.var "c")])
                   (.block
                      [.assign (.var "r") [] none (.var "c"),
                       .assign (.var "b") [] none (.var "x")]))))),
     .array
       [.call "to_byte" [.binary .add (.var "r") (.var "m")],
        .call "to_byte" [.binary .add (.var "g") (.var "m")],
        .call "to_byte" [.binary .add (.var "b") (.var "m")]]]⟩

def colorField : Function :=
  ⟨"color_field", ["color", "mode", "field"], .block
    [.declare "value" false (.chain (.var "color") [.index (.var "field")]),
     .ifElse
       (.and
          (.binary .ne (.call "type_of" [.var "value"]) (.str "i64"))
          (.binary .ne (.call "type_of" [.var "value"]) (.str "f64")))
       (.block
          [.throwValue
             (.binary
                .add
                (.binary .add (.binary .add (.var "mode") (.str " color missing '")) (.var "field"))
                (.str "'"))])
       .unit,
     .call "as_float" [.var "value"]]⟩

def rgbChannel : Function :=
  ⟨"rgb_channel", ["color", "field"], .block
    [.declare "n" false (.call "color_field" [.var "color", .str "rgb", .var "field"]),
     .ifElse
       (.or (.binary .lt (.var "n") (.float 0)) (.binary .gt (.var "n") (.float 255)))
       (.block
          [.throwValue
             (.binary
                .add
                (.binary
                   .add
                   (.binary .add (.str "channel '") (.var "field"))
                   (.str "' out of range: "))
                (.var "n"))])
       .unit,
     .chain (.var "n") [.method "round" [], .method "to_int" []]]⟩

def toRgb : Function :=
  ⟨"to_rgb", ["color"], .block
    [.ifElse
       (.binary .ne (.call "type_of" [.var "color"]) (.str "map"))
       (.block
          [.throwValue
             (.binary .add (.str "expected a color map, got ") (.call "type_of" [.var "color"]))])
       .unit,
     .declare
       "mode"
       false
       (.ifElse
          (.member (.str "mode") (.var "color"))
          (.block [.chain (.var "color") [.prop "mode"]])
          (.block [.chain (.var "color") [.prop "kind"]])),
     .ifElse
       (.binary .ne (.call "type_of" [.var "mode"]) (.str "string"))
       (.block [.throwValue (.str "missing color mode")])
       .unit,
     .ifElse
       (.binary .eq (.var "mode") (.str "hsv"))
       (.block
          [.returnValue
             (.call
                "hsv_to_rgb"
                [.call "color_field" [.var "color", .var "mode", .str "h"],
                 .call "color_field" [.var "color", .var "mode", .str "s"],
                 .call "color_field" [.var "color", .var "mode", .str "v"]])])
       .unit,
     .ifElse
       (.binary .eq (.var "mode") (.str "rgb"))
       (.block
          [.returnValue
             (.array
                [.call "rgb_channel" [.var "color", .str "r"],
                 .call "rgb_channel" [.var "color", .str "g"],
                 .call "rgb_channel" [.var "color", .str "b"]])])
       .unit,
     .throwValue (.binary .add (.str "invalid color kind: ") (.var "mode"))]⟩

def configOr : Function :=
  ⟨"config_or", ["config", "key", "fallback"], .block
    [.declare "value" false (.chain (.var "config") [.index (.var "key")]),
     .ifElse
       (.or
          (.or (.binary .eq (.var "value") .unit) (.binary .eq (.var "value") (.int 0)))
          (.binary .eq (.var "value") (.float 0)))
       (.block [.var "fallback"])
       (.block [.var "value"])]⟩

def configPresentOr : Function :=
  ⟨"config_present_or", ["config", "key", "fallback"], .block
    [.declare "value" false (.chain (.var "config") [.index (.var "key")]),
     .ifElse (.binary .eq (.var "value") .unit) (.block [.var "fallback"]) (.block [.var "value"])]⟩

def configColorOr : Function :=
  ⟨"config_color_or", ["config", "fallback"], .block
    [.declare "color" false (.chain (.var "config") [.prop "color"]),
     .ifElse
       (.binary .eq (.var "color") .unit)
       (.block [.var "fallback"])
       (.block [.call "to_rgb" [.var "color"]])]⟩

def createBaseMachine : Function :=
  ⟨"create_base_machine", ["config", "default_speed", "state"], .block
    [.map
       ["led_count", "speed", "state"]
       [.call "as_int" [.call "config_or" [.var "config", .str "ledCount", .int 20]],
        .call "as_int" [.call "config_or" [.var "config", .str "speed", .var "default_speed"]],
        .var "state"]]⟩

def makeBlank : Function :=
  ⟨"make_blank", ["led_count"], .block
    [.call "blob" [.binary .mul (.var "led_count") (.int 3), .int 0]]⟩

def paintLed : Function :=
  ⟨"paint_led", ["index", "rgb"], .block
    [.declare "o" false (.binary .mul (.var "index") (.int 3)),
     .assign .this [.index (.var "o")] none (.chain (.var "rgb") [.index (.int 0)]),
     .assign
       .this
       [.index (.binary .add (.var "o") (.int 1))]
       none
       (.chain (.var "rgb") [.index (.int 1)]),
     .assign
       .this
       [.index (.binary .add (.var "o") (.int 2))]
       none
       (.chain (.var "rgb") [.index (.int 2)])]⟩

/-- The loop of `paintAll`. -/
def paintEach : Expr :=
  .forLoop "i" (.binary .range (.int 0) (.var "led_count"))
    (.block [.chain .this [.method "paint_led" [.var "i", .var "rgb"]]])

def paintAll : Function :=
  ⟨"paint_all", ["led_count", "rgb"], .block [paintEach]⟩

end Runtime

def runtime : Program where
  functions :=
   [Runtime.asFloat, Runtime.asInt, Runtime.toByte, Runtime.hsvToRgb, Runtime.colorField,
    Runtime.rgbChannel, Runtime.toRgb, Runtime.configOr, Runtime.configPresentOr,
    Runtime.configColorOr, Runtime.createBaseMachine, Runtime.makeBlank, Runtime.paintLed,
    Runtime.paintAll]
  body := []

/-! ### What the logics have in common -/

namespace Logic

/-- A color in a script. -/
def rgbLiteral (c : Rgb) : Expr := .array [.int c.r.toNat, .int c.g.toNat, .int c.b.toNat]

/-- The part of a setter for the color. -/
def setColor : Expr :=
  .block [.assign .this [.prop "color"] none (.call "to_rgb" [.var "value"])]

/-- The part of a setter for a count. -/
def setCount (member message : String) : Expr :=
  .block
    [.declare "n" false (.call "as_int" [.var "value"]),
     .ifElse
       (.binary .lt (.var "n") (.int 1))
       (.block [.throwValue (.str message)])
       .unit,
     .assign .this [.prop member] none (.var "n")]

end Logic

/-! ### Blink -/

namespace BlinkLogic

def createEffect : Function :=
  ⟨"create_effect", ["config"], .block
    [.declare
       "state"
       false
       (.map
          ["color", "on"]
          [.call "config_color_or" [.var "config", Logic.rgbLiteral ⟨217, 70, 239⟩], .bool false]),
     .call "create_base_machine" [.var "config", .int 200, .var "state"]]⟩

def onTick : Function :=
  ⟨"on_tick", ["led_count"], .block
    [.assign .this [.prop "on"] none (.not (.chain .this [.prop "on"])),
     .declare "buf" false (.call "make_blank" [.var "led_count"]),
     .ifElse
       (.chain .this [.prop "on"])
       (.block
          [.chain
             (.var "buf")
             [.method "paint_all" [.var "led_count", .chain .this [.prop "color"]]]])
       .unit,
     .var "buf"]⟩

def onReset : Function :=
  ⟨"on_reset", [], .block [.assign .this [.prop "on"] none (.bool false)]⟩

def onSetConfig : Function :=
  ⟨"on_set_config", ["key", "value"], .block
    [.ifElse (.binary .eq (.var "key") (.str "color")) Logic.setColor .unit]⟩

end BlinkLogic

def blinkLogic : Program where
  functions :=
   [BlinkLogic.createEffect, BlinkLogic.onTick, BlinkLogic.onReset, BlinkLogic.onSetConfig]
  body := []

/-! ### Effects that run around the strip -/

namespace RunningLogic

/-- The state has a color, a count under a name of its own and a position. -/
def createEffect (color : Rgb) (member key : String) (count speed : Nat) : Function :=
  ⟨"create_effect", ["config"], .block
    [.declare
       "state"
       false
       (.map
          ["color", member, "position"]
          [.call "config_color_or" [.var "config", Logic.rgbLiteral color],
           .call "as_int" [.call "config_or" [.var "config", .str key, .int count]],
           .int 0]),
     .call "create_base_machine" [.var "config", .int speed, .var "state"]]⟩

/-- One step along the strip. -/
def advance : Expr :=
  .assign .this [.prop "position"] none
    (.binary .rem (.binary .add (.chain .this [.prop "position"]) (.int 1)) (.var "led_count"))

def onReset : Function :=
  ⟨"on_reset", [], .block [.assign .this [.prop "position"] none (.int 0)]⟩

def onSetConfig (member key message : String) : Function :=
  ⟨"on_set_config", ["key", "value"], .block
    [.ifElse
       (.binary .eq (.var "key") (.str "color"))
       Logic.setColor
       (.ifElse (.binary .eq (.var "key") (.str key)) (Logic.setCount member message) .unit)]⟩

end RunningLogic

/-! ### Chase -/

namespace ChaseLogic

/-- Where point number `i` stands. -/
def spot : Expr :=
  .binary .rem
    (.binary .add (.chain .this [.prop "position"]) (.binary .mul (.var "gap") (.var "i")))
    (.var "led_count")

/-- The loop of `onTick`. -/
def paintPoints : Expr :=
  .forLoop "i" (.binary .range (.int 0) (.var "count"))
    (.block
      [.chain (.var "buf") [.method "paint_led" [spot, .chain .this [.prop "color"]]]])

def onTick : Function :=
  ⟨"on_tick", ["led_count"], .block
    [.declare "buf" false (.call "make_blank" [.var "led_count"]),
     .declare
       "count"
       false
       (.ifElse
          (.binary .lt (.chain .this [.prop "chase_count"]) (.int 1))
          (.block [.int 1])
          (.block [.chain .this [.prop "chase_count"]])),
     .declare "gap" false (.binary .div (.var "led_count") (.var "count")),
     paintPoints,
     RunningLogic.advance,
     .var "buf"]⟩

end ChaseLogic

def chaseLogic : Program where
  functions :=
   [RunningLogic.createEffect ⟨251, 191, 36⟩ "chase_count" "chaseCount" 2 80, ChaseLogic.onTick,
    RunningLogic.onReset,
    RunningLogic.onSetConfig "chase_count" "chaseCount" "chaseCount must be at least 1"]
  body := []

/-! ### Wave -/

namespace WaveLogic

/-- Where LED number `i` of the band stands. -/
def spot : Expr :=
  .binary .rem (.binary .add (.chain .this [.prop "position"]) (.var "i")) (.var "led_count")

/-- The loop of `onTick`. -/
def paintBand : Expr :=
  .forLoop "i" (.binary .range (.int 0) (.chain .this [.prop "wave_width"]))
    (.block
      [.chain (.var "buf") [.method "paint_led" [spot, .chain .this [.prop "color"]]]])

def onTick : Function :=
  ⟨"on_tick", ["led_count"], .block
    [.declare "buf" false (.call "make_blank" [.var "led_count"]),
     paintBand,
     RunningLogic.advance,
     .var "buf"]⟩

end WaveLogic

def waveLogic : Program where
  functions :=
   [RunningLogic.createEffect ⟨52, 211, 153⟩ "wave_width" "waveWidth" 5 100, WaveLogic.onTick,
    RunningLogic.onReset,
    RunningLogic.onSetConfig "wave_width" "waveWidth" "waveWidth must be at least 1"]
  body := []

/-! ### Reading the texts -/

theorem toList_ofLines (lines : List String) :
    (Text.ofLines lines).toList = lines.flatMap fun line => line.toList ++ ['\n'] := by
  simp [Text.ofLines, List.flatMap, Function.comp_def]

/-- The parser on characters. -/
def parseChars (cs : List Char) : Except Script.SyntaxError Program :=
  let (gs, last) := Script.glyphsFrom cs 1 0
  let ls := Script.lexemesFrom last (gs.length + 1) gs {}
  let state : Script.ParserState :=
    { rest := ls, visible := [], modules := Script.knownModules, outside := [] }
  let fuel := 16 * ls.length + 64
  match (Script.statements fuel { strict := false, isGlobal := true }).run state with
  | .error e => .error e
  | .ok (body, s) => .ok { functions := s.functions, body := body }

theorem parse_ofLines (css : List (List Char)) :
    Script.parse false [] (Text.ofLines (css.map String.ofList)) =
      parseChars (css.flatMap (· ++ ['\n'])) := by
  have htext : (Text.ofLines (css.map String.ofList)).toList = css.flatMap (· ++ ['\n']) := by
    simp only [toList_ofLines, List.flatMap_map, String.toList_ofList]
  rw [← htext]
  rfl

/-- Lines that are spelled out and whose characters parse. -/
theorem parse_eq_ok {lines : List String} {css : List (List Char)} {p : Program}
    (hl : lines = css.map String.ofList)
    (hp : (parseChars (css.flatMap (· ++ ['\n']))).toOption = some p) :
    Script.parse false [] (Text.ofLines lines) = .ok p := by
  rw [hl, parse_ofLines]
  cases hc : parseChars (css.flatMap (· ++ ['\n'])) with
  | error e => rw [hc] at hp; cases hp
  | ok q => rw [hc] at hp; exact congrArg _ (Option.some.inj hp)

theorem spell_nil : ([] : List String) = [].map String.ofList := rfl

theorem spell_cons {cs : List Char} {css : List (List Char)} {lines : List String}
    (h : lines = css.map String.ofList) :
    String.ofList cs :: lines = (cs :: css).map String.ofList := by
  rw [h, List.map_cons]

section Parse

set_option maxRecDepth 100000

/-- What the parser makes of the runtime and of the three logics.  They are parsed one after the
other: each takes memory while it is checked. -/
theorem parse_scripts :
    Script.parse false [] (Text.ofLines runtimeLines) = .ok runtime ∧
      Script.parse false [] (Text.ofLines blinkLogicLines) = .ok blinkLogic ∧
      Script.parse false [] (Text.ofLines chaseLogicLines) = .ok chaseLogic ∧
      Script.parse false [] (Text.ofLines waveLogicLines) = .ok waveLogic := by
  refine ⟨?_, ?_, ?_, ?_⟩
  all_goals
    apply parse_eq_ok
    · repeat apply spell_cons
      exact spell_nil
    · decide +kernel

end Parse

/-! ### The programs of the effects -/

/-- The scripts of an effect, under their names in the pack. -/
def logicSegments (id : String) : List Loader.Segment :=
  [Resource.runtime, Resource.logic id].filterMap fun name =>
    (Entries.get? name effects).map fun text => ⟨name, text⟩

/-- The runtime and the logic of an effect in one program. -/
def withRuntime (logic : Program) : Program := ⟨runtime.functions ++ logic.functions, []⟩

theorem get?_runtime :
    Entries.get? Resource.runtime effects = some (Text.ofLines runtimeLines) := by rfl

theorem get?_blinkLogic :
    Entries.get? (Resource.logic "blink") effects = some (Text.ofLines blinkLogicLines) := by rfl

theorem get?_chaseLogic :
    Entries.get? (Resource.logic "chase") effects = some (Text.ofLines chaseLogicLines) := by rfl

theorem get?_waveLogic :
    Entries.get? (Resource.logic "wave") effects = some (Text.ofLines waveLogicLines) := by rfl

theorem logicSegments_eq {id text : String}
    (h : Entries.get? (Resource.logic id) effects = some text) :
    logicSegments id =
      [⟨Resource.runtime, Text.ofLines runtimeLines⟩, ⟨Resource.logic id, text⟩] := by
  simp only [logicSegments, List.filterMap_cons, get?_runtime, h, Option.map_some,
    List.filterMap_nil]

theorem compileSegment_of_parse {name text : String} {p : Program}
    (h : Script.parse false [] text = .ok p) (hp : p.functions ≠ []) :
    Loader.compileSegment ⟨name, text⟩ = .ok p := by
  simp [Loader.compileSegment, h, hp]

/-- The loader reads the scripts of an effect into the runtime followed by the logic, where the
logic redefines nothing of the runtime. -/
theorem compile_logic {id text : String} {logic : Program}
    (htext : Entries.get? (Resource.logic id) effects = some text)
    (hparse : Script.parse false [] text = .ok logic) (hlogic : logic.functions ≠ [])
    (happend : runtime ++ (logic ++ ⟨[], []⟩) = withRuntime logic) :
    Loader.compileAll (logicSegments id) = .ok (withRuntime logic) := by
  have hruntime : runtime.functions ≠ [] := List.cons_ne_nil _ _
  rw [logicSegments_eq htext, ← happend]
  unfold Loader.compileAll
  rw [compileSegment_of_parse parse_scripts.1 hruntime]
  unfold Loader.compileAll
  rw [compileSegment_of_parse hparse hlogic]
  rfl

theorem compile_blink :
    Loader.compileAll (logicSegments "blink") = .ok (withRuntime blinkLogic) :=
  compile_logic get?_blinkLogic parse_scripts.2.1 (List.cons_ne_nil _ _) (by decide +kernel)

theorem compile_chase :
    Loader.compileAll (logicSegments "chase") = .ok (withRuntime chaseLogic) :=
  compile_logic get?_chaseLogic parse_scripts.2.2.1 (List.cons_ne_nil _ _) (by decide +kernel)

theorem compile_wave :
    Loader.compileAll (logicSegments "wave") = .ok (withRuntime waveLogic) :=
  compile_logic get?_waveLogic parse_scripts.2.2.2 (List.cons_ne_nil _ _) (by decide +kernel)

end Bundled
end LedStrip
