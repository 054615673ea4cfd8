import LedStrip.Pack.Bundled.Effects

/-!
# The device pack that comes with the library

One device, a ring of twenty LEDs.
-/

namespace LedStrip
namespace Bundled

/-- The devices of the pack. -/
def deviceManifestLines : List String :=
  ["\x7b",
   "  \"devices\": [",
   "    \"ring-20\"",
   "  ]",
   "\x7d"]

/-- A ring of twenty LEDs. -/
def ringLines : List String :=
  ["\x7b",
   "  \"id\": \"ring-20\",",
   "  \"name\": \"LED Ring 20\",",
   "  \"description\": \"Single 20-LED ring, index 0 at the top, running clockwise\",",
   "  \"coordinateUnit\": \"mm\",",
   "  \"canvas\": \x7b",
   "    \"width\": 100,",
   "    \"height\": 100,",
   "    \"origin\": \"center\"",
   "  \x7d,",
   "  \"strips\": [",
   "    \x7b",
   "      \"id\": \"ring\",",
   "      \"name\": \"Ring\",",
   "      \"ledCount\": 20,",
   "      \"path\": \"circle\",",
   "      \"leds\": [",
   "        \x7b",
   "          \"index\": 0,",
   "          \"x\": 0.0,",
   "          \"y\": 40.0",
   "        \x7d,",
   "        \x7b",
   "          \"index\": 1,",
   "          \"x\": 12.36,",
   "          \"y\": 38.04",
   "        \x7d,",
   "        \x7b",
   "          \"index\": 2,",
   "          \"x\": 23.51,",
   "          \"y\": 32.36",
   "        \x7d,",
   "        \x7b",
   "          \"index\": 3,",
   "          \"x\": 32.36,",
   "          \"y\": 23.51",
   "        \x7d,",
   "        \x7b",
   "          \"index\": 4,",
   "          \"x\": 38.04,",
   "          \"y\": 12.36",
   "        \x7d,",
   "        \x7b",
   "          \"index\": 5,",
   "          \"x\": 40.0,",
   "          \"y\": 0.0",
   "        \x7d,",
   "        \x7b",
   "          \"index\": 6,",
   "          \"x\": 38.04,",
   "          \"y\": -12.36",
   "        \x7d,",
   "        \x7b",
   "          \"index\": 7,",
   "          \"x\": 32.36,",
   "          \"y\": -23.51",
   "        \x7d,",
   "        \x7b",
   "          \"index\": 8,",
   "          \"x\": 23.51,",
   "          \"y\": -32.36",
   "        \x7d,",
   "        \x7b",
   "          \"index\": 9,",
   "          \"x\": 12.36,",
   "          \"y\": -38.04",
   "        \x7d,",
   "        \x7b",
   "          \"index\": 10,",
   "          \"x\": 0.0,",
   "          \"y\": -40.0",
   "        \x7d,",
   "        \x7b",
   "          \"index\": 11,",
   "          \"x\": -12.36,",
   "          \"y\": -38.04",
   "        \x7d,",
   "        \x7b",
   "          \"index\": 12,",
   "          \"x\": -23.51,",
   "          \"y\": -32.36",
   "        \x7d,",
   "        \x7b",
   "          \"index\": 13,",
   "          \"x\": -32.36,",
   "          \"y\": -23.51",
   "        \x7d,",
   "        \x7b",
   "          \"index\": 14,",
   "          \"x\": -38.04,",
   "          \"y\": -12.36",
   "        \x7d,",
   "        \x7b",
   "          \"index\": 15,",
   "          \"x\": -40.0,",
   "          \"y\": -0.0",
   "        \x7d,",
   "        \x7b",
   "          \"index\": 16,",
   "          \"x\": -38.04,",
   "          \"y\": 12.36",
   "        \x7d,",
   "        \x7b",
   "          \"index\": 17,",
   "          \"x\": -32.36,",
   "          \"y\": 23.51",
   "        \x7d,",
   "        \x7b",
   "          \"index\": 18,",
   "          \"x\": -23.51,",
   "          \"y\": 32.36",
   "        \x7d,",
   "        \x7b",
   "          \"index\": 19,",
   "          \"x\": -12.36,",
   "          \"y\": 38.04",
   "        \x7d",
   "      ]",
   "    \x7d",
   "  ]",
   "\x7d"]

/-- Texts under their names. -/
def devices : Entries String := Entries.ofList
  [(Resource.manifest, Text.ofLines deviceManifestLines), (Resource.device "ring-20", Text.ofLines ringLines)]

end Bundled
end LedStrip
