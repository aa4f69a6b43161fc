import SyncRGB.Cli.ApplyOptions

/-! The color lists of the command line, and what `ParseColors` reads of them. -/
namespace SyncRGB
open ByteCodec

/-- A number in base 16, with or without its mark: its value, for texts too short to overflow, and what follows. -/
def hexNumber (s : Bytes) : Option (UInt32 × Bytes) :=
  let marked := dropHexPrefix s
  let digits := if (marked.head?.bind hexDigit).isSome then marked else s
  if (digits.head?.bind hexDigit).isSome then
    some (hexDigits 0 digits, digits.dropWhile fun b => (hexDigit b).isSome)
  else none

/-- `strtoul` in base 16: the number and the text where `endptr` is, which is the start if there is no number. -/
def strtoulHex (s : Bytes) : Option (UInt32 × Bytes) :=
  match s.dropWhile isSpace with
  | 45 :: rest => (hexNumber rest).map fun number => (-number.1, number.2)
  | 43 :: rest => hexNumber rest
  | text => hexNumber text

namespace Cli

structure HumanColors where
  rgb : UInt32
  keyword : Option String

/-- The table, with the entry without a keyword that ends it. -/
def humanColors : List HumanColors :=
  [⟨0x000000, some "black"⟩, ⟨0x000080, some "navy"⟩, ⟨0x00008b, some "darkblue"⟩, ⟨0x0000cd, some "mediumblue"⟩,
    ⟨0x0000ff, some "blue"⟩, ⟨0x006400, some "darkgreen"⟩, ⟨0x008000, some "green"⟩, ⟨0x008080, some "teal"⟩,
    ⟨0x008b8b, some "darkcyan"⟩, ⟨0x00bfff, some "deepskyblue"⟩, ⟨0x00ced1, some "darkturquoise"⟩,
    ⟨0x00fa9a, some "mediumspringgreen"⟩, ⟨0x00ff00, some "lime"⟩, ⟨0x00ff7f, some "springgreen"⟩,
    ⟨0x00ffff, some "aqua"⟩, ⟨0x00ffff, some "cyan"⟩, ⟨0x191970, some "midnightblue"⟩, ⟨0x1e90ff, some "dodgerblue"⟩,
    ⟨0x20b2aa, some "lightseagreen"⟩, ⟨0x228b22, some "forestgreen"⟩, ⟨0x2e8b57, some "seagreen"⟩,
    ⟨0x2f4f4f, some "darkslategray"⟩, ⟨0x2f4f4f, some "darkslategrey"⟩, ⟨0x32cd32, some "limegreen"⟩,
    ⟨0x3cb371, some "mediumseagreen"⟩, ⟨0x40e0d0, some "turquoise"⟩, ⟨0x4169e1, some "royalblue"⟩,
    ⟨0x4682b4, some "steelblue"⟩, ⟨0x483d8b, some "darkslateblue"⟩, ⟨0x48d1cc, some "mediumturquoise"⟩,
    ⟨0x4b0082, some "indigo"⟩, ⟨0x556b2f, some "darkolivegreen"⟩, ⟨0x5f9ea0, some "cadetblue"⟩,
    ⟨0x6495ed, some "cornflowerblue"⟩, ⟨0x66cdaa, some "mediumaquamarine"⟩, ⟨0x696969, some "dimgray"⟩,
    ⟨0x696969, some "dimgrey"⟩, ⟨0x6a5acd, some "slateblue"⟩, ⟨0x6b8e23, some "olivedrab"⟩,
    ⟨0x708090, some "slategray"⟩, ⟨0x708090, some "slategrey"⟩, ⟨0x778899, some "lightslategray"⟩,
    ⟨0x778899, some "lightslategrey"⟩, ⟨0x7b68ee, some "mediumslateblue"⟩, ⟨0x7cfc00, some "lawngreen"⟩,
    ⟨0x7fff00, some "chartreuse"⟩, ⟨0x7fffd4, some "aquamarine"⟩, ⟨0x800000, some "maroon"⟩,
    ⟨0x800080, some "purple"⟩, ⟨0x4000ff, some "electricultramarine"⟩, ⟨0x808000, some "olive"⟩,
    ⟨0x808080, some "gray"⟩, ⟨0x808080, some "grey"⟩, ⟨0x87ceeb, some "skyblue"⟩, ⟨0x87cefa, some "lightskyblue"⟩,
    ⟨0x8a2be2, some "blueviolet"⟩, ⟨0x8b0000, some "darkred"⟩, ⟨0x8b008b, some "darkmagenta"⟩,
    ⟨0x8b4513, some "saddlebrown"⟩, ⟨0x8fbc8f, some "darkseagreen"⟩, ⟨0x90ee90, some "lightgreen"⟩,
    ⟨0x9370db, some "mediumpurple"⟩, ⟨0x9400d3, some "darkviolet"⟩, ⟨0x98fb98, some "palegreen"⟩,
    ⟨0x9932cc, some "darkorchid"⟩, ⟨0x9acd32, some "yellowgreen"⟩, ⟨0xa0522d, some "sienna"⟩,
    ⟨0xa52a2a, some "brown"⟩, ⟨0xa9a9a9, some "darkgray"⟩, ⟨0xa9a9a9, some "darkgrey"⟩, ⟨0xadd8e6, some "lightblue"⟩,
    ⟨0xadff2f, some "greenyellow"⟩, ⟨0xafeeee, some "paleturquoise"⟩, ⟨0xb0c4de, some "lightsteelblue"⟩,
    ⟨0xb0e0e6, some "powderblue"⟩, ⟨0xb22222, some "firebrick"⟩, ⟨0xb8860b, some "darkgoldenrod"⟩,
    ⟨0xba55d3, some "mediumorchid"⟩, ⟨0xbc8f8f, some "rosybrown"⟩, ⟨0xbdb76b, some "darkkhaki"⟩,
    ⟨0xc0c0c0, some "silver"⟩, ⟨0xc71585, some "mediumvioletred"⟩, ⟨0xcd5c5c, some "indianred"⟩,
    ⟨0xcd853f, some "peru"⟩, ⟨0xd2691e, some "chocolate"⟩, ⟨0xd2b48c, some "tan"⟩, ⟨0xd3d3d3, some "lightgray"⟩,
    ⟨0xd3d3d3, some "lightgrey"⟩, ⟨0xd8bfd8, some "thistle"⟩, ⟨0xda70d6, some "orchid"⟩, ⟨0xdaa520, some "goldenrod"⟩,
    ⟨0xdb7093, some "palevioletred"⟩, ⟨0xdc143c, some "crimson"⟩, ⟨0xdcdcdc, some "gainsboro"⟩,
    ⟨0xdda0dd, some "plum"⟩, ⟨0xdeb887, some "burlywood"⟩, ⟨0xe0ffff, some "lightcyan"⟩, ⟨0xe6e6fa, some "lavender"⟩,
    ⟨0xe9967a, some "darksalmon"⟩, ⟨0xee82ee, some "violet"⟩, ⟨0xeee8aa, some "palegoldenrod"⟩,
    ⟨0xf08080, some "lightcoral"⟩, ⟨0xf0e68c, some "khaki"⟩, ⟨0xf0f8ff, some "aliceblue"⟩,
    ⟨0xf0fff0, some "honeydew"⟩, ⟨0xf0ffff, some "azure"⟩, ⟨0xf4a460, some "sandybrown"⟩, ⟨0xf5deb3, some "wheat"⟩,
    ⟨0xf5f5dc, some "beige"⟩, ⟨0xf5f5f5, some "whitesmoke"⟩, ⟨0xf5fffa, some "mintcream"⟩,
    ⟨0xf8f8ff, some "ghostwhite"⟩, ⟨0xfa8072, some "salmon"⟩, ⟨0xfaebd7, some "antiquewhite"⟩,
    ⟨0xfaf0e6, some "linen"⟩, ⟨0xfafad2, some "lightgoldenrodyellow"⟩, ⟨0xfdf5e6, some "oldlace"⟩,
    ⟨0xff0000, some "red"⟩, ⟨0xff00ff, some "fuchsia"⟩, ⟨0xff00ff, some "magenta"⟩, ⟨0xff1493, some "deeppink"⟩,
    ⟨0xff4500, some "orangered"⟩, ⟨0xff6347, some "tomato"⟩, ⟨0xff69b4, some "hotpink"⟩, ⟨0xff7f50, some "coral"⟩,
    ⟨0xff8c00, some "darkorange"⟩, ⟨0xffa07a, some "lightsalmon"⟩, ⟨0xffa500, some "orange"⟩,
    ⟨0xffb6c1, some "lightpink"⟩, ⟨0xffc0cb, some "pink"⟩, ⟨0xffd700, some "gold"⟩, ⟨0xffdab9, some "peachpuff"⟩,
    ⟨0xffdead, some "navajowhite"⟩, ⟨0xffe4b5, some "moccasin"⟩, ⟨0xffe4c4, some "bisque"⟩,
    ⟨0xffe4e1, some "mistyrose"⟩, ⟨0xffebcd, some "blanchedalmond"⟩, ⟨0xffefd5, some "papayawhip"⟩,
    ⟨0xfff0f5, some "lavenderblush"⟩, ⟨0xfff5ee, some "seashell"⟩, ⟨0xfff8dc, some "cornsilk"⟩,
    ⟨0xfffacd, some "lemonchiffon"⟩, ⟨0xfffaf0, some "floralwhite"⟩, ⟨0xfffafa, some "snow"⟩,
    ⟨0xffff00, some "yellow"⟩, ⟨0xffffe0, some "lightyellow"⟩, ⟨0xfffff0, some "ivory"⟩, ⟨0xffffff, some "white"⟩,
    ⟨0, none⟩]

/-- The red, green and blue of a number, the red in the highest byte. -/
def rgbOf (rgb : UInt32) : Rgb :=
  ((rgb >>> 16 &&& 0xFF).toUInt8, (rgb >>> 8 &&& 0xFF).toUInt8, (rgb &&& 0xFF).toUInt8)

/-- The index for "random", from the number that `rand` gives. -/
def randomIndex (rand : Nat) : Nat := rand % humanColors.length + 1

/-- The loop over the table, up to its end or to the first keyword that fits. -/
def keywordColor (color : Bytes) : List HumanColors → Option UInt32
  | [] => none
  | hc :: rest =>
      match hc.keyword with
      | none => none
      | some keyword => if strcasecmp (ascii keyword) color then some hc.rgb else keywordColor color rest

/-- The number of six hexadecimal digits. -/
def hexColor (color : Bytes) : Option UInt32 :=
  if color.length = 6 then
    match strtoulHex (cstr color) with
    | some (rgb, []) => some rgb
    | _ => none
  else none

/-- One token of the list, and the color it is parsed to; `none` when the index is outside of the table. -/
def parseColor (rand : Nat) (color : Bytes) : Option (Option Rgb) :=
  if color = ascii "random" then humanColors[randomIndex rand]?.map fun hc => some (rgbOf hc.rgb)
  else
    match keywordColor color humanColors with
    | some rgb => some (some (rgbOf rgb))
    | none => some ((hexColor color).map rgbOf)

/-- The loop: the tokens in order, each with the color that is appended for it. `rand` gives what the function of that
name does in each turn. -/
def parseTurns (rand : Nat → Nat) (turn : Nat) (colorsString : Bytes) : Option (List (Bytes × Option Rgb)) :=
  if colorsString.length = 0 then some []
  else
    let color := colorsString.takeWhile (· ≠ 44)
    if color.length = 0 then some []
    else do
      let rgb ← parseColor (rand turn) color
      if 44 ∉ colorsString then return [(color, rgb)]
      else return (color, rgb) :: (← parseTurns rand (turn + 1) (colorsString.drop (color.length + 1)))
  termination_by colorsString.length
  decreasing_by
    rw [List.length_drop]
    omega

/-- What a token does to the options. -/
def addToken (options : DeviceOptions) (token : Bytes × Option Rgb) : DeviceOptions :=
  { options with
    randomColors := options.randomColors || token.1 = ascii "random"
    colors := options.colors ++ token.2.toList }

/-- `ParseColors`. -/
def parseColors (rand : Nat → Nat) (colorsString : Bytes) (options : DeviceOptions) :
    Option (Bool × DeviceOptions) := do
  let options := (← parseTurns rand 0 colorsString).foldl addToken options
  return (options.colors.length > 0, options)

end Cli
end SyncRGB
