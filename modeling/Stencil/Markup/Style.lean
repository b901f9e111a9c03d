import Stencil.Number.Integer
import Stencil.Text.Blank
import Stencil.Text.Lower

/-!
# Styles

A style is written in words: attributes, which `not` takes away, a color, a color of the background
after `on`, and an address after `link`.  Styles that mean the same have one normal form.  Some
styles have a name of their own.
-/

namespace Stencil.Markup

/-! ## Colors -/

/-- Why a word is no color. -/
inductive ColorFault where
  | unknown (word : Text)
  /-- The number of the color is too large. -/
  | number (word : Text)
  /-- The color has not three components. -/
  | components (word : Text)
  /-- A component is too large. -/
  | component (word : Text)
  /-- A component is no numeral. -/
  | numeral (fault : Number.IntegerFault)
deriving DecidableEq, Repr

/-- The wording of a fault. -/
def ColorFault.message : ColorFault → Text
  | .unknown word => Text.quoted word ++ " is not a valid color"
  | .number word => "color number must be <= 255 in " ++ Text.quoted (Text.lower word)
  | .components word => "expected three components in " ++ Text.quoted word
  | .component word => "color components must be <= 255 in " ++ Text.quoted word
  | .numeral fault => fault.message

/-- The shades of grey by the parts of white in them. -/
def greys : List Text :=
  [(0 : Nat), 3, 7, 11, 15, 19, 23, 27, 30, 35, 37, 39, 42, 46, 50, 53, 54, 58, 62, 63, 66,
    69, 70, 74, 78, 82, 84, 85, 89, 93, 100].flatMap fun part =>
    [("grey" : Text) ++ Nat.toDigits 10 part, "gray" ++ Nat.toDigits 10 part]

/-- The names of colors. -/
def colorNames : List Text :=
  "default".toList :: greys ++ [
  "black red green yellow blue magenta cyan white bright_black bright_red bright_green",
  "bright_yellow bright_blue bright_magenta bright_cyan bright_white navy_blue dark_blue",
  "blue3 blue1 dark_green deep_sky_blue4 dodger_blue3 dodger_blue2 green4 spring_green4",
  "turquoise4 deep_sky_blue3 dodger_blue1 green3 spring_green3 dark_cyan light_sea_green",
  "deep_sky_blue2 deep_sky_blue1 spring_green2 cyan3 dark_turquoise turquoise2 green1",
  "spring_green1 medium_spring_green cyan2 cyan1 dark_red deep_pink4 purple4 purple3",
  "blue_violet orange4 medium_purple4 slate_blue3 royal_blue1 chartreuse4 dark_sea_green4",
  "pale_turquoise4 steel_blue steel_blue3 cornflower_blue chartreuse3 cadet_blue sky_blue3",
  "steel_blue1 pale_green3 sea_green3 aquamarine3 medium_turquoise chartreuse2 sea_green2",
  "sea_green1 aquamarine1 dark_slate_gray2 dark_magenta dark_violet purple light_pink4 plum4",
  "medium_purple3 slate_blue1 yellow4 wheat4 light_slate_grey light_slate_gray medium_purple",
  "light_slate_blue dark_olive_green3 dark_sea_green light_sky_blue3 sky_blue2",
  "dark_sea_green3 dark_slate_gray3 sky_blue1 chartreuse1 light_green pale_green1",
  "dark_slate_gray1 red3 medium_violet_red magenta3 dark_orange3 indian_red hot_pink3",
  "medium_orchid3 medium_orchid medium_purple2 dark_goldenrod light_salmon3 rosy_brown",
  "medium_purple1 gold3 dark_khaki navajo_white3 light_steel_blue3 light_steel_blue yellow3",
  "dark_sea_green2 light_cyan3 light_sky_blue1 green_yellow dark_olive_green2 dark_sea_green1",
  "pale_turquoise1 deep_pink3 magenta2 hot_pink2 orchid medium_orchid1 orange3 light_pink3",
  "pink3 plum3 violet light_goldenrod3 tan misty_rose3 thistle3 plum2 khaki3 light_goldenrod2",
  "light_yellow3 light_steel_blue1 yellow2 dark_olive_green1 honeydew2 light_cyan1 red1",
  "deep_pink2 deep_pink1 magenta1 orange_red1 indian_red1 hot_pink dark_orange salmon1",
  "light_coral pale_violet_red1 orchid2 orchid1 orange1 sandy_brown light_salmon1 light_pink1",
  "pink1 plum1 gold1 navajo_white1 misty_rose1 thistle1 yellow1 light_goldenrod1 khaki1",
  "wheat1 cornsilk1"].flatMap fun line =>
    Text.split ' ' line.toList

/-- What stands between a beginning and a round bracket at the end. -/
def bracketed? (opening t : Text) : Option Text :=
  (Text.after? opening t).bind fun rest =>
    if rest.getLast? = some ')' then some rest.dropLast else none

/-- Whether a character is a hexadecimal digit in small letters. -/
def isHexDigit (c : Char) : Bool := c.isDigit || ('a' ≤ c && c ≤ 'f')

/-- Reads the number of a color. -/
def readNumbered (word digits : Text) : Except ColorFault Unit :=
  if digits.isEmpty || 3 < digits.length || !digits.all Char.isDigit then .error (.unknown word)
  else if 255 < Number.ofDigits 10 (digits.map fun c => c.toNat - '0'.toNat) then
    .error (.number word)
  else .ok ()

/-- Reads the components of a color. -/
def readComponents (word inside : Text) : Except ColorFault Unit :=
  if inside.isEmpty || !inside.all fun c => Text.isDecimal c || c = ',' then
    .error (.unknown word)
  else
    let parts := Text.split ',' inside
    if parts.length ≠ 3 then .error (.components word)
    else match parts.mapM Number.readNatural with
      | .error fault => .error (.numeral fault)
      | .ok numbers => if numbers.any (255 < ·) then .error (.component word) else .ok ()

/-- Reads a color: its name, its number, or its components.  Its normal form is in small letters. -/
def readColor (word : Text) : Except ColorFault Text :=
  let name := Text.lower word
  let hex := (Text.after? ['#'] name).getD []
  if colorNames.contains name || (hex.length = 6 && hex.all isHexDigit) then .ok name
  else match bracketed? "color(" name, bracketed? "rgb(" name with
    | some digits, _ => (readNumbered word digits).map fun _ => name
    | none, some inside => (readComponents word inside).map fun _ => name
    | none, none => .error (.unknown word)

/-! ## Styles -/

/-- Why words are no style. -/
inductive StyleFault where
  | noBackground
  | background (word : Text) (fault : ColorFault)
  | noAttribute (word : Text)
  | noAddress
  | color (word : Text) (fault : ColorFault)
deriving DecidableEq, Repr

/-- The wording of a fault. -/
def StyleFault.message : StyleFault → Text
  | .noBackground => "color expected after 'on'"
  | .background word fault =>
    "unable to parse " ++ Text.quoted word ++ " as background color; " ++ fault.message
  | .noAttribute word => "expected style attribute after 'not', found " ++ Text.quoted word
  | .noAddress => "URL expected after 'link'"
  | .color word fault => "unable to parse " ++ Text.quoted word ++ " as color; " ++ fault.message

/-- The fault of a numeral, which is no fault of the style around it. -/
def StyleFault.numeral? : StyleFault → Option Number.IntegerFault
  | .background _ (.numeral fault) => some fault
  | .color _ (.numeral fault) => some fault
  | _ => none

/-- The attributes in the order of the normal form, with their short names. -/
def attributes : List (Text × List Text) :=
  [("bold", ["b"]), ("dim", ["d"]), ("italic", ["i"]), ("underline", ["u"]), ("blink", []),
    ("blink2", []), ("reverse", ["r"]), ("conceal", ["c"]), ("strike", ["s"]),
    ("underline2", ["uu"]), ("frame", []), ("encircle", []), ("overline", ["o"])]

/-- The attribute of a name. -/
def attribute? (name : Text) : Option Text :=
  (attributes.find? fun (long, short) => long = name || short.contains name).map Prod.fst

/-- A style. -/
structure Style where
  /-- The attributes that are set or taken away, the last one first. -/
  attributes : List (Text × Bool)
  color : Option Text
  background : Option Text
  address : Option Text
deriving DecidableEq, Repr

/-- The style that says nothing. -/
def Style.plain : Style := ⟨[], none, none, none⟩

/-- The normal form of a style. -/
def Style.text (s : Style) : Text :=
  let words := Markup.attributes.flatMap fun (name, _) => match s.attributes.lookup name with
    | some true => [name]
    | some false => ["not".toList, name]
    | none => []
  let words := words ++ s.color.toList ++ (s.background.toList.flatMap fun c => ["on".toList, c])
    ++ (s.address.toList.flatMap fun a => ["link".toList, a])
  if words.isEmpty then "none" else Text.join " " words

/-- Reads the words of a style after those that made the style `s`. -/
def readWords (s : Style) : List Text → Except StyleFault Style
  | [] => .ok s
  | first :: rest =>
    let word := Text.lower first
    if word = "on".toList then
      match rest with
      | [] => .error .noBackground
      | color :: rest => match readColor color with
        | .ok name => readWords { s with background := some name } rest
        | .error fault => .error (.background color fault)
    else if word = "not".toList then
      match rest with
      | [] => .error (.noAttribute [])
      | name :: rest => match attribute? name with
        | some name => readWords { s with attributes := (name, false) :: s.attributes } rest
        | none => .error (.noAttribute name)
    else if word = "link".toList then
      match rest with
      | [] => .error .noAddress
      | address :: rest => readWords { s with address := some address } rest
    else match attribute? word with
      | some name => readWords { s with attributes := (name, true) :: s.attributes } rest
      | none => match readColor word with
        | .ok name => readWords { s with color := some name } rest
        | .error fault => .error (.color word fault)

/-- The words of a text: what stands between blanks. -/
def words (t : Text) : List Text :=
  (Text.split ' ' (t.map fun c => if Text.isBlank c then ' ' else c)).filter (· ≠ [])

/-- Reads a style. -/
def readStyle (t : Text) : Except StyleFault Style :=
  if Text.trim t = "none".toList then .ok .plain else readWords .plain (words t)

/-- The styles that have a name, other than those whose name is a style by itself. -/
def namedStyles : List Text := [
  "reset bright strong code emphasize inspect.attr inspect.attr.dunder inspect.callable",
  "inspect.async_def inspect.def inspect.class inspect.error inspect.equals inspect.help",
  "inspect.doc inspect.value.border live.ellipsis layout.tree.row layout.tree.column",
  "logging.keyword logging.level.notset logging.level.debug logging.level.info",
  "logging.level.warning logging.level.error logging.level.critical log.level log.time",
  "log.message log.path repr.ellipsis repr.indent repr.error repr.str repr.brace repr.comma",
  "repr.ipv4 repr.ipv6 repr.eui48 repr.eui64 repr.tag_start repr.tag_name repr.tag_contents",
  "repr.tag_end repr.attrib_name repr.attrib_equal repr.attrib_value repr.number",
  "repr.number_complex repr.bool_true repr.bool_false repr.none repr.url repr.uuid repr.call",
  "repr.path repr.filename rule.line rule.text json.brace json.bool_true json.bool_false",
  "json.null json.number json.str json.key prompt prompt.choices prompt.default",
  "prompt.invalid prompt.invalid.choice pretty scope.border scope.key scope.key.special",
  "scope.equals table.header table.footer table.cell table.title table.caption",
  "traceback.error traceback.error_range traceback.note traceback.group.border",
  "traceback.border.syntax_error traceback.border traceback.text traceback.title",
  "traceback.exc_type traceback.exc_value traceback.offset bar.back bar.complete bar.finished",
  "bar.pulse progress.description progress.filesize progress.filesize.total progress.download",
  "progress.elapsed progress.percentage progress.remaining progress.data.speed",
  "progress.spinner status.spinner tree tree.line markdown.paragraph markdown.text",
  "markdown.em markdown.emph markdown.strong markdown.code markdown.code_block",
  "markdown.block_quote markdown.list markdown.item markdown.item.bullet markdown.item.number",
  "markdown.hr markdown.h1.border markdown.h1 markdown.h2 markdown.h3 markdown.h4 markdown.h5",
  "markdown.h6 markdown.h7 markdown.link markdown.link_url markdown.s markdown.table.border",
  "markdown.table.header iso8601.date iso8601.time iso8601.timezone"].flatMap fun line =>
    Text.split ' ' line.toList

example : (readStyle "b RED not i".toList).toOption.map Style.text
    = some "bold not italic red".toList := by decide +kernel

end Stencil.Markup
