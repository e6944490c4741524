import FacetRules.Command

/-!
# Text on a terminal

Parts of the output are set off by color or weight when the terminal shows colors.
A style is switched on by an escape sequence and off by another one.  A text that
contains the latter itself would end its style early, so the style is switched on
again behind every such sequence.
-/

namespace FacetRules
namespace CommandLine

inductive Style
  | dimmed
  | bold
  | yellow
  | green
  deriving DecidableEq, Repr

namespace Style

def code : Style -> String
  | dimmed => "2"
  | bold => "1"
  | yellow => "33"
  | green => "32"

def on (s : Style) : List Char :=
  '\x1b' :: '[' :: (s.code.toList ++ ['m'])

def off : List Char :=
  ['\x1b', '[', '0', 'm']

/-- Switches a style on again behind every sequence that switches it off. -/
def renew (s : Style) : List Char -> List Char
  | '\x1b' :: '[' :: '0' :: 'm' :: rest => off ++ s.on ++ renew s rest
  | c :: rest => c :: renew s rest
  | [] => []

def ofLevel : Level -> Style
  | .info => dimmed
  | .success => green
  | .warning => yellow

end Style

/-- What is known about colors before anything is printed: what was asked for, each by a
text, and whether the output goes to a terminal. -/
structure ColorRequest where
  force : Option String := none
  refuse : Option String := none
  allow : Option String := none
  terminal : Bool := false
  deriving DecidableEq, Repr

/-- Whether colors are shown.  Forcing them comes first, and refusing them next, whatever
the text; else they are shown on a terminal.  A zero takes back what the other two ask. -/
def ColorRequest.isGranted (r : ColorRequest) : Bool :=
  if r.force.any (· ≠ "0") then
    true
  else if r.refuse.isSome then
    false
  else
    r.terminal && r.allow.all (· ≠ "0")

def paint (color : Bool) (style : Style) (text : String) : String :=
  if color then
    String.ofList (style.on ++ style.renew text.toList ++ Style.off)
  else
    text

def messageLines (color : Bool) (messages : List Message) : List String :=
  messages.map fun m => paint color (Style.ofLevel m.level) m.content

def attributeLines (color : Bool) (a : VisibleAttribute) : List String :=
  (paint color .yellow (DumpLine.column a.id) ++ " " ++ paint color .bold a.title) ::
    a.options.map fun o =>
      "   - " ++ paint color .dimmed (DumpLine.column o.id) ++ " " ++ o.title

def visibleLines (color : Bool) (v : Visible) : List String :=
  let heading := paint color .dimmed
    s!"{v.attributes.length} attributes, {v.pages} pages of {v.pageSize} options"
  let selected :=
    if v.corrected.pairs.isEmpty then
      []
    else
      [paint color .dimmed "selected:" ++ " " ++
        " ".intercalate (v.corrected.pairs.map Pair.text)]
  heading :: v.attributes.flatMap (attributeLines color) ++ selected

def unlines (lines : List String) : String :=
  String.join (lines.map (· ++ "\n"))

end CommandLine
end FacetRules
