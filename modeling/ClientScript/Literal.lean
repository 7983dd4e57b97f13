import ClientScript.EmitError
import ClientScript.Names

namespace ClientScript

inductive Spelling
  | closed                          -- not at all
  | number
  | counted (word : String)         -- behind a word
  | symbol (kind : NameKind)        -- by name, or as a number if there is none
  | quotedSymbol (kind : NameKind)
  | descriptor                      -- the type that the number tags
  | component                       -- two halves of 16 bits
  | coord                           -- a plane, a square and a tile in it
  | colour                          -- at least six digits of base 16
  deriving DecidableEq, Repr

def hex (n : Nat) : String :=
  String.ofList (Nat.toDigits 16 n)

def padded (width : Nat) (s : String) : String :=
  String.ofList (List.replicate (width - s.length) '0') ++ s

namespace Spelling

def componentText (n : Nat) : String :=
  toString (n / 0x10000) ++ ":" ++ toString (n % 0x10000)

def coordText (n : Nat) : String :=
  let plane := n / 0x10000000
  let x := n / 0x4000 % 0x4000
  let y := n % 0x4000
  "_".intercalate ([plane, x / 64, y / 64, x % 64, y % 64].map toString)

def text? (names : Names) (n : Int32) : Spelling → Option String
  | closed            => none
  | number            => some (toString n.toInt)
  | counted word      => some (word ++ toString n.toInt)
  | symbol kind       => some ((names kind n).getD (toString n.toInt))
  | quotedSymbol kind =>
    some (((names kind n).map fun name => "\"" ++ name ++ "\"").getD (toString n.toInt))
  | descriptor        => (Ty.ofDescriptor? n).map Ty.literal
  | component         => some (componentText n.toUInt32.toNat)
  | coord             => some (coordText n.toUInt32.toNat)
  | colour            => some ("0x" ++ padded 6 (hex n.toUInt32.toNat))

end Spelling

namespace Ty

-- Keywords are preferred to any other spelling. Some of them stand for values that are only known
-- when an event happens.
def keywords : Ty → List (Int × String)
  | int           => [
      (2147483647, "^max_32bit_int"), (-2147483648, "^min_32bit_int"),
      (-2147483647, "event_mousex"), (-2147483646, "event_mousey"),
      (-2147483644, "event_opindex"), (-2147483643, "event_comid"),
      (-2147483641, "event_dragtargetid"), (-2147483640, "event_keytyped")]
  | component     => [
      (-1, "null"), (-2147483645, "event_com"), (-2147483642, "event_dragtarget")]
  | boolean       => [(0, "false"), (1, "true"), (-1, "null")]
  | char          => [(-2147483639, "event_keypressed"), (-1, "null")]
  | colour        => [
      (0xff0000, "^red"), (0x00ff00, "^green"), (0x0000ff, "^blue"), (0xffff00, "^yellow"),
      (0xff00ff, "^magenta"), (0x00ffff, "^cyan"), (0xffffff, "^white"), (0x000000, "^black")]
  | iftype        => [
      (3, "^iftype_rectangle"), (4, "^iftype_text"), (5, "^iftype_graphic"), (6, "^iftype_model"),
      (9, "^iftype_line")]
  | setsize       => [(0, "^setsize_abs"), (1, "^setsize_minus"), (2, "^setsize_2")]
  | setposh       => [
      (0, "^setpos_abs_left"), (1, "^setpos_abs_centre"), (2, "^setpos_abs_right"),
      (3, "^setpos_3"), (4, "^setpos_4"), (5, "^setpos_5")]
  | setposv       => [
      (0, "^setpos_abs_top"), (1, "^setpos_abs_centre"), (2, "^setpos_abs_bottom"),
      (3, "^setpos_3"), (4, "^setpos_4"), (5, "^setpos_5")]
  | settextalignh => [
      (0, "^settextalign_left"), (1, "^settextalign_centre"), (2, "^settextalign_right")]
  | settextalignv => [
      (0, "^settextalign_top"), (1, "^settextalign_centre"), (2, "^settextalign_bottom")]
  | chattype      => [
      (0, "^chattype_gamemessage"), (1, "^chattype_modchat"), (2, "^chattype_publicchat"),
      (3, "^chattype_privatechat"), (4, "^chattype_engine"),
      (5, "^chattype_loginlogoutnotification"), (6, "^chattype_privatechatout"),
      (7, "^chattype_modprivatechat"), (9, "^chattype_friendschat"),
      (11, "^chattype_friendschatnotification"), (14, "^chattype_broadcast"),
      (26, "^chattype_snapshotfeedback"), (27, "^chattype_obj_examine"),
      (28, "^chattype_npc_examine"), (29, "^chattype_loc_examine"),
      (30, "^chattype_friendnotification"), (31, "^chattype_ignorenotification"),
      (90, "^chattype_autotyper"), (91, "^chattype_modautotyper"), (99, "^chattype_console"),
      (101, "^chattype_tradereq"), (102, "^chattype_trade"), (103, "^chattype_chalreq_trade"),
      (104, "^chattype_chalreq_friendschat"), (105, "^chattype_spam"),
      (106, "^chattype_playerrelated"), (107, "^chattype_10sectimeout"), (108, "^chattype_108")]
  | bit           => [(0, "^false"), (1, "^true")]
  | type          => []
  | var           => []
  | _             => [(-1, "null")]

def spelling : Ty → Spelling
  | boolean       => .closed
  | char          => .closed
  | iftype        => .closed
  | setsize       => .closed
  | setposh       => .closed
  | setposv       => .closed
  | settextalignh => .closed
  | settextalignv => .closed
  | chattype      => .closed
  | bit           => .closed
  | var           => .counted "var"
  | graphic       => .quotedSymbol .graphic
  | fontmetrics   => .symbol .graphic
  | stat          => .symbol .stat
  | obj           => .symbol .obj
  | namedobj      => .symbol .obj
  | inv           => .symbol .inv
  | maparea       => .symbol .maparea
  | param         => .symbol .param
  | type          => .descriptor
  | component     => .component
  | coord         => .coord
  | colour        => .colour
  | _             => .number

def intText? (names : Names) (ty : Ty) (n : Int32) : Option String :=
  ty.keywords.lookup n.toInt <|> ty.spelling.text? names n

def intText (names : Names) (ty : Ty) (n : Int32) : Except EmitError String :=
  match ty.intText? names n with
  | some text => .ok text
  | none      => .error (.decode ty n)

end Ty

-- One text is a keyword. Quotes inside of a text stay as they are.
def stringText (s : String) : String :=
  if s = "event_opbase" then s else "\"" ++ s ++ "\""

def Constant.text (names : Names) (c : Constant) : Except EmitError String :=
  match c.payload with
  | .text s =>
    if c.ty = .string then .ok (stringText s)
    else .error (.malformed .constant (.stringInOther c.ty s))
  | .int n  =>
    if c.ty = .string then .error (.malformed .constant (.intInString n))
    else c.ty.intText names n

end ClientScript
