/-
# General categories

Which characters may stand in an identifier is a matter of the general categories of the Unicode
character database (version 14), of which these six classes count:

| class | general categories | members |
| --- | --- | --- |
| `L` | Lu, Ll, Lt, Lm, Lo | letters |
| `Nl` | Nl | numbers that are letters, such as the Roman ones |
| `Nd` | Nd | decimal digits |
| `No` | No | other numbers: fractions, superscripts, circled numbers |
| `M` | Mn, Mc | accents and other marks that go with a letter |
| `Pc` | Pc | the underscore and what is like it |

The table is that of the database. It is not made from the ranges of word characters and digits that
names are cleaned by, so that the two can be compared: a word character is a letter, a number of any
of the three kinds, or the underscore (`isWord_eq`), and every decimal digit is a digit
(`isDigit_of_category`).

The table goes upwards, as the others do, so a number has one category at most (`category_eq`), none
of the characters between the blocks of a category belongs to it (`not_of_inRanges_gaps`), and two
tables are compared in one pass (`isWithin`). The last part says what a change to lower case does to
the categories: a letter becomes a letter, perhaps with a mark behind it, and no other number
changes (`lowerFrom_cons`).
-/

import Mathlib.Data.List.Sort
import Mathlib.Data.List.TakeWhile
import Tablesmith.Proofs.Text.Case

namespace Tablesmith
namespace Text

/-- What a character counts as. -/
inductive Category where
  | L
  | Nl
  | Nd
  | No
  | M
  | Pc
  | other
deriving Repr, DecidableEq

namespace Category

/-- Letters, and numbers that are letters. -/
def isLetter : Category → Bool
  | L | Nl => true
  | _ => false

/-- Numbers that are no letters. -/
def isNumber : Category → Bool
  | Nd | No => true
  | _ => false

end Category

/-- The characters from `first` to `last`, which all have one category. -/
structure Block where
  first : Nat
  last : Nat
  category : Category
deriving Repr, DecidableEq

namespace Block

/-- Does the block hold the number of the character? -/
def covers (b : Block) (n : Nat) : Bool := b.first ≤ n && n ≤ b.last

end Block

/-- Characters up to `\uffff`. -/
def lowBlocks : List Block := [
    ⟨0x30, 0x39, .Nd⟩, ⟨0x41, 0x5A, .L⟩, ⟨0x5F, 0x5F, .Pc⟩, ⟨0x61, 0x7A, .L⟩, ⟨0xAA, 0xAA, .L⟩,
    ⟨0xB2, 0xB3, .No⟩, ⟨0xB5, 0xB5, .L⟩, ⟨0xB9, 0xB9, .No⟩, ⟨0xBA, 0xBA, .L⟩, ⟨0xBC, 0xBE, .No⟩,
    ⟨0xC0, 0xD6, .L⟩, ⟨0xD8, 0xF6, .L⟩, ⟨0xF8, 0x2C1, .L⟩, ⟨0x2C6, 0x2D1, .L⟩, ⟨0x2E0, 0x2E4, .L⟩,
    ⟨0x2EC, 0x2EC, .L⟩, ⟨0x2EE, 0x2EE, .L⟩, ⟨0x300, 0x36F, .M⟩, ⟨0x370, 0x374, .L⟩,
    ⟨0x376, 0x377, .L⟩, ⟨0x37A, 0x37D, .L⟩, ⟨0x37F, 0x37F, .L⟩, ⟨0x386, 0x386, .L⟩,
    ⟨0x388, 0x38A, .L⟩, ⟨0x38C, 0x38C, .L⟩, ⟨0x38E, 0x3A1, .L⟩, ⟨0x3A3, 0x3F5, .L⟩,
    ⟨0x3F7, 0x481, .L⟩, ⟨0x483, 0x487, .M⟩, ⟨0x48A, 0x52F, .L⟩, ⟨0x531, 0x556, .L⟩,
    ⟨0x559, 0x559, .L⟩, ⟨0x560, 0x588, .L⟩, ⟨0x591, 0x5BD, .M⟩, ⟨0x5BF, 0x5BF, .M⟩,
    ⟨0x5C1, 0x5C2, .M⟩, ⟨0x5C4, 0x5C5, .M⟩, ⟨0x5C7, 0x5C7, .M⟩, ⟨0x5D0, 0x5EA, .L⟩,
    ⟨0x5EF, 0x5F2, .L⟩, ⟨0x610, 0x61A, .M⟩, ⟨0x620, 0x64A, .L⟩, ⟨0x64B, 0x65F, .M⟩,
    ⟨0x660, 0x669, .Nd⟩, ⟨0x66E, 0x66F, .L⟩, ⟨0x670, 0x670, .M⟩, ⟨0x671, 0x6D3, .L⟩,
    ⟨0x6D5, 0x6D5, .L⟩, ⟨0x6D6, 0x6DC, .M⟩, ⟨0x6DF, 0x6E4, .M⟩, ⟨0x6E5, 0x6E6, .L⟩,
    ⟨0x6E7, 0x6E8, .M⟩, ⟨0x6EA, 0x6ED, .M⟩, ⟨0x6EE, 0x6EF, .L⟩, ⟨0x6F0, 0x6F9, .Nd⟩,
    ⟨0x6FA, 0x6FC, .L⟩, ⟨0x6FF, 0x6FF, .L⟩, ⟨0x710, 0x710, .L⟩, ⟨0x711, 0x711, .M⟩,
    ⟨0x712, 0x72F, .L⟩, ⟨0x730, 0x74A, .M⟩, ⟨0x74D, 0x7A5, .L⟩, ⟨0x7A6, 0x7B0, .M⟩,
    ⟨0x7B1, 0x7B1, .L⟩, ⟨0x7C0, 0x7C9, .Nd⟩, ⟨0x7CA, 0x7EA, .L⟩, ⟨0x7EB, 0x7F3, .M⟩,
    ⟨0x7F4, 0x7F5, .L⟩, ⟨0x7FA, 0x7FA, .L⟩, ⟨0x7FD, 0x7FD, .M⟩, ⟨0x800, 0x815, .L⟩,
    ⟨0x816, 0x819, .M⟩, ⟨0x81A, 0x81A, .L⟩, ⟨0x81B, 0x823, .M⟩, ⟨0x824, 0x824, .L⟩,
    ⟨0x825, 0x827, .M⟩, ⟨0x828, 0x828, .L⟩, ⟨0x829, 0x82D, .M⟩, ⟨0x840, 0x858, .L⟩,
    ⟨0x859, 0x85B, .M⟩, ⟨0x860, 0x86A, .L⟩, ⟨0x870, 0x887, .L⟩, ⟨0x889, 0x88E, .L⟩,
    ⟨0x898, 0x89F, .M⟩, ⟨0x8A0, 0x8C9, .L⟩, ⟨0x8CA, 0x8E1, .M⟩, ⟨0x8E3, 0x903, .M⟩,
    ⟨0x904, 0x939, .L⟩, ⟨0x93A, 0x93C, .M⟩, ⟨0x93D, 0x93D, .L⟩, ⟨0x93E, 0x94F, .M⟩,
    ⟨0x950, 0x950, .L⟩, ⟨0x951, 0x957, .M⟩, ⟨0x958, 0x961, .L⟩, ⟨0x962, 0x963, .M⟩,
    ⟨0x966, 0x96F, .Nd⟩, ⟨0x971, 0x980, .L⟩, ⟨0x981, 0x983, .M⟩, ⟨0x985, 0x98C, .L⟩,
    ⟨0x98F, 0x990, .L⟩, ⟨0x993, 0x9A8, .L⟩, ⟨0x9AA, 0x9B0, .L⟩, ⟨0x9B2, 0x9B2, .L⟩,
    ⟨0x9B6, 0x9B9, .L⟩, ⟨0x9BC, 0x9BC, .M⟩, ⟨0x9BD, 0x9BD, .L⟩, ⟨0x9BE, 0x9C4, .M⟩,
    ⟨0x9C7, 0x9C8, .M⟩, ⟨0x9CB, 0x9CD, .M⟩, ⟨0x9CE, 0x9CE, .L⟩, ⟨0x9D7, 0x9D7, .M⟩,
    ⟨0x9DC, 0x9DD, .L⟩, ⟨0x9DF, 0x9E1, .L⟩, ⟨0x9E2, 0x9E3, .M⟩, ⟨0x9E6, 0x9EF, .Nd⟩,
    ⟨0x9F0, 0x9F1, .L⟩, ⟨0x9F4, 0x9F9, .No⟩, ⟨0x9FC, 0x9FC, .L⟩, ⟨0x9FE, 0x9FE, .M⟩,
    ⟨0xA01, 0xA03, .M⟩, ⟨0xA05, 0xA0A, .L⟩, ⟨0xA0F, 0xA10, .L⟩, ⟨0xA13, 0xA28, .L⟩,
    ⟨0xA2A, 0xA30, .L⟩, ⟨0xA32, 0xA33, .L⟩, ⟨0xA35, 0xA36, .L⟩, ⟨0xA38, 0xA39, .L⟩,
    ⟨0xA3C, 0xA3C, .M⟩, ⟨0xA3E, 0xA42, .M⟩, ⟨0xA47, 0xA48, .M⟩, ⟨0xA4B, 0xA4D, .M⟩,
    ⟨0xA51, 0xA51, .M⟩, ⟨0xA59, 0xA5C, .L⟩, ⟨0xA5E, 0xA5E, .L⟩, ⟨0xA66, 0xA6F, .Nd⟩,
    ⟨0xA70, 0xA71, .M⟩, ⟨0xA72, 0xA74, .L⟩, ⟨0xA75, 0xA75, .M⟩, ⟨0xA81, 0xA83, .M⟩,
    ⟨0xA85, 0xA8D, .L⟩, ⟨0xA8F, 0xA91, .L⟩, ⟨0xA93, 0xAA8, .L⟩, ⟨0xAAA, 0xAB0, .L⟩,
    ⟨0xAB2, 0xAB3, .L⟩, ⟨0xAB5, 0xAB9, .L⟩, ⟨0xABC, 0xABC, .M⟩, ⟨0xABD, 0xABD, .L⟩,
    ⟨0xABE, 0xAC5, .M⟩, ⟨0xAC7, 0xAC9, .M⟩, ⟨0xACB, 0xACD, .M⟩, ⟨0xAD0, 0xAD0, .L⟩,
    ⟨0xAE0, 0xAE1, .L⟩, ⟨0xAE2, 0xAE3, .M⟩, ⟨0xAE6, 0xAEF, .Nd⟩, ⟨0xAF9, 0xAF9, .L⟩,
    ⟨0xAFA, 0xAFF, .M⟩, ⟨0xB01, 0xB03, .M⟩, ⟨0xB05, 0xB0C, .L⟩, ⟨0xB0F, 0xB10, .L⟩,
    ⟨0xB13, 0xB28, .L⟩, ⟨0xB2A, 0xB30, .L⟩, ⟨0xB32, 0xB33, .L⟩, ⟨0xB35, 0xB39, .L⟩,
    ⟨0xB3C, 0xB3C, .M⟩, ⟨0xB3D, 0xB3D, .L⟩, ⟨0xB3E, 0xB44, .M⟩, ⟨0xB47, 0xB48, .M⟩,
    ⟨0xB4B, 0xB4D, .M⟩, ⟨0xB55, 0xB57, .M⟩, ⟨0xB5C, 0xB5D, .L⟩, ⟨0xB5F, 0xB61, .L⟩,
    ⟨0xB62, 0xB63, .M⟩, ⟨0xB66, 0xB6F, .Nd⟩, ⟨0xB71, 0xB71, .L⟩, ⟨0xB72, 0xB77, .No⟩,
    ⟨0xB82, 0xB82, .M⟩, ⟨0xB83, 0xB83, .L⟩, ⟨0xB85, 0xB8A, .L⟩, ⟨0xB8E, 0xB90, .L⟩,
    ⟨0xB92, 0xB95, .L⟩, ⟨0xB99, 0xB9A, .L⟩, ⟨0xB9C, 0xB9C, .L⟩, ⟨0xB9E, 0xB9F, .L⟩,
    ⟨0xBA3, 0xBA4, .L⟩, ⟨0xBA8, 0xBAA, .L⟩, ⟨0xBAE, 0xBB9, .L⟩, ⟨0xBBE, 0xBC2, .M⟩,
    ⟨0xBC6, 0xBC8, .M⟩, ⟨0xBCA, 0xBCD, .M⟩, ⟨0xBD0, 0xBD0, .L⟩, ⟨0xBD7, 0xBD7, .M⟩,
    ⟨0xBE6, 0xBEF, .Nd⟩, ⟨0xBF0, 0xBF2, .No⟩, ⟨0xC00, 0xC04, .M⟩, ⟨0xC05, 0xC0C, .L⟩,
    ⟨0xC0E, 0xC10, .L⟩, ⟨0xC12, 0xC28, .L⟩, ⟨0xC2A, 0xC39, .L⟩, ⟨0xC3C, 0xC3C, .M⟩,
    ⟨0xC3D, 0xC3D, .L⟩, ⟨0xC3E, 0xC44, .M⟩, ⟨0xC46, 0xC48, .M⟩, ⟨0xC4A, 0xC4D, .M⟩,
    ⟨0xC55, 0xC56, .M⟩, ⟨0xC58, 0xC5A, .L⟩, ⟨0xC5D, 0xC5D, .L⟩, ⟨0xC60, 0xC61, .L⟩,
    ⟨0xC62, 0xC63, .M⟩, ⟨0xC66, 0xC6F, .Nd⟩, ⟨0xC78, 0xC7E, .No⟩, ⟨0xC80, 0xC80, .L⟩,
    ⟨0xC81, 0xC83, .M⟩, ⟨0xC85, 0xC8C, .L⟩, ⟨0xC8E, 0xC90, .L⟩, ⟨0xC92, 0xCA8, .L⟩,
    ⟨0xCAA, 0xCB3, .L⟩, ⟨0xCB5, 0xCB9, .L⟩, ⟨0xCBC, 0xCBC, .M⟩, ⟨0xCBD, 0xCBD, .L⟩,
    ⟨0xCBE, 0xCC4, .M⟩, ⟨0xCC6, 0xCC8, .M⟩, ⟨0xCCA, 0xCCD, .M⟩, ⟨0xCD5, 0xCD6, .M⟩,
    ⟨0xCDD, 0xCDE, .L⟩, ⟨0xCE0, 0xCE1, .L⟩, ⟨0xCE2, 0xCE3, .M⟩, ⟨0xCE6, 0xCEF, .Nd⟩,
    ⟨0xCF1, 0xCF2, .L⟩, ⟨0xD00, 0xD03, .M⟩, ⟨0xD04, 0xD0C, .L⟩, ⟨0xD0E, 0xD10, .L⟩,
    ⟨0xD12, 0xD3A, .L⟩, ⟨0xD3B, 0xD3C, .M⟩, ⟨0xD3D, 0xD3D, .L⟩, ⟨0xD3E, 0xD44, .M⟩,
    ⟨0xD46, 0xD48, .M⟩, ⟨0xD4A, 0xD4D, .M⟩, ⟨0xD4E, 0xD4E, .L⟩, ⟨0xD54, 0xD56, .L⟩,
    ⟨0xD57, 0xD57, .M⟩, ⟨0xD58, 0xD5E, .No⟩, ⟨0xD5F, 0xD61, .L⟩, ⟨0xD62, 0xD63, .M⟩,
    ⟨0xD66, 0xD6F, .Nd⟩, ⟨0xD70, 0xD78, .No⟩, ⟨0xD7A, 0xD7F, .L⟩, ⟨0xD81, 0xD83, .M⟩,
    ⟨0xD85, 0xD96, .L⟩, ⟨0xD9A, 0xDB1, .L⟩, ⟨0xDB3, 0xDBB, .L⟩, ⟨0xDBD, 0xDBD, .L⟩,
    ⟨0xDC0, 0xDC6, .L⟩, ⟨0xDCA, 0xDCA, .M⟩, ⟨0xDCF, 0xDD4, .M⟩, ⟨0xDD6, 0xDD6, .M⟩,
    ⟨0xDD8, 0xDDF, .M⟩, ⟨0xDE6, 0xDEF, .Nd⟩, ⟨0xDF2, 0xDF3, .M⟩, ⟨0xE01, 0xE30, .L⟩,
    ⟨0xE31, 0xE31, .M⟩, ⟨0xE32, 0xE33, .L⟩, ⟨0xE34, 0xE3A, .M⟩, ⟨0xE40, 0xE46, .L⟩,
    ⟨0xE47, 0xE4E, .M⟩, ⟨0xE50, 0xE59, .Nd⟩, ⟨0xE81, 0xE82, .L⟩, ⟨0xE84, 0xE84, .L⟩,
    ⟨0xE86, 0xE8A, .L⟩, ⟨0xE8C, 0xEA3, .L⟩, ⟨0xEA5, 0xEA5, .L⟩, ⟨0xEA7, 0xEB0, .L⟩,
    ⟨0xEB1, 0xEB1, .M⟩, ⟨0xEB2, 0xEB3, .L⟩, ⟨0xEB4, 0xEBC, .M⟩, ⟨0xEBD, 0xEBD, .L⟩,
    ⟨0xEC0, 0xEC4, .L⟩, ⟨0xEC6, 0xEC6, .L⟩, ⟨0xEC8, 0xECD, .M⟩, ⟨0xED0, 0xED9, .Nd⟩,
    ⟨0xEDC, 0xEDF, .L⟩, ⟨0xF00, 0xF00, .L⟩, ⟨0xF18, 0xF19, .M⟩, ⟨0xF20, 0xF29, .Nd⟩,
    ⟨0xF2A, 0xF33, .No⟩, ⟨0xF35, 0xF35, .M⟩, ⟨0xF37, 0xF37, .M⟩, ⟨0xF39, 0xF39, .M⟩,
    ⟨0xF3E, 0xF3F, .M⟩, ⟨0xF40, 0xF47, .L⟩, ⟨0xF49, 0xF6C, .L⟩, ⟨0xF71, 0xF84, .M⟩,
    ⟨0xF86, 0xF87, .M⟩, ⟨0xF88, 0xF8C, .L⟩, ⟨0xF8D, 0xF97, .M⟩, ⟨0xF99, 0xFBC, .M⟩,
    ⟨0xFC6, 0xFC6, .M⟩, ⟨0x1000, 0x102A, .L⟩, ⟨0x102B, 0x103E, .M⟩, ⟨0x103F, 0x103F, .L⟩,
    ⟨0x1040, 0x1049, .Nd⟩, ⟨0x1050, 0x1055, .L⟩, ⟨0x1056, 0x1059, .M⟩, ⟨0x105A, 0x105D, .L⟩,
    ⟨0x105E, 0x1060, .M⟩, ⟨0x1061, 0x1061, .L⟩, ⟨0x1062, 0x1064, .M⟩, ⟨0x1065, 0x1066, .L⟩,
    ⟨0x1067, 0x106D, .M⟩, ⟨0x106E, 0x1070, .L⟩, ⟨0x1071, 0x1074, .M⟩, ⟨0x1075, 0x1081, .L⟩,
    ⟨0x1082, 0x108D, .M⟩, ⟨0x108E, 0x108E, .L⟩, ⟨0x108F, 0x108F, .M⟩, ⟨0x1090, 0x1099, .Nd⟩,
    ⟨0x109A, 0x109D, .M⟩, ⟨0x10A0, 0x10C5, .L⟩, ⟨0x10C7, 0x10C7, .L⟩, ⟨0x10CD, 0x10CD, .L⟩,
    ⟨0x10D0, 0x10FA, .L⟩, ⟨0x10FC, 0x1248, .L⟩, ⟨0x124A, 0x124D, .L⟩, ⟨0x1250, 0x1256, .L⟩,
    ⟨0x1258, 0x1258, .L⟩, ⟨0x125A, 0x125D, .L⟩, ⟨0x1260, 0x1288, .L⟩, ⟨0x128A, 0x128D, .L⟩,
    ⟨0x1290, 0x12B0, .L⟩, ⟨0x12B2, 0x12B5, .L⟩, ⟨0x12B8, 0x12BE, .L⟩, ⟨0x12C0, 0x12C0, .L⟩,
    ⟨0x12C2, 0x12C5, .L⟩, ⟨0x12C8, 0x12D6, .L⟩, ⟨0x12D8, 0x1310, .L⟩, ⟨0x1312, 0x1315, .L⟩,
    ⟨0x1318, 0x135A, .L⟩, ⟨0x135D, 0x135F, .M⟩, ⟨0x1369, 0x137C, .No⟩, ⟨0x1380, 0x138F, .L⟩,
    ⟨0x13A0, 0x13F5, .L⟩, ⟨0x13F8, 0x13FD, .L⟩, ⟨0x1401, 0x166C, .L⟩, ⟨0x166F, 0x167F, .L⟩,
    ⟨0x1681, 0x169A, .L⟩, ⟨0x16A0, 0x16EA, .L⟩, ⟨0x16EE, 0x16F0, .Nl⟩, ⟨0x16F1, 0x16F8, .L⟩,
    ⟨0x1700, 0x1711, .L⟩, ⟨0x1712, 0x1715, .M⟩, ⟨0x171F, 0x1731, .L⟩, ⟨0x1732, 0x1734, .M⟩,
    ⟨0x1740, 0x1751, .L⟩, ⟨0x1752, 0x1753, .M⟩, ⟨0x1760, 0x176C, .L⟩, ⟨0x176E, 0x1770, .L⟩,
    ⟨0x1772, 0x1773, .M⟩, ⟨0x1780, 0x17B3, .L⟩, ⟨0x17B4, 0x17D3, .M⟩, ⟨0x17D7, 0x17D7, .L⟩,
    ⟨0x17DC, 0x17DC, .L⟩, ⟨0x17DD, 0x17DD, .M⟩, ⟨0x17E0, 0x17E9, .Nd⟩, ⟨0x17F0, 0x17F9, .No⟩,
    ⟨0x180B, 0x180D, .M⟩, ⟨0x180F, 0x180F, .M⟩, ⟨0x1810, 0x1819, .Nd⟩, ⟨0x1820, 0x1878, .L⟩,
    ⟨0x1880, 0x1884, .L⟩, ⟨0x1885, 0x1886, .M⟩, ⟨0x1887, 0x18A8, .L⟩, ⟨0x18A9, 0x18A9, .M⟩,
    ⟨0x18AA, 0x18AA, .L⟩, ⟨0x18B0, 0x18F5, .L⟩, ⟨0x1900, 0x191E, .L⟩, ⟨0x1920, 0x192B, .M⟩,
    ⟨0x1930, 0x193B, .M⟩, ⟨0x1946, 0x194F, .Nd⟩, ⟨0x1950, 0x196D, .L⟩, ⟨0x1970, 0x1974, .L⟩,
    ⟨0x1980, 0x19AB, .L⟩, ⟨0x19B0, 0x19C9, .L⟩, ⟨0x19D0, 0x19D9, .Nd⟩, ⟨0x19DA, 0x19DA, .No⟩,
    ⟨0x1A00, 0x1A16, .L⟩, ⟨0x1A17, 0x1A1B, .M⟩, ⟨0x1A20, 0x1A54, .L⟩, ⟨0x1A55, 0x1A5E, .M⟩,
    ⟨0x1A60, 0x1A7C, .M⟩, ⟨0x1A7F, 0x1A7F, .M⟩, ⟨0x1A80, 0x1A89, .Nd⟩, ⟨0x1A90, 0x1A99, .Nd⟩,
    ⟨0x1AA7, 0x1AA7, .L⟩, ⟨0x1AB0, 0x1ABD, .M⟩, ⟨0x1ABF, 0x1ACE, .M⟩, ⟨0x1B00, 0x1B04, .M⟩,
    ⟨0x1B05, 0x1B33, .L⟩, ⟨0x1B34, 0x1B44, .M⟩, ⟨0x1B45, 0x1B4C, .L⟩, ⟨0x1B50, 0x1B59, .Nd⟩,
    ⟨0x1B6B, 0x1B73, .M⟩, ⟨0x1B80, 0x1B82, .M⟩, ⟨0x1B83, 0x1BA0, .L⟩, ⟨0x1BA1, 0x1BAD, .M⟩,
    ⟨0x1BAE, 0x1BAF, .L⟩, ⟨0x1BB0, 0x1BB9, .Nd⟩, ⟨0x1BBA, 0x1BE5, .L⟩, ⟨0x1BE6, 0x1BF3, .M⟩,
    ⟨0x1C00, 0x1C23, .L⟩, ⟨0x1C24, 0x1C37, .M⟩, ⟨0x1C40, 0x1C49, .Nd⟩, ⟨0x1C4D, 0x1C4F, .L⟩,
    ⟨0x1C50, 0x1C59, .Nd⟩, ⟨0x1C5A, 0x1C7D, .L⟩, ⟨0x1C80, 0x1C88, .L⟩, ⟨0x1C90, 0x1CBA, .L⟩,
    ⟨0x1CBD, 0x1CBF, .L⟩, ⟨0x1CD0, 0x1CD2, .M⟩, ⟨0x1CD4, 0x1CE8, .M⟩, ⟨0x1CE9, 0x1CEC, .L⟩,
    ⟨0x1CED, 0x1CED, .M⟩, ⟨0x1CEE, 0x1CF3, .L⟩, ⟨0x1CF4, 0x1CF4, .M⟩, ⟨0x1CF5, 0x1CF6, .L⟩,
    ⟨0x1CF7, 0x1CF9, .M⟩, ⟨0x1CFA, 0x1CFA, .L⟩, ⟨0x1D00, 0x1DBF, .L⟩, ⟨0x1DC0, 0x1DFF, .M⟩,
    ⟨0x1E00, 0x1F15, .L⟩, ⟨0x1F18, 0x1F1D, .L⟩, ⟨0x1F20, 0x1F45, .L⟩, ⟨0x1F48, 0x1F4D, .L⟩,
    ⟨0x1F50, 0x1F57, .L⟩, ⟨0x1F59, 0x1F59, .L⟩, ⟨0x1F5B, 0x1F5B, .L⟩, ⟨0x1F5D, 0x1F5D, .L⟩,
    ⟨0x1F5F, 0x1F7D, .L⟩, ⟨0x1F80, 0x1FB4, .L⟩, ⟨0x1FB6, 0x1FBC, .L⟩, ⟨0x1FBE, 0x1FBE, .L⟩,
    ⟨0x1FC2, 0x1FC4, .L⟩, ⟨0x1FC6, 0x1FCC, .L⟩, ⟨0x1FD0, 0x1FD3, .L⟩, ⟨0x1FD6, 0x1FDB, .L⟩,
    ⟨0x1FE0, 0x1FEC, .L⟩, ⟨0x1FF2, 0x1FF4, .L⟩, ⟨0x1FF6, 0x1FFC, .L⟩, ⟨0x203F, 0x2040, .Pc⟩,
    ⟨0x2054, 0x2054, .Pc⟩, ⟨0x2070, 0x2070, .No⟩, ⟨0x2071, 0x2071, .L⟩, ⟨0x2074, 0x2079, .No⟩,
    ⟨0x207F, 0x207F, .L⟩, ⟨0x2080, 0x2089, .No⟩, ⟨0x2090, 0x209C, .L⟩, ⟨0x20D0, 0x20DC, .M⟩,
    ⟨0x20E1, 0x20E1, .M⟩, ⟨0x20E5, 0x20F0, .M⟩, ⟨0x2102, 0x2102, .L⟩, ⟨0x2107, 0x2107, .L⟩,
    ⟨0x210A, 0x2113, .L⟩, ⟨0x2115, 0x2115, .L⟩, ⟨0x2119, 0x211D, .L⟩, ⟨0x2124, 0x2124, .L⟩,
    ⟨0x2126, 0x2126, .L⟩, ⟨0x2128, 0x2128, .L⟩, ⟨0x212A, 0x212D, .L⟩, ⟨0x212F, 0x2139, .L⟩,
    ⟨0x213C, 0x213F, .L⟩, ⟨0x2145, 0x2149, .L⟩, ⟨0x214E, 0x214E, .L⟩, ⟨0x2150, 0x215F, .No⟩,
    ⟨0x2160, 0x2182, .Nl⟩, ⟨0x2183, 0x2184, .L⟩, ⟨0x2185, 0x2188, .Nl⟩, ⟨0x2189, 0x2189, .No⟩,
    ⟨0x2460, 0x249B, .No⟩, ⟨0x24EA, 0x24FF, .No⟩, ⟨0x2776, 0x2793, .No⟩, ⟨0x2C00, 0x2CE4, .L⟩,
    ⟨0x2CEB, 0x2CEE, .L⟩, ⟨0x2CEF, 0x2CF1, .M⟩, ⟨0x2CF2, 0x2CF3, .L⟩, ⟨0x2CFD, 0x2CFD, .No⟩,
    ⟨0x2D00, 0x2D25, .L⟩, ⟨0x2D27, 0x2D27, .L⟩, ⟨0x2D2D, 0x2D2D, .L⟩, ⟨0x2D30, 0x2D67, .L⟩,
    ⟨0x2D6F, 0x2D6F, .L⟩, ⟨0x2D7F, 0x2D7F, .M⟩, ⟨0x2D80, 0x2D96, .L⟩, ⟨0x2DA0, 0x2DA6, .L⟩,
    ⟨0x2DA8, 0x2DAE, .L⟩, ⟨0x2DB0, 0x2DB6, .L⟩, ⟨0x2DB8, 0x2DBE, .L⟩, ⟨0x2DC0, 0x2DC6, .L⟩,
    ⟨0x2DC8, 0x2DCE, .L⟩, ⟨0x2DD0, 0x2DD6, .L⟩, ⟨0x2DD8, 0x2DDE, .L⟩, ⟨0x2DE0, 0x2DFF, .M⟩,
    ⟨0x2E2F, 0x2E2F, .L⟩, ⟨0x3005, 0x3006, .L⟩, ⟨0x3007, 0x3007, .Nl⟩, ⟨0x3021, 0x3029, .Nl⟩,
    ⟨0x302A, 0x302F, .M⟩, ⟨0x3031, 0x3035, .L⟩, ⟨0x3038, 0x303A, .Nl⟩, ⟨0x303B, 0x303C, .L⟩,
    ⟨0x3041, 0x3096, .L⟩, ⟨0x3099, 0x309A, .M⟩, ⟨0x309D, 0x309F, .L⟩, ⟨0x30A1, 0x30FA, .L⟩,
    ⟨0x30FC, 0x30FF, .L⟩, ⟨0x3105, 0x312F, .L⟩, ⟨0x3131, 0x318E, .L⟩, ⟨0x3192, 0x3195, .No⟩,
    ⟨0x31A0, 0x31BF, .L⟩, ⟨0x31F0, 0x31FF, .L⟩, ⟨0x3220, 0x3229, .No⟩, ⟨0x3248, 0x324F, .No⟩,
    ⟨0x3251, 0x325F, .No⟩, ⟨0x3280, 0x3289, .No⟩, ⟨0x32B1, 0x32BF, .No⟩, ⟨0x3400, 0x4DBF, .L⟩,
    ⟨0x4E00, 0xA48C, .L⟩, ⟨0xA4D0, 0xA4FD, .L⟩, ⟨0xA500, 0xA60C, .L⟩, ⟨0xA610, 0xA61F, .L⟩,
    ⟨0xA620, 0xA629, .Nd⟩, ⟨0xA62A, 0xA62B, .L⟩, ⟨0xA640, 0xA66E, .L⟩, ⟨0xA66F, 0xA66F, .M⟩,
    ⟨0xA674, 0xA67D, .M⟩, ⟨0xA67F, 0xA69D, .L⟩, ⟨0xA69E, 0xA69F, .M⟩, ⟨0xA6A0, 0xA6E5, .L⟩,
    ⟨0xA6E6, 0xA6EF, .Nl⟩, ⟨0xA6F0, 0xA6F1, .M⟩, ⟨0xA717, 0xA71F, .L⟩, ⟨0xA722, 0xA788, .L⟩,
    ⟨0xA78B, 0xA7CA, .L⟩, ⟨0xA7D0, 0xA7D1, .L⟩, ⟨0xA7D3, 0xA7D3, .L⟩, ⟨0xA7D5, 0xA7D9, .L⟩,
    ⟨0xA7F2, 0xA801, .L⟩, ⟨0xA802, 0xA802, .M⟩, ⟨0xA803, 0xA805, .L⟩, ⟨0xA806, 0xA806, .M⟩,
    ⟨0xA807, 0xA80A, .L⟩, ⟨0xA80B, 0xA80B, .M⟩, ⟨0xA80C, 0xA822, .L⟩, ⟨0xA823, 0xA827, .M⟩,
    ⟨0xA82C, 0xA82C, .M⟩, ⟨0xA830, 0xA835, .No⟩, ⟨0xA840, 0xA873, .L⟩, ⟨0xA880, 0xA881, .M⟩,
    ⟨0xA882, 0xA8B3, .L⟩, ⟨0xA8B4, 0xA8C5, .M⟩, ⟨0xA8D0, 0xA8D9, .Nd⟩, ⟨0xA8E0, 0xA8F1, .M⟩,
    ⟨0xA8F2, 0xA8F7, .L⟩, ⟨0xA8FB, 0xA8FB, .L⟩, ⟨0xA8FD, 0xA8FE, .L⟩, ⟨0xA8FF, 0xA8FF, .M⟩,
    ⟨0xA900, 0xA909, .Nd⟩, ⟨0xA90A, 0xA925, .L⟩, ⟨0xA926, 0xA92D, .M⟩, ⟨0xA930, 0xA946, .L⟩,
    ⟨0xA947, 0xA953, .M⟩, ⟨0xA960, 0xA97C, .L⟩, ⟨0xA980, 0xA983, .M⟩, ⟨0xA984, 0xA9B2, .L⟩,
    ⟨0xA9B3, 0xA9C0, .M⟩, ⟨0xA9CF, 0xA9CF, .L⟩, ⟨0xA9D0, 0xA9D9, .Nd⟩, ⟨0xA9E0, 0xA9E4, .L⟩,
    ⟨0xA9E5, 0xA9E5, .M⟩, ⟨0xA9E6, 0xA9EF, .L⟩, ⟨0xA9F0, 0xA9F9, .Nd⟩, ⟨0xA9FA, 0xA9FE, .L⟩,
    ⟨0xAA00, 0xAA28, .L⟩, ⟨0xAA29, 0xAA36, .M⟩, ⟨0xAA40, 0xAA42, .L⟩, ⟨0xAA43, 0xAA43, .M⟩,
    ⟨0xAA44, 0xAA4B, .L⟩, ⟨0xAA4C, 0xAA4D, .M⟩, ⟨0xAA50, 0xAA59, .Nd⟩, ⟨0xAA60, 0xAA76, .L⟩,
    ⟨0xAA7A, 0xAA7A, .L⟩, ⟨0xAA7B, 0xAA7D, .M⟩, ⟨0xAA7E, 0xAAAF, .L⟩, ⟨0xAAB0, 0xAAB0, .M⟩,
    ⟨0xAAB1, 0xAAB1, .L⟩, ⟨0xAAB2, 0xAAB4, .M⟩, ⟨0xAAB5, 0xAAB6, .L⟩, ⟨0xAAB7, 0xAAB8, .M⟩,
    ⟨0xAAB9, 0xAABD, .L⟩, ⟨0xAABE, 0xAABF, .M⟩, ⟨0xAAC0, 0xAAC0, .L⟩, ⟨0xAAC1, 0xAAC1, .M⟩,
    ⟨0xAAC2, 0xAAC2, .L⟩, ⟨0xAADB, 0xAADD, .L⟩, ⟨0xAAE0, 0xAAEA, .L⟩, ⟨0xAAEB, 0xAAEF, .M⟩,
    ⟨0xAAF2, 0xAAF4, .L⟩, ⟨0xAAF5, 0xAAF6, .M⟩, ⟨0xAB01, 0xAB06, .L⟩, ⟨0xAB09, 0xAB0E, .L⟩,
    ⟨0xAB11, 0xAB16, .L⟩, ⟨0xAB20, 0xAB26, .L⟩, ⟨0xAB28, 0xAB2E, .L⟩, ⟨0xAB30, 0xAB5A, .L⟩,
    ⟨0xAB5C, 0xAB69, .L⟩, ⟨0xAB70, 0xABE2, .L⟩, ⟨0xABE3, 0xABEA, .M⟩, ⟨0xABEC, 0xABED, .M⟩,
    ⟨0xABF0, 0xABF9, .Nd⟩, ⟨0xAC00, 0xD7A3, .L⟩, ⟨0xD7B0, 0xD7C6, .L⟩, ⟨0xD7CB, 0xD7FB, .L⟩,
    ⟨0xF900, 0xFA6D, .L⟩, ⟨0xFA70, 0xFAD9, .L⟩, ⟨0xFB00, 0xFB06, .L⟩, ⟨0xFB13, 0xFB17, .L⟩,
    ⟨0xFB1D, 0xFB1D, .L⟩, ⟨0xFB1E, 0xFB1E, .M⟩, ⟨0xFB1F, 0xFB28, .L⟩, ⟨0xFB2A, 0xFB36, .L⟩,
    ⟨0xFB38, 0xFB3C, .L⟩, ⟨0xFB3E, 0xFB3E, .L⟩, ⟨0xFB40, 0xFB41, .L⟩, ⟨0xFB43, 0xFB44, .L⟩,
    ⟨0xFB46, 0xFBB1, .L⟩, ⟨0xFBD3, 0xFD3D, .L⟩, ⟨0xFD50, 0xFD8F, .L⟩, ⟨0xFD92, 0xFDC7, .L⟩,
    ⟨0xFDF0, 0xFDFB, .L⟩, ⟨0xFE00, 0xFE0F, .M⟩, ⟨0xFE20, 0xFE2F, .M⟩, ⟨0xFE33, 0xFE34, .Pc⟩,
    ⟨0xFE4D, 0xFE4F, .Pc⟩, ⟨0xFE70, 0xFE74, .L⟩, ⟨0xFE76, 0xFEFC, .L⟩, ⟨0xFF10, 0xFF19, .Nd⟩,
    ⟨0xFF21, 0xFF3A, .L⟩, ⟨0xFF3F, 0xFF3F, .Pc⟩, ⟨0xFF41, 0xFF5A, .L⟩, ⟨0xFF66, 0xFFBE, .L⟩,
    ⟨0xFFC2, 0xFFC7, .L⟩, ⟨0xFFCA, 0xFFCF, .L⟩, ⟨0xFFD2, 0xFFD7, .L⟩, ⟨0xFFDA, 0xFFDC, .L⟩]

/-- Characters above `\uffff`. -/
def highBlocks : List Block := [
    ⟨0x10000, 0x1000B, .L⟩, ⟨0x1000D, 0x10026, .L⟩, ⟨0x10028, 0x1003A, .L⟩, ⟨0x1003C, 0x1003D, .L⟩,
    ⟨0x1003F, 0x1004D, .L⟩, ⟨0x10050, 0x1005D, .L⟩, ⟨0x10080, 0x100FA, .L⟩, ⟨0x10107, 0x10133, .No⟩,
    ⟨0x10140, 0x10174, .Nl⟩, ⟨0x10175, 0x10178, .No⟩, ⟨0x1018A, 0x1018B, .No⟩,
    ⟨0x101FD, 0x101FD, .M⟩, ⟨0x10280, 0x1029C, .L⟩, ⟨0x102A0, 0x102D0, .L⟩, ⟨0x102E0, 0x102E0, .M⟩,
    ⟨0x102E1, 0x102FB, .No⟩, ⟨0x10300, 0x1031F, .L⟩, ⟨0x10320, 0x10323, .No⟩,
    ⟨0x1032D, 0x10340, .L⟩, ⟨0x10341, 0x10341, .Nl⟩, ⟨0x10342, 0x10349, .L⟩,
    ⟨0x1034A, 0x1034A, .Nl⟩, ⟨0x10350, 0x10375, .L⟩, ⟨0x10376, 0x1037A, .M⟩, ⟨0x10380, 0x1039D, .L⟩,
    ⟨0x103A0, 0x103C3, .L⟩, ⟨0x103C8, 0x103CF, .L⟩, ⟨0x103D1, 0x103D5, .Nl⟩, ⟨0x10400, 0x1049D, .L⟩,
    ⟨0x104A0, 0x104A9, .Nd⟩, ⟨0x104B0, 0x104D3, .L⟩, ⟨0x104D8, 0x104FB, .L⟩, ⟨0x10500, 0x10527, .L⟩,
    ⟨0x10530, 0x10563, .L⟩, ⟨0x10570, 0x1057A, .L⟩, ⟨0x1057C, 0x1058A, .L⟩, ⟨0x1058C, 0x10592, .L⟩,
    ⟨0x10594, 0x10595, .L⟩, ⟨0x10597, 0x105A1, .L⟩, ⟨0x105A3, 0x105B1, .L⟩, ⟨0x105B3, 0x105B9, .L⟩,
    ⟨0x105BB, 0x105BC, .L⟩, ⟨0x10600, 0x10736, .L⟩, ⟨0x10740, 0x10755, .L⟩, ⟨0x10760, 0x10767, .L⟩,
    ⟨0x10780, 0x10785, .L⟩, ⟨0x10787, 0x107B0, .L⟩, ⟨0x107B2, 0x107BA, .L⟩, ⟨0x10800, 0x10805, .L⟩,
    ⟨0x10808, 0x10808, .L⟩, ⟨0x1080A, 0x10835, .L⟩, ⟨0x10837, 0x10838, .L⟩, ⟨0x1083C, 0x1083C, .L⟩,
    ⟨0x1083F, 0x10855, .L⟩, ⟨0x10858, 0x1085F, .No⟩, ⟨0x10860, 0x10876, .L⟩,
    ⟨0x10879, 0x1087F, .No⟩, ⟨0x10880, 0x1089E, .L⟩, ⟨0x108A7, 0x108AF, .No⟩,
    ⟨0x108E0, 0x108F2, .L⟩, ⟨0x108F4, 0x108F5, .L⟩, ⟨0x108FB, 0x108FF, .No⟩, ⟨0x10900, 0x10915, .L⟩,
    ⟨0x10916, 0x1091B, .No⟩, ⟨0x10920, 0x10939, .L⟩, ⟨0x10980, 0x109B7, .L⟩,
    ⟨0x109BC, 0x109BD, .No⟩, ⟨0x109BE, 0x109BF, .L⟩, ⟨0x109C0, 0x109CF, .No⟩,
    ⟨0x109D2, 0x109FF, .No⟩, ⟨0x10A00, 0x10A00, .L⟩, ⟨0x10A01, 0x10A03, .M⟩, ⟨0x10A05, 0x10A06, .M⟩,
    ⟨0x10A0C, 0x10A0F, .M⟩, ⟨0x10A10, 0x10A13, .L⟩, ⟨0x10A15, 0x10A17, .L⟩, ⟨0x10A19, 0x10A35, .L⟩,
    ⟨0x10A38, 0x10A3A, .M⟩, ⟨0x10A3F, 0x10A3F, .M⟩, ⟨0x10A40, 0x10A48, .No⟩, ⟨0x10A60, 0x10A7C, .L⟩,
    ⟨0x10A7D, 0x10A7E, .No⟩, ⟨0x10A80, 0x10A9C, .L⟩, ⟨0x10A9D, 0x10A9F, .No⟩,
    ⟨0x10AC0, 0x10AC7, .L⟩, ⟨0x10AC9, 0x10AE4, .L⟩, ⟨0x10AE5, 0x10AE6, .M⟩, ⟨0x10AEB, 0x10AEF, .No⟩,
    ⟨0x10B00, 0x10B35, .L⟩, ⟨0x10B40, 0x10B55, .L⟩, ⟨0x10B58, 0x10B5F, .No⟩, ⟨0x10B60, 0x10B72, .L⟩,
    ⟨0x10B78, 0x10B7F, .No⟩, ⟨0x10B80, 0x10B91, .L⟩, ⟨0x10BA9, 0x10BAF, .No⟩,
    ⟨0x10C00, 0x10C48, .L⟩, ⟨0x10C80, 0x10CB2, .L⟩, ⟨0x10CC0, 0x10CF2, .L⟩, ⟨0x10CFA, 0x10CFF, .No⟩,
    ⟨0x10D00, 0x10D23, .L⟩, ⟨0x10D24, 0x10D27, .M⟩, ⟨0x10D30, 0x10D39, .Nd⟩,
    ⟨0x10E60, 0x10E7E, .No⟩, ⟨0x10E80, 0x10EA9, .L⟩, ⟨0x10EAB, 0x10EAC, .M⟩, ⟨0x10EB0, 0x10EB1, .L⟩,
    ⟨0x10F00, 0x10F1C, .L⟩, ⟨0x10F1D, 0x10F26, .No⟩, ⟨0x10F27, 0x10F27, .L⟩, ⟨0x10F30, 0x10F45, .L⟩,
    ⟨0x10F46, 0x10F50, .M⟩, ⟨0x10F51, 0x10F54, .No⟩, ⟨0x10F70, 0x10F81, .L⟩, ⟨0x10F82, 0x10F85, .M⟩,
    ⟨0x10FB0, 0x10FC4, .L⟩, ⟨0x10FC5, 0x10FCB, .No⟩, ⟨0x10FE0, 0x10FF6, .L⟩, ⟨0x11000, 0x11002, .M⟩,
    ⟨0x11003, 0x11037, .L⟩, ⟨0x11038, 0x11046, .M⟩, ⟨0x11052, 0x11065, .No⟩,
    ⟨0x11066, 0x1106F, .Nd⟩, ⟨0x11070, 0x11070, .M⟩, ⟨0x11071, 0x11072, .L⟩, ⟨0x11073, 0x11074, .M⟩,
    ⟨0x11075, 0x11075, .L⟩, ⟨0x1107F, 0x11082, .M⟩, ⟨0x11083, 0x110AF, .L⟩, ⟨0x110B0, 0x110BA, .M⟩,
    ⟨0x110C2, 0x110C2, .M⟩, ⟨0x110D0, 0x110E8, .L⟩, ⟨0x110F0, 0x110F9, .Nd⟩, ⟨0x11100, 0x11102, .M⟩,
    ⟨0x11103, 0x11126, .L⟩, ⟨0x11127, 0x11134, .M⟩, ⟨0x11136, 0x1113F, .Nd⟩, ⟨0x11144, 0x11144, .L⟩,
    ⟨0x11145, 0x11146, .M⟩, ⟨0x11147, 0x11147, .L⟩, ⟨0x11150, 0x11172, .L⟩, ⟨0x11173, 0x11173, .M⟩,
    ⟨0x11176, 0x11176, .L⟩, ⟨0x11180, 0x11182, .M⟩, ⟨0x11183, 0x111B2, .L⟩, ⟨0x111B3, 0x111C0, .M⟩,
    ⟨0x111C1, 0x111C4, .L⟩, ⟨0x111C9, 0x111CC, .M⟩, ⟨0x111CE, 0x111CF, .M⟩, ⟨0x111D0, 0x111D9, .Nd⟩,
    ⟨0x111DA, 0x111DA, .L⟩, ⟨0x111DC, 0x111DC, .L⟩, ⟨0x111E1, 0x111F4, .No⟩, ⟨0x11200, 0x11211, .L⟩,
    ⟨0x11213, 0x1122B, .L⟩, ⟨0x1122C, 0x11237, .M⟩, ⟨0x1123E, 0x1123E, .M⟩, ⟨0x11280, 0x11286, .L⟩,
    ⟨0x11288, 0x11288, .L⟩, ⟨0x1128A, 0x1128D, .L⟩, ⟨0x1128F, 0x1129D, .L⟩, ⟨0x1129F, 0x112A8, .L⟩,
    ⟨0x112B0, 0x112DE, .L⟩, ⟨0x112DF, 0x112EA, .M⟩, ⟨0x112F0, 0x112F9, .Nd⟩, ⟨0x11300, 0x11303, .M⟩,
    ⟨0x11305, 0x1130C, .L⟩, ⟨0x1130F, 0x11310, .L⟩, ⟨0x11313, 0x11328, .L⟩, ⟨0x1132A, 0x11330, .L⟩,
    ⟨0x11332, 0x11333, .L⟩, ⟨0x11335, 0x11339, .L⟩, ⟨0x1133B, 0x1133C, .M⟩, ⟨0x1133D, 0x1133D, .L⟩,
    ⟨0x1133E, 0x11344, .M⟩, ⟨0x11347, 0x11348, .M⟩, ⟨0x1134B, 0x1134D, .M⟩, ⟨0x11350, 0x11350, .L⟩,
    ⟨0x11357, 0x11357, .M⟩, ⟨0x1135D, 0x11361, .L⟩, ⟨0x11362, 0x11363, .M⟩, ⟨0x11366, 0x1136C, .M⟩,
    ⟨0x11370, 0x11374, .M⟩, ⟨0x11400, 0x11434, .L⟩, ⟨0x11435, 0x11446, .M⟩, ⟨0x11447, 0x1144A, .L⟩,
    ⟨0x11450, 0x11459, .Nd⟩, ⟨0x1145E, 0x1145E, .M⟩, ⟨0x1145F, 0x11461, .L⟩, ⟨0x11480, 0x114AF, .L⟩,
    ⟨0x114B0, 0x114C3, .M⟩, ⟨0x114C4, 0x114C5, .L⟩, ⟨0x114C7, 0x114C7, .L⟩, ⟨0x114D0, 0x114D9, .Nd⟩,
    ⟨0x11580, 0x115AE, .L⟩, ⟨0x115AF, 0x115B5, .M⟩, ⟨0x115B8, 0x115C0, .M⟩, ⟨0x115D8, 0x115DB, .L⟩,
    ⟨0x115DC, 0x115DD, .M⟩, ⟨0x11600, 0x1162F, .L⟩, ⟨0x11630, 0x11640, .M⟩, ⟨0x11644, 0x11644, .L⟩,
    ⟨0x11650, 0x11659, .Nd⟩, ⟨0x11680, 0x116AA, .L⟩, ⟨0x116AB, 0x116B7, .M⟩, ⟨0x116B8, 0x116B8, .L⟩,
    ⟨0x116C0, 0x116C9, .Nd⟩, ⟨0x11700, 0x1171A, .L⟩, ⟨0x1171D, 0x1172B, .M⟩,
    ⟨0x11730, 0x11739, .Nd⟩, ⟨0x1173A, 0x1173B, .No⟩, ⟨0x11740, 0x11746, .L⟩,
    ⟨0x11800, 0x1182B, .L⟩, ⟨0x1182C, 0x1183A, .M⟩, ⟨0x118A0, 0x118DF, .L⟩, ⟨0x118E0, 0x118E9, .Nd⟩,
    ⟨0x118EA, 0x118F2, .No⟩, ⟨0x118FF, 0x11906, .L⟩, ⟨0x11909, 0x11909, .L⟩, ⟨0x1190C, 0x11913, .L⟩,
    ⟨0x11915, 0x11916, .L⟩, ⟨0x11918, 0x1192F, .L⟩, ⟨0x11930, 0x11935, .M⟩, ⟨0x11937, 0x11938, .M⟩,
    ⟨0x1193B, 0x1193E, .M⟩, ⟨0x1193F, 0x1193F, .L⟩, ⟨0x11940, 0x11940, .M⟩, ⟨0x11941, 0x11941, .L⟩,
    ⟨0x11942, 0x11943, .M⟩, ⟨0x11950, 0x11959, .Nd⟩, ⟨0x119A0, 0x119A7, .L⟩, ⟨0x119AA, 0x119D0, .L⟩,
    ⟨0x119D1, 0x119D7, .M⟩, ⟨0x119DA, 0x119E0, .M⟩, ⟨0x119E1, 0x119E1, .L⟩, ⟨0x119E3, 0x119E3, .L⟩,
    ⟨0x119E4, 0x119E4, .M⟩, ⟨0x11A00, 0x11A00, .L⟩, ⟨0x11A01, 0x11A0A, .M⟩, ⟨0x11A0B, 0x11A32, .L⟩,
    ⟨0x11A33, 0x11A39, .M⟩, ⟨0x11A3A, 0x11A3A, .L⟩, ⟨0x11A3B, 0x11A3E, .M⟩, ⟨0x11A47, 0x11A47, .M⟩,
    ⟨0x11A50, 0x11A50, .L⟩, ⟨0x11A51, 0x11A5B, .M⟩, ⟨0x11A5C, 0x11A89, .L⟩, ⟨0x11A8A, 0x11A99, .M⟩,
    ⟨0x11A9D, 0x11A9D, .L⟩, ⟨0x11AB0, 0x11AF8, .L⟩, ⟨0x11C00, 0x11C08, .L⟩, ⟨0x11C0A, 0x11C2E, .L⟩,
    ⟨0x11C2F, 0x11C36, .M⟩, ⟨0x11C38, 0x11C3F, .M⟩, ⟨0x11C40, 0x11C40, .L⟩, ⟨0x11C50, 0x11C59, .Nd⟩,
    ⟨0x11C5A, 0x11C6C, .No⟩, ⟨0x11C72, 0x11C8F, .L⟩, ⟨0x11C92, 0x11CA7, .M⟩, ⟨0x11CA9, 0x11CB6, .M⟩,
    ⟨0x11D00, 0x11D06, .L⟩, ⟨0x11D08, 0x11D09, .L⟩, ⟨0x11D0B, 0x11D30, .L⟩, ⟨0x11D31, 0x11D36, .M⟩,
    ⟨0x11D3A, 0x11D3A, .M⟩, ⟨0x11D3C, 0x11D3D, .M⟩, ⟨0x11D3F, 0x11D45, .M⟩, ⟨0x11D46, 0x11D46, .L⟩,
    ⟨0x11D47, 0x11D47, .M⟩, ⟨0x11D50, 0x11D59, .Nd⟩, ⟨0x11D60, 0x11D65, .L⟩, ⟨0x11D67, 0x11D68, .L⟩,
    ⟨0x11D6A, 0x11D89, .L⟩, ⟨0x11D8A, 0x11D8E, .M⟩, ⟨0x11D90, 0x11D91, .M⟩, ⟨0x11D93, 0x11D97, .M⟩,
    ⟨0x11D98, 0x11D98, .L⟩, ⟨0x11DA0, 0x11DA9, .Nd⟩, ⟨0x11EE0, 0x11EF2, .L⟩, ⟨0x11EF3, 0x11EF6, .M⟩,
    ⟨0x11FB0, 0x11FB0, .L⟩, ⟨0x11FC0, 0x11FD4, .No⟩, ⟨0x12000, 0x12399, .L⟩,
    ⟨0x12400, 0x1246E, .Nl⟩, ⟨0x12480, 0x12543, .L⟩, ⟨0x12F90, 0x12FF0, .L⟩, ⟨0x13000, 0x1342E, .L⟩,
    ⟨0x14400, 0x14646, .L⟩, ⟨0x16800, 0x16A38, .L⟩, ⟨0x16A40, 0x16A5E, .L⟩, ⟨0x16A60, 0x16A69, .Nd⟩,
    ⟨0x16A70, 0x16ABE, .L⟩, ⟨0x16AC0, 0x16AC9, .Nd⟩, ⟨0x16AD0, 0x16AED, .L⟩, ⟨0x16AF0, 0x16AF4, .M⟩,
    ⟨0x16B00, 0x16B2F, .L⟩, ⟨0x16B30, 0x16B36, .M⟩, ⟨0x16B40, 0x16B43, .L⟩, ⟨0x16B50, 0x16B59, .Nd⟩,
    ⟨0x16B5B, 0x16B61, .No⟩, ⟨0x16B63, 0x16B77, .L⟩, ⟨0x16B7D, 0x16B8F, .L⟩, ⟨0x16E40, 0x16E7F, .L⟩,
    ⟨0x16E80, 0x16E96, .No⟩, ⟨0x16F00, 0x16F4A, .L⟩, ⟨0x16F4F, 0x16F4F, .M⟩, ⟨0x16F50, 0x16F50, .L⟩,
    ⟨0x16F51, 0x16F87, .M⟩, ⟨0x16F8F, 0x16F92, .M⟩, ⟨0x16F93, 0x16F9F, .L⟩, ⟨0x16FE0, 0x16FE1, .L⟩,
    ⟨0x16FE3, 0x16FE3, .L⟩, ⟨0x16FE4, 0x16FE4, .M⟩, ⟨0x16FF0, 0x16FF1, .M⟩, ⟨0x17000, 0x187F7, .L⟩,
    ⟨0x18800, 0x18CD5, .L⟩, ⟨0x18D00, 0x18D08, .L⟩, ⟨0x1AFF0, 0x1AFF3, .L⟩, ⟨0x1AFF5, 0x1AFFB, .L⟩,
    ⟨0x1AFFD, 0x1AFFE, .L⟩, ⟨0x1B000, 0x1B122, .L⟩, ⟨0x1B150, 0x1B152, .L⟩, ⟨0x1B164, 0x1B167, .L⟩,
    ⟨0x1B170, 0x1B2FB, .L⟩, ⟨0x1BC00, 0x1BC6A, .L⟩, ⟨0x1BC70, 0x1BC7C, .L⟩, ⟨0x1BC80, 0x1BC88, .L⟩,
    ⟨0x1BC90, 0x1BC99, .L⟩, ⟨0x1BC9D, 0x1BC9E, .M⟩, ⟨0x1CF00, 0x1CF2D, .M⟩, ⟨0x1CF30, 0x1CF46, .M⟩,
    ⟨0x1D165, 0x1D169, .M⟩, ⟨0x1D16D, 0x1D172, .M⟩, ⟨0x1D17B, 0x1D182, .M⟩, ⟨0x1D185, 0x1D18B, .M⟩,
    ⟨0x1D1AA, 0x1D1AD, .M⟩, ⟨0x1D242, 0x1D244, .M⟩, ⟨0x1D2E0, 0x1D2F3, .No⟩,
    ⟨0x1D360, 0x1D378, .No⟩, ⟨0x1D400, 0x1D454, .L⟩, ⟨0x1D456, 0x1D49C, .L⟩, ⟨0x1D49E, 0x1D49F, .L⟩,
    ⟨0x1D4A2, 0x1D4A2, .L⟩, ⟨0x1D4A5, 0x1D4A6, .L⟩, ⟨0x1D4A9, 0x1D4AC, .L⟩, ⟨0x1D4AE, 0x1D4B9, .L⟩,
    ⟨0x1D4BB, 0x1D4BB, .L⟩, ⟨0x1D4BD, 0x1D4C3, .L⟩, ⟨0x1D4C5, 0x1D505, .L⟩, ⟨0x1D507, 0x1D50A, .L⟩,
    ⟨0x1D50D, 0x1D514, .L⟩, ⟨0x1D516, 0x1D51C, .L⟩, ⟨0x1D51E, 0x1D539, .L⟩, ⟨0x1D53B, 0x1D53E, .L⟩,
    ⟨0x1D540, 0x1D544, .L⟩, ⟨0x1D546, 0x1D546, .L⟩, ⟨0x1D54A, 0x1D550, .L⟩, ⟨0x1D552, 0x1D6A5, .L⟩,
    ⟨0x1D6A8, 0x1D6C0, .L⟩, ⟨0x1D6C2, 0x1D6DA, .L⟩, ⟨0x1D6DC, 0x1D6FA, .L⟩, ⟨0x1D6FC, 0x1D714, .L⟩,
    ⟨0x1D716, 0x1D734, .L⟩, ⟨0x1D736, 0x1D74E, .L⟩, ⟨0x1D750, 0x1D76E, .L⟩, ⟨0x1D770, 0x1D788, .L⟩,
    ⟨0x1D78A, 0x1D7A8, .L⟩, ⟨0x1D7AA, 0x1D7C2, .L⟩, ⟨0x1D7C4, 0x1D7CB, .L⟩, ⟨0x1D7CE, 0x1D7FF, .Nd⟩,
    ⟨0x1DA00, 0x1DA36, .M⟩, ⟨0x1DA3B, 0x1DA6C, .M⟩, ⟨0x1DA75, 0x1DA75, .M⟩, ⟨0x1DA84, 0x1DA84, .M⟩,
    ⟨0x1DA9B, 0x1DA9F, .M⟩, ⟨0x1DAA1, 0x1DAAF, .M⟩, ⟨0x1DF00, 0x1DF1E, .L⟩, ⟨0x1E000, 0x1E006, .M⟩,
    ⟨0x1E008, 0x1E018, .M⟩, ⟨0x1E01B, 0x1E021, .M⟩, ⟨0x1E023, 0x1E024, .M⟩, ⟨0x1E026, 0x1E02A, .M⟩,
    ⟨0x1E100, 0x1E12C, .L⟩, ⟨0x1E130, 0x1E136, .M⟩, ⟨0x1E137, 0x1E13D, .L⟩, ⟨0x1E140, 0x1E149, .Nd⟩,
    ⟨0x1E14E, 0x1E14E, .L⟩, ⟨0x1E290, 0x1E2AD, .L⟩, ⟨0x1E2AE, 0x1E2AE, .M⟩, ⟨0x1E2C0, 0x1E2EB, .L⟩,
    ⟨0x1E2EC, 0x1E2EF, .M⟩, ⟨0x1E2F0, 0x1E2F9, .Nd⟩, ⟨0x1E7E0, 0x1E7E6, .L⟩, ⟨0x1E7E8, 0x1E7EB, .L⟩,
    ⟨0x1E7ED, 0x1E7EE, .L⟩, ⟨0x1E7F0, 0x1E7FE, .L⟩, ⟨0x1E800, 0x1E8C4, .L⟩, ⟨0x1E8C7, 0x1E8CF, .No⟩,
    ⟨0x1E8D0, 0x1E8D6, .M⟩, ⟨0x1E900, 0x1E943, .L⟩, ⟨0x1E944, 0x1E94A, .M⟩, ⟨0x1E94B, 0x1E94B, .L⟩,
    ⟨0x1E950, 0x1E959, .Nd⟩, ⟨0x1EC71, 0x1ECAB, .No⟩, ⟨0x1ECAD, 0x1ECAF, .No⟩,
    ⟨0x1ECB1, 0x1ECB4, .No⟩, ⟨0x1ED01, 0x1ED2D, .No⟩, ⟨0x1ED2F, 0x1ED3D, .No⟩,
    ⟨0x1EE00, 0x1EE03, .L⟩, ⟨0x1EE05, 0x1EE1F, .L⟩, ⟨0x1EE21, 0x1EE22, .L⟩, ⟨0x1EE24, 0x1EE24, .L⟩,
    ⟨0x1EE27, 0x1EE27, .L⟩, ⟨0x1EE29, 0x1EE32, .L⟩, ⟨0x1EE34, 0x1EE37, .L⟩, ⟨0x1EE39, 0x1EE39, .L⟩,
    ⟨0x1EE3B, 0x1EE3B, .L⟩, ⟨0x1EE42, 0x1EE42, .L⟩, ⟨0x1EE47, 0x1EE47, .L⟩, ⟨0x1EE49, 0x1EE49, .L⟩,
    ⟨0x1EE4B, 0x1EE4B, .L⟩, ⟨0x1EE4D, 0x1EE4F, .L⟩, ⟨0x1EE51, 0x1EE52, .L⟩, ⟨0x1EE54, 0x1EE54, .L⟩,
    ⟨0x1EE57, 0x1EE57, .L⟩, ⟨0x1EE59, 0x1EE59, .L⟩, ⟨0x1EE5B, 0x1EE5B, .L⟩, ⟨0x1EE5D, 0x1EE5D, .L⟩,
    ⟨0x1EE5F, 0x1EE5F, .L⟩, ⟨0x1EE61, 0x1EE62, .L⟩, ⟨0x1EE64, 0x1EE64, .L⟩, ⟨0x1EE67, 0x1EE6A, .L⟩,
    ⟨0x1EE6C, 0x1EE72, .L⟩, ⟨0x1EE74, 0x1EE77, .L⟩, ⟨0x1EE79, 0x1EE7C, .L⟩, ⟨0x1EE7E, 0x1EE7E, .L⟩,
    ⟨0x1EE80, 0x1EE89, .L⟩, ⟨0x1EE8B, 0x1EE9B, .L⟩, ⟨0x1EEA1, 0x1EEA3, .L⟩, ⟨0x1EEA5, 0x1EEA9, .L⟩,
    ⟨0x1EEAB, 0x1EEBB, .L⟩, ⟨0x1F100, 0x1F10C, .No⟩, ⟨0x1FBF0, 0x1FBF9, .Nd⟩,
    ⟨0x20000, 0x2A6DF, .L⟩, ⟨0x2A700, 0x2B738, .L⟩, ⟨0x2B740, 0x2B81D, .L⟩, ⟨0x2B820, 0x2CEA1, .L⟩,
    ⟨0x2CEB0, 0x2EBE0, .L⟩, ⟨0x2F800, 0x2FA1D, .L⟩, ⟨0x30000, 0x3134A, .L⟩, ⟨0xE0100, 0xE01EF, .M⟩]

/-- All characters of the six classes, in ascending order. -/
def blocks : List Block := lowBlocks ++ highBlocks

/-- The category of a character. -/
def category (c : Char) : Category :=
  match blocks.find? fun b => b.covers c.toNat with
  | some b => b.category
  | none => .other

/-- Characters by name: the underscore, the dotted I and what it becomes in lower case, and the
three forms of sigma. -/
theorem category_named :
    category '_' = .Pc ∧ category '\u0130' = .L ∧ category 'i' = .L ∧ category '\u0307' = .M ∧
      category '\u03a3' = .L ∧ category '\u03c2' = .L ∧ category '\u03c3' = .L := by
  decide +kernel

/-- The blocks follow one another, the first of them from the number `k` on. -/
def isAscendingFrom : (k : Nat) → List Block → Bool
  | _, [] => true
  | k, b :: bs => k ≤ b.first && b.first ≤ b.last && isAscendingFrom (b.last + 1) bs

/-- Blocks that ascend from a number have none below it. -/
theorem le_first_of_isAscendingFrom {k : Nat} {bs : List Block} (h : isAscendingFrom k bs)
    {b : Block} (hb : b ∈ bs) : k ≤ b.first := by
  induction bs generalizing k with
  | nil => cases hb
  | cons d bs ih =>
    simp only [isAscendingFrom, Bool.and_eq_true, decide_eq_true_eq] at h
    obtain ⟨⟨hfirst, hlast⟩, hrest⟩ := h
    rcases List.mem_cons.1 hb with rfl | hb
    · exact hfirst
    · have := ih hrest hb
      omega

/-- No two blocks hold the same number, so the first one found is the only one. -/
theorem find?_covers {k n : Nat} {bs : List Block} (h : isAscendingFrom k bs) {b : Block}
    (hb : b ∈ bs) (hn : b.covers n) : bs.find? (fun b => b.covers n) = some b := by
  induction bs generalizing k with
  | nil => cases hb
  | cons d bs ih =>
    simp only [isAscendingFrom, Bool.and_eq_true, decide_eq_true_eq] at h
    rcases List.mem_cons.1 hb with rfl | hb
    · exact List.find?_cons_of_pos hn
    · have hbehind := le_first_of_isAscendingFrom h.2 hb
      have hnot : ¬ d.covers n := by
        simp only [Block.covers, Bool.and_eq_true, decide_eq_true_eq] at hn ⊢
        omega
      rw [List.find?_cons_of_neg (by simpa using hnot), ih h.2 hb]

/-- The blocks ascend. -/
theorem isAscendingFrom_blocks : isAscendingFrom 0 blocks := by
  decide +kernel

/-- The block that covers a character says its category. -/
theorem category_eq {b : Block} (hb : b ∈ blocks) {c : Char} (hc : b.covers c.toNat) :
    category c = b.category := by
  rw [category, find?_covers isAscendingFrom_blocks hb hc]

/-- A character has the category of its block, or none of the six. -/
theorem exists_block (c : Char) :
    category c = .other ∨ ∃ b ∈ blocks, b.covers c.toNat ∧ category c = b.category := by
  rw [category]
  split
  · next b hfind =>
    exact .inr ⟨b, List.mem_of_find?_eq_some hfind, by simpa using List.find?_some hfind, rfl⟩
  · exact .inl rfl

/-- The ranges of the characters whose category satisfies `p`. -/
def rangesOf (p : Category → Bool) : List (Nat × Nat) :=
  (blocks.filter fun b => p b.category).map fun b => (b.first, b.last)

/-- A character is in the ranges of a condition just if its category satisfies it. -/
theorem inRanges_rangesOf {p : Category → Bool} (hp : p .other = false) (c : Char) :
    inRanges (rangesOf p) c.toNat = p (category c) := by
  have hiff : inRanges (rangesOf p) c.toNat ↔
      ∃ b ∈ blocks, p b.category ∧ b.covers c.toNat := by
    simp [inRanges, rangesOf, Block.covers]
  rw [Bool.eq_iff_iff, hiff]
  constructor
  · rintro ⟨b, hb, hcategory, hc⟩
    rwa [category_eq hb hc]
  · intro h
    rcases exists_block c with hother | ⟨b, hb, hc, hcategory⟩
    · rw [hother, hp] at h
      cases h
    · exact ⟨b, hb, by rwa [← hcategory], hc⟩

/-- The ranges from `k` on that lie between the blocks whose category satisfies `p`. -/
def gapsFrom (p : Category → Bool) : (k : Nat) → List Block → List (Nat × Nat)
  | k, [] => [(k, 0x10FFFF)]
  | k, b :: bs =>
    if p b.category then
      if k < b.first then (k, b.first - 1) :: gapsFrom p (b.last + 1) bs
      else gapsFrom p (b.last + 1) bs
    else gapsFrom p k bs

/-- A number is in a range just if it is in the first one or in another. -/
theorem inRanges_cons (r : Nat × Nat) (rs : List (Nat × Nat)) (n : Nat) :
    inRanges (r :: rs) n = (decide (r.1 ≤ n) && decide (n ≤ r.2) || inRanges rs n) := rfl

/-- No such block holds a number of a gap. -/
theorem not_covers_of_gap {p : Category → Bool} {j k n : Nat} {bs : List Block}
    (h : isAscendingFrom j bs) (hk : k ≤ j) (hn : inRanges (gapsFrom p k bs) n) :
    k ≤ n ∧ ∀ b ∈ bs, p b.category → ¬ b.covers n := by
  induction bs generalizing j k with
  | nil =>
    simp only [gapsFrom, inRanges_cons, Bool.or_eq_true, Bool.and_eq_true, decide_eq_true_eq] at hn
    refine ⟨?_, List.forall_mem_nil _⟩
    rcases hn with hn | hn
    · exact hn.1
    · cases hn
  | cons b bs ih =>
    simp only [isAscendingFrom, Bool.and_eq_true, decide_eq_true_eq] at h
    obtain ⟨⟨hfirst, hlast⟩, hrest⟩ := h
    rw [gapsFrom] at hn
    by_cases hp : p b.category
    · rw [if_pos hp] at hn
      -- The number lies in the gap in front of the block, or in a gap behind it.
      have hsides : k ≤ n ∧ n < b.first ∨ inRanges (gapsFrom p (b.last + 1) bs) n := by
        split at hn
        · rw [inRanges_cons, Bool.or_eq_true, Bool.and_eq_true, decide_eq_true_eq,
            decide_eq_true_eq] at hn
          refine hn.imp_left fun hn => ⟨hn.1, ?_⟩
          omega
        · exact .inr hn
      rcases hsides with ⟨hle, hlt⟩ | hbehind
      · refine ⟨hle, fun d hd _ hcovers => ?_⟩
        have hfrom : isAscendingFrom b.first (b :: bs) := by simp [isAscendingFrom, hlast, hrest]
        have hle := le_first_of_isAscendingFrom hfrom hd
        simp only [Block.covers, Bool.and_eq_true, decide_eq_true_eq] at hcovers
        omega
      · obtain ⟨hle, hnone⟩ := ih hrest (Nat.le_refl _) hbehind
        refine ⟨by omega, List.forall_mem_cons.2 ⟨fun _ hcovers => ?_, hnone⟩⟩
        simp only [Block.covers, Bool.and_eq_true, decide_eq_true_eq] at hcovers
        omega
    · rw [if_neg hp] at hn
      obtain ⟨hle, hnone⟩ := ih hrest (by omega) hn
      exact ⟨hle, List.forall_mem_cons.2 ⟨fun hcategory => absurd hcategory hp, hnone⟩⟩

/-- The ranges between the blocks whose category satisfies `p`. -/
def gaps (p : Category → Bool) : List (Nat × Nat) := gapsFrom p 0 blocks

/-- What lies between the blocks of a condition has no category that satisfies it. -/
theorem not_of_inRanges_gaps {p : Category → Bool} (hp : p .other = false) {c : Char}
    (h : inRanges (gaps p) c.toNat) : p (category c) = false := by
  rcases exists_block c with hother | ⟨b, hb, hc, hcategory⟩
  · rw [hother, hp]
  · rw [Bool.eq_false_iff, hcategory]
    intro hpb
    exact (not_covers_of_gap isAscendingFrom_blocks (Nat.le_refl 0) h).2 b hb hpb hc

/-- A range in front of others, as one with the first of them if no number lies between. -/
def consJoined (r : Nat × Nat) : List (Nat × Nat) → List (Nat × Nat)
  | [] => [r]
  | s :: ss => if r.1 ≤ s.1 ∧ s.1 ≤ r.2 + 1 then (r.1, max r.2 s.2) :: ss else r :: s :: ss

/-- Ranges with neighbours as one. -/
def joined (rs : List (Nat × Nat)) : List (Nat × Nat) := rs.foldr consJoined []

/-- Joining the first two ranges changes no number. -/
theorem inRanges_consJoined (r : Nat × Nat) (rs : List (Nat × Nat)) (n : Nat) :
    inRanges (consJoined r rs) n = inRanges (r :: rs) n := by
  cases rs with
  | nil => rfl
  | cons s ss =>
    rw [consJoined]
    split
    · next h =>
      simp only [inRanges_cons, ← Bool.or_assoc]
      congr 1
      rw [Bool.eq_iff_iff]
      simp only [Bool.and_eq_true, Bool.or_eq_true, decide_eq_true_eq]
      omega
    · rfl

/-- Joining ranges changes no number. -/
theorem inRanges_joined (rs : List (Nat × Nat)) (n : Nat) :
    inRanges (joined rs) n = inRanges rs n := by
  induction rs with
  | nil => rfl
  | cons r rs ih =>
    show inRanges (consJoined r (joined rs)) n = _
    rw [inRanges_consJoined, inRanges_cons, inRanges_cons, ih]

/-- Is each range of `rs` part of one of `ss`? Both go upwards, so what lies below a range is not
looked at again. -/
def isWithin : (rs ss : List (Nat × Nat)) → Bool
  | [], _ => true
  | r :: rs, ss =>
    match ss.dropWhile fun s => s.2 < r.1 with
    | [] => false
    | s :: ss => s.1 ≤ r.1 && r.2 ≤ s.2 && isWithin rs (s :: ss)

/-- What is in ranges is in all that they are within. -/
theorem inRanges_of_isWithin {rs ss : List (Nat × Nat)} (h : isWithin rs ss) {n : Nat}
    (hn : inRanges rs n) : inRanges ss n := by
  induction rs generalizing ss with
  | nil => cases hn
  | cons r rs ih =>
    have hsuffix : ∀ {ss' : List (Nat × Nat)}, ss' <:+ ss → inRanges ss' n → inRanges ss n := by
      intro ss' hss' hn
      obtain ⟨s, hs, hn⟩ := List.any_eq_true.1 hn
      exact List.any_eq_true.2 ⟨s, hss'.subset hs, hn⟩
    rw [isWithin] at h
    split at h
    · cases h
    · next s rest hdrop =>
      refine hsuffix (hdrop ▸ List.dropWhile_suffix _) ?_
      simp only [Bool.and_eq_true, decide_eq_true_eq] at h
      rw [inRanges_cons, Bool.or_eq_true, Bool.and_eq_true, decide_eq_true_eq,
        decide_eq_true_eq] at hn
      rcases hn with hn | hn
      · rw [inRanges_cons, Bool.or_eq_true, Bool.and_eq_true, decide_eq_true_eq, decide_eq_true_eq]
        exact .inl ⟨by omega, by omega⟩
      · exact ih h.2 hn

/-- The ASCII digits. -/
def asciiDigits : Nat × Nat := (0x30, 0x39)

/-- The ASCII letters. -/
def asciiLetters : List (Nat × Nat) := [(0x41, 0x5A), (0x61, 0x7A)]

/-- The tables that names are cleaned by against the table of categories. None of their ranges
begins in ASCII. -/
theorem tables_agree :
    joined (rangesOf fun k => k.isLetter || k.isNumber) ==
        asciiDigits :: asciiLetters ++ wordRanges ∧
      isWithin (rangesOf (· == .Nd)) (asciiDigits :: digitRanges) ∧
      (wordRanges.all fun r => 128 ≤ r.1) ∧ digitRanges.all fun r => 128 ≤ r.1 := by
  decide +kernel

/-- ASCII characters are digits and letters by their ranges, and lower case keeps to them. -/
theorem ascii_agree : ∀ n < 128,
    (Char.ofNat n).isAlphanum = inRanges (asciiDigits :: asciiLetters) (Char.ofNat n).toNat ∧
      (Char.ofNat n).isDigit = inRanges [asciiDigits] (Char.ofNat n).toNat ∧
      (inRanges [asciiDigits] (Char.ofNat n).toNat → (Char.ofNat n).toLower = Char.ofNat n) ∧
      (inRanges asciiLetters (Char.ofNat n).toNat →
        inRanges asciiLetters (Char.ofNat n).toLower.toNat) := by
  decide +kernel

/-- No ASCII number is in ranges above ASCII. -/
theorem not_inRanges_of_ascii {rs : List (Nat × Nat)} (h : rs.all fun r => 128 ≤ r.1) {n : Nat}
    (hn : n < 128) : inRanges rs n = false := by
  simp only [List.all_eq_true, decide_eq_true_eq] at h
  simp only [inRanges, List.any_eq_false, Bool.and_eq_true, decide_eq_true_eq]
  intro r hr
  have := h r hr
  omega

/-- ASCII digits are digits by their category. -/
theorem category_of_asciiDigits {c : Char} (h : inRanges [asciiDigits] c.toNat) :
    category c = .Nd := by
  have hmem : (⟨0x30, 0x39, .Nd⟩ : Block) ∈ blocks :=
    List.mem_append_left _ (List.mem_of_getElem? (i := 0) rfl)
  exact category_eq hmem (by simpa [inRanges, asciiDigits, Block.covers] using h)

/-- ASCII letters are letters by their category. -/
theorem category_of_asciiLetters {c : Char} (h : inRanges asciiLetters c.toNat) :
    category c = .L := by
  have hcapital : (⟨0x41, 0x5A, .L⟩ : Block) ∈ blocks :=
    List.mem_append_left _ (List.mem_of_getElem? (i := 1) rfl)
  have hsmall : (⟨0x61, 0x7A, .L⟩ : Block) ∈ blocks :=
    List.mem_append_left _ (List.mem_of_getElem? (i := 3) rfl)
  simp only [asciiLetters, inRanges_cons, Bool.or_eq_true] at h
  rcases h with h | h | h
  · exact category_eq hcapital h
  · exact category_eq hsmall h
  · cases h

section

variable {c : Char} (hc : c.toNat < 128)
include hc

/-- Among ASCII characters, digits and letters are those of their ranges. -/
theorem isAlphanum_of_ascii :
    c.isAlphanum = inRanges (asciiDigits :: asciiLetters) c.toNat :=
  ascii_of_forall (P := fun c => c.isAlphanum = inRanges (asciiDigits :: asciiLetters) c.toNat)
    (fun n hn => (ascii_agree n hn).1) hc

/-- Digits among them are those of their range. -/
theorem isDigit_of_ascii : c.isDigit = inRanges [asciiDigits] c.toNat :=
  ascii_of_forall (P := fun c => c.isDigit = inRanges [asciiDigits] c.toNat)
    (fun n hn => (ascii_agree n hn).2.1) hc

/-- ASCII digits have no lower case. -/
theorem toLower_of_asciiDigits (h : inRanges [asciiDigits] c.toNat) : c.toLower = c :=
  ascii_of_forall (P := fun c => inRanges [asciiDigits] c.toNat → c.toLower = c)
    (fun n hn => (ascii_agree n hn).2.2.1) hc h

/-- ASCII letters in lower case are ASCII letters. -/
theorem toLower_of_asciiLetters (h : inRanges asciiLetters c.toNat) :
    inRanges asciiLetters c.toLower.toNat :=
  ascii_of_forall (P := fun c => inRanges asciiLetters c.toNat →
    inRanges asciiLetters c.toLower.toNat) (fun n hn => (ascii_agree n hn).2.2.2) hc h

/-- The word characters of ASCII. -/
theorem ascii_cases (h : isWord c) :
    inRanges [asciiDigits] c.toNat ∨ inRanges asciiLetters c.toNat ∨ c = '_' := by
  rw [isWord, if_pos hc, isAlphanum_of_ascii hc, inRanges_cons, Bool.or_eq_true, Bool.or_eq_true,
    beq_iff_eq, or_assoc] at h
  exact h.imp_left fun hdigit => by rw [inRanges_cons, hdigit, Bool.true_or]

end

/-- The word characters are those of the ranges, and the underscore. -/
theorem isWord_eq_inRanges (c : Char) :
    isWord c = (inRanges (asciiDigits :: asciiLetters ++ wordRanges) c.toNat || c == '_') := by
  have htables : inRanges (asciiDigits :: asciiLetters ++ wordRanges) c.toNat =
      (inRanges (asciiDigits :: asciiLetters) c.toNat || inRanges wordRanges c.toNat) :=
    List.any_append
  rw [htables, isWord]
  by_cases hc : c.toNat < 128
  · rw [if_pos hc, not_inRanges_of_ascii tables_agree.2.2.1 hc, isAlphanum_of_ascii hc,
      Bool.or_false]
  · have hhigh : inRanges (asciiDigits :: asciiLetters) c.toNat = false := by
      simp [asciiDigits, asciiLetters, inRanges]
      omega
    have hunderscore : (c == '_') = false := by
      rw [beq_eq_false_iff_ne]
      rintro rfl
      exact hc (by decide)
    rw [if_neg hc, hhigh, hunderscore, Bool.false_or, Bool.or_false]

/-- The digits are those of the ranges. -/
theorem isDigit_eq_inRanges (c : Char) :
    isDigit c = inRanges (asciiDigits :: digitRanges) c.toNat := by
  rw [isDigit, inRanges_cons]
  by_cases hc : c.toNat < 128
  · rw [if_pos hc, not_inRanges_of_ascii tables_agree.2.2.2 hc]
    exact isDigit_of_ascii hc
  · have hhigh : ¬ c.toNat ≤ asciiDigits.2 := fun h => hc (Nat.lt_of_le_of_lt h (by decide))
    rw [if_neg hc]
    simp [hhigh]

/-- **Word characters are letters, numbers and the underscore.** -/
theorem isWord_eq (c : Char) :
    isWord c = ((category c).isLetter || (category c).isNumber || c == '_') := by
  rw [isWord_eq_inRanges, ← eq_of_beq tables_agree.1, inRanges_joined, inRanges_rangesOf rfl]

/-- Every letter is a word character. -/
theorem isWord_of_isLetter {c : Char} (h : (category c).isLetter) : isWord c := by
  rw [isWord_eq, h]
  rfl

/-- So is every number. -/
theorem isWord_of_isNumber {c : Char} (h : (category c).isNumber) : isWord c := by
  rw [isWord_eq, h, Bool.or_true]
  rfl

/-- **Decimal digits are digits.** -/
theorem isDigit_of_category {c : Char} (h : category c = .Nd) : isDigit c := by
  rw [isDigit_eq_inRanges]
  refine inRanges_of_isWithin tables_agree.2.1 ?_
  rw [inRanges_rangesOf rfl, h]
  rfl

/-- The circled capital letters, which have a case and are no letters. -/
def circledRange : Nat × Nat := (0x24B6, 0x24CF)

/-- Where a run of lower case leads to. -/
def CaseRun.target (r : CaseRun) : Nat × Nat :=
  (((r.first : Int) + r.shift).toNat, ((r.last : Int) + r.shift).toNat)

/-- Where the runs of lower case lead to, all but that of the circled letters. -/
def loweredRanges : List (Nat × Nat) :=
  joined (((lowerRuns.filter fun r => r.first != circledRange.1).map CaseRun.target).insertionSort
    fun r s => r.1 ≤ s.1)

/-- The runs lead to letters. The circled letters are none, and no run starts from a number. -/
theorem lowerRuns_agree :
    isWithin loweredRanges (joined (rangesOf Category.isLetter)) ∧
      (loweredRanges.all fun r => r.2 < 0xD800 || 0xDFFF < r.1 && r.2 < 0x110000) ∧
      (lowerRuns.all fun r => r.first != circledRange.1 || r.last == circledRange.2) ∧
      isWithin [circledRange] (gaps Category.isLetter) ∧
      isWithin (lowerRuns.map fun r => (r.first, r.last)) (gaps Category.isNumber) := by
  decide +kernel

/-- What lower case leads to, the circled letters aside, is a letter. -/
theorem isLetter_of_mem_loweredRanges {m : Nat} (h : inRanges loweredRanges m) :
    (category (Char.ofNat m)).isLetter := by
  have hnumber : (Char.ofNat m).toNat = m := by
    have hvalid := lowerRuns_agree.2.1
    simp only [inRanges, List.any_eq_true, Bool.and_eq_true, decide_eq_true_eq] at h
    obtain ⟨r, hr, hm⟩ := h
    simp only [List.all_eq_true, Bool.or_eq_true, Bool.and_eq_true, decide_eq_true_eq] at hvalid
    have hr := hvalid r hr
    have hm : m.isValidChar := by
      rw [Nat.isValidChar]
      omega
    rw [Char.ofNat, dif_pos hm]
    rfl
  have hrange := inRanges_of_isWithin lowerRuns_agree.1 h
  rwa [inRanges_joined, ← hnumber, inRanges_rangesOf rfl] at hrange

/-- A character with a lower case that is not circled is led into the ranges for it. -/
theorem inRanges_loweredRanges {r : CaseRun} (hr : r ∈ lowerRuns)
    (hcircled : r.first ≠ circledRange.1) {n : Nat} (hn : r.covers n) :
    inRanges loweredRanges ((n : Int) + r.shift).toNat := by
  have hsorted : ∀ {rs : List (Nat × Nat)} {m : Nat}, inRanges rs m →
      inRanges (rs.insertionSort fun r s => r.1 ≤ s.1) m := by
    intro rs m hm
    rw [inRanges, (List.perm_insertionSort _ rs).any_eq]
    exact hm
  have hkept : r ∈ lowerRuns.filter fun r => r.first != circledRange.1 :=
    List.mem_filter.2 ⟨hr, by simpa using hcircled⟩
  rw [loweredRanges, inRanges_joined]
  refine hsorted (List.any_eq_true.2 ⟨r.target, List.mem_map_of_mem hkept, ?_⟩)
  simp only [CaseRun.covers, Bool.and_eq_true, decide_eq_true_eq] at hn
  simp only [Bool.and_eq_true, decide_eq_true_eq]
  simp only [CaseRun.target]
  omega

/-- A run leads to a letter, unless it is the one of the circled letters. -/
theorem isLetter_shiftBy {c : Char} (h : (category c).isLetter) :
    (category (shiftBy lowerRuns c)).isLetter := by
  rw [shiftBy]
  split
  · next r hfind =>
    have hr := List.mem_of_find?_eq_some hfind
    have hcovers : r.covers c.toNat := by simpa using List.find?_some hfind
    refine isLetter_of_mem_loweredRanges (inRanges_loweredRanges hr ?_ hcovers)
    intro hfirst
    have hlast := List.all_eq_true.1 lowerRuns_agree.2.2.1 r hr
    simp only [hfirst, bne_self_eq_false, Bool.false_or, beq_iff_eq] at hlast
    simp only [CaseRun.covers, Bool.and_eq_true, decide_eq_true_eq] at hcovers
    have hgap : inRanges (gaps Category.isLetter) c.toNat := by
      refine inRanges_of_isWithin lowerRuns_agree.2.2.2.1 ?_
      simp [inRanges, ← hfirst, ← hlast, hcovers.1]
    rw [not_of_inRanges_gaps rfl hgap] at h
    cases h
  · exact h

/-- No run starts from a number. -/
theorem shiftBy_of_isNumber {c : Char} (h : (category c).isNumber) : shiftBy lowerRuns c = c := by
  rw [shiftBy]
  split
  · next r hfind =>
    have hcovers : r.covers c.toNat := by simpa using List.find?_some hfind
    simp only [CaseRun.covers, Bool.and_eq_true, decide_eq_true_eq] at hcovers
    have hrun : inRanges (lowerRuns.map fun r => (r.first, r.last)) c.toNat := by
      refine List.any_eq_true.2 ⟨_, List.mem_map_of_mem (List.mem_of_find?_eq_some hfind), ?_⟩
      simpa using hcovers.1
    have hgap := inRanges_of_isWithin lowerRuns_agree.2.2.2.2 hrun
    rw [not_of_inRanges_gaps rfl hgap] at h
    cases h
  · rfl

/-- **A number has no case.** -/
theorem lowerChar_of_isNumber {c : Char} (h : (category c).isNumber) : lowerChar c = [c] := by
  rw [lowerChar]
  split
  · next hc =>
    rcases ascii_cases hc (isWord_of_isNumber h) with hdigit | hletter | rfl
    · rw [toLower_of_asciiDigits hc hdigit]
    · rw [category_of_asciiLetters hletter] at h
      cases h
    · rw [category_named.1] at h
      cases h
  · split
    · next hc =>
      subst hc
      rw [category_named.2.1] at h
      cases h
    · rw [shiftBy_of_isNumber h]

/-- **A letter becomes a letter,** perhaps with a mark behind it. -/
theorem lowerChar_of_isLetter {c : Char} (h : (category c).isLetter) :
    ∃ d ds, lowerChar c = d :: ds ∧ (category d).isLetter ∧ ∀ e ∈ ds, category e = .M := by
  rw [lowerChar]
  split
  · next hc =>
    refine ⟨_, [], rfl, ?_, List.forall_mem_nil _⟩
    rcases ascii_cases hc (isWord_of_isLetter h) with hdigit | hletter | rfl
    · rw [category_of_asciiDigits hdigit] at h
      cases h
    · rw [category_of_asciiLetters (toLower_of_asciiLetters hc hletter)]
      rfl
    · rw [category_named.1] at h
      cases h
  · split
    · refine ⟨'i', ['\u0307'], rfl, ?_, List.forall_mem_singleton.2 category_named.2.2.2.1⟩
      rw [category_named.2.2.1]
      rfl
    · exact ⟨_, [], rfl, isLetter_shiftBy h, List.forall_mem_nil _⟩

/-- **Lower case, character by character:** a word character stays, or it is a letter and what it
becomes begins with a letter. -/
theorem lowerFrom_cons {c : Char} (hc : isWord c) (before t : Text) :
    ∃ piece, lowerFrom before (c :: t) = piece ++ lowerFrom (c :: before) t ∧
      (piece = [c] ∨ (category c).isLetter ∧
        ∃ d ds, piece = d :: ds ∧ (category d).isLetter ∧ ∀ e ∈ ds, category e = .M) := by
  refine ⟨_, rfl, ?_⟩
  rw [isWord_eq, Bool.or_eq_true, Bool.or_eq_true, beq_iff_eq] at hc
  rcases hc with (hletter | hnumber) | rfl
  · refine .inr ⟨hletter, ?_⟩
    split
    · -- the two forms of a small sigma
      refine ⟨_, [], rfl, ?_, List.forall_mem_nil _⟩
      split
      · rw [category_named.2.2.2.2.2.1]
        rfl
      · rw [category_named.2.2.2.2.2.2]
        rfl
    · exact lowerChar_of_isLetter hletter
  · refine .inl ?_
    split
    · next hsigma =>
      subst hsigma
      rw [category_named.2.2.2.2.1] at hnumber
      cases hnumber
    · exact lowerChar_of_isNumber hnumber
  · exact .inl rfl

end Text
end Tablesmith
