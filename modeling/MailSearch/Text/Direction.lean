import MailSearch.Text.Mark

/-! The directions in which characters are written, among those that names of hosts may hold, and when
a text that is written from right to left can be told apart from what stands around it. -/

namespace MailSearch.Text

inductive Direction where
  | leftToRight
  | rightToLeft
  | arabicNumber
  | europeanNumber
  | mark
  | neutral
  deriving DecidableEq, Repr

/-- Letters of the scripts that are written from right to left. -/
def rightToLeftChars : CharSet := ⟨[
  0x5D0, 0x5EB, 0x5EF, 0x5F5, 0x620, 0x640, 0x641, 0x64B, 0x66E, 0x670, 0x671, 0x675, 0x679,
  0x6D4, 0x6D5, 0x6D6, 0x6E5, 0x6E7, 0x6EE, 0x6F0, 0x6FA, 0x700, 0x710, 0x711, 0x712, 0x730,
  0x74D, 0x7A6, 0x7B1, 0x7B2, 0x7C0, 0x7EB, 0x7F4, 0x7F6, 0x800, 0x816, 0x81A, 0x81B, 0x824,
  0x825, 0x828, 0x829, 0x840, 0x859, 0x860, 0x86B, 0x870, 0x888, 0x889, 0x88F, 0x8A0, 0x8CA,
  0xFE73, 0xFE74, 0x10800, 0x10806, 0x10808, 0x10809, 0x1080A, 0x10836, 0x10837, 0x10839, 0x1083C,
  0x1083D, 0x1083F, 0x10856, 0x10860, 0x10877, 0x10880, 0x1089F, 0x108E0, 0x108F3, 0x108F4,
  0x108F6, 0x10900, 0x10916, 0x10920, 0x1093A, 0x10980, 0x109B8, 0x109BE, 0x109C0, 0x10A00,
  0x10A01, 0x10A10, 0x10A14, 0x10A15, 0x10A18, 0x10A19, 0x10A36, 0x10A60, 0x10A7D, 0x10A80,
  0x10A9D, 0x10AC0, 0x10AC8, 0x10AC9, 0x10AE5, 0x10B00, 0x10B36, 0x10B40, 0x10B56, 0x10B60,
  0x10B73, 0x10B80, 0x10B92, 0x10C00, 0x10C49, 0x10CC0, 0x10CF3, 0x10D00, 0x10D24, 0x10E80,
  0x10EAA, 0x10EB0, 0x10EB2, 0x10F00, 0x10F1D, 0x10F27, 0x10F28, 0x10F30, 0x10F46, 0x10F70,
  0x10F82, 0x10FB0, 0x10FC5, 0x10FE0, 0x10FF7, 0x1E800, 0x1E8C5, 0x1E922, 0x1E944, 0x1E94B,
  0x1E94C, 0x1E950, 0x1E95A]⟩

/-- Digits that are written with Arabic letters. -/
def arabicNumbers : CharSet := ⟨[
  0x660, 0x66A, 0x10D30, 0x10D3A]⟩

/-- Digits that keep their direction among other letters. -/
def europeanNumbers : CharSet := ⟨[
  0x30, 0x3A, 0x6F0, 0x6FA]⟩

/-- Signs that take their direction from what stands around them. -/
def neutralChars : CharSet := ⟨[
  0x2D, 0x2E, 0xB7, 0xB8, 0x2B9, 0x2BB, 0x2C6, 0x2D0, 0x2EC, 0x2ED, 0x375, 0x376, 0x200C, 0x200E,
  0x2E2F, 0x2E30, 0x30FB, 0x30FC, 0xA67F, 0xA680, 0xA717, 0xA720, 0xA788, 0xA789]⟩

/-- Marks that have a direction of their own although they take no room. -/
def directedMarks : List Nat := [0xCBF, 0xCC6, 0x11A07, 0x11A08, 0x11C3F]

def direction (c : Char) : Direction :=
  if rightToLeftChars.contains c then .rightToLeft
  else if arabicNumbers.contains c then .arabicNumber
  else if europeanNumbers.contains c then .europeanNumber
  else if nonspacingMarks.contains c && !directedMarks.contains c.toNat then .mark
  else if neutralChars.contains c then .neutral
  else .leftToRight

def Direction.isRightward (direction : Direction) : Bool :=
  direction == .rightToLeft || direction == .arabicNumber

/-- Whether a text may end in a character of this direction, marks on it aside. -/
def Direction.ends (direction : Direction) : Bool := direction.isRightward || direction == .europeanNumber

/-- Whether directions follow each other as they may. Where one of them runs from right to left, the
text begins with such a letter, has none that runs the other way and numbers of one kind only, and ends
in a letter or a number. -/
def areAligned (directions : List Direction) : Bool :=
  !directions.any Direction.isRightward ||
    (directions.head? == some .rightToLeft && !directions.contains .leftToRight &&
      !(directions.contains .arabicNumber && directions.contains .europeanNumber) &&
      (((directions.filter (· != .mark)).getLast?).map Direction.ends).getD false)

end MailSearch.Text
