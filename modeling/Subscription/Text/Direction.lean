import Subscription.Text.Mark

/-!
# The direction of characters

The characters of most scripts run from left to right, and those of some from right to left. Digits,
separators and other signs take part in either. `Direction.of` is the class of a character under the
bidirectional algorithm of Unicode, for the characters that can stand in the name of a host.
-/

namespace Subscription

/-- How a character runs. -/
inductive Direction where
  | leftToRight
  | rightToLeft
  | arabicLetter
  | arabicNumber
  | europeanNumber
  | europeanSeparator
  | europeanTerminator
  | commonSeparator
  | nonspacingMark
  | boundaryNeutral
  | otherNeutral
  deriving DecidableEq, Repr

namespace Direction

/-- Ranges of code points that do not run from left to right, nonspacing marks apart. What can not
stand in a name is not told apart. -/
def ranges : List (Nat × Nat × Direction) :=
  [(0x0021, 0x0022, .otherNeutral), (0x0023, 0x0025, .europeanTerminator),
   (0x0026, 0x002A, .otherNeutral), (0x002B, 0x002B, .europeanSeparator),
   (0x002C, 0x002C, .commonSeparator), (0x002D, 0x002D, .europeanSeparator),
   (0x002E, 0x002F, .commonSeparator), (0x0030, 0x0039, .europeanNumber),
   (0x003A, 0x003A, .commonSeparator), (0x003B, 0x0060, .otherNeutral),
   (0x007B, 0x00A1, .otherNeutral), (0x00A2, 0x00A5, .europeanTerminator),
   (0x00A6, 0x00AE, .otherNeutral), (0x00B0, 0x00B1, .europeanTerminator),
   (0x00B6, 0x00D7, .otherNeutral), (0x00F7, 0x00F7, .otherNeutral),
   (0x02B9, 0x02BA, .otherNeutral), (0x02C2, 0x02CF, .otherNeutral),
   (0x02D2, 0x02ED, .otherNeutral), (0x02EF, 0x02FF, .otherNeutral),
   (0x0375, 0x0375, .otherNeutral), (0x03F6, 0x03F6, .otherNeutral),
   (0x058A, 0x058E, .otherNeutral), (0x058F, 0x058F, .europeanTerminator),
   (0x05BE, 0x05F4, .rightToLeft), (0x0606, 0x0607, .otherNeutral), (0x0608, 0x0608, .arabicLetter),
   (0x0609, 0x060A, .europeanTerminator), (0x060B, 0x060B, .arabicLetter),
   (0x060C, 0x060C, .commonSeparator), (0x060D, 0x060D, .arabicLetter),
   (0x060E, 0x060F, .otherNeutral), (0x061B, 0x064A, .arabicLetter),
   (0x0660, 0x0669, .arabicNumber), (0x066A, 0x066A, .europeanTerminator),
   (0x066B, 0x066C, .arabicNumber), (0x066D, 0x06D5, .arabicLetter),
   (0x06DE, 0x06DE, .otherNeutral), (0x06E5, 0x06E6, .arabicLetter),
   (0x06E9, 0x06E9, .otherNeutral), (0x06EE, 0x06EF, .arabicLetter),
   (0x06F0, 0x06F9, .europeanNumber), (0x06FA, 0x07B1, .arabicLetter),
   (0x07C0, 0x07F5, .rightToLeft), (0x07F6, 0x07F9, .otherNeutral), (0x07FA, 0x085E, .rightToLeft),
   (0x0860, 0x08C9, .arabicLetter), (0x09F2, 0x09F3, .europeanTerminator),
   (0x09FB, 0x09FB, .europeanTerminator), (0x0AF1, 0x0AF1, .europeanTerminator),
   (0x0BF3, 0x0BF8, .otherNeutral), (0x0BF9, 0x0BF9, .europeanTerminator),
   (0x0BFA, 0x0BFA, .otherNeutral), (0x0C78, 0x0C7E, .otherNeutral),
   (0x0E3F, 0x0E3F, .europeanTerminator), (0x0F3A, 0x0F3D, .otherNeutral),
   (0x1390, 0x1399, .otherNeutral), (0x1400, 0x1400, .otherNeutral),
   (0x169B, 0x169C, .otherNeutral), (0x17DB, 0x17DB, .europeanTerminator),
   (0x17F0, 0x180A, .otherNeutral), (0x1940, 0x1945, .otherNeutral),
   (0x19DE, 0x19FF, .otherNeutral), (0x200C, 0x200D, .boundaryNeutral),
   (0x2010, 0x2027, .otherNeutral), (0x2030, 0x2032, .europeanTerminator),
   (0x2035, 0x2043, .otherNeutral), (0x2044, 0x2044, .commonSeparator),
   (0x2045, 0x205E, .otherNeutral), (0x20A0, 0x20C1, .europeanTerminator),
   (0x2104, 0x2129, .otherNeutral), (0x212E, 0x212E, .europeanTerminator),
   (0x213A, 0x214D, .otherNeutral), (0x218A, 0x2211, .otherNeutral),
   (0x2212, 0x2212, .europeanSeparator), (0x2213, 0x2213, .europeanTerminator),
   (0x2214, 0x2335, .otherNeutral), (0x237B, 0x2394, .otherNeutral),
   (0x2396, 0x26AB, .otherNeutral), (0x26AD, 0x27FF, .otherNeutral),
   (0x2900, 0x2BFF, .otherNeutral), (0x2CE5, 0x2CEA, .otherNeutral),
   (0x2CF9, 0x2CFF, .otherNeutral), (0x2E00, 0x3004, .otherNeutral),
   (0x3008, 0x3020, .otherNeutral), (0x3030, 0x3030, .otherNeutral),
   (0x3037, 0x3037, .otherNeutral), (0x303D, 0x303F, .otherNeutral),
   (0x30A0, 0x30A0, .otherNeutral), (0x30FB, 0x30FB, .otherNeutral),
   (0x31C0, 0x31E5, .otherNeutral), (0x4DC0, 0x4DFF, .otherNeutral),
   (0xA490, 0xA4C6, .otherNeutral), (0xA60D, 0xA60F, .otherNeutral),
   (0xA673, 0xA67F, .otherNeutral), (0xA700, 0xA721, .otherNeutral),
   (0xA788, 0xA788, .otherNeutral), (0xA828, 0xA82B, .otherNeutral),
   (0xA838, 0xA839, .europeanTerminator), (0xA874, 0xA877, .otherNeutral),
   (0xAB6A, 0xAB6B, .otherNeutral), (0xFBB2, 0xFBC2, .arabicLetter),
   (0xFBC3, 0xFE46, .otherNeutral), (0xFE73, 0xFE73, .arabicLetter),
   (0x10101, 0x10101, .otherNeutral), (0x10140, 0x1018C, .otherNeutral),
   (0x10190, 0x101A0, .otherNeutral), (0x102E1, 0x102FB, .europeanNumber),
   (0x10800, 0x1091B, .rightToLeft), (0x1091F, 0x1091F, .otherNeutral),
   (0x10920, 0x10B35, .rightToLeft), (0x10B39, 0x10B3F, .otherNeutral),
   (0x10B40, 0x10CFF, .rightToLeft), (0x10D00, 0x10D23, .arabicLetter),
   (0x10D30, 0x10D39, .arabicNumber), (0x10D40, 0x10D4F, .rightToLeft),
   (0x10D6E, 0x10D6E, .otherNeutral), (0x10D6F, 0x10D8F, .rightToLeft),
   (0x10E60, 0x10E7E, .arabicNumber), (0x10E80, 0x10EB1, .rightToLeft),
   (0x10EC2, 0x10EC7, .arabicLetter), (0x10ED0, 0x10ED8, .otherNeutral),
   (0x10F00, 0x10F27, .rightToLeft), (0x10F30, 0x10F59, .arabicLetter),
   (0x10F70, 0x10FF6, .rightToLeft), (0x11052, 0x11065, .otherNeutral),
   (0x11660, 0x1166C, .otherNeutral), (0x11FD5, 0x11FDC, .otherNeutral),
   (0x11FDD, 0x11FE0, .europeanTerminator), (0x11FE1, 0x11FF1, .otherNeutral),
   (0x16FE2, 0x16FE2, .otherNeutral), (0x1CC00, 0x1CEF0, .otherNeutral),
   (0x1D1E9, 0x1D245, .otherNeutral), (0x1D300, 0x1D356, .otherNeutral),
   (0x1E2FF, 0x1E2FF, .europeanTerminator), (0x1E800, 0x1E95F, .rightToLeft),
   (0x1EC71, 0x1ED3D, .arabicLetter), (0x1EEF0, 0x1F12F, .otherNeutral),
   (0x1F16D, 0x1F16F, .otherNeutral), (0x1F1AD, 0x1F1AD, .otherNeutral),
   (0x1F260, 0x1FBFA, .otherNeutral)]

/-- The nonspacing marks that run from left to right as letters do. -/
def letterlikeMarks : CodeRanges :=
  [(0x0CBF, 0x0CBF), (0x0CC6, 0x0CC6), (0x11A07, 0x11A08), (0x11C3F, 0x11C3F)]

/-- The direction of a character. -/
def of (c : Char) : Direction :=
  if isNonspacingMark c && !letterlikeMarks.contains c then .nonspacingMark
  else
    match ranges.find? fun (first, last, _) => first ≤ c.toNat && c.toNat ≤ last with
    | some (_, _, direction) => direction
    | none => .leftToRight

end Direction

end Subscription
