import Subscription.Text.Mark

/-!
# Letters that join

In cursive scripts a letter joins the one in front of it, the one behind it, or both. A character
that is transparent stands between two letters without keeping them apart. `Joining.of` is the
joining type of a character, for the characters that can stand in the name of a host.
-/

namespace Subscription

/-- Which neighbours a character joins. -/
inductive Joining where
  /-- Only the one behind it. -/
  | left
  /-- Only the one in front of it. -/
  | right
  /-- Both. -/
  | dual
  /-- It joins none, but lets its neighbours join. -/
  | transparent
  /-- None. -/
  | separate
  deriving DecidableEq, Repr

namespace Joining

/-- Ranges of code points that join others. What can not stand in a name is not told apart. -/
def ranges : List (Nat × Nat × Joining) :=
  [(0x0620, 0x0620, .dual), (0x0622, 0x0625, .right), (0x0626, 0x0626, .dual),
   (0x0627, 0x0627, .right), (0x0628, 0x0628, .dual), (0x0629, 0x0629, .right),
   (0x062A, 0x062E, .dual), (0x062F, 0x0632, .right), (0x0633, 0x063F, .dual),
   (0x0641, 0x0647, .dual), (0x0648, 0x0648, .right), (0x0649, 0x064A, .dual),
   (0x066E, 0x066F, .dual), (0x0671, 0x0673, .right), (0x0679, 0x0687, .dual),
   (0x0688, 0x0699, .right), (0x069A, 0x06BF, .dual), (0x06C0, 0x06C0, .right),
   (0x06C1, 0x06C2, .dual), (0x06C3, 0x06CB, .right), (0x06CC, 0x06CC, .dual),
   (0x06CD, 0x06CD, .right), (0x06CE, 0x06CE, .dual), (0x06CF, 0x06CF, .right),
   (0x06D0, 0x06D1, .dual), (0x06D2, 0x06D3, .right), (0x06D5, 0x06D5, .right),
   (0x06EE, 0x06EF, .right), (0x06FA, 0x06FC, .dual), (0x06FF, 0x06FF, .dual),
   (0x0710, 0x0710, .right), (0x0712, 0x0714, .dual), (0x0715, 0x0719, .right),
   (0x071A, 0x071D, .dual), (0x071E, 0x071E, .right), (0x071F, 0x0727, .dual),
   (0x0728, 0x0728, .right), (0x0729, 0x0729, .dual), (0x072A, 0x072A, .right),
   (0x072B, 0x072B, .dual), (0x072C, 0x072C, .right), (0x072D, 0x072E, .dual),
   (0x072F, 0x072F, .right), (0x074D, 0x074D, .right), (0x074E, 0x0758, .dual),
   (0x0759, 0x075B, .right), (0x075C, 0x076A, .dual), (0x076B, 0x076C, .right),
   (0x076D, 0x0770, .dual), (0x0771, 0x0771, .right), (0x0772, 0x0772, .dual),
   (0x0773, 0x0774, .right), (0x0775, 0x0777, .dual), (0x0778, 0x0779, .right),
   (0x077A, 0x077F, .dual), (0x07CA, 0x07EA, .dual), (0x0840, 0x0840, .right),
   (0x0841, 0x0845, .dual), (0x0846, 0x0847, .right), (0x0848, 0x0848, .dual),
   (0x0849, 0x0849, .right), (0x084A, 0x0853, .dual), (0x0854, 0x0854, .right),
   (0x0855, 0x0855, .dual), (0x0856, 0x0858, .right), (0x0860, 0x0860, .dual),
   (0x0862, 0x0865, .dual), (0x0867, 0x0867, .right), (0x0868, 0x0868, .dual),
   (0x0869, 0x0882, .right), (0x0886, 0x0886, .dual), (0x0889, 0x088D, .dual),
   (0x088E, 0x088E, .right), (0x088F, 0x088F, .dual), (0x08A0, 0x08A9, .dual),
   (0x08AA, 0x08AC, .right), (0x08AE, 0x08AE, .right), (0x08AF, 0x08B0, .dual),
   (0x08B1, 0x08B2, .right), (0x08B3, 0x08B8, .dual), (0x08B9, 0x08B9, .right),
   (0x08BA, 0x08C8, .dual), (0x1807, 0x1807, .dual), (0x1820, 0x1878, .dual),
   (0x1887, 0x18A8, .dual), (0x18AA, 0x18AA, .dual), (0xA840, 0xA871, .dual),
   (0xA872, 0xA872, .left), (0x10AC0, 0x10AC4, .dual), (0x10AC5, 0x10AC5, .right),
   (0x10AC7, 0x10AC7, .right), (0x10AC9, 0x10ACA, .right), (0x10ACD, 0x10ACD, .left),
   (0x10ACE, 0x10AD2, .right), (0x10AD3, 0x10AD6, .dual), (0x10AD7, 0x10AD7, .left),
   (0x10AD8, 0x10ADC, .dual), (0x10ADD, 0x10ADD, .right), (0x10ADE, 0x10AE0, .dual),
   (0x10AE1, 0x10AE1, .right), (0x10AE4, 0x10AE4, .right), (0x10AEB, 0x10AEE, .dual),
   (0x10AEF, 0x10AEF, .right), (0x10B80, 0x10B80, .dual), (0x10B81, 0x10B81, .right),
   (0x10B82, 0x10B82, .dual), (0x10B83, 0x10B85, .right), (0x10B86, 0x10B88, .dual),
   (0x10B89, 0x10B89, .right), (0x10B8A, 0x10B8B, .dual), (0x10B8C, 0x10B8C, .right),
   (0x10B8D, 0x10B8D, .dual), (0x10B8E, 0x10B8F, .right), (0x10B90, 0x10B90, .dual),
   (0x10B91, 0x10B91, .right), (0x10BA9, 0x10BAC, .right), (0x10BAD, 0x10BAE, .dual),
   (0x10D00, 0x10D00, .left), (0x10D01, 0x10D21, .dual), (0x10D22, 0x10D22, .right),
   (0x10D23, 0x10D23, .dual), (0x10EC2, 0x10EC2, .right), (0x10EC3, 0x10EC4, .dual),
   (0x10EC6, 0x10EC7, .dual), (0x10F30, 0x10F32, .dual), (0x10F33, 0x10F33, .right),
   (0x10F34, 0x10F44, .dual), (0x10F51, 0x10F53, .dual), (0x10F54, 0x10F54, .right),
   (0x10F70, 0x10F73, .dual), (0x10F74, 0x10F75, .right), (0x10F76, 0x10F81, .dual),
   (0x10FB0, 0x10FB0, .dual), (0x10FB2, 0x10FB3, .dual), (0x10FB4, 0x10FB6, .right),
   (0x10FB8, 0x10FB8, .dual), (0x10FB9, 0x10FBA, .right), (0x10FBB, 0x10FBC, .dual),
   (0x10FBD, 0x10FBD, .right), (0x10FBE, 0x10FBF, .dual), (0x10FC1, 0x10FC1, .dual),
   (0x10FC2, 0x10FC3, .right), (0x10FC4, 0x10FC4, .dual), (0x10FC9, 0x10FC9, .right),
   (0x10FCA, 0x10FCA, .dual), (0x10FCB, 0x10FCB, .left), (0x1E922, 0x1E943, .dual)]

/-- The nasalization mark of Adlam, the only transparent character that is no mark. -/
def nasalization : Char := Char.ofNat 0x1E94B

/-- Which neighbours a character joins. -/
def of (c : Char) : Joining :=
  match ranges.find? fun (first, last, _) => first ≤ c.toNat && c.toNat ≤ last with
  | some (_, _, joining) => joining
  | none => if isNonspacingMark c || c = nasalization then .transparent else .separate

/-- Whether a letter joins the one behind it. -/
def joinsBehind (joining : Joining) : Bool := joining = .left || joining = .dual

/-- Whether a letter joins the one in front of it. -/
def joinsInFront (joining : Joining) : Bool := joining = .right || joining = .dual

end Joining

end Subscription
